import OverlayStore.Proofs.Bytes
import OverlayStore.Value.Factory

/-!
# Frames are the bytes of values

The byte strings that can be read as frames are the bytes of the frames whose payload is short
enough (`Frame.parse_eq_ok_iff`), so that writing and reading are inverse to each other. Reading
through the factories gives back every value that has a payload, and the empty value for every frame
that has none (`Value.framing_is_exact`).
-/

namespace OverlayStore

namespace Frame

/-- The length of the payload as the bytes of a frame declare it. -/
def declaredLength (bytes : Bytes) : Nat :=
  Bytes.number ((bytes.drop 6).take 2)

variable {bytes : Bytes} {frame : Frame}

/-! ## The length field -/

/-- The length of a short payload can be read back from its two bytes. -/
theorem number_lengthBytes {length : Nat} (h : length ≤ maxPayload) :
    Bytes.number (lengthBytes length) = length := by
  -- the first byte has room for the whole quotient
  have hhigh : length / 256 < 256 := by
    unfold maxPayload at h
    omega
  simp only [Bytes.number, lengthBytes, List.foldl, UInt8.toNat_ofNat', Nat.reducePow]
  omega

/-- Two bytes are those of the length that they denote. -/
theorem lengthBytes_number (high low : UInt8) :
    lengthBytes (Bytes.number [high, low]) = [high, low] := by
  have hhigh := high.toNat_lt
  have hlow := low.toNat_lt
  simp only [Bytes.number, lengthBytes, List.foldl, List.cons.injEq, ← UInt8.toNat_inj,
    UInt8.toNat_ofNat', Nat.reducePow, and_true]
  omega

theorem number_pair_le (high low : UInt8) : Bytes.number [high, low] ≤ maxPayload := by
  have hhigh := high.toNat_lt
  have hlow := low.toNat_lt
  simp only [Bytes.number, List.foldl, maxPayload]
  omega

/-! ## Reading frames -/

/-- Reading bytes that have a header. -/
theorem parse_cons (c0 c1 c2 c3 major minor high low : UInt8) (payload : Bytes) :
    parse (c0 :: c1 :: c2 :: c3 :: major :: minor :: high :: low :: payload) =
      if payload.length = Bytes.number [high, low] then
        .ok ⟨Bytes.word32 c0 c1 c2 c3, ⟨major, minor⟩, payload⟩
      else .error (.wrongLength (Bytes.number [high, low]) payload.length) := by
  simp [parse, Bytes.number]

/-- Eight bytes are a header. -/
theorem exists_header (h : 8 ≤ bytes.length) :
    ∃ c0 c1 c2 c3 major minor high low payload,
      bytes = c0 :: c1 :: c2 :: c3 :: major :: minor :: high :: low :: payload := by
  rcases bytes with _ | ⟨c0, _ | ⟨c1, _ | ⟨c2, _ | ⟨c3, _ | ⟨major, _ | ⟨minor, _ | ⟨high, _ |
    ⟨low, payload⟩⟩⟩⟩⟩⟩⟩⟩
  case cons.cons.cons.cons.cons.cons.cons.cons =>
    exact ⟨c0, c1, c2, c3, major, minor, high, low, payload, rfl⟩
  -- all other lists are too short
  all_goals simp at h

/-- What can be read as a frame has a header. -/
theorem length_of_parse (h : parse bytes = .ok frame) : 8 ≤ bytes.length := by
  unfold parse at h
  split at h
  · simp
  · cases h

/-- Reading succeeds where there is a header and the length that it declares is the length of the
rest. -/
theorem exists_parse_iff : (∃ frame, parse bytes = .ok frame) ↔
    8 ≤ bytes.length ∧ declaredLength bytes = bytes.length - 8 := by
  by_cases hheader : 8 ≤ bytes.length
  · obtain ⟨c0, c1, c2, c3, major, minor, high, low, payload, rfl⟩ := exists_header hheader
    rw [parse_cons]
    by_cases hlength : payload.length = Bytes.number [high, low]
    · simp [hlength, declaredLength]
    · simp [hlength, declaredLength, Ne.symm hlength]
  · exact iff_of_false (fun ⟨_, hparse⟩ => hheader (length_of_parse hparse)) fun h => hheader h.1

/-- Reading is the inverse of writing. -/
theorem parse_eq_ok_iff :
    parse bytes = .ok frame ↔ frame.toBytes = bytes ∧ frame.payload.length ≤ maxPayload := by
  constructor
  · intro h
    obtain ⟨c0, c1, c2, c3, major, minor, high, low, payload, rfl⟩ :=
      exists_header (length_of_parse h)
    rw [parse_cons] at h
    split at h
    · rename_i hlength
      obtain rfl := Except.ok.inj h
      refine ⟨?_, hlength ▸ number_pair_le high low⟩
      rw [toBytes, hlength, Bytes.ofWord32_word32, lengthBytes_number]
      rfl
    · cases h
  · rintro ⟨rfl, hlength⟩
    -- what is written starts with the eight bytes of a header
    rw [toBytes, Bytes.ofWord32, lengthBytes]
    change parse (_ :: _ :: _ :: _ :: _ :: _ :: _ :: _ :: frame.payload) = _
    rw [parse_cons, Bytes.word32_of_ofWord32_eq rfl]
    exact if_pos (number_lengthBytes hlength).symm

/-- An accepted frame is no longer accepted once bytes are added to it. -/
theorem eq_nil_of_parse_append {rest : Bytes} {longer : Frame} (h : parse bytes = .ok frame)
    (hlonger : parse (bytes ++ rest) = .ok longer) : rest = [] := by
  obtain ⟨hheader, hlength⟩ := exists_parse_iff.mp ⟨frame, h⟩
  obtain ⟨-, hlength'⟩ := exists_parse_iff.mp ⟨longer, hlonger⟩
  -- the header stays, and with it the length that it declares
  have hsame : declaredLength (bytes ++ rest) = declaredLength bytes := by
    obtain ⟨c0, c1, c2, c3, major, minor, high, low, payload, rfl⟩ := exists_header hheader
    rfl
  rw [hsame, hlength, List.length_append] at hlength'
  exact List.eq_nil_of_length_eq_zero (by omega)

end Frame

/-! ## Values and their bytes -/

namespace Value

variable {value : Value} {bytes : Bytes} {frame : Frame}

/-- A value's bytes are read as its frame. -/
theorem parse_toBytes (value : Value) : Frame.parse value.toBytes = .ok value.frame :=
  Frame.parse_eq_ok_iff.mpr ⟨rfl, value.payload_le⟩

/-- The parts of an accepted frame are those of a value whose bytes are the frame. -/
theorem exists_new_of_parse (h : Frame.parse bytes = .ok frame) {type : ValueType}
    (hcode : type.code = frame.code) :
    ∃ value, Value.new type frame.version frame.payload = .ok value ∧ value.toBytes = bytes := by
  obtain ⟨hbytes, hlength⟩ := Frame.parse_eq_ok_iff.mp h
  refine ⟨⟨type, frame.version, frame.payload, hlength⟩, dif_pos hlength, ?_⟩
  rw [← hbytes, toBytes, Value.frame, hcode]

theorem same_iff_frame_eq (a b : Value) : a.same b = true ↔ a.frame = b.frame := by
  simp [same, Value.frame, and_assoc]

/-- Values with the same bytes are the same. -/
theorem same_of_toBytes_eq {a b : Value} (h : a.toBytes = b.toBytes) : a.same b = true := by
  have hframes := (parse_toBytes a).symm.trans (h ▸ parse_toBytes b)
  exact (same_iff_frame_eq a b).mpr (Except.ok.inj hframes)

end Value

/-! ## Reading values -/

/-- The type for a code has this code. -/
theorem TypeRegistry.code_valueOf (types : TypeRegistry) (code : UInt32) :
    (types.valueOf code).1.code = code := by
  unfold valueOf canonical
  split
  · rfl
  · split <;> rfl

namespace FactoryRegistry

variable {φ : Type} {registry : FactoryRegistry φ} {run : φ → Factory} {types : TypeRegistry}
  {bytes : Bytes} {frame : Frame}

/-- A frame that can be read goes to the factories with its type, version and payload. -/
theorem readValue_of_parse (h : Frame.parse bytes = .ok frame) :
    (registry.readValue run types bytes).1 =
      registry.create run (types.valueOf frame.code).1
        ((types.valueOf frame.code).2.nameOf (types.valueOf frame.code).1)
        frame.version frame.payload := by
  rw [readValue_eq, h]

/-- Frames without payload are read as the empty value. -/
theorem readValue_of_isEmpty (h : Frame.parse bytes = .ok frame)
    (hempty : frame.payload.isEmpty = true) :
    (registry.readValue run types bytes).1 = .ok .empty := by
  rw [readValue_of_parse h, create_eq, chosen?, if_pos hempty]
  exact if_pos hempty

/-- Where no factory is in charge, other frames are read as the values whose bytes they are. -/
theorem exists_readValue (h : Frame.parse bytes = .ok frame)
    (hempty : frame.payload.isEmpty = false) (hnone : registry.factory? frame.code = none) :
    ∃ value, (registry.readValue run types bytes).1 = .ok value ∧ value.toBytes = bytes := by
  have hcode := types.code_valueOf frame.code
  obtain ⟨value, hnew, hbytes⟩ := Value.exists_new_of_parse h hcode
  refine ⟨value, ?_, hbytes⟩
  -- the default factory is in charge, and takes the payload as it is
  rw [readValue_of_parse h, create_eq, chosen?, if_neg (ne_true_of_eq_false hempty), hcode, hnone]
  exact (if_neg (ne_true_of_eq_false hempty)).trans hnew

end FactoryRegistry

/-- The bytes of a value are its type code, its version, the true length of its payload and the
payload, and they are read as these. Bytes are accepted if they are long enough and declare the
length that is left; then they are the bytes of what they are read as, and stop being accepted where
bytes are added or taken away. Where no factory is in charge, reading the bytes of a value with
a payload gives this value, reading an accepted frame with a payload gives a value with these bytes,
and an accepted frame without payload is the empty value whatever it says. -/
theorem Value.framing_is_exact {φ : Type} (registry : FactoryRegistry φ) (run : φ → Factory)
    (types : TypeRegistry) :
    (∀ value : Value,
      (∃ code length : Bytes, code.length = 4 ∧ length.length = 2 ∧
        Bytes.number code = value.type.code.toNat ∧ Bytes.number length = value.payload.length ∧
        value.toBytes =
          code ++ [value.version.major, value.version.minor] ++ length ++ value.payload) ∧
      Frame.parse value.toBytes = .ok ⟨value.type.code, value.version, value.payload⟩) ∧
    (∀ bytes, (∃ frame, Frame.parse bytes = .ok frame) ↔
      8 ≤ bytes.length ∧ Frame.declaredLength bytes = bytes.length - 8) ∧
    (∀ bytes frame, Frame.parse bytes = .ok frame →
      (∀ type : ValueType, type.code = frame.code → ∃ value,
        Value.new type frame.version frame.payload = .ok value ∧ value.toBytes = bytes) ∧
      ∀ rest longer, Frame.parse (bytes ++ rest) = .ok longer → rest = []) ∧
    (∀ a b : Value, a.toBytes = b.toBytes → a.same b = true) ∧
    (∀ value : Value, value.payload ≠ [] → registry.factory? value.type.code = none →
      ∃ read, (registry.readValue run types value.toBytes).1 = .ok read ∧
        read.same value = true) ∧
    (∀ bytes frame, Frame.parse bytes = .ok frame →
      (frame.payload ≠ [] → registry.factory? frame.code = none →
        ∃ read, (registry.readValue run types bytes).1 = .ok read ∧ read.toBytes = bytes) ∧
      (frame.payload = [] → (registry.readValue run types bytes).1 = .ok .empty)) := by
  refine ⟨fun value => ⟨?_, value.parse_toBytes⟩, fun bytes => Frame.exists_parse_iff,
    fun bytes frame hparse => ⟨fun type hcode => exists_new_of_parse hparse hcode,
      fun rest longer => Frame.eq_nil_of_parse_append hparse⟩,
    fun a b => same_of_toBytes_eq, fun value hpayload hnone => ?_,
    fun bytes frame hparse => ⟨fun hpayload hnone => ?_, fun hpayload => ?_⟩⟩
  · exact ⟨Bytes.ofWord32 value.type.code, Frame.lengthBytes value.payload.length, rfl, rfl,
      Bytes.number_ofWord32 _, Frame.number_lengthBytes value.payload_le, rfl⟩
  · have hempty : value.frame.payload.isEmpty = false := List.isEmpty_eq_false_iff.mpr hpayload
    obtain ⟨read, hread, hbytes⟩ :=
      FactoryRegistry.exists_readValue value.parse_toBytes hempty hnone
    exact ⟨read, hread, same_of_toBytes_eq hbytes⟩
  · exact FactoryRegistry.exists_readValue hparse (List.isEmpty_eq_false_iff.mpr hpayload) hnone
  · exact FactoryRegistry.readValue_of_isEmpty hparse (List.isEmpty_iff.mpr hpayload)

/-- A text is read back, a part of its bytes is not accepted, and a text without payload is read as
the empty value. -/
theorem Value.framing_is_exact_of_text :
    let registry : FactoryRegistry Factory := {}
    let value : Value := ⟨.text, ⟨0, 1⟩, [97, 98, 99], by decide⟩
    let deletion : Value := ⟨.text, ⟨0, 1⟩, [], by decide⟩
    let bytes : Bytes := [84, 69, 88, 84, 0, 1, 0, 3, 97, 98, 99]
    value.toBytes = bytes ∧
      (∃ read, (registry.readValue id {} bytes).1 = .ok read ∧ read.same value = true) ∧
      (¬∃ frame, Frame.parse bytes.dropLast = .ok frame) ∧
      (registry.readValue id {} deletion.toBytes).1 = .ok .empty := by
  intro registry value deletion bytes
  obtain ⟨hparts, haccepted, -, -, hread, hframe⟩ := framing_is_exact registry id {}
  have hbytes : value.toBytes = bytes := by decide
  have hpart : ¬(8 ≤ bytes.dropLast.length ∧
      Frame.declaredLength bytes.dropLast = bytes.dropLast.length - 8) := by decide
  exact ⟨hbytes, hbytes ▸ hread value (by decide) rfl, mt (haccepted _).mp hpart,
    (hframe _ _ (hparts deletion).2).2 rfl⟩

end OverlayStore
