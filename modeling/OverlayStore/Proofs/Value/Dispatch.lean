import OverlayStore.Proofs.Database.Place
import OverlayStore.Proofs.Registration
import OverlayStore.Proofs.Value.Framing
import OverlayStore.Proofs.Value.Interning

/-!
# Which factory reads a frame

Reading a value calls at most one factory, the one whose registration stands for the type code of
the frame, and this once. Bytes that are no frame and frames without payload call none; the former
leave the types alone as well, and the latter are deletions whatever their type
(`FactoryRegistry.readValueM_dispatches`). What factories do besides making values is left open, so
that a call that is made in vain or twice would show.
-/

namespace OverlayStore.FactoryRegistry

variable {φ : Type}

/-! ## The registered factories -/

/-- A rejected registration leaves the factories as they are. -/
def change (registry : FactoryRegistry φ) : RegistryChange φ → FactoryRegistry φ
  | .register type factory =>
    match registry.register type factory with
    | .ok (_, changed) => changed
    | .error _ => registry
  | .unregister type => (registry.unregister type).2

/-- The factories that several changes leave registered. -/
def afterAll (registry : FactoryRegistry φ) (changes : List (RegistryChange φ)) :
    FactoryRegistry φ :=
  changes.foldl change registry

variable {registry : FactoryRegistry φ} {changes : List (RegistryChange φ)} {code : UInt32}
  {factory : φ}

/-- What a change makes of the factory of a code. -/
theorem factory?_change (hany : registry.factory? ValueType.anyCode = none)
    (change : RegistryChange φ) (code : UInt32) (factory : φ) :
    (registry.change change).factory? code = some factory ↔
      (registry.factory? code = some factory ∧ code ≠ change.code) ∨
        (code, factory) ∈ RegistryChange.standing [change] := by
  cases change with
  | unregister type =>
    have hfound : (registry.change (.unregister type)).factory? code =
        if code = type.code then none else registry.factory? code :=
      Table.find?_erase _ _ _
    rw [hfound, RegistryChange.code, RegistryChange.standing, RegistryChange.standing]
    by_cases hsame : code = type.code <;> simp [hsame]
  | register type item =>
    by_cases htype : type.isAny = true
    -- a factory for the wildcard type is turned away, and none is there before
    · have hchange : registry.change (.register type item) = registry := by
        rw [change, register, if_pos htype]
      have hcode : type.code = ValueType.anyCode := of_decide_eq_true htype
      rw [hchange, RegistryChange.standing_singleton_of_isAny htype, RegistryChange.code, hcode]
      by_cases hsame : code = ValueType.anyCode <;> simp [hsame, hany]
    · have hfound : (registry.change (.register type item)).factory? code =
          if code = type.code then some item else registry.factory? code := by
        rw [change, register, if_neg htype]
        exact Table.find?_insert _ _ _ _
      rw [hfound, RegistryChange.standing_singleton (eq_false_of_ne_true htype),
        RegistryChange.code]
      by_cases hsame : code = type.code
      · simpa [hsame] using eq_comm
      · simp [hsame]

/-- A factory is in charge of a code if its registration stands. -/
theorem factory?_afterAll : (({} : FactoryRegistry φ).afterAll changes).factory? code =
    some factory ↔ (code, factory) ∈ RegistryChange.standing changes := by
  induction changes using List.reverseRecOn generalizing code factory with
  | nil => simp [afterAll, factory?, RegistryChange.standing]
  | append_singleton changes change ih =>
    have hany : (({} : FactoryRegistry φ).afterAll changes).factory? ValueType.anyCode = none := by
      refine Option.eq_none_iff_forall_ne_some.mpr fun factory hfound => ?_
      exact RegistryChange.ne_anyCode_of_mem_standing (ih.mp hfound) rfl
    rw [RegistryChange.mem_standing_concat, ← ih, ← factory?_change hany, afterAll,
      List.foldl_append]
    rfl

/-! ## Calls -/

section Calls

variable {m : Type → Type} [Monad m] {run : φ → FactoryM m} {types : TypeRegistry} {bytes : Bytes}
  {frame : Frame}

/-- Bytes that are no frame are refused before any factory is asked. -/
theorem readValueM_of_malformed {malformed : Frame.Malformed}
    (h : Frame.parse bytes = .error malformed) :
    registry.readValueM run types bytes = pure (.error (.decode malformed.message), types) := by
  rw [readValueM, h]

/-- The bytes of a frame go to the factory in charge, with the type and its name. -/
theorem readValueM_toBytes (h : frame.payload.length ≤ maxPayload) :
    registry.readValueM run types frame.toBytes = do
      let made ← registry.createM run (types.valueOf frame.code).1
        ((types.valueOf frame.code).2.nameOf (types.valueOf frame.code).1) frame.version
        frame.payload
      return (made, (types.valueOf frame.code).2) := by
  rw [readValueM, Frame.parse_eq_ok_iff.mpr ⟨rfl, h⟩]

/-- A factory is called if there is a payload for it. -/
theorem createM_of_factory? {type : ValueType} {payload : Bytes} (hpayload : payload ≠ [])
    (hfactory : registry.factory? type.code = some factory) (name : String) (version : Version) :
    registry.createM run type name version payload = run factory type name version payload := by
  have hchosen : registry.chosen? type.code payload = some factory := by
    rw [chosen?, if_neg (by simpa using hpayload), hfactory]
  rw [createM, hchosen]

/-- Without payload or factory, the value is made without a call. -/
theorem createM_of_none {type : ValueType} {payload : Bytes}
    (hnone : payload = [] ∨ registry.factory? type.code = none) (name : String)
    (version : Version) :
    registry.createM run type name version payload =
      pure (Factory.plain type name version payload) := by
  have hchosen : registry.chosen? type.code payload = none := by
    by_cases hempty : payload.isEmpty = true
    · rw [chosen?, if_pos hempty]
    · rw [chosen?, if_neg hempty]
      exact hnone.resolve_left (mt List.isEmpty_iff.mpr hempty)
  rw [createM, hchosen]

/-- The factory whose registration stands reads the payloads of its type. -/
theorem readValueM_of_standing (hlength : frame.payload.length ≤ maxPayload)
    (hpayload : frame.payload ≠ [])
    (hstanding : (frame.code, factory) ∈ RegistryChange.standing changes) :
    (({} : FactoryRegistry φ).afterAll changes).readValueM run types frame.toBytes = do
      let made ← run factory (types.valueOf frame.code).1
        ((types.valueOf frame.code).2.nameOf (types.valueOf frame.code).1) frame.version
        frame.payload
      return (made, (types.valueOf frame.code).2) := by
  have hfactory := factory?_afterAll.mpr hstanding
  rw [← types.code_valueOf frame.code] at hfactory
  rw [readValueM_toBytes hlength, createM_of_factory? hpayload hfactory]

/-- Everything else is read without a call. -/
theorem readValueM_of_none [LawfulMonad m] (hlength : frame.payload.length ≤ maxPayload)
    (hnone : frame.payload = [] ∨ registry.factory? frame.code = none) :
    registry.readValueM run types frame.toBytes =
      pure (Factory.plain (types.valueOf frame.code).1
        ((types.valueOf frame.code).2.nameOf (types.valueOf frame.code).1) frame.version
        frame.payload, (types.valueOf frame.code).2) := by
  rw [← types.code_valueOf frame.code] at hnone
  rw [readValueM_toBytes hlength, createM_of_none hnone, pure_bind]

end Calls

/-- What reading does after any requests for types and any changes of the factories. Bytes that are
no frame are an error and leave the types as they were. Any frame leaves them as one request for
its type does, whose instance is the one that everybody gets who asks for the code next. A frame
without payload is the empty value. The factory whose registration stands for the code of any other
frame is called once, with this instance, and has the last word; where there is no such factory, the
default one has it. In no other case is a factory called. And storing the empty value deletes the
record of its creator and no other one. -/
theorem readValueM_dispatches {m : Type → Type} [Monad m] [LawfulMonad m] (number capacity : Nat)
    (requests : List TypeRegistry.Request) (changes : List (RegistryChange φ))
    (run : φ → FactoryM m) :
    let types := ({ number, capacity } : TypeRegistry).after requests
    let registry := ({} : FactoryRegistry φ).afterAll changes
    (∀ bytes, (¬∃ frame : Frame, frame.toBytes = bytes ∧ frame.payload.length ≤ maxPayload) →
      ∃ malformed : Frame.Malformed, registry.readValueM run types bytes =
        pure (.error (.decode malformed.message), types)) ∧
    (∀ frame : Frame, frame.payload.length ≤ maxPayload →
      let type := (types.valueOf frame.code).1
      let left := (types.valueOf frame.code).2
      (type.code = frame.code ∧
        ∀ request, request.code = frame.code → (left.answer request).1 = type) ∧
      (frame.payload = [] →
        registry.readValueM run types frame.toBytes = pure (.ok .empty, left)) ∧
      (frame.payload ≠ [] →
        (∀ factory, (frame.code, factory) ∈ RegistryChange.standing changes →
          registry.readValueM run types frame.toBytes = do
            let made ← run factory type (left.nameOf type) frame.version frame.payload
            return (made, left)) ∧
        ((∀ factory, (frame.code, factory) ∉ RegistryChange.standing changes) →
          registry.readValueM run types frame.toBytes =
            pure (Factory.plain type (left.nameOf type) frame.version frame.payload, left)))) ∧
    ∀ (db : Database) (record : Record), record.value = .empty →
      (db.store record).result = db.contains record.key record.secondary ∧
      ∀ key secondary, (db.store record).database.find? key secondary =
        if key = record.key ∧ secondary = record.secondary then none
        else db.find? key secondary := by
  intro types registry
  refine ⟨fun bytes hbytes => ?_, fun frame hlength => ?_, fun db record hvalue => ?_⟩
  -- what is parsed is the frame of the bytes, so without a frame there is no parse
  · cases hparse : Frame.parse bytes with
    | error malformed => exact ⟨malformed, readValueM_of_malformed hparse⟩
    | ok frame => exact absurd ⟨frame, Frame.parse_eq_ok_iff.mp hparse⟩ hbytes
  · intro type left
    have hreflects : types.Reflects requests := TypeRegistry.reflects_after number capacity requests
    refine ⟨⟨types.code_valueOf frame.code, fun request hrequest => ?_⟩, fun hpayload => ?_,
      fun hpayload => ⟨fun factory hstanding => ?_, fun hnone => ?_⟩⟩
    · exact hreflects.answer_answer (.valueOf frame.code) hrequest
    · rw [readValueM_of_none hlength (.inl hpayload), hpayload]
      rfl
    · exact readValueM_of_standing hlength hpayload hstanding
    · refine readValueM_of_none hlength (.inr ?_)
      exact Option.eq_none_iff_forall_ne_some.mpr fun factory hfound =>
        hnone factory (factory?_afterAll.mp hfound)
  · have hempty : record.value.isEmpty = true := by rw [hvalue]; rfl
    exact ⟨db.result_store_of_isEmpty hempty, db.find?_store_of_isEmpty hempty⟩

/-- There is room for one type, so that the instance that the factories were registered with is lost
when the frame comes in. The later of the two reads it, and reads it once. -/
theorem readValueM_dispatches_of_lost_instance :
    let types := ({ capacity := 1 } : TypeRegistry).after [.canonical "A" 1, .canonical "B" 2]
    let changes : List (RegistryChange String) :=
      [.register ⟨1, .interned 0 0⟩ "first", .register ⟨1, .interned 0 0⟩ "second",
        .register ⟨2, .interned 0 1⟩ "other", .unregister ⟨2, .interned 0 1⟩]
    let registry := ({} : FactoryRegistry String).afterAll changes
    let run (name : String) : FactoryM (StateM (List String)) := fun type _ version payload => do
      modify (· ++ [name])
      return Value.new type version payload
    let read (bytes : Bytes) := (registry.readValueM run types bytes).run []
    (read [0, 0, 0, 1, 0, 1, 0, 1, 7] =
        ((.ok ⟨⟨1, .interned 0 2⟩, ⟨0, 1⟩, [7], by decide⟩, (types.valueOf 1).2), ["second"]) ∧
      read [0, 0, 0, 2, 0, 1, 0, 1, 7] =
        ((.ok ⟨⟨2, .interned 0 1⟩, ⟨0, 1⟩, [7], by decide⟩, (types.valueOf 2).2), []) ∧
      read [0, 0, 0, 1, 0, 1, 0, 0] = ((.ok .empty, (types.valueOf 1).2), [])) ∧
      ∃ message, read [0, 0, 0, 1, 0, 1, 0, 2, 7] = ((.error (.decode message), types), []) := by
  intro types changes registry run read
  obtain ⟨hmalformed, hframe, -⟩ := readValueM_dispatches 0 1
    [.canonical "A" 1, .canonical "B" 2] changes run
  have hstanding : RegistryChange.standing changes = [(1, "second")] := by decide
  have hread {bytes : Bytes} {result} (h : registry.readValueM run types bytes = result) :
      read bytes = result.run [] :=
    congrArg (StateT.run (m := Id) · []) h
  refine ⟨⟨?_, ?_, ?_⟩, ?_⟩
  · obtain ⟨-, -, hcalled⟩ := hframe ⟨1, ⟨0, 1⟩, [7]⟩ (by decide)
    exact (hread ((hcalled (by decide)).1 "second" (by simp [hstanding]))).trans rfl
  · obtain ⟨-, -, hcalled⟩ := hframe ⟨2, ⟨0, 1⟩, [7]⟩ (by decide)
    exact (hread ((hcalled (by decide)).2 (by simp [hstanding]))).trans rfl
  · obtain ⟨-, hdeletion, -⟩ := hframe ⟨1, ⟨0, 1⟩, []⟩ (by decide)
    exact hread (hdeletion rfl)
  · have hnone : ¬∃ frame, Frame.parse [0, 0, 0, 1, 0, 1, 0, 2, 7] = .ok frame :=
      mt Frame.exists_parse_iff.mp (by decide)
    simp only [Frame.parse_eq_ok_iff] at hnone
    obtain ⟨malformed, hfailed⟩ := hmalformed _ hnone
    exact ⟨malformed.message, hread hfailed⟩

end OverlayStore.FactoryRegistry
