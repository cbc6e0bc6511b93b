import Mathlib.Data.List.Dedup
import Mathlib.Data.List.Induction
import OverlayStore.Proofs.Selection
import OverlayStore.Proofs.Table
import OverlayStore.Value.Type

/-!
# How long a type keeps its instance

A registry of value types keeps the types that were asked for last. After any requests its cache
holds the codes that were requested, except those of the well-known types, each of them once and the
last requested first, as far as there is room (`TypeRegistry.Reflects`). So a type that is asked for
twice is the same instance both times, unless the other types that were asked for in between fill
the cache; then it is an instance that was not there before
(`TypeRegistry.same_instance_iff_room_between`).
-/

namespace OverlayStore

/-- The well-known types. -/
def ValueType.wellKnown : List ValueType := [any, binary, text, test]

/-- The codes with a fixed name are those of the well-known types. -/
theorem ValueType.isSome_wellKnownName?_iff (code : UInt32) :
    (wellKnownName? code).isSome = true ↔ code ∈ wellKnown.map ValueType.code := by
  unfold wellKnownName?
  split_ifs <;> simp_all [wellKnown, any, binary, text, test]

/-- Well-known types are pinned. -/
theorem ValueType.eq_pinned_of_mem_wellKnown :
    ∀ type ∈ wellKnown, type = ⟨type.code, .pinned⟩ := by
  decide

namespace TypeRegistry

/-! ## Requests -/

/-- What a registry is asked for. -/
inductive Request where
  /-- The type of a code under a name. -/
  | canonical (name : String) (code : UInt32)
  /-- The type of a code whose name is not known. -/
  | valueOf (code : UInt32)
  deriving DecidableEq, Repr

/-- The code that is asked for. -/
def Request.code : Request → UInt32
  | .canonical _ code => code
  | .valueOf code => code

/-- The type that a request gets, and the registry that the request leaves behind. -/
def answer (registry : TypeRegistry) : Request → ValueType × TypeRegistry
  | .canonical name code => registry.canonical name code
  | .valueOf code => registry.valueOf code

/-- The registry that several requests leave behind. -/
def after (registry : TypeRegistry) (requests : List Request) : TypeRegistry :=
  requests.foldl (fun registry request => (registry.answer request).2) registry

/-- The types that several requests get. -/
def answers : TypeRegistry → List Request → List ValueType
  | _, [] => []
  | registry, request :: requests =>
    (registry.answer request).1 :: (registry.answer request).2.answers requests

/-- The codes that are asked for and that are not those of well-known types. -/
def cacheableCodes (requests : List Request) : List UInt32 :=
  (requests.map Request.code).filter fun code => code ∉ ValueType.wellKnown.map ValueType.code

variable {registry : TypeRegistry} {request : Request} {requests : List Request} {code : UInt32}
  {serial : Nat}

theorem after_append (registry : TypeRegistry) (earlier later : List Request) :
    registry.after (earlier ++ later) = (registry.after earlier).after later :=
  List.foldl_append

theorem answers_append (registry : TypeRegistry) (earlier later : List Request) :
    registry.answers (earlier ++ later) =
      registry.answers earlier ++ (registry.after earlier).answers later := by
  induction earlier generalizing registry with
  | nil => rfl
  | cons request earlier ih => exact congrArg _ (ih _)

theorem cacheableCodes_append (earlier later : List Request) :
    cacheableCodes (earlier ++ later) = cacheableCodes earlier ++ cacheableCodes later := by
  simp [cacheableCodes]

/-! ## The codes by their last requests -/

/-- The codes that were asked for and that are not those of well-known types, each once and the last
one first. -/
def recency (requests : List Request) : List UInt32 :=
  (cacheableCodes requests).dedup.reverse

theorem nodup_recency (requests : List Request) : (recency requests).Nodup :=
  List.nodup_reverse.mpr (List.nodup_dedup _)

/-- What occurs once more at the end is the last of what occurs. -/
theorem dedup_concat (codes : List UInt32) (code : UInt32) :
    (codes ++ [code]).dedup = codes.dedup.filter (· ≠ code) ++ [code] := by
  induction codes with
  | nil => rfl
  | cons first codes ih =>
    rw [List.cons_append, List.dedup_cons, List.dedup_cons, ih]
    -- only the last occurrence of a code counts, on either side
    by_cases hagain : first ∈ codes
    · rw [if_pos hagain, if_pos (List.mem_append_left _ hagain)]
    · by_cases hsame : first = code
      · simp [hsame, hsame ▸ hagain]
      · simp [hsame, hagain]

/-- The code that was asked for last comes first. -/
theorem recency_concat (requests : List Request)
    (hcode : request.code ∉ ValueType.wellKnown.map ValueType.code) :
    recency (requests ++ [request]) =
      request.code :: (recency requests).filter (· ≠ request.code) := by
  have hcodes : cacheableCodes [request] = [request.code] :=
    List.filter_cons_of_pos (decide_eq_true hcode)
  rw [recency, cacheableCodes_append, hcodes, dedup_concat, List.reverse_concat, recency,
    List.filter_reverse]

/-- Well-known codes are not cached. -/
theorem recency_concat_of_wellKnown (requests : List Request)
    (hcode : request.code ∈ ValueType.wellKnown.map ValueType.code) :
    recency (requests ++ [request]) = recency requests := by
  have hcodes : cacheableCodes [request] = [] := by simpa [cacheableCodes] using hcode
  rw [recency, cacheableCodes_append, hcodes, List.append_nil, recency]

/-! ## One request -/

/-- The serial number of the instance that a request for a code gets. -/
def serialOf (registry : TypeRegistry) (code : UInt32) : Nat :=
  (Table.findIn code registry.cached).getD registry.names.length

/-- Every request is answered like one by some name. -/
theorem exists_answer_eq_canonical (registry : TypeRegistry) (request : Request) :
    ∃ name, registry.answer request = registry.canonical name request.code := by
  cases request with
  | canonical name code => exact ⟨name, rfl⟩
  | valueOf code => exact ⟨ValueType.placeholder, rfl⟩

/-- A request for a well-known type changes nothing. -/
theorem answer_of_wellKnown (registry : TypeRegistry)
    (hcode : request.code ∈ ValueType.wellKnown.map ValueType.code) :
    registry.answer request = (⟨request.code, .pinned⟩, registry) := by
  obtain ⟨name, heq⟩ := exists_answer_eq_canonical registry request
  rw [heq, canonical, if_pos ((ValueType.isSome_wellKnownName?_iff _).mpr hcode)]

/-- What a request for another type gets, and what it makes of the registry: the type comes first in
the cache, and unless it was cached before there is one more instance. -/
theorem exists_answer_eq (registry : TypeRegistry)
    (hcode : request.code ∉ ValueType.wellKnown.map ValueType.code)
    (hlength : registry.cached.length ≤ registry.room) :
    let serial := registry.serialOf request.code
    ∃ names, registry.answer request = (⟨request.code, .interned registry.number serial⟩,
        { registry with
          names
          cached := ((request.code, serial) ::
            registry.cached.filter fun entry => entry.1 ≠ request.code).take registry.room }) ∧
      names.length = registry.names.length +
        if request.code ∈ registry.cached.map Prod.fst then 0 else 1 := by
  intro serial
  obtain ⟨name, heq⟩ := exists_answer_eq_canonical registry request
  rw [heq, canonical, if_neg fun h => hcode ((ValueType.isSome_wellKnownName?_iff _).mp h)]
  cases hfound : Table.findIn request.code registry.cached with
  | none =>
    -- no entry has the code, so that none is taken out
    have habsent := (Table.findIn_eq_none_iff _ _).mp hfound
    have hkept : registry.cached.filter (fun entry => entry.1 ≠ request.code) = registry.cached :=
      List.filter_eq_self.mpr fun entry hmem => decide_eq_true fun hsame =>
        habsent (hsame ▸ List.mem_map_of_mem hmem)
    have hserial : serial = registry.names.length := by simp [serial, serialOf, hfound]
    refine ⟨registry.names ++ [name], ?_, ?_⟩
    · rw [hkept, hserial]
    · rw [if_neg habsent, List.length_append, List.length_singleton]
  | some found =>
    have hpresent : request.code ∈ registry.cached.map Prod.fst := by
      by_contra habsent
      rw [(Table.findIn_eq_none_iff _ _).mpr habsent] at hfound
      cases hfound
    have hserial : serial = found := by simp [serial, serialOf, hfound]
    -- one entry was taken out, so that there is room for the one in front
    have hroom : (registry.cached.filter fun entry => entry.1 ≠ request.code).length <
        registry.room := by
      obtain ⟨entry, hmem, hsame⟩ := List.mem_map.mp hpresent
      refine Nat.lt_of_lt_of_le (List.length_filter_lt_length_iff_exists.mpr ?_) hlength
      exact ⟨entry, hmem, by simpa using hsame⟩
    refine ⟨registry.names.modify found fun current => refine current name, ?_, ?_⟩
    · rw [hserial, List.take_of_length_le (Nat.succ_le_of_lt hroom)]
    · rw [if_pos hpresent, List.length_modify, Nat.add_zero]

/-- No request changes the number or the capacity. -/
theorem bounds_answer (registry : TypeRegistry) (request : Request) :
    ((registry.answer request).2.number, (registry.answer request).2.room) =
      (registry.number, registry.room) := by
  obtain ⟨name, heq⟩ := exists_answer_eq_canonical registry request
  rw [heq, canonical]
  split
  · rfl
  · split <;> rfl

/-- No history changes the number or the room of a registry. -/
theorem bounds_after (registry : TypeRegistry) (requests : List Request) :
    ((registry.after requests).number, (registry.after requests).room) =
      (registry.number, registry.room) := by
  induction requests generalizing registry with
  | nil => rfl
  | cons request requests ih => exact (ih _).trans (registry.bounds_answer request)

/-- There is room for one type at least. -/
theorem exists_room_eq (registry : TypeRegistry) : ∃ rest, registry.room = rest + 1 :=
  ⟨registry.room - 1, (Nat.sub_add_cancel (Nat.le_max_right _ _)).symm⟩

/-- A code that is not in the cache gets a new instance. -/
theorem serialOf_of_notMem (h : code ∉ registry.cached.map Prod.fst) :
    registry.serialOf code = registry.names.length := by
  rw [serialOf, (Table.findIn_eq_none_iff _ _).mpr h, Option.getD_none]

/-! ## What requests make of a new registry -/

/-- The cache is what a new registry has after some requests. -/
structure Reflects (registry : TypeRegistry) (requests : List Request) : Prop where
  /-- The codes that were asked for last are cached. -/
  codes : registry.cached.map Prod.fst = (recency requests).take registry.room
  /-- The cached instances have been made. -/
  made : ∀ entry ∈ registry.cached, entry.2 < registry.names.length

namespace Reflects

theorem nodup (h : registry.Reflects requests) : (registry.cached.map Prod.fst).Nodup :=
  h.codes ▸ (nodup_recency requests).sublist (List.take_sublist _ _)

/-- The cache does not outgrow its room. -/
theorem length_le (h : registry.Reflects requests) : registry.cached.length ≤ registry.room := by
  rw [← List.length_map Prod.fst, h.codes]
  exact List.length_take_le ..

/-- A code that is in the cache has the instance that it is cached with. -/
theorem serialOf_eq (h : registry.Reflects requests) (hmem : (code, serial) ∈ registry.cached) :
    registry.serialOf code = serial := by
  rw [serialOf, (Table.findIn_eq_some_iff h.nodup code serial).mpr hmem, Option.getD_some]

/-- A code that is in the cache is cached with its instance. -/
theorem mem_cached (h : registry.Reflects requests) (hcode : code ∈ registry.cached.map Prod.fst) :
    (code, registry.serialOf code) ∈ registry.cached := by
  obtain ⟨⟨_, serial⟩, hmem, rfl⟩ := List.mem_map.mp hcode
  rwa [h.serialOf_eq hmem]

/-- The instance that a request gets has been made then. -/
theorem serialOf_lt (h : registry.Reflects requests) {names : List String}
    (hlength : names.length = registry.names.length +
      if code ∈ registry.cached.map Prod.fst then 0 else 1) :
    registry.serialOf code < names.length := by
  rw [hlength]
  split
  · rename_i hcode
    exact h.made _ (h.mem_cached hcode)
  · rename_i hcode
    rw [serialOf_of_notMem hcode]
    exact Nat.lt_succ_self _

/-- After a request the cache reflects that request as well. -/
theorem answer (h : registry.Reflects requests) (request : Request) :
    (registry.answer request).2.Reflects (requests ++ [request]) := by
  by_cases hcode : request.code ∈ ValueType.wellKnown.map ValueType.code
  · rw [answer_of_wellKnown registry hcode]
    exact ⟨h.codes.trans (by rw [recency_concat_of_wellKnown requests hcode]), h.made⟩
  · obtain ⟨names, heq, hlength⟩ := registry.exists_answer_eq hcode h.length_le
    obtain ⟨rest, hrest⟩ := registry.exists_room_eq
    rw [heq]
    constructor
    -- the code moves to the front, in the cache as in the order of recency
    · have hcodes : (registry.cached.filter fun entry => entry.1 ≠ request.code).map Prod.fst =
          ((recency requests).take registry.room).filter (· ≠ request.code) := by
        rw [← h.codes, List.filter_map]
        rfl
      change (List.take registry.room _).map Prod.fst = List.take registry.room _
      rw [List.map_take, List.map_cons, hcodes, recency_concat requests hcode, hrest,
        List.take_succ_cons, List.take_succ_cons,
        take_filter_take (List.nodup_iff_count_le_one.mp (nodup_recency requests) _)]
    · intro entry hmem
      rcases List.mem_cons.mp (List.mem_of_mem_take hmem) with rfl | hkept
      · exact h.serialOf_lt hlength
      · have hmade := h.made entry (List.mem_of_mem_filter hkept)
        exact Nat.lt_of_lt_of_le hmade (hlength ▸ Nat.le_add_right _ _)

theorem after (h : registry.Reflects requests) (later : List Request) :
    (registry.after later).Reflects (requests ++ later) := by
  induction later generalizing registry requests with
  | nil => exact (List.append_nil requests).symm ▸ h
  | cons request later ih => simpa [TypeRegistry.after] using ih (h.answer request)

/-- A request leaves the other types their instances, as far as it leaves them in the cache. -/
theorem mem_cached_of_answer (h : registry.Reflects requests) (hother : request.code ≠ code)
    (hmem : (code, serial) ∈ (registry.answer request).2.cached) :
    (code, serial) ∈ registry.cached := by
  by_cases hcode : request.code ∈ ValueType.wellKnown.map ValueType.code
  · rwa [answer_of_wellKnown registry hcode] at hmem
  · obtain ⟨names, heq, -⟩ := registry.exists_answer_eq hcode h.length_le
    rw [heq] at hmem
    -- the entry in front is the one that was asked for
    rcases List.mem_cons.mp (List.mem_of_mem_take hmem) with hsame | hkept
    · exact absurd (congrArg Prod.fst hsame).symm hother
    · exact List.mem_of_mem_filter hkept

/-- Requests for other types leave a type its instance, as far as they leave it in the cache. -/
theorem mem_cached_of_after (h : registry.Reflects requests) {later : List Request}
    (hothers : ∀ request ∈ later, request.code ≠ code)
    (hmem : (code, serial) ∈ (registry.after later).cached) :
    (code, serial) ∈ registry.cached := by
  induction later generalizing registry requests with
  | nil => exact hmem
  | cons request later ih =>
    have hrest : ∀ other ∈ later, other.code ≠ code := fun other hlater =>
      hothers other (List.mem_cons_of_mem _ hlater)
    exact h.mem_cached_of_answer (hothers request List.mem_cons_self)
      (ih (h.answer request) hrest hmem)

/-- The type that was asked for comes with the instance that it is cached with. -/
theorem exists_cached_answer (h : registry.Reflects requests)
    (hcode : request.code ∉ ValueType.wellKnown.map ValueType.code) :
    (registry.answer request).1 =
        ⟨request.code, .interned registry.number (registry.serialOf request.code)⟩ ∧
      (request.code, registry.serialOf request.code) ∈ (registry.answer request).2.cached := by
  obtain ⟨names, heq, -⟩ := registry.exists_answer_eq hcode h.length_le
  obtain ⟨rest, hrest⟩ := registry.exists_room_eq
  rw [heq, hrest, List.take_succ_cons]
  exact ⟨rfl, List.mem_cons_self⟩

/-- A type that has stayed in the cache is the same instance again. -/
theorem answer_again (h : registry.Reflects requests)
    (hcode : request.code ∉ ValueType.wellKnown.map ValueType.code) {later : List Request}
    (hothers : ∀ other ∈ later, other.code ≠ request.code) {again : Request}
    (hagain : again.code = request.code)
    (hcached : request.code ∈ ((registry.answer request).2.after later).cached.map Prod.fst) :
    (((registry.answer request).2.after later).answer again).1 = (registry.answer request).1 := by
  have hnext := h.answer request
  obtain ⟨hfirst, hmem⟩ := h.exists_cached_answer hcode
  obtain ⟨hsecond, -⟩ := (hnext.after later).exists_cached_answer (hagain ▸ hcode)
  -- no other request has given the code another serial number
  have hstays := hnext.mem_cached_of_after hothers ((hnext.after later).mem_cached hcached)
  have hserial := (hnext.serialOf_eq hstays).symm.trans (hnext.serialOf_eq hmem)
  have hnumber : ((registry.answer request).2.after later).number = registry.number :=
    congrArg Prod.fst ((bounds_after _ later).trans (registry.bounds_answer request))
  rw [hsecond, hfirst, hagain, hserial, hnumber]

/-- A type that is asked for twice in a row is the same instance. -/
theorem answer_answer (h : registry.Reflects requests) (request : Request) {again : Request}
    (hagain : again.code = request.code) :
    ((registry.answer request).2.answer again).1 = (registry.answer request).1 := by
  by_cases hcode : request.code ∈ ValueType.wellKnown.map ValueType.code
  · rw [answer_of_wellKnown registry hcode, answer_of_wellKnown registry (hagain ▸ hcode), hagain]
  · have hcached := List.mem_map_of_mem (f := Prod.fst) (h.exists_cached_answer hcode).2
    exact h.answer_again hcode (fun _ hmem => (List.not_mem_nil hmem).elim) hagain hcached

end Reflects

variable {number capacity : Nat}

/-- The cache reflects every history of a new registry. -/
theorem reflects_after (number capacity : Nat) (requests : List Request) :
    (({ number, capacity } : TypeRegistry).after requests).Reflects requests := by
  have hnew : ({ number, capacity } : TypeRegistry).Reflects [] :=
    ⟨List.take_nil.symm, fun _ hmem => by cases hmem⟩
  exact hnew.after requests

/-- Whatever instance anybody was given has been made. -/
theorem lt_length_names_of_mem_answers {type : ValueType}
    (hmem : type ∈ ({ number, capacity } : TypeRegistry).answers requests) {registryNumber : Nat}
    (hidentity : type.identity = .interned registryNumber serial) :
    serial < (({ number, capacity } : TypeRegistry).after requests).names.length := by
  induction requests using List.reverseRecOn with
  | nil => cases hmem
  | append_singleton requests request ih =>
    have hreflects := reflects_after number capacity requests
    rw [answers_append, List.mem_append, answers, answers, List.mem_singleton] at hmem
    rw [after_append]
    change serial < (TypeRegistry.answer _ request).2.names.length
    by_cases hcode : request.code ∈ ValueType.wellKnown.map ValueType.code
    · rw [answer_of_wellKnown _ hcode] at hmem ⊢
      rcases hmem with hearlier | rfl
      · exact ih hearlier
      · cases hidentity
    · -- an instance stays made, and the last request gets one that is made at the latest then
      obtain ⟨names, heq, hlength⟩ := exists_answer_eq _ hcode hreflects.length_le
      rw [heq] at hmem ⊢
      rcases hmem with hearlier | rfl
      · exact Nat.lt_of_lt_of_le (ih hearlier) (hlength ▸ Nat.le_add_right _ _)
      · cases hidentity
        exact hreflects.serialOf_lt hlength

/-- A type that is not in the cache is an instance that nobody has been given. -/
theorem answer_notMem_answers (hcode : request.code ∉ ValueType.wellKnown.map ValueType.code)
    (habsent : request.code ∉
      (({ number, capacity } : TypeRegistry).after requests).cached.map Prod.fst) :
    ((({ number, capacity } : TypeRegistry).after requests).answer request).1 ∉
      ({ number, capacity } : TypeRegistry).answers requests := by
  intro hmem
  have hanswer := ((reflects_after number capacity requests).exists_cached_answer hcode).1
  have hlt := lt_length_names_of_mem_answers hmem (congrArg ValueType.identity hanswer)
  exact Nat.ne_of_lt hlt (serialOf_of_notMem habsent)

/-- A code is still among those that were asked for last if there is room for one more than the
others that were asked for since. -/
theorem mem_take_recency_iff {before between : List Request}
    (hcode : request.code ∉ ValueType.wellKnown.map ValueType.code)
    (hbetween : ∀ other ∈ between, other.code ≠ request.code) (room : Nat) :
    request.code ∈ (recency (before ++ request :: between)).take room ↔
      (cacheableCodes between).dedup.length < room := by
  have hothers : request.code ∉ cacheableCodes between := by
    intro hmem
    obtain ⟨other, hother, hsame⟩ := List.mem_map.mp (List.mem_of_mem_filter hmem)
    exact hbetween other hother hsame
  have hcodes : cacheableCodes (request :: between) = request.code :: cacheableCodes between :=
    List.filter_cons_of_pos (decide_eq_true hcode)
  -- the codes asked for since come first, and then this one
  obtain ⟨earlier, hearlier⟩ : request.code :: (cacheableCodes between).dedup <:+
      (cacheableCodes (before ++ request :: between)).dedup := by
    rw [cacheableCodes_append, List.dedup_append, hcodes, List.dedup_cons_of_notMem hothers]
    exact List.suffix_union_right _ _
  have hnot : ∀ count, request.code ∉ (cacheableCodes between).dedup.reverse.take count :=
    fun count hmem => hothers (by simpa using List.mem_of_mem_take hmem)
  rw [recency, ← hearlier, List.reverse_append, List.reverse_cons, List.append_assoc,
    List.take_append, List.mem_append, or_iff_right (hnot room), List.length_reverse]
  cases hroom : room - (cacheableCodes between).dedup.length with
  | zero => simpa using Nat.sub_eq_zero_iff_le.mp hroom
  | succ rest => simpa using Nat.lt_of_sub_eq_succ hroom

/-- A well-known type is always the same instance, and asking for it changes nothing. Any other type
that is asked for again, after others only, is the same instance if and only if fewer of these
others than there is room for are different and not well known; else it is an instance that nobody
has been given before. And the cache is filled by all types that were asked for, as far as there is
room. -/
theorem same_instance_iff_room_between (number capacity : Nat) :
    let start : TypeRegistry := { number, capacity }
    (∀ type ∈ ValueType.wellKnown, ∀ requests, ∀ request : Request, request.code = type.code →
      (start.after requests).answer request = (type, start.after requests)) ∧
    (∀ before first between, ∀ second : Request,
      first.code ∉ ValueType.wellKnown.map ValueType.code → second.code = first.code →
      (∀ request ∈ between, request.code ≠ first.code) →
      let earlier := ((start.after before).answer first).1
      let later := ((start.after (before ++ first :: between)).answer second).1
      (later = earlier ↔ (cacheableCodes between).dedup.length < max capacity 1) ∧
      (later ≠ earlier → later ∉ start.answers (before ++ first :: between))) ∧
    ∀ requests, (start.after requests).size =
      min (max capacity 1) (cacheableCodes requests).dedup.length := by
  intro start
  have hroom : ∀ requests, (start.after requests).room = max capacity 1 := fun requests =>
    congrArg Prod.snd (start.bounds_after requests)
  refine ⟨fun type htype requests request hcode => ?_,
    fun before first between second hfirst hsecond hbetween => ?_, fun requests => ?_⟩
  · rw [answer_of_wellKnown _ (hcode ▸ List.mem_map_of_mem htype), hcode,
      ValueType.eq_pinned_of_mem_wellKnown type htype]
  · intro earlier later
    have hafter : start.after (before ++ first :: between) =
        ((start.after before).answer first).2.after between := start.after_append before _
    have hbefore : (start.after before).Reflects before := reflects_after number capacity before
    have hreflects : (start.after (before ++ first :: between)).Reflects
        (before ++ first :: between) := reflects_after number capacity _
    rw [← hroom (before ++ first :: between), ← mem_take_recency_iff hfirst hbetween,
      ← hreflects.codes]
    -- a code that is still cached has its instance, any other one gets a new one
    by_cases hcached : first.code ∈ (start.after (before ++ first :: between)).cached.map Prod.fst
    · have hsame : later = earlier :=
        (congrArg (fun registry => (registry.answer second).1) hafter).trans
          (hbefore.answer_again hfirst hbetween hsecond (hafter ▸ hcached))
      exact ⟨iff_of_true hsame hcached, fun hne => absurd hsame hne⟩
    · have hnew : later ∉ start.answers (before ++ first :: between) :=
        answer_notMem_answers (hsecond ▸ hfirst) (hsecond ▸ hcached)
      have hgiven : earlier ∈ start.answers (before ++ first :: between) := by
        rw [answers_append]
        exact List.mem_append_right _ List.mem_cons_self
      exact ⟨iff_of_false (fun hsame => hnew (hsame ▸ hgiven)) hcached, fun _ => hnew⟩
  · have hcodes := (reflects_after number capacity requests).codes
    have hlength := congrArg List.length hcodes
    rwa [List.length_map, List.length_take, recency, List.length_reverse, hroom] at hlength

/-- There is room for two types. The one that is asked for again before a third comes in stays the
same, while the other one has to be made anew. -/
theorem same_instance_iff_room_between_of_three :
    let start : TypeRegistry := { capacity := 2 }
    let a : Request := .canonical "A" 1
    let b : Request := .canonical "B" 2
    let others : List Request := [.valueOf ValueType.textCode, .canonical "C" 3]
    let requests := [a, b, .valueOf 1] ++ others
    ((start.after requests).answer (.valueOf 1)).1 =
        ((start.after [a, b]).answer (.valueOf 1)).1 ∧
      ((start.after requests).answer (.valueOf 2)).1 ∉ start.answers requests ∧
      (start.after requests).answer (.valueOf ValueType.anyCode) =
        (.any, start.after requests) ∧
      (start.after requests).size = 2 := by
  intro start a b others requests
  obtain ⟨hpinned, htwice, hsize⟩ := same_instance_iff_room_between 0 2
  obtain ⟨hkept, -⟩ := htwice [a, b] (.valueOf 1) others (.valueOf 1) (by decide) rfl (by decide)
  obtain ⟨hlost, hnew⟩ :=
    htwice [a] b (.valueOf 1 :: others) (.valueOf 2) (by decide) rfl (by decide)
  have hroom : ¬(cacheableCodes (.valueOf 1 :: others)).dedup.length < max 2 1 := by decide
  exact ⟨hkept.mpr (by decide), hnew (mt hlost.mp hroom), hpinned .any (by decide) requests _ rfl,
    (hsize requests).trans (by decide)⟩

end TypeRegistry

end OverlayStore
