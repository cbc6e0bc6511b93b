import OverlayStore.Proofs.Value.Interning

/-!
# How a type gets its name

Many requests can bring names for one instance of a type, in any order and with placeholders between
them. The instance is called by the first real name among them (`TypeRegistry.name_eq_firstReal`),
wherever its handles are and whether or not the cache still has it. So a name is given once and
stays, and no request gives a name to an instance that it does not get.
-/

namespace OverlayStore.TypeRegistry

/-- The name that a request brings. -/
def Request.name : Request → String
  | .canonical name _ => name
  | .valueOf _ => ValueType.placeholder

/-- The names brought by those requests that got an instance, in order. -/
def namesFor (registry : TypeRegistry) (type : ValueType) (requests : List Request) :
    List String :=
  ((requests.zip (registry.answers requests)).filter fun entry => entry.2 = type).map
    fun entry => entry.1.name

/-- The first of some names that is real, the placeholder if none is. -/
def firstReal (names : List String) : String :=
  (names.find? (· ≠ ValueType.placeholder)).getD ValueType.placeholder

variable {registry start : TypeRegistry} {request : Request} {requests : List Request}
  {type : ValueType} {code : UInt32} {serial : Nat}

/-! ## The first real name -/

/-- Later names count only if all earlier ones are placeholders. -/
theorem firstReal_append (names more : List String) :
    firstReal (names ++ more) =
      if firstReal names = ValueType.placeholder then firstReal more else firstReal names := by
  unfold firstReal
  rw [List.find?_append]
  cases hfound : names.find? (· ≠ ValueType.placeholder) with
  | none => simp
  | some name =>
    have hreal : name ≠ ValueType.placeholder := by simpa using List.find?_some hfound
    simp [hreal]

/-- One more name counts as `refine` says. -/
theorem firstReal_concat (names : List String) (name : String) :
    firstReal (names ++ [name]) = refine (firstReal names) name := by
  have hlast : firstReal [name] = name := by
    by_cases h : name = ValueType.placeholder <;> simp [firstReal, h]
  rw [firstReal_append, hlast, refine]

/-! ## The requests that got an instance -/

theorem number_after (registry : TypeRegistry) (requests : List Request) :
    (registry.after requests).number = registry.number :=
  congrArg Prod.fst (registry.bounds_after requests)

/-- Every request is answered like one by its name. -/
theorem answer_eq_canonical (registry : TypeRegistry) (request : Request) :
    registry.answer request = registry.canonical request.name request.code := by
  cases request <;> rfl

theorem length_answers (registry : TypeRegistry) (requests : List Request) :
    (registry.answers requests).length = requests.length := by
  induction requests generalizing registry with
  | nil => rfl
  | cons request requests ih => exact congrArg Nat.succ (ih _)

/-- The names that an instance is asked for by come in the order of the requests. -/
theorem namesFor_append (registry : TypeRegistry) (type : ValueType)
    (earlier later : List Request) :
    registry.namesFor type (earlier ++ later) =
      registry.namesFor type earlier ++ (registry.after earlier).namesFor type later := by
  rw [namesFor, answers_append, List.zip_append (registry.length_answers earlier).symm,
    List.filter_append, List.map_append]
  rfl

/-- A request asks by its name for the instance that it gets. -/
theorem namesFor_singleton (registry : TypeRegistry) (type : ValueType) (request : Request) :
    registry.namesFor type [request] =
      if (registry.answer request).1 = type then [request.name] else [] := by
  by_cases h : (registry.answer request).1 = type <;> simp [namesFor, answers, h]

/-- An instance that nobody was given was not asked for by any name. -/
theorem namesFor_eq_nil (h : type ∉ registry.answers requests) :
    registry.namesFor type requests = [] := by
  rw [namesFor, List.map_eq_nil_iff, List.filter_eq_nil_iff]
  intro entry hentry hsame
  exact h (of_decide_eq_true hsame ▸ (List.of_mem_zip hentry).2)

/-! ## One request -/

/-- A request gives its name to the instance that it gets, if this one has none yet. -/
theorem Reflects.getElem?_names_answer (h : registry.Reflects requests)
    (hcode : request.code ∉ ValueType.wellKnown.map ValueType.code) (serial : Nat) :
    (registry.answer request).2.names[serial]? =
      if serial = registry.serialOf request.code then
        some (refine (registry.names[serial]?.getD ValueType.placeholder) request.name)
      else registry.names[serial]? := by
  rw [answer_eq_canonical, canonical,
    if_neg fun hknown => hcode ((ValueType.isSome_wellKnownName?_iff _).mp hknown)]
  cases hfound : Table.findIn request.code registry.cached with
  | none =>
    -- a new instance, whose name is the only one so far
    have hnew : registry.serialOf request.code = registry.names.length := by
      rw [serialOf, hfound, Option.getD_none]
    rw [hnew]
    by_cases hserial : serial = registry.names.length
    · simp [hserial, refine]
    · by_cases hlt : serial < registry.names.length
      · simp [hserial, List.getElem?_append_left hlt]
      · simp only [hserial, if_false]
        rw [List.getElem?_eq_none (by simp; omega), List.getElem?_eq_none (by omega)]
  | some found =>
    have hmem := (Table.findIn_eq_some_iff h.nodup _ _).mp hfound
    have hmade := h.made _ hmem
    rw [h.serialOf_eq hmem]
    by_cases hserial : serial = found
    · simp [hserial, List.getElem?_eq_getElem hmade]
    · simp [hserial, Ne.symm hserial]

/-! ## What requests make of a new registry -/

/-- The names are what the requests to a new registry have made them. -/
structure Names (start : TypeRegistry) (requests : List Request) : Prop where
  /-- The cached instances have been handed out. -/
  handed : ∀ entry ∈ (start.after requests).cached,
    ⟨entry.1, .interned start.number entry.2⟩ ∈ start.answers requests
  /-- Instances of different codes have different serial numbers. -/
  code_eq : ∀ code code' serial, ⟨code, .interned start.number serial⟩ ∈ start.answers requests →
    ⟨code', .interned start.number serial⟩ ∈ start.answers requests → code = code'
  /-- Those that have been handed out are called by the first real name. -/
  called : ∀ code serial, ⟨code, .interned start.number serial⟩ ∈ start.answers requests →
    (start.after requests).names[serial]? =
      some (firstReal (start.namesFor ⟨code, .interned start.number serial⟩ requests))

namespace Names

theorem serial_lt (h : start.Names requests)
    (hmem : ⟨code, .interned start.number serial⟩ ∈ start.answers requests) :
    serial < (start.after requests).names.length :=
  (List.getElem?_eq_some_iff.mp (h.called _ _ hmem)).1

/-- The instance that a request gets has been handed out before unless it is made now. -/
theorem mem_or_eq_length (h : start.Names requests)
    (hreflects : (start.after requests).Reflects requests) (code : UInt32) :
    ⟨code, .interned start.number ((start.after requests).serialOf code)⟩ ∈
        start.answers requests ∨
      (start.after requests).serialOf code = (start.after requests).names.length := by
  by_cases hcached : code ∈ (start.after requests).cached.map Prod.fst
  · exact .inl (h.handed _ (hreflects.mem_cached hcached))
  · exact .inr (serialOf_of_notMem hcached)

/-- No instance of another code has the serial number of the instance that a request gets. -/
theorem code_eq_of_serialOf (h : start.Names requests)
    (hreflects : (start.after requests).Reflects requests) {other : UInt32}
    (hmem : ⟨other, .interned start.number ((start.after requests).serialOf code)⟩ ∈
      start.answers requests) : other = code := by
  rcases h.mem_or_eq_length hreflects code with hgiven | hnew
  · exact h.code_eq _ _ _ hmem hgiven
  · exact absurd hnew (Nat.ne_of_lt (h.serial_lt hmem))

/-- The instance that a request gets is called by the first real name so far. -/
theorem getD_names_eq (h : start.Names requests)
    (hreflects : (start.after requests).Reflects requests) (code : UInt32) :
    ((start.after requests).names[(start.after requests).serialOf code]?).getD
        ValueType.placeholder =
      firstReal (start.namesFor
        ⟨code, .interned start.number ((start.after requests).serialOf code)⟩ requests) := by
  by_cases hmem : ⟨code, .interned start.number ((start.after requests).serialOf code)⟩ ∈
      start.answers requests
  · rw [h.called _ _ hmem, Option.getD_some]
  · -- nobody has been given the instance, which has no name yet
    have hnew := (h.mem_or_eq_length hreflects code).resolve_left hmem
    rw [namesFor_eq_nil hmem, hnew, List.getElem?_eq_none (Nat.le_refl _)]
    rfl

/-- A request for a well-known type names nothing. -/
theorem concat_of_wellKnown (h : start.Names requests)
    (hcode : request.code ∈ ValueType.wellKnown.map ValueType.code) :
    start.Names (requests ++ [request]) := by
  have hanswer := (start.after requests).answer_of_wellKnown hcode
  have hafter : start.after (requests ++ [request]) = start.after requests := by
    rw [after_append]
    exact congrArg Prod.snd hanswer
  have hanswers : start.answers (requests ++ [request]) =
      start.answers requests ++ [⟨request.code, .pinned⟩] := by
    rw [answers_append, answers, answers, hanswer]
  have hold : ∀ code serial, ⟨code, .interned start.number serial⟩ ∈
      start.answers (requests ++ [request]) →
      ⟨code, .interned start.number serial⟩ ∈ start.answers requests := by
    simp [hanswers]
  constructor
  · intro entry hentry
    rw [hafter] at hentry
    rw [hanswers]
    exact List.mem_append_left _ (h.handed entry hentry)
  · exact fun code code' serial hmem hmem' => h.code_eq _ _ serial (hold _ _ hmem) (hold _ _ hmem')
  · intro code serial hmem
    have hnone : (⟨request.code, .pinned⟩ : ValueType) ≠ ⟨code, .interned start.number serial⟩ := by
      simp
    rw [hafter, namesFor_append, namesFor_singleton, hanswer, if_neg hnone, List.append_nil]
    exact h.called code serial (hold _ _ hmem)

/-- A request for another type may name the instance that it gets. -/
theorem concat (h : start.Names requests) (hreflects : (start.after requests).Reflects requests)
    (hcode : request.code ∉ ValueType.wellKnown.map ValueType.code) :
    start.Names (requests ++ [request]) := by
  have hanswer := (hreflects.exists_cached_answer hcode).1
  rw [number_after] at hanswer
  have hafter : start.after (requests ++ [request]) = ((start.after requests).answer request).2 :=
    start.after_append requests [request]
  have hanswers : start.answers (requests ++ [request]) = start.answers requests ++
      [⟨request.code, .interned start.number ((start.after requests).serialOf request.code)⟩] := by
    rw [answers_append, answers, answers, hanswer]
  have hmem_iff : ∀ code serial, ⟨code, .interned start.number serial⟩ ∈
      start.answers (requests ++ [request]) ↔
      ⟨code, .interned start.number serial⟩ ∈ start.answers requests ∨
        code = request.code ∧ serial = (start.after requests).serialOf request.code := by
    simp [hanswers]
  constructor
  · intro entry hentry
    rw [hmem_iff]
    obtain ⟨names, heq, -⟩ := exists_answer_eq _ hcode hreflects.length_le
    rw [hafter, heq] at hentry
    rcases List.mem_cons.mp (List.mem_of_mem_take hentry) with rfl | hkept
    · exact .inr ⟨rfl, rfl⟩
    · exact .inl (h.handed entry (List.mem_of_mem_filter hkept))
  · intro code code' serial hmem hmem'
    rcases (hmem_iff _ _).mp hmem with hold | ⟨rfl, rfl⟩
    · rcases (hmem_iff _ _).mp hmem' with hold' | ⟨rfl, rfl⟩
      · exact h.code_eq _ _ _ hold hold'
      · exact h.code_eq_of_serialOf hreflects hold
    · rcases (hmem_iff _ _).mp hmem' with hold' | ⟨rfl, -⟩
      · exact (h.code_eq_of_serialOf hreflects hold').symm
      · rfl
  · intro code serial hmem
    rw [hafter, hreflects.getElem?_names_answer hcode, namesFor_append, namesFor_singleton, hanswer]
    by_cases hserial : serial = (start.after requests).serialOf request.code
    · -- the request got this instance, whatever code it was looked up for
      have hsame : code = request.code := by
        rcases (hmem_iff _ _).mp hmem with hold | ⟨hsame, -⟩
        · exact h.code_eq_of_serialOf hreflects (hserial ▸ hold)
        · exact hsame
      rw [hserial, hsame, if_pos rfl, if_pos rfl, firstReal_concat,
        h.getD_names_eq hreflects request.code]
    · have hother : (⟨request.code, .interned start.number
          ((start.after requests).serialOf request.code)⟩ : ValueType) ≠
          ⟨code, .interned start.number serial⟩ := by
        simp [Ne.symm hserial]
      have hold := ((hmem_iff _ _).mp hmem).resolve_right fun hnew => hserial hnew.2
      rw [if_neg hserial, if_neg hother, List.append_nil]
      exact h.called code serial hold

end Names

variable {number capacity : Nat}

/-- In a new registry the names tell what was asked for, after every history. -/
theorem names_after (number capacity : Nat) (requests : List Request) :
    ({ number, capacity } : TypeRegistry).Names requests := by
  induction requests using List.reverseRecOn with
  | nil =>
    constructor
    all_goals simp [answers, after]
  | append_singleton requests request ih =>
    by_cases hcode : request.code ∈ ValueType.wellKnown.map ValueType.code
    · exact ih.concat_of_wellKnown hcode
    · exact ih.concat (reflects_after number capacity requests) hcode

/-- An instance of a type that is not well known belongs to the registry that handed it out. -/
theorem exists_eq_interned (hmem : type ∈ ({ number, capacity } : TypeRegistry).answers requests)
    (hcode : type.code ∉ ValueType.wellKnown.map ValueType.code) :
    ∃ serial, type = ⟨type.code, .interned number serial⟩ := by
  induction requests using List.reverseRecOn with
  | nil => cases hmem
  | append_singleton requests request ih =>
    rw [answers_append, List.mem_append, answers, answers, List.mem_singleton] at hmem
    rcases hmem with hearlier | hlast
    · exact ih hearlier
    · by_cases hknown : request.code ∈ ValueType.wellKnown.map ValueType.code
      · rw [answer_of_wellKnown _ hknown] at hlast
        exact absurd (hlast ▸ hknown) hcode
      · have hanswer := ((reflects_after number capacity requests).exists_cached_answer hknown).1
        rw [number_after] at hanswer
        rw [hlast, hanswer]
        exact ⟨_, rfl⟩

/-- An instance is called by the first real name among the requests that got it. -/
theorem name?_after (hmem : type ∈ ({ number, capacity } : TypeRegistry).answers requests)
    (hcode : type.code ∉ ValueType.wellKnown.map ValueType.code) :
    (({ number, capacity } : TypeRegistry).after requests).name? type =
      some (firstReal (({ number, capacity } : TypeRegistry).namesFor type requests)) := by
  obtain ⟨serial, heq⟩ := exists_eq_interned hmem hcode
  rw [heq] at hmem ⊢
  refine (if_pos (number_after { number, capacity } requests).symm).trans ?_
  exact (names_after number capacity requests).called _ _ hmem

/-- Every instance of a type that is not well known is called by the first real name among the
requests that got it, and by the placeholder as long as there is none. A request changes no name but
that of the instance that it gets, from the placeholder to the real name that it brings, and a real
name stays for good. The well-known types keep their names. -/
theorem name_eq_firstReal (number capacity : Nat) :
    let start : TypeRegistry := { number, capacity }
    (∀ requests, ∀ type ∈ start.answers requests,
      type.code ∉ ValueType.wellKnown.map ValueType.code →
      let registry := start.after requests
      registry.name? type = some (firstReal (start.namesFor type requests)) ∧
      (∀ request, (registry.answer request).2.name? type ≠ registry.name? type →
        (registry.answer request).1 = type ∧
        registry.name? type = some ValueType.placeholder ∧
        request.name ≠ ValueType.placeholder ∧
        (registry.answer request).2.name? type = some request.name) ∧
      ∀ later, registry.name? type ≠ some ValueType.placeholder →
        (registry.after later).name? type = registry.name? type) ∧
    ∀ requests, ValueType.wellKnown.map (start.after requests).nameOf =
      ["ANY", "BINARY", "TEXT", "TEST"] := by
  intro start
  refine ⟨fun requests type hmem hcode => ?_, fun requests => ?_⟩
  · intro registry
    have hname : registry.name? type = some (firstReal (start.namesFor type requests)) :=
      name?_after hmem hcode
    have hlater : ∀ later, (registry.after later).name? type =
        some (firstReal (start.namesFor type requests ++ registry.namesFor type later)) := by
      intro later
      have hstill : type ∈ start.answers (requests ++ later) := by
        rw [answers_append]
        exact List.mem_append_left _ hmem
      rw [← namesFor_append, ← after_append]
      exact name?_after hstill hcode
    refine ⟨hname, fun request hchange => ?_, fun later hreal => ?_⟩
    · have hnext : (registry.answer request).2.name? type = _ := hlater [request]
      rw [hnext, hname] at hchange ⊢
      rw [namesFor_singleton] at hchange ⊢
      by_cases hsame : (registry.answer request).1 = type
      · rw [if_pos hsame, firstReal_concat, refine] at hchange ⊢
        -- only the placeholder gives way to the name that the request brings
        by_cases hnone : firstReal (start.namesFor type requests) = ValueType.placeholder
        · rw [if_pos hnone, hnone] at hchange ⊢
          exact ⟨hsame, rfl, fun h => hchange (congrArg some h), rfl⟩
        · rw [if_neg hnone] at hchange
          exact absurd rfl hchange
      · rw [if_neg hsame, List.append_nil] at hchange
        exact absurd rfl hchange
    · rw [hname] at hreal
      rw [hlater, hname, firstReal_append, if_neg fun h => hreal (congrArg some h)]
  · rfl

/-- There is room for one type. The instance that was asked for first gets its name late, and keeps
it when the cache has lost it and the code is asked for under another name. -/
theorem name_eq_firstReal_of_lost_instance :
    let start : TypeRegistry := { capacity := 1 }
    let first : ValueType := ⟨1, .interned 0 0⟩
    let requests : List Request := [.valueOf 1, .canonical "A" 1, .canonical "B" 1]
    let later : List Request := [.valueOf 2, .canonical "C" 1]
    first ∈ start.answers requests ∧ (start.after requests).name? first = some "A" ∧
      ((start.after requests).after later).name? first = some "A" ∧
      (start.after (requests ++ later)).name? ⟨1, .interned 0 2⟩ = some "C" ∧
      (start.after requests).nameOf .text = "TEXT" := by
  intro start first requests later
  obtain ⟨hcalled, hknown⟩ := name_eq_firstReal 0 1
  have hmem : first ∈ start.answers requests := by decide
  obtain ⟨hname, -, hstays⟩ := hcalled requests first hmem (by decide)
  have hreal : (start.after requests).name? first = some "A" := hname.trans (by decide)
  obtain ⟨hanew, -, -⟩ := hcalled (requests ++ later) ⟨1, .interned 0 2⟩ (by decide) (by decide)
  refine ⟨hmem, hreal, ?_, hanew.trans (by decide), ?_⟩
  · exact (hstays later (hreal ▸ by decide)).trans hreal
  · exact (List.cons.inj (List.cons.inj (List.cons.inj (hknown requests)).2).2).1

end OverlayStore.TypeRegistry
