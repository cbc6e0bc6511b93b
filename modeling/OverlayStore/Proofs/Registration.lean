import Mathlib.Data.List.Induction
import OverlayStore.Proofs.Table
import OverlayStore.Value.Type

/-!
# Registrations

Factories and sources are registered for value types, one for each type, and taken away again. What
is registered after many such changes can be read off the changes without going through them one by
one: a registration stands if its type is not the wildcard and no later change concerns this type
(`RegistryChange.mem_standing_iff`). This module gives the registrations that stand, in order, and
what one more change does to them.
-/

namespace OverlayStore

/-- A change of what is registered for the value types. -/
inductive RegistryChange (α : Type) where
  /-- Register something for a type. -/
  | register (type : ValueType) (item : α)
  /-- Take away what is registered for a type. -/
  | unregister (type : ValueType)

namespace RegistryChange

variable {α : Type}

/-- The code of the type that a change concerns. -/
def code : RegistryChange α → UInt32
  | .register type _ => type.code
  | .unregister type => type.code

/-- The registrations that stand after some changes, by type code and in the order in which they
were made. -/
def standing : List (RegistryChange α) → List (UInt32 × α)
  | [] => []
  | .register type item :: later =>
    if type.isAny || later.any fun change => change.code = type.code then standing later
    else (type.code, item) :: standing later
  | .unregister _ :: later => standing later

variable {changes : List (RegistryChange α)} {change : RegistryChange α} {key : UInt32} {item : α}

/-- A registration stands unless the type is the wildcard or the code is changed later. -/
theorem standing_register (type : ValueType) (item : α) (later : List (RegistryChange α)) :
    standing (.register type item :: later) =
      if type.isAny = false ∧ ∀ change ∈ later, change.code ≠ type.code then
        (type.code, item) :: standing later
      else standing later := by
  rw [standing]
  by_cases hany : type.isAny = true
  · simp [hany]
  · by_cases hlater : ∃ change ∈ later, change.code = type.code
    · simp [hany, hlater]
    · simp [hany, not_exists.mp hlater]

/-- A single registration stands. -/
theorem standing_singleton {type : ValueType} (htype : type.isAny = false) (item : α) :
    standing [.register type item] = [(type.code, item)] :=
  (standing_register type item []).trans (if_pos ⟨htype, fun _ h => (List.not_mem_nil h).elim⟩)

/-- The wildcard type cannot be registered. -/
theorem standing_singleton_of_isAny {type : ValueType} (htype : type.isAny = true) (item : α) :
    standing [.register type item] = [] :=
  (standing_register type item []).trans
    (if_neg fun h => Bool.false_ne_true (h.1.symm.trans htype))

/-- A registration stands if it is not for the wildcard type and no change of its type follows. -/
theorem mem_standing_iff : (key, item) ∈ standing changes ↔
    ∃ earlier type later, changes = earlier ++ .register type item :: later ∧ type.code = key ∧
      type.isAny = false ∧ ∀ change ∈ later, change.code ≠ key := by
  induction changes with
  | nil => simp [standing]
  | cons change changes ih =>
    -- a registration that stands is the first change, or it stands after the other ones
    have hsplit : (∃ earlier type later, change :: changes =
          earlier ++ .register type item :: later ∧ type.code = key ∧ type.isAny = false ∧
          ∀ change ∈ later, change.code ≠ key) ↔
        (∃ type, change = .register type item ∧ type.code = key ∧ type.isAny = false ∧
          ∀ change ∈ changes, change.code ≠ key) ∨ (key, item) ∈ standing changes := by
      rw [ih]
      constructor
      · rintro ⟨_ | ⟨first, earlier⟩, type, later, heq, hrest⟩
        · obtain ⟨rfl, rfl⟩ := List.cons.inj heq
          exact .inl ⟨type, rfl, hrest⟩
        · exact .inr ⟨earlier, type, later, (List.cons.inj heq).2, hrest⟩
      · rintro (⟨type, rfl, hrest⟩ | ⟨earlier, type, later, rfl, hrest⟩)
        · exact ⟨[], type, changes, rfl, hrest⟩
        · exact ⟨change :: earlier, type, later, rfl, hrest⟩
    rw [hsplit]
    cases change with
    | unregister type => simp [standing]
    | register type first =>
      have hfirst : (∃ other, register type first = .register other item ∧ other.code = key ∧
            other.isAny = false ∧ ∀ change ∈ changes, change.code ≠ key) ↔
          (key, item) = (type.code, first) ∧
            type.isAny = false ∧ ∀ change ∈ changes, change.code ≠ type.code := by
        constructor
        · rintro ⟨_, heq, rfl, hrest⟩
          cases heq
          exact ⟨rfl, hrest⟩
        · rintro ⟨heq, hrest⟩
          cases heq
          exact ⟨type, rfl, rfl, hrest⟩
      rw [hfirst, standing_register]
      by_cases hstands : type.isAny = false ∧ ∀ change ∈ changes, change.code ≠ type.code
      · rw [if_pos hstands, List.mem_cons, and_iff_left hstands]
      · rw [if_neg hstands, or_iff_right fun h => hstands h.2]

/-- One more change takes away what is registered for its type, and may add itself at the end. -/
theorem standing_concat (changes : List (RegistryChange α)) (change : RegistryChange α) :
    standing (changes ++ [change]) =
      (standing changes).filter (fun entry => entry.1 ≠ change.code) ++ standing [change] := by
  induction changes with
  | nil => rfl
  | cons first changes ih =>
    cases first with
    | unregister type => exact ih
    | register type first =>
      rw [List.cons_append, standing_register, standing_register, ih]
      by_cases hstands : type.isAny = false ∧ ∀ change ∈ changes, change.code ≠ type.code
      · rw [if_pos hstands]
        by_cases hsame : change.code = type.code
        · -- the new change is the one that makes the registration fall
          have hfalls : ¬(type.isAny = false ∧
              ∀ other ∈ changes ++ [change], other.code ≠ type.code) := fun h =>
            h.2 change (by simp) hsame
          rw [if_neg hfalls, List.filter_cons_of_neg (by simp [hsame])]
        · have hstill : ∀ other ∈ changes ++ [change], other.code ≠ type.code := by
            intro other hmem
            rcases List.mem_append.mp hmem with hold | hnew
            · exact hstands.2 other hold
            · exact List.mem_singleton.mp hnew ▸ hsame
          rw [if_pos ⟨hstands.1, hstill⟩, List.filter_cons_of_pos (by simp [Ne.symm hsame]),
            List.cons_append]
      · have hfalls : ¬(type.isAny = false ∧
            ∀ other ∈ changes ++ [change], other.code ≠ type.code) := fun h =>
          hstands ⟨h.1, fun other hmem => h.2 other (List.mem_append_left _ hmem)⟩
        rw [if_neg hstands, if_neg hfalls]

/-- After one more change, the registrations of other codes stand as before. -/
theorem mem_standing_concat {entry : UInt32 × α} : entry ∈ standing (changes ++ [change]) ↔
    (entry ∈ standing changes ∧ entry.1 ≠ change.code) ∨ entry ∈ standing [change] := by
  simp [standing_concat]

/-- Nothing is ever registered for the wildcard type. -/
theorem ne_anyCode_of_mem_standing {entry : UInt32 × α} (h : entry ∈ standing changes) :
    entry.1 ≠ ValueType.anyCode := by
  obtain ⟨-, type, -, -, hcode, hany, -⟩ := mem_standing_iff.mp h
  exact hcode ▸ of_decide_eq_false hany

/-- No type is registered twice. -/
theorem nodup_standing (changes : List (RegistryChange α)) :
    ((standing changes).map Prod.fst).Nodup := by
  induction changes with
  | nil => exact List.nodup_nil
  | cons change changes ih =>
    cases change with
    | unregister type => exact ih
    | register type item =>
      rw [standing_register]
      split
      · rename_i hstands
        -- a later registration of the same code would have superseded this one
        refine List.nodup_cons.mpr ⟨fun hmem => ?_, ih⟩
        obtain ⟨⟨_, other⟩, hentry, rfl⟩ := List.mem_map.mp hmem
        obtain ⟨earlier, type', later, rfl, hcode, -⟩ := mem_standing_iff.mp hentry
        exact hstands.2 (.register type' other) (by simp) hcode
      · exact ih

end RegistryChange

end OverlayStore
