/-!
# Finite tables

Finite maps as lists of entries with distinct keys. A new key goes to the end and a replaced one
keeps its place. The view of a table is `find?`; the lemmas below say what each operation does to
it.
-/

namespace OverlayStore

/-- A finite map: entries with distinct keys. -/
structure Table (κ α : Type) where
  /-- The entries, in the order in which their keys came in. -/
  entries : List (κ × α)
  /-- No key occurs twice. -/
  nodup : (entries.map Prod.fst).Nodup

namespace Table

variable {κ α β : Type}

/-- The table without entries. -/
def empty : Table κ α := ⟨[], List.nodup_nil⟩

instance : Inhabited (Table κ α) := ⟨empty⟩

/-- The number of entries. -/
def size (table : Table κ α) : Nat := table.entries.length

/-- There are no entries. -/
def isEmpty (table : Table κ α) : Bool := table.entries.isEmpty

/-- The keys, in order. -/
def keys (table : Table κ α) : List κ := table.entries.map Prod.fst

/-- The values, in order of their keys. -/
def values (table : Table κ α) : List α := table.entries.map Prod.snd

/-- The table of the entries that satisfy a condition. -/
def filter (keep : κ → α → Bool) (table : Table κ α) : Table κ α where
  entries := table.entries.filter fun entry => keep entry.1 entry.2
  nodup := List.Sublist.nodup (List.Sublist.map Prod.fst List.filter_sublist) table.nodup

/-- Change every value. -/
def map (change : κ → α → β) (table : Table κ α) : Table κ β where
  entries := table.entries.map fun entry => (entry.1, change entry.1 entry.2)
  nodup := by
    have h : (table.entries.map fun entry => (entry.1, change entry.1 entry.2)).map Prod.fst =
        table.entries.map Prod.fst := by simp
    rw [h]; exact table.nodup

section Keyed

variable [DecidableEq κ]

/-- Find the value of a key among entries. -/
def findIn (key : κ) : List (κ × α) → Option α
  | [] => none
  | (k, a) :: rest => if k = key then some a else findIn key rest

/-- Replace the value of a key among entries, or add an entry at the end. -/
def putIn (key : κ) (value : α) : List (κ × α) → List (κ × α)
  | [] => [(key, value)]
  | (k, a) :: rest => if k = key then (key, value) :: rest else (k, a) :: putIn key value rest

/-- Putting an entry adds its key and no other. -/
theorem mem_keys_putIn (key : κ) (value : α) (entries : List (κ × α)) (k : κ) :
    k ∈ (putIn key value entries).map Prod.fst ↔ k = key ∨ k ∈ entries.map Prod.fst := by
  induction entries with
  | nil => simp [putIn]
  | cons entry rest ih =>
    obtain ⟨k', a⟩ := entry
    by_cases h : k' = key
    · simp [putIn, h]
    · simp only [putIn, h, if_false, List.map_cons, List.mem_cons, ih]
      constructor
      · rintro (h | h | h) <;> simp [h]
      · rintro (h | h | h) <;> simp [h]

/-- Putting an entry repeats no key. -/
theorem nodup_putIn (key : κ) (value : α) (entries : List (κ × α))
    (h : (entries.map Prod.fst).Nodup) : ((putIn key value entries).map Prod.fst).Nodup := by
  induction entries with
  | nil => simp [putIn]
  | cons entry rest ih =>
    obtain ⟨k, a⟩ := entry
    simp only [List.map_cons, List.nodup_cons] at h
    by_cases hk : k = key
    · subst hk; simpa [putIn] using h
    · simp only [putIn, hk, if_false, List.map_cons, List.nodup_cons, mem_keys_putIn]
      exact ⟨fun hm => hm.elim False.elim h.1, ih h.2⟩

/-- The value of a key. -/
def find? (table : Table κ α) (key : κ) : Option α := findIn key table.entries

/-- The key has a value. -/
def contains (table : Table κ α) (key : κ) : Bool := (table.find? key).isSome

/-- Give a key a value, in place of the one it has. -/
def insert (table : Table κ α) (key : κ) (value : α) : Table κ α :=
  ⟨putIn key value table.entries, nodup_putIn key value _ table.nodup⟩

/-- Take a key and its value away. -/
def erase (table : Table κ α) (key : κ) : Table κ α :=
  table.filter fun k _ => k ≠ key

/-- Give a key a value, at the end even if it has one already. -/
def insertLast (table : Table κ α) (key : κ) (value : α) : Table κ α :=
  (table.erase key).insert key value

/-! ## The view -/

/-- Nothing is found exactly for the keys that are not there. -/
theorem findIn_eq_none_iff (key : κ) (entries : List (κ × α)) :
    findIn key entries = none ↔ key ∉ entries.map Prod.fst := by
  induction entries with
  | nil => simp [findIn]
  | cons entry rest ih =>
    obtain ⟨k, a⟩ := entry
    by_cases h : k = key
    · simp [findIn, h]
    · simp only [findIn, h, if_false, ih, List.map_cons, List.mem_cons, not_or]
      exact ⟨fun hr => ⟨fun e => h e.symm, hr⟩, fun hr => hr.2⟩

/-- After an entry is put, its key finds its value and other keys what they found. -/
theorem findIn_putIn (key : κ) (value : α) (entries : List (κ × α)) (k : κ) :
    findIn k (putIn key value entries) = if k = key then some value else findIn k entries := by
  induction entries with
  | nil =>
    by_cases h : k = key
    · simp [putIn, findIn, h]
    · simp [putIn, findIn, h, Ne.symm h]
  | cons entry rest ih =>
    obtain ⟨k', a⟩ := entry
    by_cases h : k' = key
    · subst h
      by_cases hk : k = k'
      · simp [putIn, findIn, hk]
      · simp [putIn, findIn, hk, Ne.symm hk]
    · by_cases hk' : k' = k
      · subst hk'; simp [putIn, findIn, h]
      · simp [putIn, findIn, h, hk', ih]

/-- A key finds in the kept entries what it found before, if that is kept. -/
theorem findIn_filter (keep : κ → α → Bool) (entries : List (κ × α))
    (nodup : (entries.map Prod.fst).Nodup) (k : κ) :
    findIn k (entries.filter fun entry => keep entry.1 entry.2) =
      (findIn k entries).filter (keep k) := by
  induction entries with
  | nil => simp [findIn]
  | cons entry rest ih =>
    obtain ⟨k', a⟩ := entry
    simp only [List.map_cons, List.nodup_cons] at nodup
    by_cases hk : k' = k
    · subst hk
      by_cases h : keep k' a
      · simp [findIn, h, Option.filter]
      · have none_rest : findIn k' rest = none := (findIn_eq_none_iff k' rest).2 nodup.1
        simp [findIn, h, ih nodup.2, none_rest, Option.filter]
    · by_cases h : keep k' a <;> simp [findIn, h, hk, ih nodup.2]

/-- The empty table has no values. -/
@[simp] theorem find?_empty (k : κ) : (empty : Table κ α).find? k = none := rfl

/-- Inserting changes what its own key finds. -/
@[simp] theorem find?_insert (table : Table κ α) (key : κ) (value : α) (k : κ) :
    (table.insert key value).find? k = if k = key then some value else table.find? k :=
  findIn_putIn key value table.entries k

/-- Filtering keeps or drops what a key finds. -/
@[simp] theorem find?_filter (table : Table κ α) (keep : κ → α → Bool) (k : κ) :
    (table.filter keep).find? k = (table.find? k).filter (keep k) :=
  findIn_filter keep table.entries table.nodup k

/-- Erasing leaves nothing to its own key. -/
@[simp] theorem find?_erase (table : Table κ α) (key k : κ) :
    (table.erase key).find? k = if k = key then none else table.find? k := by
  by_cases h : k = key
  · simp [erase, h]
  · cases hf : table.find? k <;> simp [erase, h, hf]

end Keyed

end Table

end OverlayStore
