import OverlayStore.Table
import Mathlib.Data.List.Perm.Basic
import Mathlib.Data.List.Nodup

/-!
# Tables through their look-up

A table is a list of entries, but it is used as the function `find?`. This module ties the two: the
entries, keys and values of a table are those that can be found, each once, so two tables that find
the same have the same entries up to their order (`entries_perm_of_find?_eq`). Where the keys of
both come in the order of one list, the two tables are equal (`eq_of_keys_sublist`).
-/

namespace OverlayStore.Table

variable {κ α β : Type} [DecidableEq κ]

/-- What an entry list with distinct keys finds are its entries. -/
theorem findIn_eq_some_iff {entries : List (κ × α)} (nodup : (entries.map Prod.fst).Nodup)
    (key : κ) (value : α) : findIn key entries = some value ↔ (key, value) ∈ entries := by
  induction entries with
  | nil => simp [findIn]
  | cons entry rest ih =>
    obtain ⟨k, a⟩ := entry
    simp only [List.map_cons, List.nodup_cons] at nodup
    by_cases h : k = key
    · -- the key of the first entry does not occur again
      subst h
      have hnot : (k, value) ∉ rest := fun hm => nodup.1 (List.mem_map.mpr ⟨_, hm, rfl⟩)
      simp [findIn, hnot, eq_comm]
    · simp [findIn, h, ih nodup.2, Ne.symm h]

/-- The entries of a table are the pairs of a key and what it finds. -/
theorem mem_entries_iff (table : Table κ α) (key : κ) (value : α) :
    (key, value) ∈ table.entries ↔ table.find? key = some value :=
  (findIn_eq_some_iff table.nodup key value).symm

/-- The keys of a table are those that find something. -/
theorem mem_keys_iff (table : Table κ α) (key : κ) :
    key ∈ table.keys ↔ ∃ value, table.find? key = some value := by
  simp [keys, mem_entries_iff]

/-- The values of a table are those that some key finds. -/
theorem mem_values_iff (table : Table κ α) (value : α) :
    value ∈ table.values ↔ ∃ key, table.find? key = some value := by
  simp [values, mem_entries_iff]

/-- A table is empty if no key finds anything. -/
theorem isEmpty_iff (table : Table κ α) :
    table.isEmpty = true ↔ ∀ key, table.find? key = none := by
  rw [isEmpty, List.isEmpty_iff]
  constructor
  · intro h key
    rw [find?, h, findIn]
  · intro h
    refine List.eq_nil_iff_forall_not_mem.2 fun entry hm => ?_
    have hfound := (mem_entries_iff table entry.1 entry.2).1 hm
    simp [h entry.1] at hfound

theorem isEmpty_eq_false_iff (table : Table κ α) :
    table.isEmpty = false ↔ ∃ key value, table.find? key = some value := by
  rw [← Bool.not_eq_true, isEmpty_iff]
  simp [Option.ne_none_iff_exists']

/-- Tables that find the same have the same entries. -/
theorem entries_perm_of_find?_eq {a b : Table κ α} (h : ∀ key, a.find? key = b.find? key) :
    a.entries.Perm b.entries := by
  refine (List.perm_ext_iff_of_nodup (List.Nodup.of_map _ a.nodup)
    (List.Nodup.of_map _ b.nodup)).2 ?_
  rintro ⟨key, value⟩
  rw [mem_entries_iff, mem_entries_iff, h]

/-- A key finds the changed value. -/
@[simp]
theorem find?_map (table : Table κ α) (change : κ → α → β) (key : κ) :
    (table.map change).find? key = (table.find? key).map (change key) := by
  show findIn key (table.entries.map _) = (findIn key table.entries).map _
  induction table.entries with
  | nil => rfl
  | cons entry rest ih =>
    obtain ⟨k, a⟩ := entry
    by_cases h : k = key
    · subst h; simp [findIn]
    · simpa [findIn, h] using ih

/-! ## The order of keys -/

omit [DecidableEq κ] in
@[simp]
theorem keys_map (table : Table κ α) (change : κ → α → β) :
    (table.map change).keys = table.keys := by
  simp [keys, map]

omit [DecidableEq κ] in
/-- Filtering leaves the order of the keys alone. -/
theorem keys_filter_sublist (table : Table κ α) (keep : κ → α → Bool) :
    (table.filter keep).keys.Sublist table.keys :=
  List.filter_sublist.map Prod.fst

theorem keys_erase_sublist (table : Table κ α) (key : κ) :
    (table.erase key).keys.Sublist table.keys :=
  keys_filter_sublist table _

/-- A key that is there keeps its place when its value is replaced. -/
theorem keys_insert {table : Table κ α} {key : κ} {old : α} (h : table.find? key = some old)
    (value : α) : (table.insert key value).keys = table.keys := by
  rw [find?] at h
  show (putIn key value table.entries).map Prod.fst = table.entries.map Prod.fst
  generalize table.entries = entries at h ⊢
  induction entries with
  | nil => cases h
  | cons entry rest ih =>
    obtain ⟨k, a⟩ := entry
    by_cases hk : k = key
    -- the value is replaced here, and the entries behind it are not touched
    · simp [putIn, hk]
    · simp only [findIn, hk, if_false] at h
      simp [putIn, hk, ih h]

/-- A new key is put at the end of the entries. -/
theorem putIn_of_notMem {key : κ} {entries : List (κ × α)}
    (h : key ∉ entries.map Prod.fst) (value : α) :
    putIn key value entries = entries ++ [(key, value)] := by
  induction entries with
  | nil => rfl
  | cons entry rest ih =>
    obtain ⟨k, a⟩ := entry
    rw [List.map_cons, List.mem_cons, not_or] at h
    rw [putIn, if_neg (Ne.symm h.1), ih h.2, List.cons_append]

/-- A new key goes to the end. -/
theorem keys_insert_of_new {table : Table κ α} {key : κ} (h : table.find? key = none) (value : α) :
    (table.insert key value).keys = table.keys ++ [key] := by
  have hentries := putIn_of_notMem ((findIn_eq_none_iff key table.entries).mp h) value
  show (putIn key value table.entries).map Prod.fst = _
  rw [hentries, List.map_append]
  rfl

/-- An entry that goes to the end leaves the order of the others. -/
theorem entries_insertLast (table : Table κ α) (key : κ) (value : α) :
    (table.insertLast key value).entries =
      table.entries.filter (fun entry => entry.1 ≠ key) ++ [(key, value)] := by
  refine putIn_of_notMem ?_ value
  rw [List.mem_map]
  rintro ⟨entry, hmem, rfl⟩
  exact of_decide_eq_true (List.mem_filter.mp hmem).2 rfl

/-- The entries of a table are what its keys find, in their order. -/
theorem entries_eq_filterMap (table : Table κ α) :
    table.entries = table.keys.filterMap fun key => (table.find? key).map (key, ·) := by
  have hfound : ∀ entry ∈ table.entries,
      some entry = (table.find? entry.1).map (entry.1, ·) := by
    intro entry hm
    rw [(mem_entries_iff table entry.1 entry.2).1 hm]
    rfl
  rw [keys, List.filterMap_map]
  calc table.entries = table.entries.filterMap some := List.filterMap_some.symm
    _ = _ := List.filterMap_congr hfound

/-- Tables that find the same are equal if their keys come in the order of one list. -/
theorem eq_of_keys_sublist {a b : Table κ α} {order : List κ} (nodup : order.Nodup)
    (ha : a.keys.Sublist order) (hb : b.keys.Sublist order)
    (h : ∀ key, a.find? key = b.find? key) : a = b := by
  have hperm : a.keys.Perm b.keys := (entries_perm_of_find?_eq h).map Prod.fst
  -- the same keys in the order of one list are the same list, and the look-up does the rest
  have hkeys : a.keys = b.keys := (nodup.perm_iff_eq_of_sublist ha hb).1 hperm
  have hentries : a.entries = b.entries := by
    rw [entries_eq_filterMap a, entries_eq_filterMap b, hkeys]
    simp only [h]
  cases a
  cases b
  congr

end OverlayStore.Table
