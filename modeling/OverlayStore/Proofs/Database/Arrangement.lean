import OverlayStore.Database
import OverlayStore.Proofs.Table
import Mathlib.Data.List.Flatten

/-!
# Where the records of a database are

A database is used through two look-ups: `bag?` by primary key, and `find?` by primary and secondary
key. This module says what each operation does to both, and that every operation keeps a database
arranged (`Database.Arranged`): no bag is empty, and every record is in the bag of its primary key
under its secondary key and has a value. In an arranged database the list of all records is what
`find?` finds, each record once.
-/

namespace OverlayStore

/-! ## Bags -/

namespace Bag

/-- Every record is in the bag of its key, under its creator, and has a value. -/
structure Sound (bag : Bag) : Prop where
  /-- The records belong to the key of the bag. -/
  key_eq : ∀ {secondary record}, bag.find? secondary = some record → record.key = bag.key
  /-- The records are found under their own secondary keys. -/
  secondary_eq : ∀ {secondary record}, bag.find? secondary = some record →
    record.secondary = secondary
  /-- No record stands for a deletion. -/
  value_nonempty : ∀ {secondary record}, bag.find? secondary = some record →
    record.value.isEmpty = false

/-- The record that was put is found by its creator, and all others are found as before. -/
@[simp]
theorem find?_put (bag : Bag) (record : Record) (secondary : Key) :
    (bag.put record).find? secondary =
      if secondary = record.secondary then some record else bag.find? secondary := by
  simp [put, find?]

/-- Nothing is found for the creator whose record was erased. -/
@[simp]
theorem find?_erase (bag : Bag) (creator secondary : Key) :
    (bag.erase creator).find? secondary =
      if secondary = creator then none else bag.find? secondary := by
  simp [erase, find?]

@[simp]
theorem find?_filter (bag : Bag) (keep : Record → Bool) (secondary : Key) :
    (bag.filter keep).find? secondary = (bag.find? secondary).filter keep := by
  simp [filter, find?]

/-- A bag is empty if nobody's record is found. -/
theorem isEmpty_iff (bag : Bag) : bag.isEmpty = true ↔ ∀ secondary, bag.find? secondary = none :=
  Table.isEmpty_iff bag.records

theorem isEmpty_eq_false_of_find? {bag : Bag} {secondary : Key} {record : Record}
    (h : bag.find? secondary = some record) : bag.isEmpty = false :=
  (Table.isEmpty_eq_false_iff bag.records).2 ⟨secondary, record, h⟩

theorem exists_find?_of_isEmpty_eq_false {bag : Bag} (h : bag.isEmpty = false) :
    ∃ secondary record, bag.find? secondary = some record :=
  (Table.isEmpty_eq_false_iff bag.records).1 h

/-- The records of a bag are those that are found for some creator. -/
theorem mem_toList_iff (bag : Bag) (record : Record) :
    record ∈ bag.toList ↔ ∃ secondary, bag.find? secondary = some record :=
  Table.mem_values_iff bag.records record

/-- A bag whose records all satisfy a condition is its own filter. -/
theorem filter_eq_self {bag : Bag} {keep : Record → Bool}
    (h : ∀ record ∈ bag.toList, keep record = true) : bag.filter keep = bag := by
  have hentries : (bag.records.entries.filter fun entry => keep entry.2) = bag.records.entries :=
    List.filter_eq_self.2 fun entry hm => h entry.2 (List.mem_map_of_mem hm)
  obtain ⟨key, ⟨entries, nodup⟩, load, lastRequest⟩ := bag
  simp only [filter, Table.filter, mk.injEq, Table.mk.injEq, true_and, and_true]
  exact hentries

/-- The size of a bag is the number of its records. -/
theorem size_eq_length_toList (bag : Bag) : bag.size = bag.toList.length := by
  simp [size, toList, Table.size, Table.values]

namespace Sound

/-- A bag is sound if every record that is found in it is in its place. -/
theorem of_forall {bag : Bag} (h : ∀ secondary record, bag.find? secondary = some record →
    record.key = bag.key ∧ record.secondary = secondary ∧ record.value.isEmpty = false) :
    bag.Sound where
  key_eq found := (h _ _ found).1
  secondary_eq found := (h _ _ found).2.1
  value_nonempty found := (h _ _ found).2.2

theorem new (key : Key) : ({ key } : Bag).Sound :=
  of_forall fun secondary record h => by cases h

/-- Putting a record with a value leaves a bag sound. -/
theorem put {bag : Bag} (sound : bag.Sound) {record : Record} (hkey : record.key = bag.key)
    (hvalue : record.value.isEmpty = false) : (bag.put record).Sound := by
  refine of_forall fun secondary other h => ?_
  rw [find?_put] at h
  by_cases hsecondary : secondary = record.secondary
  · -- what is found is the new record
    rw [if_pos hsecondary] at h
    cases h
    exact ⟨hkey, hsecondary.symm, hvalue⟩
  · rw [if_neg hsecondary] at h
    exact ⟨sound.key_eq h, sound.secondary_eq h, sound.value_nonempty h⟩

/-- A bag that finds no more than a sound one of the same key is sound. -/
theorem of_find? {bag rest : Bag} (sound : bag.Sound) (hkey : rest.key = bag.key)
    (h : ∀ {secondary record}, rest.find? secondary = some record →
      bag.find? secondary = some record) : rest.Sound where
  key_eq found := by rw [hkey]; exact sound.key_eq (h found)
  secondary_eq found := sound.secondary_eq (h found)
  value_nonempty found := sound.value_nonempty (h found)

theorem erase {bag : Bag} (sound : bag.Sound) (secondary : Key) : (bag.erase secondary).Sound := by
  refine sound.of_find? rfl fun {other record} h => ?_
  rw [find?_erase] at h
  split at h
  · cases h
  · exact h

theorem filter {bag : Bag} (sound : bag.Sound) (keep : Record → Bool) :
    (bag.filter keep).Sound := by
  refine sound.of_find? rfl fun {secondary record} h => ?_
  rw [find?_filter] at h
  exact (Option.filter_eq_some_iff.1 h).1

/-- The records of a sound bag are pairwise different. -/
theorem nodup_toList {bag : Bag} (sound : bag.Sound) : bag.toList.Nodup := by
  -- the secondary keys of the records are the keys of the table, and those do not repeat
  refine List.Nodup.of_map Record.secondary ?_
  have hkeys : bag.toList.map Record.secondary = bag.records.keys := by
    rw [toList, Table.values, List.map_map]
    refine List.map_congr_left fun entry hm => ?_
    exact sound.secondary_eq ((Table.mem_entries_iff bag.records entry.1 entry.2).1 hm)
  rw [hkeys]
  exact bag.records.nodup

end Sound

end Bag

/-! ## What the operations do to the look-ups -/

namespace Database

@[simp]
theorem bag?_discharge (db : Database) (record : Record) (key : Key) :
    (db.discharge record).bag? key = db.bag? key := rfl

@[simp]
theorem bags_foldl_discharge (db : Database) (records : List Record) :
    (records.foldl discharge db).bags = db.bags := by
  induction records generalizing db with
  | nil => rfl
  | cons record rest ih => rw [List.foldl_cons, ih]; rfl

@[simp]
theorem valueCount_foldl_discharge (db : Database) (records : List Record) :
    (records.foldl discharge db).valueCount = db.valueCount := by
  induction records generalizing db with
  | nil => rfl
  | cons record rest ih => rw [List.foldl_cons, ih]; rfl

/-- The bag that a record is put in. -/
def bagFor (db : Database) (record : Record) : Bag :=
  (db.bag? record.key).getD { key := record.key }

/-- Putting a record replaces the bag of its key. -/
theorem bag?_put (db : Database) (record : Record) (key : Key) :
    (db.put record).bag? key =
      if key = record.key then some ((db.bagFor record).put record) else db.bag? key := by
  -- whether a record is replaced matters to the counts only
  have hbags : (db.put record).bags =
      db.bags.insert record.key ((db.bagFor record).put record) := by
    unfold put bagFor
    dsimp only
    split <;> rfl
  rw [bag?, hbags, Table.find?_insert]
  rfl

/-- The bag that a record is put in finds what the database finds under its key. -/
theorem find?_bagFor (db : Database) (record : Record) (secondary : Key) :
    (db.bagFor record).find? secondary = db.find? record.key secondary := by
  unfold bagFor find?
  cases db.bag? record.key <;> rfl

/-- Putting a record changes what is found under its keys. -/
theorem find?_put (db : Database) (record : Record) (key secondary : Key) :
    (db.put record).find? key secondary =
      if key = record.key ∧ secondary = record.secondary then some record
      else db.find? key secondary := by
  rw [find?, bag?_put]
  by_cases hkey : key = record.key
  · -- inside the bag it is a matter of the secondary key
    subst hkey
    simp [find?_bagFor]
  · simp [hkey, find?]

/-- Nothing is taken out exactly where nothing is found. -/
theorem takeOut_eq_none_iff (db : Database) (key secondary : Key) :
    db.takeOut key secondary = none ↔ db.find? key secondary = none := by
  unfold takeOut find?
  cases db.bag? key with
  | none => simp
  | some bag => cases h : bag.find? secondary <;> simp [h]

/-- What is taken out, and what is left. -/
theorem exists_of_takeOut_eq_some {db rest : Database} {key secondary : Key} {record : Record}
    (h : db.takeOut key secondary = some (record, rest)) :
    ∃ bag, db.bag? key = some bag ∧ bag.find? secondary = some record ∧
      rest = { db with
        bags := if (bag.erase secondary).isEmpty then db.bags.erase key
          else db.bags.insert key (bag.erase secondary)
        valueCount := db.valueCount - 1 : Database }.discharge record := by
  unfold takeOut at h
  cases hbag : db.bag? key with
  | none => simp [hbag] at h
  | some bag =>
    cases hfound : bag.find? secondary with
    | none => simp [hbag, hfound] at h
    | some other =>
      simp only [hbag, hfound, Option.some.injEq, Prod.mk.injEq] at h
      obtain ⟨rfl, rfl⟩ := h
      exact ⟨bag, rfl, hfound, rfl⟩

/-- The record that is taken out was there. -/
theorem find?_of_takeOut_eq_some {db rest : Database} {key secondary : Key} {record : Record}
    (h : db.takeOut key secondary = some (record, rest)) :
    db.find? key secondary = some record := by
  obtain ⟨bag, hbag, hfound, -⟩ := exists_of_takeOut_eq_some h
  simp [find?, hbag, hfound]

/-- Taking a record out changes the bag of its key, which goes if nothing is left in it. -/
theorem bag?_takeOut {db rest : Database} {key secondary : Key} {record : Record}
    (h : db.takeOut key secondary = some (record, rest)) {bag : Bag} (hbag : db.bag? key = some bag)
    (other : Key) :
    rest.bag? other =
      if other = key then
        if (bag.erase secondary).isEmpty then none else some (bag.erase secondary)
      else db.bag? other := by
  obtain ⟨bag', hbag', -, rfl⟩ := exists_of_takeOut_eq_some h
  obtain rfl : bag = bag' := Option.some.inj (hbag.symm.trans hbag')
  rw [bag?_discharge, bag?]
  dsimp only
  split
  · rw [Table.find?_erase]; rfl
  · rw [Table.find?_insert]; rfl

/-- Taking a record out leaves nothing under its keys. -/
theorem find?_takeOut {db rest : Database} {key secondary : Key} {record : Record}
    (h : db.takeOut key secondary = some (record, rest)) (k s : Key) :
    rest.find? k s = if k = key ∧ s = secondary then none else db.find? k s := by
  obtain ⟨bag, hbag, -, -⟩ := exists_of_takeOut_eq_some h
  rw [find?, bag?_takeOut h hbag]
  by_cases hk : k = key
  · subst hk
    by_cases hempty : (bag.erase secondary).isEmpty = true
    · -- the bag is gone, but it would find nothing either
      have hnone := (Bag.isEmpty_iff _).1 hempty s
      rw [Bag.find?_erase] at hnone
      simp only [hempty, if_true, Option.bind_none, true_and, find?, hbag, Option.bind_some]
      exact hnone.symm
    · simp [hempty, find?, hbag]
  · simp [hk, find?]

/-- The records of a database are those in its bags. -/
theorem mem_records_iff_exists_bag (db : Database) (record : Record) :
    record ∈ db.records ↔ ∃ key bag, db.bag? key = some bag ∧ record ∈ bag.toList := by
  simp only [records, List.mem_flatMap, Table.mem_values_iff, bag?]
  constructor
  · rintro ⟨bag, ⟨key, hbag⟩, hm⟩
    exact ⟨key, bag, hbag, hm⟩
  · rintro ⟨key, bag, hbag, hm⟩
    exact ⟨bag, ⟨key, hbag⟩, hm⟩

/-- Retaining answers the records that do not satisfy the condition. -/
theorem result_retain (db : Database) (keep : Record → Bool) :
    (db.retain keep).result = db.records.filter fun record => !keep record := by
  unfold retain
  dsimp only
  split
  · rename_i hnone
    exact (List.isEmpty_iff.1 hnone).symm
  · rfl

/-- Retaining filters every bag and drops those that become empty. -/
theorem bag?_retain (db : Database) (keep : Record → Bool)
    (nonempty : ∀ {key bag}, db.bag? key = some bag → bag.isEmpty = false) (key : Key) :
    (db.retain keep).database.bag? key =
      ((db.bag? key).map fun bag => bag.filter keep).filter fun bag => !bag.isEmpty := by
  unfold retain
  dsimp only
  split
  · -- nothing is removed, so every bag is its own filter
    rename_i hnone
    have hkeep : ∀ record ∈ db.records, keep record = true := by
      simpa [List.filter_eq_nil_iff] using hnone
    cases hbag : db.bag? key with
    | none => rfl
    | some bag =>
      have hself : bag.filter keep = bag := Bag.filter_eq_self fun record hm =>
        hkeep record ((mem_records_iff_exists_bag db record).2 ⟨key, bag, hbag, hm⟩)
      simp [hself, Option.filter_some, nonempty hbag]
  · -- counting the removed records out does not touch the bags
    rw [bag?, bags_foldl_discharge, Table.find?_filter, Table.find?_map]
    rfl

/-- Retaining keeps what is found if it satisfies the condition. -/
theorem find?_retain (db : Database) (keep : Record → Bool)
    (nonempty : ∀ {key bag}, db.bag? key = some bag → bag.isEmpty = false) (key secondary : Key) :
    (db.retain keep).database.find? key secondary = (db.find? key secondary).filter keep := by
  rw [find?, bag?_retain db keep nonempty, find?]
  cases hbag : db.bag? key with
  | none => rfl
  | some bag =>
    by_cases hempty : (bag.filter keep).isEmpty = true
    · -- the bag is dropped, but its filter would find nothing either
      have hnone := (Bag.isEmpty_iff _).1 hempty secondary
      rw [Bag.find?_filter] at hnone
      simp [Option.filter_some, hempty, hnone]
    · simp [Option.filter_some, hempty]

/-- Asking for a request load changes the bag of the key. -/
theorem bag?_requestLoad (db : Database) (key : Key) (counted : Bool) (now : Time) (other : Key) :
    (db.requestLoad key counted now).2.bag? other =
      if other = key then (db.bag? key).map fun bag => (bag.requestLoad db.loadRule now counted).2
      else db.bag? other := by
  unfold requestLoad
  cases hbag : db.bag? key with
  | none => by_cases h : other = key <;> simp [h, hbag]
  | some bag =>
    dsimp only
    rw [bag?, Table.find?_insert]
    rfl

/-- A request leaves all records where they are. -/
@[simp]
theorem find?_requestLoad (db : Database) (key : Key) (counted : Bool) (now : Time)
    (k secondary : Key) :
    (db.requestLoad key counted now).2.find? k secondary = db.find? k secondary := by
  rw [find?, bag?_requestLoad]
  by_cases h : k = key
  · rw [if_pos h, ← h, find?]
    cases db.bag? k with
    | none => rfl
    | some bag => rfl
  · rw [if_neg h, find?]

/-! ## Arranged databases -/

/-- Every bag is in its place, none is empty, and all are sound. -/
structure Arranged (db : Database) : Prop where
  /-- The bags are found under their own keys. -/
  key_eq : ∀ {key bag}, db.bag? key = some bag → bag.key = key
  /-- A bag without records is forgotten. -/
  nonempty : ∀ {key bag}, db.bag? key = some bag → bag.isEmpty = false
  /-- The bags are sound. -/
  sound : ∀ {key bag}, db.bag? key = some bag → bag.Sound

/-- The records other than the one under a primary and a secondary key. -/
def others (db : Database) (key secondary : Key) : List Record :=
  db.records.filter fun record => ¬(record.key = key ∧ record.secondary = secondary)

namespace Arranged

variable {db : Database}

/-- What is found belongs to its keys and has a value. -/
theorem of_find? (arranged : db.Arranged) {key secondary : Key} {record : Record}
    (h : db.find? key secondary = some record) :
    record.key = key ∧ record.secondary = secondary ∧ record.value.isEmpty = false := by
  obtain ⟨bag, hbag, hfound⟩ := Option.bind_eq_some_iff.1 h
  have sound := arranged.sound hbag
  exact ⟨(sound.key_eq hfound).trans (arranged.key_eq hbag), sound.secondary_eq hfound,
    sound.value_nonempty hfound⟩

/-- Where there is a bag, there is a record in it. -/
theorem exists_find?_of_bag? (arranged : db.Arranged) {key : Key} {bag : Bag}
    (hbag : db.bag? key = some bag) : ∃ secondary record, db.find? key secondary = some record := by
  obtain ⟨secondary, record, hrecord⟩ :=
    Bag.exists_find?_of_isEmpty_eq_false (arranged.nonempty hbag)
  exact ⟨secondary, record, Option.bind_eq_some_iff.2 ⟨bag, hbag, hrecord⟩⟩

/-- The records are what is found under their own keys. -/
theorem mem_records_iff (arranged : db.Arranged) (record : Record) :
    record ∈ db.records ↔ db.find? record.key record.secondary = some record := by
  rw [mem_records_iff_exists_bag]
  constructor
  · rintro ⟨key, bag, hbag, hm⟩
    obtain ⟨secondary, hfound⟩ := (Bag.mem_toList_iff bag record).1 hm
    have h : db.find? key secondary = some record := by simp [find?, hbag, hfound]
    obtain ⟨rfl, rfl, -⟩ := arranged.of_find? h
    exact h
  · intro h
    obtain ⟨bag, hbag, hfound⟩ := Option.bind_eq_some_iff.1 h
    exact ⟨record.key, bag, hbag, (Bag.mem_toList_iff bag record).2 ⟨_, hfound⟩⟩

/-- No record is in the database twice. -/
theorem nodup_records (arranged : db.Arranged) : db.records.Nodup := by
  refine List.nodup_flatMap.2 ⟨fun bag hm => ?_, ?_⟩
  · obtain ⟨key, hbag⟩ := (Table.mem_values_iff db.bags bag).1 hm
    exact (arranged.sound hbag).nodup_toList
  · -- two bags have different keys, and a record tells the key of its bag
    refine List.pairwise_map.2 ((List.pairwise_map.1 db.bags.nodup).imp_of_mem ?_)
    rintro ⟨k₁, bag₁⟩ ⟨k₂, bag₂⟩ hm₁ hm₂ hne record hr₁ hr₂
    have hbag₁ : db.bag? k₁ = some bag₁ := (Table.mem_entries_iff db.bags k₁ bag₁).1 hm₁
    have hbag₂ : db.bag? k₂ = some bag₂ := (Table.mem_entries_iff db.bags k₂ bag₂).1 hm₂
    obtain ⟨s₁, hfound₁⟩ := (Bag.mem_toList_iff bag₁ record).1 hr₁
    obtain ⟨s₂, hfound₂⟩ := (Bag.mem_toList_iff bag₂ record).1 hr₂
    have h₁ : record.key = k₁ :=
      ((arranged.sound hbag₁).key_eq hfound₁).trans (arranged.key_eq hbag₁)
    have h₂ : record.key = k₂ :=
      ((arranged.sound hbag₂).key_eq hfound₂).trans (arranged.key_eq hbag₂)
    exact hne (h₁.symm.trans h₂)

/-- Any list of what is found, each record once, has the records up to their order. -/
theorem records_perm (arranged : db.Arranged) {records : List Record} (nodup : records.Nodup)
    (h : ∀ record, record ∈ records ↔ db.find? record.key record.secondary = some record) :
    db.records.Perm records :=
  (List.perm_ext_iff_of_nodup arranged.nodup_records nodup).2 fun record =>
    (arranged.mem_records_iff record).trans (h record).symm

/-! ### Every operation keeps a database arranged -/

/-- A database is arranged if each of its bags is in its place, not empty and sound. -/
theorem of_forall (h : ∀ key bag, db.bag? key = some bag →
    bag.key = key ∧ bag.isEmpty = false ∧ bag.Sound) : db.Arranged where
  key_eq hbag := (h _ _ hbag).1
  nonempty hbag := (h _ _ hbag).2.1
  sound hbag := (h _ _ hbag).2.2

/-- A database without bags is arranged. -/
theorem of_bag?_eq_none (h : ∀ key, db.bag? key = none) : db.Arranged := by
  refine of_forall fun key bag hbag => ?_
  rw [h key] at hbag
  cases hbag

/-- The bag that a record is put in has its key and is sound. -/
theorem bagFor (arranged : db.Arranged) (record : Record) :
    (db.bagFor record).key = record.key ∧ (db.bagFor record).Sound := by
  unfold Database.bagFor
  cases hbag : db.bag? record.key with
  | none => exact ⟨rfl, Bag.Sound.new record.key⟩
  | some bag => exact ⟨arranged.key_eq hbag, arranged.sound hbag⟩

/-- Putting a record with a value leaves a database arranged. -/
theorem put (arranged : db.Arranged) {record : Record} (hvalue : record.value.isEmpty = false) :
    (db.put record).Arranged := by
  obtain ⟨hkey, hsound⟩ := arranged.bagFor record
  have hfound : ((db.bagFor record).put record).find? record.secondary = some record := by simp
  refine of_forall fun key bag hbag => ?_
  rw [bag?_put] at hbag
  by_cases hsame : key = record.key
  · rw [if_pos hsame] at hbag
    cases hbag
    exact ⟨hkey.trans hsame.symm, Bag.isEmpty_eq_false_of_find? hfound,
      hsound.put hkey.symm hvalue⟩
  · rw [if_neg hsame] at hbag
    exact ⟨arranged.key_eq hbag, arranged.nonempty hbag, arranged.sound hbag⟩

/-- Taking a record out leaves a database arranged. -/
theorem takeOut (arranged : db.Arranged) {rest : Database} {key secondary : Key} {record : Record}
    (h : db.takeOut key secondary = some (record, rest)) : rest.Arranged := by
  obtain ⟨bag, hbag, -, -⟩ := exists_of_takeOut_eq_some h
  refine of_forall fun other left hleft => ?_
  rw [bag?_takeOut h hbag] at hleft
  by_cases hsame : other = key
  · rw [if_pos hsame] at hleft
    cases hempty : (bag.erase secondary).isEmpty with
    | true =>
      -- the bag has been forgotten
      rw [if_pos hempty] at hleft
      cases hleft
    | false =>
      rw [if_neg (Bool.eq_false_iff.1 hempty)] at hleft
      cases hleft
      exact ⟨(arranged.key_eq hbag).trans hsame.symm, hempty,
        (arranged.sound hbag).erase secondary⟩
  · rw [if_neg hsame] at hleft
    exact ⟨arranged.key_eq hleft, arranged.nonempty hleft, arranged.sound hleft⟩

/-- Retaining leaves a database arranged. -/
theorem retain (arranged : db.Arranged) (keep : Record → Bool) :
    (db.retain keep).database.Arranged := by
  refine of_forall fun key left hleft => ?_
  rw [bag?_retain db keep arranged.nonempty, Option.filter_eq_some_iff,
    Option.map_eq_some_iff] at hleft
  -- a bag that is left is the filter of a bag, and is not empty
  obtain ⟨⟨bag, hbag, rfl⟩, hne⟩ := hleft
  have hkey := arranged.key_eq hbag
  exact ⟨hkey, by simpa using hne, (arranged.sound hbag).filter keep⟩

theorem requestLoad (arranged : db.Arranged) (key : Key) (counted : Bool) (now : Time) :
    (db.requestLoad key counted now).2.Arranged := by
  refine of_forall fun other left hleft => ?_
  rw [bag?_requestLoad] at hleft
  by_cases hsame : other = key
  · rw [if_pos hsame] at hleft
    -- the bag differs from the one before in its load only
    obtain ⟨bag, hbag, rfl⟩ := Option.map_eq_some_iff.1 hleft
    have hkey := arranged.key_eq hbag
    have hne := arranged.nonempty hbag
    exact ⟨hkey.trans hsame.symm, hne, (arranged.sound hbag).of_find? rfl id⟩
  · rw [if_neg hsame] at hleft
    exact ⟨arranged.key_eq hleft, arranged.nonempty hleft, arranged.sound hleft⟩

/-! ### What the operations do to the list of records -/

/-- A record and the others are all records. -/
theorem records_perm_cons_others (arranged : db.Arranged) {key secondary : Key} {record : Record}
    (h : db.find? key secondary = some record) :
    db.records.Perm (record :: db.others key secondary) := by
  obtain ⟨hkey, hsecondary, -⟩ := arranged.of_find? h
  subst hkey hsecondary
  refine arranged.records_perm (List.nodup_cons.2 ⟨?_, arranged.nodup_records.filter _⟩) ?_
  · simp [others]
  · intro other
    simp only [List.mem_cons, others, List.mem_filter, arranged.mem_records_iff]
    constructor
    · rintro (rfl | ⟨hfound, -⟩)
      · exact h
      · exact hfound
    · intro hfound
      by_cases hsame : other.key = record.key ∧ other.secondary = record.secondary
      · -- one pair of keys finds one record
        rw [hsame.1, hsame.2, h] at hfound
        exact .inl (Option.some.inj hfound).symm
      · exact .inr ⟨hfound, decide_eq_true hsame⟩

/-- Where nothing is found, all records are others. -/
theorem others_eq_records (arranged : db.Arranged) {key secondary : Key}
    (h : db.find? key secondary = none) : db.others key secondary = db.records := by
  refine List.filter_eq_self.2 fun record hm => ?_
  have hfound := (arranged.mem_records_iff record).1 hm
  simp only [decide_eq_true_eq]
  rintro ⟨rfl, rfl⟩
  simp [h] at hfound

/-- After a record is put, there are that record and the others. -/
theorem records_put (arranged : db.Arranged) {record : Record}
    (hvalue : record.value.isEmpty = false) :
    (db.put record).records.Perm (record :: db.others record.key record.secondary) := by
  refine (arranged.put hvalue).records_perm
    (List.nodup_cons.2 ⟨by simp [others], arranged.nodup_records.filter _⟩) fun other => ?_
  simp only [List.mem_cons, others, List.mem_filter, arranged.mem_records_iff, find?_put]
  -- under the keys of the new record there is nothing else, and elsewhere nothing changes
  by_cases hsame : other.key = record.key ∧ other.secondary = record.secondary
  · simp [hsame, eq_comm]
  · have hne : other ≠ record := by rintro rfl; exact hsame ⟨rfl, rfl⟩
    simp [hsame, hne]

/-- After a record has been taken out, all others are left. -/
theorem records_takeOut (arranged : db.Arranged) {rest : Database} {key secondary : Key}
    {record : Record} (h : db.takeOut key secondary = some (record, rest)) :
    rest.records.Perm (db.others key secondary) := by
  refine (arranged.takeOut h).records_perm (arranged.nodup_records.filter _) fun other => ?_
  simp only [others, List.mem_filter, arranged.mem_records_iff, find?_takeOut h]
  by_cases hsame : other.key = key ∧ other.secondary = secondary <;> simp [hsame]

/-- After retaining, the records that satisfy the condition are left. -/
theorem records_retain (arranged : db.Arranged) (keep : Record → Bool) :
    (db.retain keep).database.records.Perm (db.records.filter keep) := by
  refine (arranged.retain keep).records_perm (arranged.nodup_records.filter _) fun other => ?_
  rw [List.mem_filter, arranged.mem_records_iff, find?_retain db keep arranged.nonempty,
    Option.filter_eq_some_iff]

/-- Asking for a load leaves all records. -/
theorem records_requestLoad (arranged : db.Arranged) (key : Key) (counted : Bool) (now : Time) :
    (db.requestLoad key counted now).2.records.Perm db.records := by
  refine (arranged.requestLoad key counted now).records_perm arranged.nodup_records fun other => ?_
  rw [arranged.mem_records_iff, find?_requestLoad]

end Arranged

end Database

end OverlayStore
