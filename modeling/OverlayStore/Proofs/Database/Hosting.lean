import OverlayStore.Proofs.Database.Renewal

/-!
# Databases that serve one creator

Some databases are only ever sent records of a single creator, who delivers them himself. Under the
standard policy such a database has at most one record for each key. It accepts a record exactly if
it has one under the record's key afterwards, and it never turns down a key that it has once
accepted. So what it holds can be read off from which keys it has accepted.
-/

namespace OverlayStore.Database

/-- A database with the standard policy in which all records are those that one creator has
delivered himself. -/
structure Hosts (creator : Contact) (db : Database) : Prop where
  /-- The database is well formed. -/
  wellFormed : db.WellFormed
  /-- The standard policy is installed. -/
  policy : ∃ maxPerKey, db.policy = some (Admission.standard maxPerKey)
  /-- Every record was made and delivered by the creator, and the limits tolerate it. -/
  delivered : ∀ record ∈ db.records, db.limits.Tolerates record ∧
    ∃ key value time, record = Lease.record ⟨creator, creator, key⟩ value time

namespace Hosts

variable {db : Database} {creator : Contact} {key : Key} {value : Value} {time : Time}

theorem fresh (limits : FloodLimits) (loadRule : LoadRule) (maxPerKey : Nat)
    (creator : Contact) :
    ({ limits, loadRule, policy := some (Admission.standard maxPerKey) } : Database).Hosts
      creator where
  wellFormed := .fresh limits loadRule _
  policy := ⟨maxPerKey, rfl⟩
  delivered := by
    intro record hmem
    cases hmem

/-- All records belong to the creator. -/
theorem secondary_eq (h : db.Hosts creator) {record : Record} (hmem : record ∈ db.records) :
    record.secondary = creator.id := by
  obtain ⟨-, key, value, time, rfl⟩ := h.delivered record hmem
  rfl

/-- No other creator has a record under a key. -/
theorem contains_eq_false (h : db.Hosts creator) (hnone : db.contains key creator.id = false)
    (secondary : Key) : db.contains key secondary = false := by
  refine eq_false_of_ne_true fun hcontains => ?_
  obtain ⟨held, hfound⟩ := Option.isSome_iff_exists.mp hcontains
  obtain ⟨rfl, rfl, -⟩ := h.wellFormed.of_find? hfound
  rw [h.secondary_eq ((h.wellFormed.mem_records_iff held).mpr hfound), hnone] at hcontains
  cases hcontains

/-- Where the database has a record under a key, the creator holds the lease of it. -/
theorem exists_holds (h : db.Hosts creator) (hcontains : db.contains key creator.id = true) :
    ∃ held, Lease.Holds ⟨creator, creator, key⟩ db held := by
  obtain ⟨held, hfound⟩ := Option.isSome_iff_exists.mp hcontains
  obtain ⟨rfl, hsecondary, -⟩ := h.wellFormed.of_find? hfound
  have hmem : held ∈ db.records := (h.wellFormed.mem_records_iff held).mpr (hsecondary ▸ hfound)
  obtain ⟨htolerated, key, value, time, rfl⟩ := h.delivered held hmem
  exact ⟨_, h.wellFormed, h.policy, ⟨value, time, rfl⟩, htolerated, hfound⟩

/-! ## Stores -/

/-- Storing for the creator goes on hosting it. -/
theorem store (h : db.Hosts creator) (key : Key) (value : Value) (time : Time) :
    (db.store (Lease.record ⟨creator, creator, key⟩ value time)).database.Hosts creator := by
  let request : Request := .store (Lease.record ⟨creator, creator, key⟩ value time)
  have hlimits : (db.serve request).limits = db.limits := congrArg Prod.fst (db.rules_serve rfl)
  refine ⟨h.wellFormed.serve request, ?_, ?_⟩
  · obtain ⟨maxPerKey, hpolicy⟩ := h.policy
    have hsame : (db.serve request).policy = db.policy := db.policy_serve rfl
    exact ⟨maxPerKey, hsame.trans hpolicy⟩
  · intro record hmem
    show (db.serve request).limits.Tolerates record ∧ _
    rw [hlimits]
    rcases h.wellFormed.mem_records_store hmem with hbefore | ⟨rfl, hadmits⟩
    · exact h.delivered record hbefore
    · have hwithin := (Bool.and_eq_true_iff.mp hadmits).1
      exact ⟨tolerates_of_withinLimits rfl hwithin, key, value, time, rfl⟩

/-- A record is accepted exactly if there is one under its key afterwards. -/
theorem result_store_eq (h : db.Hosts creator) (key : Key) (hvalue : value.isEmpty = false)
    (time : Time) :
    let stored := db.store (Lease.record ⟨creator, creator, key⟩ value time)
    stored.result = stored.database.contains key creator.id := by
  intro stored
  have hresult : stored.result = db.admits _ := db.result_store hvalue
  rw [hresult]
  cases hadmits : db.admits (Lease.record ⟨creator, creator, key⟩ value time) with
  | true =>
    have hholds := Lease.Holds.of_admits h.wellFormed h.policy hvalue hadmits
    exact (Option.isSome_iff_exists.mpr ⟨_, hholds.found⟩).symm
  | false =>
    have hsame : stored.database = db := by
      show (db.store _).database = db
      rw [database_store, hadmits]
      simp [Lease.record, hvalue]
    rw [hsame]
    -- a lease that is held would have been renewed
    refine (eq_false_of_ne_true fun hcontains => ?_).symm
    obtain ⟨held, hholds⟩ := h.exists_holds hcontains
    rw [hholds.admits value time] at hadmits
    cases hadmits

/-- A key that was accepted once is accepted again. -/
theorem result_store_of_contains (h : db.Hosts creator)
    (hcontains : db.contains key creator.id = true) (hvalue : value.isEmpty = false)
    (time : Time) :
    (db.store (Lease.record ⟨creator, creator, key⟩ value time)).result = true := by
  obtain ⟨held, hholds⟩ := h.exists_holds hcontains
  exact (db.result_store hvalue).trans (hholds.admits value time)

/-- A store does not concern what is held under other keys. -/
theorem contains_store_of_ne (h : db.Hosts creator) {key other : Key} (hne : other ≠ key)
    (value : Value) (time : Time) (secondary : Key) :
    (db.store (Lease.record ⟨creator, creator, key⟩ value time)).database.contains other secondary =
      db.contains other secondary := by
  have hfind := h.wellFormed.find?_serve (.store (Lease.record ⟨creator, creator, key⟩ value time))
    other secondary
  have hleaves : Request.leaves db other secondary
      (.store (Lease.record ⟨creator, creator, key⟩ value time)) = db.find? other secondary :=
    if_neg fun hsame => hne hsame.1
  exact congrArg Option.isSome (hfind.trans hleaves)

/-! ## What is held -/

/-- Every bag has exactly one record, for all records are of one creator. -/
theorem size_eq_one (h : db.Hosts creator) {bag : Bag} (hbag : db.bag? key = some bag) :
    bag.size = 1 := by
  -- all secondary keys of the bag are the id of the one creator, and no key repeats
  have hsecondary : ∀ other ∈ bag.records.keys, other = creator.id := by
    intro other hother
    obtain ⟨record, hfound⟩ := (Table.mem_keys_iff bag.records other).mp hother
    have hdb : db.find? key other = some record := by simp [find?, hbag, Bag.find?, hfound]
    obtain ⟨rfl, rfl, -⟩ := h.wellFormed.of_find? hdb
    exact h.secondary_eq ((h.wellFormed.mem_records_iff record).mpr hdb)
  have hsize : bag.size = bag.records.keys.length := by simp [Bag.size, Table.size, Table.keys]
  have hpos : 0 < bag.records.keys.length := by
    obtain ⟨other, record, hfound⟩ :=
      Bag.exists_find?_of_isEmpty_eq_false (h.wellFormed.nonempty hbag)
    exact List.length_pos_of_mem ((Table.mem_keys_iff bag.records other).mpr ⟨record, hfound⟩)
  have hle : bag.records.keys.length ≤ 1 := by
    have hnodup : bag.records.keys.Nodup := bag.records.nodup
    rw [List.eq_replicate_of_mem hsecondary] at hnodup
    exact List.nodup_replicate.mp hnodup
  omega

/-- There is one record for each key. -/
theorem valueCount_eq_keyCount (h : db.Hosts creator) : db.valueCount = db.keyCount := by
  have hsizes : db.bags.values.map Bag.size = List.replicate db.bags.values.length 1 := by
    refine List.eq_replicate_iff.mpr ⟨List.length_map _, ?_⟩
    intro size hsize
    obtain ⟨bag, hmem, rfl⟩ := List.mem_map.mp hsize
    obtain ⟨key, hbag⟩ := (Table.mem_values_iff db.bags bag).mp hmem
    exact h.size_eq_one hbag
  rw [h.wellFormed.valueCount_eq, hsizes]
  simp [keyCount, Table.size, Table.values]

/-- The number of records is the number of keys that were accepted, counted in any list that has
each of them once. -/
theorem valueCount_eq_countP (h : db.Hosts creator) {keys : List Key} (hnodup : keys.Nodup)
    (hall : ∀ key, db.contains key creator.id = true → key ∈ keys) :
    db.valueCount = keys.countP fun key => db.contains key creator.id := by
  -- a key has a bag exactly when the creator has a record under it
  have hkeys : ∀ key, key ∈ db.keys ↔ db.contains key creator.id = true := by
    intro key
    rw [Database.keys, Table.mem_keys_iff]
    constructor
    · rintro ⟨bag, hbag⟩
      obtain ⟨other, record, hdb⟩ := h.wellFormed.exists_find?_of_bag? hbag
      obtain ⟨rfl, rfl, -⟩ := h.wellFormed.of_find? hdb
      rw [h.secondary_eq ((h.wellFormed.mem_records_iff record).mpr hdb)] at hdb
      exact Option.isSome_iff_exists.mpr ⟨record, hdb⟩
    · intro hcontains
      obtain ⟨record, hfound⟩ := Option.isSome_iff_exists.mp hcontains
      obtain ⟨bag, hbag, -⟩ := Option.bind_eq_some_iff.mp hfound
      exact ⟨bag, hbag⟩
  have hperm : db.keys.Perm (keys.filter fun key => db.contains key creator.id) := by
    refine (List.perm_ext_iff_of_nodup db.bags.nodup (hnodup.filter _)).mpr fun key => ?_
    rw [List.mem_filter, ← hkeys key]
    exact ⟨fun hmem => ⟨hall key ((hkeys key).mp hmem), hmem⟩, fun hmem => hmem.2⟩
  rw [h.valueCount_eq_keyCount, List.countP_eq_length_filter, ← hperm.length_eq]
  simp [Database.keys, keyCount, Table.keys, Table.size]

end Hosts

end OverlayStore.Database
