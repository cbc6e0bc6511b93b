import OverlayStore.Proofs.Database.Place
import OverlayStore.Sweep

/-!
# Removing together and one by one

A scan filters all bags first and corrects the counts afterwards, while a removal takes one record
out of its bag and corrects the counts at once. Both leave the same database, in whatever order the
single removals are made (`Database.retain_eq_removeEach`).

The proof has two halves. Neither way moves what it leaves: every table keeps the order of its keys,
and a bag that stays keeps its key and its request load (`Database.Rest`). And both databases find
the same records and are well formed, so their counts are the same as well (`Database.Rest.eq`).
-/

namespace OverlayStore

/-! ## What is left of a bag -/

/-- A bag is what is left of another one after some records have gone. -/
structure Bag.Rest (bag rest : Bag) : Prop where
  /-- The key is the same. -/
  key_eq : rest.key = bag.key
  /-- The request load is the same. -/
  load_eq : rest.load = bag.load
  /-- The last request is the same. -/
  lastRequest_eq : rest.lastRequest = bag.lastRequest
  /-- The creators that are left come in the same order. -/
  creators : rest.records.keys.Sublist bag.records.keys

namespace Bag.Rest

variable {bag a b : Bag}

theorem refl (bag : Bag) : bag.Rest bag := ⟨rfl, rfl, rfl, .refl _⟩

/-- A rest of a rest is a rest. -/
theorem trans (h : bag.Rest a) (h' : a.Rest b) : bag.Rest b where
  key_eq := h'.key_eq.trans h.key_eq
  load_eq := h'.load_eq.trans h.load_eq
  lastRequest_eq := h'.lastRequest_eq.trans h.lastRequest_eq
  creators := h'.creators.trans h.creators

/-- A bag without one of its records is a rest of it. -/
theorem erase (bag : Bag) (secondary : Key) : bag.Rest (bag.erase secondary) :=
  ⟨rfl, rfl, rfl, Table.keys_erase_sublist bag.records secondary⟩

theorem filter (bag : Bag) (keep : Record → Bool) : bag.Rest (bag.filter keep) :=
  ⟨rfl, rfl, rfl, Table.keys_filter_sublist bag.records _⟩

/-- What is left of a bag is determined by the records that are left. -/
theorem eq (ha : bag.Rest a) (hb : bag.Rest b)
    (hfind : ∀ secondary, a.find? secondary = b.find? secondary) : a = b := by
  have hrecords : a.records = b.records :=
    Table.eq_of_keys_sublist bag.records.nodup ha.creators hb.creators hfind
  have hkey := ha.key_eq.trans hb.key_eq.symm
  have hload := ha.load_eq.trans hb.load_eq.symm
  have hlast := ha.lastRequest_eq.trans hb.lastRequest_eq.symm
  cases a
  cases b
  simp_all

end Bag.Rest

namespace Database

variable {db a b rest : Database}

/-! ## What is left of a database -/

/-- A database is what is left of another one after some records have gone. -/
structure Rest (db rest : Database) : Prop where
  /-- The limits, the load rule and the policy are the same. -/
  rules_eq : rest.rules = db.rules
  /-- The bags that are left come in the same order. -/
  keys : rest.bags.keys.Sublist db.bags.keys
  /-- What is left of each bag has kept its request load. -/
  bag : ∀ {key left}, rest.bag? key = some left → ∃ bag, db.bag? key = some bag ∧ bag.Rest left
  /-- The addresses that are left come in the same order. -/
  addresses : rest.perAddress.keys.Sublist db.perAddress.keys
  /-- The networks that are left come in the same order. -/
  networks : rest.perNetwork.keys.Sublist db.perNetwork.keys

/-- Counting down leaves the order of the counts alone. -/
theorem keys_countDown_sublist (counts : Table UInt32 Nat) (origin : UInt32) :
    (countDown counts origin).keys.Sublist counts.keys := by
  unfold countDown
  cases hfound : counts.find? origin with
  | none => exact .refl _
  | some count =>
    dsimp only
    split
    · exact Table.keys_erase_sublist counts origin
    · rw [Table.keys_insert hfound]

theorem keys_countOut_sublist (mask : UInt32) (counts : Table UInt32 Nat) (record : Record) :
    (countOut mask counts record).keys.Sublist counts.keys := by
  unfold countOut
  cases record.charge mask with
  | none => exact .refl _
  | some origin => exact keys_countDown_sublist counts origin

namespace Rest

theorem refl (db : Database) : db.Rest db where
  rules_eq := rfl
  keys := .refl _
  bag hleft := ⟨_, hleft, .refl _⟩
  addresses := .refl _
  networks := .refl _

theorem trans (h : db.Rest a) (h' : a.Rest b) : db.Rest b where
  rules_eq := h'.rules_eq.trans h.rules_eq
  keys := h'.keys.trans h.keys
  bag := by
    intro key left hleft
    obtain ⟨middle, hmiddle, hrest'⟩ := h'.bag hleft
    obtain ⟨bag, hbag, hrest⟩ := h.bag hmiddle
    exact ⟨bag, hbag, hrest.trans hrest'⟩
  addresses := h'.addresses.trans h.addresses
  networks := h'.networks.trans h.networks

/-- Counting a record out touches the counts only, and moves none. -/
theorem discharge (h : db.Rest rest) (record : Record) : db.Rest (rest.discharge record) where
  rules_eq := h.rules_eq
  keys := h.keys
  bag := h.bag
  addresses := (keys_countOut_sublist _ _ record).trans h.addresses
  networks := (keys_countOut_sublist _ _ record).trans h.networks

/-- Correcting the counts for some records leaves a rest. -/
theorem foldl_discharge (h : db.Rest rest) (records : List Record) :
    db.Rest (records.foldl Database.discharge rest) := by
  induction records generalizing rest with
  | nil => exact h
  | cons record records ih => exact ih (h.discharge record)

/-- A database in which only bags and the number of records have changed. -/
theorem of_bags {bags : Table Key Bag} (valueCount : Nat)
    (hkeys : bags.keys.Sublist db.bags.keys)
    (hbag : ∀ {key left}, bags.find? key = some left →
      ∃ bag, db.bag? key = some bag ∧ bag.Rest left) :
    db.Rest { db with bags, valueCount } where
  rules_eq := rfl
  keys := hkeys
  bag := hbag
  addresses := .refl _
  networks := .refl _

/-- Taking a record out leaves a rest. -/
theorem takeOut {key secondary : Key} {record : Record}
    (h : db.takeOut key secondary = some (record, rest)) : db.Rest rest := by
  obtain ⟨bag, hbag, -, rfl⟩ := exists_of_takeOut_eq_some h
  refine (of_bags (db.valueCount - 1) ?_ ?_).discharge record
  · split
    · exact Table.keys_erase_sublist db.bags key
    · rw [Table.keys_insert hbag]
  · intro other left hleft
    split at hleft
    · -- the bag of the key is gone
      rw [Table.find?_erase] at hleft
      split at hleft
      · cases hleft
      · exact ⟨left, hleft, .refl left⟩
    · rw [Table.find?_insert] at hleft
      split at hleft
      · rename_i hsame
        cases hleft
        exact ⟨bag, hsame ▸ hbag, .erase bag secondary⟩
      · exact ⟨left, hleft, .refl left⟩

theorem elim_takeOut (db : Database) (key secondary : Key) :
    db.Rest ((db.takeOut key secondary).elim db Prod.snd) := by
  cases htaken : db.takeOut key secondary with
  | none => exact .refl db
  | some taken => exact .takeOut htaken

theorem remove (db : Database) (key secondary : Key) :
    db.Rest (db.remove key secondary).database := by
  rw [database_remove]
  exact elim_takeOut db key secondary

/-- Retaining leaves a rest. -/
theorem retain (db : Database) (keep : Record → Bool) : db.Rest (db.retain keep).database := by
  unfold Database.retain
  dsimp only
  split
  · exact .refl db
  · refine (of_bags _ ?_ ?_).foldl_discharge _
    · refine (Table.keys_filter_sublist _ _).trans ?_
      rw [Table.keys_map]
    · intro key left hleft
      rw [Table.find?_filter, Table.find?_map, Option.filter_eq_some_iff,
        Option.map_eq_some_iff] at hleft
      obtain ⟨⟨bag, hbag, rfl⟩, -⟩ := hleft
      exact ⟨bag, hbag, .filter bag keep⟩

/-- Tables of counts that tally the same records are equal if neither has moved a count. -/
theorem counts_eq {counts left right : Table UInt32 Nat} {mask : UInt32} {some all : List Record}
    (hleft : left.keys.Sublist counts.keys) (hright : right.keys.Sublist counts.keys)
    (htallies : Tallies left mask some) (htallies' : Tallies right mask all)
    (hperm : some.Perm all) : left = right := by
  refine Table.eq_of_keys_sublist counts.nodup hleft hright fun origin => ?_
  rw [htallies.perm hperm origin, htallies' origin]

/-- What is left of a bag is determined by the records that are found in it. -/
theorem bag?_eq (ha : db.Rest a) (hb : db.Rest b) (arranged : a.Arranged) (arranged' : b.Arranged)
    (hfind : ∀ key secondary, a.find? key secondary = b.find? key secondary) (key : Key) :
    a.bag? key = b.bag? key := by
  cases hleft : a.bag? key with
  | none =>
    cases hright : b.bag? key with
    | none => rfl
    | some right =>
      -- the record that is in the bag would have been found in the other database
      obtain ⟨secondary, record, hfound⟩ := arranged'.exists_find?_of_bag? hright
      rw [← hfind, find?, hleft] at hfound
      cases hfound
  | some left =>
    obtain ⟨secondary, record, hfound⟩ := arranged.exists_find?_of_bag? hleft
    rw [hfind] at hfound
    obtain ⟨right, hright, -⟩ := Option.bind_eq_some_iff.1 hfound
    -- both are left of one bag
    obtain ⟨bag, hbag, hrest⟩ := ha.bag hleft
    obtain ⟨bag', hbag', hrest'⟩ := hb.bag hright
    obtain rfl : bag = bag' := Option.some.inj (hbag.symm.trans hbag')
    rw [hright]
    refine congrArg some (hrest.eq hrest' fun secondary => ?_)
    simpa [find?, hleft, hright] using hfind key secondary

/-- What is left of a database is determined by the records that are left. -/
theorem eq (ha : db.Rest a) (hb : db.Rest b) (wellFormed : a.WellFormed)
    (wellFormed' : b.WellFormed)
    (hfind : ∀ key secondary, a.find? key secondary = b.find? key secondary) : a = b := by
  have hperm : a.records.Perm b.records := by
    refine wellFormed.records_perm wellFormed'.nodup_records fun record => ?_
    rw [wellFormed'.mem_records_iff, hfind]
  have hbag := ha.bag?_eq hb wellFormed.toArranged wellFormed'.toArranged hfind
  have hbags : a.bags = b.bags := Table.eq_of_keys_sublist db.bags.nodup ha.keys hb.keys hbag
  have haddress : a.perAddress = b.perAddress := counts_eq ha.addresses hb.addresses
    wellFormed.counted.address wellFormed'.counted.address hperm
  have hnetwork : a.perNetwork = b.perNetwork := counts_eq ha.networks hb.networks
    wellFormed.counted.network wellFormed'.counted.network hperm
  have hcount : a.valueCount = b.valueCount := by
    rw [wellFormed.valueCount_eq_length, wellFormed'.valueCount_eq_length, hperm.length_eq]
  have hrules := ha.rules_eq.trans hb.rules_eq.symm
  cases a
  cases b
  simp_all [rules]

end Rest

/-! ## Removing one by one -/

/-- Remove several records, one after the other. -/
def removeEach (db : Database) (records : List Record) : Database :=
  records.foldl (fun db record => (db.remove record.key record.secondary).database) db

/-- Removing records one by one is a history of requests. -/
theorem removeEach_eq_after (db : Database) (records : List Record) :
    db.removeEach records =
      db.after (records.map fun record => .remove record.key record.secondary) := by
  rw [after, List.foldl_map]
  rfl

/-- Removing records one by one keeps a database well formed. -/
theorem WellFormed.removeEach (h : db.WellFormed) (records : List Record) :
    (db.removeEach records).WellFormed := by
  rw [removeEach_eq_after]
  exact h.after _

/-- Removing records one by one leaves a rest. -/
theorem Rest.removeEach (db : Database) (records : List Record) :
    db.Rest (db.removeEach records) := by
  induction records generalizing db with
  | nil => exact .refl db
  | cons record records ih => exact (Rest.remove db _ _).trans (ih _)

/-- The removed pair finds nothing, and all other pairs find what they did. -/
theorem find?_remove (db : Database) (k s key secondary : Key) :
    (db.remove k s).database.find? key secondary =
      if key = k ∧ secondary = s then none else db.find? key secondary := by
  rw [database_remove, find?_elim_takeOut]

/-- Nothing is found any more where one of the removed records was. -/
theorem find?_removeEach (db : Database) (records : List Record) (key secondary : Key) :
    (db.removeEach records).find? key secondary =
      if records.any fun record => key = record.key && secondary = record.secondary then none
      else db.find? key secondary := by
  induction records generalizing db with
  | nil => rfl
  | cons record records ih =>
    show (Database.removeEach _ records).find? key secondary = _
    rw [ih, find?_remove, List.any_cons]
    by_cases hhere : key = record.key ∧ secondary = record.secondary <;> simp [hhere]

/-- Removing all records that a condition does not keep leaves what the condition keeps. -/
theorem Arranged.find?_removeEach_eq (arranged : db.Arranged) {keep : Record → Bool}
    {order : List Record} (horder : order.Perm (db.records.filter fun record => !keep record))
    (key secondary : Key) :
    (db.removeEach order).find? key secondary = (db.find? key secondary).filter keep := by
  have hmem : ∀ record, record ∈ order ↔
      db.find? record.key record.secondary = some record ∧ keep record = false := by
    intro record
    rw [horder.mem_iff, List.mem_filter, arranged.mem_records_iff, Bool.not_eq_true']
  rw [find?_removeEach]
  cases hfound : db.find? key secondary with
  | none => simp
  | some record =>
    obtain ⟨rfl, rfl, -⟩ := arranged.of_find? hfound
    -- of all records that go, only this one can be at this place
    have hany : (order.any fun other =>
        record.key = other.key && record.secondary = other.secondary) = !keep record := by
      rw [Bool.eq_iff_iff, List.any_eq_true, Bool.not_eq_true']
      constructor
      · rintro ⟨other, hother, hsame⟩
        obtain ⟨hkey, hsecondary⟩ :
            record.key = other.key ∧ record.secondary = other.secondary := by
          simpa using hsame
        obtain ⟨hthere, hdropped⟩ := (hmem other).1 hother
        rw [← hkey, ← hsecondary, hfound] at hthere
        rwa [Option.some.inj hthere]
      · intro hdropped
        exact ⟨record, (hmem record).2 ⟨hfound, hdropped⟩, by simp⟩
    rw [hany, Option.filter_some]
    cases keep record <;> rfl

/-- Retaining leaves the same database as removing what it removes, one by one and in any order. -/
theorem WellFormed.removeEach_eq_retain (h : db.WellFormed) (keep : Record → Bool)
    {order : List Record} (horder : order.Perm (db.retain keep).result) :
    db.removeEach order = (db.retain keep).database := by
  rw [result_retain] at horder
  apply (Rest.removeEach db order).eq (Rest.retain db keep) (h.removeEach order) (h.retain keep)
  intro key secondary
  rw [h.toArranged.find?_removeEach_eq horder, find?_retain db keep h.nonempty]

/-- A sweep counts the expired records and leaves the others. -/
theorem WellFormed.sweep_spec (h : db.WellFormed) (expiry : Expiry) (routing : Routing)
    (now : Time) :
    (db.sweep expiry routing now).result = db.records.countP (expiry.isExpired routing now) ∧
      (db.sweep expiry routing now).database.records.Perm
        (db.records.filter fun record => !expiry.isExpired routing now record) := by
  refine ⟨?_, h.records_retain _⟩
  show (db.retain _).result.length = _
  rw [result_retain, List.countP_eq_length_filter]
  simp

/-- After every history, retaining the records that satisfy a condition answers all others, each
once. It leaves the records that it does not answer, in bags that have lost nothing else, and the
same database that is left when the answered records are removed one by one in any order: bags,
request loads, and the counts of all records and of those by address and network. A sweep answers
how many records have expired by the rules in charge of their types, and leaves all others. -/
theorem retain_eq_removeEach (limits : FloodLimits) (loadRule : LoadRule)
    (policy : Option Admission.Policy) (history : List Request) (keep : Record → Bool) :
    let db := ({ limits, loadRule, policy } : Database).after history
    let removed := (db.retain keep).result
    let kept := (db.retain keep).database
    (removed.Nodup ∧ ∀ record, record ∈ removed ↔ record ∈ db.records ∧ keep record = false) ∧
      (∀ record, record ∈ kept.records ↔ record ∈ db.records ∧ keep record = true) ∧
      (∀ key bag, kept.bag? key = some bag →
        ∃ before, db.bag? key = some before ∧ bag = before.filter keep) ∧
      (∀ order : List Record, order.Perm removed → db.removeEach order = kept) ∧
      ∀ (expiry : Expiry) (routing : Routing) (now : Time),
        let swept := db.sweep expiry routing now
        swept.result = db.records.countP (expiry.isExpired routing now) ∧
          swept.database.records.Perm
            (db.records.filter fun record => !expiry.isExpired routing now record) := by
  intro db removed kept
  have hdb : db.WellFormed := (WellFormed.fresh limits loadRule policy).after history
  have hremoved : removed = db.records.filter fun record => !keep record := result_retain db keep
  refine ⟨⟨?_, fun record => ?_⟩, fun record => ?_, fun key bag hbag => ?_,
    fun order horder => hdb.removeEach_eq_retain keep horder, hdb.sweep_spec⟩
  · rw [hremoved]
    exact hdb.nodup_records.filter _
  · rw [hremoved, List.mem_filter, Bool.not_eq_true']
  · rw [(hdb.records_retain keep).mem_iff, List.mem_filter]
  · rw [bag?_retain db keep hdb.nonempty, Option.filter_eq_some_iff, Option.map_eq_some_iff] at hbag
    obtain ⟨⟨before, hbefore, rfl⟩, -⟩ := hbag
    exact ⟨before, hbefore, rfl⟩

/-- Of two bags one loses two of its three records and keeps its request, and the other one goes
altogether. Removing the three records in the opposite order leaves the same. -/
theorem retain_eq_removeEach_of_two_bags :
    let value : Value := ⟨.test, ⟨1, 0⟩, [118], by decide⟩
    let contact (octet : UInt8) : Contact :=
      ⟨⟨List.replicate 20 octet, by simp⟩, .ofOctets 82 1 2 octet 4000⟩
    let history : List Request :=
      [.store (.direct (contact 1) .zero value 0), .store (.own (contact 2) .zero value 0),
        .store (.direct (contact 3) .zero value 0), .load .zero true 5,
        .store (.direct (contact 1) .ones value 0)]
    let db := ({} : Database).after history
    let removed := (db.retain Record.isLocal).result
    let kept := (db.retain Record.isLocal).database
    removed.length = 3 ∧ removed.reverse ≠ removed ∧ removed.reverse.Perm removed ∧
      db.removeEach removed.reverse = kept ∧ kept.keyCount = 1 ∧ kept.valueCount = 1 ∧
      (kept.bag? .zero).map Bag.lastRequest = some (some 5) ∧ kept.perNetwork.size = 0 := by
  intro value contact history db removed kept
  have hperm : removed.reverse.Perm removed := List.reverse_perm removed
  obtain ⟨-, -, -, heach, -⟩ := retain_eq_removeEach {} {} none history Record.isLocal
  exact ⟨by decide, by decide, hperm, heach removed.reverse hperm, by decide, by decide, by decide,
    by decide⟩

end Database

end OverlayStore
