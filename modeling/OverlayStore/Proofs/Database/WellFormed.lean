import OverlayStore.Proofs.Database.Arrangement
import OverlayStore.Proofs.Database.Tally

/-!
# Well-formed databases

A database keeps its records in bags and, besides, the number of all records and two tables of
counts. It is well formed if all of this agrees (`Database.WellFormed`). Every operation keeps a
well-formed database well formed. In a well-formed database the operations count nothing below
zero: they have the same outcome when every subtraction that would do so is given up (`put?_eq`,
`takeOut?_eq`, `retain?_eq`).
-/

namespace OverlayStore.Database

/-! ## Counts of remote records -/

/-- Both tables of counts are tallies of some records. -/
structure Counted (db : Database) (records : List Record) : Prop where
  /-- The counts by IPv4 address. -/
  address : Tallies db.perAddress Contact.addressMask records
  /-- The counts by /24 network. -/
  network : Tallies db.perNetwork Contact.networkMask records

/-- Count a record out, and give up where there is nothing to count down. -/
def discharge? (db : Database) (record : Record) : Option Database := do
  let perAddress ← countOut? Contact.addressMask db.perAddress record
  let perNetwork ← countOut? Contact.networkMask db.perNetwork record
  some { db with perAddress, perNetwork }

namespace Counted

variable {db : Database} {records : List Record}

theorem perm {others : List Record} (h : db.Counted records) (hperm : records.Perm others) :
    db.Counted others :=
  ⟨h.address.perm hperm, h.network.perm hperm⟩

/-- Charging a record counts it. -/
theorem charge (h : db.Counted records) (record : Record) :
    (db.charge record).Counted (record :: records) :=
  ⟨h.address.countIn record, h.network.countIn record⟩

/-- Discharging a record counts it no longer. -/
theorem discharge {record : Record} (h : db.Counted (record :: records)) :
    (db.discharge record).Counted records :=
  ⟨h.address.countOut, h.network.countOut⟩

/-- A record that is counted out has been counted in. -/
theorem discharge?_eq {record : Record} (h : db.Counted (record :: records)) :
    db.discharge? record = some (db.discharge record) := by
  rw [discharge?, h.address.countOut?_eq, h.network.countOut?_eq]
  rfl

theorem foldl_discharge {removed : List Record} (h : db.Counted (removed ++ records)) :
    (removed.foldl Database.discharge db).Counted records := by
  induction removed generalizing db with
  | nil => exact h
  | cons record rest ih => exact ih h.discharge

/-- Several records that are counted out have been counted in. -/
theorem foldlM_discharge?_eq {removed : List Record} (h : db.Counted (removed ++ records)) :
    removed.foldlM discharge? db = some (removed.foldl Database.discharge db) := by
  induction removed generalizing db with
  | nil => rfl
  | cons record rest ih =>
    -- the records still to be counted out go before those that stay
    have h' : db.Counted (record :: (rest ++ records)) := h
    rw [List.foldlM_cons, h'.discharge?_eq]
    exact ih h'.discharge

end Counted

/-! ## The invariant -/

/-- The bags, the number of records and the counts of remote records agree. -/
structure WellFormed (db : Database) : Prop extends Arranged db where
  /-- The number of records is that of all bags together. -/
  valueCount_eq : db.valueCount = (db.bags.values.map Bag.size).sum
  /-- The counts of remote records are those of the records in the bags. -/
  counted : db.Counted db.records

/-- The number of records is the sum of the sizes of the bags. -/
theorem length_records (db : Database) :
    db.records.length = (db.bags.values.map Bag.size).sum := by
  rw [records, List.length_flatMap]
  exact congrArg List.sum (List.map_congr_left fun bag _ => (Bag.size_eq_length_toList bag).symm)

/-- A network is made of addresses. -/
theorem charge_networkMask (record : Record) :
    record.charge Contact.networkMask =
      (record.charge Contact.addressMask).map (· &&& Contact.networkMask) := by
  -- masking an address first does not matter to its network
  have hmasks : Contact.addressMask &&& Contact.networkMask = Contact.networkMask := by decide
  unfold Record.charge Contact.maskedIpv4
  split
  · rfl
  · rw [Option.map_map]
    refine congrArg (Option.map · _) (funext fun address => ?_)
    rw [Function.comp_apply, UInt32.and_assoc, hmasks]

namespace WellFormed

variable {db : Database}

/-- The number that a well-formed database keeps is that of its records. -/
theorem valueCount_eq_length (h : db.WellFormed) : db.valueCount = db.records.length :=
  h.valueCount_eq.trans (length_records db).symm

/-- There are at least as many records as keys, for every key has one. -/
theorem keyCount_le_valueCount (h : db.WellFormed) : db.keyCount ≤ db.valueCount := by
  -- no bag is empty
  have hsize : ∀ size ∈ db.bags.values.map Bag.size, 1 ≤ size := by
    intro size hm
    obtain ⟨bag, hbag, rfl⟩ := List.mem_map.1 hm
    obtain ⟨key, hfound⟩ := (Table.mem_values_iff db.bags bag).1 hbag
    obtain ⟨secondary, record, hrecord⟩ :=
      Bag.exists_find?_of_isEmpty_eq_false (h.nonempty hfound)
    rw [Bag.size_eq_length_toList]
    exact List.length_pos_of_mem ((Bag.mem_toList_iff bag record).2 ⟨secondary, hrecord⟩)
  calc db.keyCount = (db.bags.values.map Bag.size).length := by
        simp [keyCount, Table.size, Table.values]
    _ ≤ (db.bags.values.map Bag.size).sum := List.length_le_sum_of_one_le _ hsize
    _ = db.valueCount := h.valueCount_eq.symm

/-- The count of a network is the sum of the counts of its addresses. -/
theorem perNetwork_eq_sum (h : db.WellFormed) (network : UInt32) :
    (db.perNetwork.find? network).getD 0 =
      ((db.perAddress.entries.filter fun entry =>
        entry.1 &&& Contact.networkMask = network).map Prod.snd).sum := by
  have hcount : (db.perNetwork.find? network).getD 0 =
      Record.charged Contact.networkMask network db.records := by
    rw [h.counted.network network, nonzero]
    split <;> simp_all
  rw [hcount, h.counted.address.sum_filter fun address => address &&& Contact.networkMask = network]
  refine List.countP_congr fun record _ => ?_
  rw [charge_networkMask]
  cases record.charge Contact.addressMask <;> simp

/-- What a record's address is compared with is the number of records charged to it. -/
theorem valuesPerAddress_eq (h : db.WellFormed) (record : Record) :
    db.valuesPerAddress record = (record.charge Contact.addressMask).elim 0 fun origin =>
      Record.charged Contact.addressMask origin db.records :=
  h.counted.address.chargedLike_eq record

/-- What a record's network is compared with is the number of records charged to it. -/
theorem valuesPerNetwork_eq (h : db.WellFormed) (record : Record) :
    db.valuesPerNetwork record = (record.charge Contact.networkMask).elim 0 fun origin =>
      Record.charged Contact.networkMask origin db.records :=
  h.counted.network.chargedLike_eq record

/-- An arranged database with right counts is well formed. -/
theorem of_perm (arranged : db.Arranged) {records : List Record} (hperm : db.records.Perm records)
    (hcount : db.valueCount = records.length) (hcounted : db.Counted records) : db.WellFormed where
  toArranged := arranged
  valueCount_eq := by rw [← length_records, hcount, hperm.length_eq]
  counted := hcounted.perm hperm.symm

/-- A database without records is well formed. -/
theorem fresh (limits : FloodLimits) (loadRule : LoadRule) (policy : Option Admission.Policy) :
    ({ limits, loadRule, policy } : Database).WellFormed :=
  of_perm (Arranged.of_bag?_eq_none fun _ => rfl) (List.Perm.refl []) rfl
    ⟨Tallies.empty _, Tallies.empty _⟩

end WellFormed

/-! ## Every operation keeps a database well formed -/

variable {db : Database}

/-- The database that a record has been put in, before the one it replaces is counted out. -/
def insertRecord (db : Database) (record : Record) : Database :=
  { db.charge record with
    bags := db.bags.insert record.key ((db.bagFor record).put record) }

/-- A record that replaces another takes its place in the counts. -/
theorem put_of_find?_eq_some {record replaced : Record}
    (h : db.find? record.key record.secondary = some replaced) :
    db.put record = (db.insertRecord record).discharge replaced := by
  have hfound : (db.bagFor record).find? record.secondary = some replaced :=
    (find?_bagFor db record record.secondary).trans h
  unfold put
  dsimp only
  rw [show (db.bag? record.key).getD { key := record.key } = db.bagFor record from rfl, hfound]
  rfl

/-- A record that replaces none is one more. -/
theorem put_of_find?_eq_none {record : Record}
    (h : db.find? record.key record.secondary = none) :
    db.put record = { db.insertRecord record with valueCount := db.valueCount + 1 } := by
  have hfound : (db.bagFor record).find? record.secondary = none :=
    (find?_bagFor db record record.secondary).trans h
  unfold put
  dsimp only
  rw [show (db.bag? record.key).getD { key := record.key } = db.bagFor record from rfl, hfound]
  rfl

/-- Put a record, and give up where a count would fall below zero. -/
def put? (db : Database) (record : Record) : Option Database :=
  match db.find? record.key record.secondary with
  | some replaced => (db.insertRecord record).discharge? replaced
  | none => some { db.insertRecord record with valueCount := db.valueCount + 1 }

/-- Subtract, and give up below zero. -/
def minus? (a b : Nat) : Option Nat :=
  if b ≤ a then some (a - b) else none

/-- Take a record out, and give up where a count would fall below zero. -/
def takeOut? (db : Database) (key secondary : Key) : Option Database :=
  match db.bag? key with
  | none => some db
  | some bag =>
    match bag.find? secondary with
    | none => some db
    | some record => do
      let rest := bag.erase secondary
      let bags := if rest.isEmpty then db.bags.erase key else db.bags.insert key rest
      let valueCount ← minus? db.valueCount 1
      { db with bags, valueCount }.discharge? record

/-- Remove all records that do not satisfy a condition, and give up where a count would fall below
zero. -/
def retain? (db : Database) (keep : Record → Bool) : Option Database :=
  let removed := db.records.filter fun record => !keep record
  if removed.isEmpty then some db
  else do
    let bags := (db.bags.map fun _ bag => bag.filter keep).filter fun _ bag => !bag.isEmpty
    let valueCount ← minus? db.valueCount removed.length
    removed.foldlM discharge? { db with bags, valueCount }

namespace WellFormed

/-- While a record is put in place of another one, both are counted. -/
theorem counted_insertRecord (h : db.WellFormed) {record replaced : Record}
    (hfound : db.find? record.key record.secondary = some replaced) :
    (db.insertRecord record).Counted
      (replaced :: record :: db.others record.key record.secondary) := by
  have hcharged := h.counted.charge record
  have hcounted : (db.insertRecord record).Counted (record :: db.records) :=
    ⟨hcharged.address, hcharged.network⟩
  refine hcounted.perm ?_
  exact ((h.records_perm_cons_others hfound).cons record).trans (List.Perm.swap _ _ _)

/-- Putting a record with a value leaves a database well formed. -/
theorem put (h : db.WellFormed) {record : Record} (hvalue : record.value.isEmpty = false) :
    (db.put record).WellFormed := by
  refine of_perm (h.toArranged.put hvalue) (h.records_put hvalue) ?_ ?_
  · cases hfound : db.find? record.key record.secondary with
    | some replaced =>
      -- one record takes the place of another, so their number stays
      have hperm := h.records_perm_cons_others hfound
      rw [put_of_find?_eq_some hfound]
      show db.valueCount = _
      rw [h.valueCount_eq_length, hperm.length_eq]
      rfl
    | none =>
      rw [put_of_find?_eq_none hfound]
      show db.valueCount + 1 = _
      rw [h.valueCount_eq_length, h.others_eq_records hfound]
      rfl
  · cases hfound : db.find? record.key record.secondary with
    | some replaced =>
      rw [put_of_find?_eq_some hfound]
      exact (h.counted_insertRecord hfound).discharge
    | none =>
      -- nothing is replaced, so all old records are others
      have hcharged := h.counted.charge record
      rw [put_of_find?_eq_none hfound, h.others_eq_records hfound]
      exact ⟨hcharged.address, hcharged.network⟩

/-- Putting a record counts nothing below zero. -/
theorem put?_eq (h : db.WellFormed) (record : Record) : db.put? record = some (db.put record) := by
  unfold put?
  split
  · rename_i replaced hfound
    rw [put_of_find?_eq_some hfound, (h.counted_insertRecord hfound).discharge?_eq]
  · rename_i hfound
    rw [put_of_find?_eq_none hfound]

/-- Taking a record out leaves a database well formed. -/
theorem takeOut (h : db.WellFormed) {rest : Database} {key secondary : Key} {record : Record}
    (htaken : db.takeOut key secondary = some (record, rest)) : rest.WellFormed := by
  have hperm := h.records_perm_cons_others (find?_of_takeOut_eq_some htaken)
  have hcounted := h.counted.perm hperm
  obtain ⟨bag, -, -, rfl⟩ := exists_of_takeOut_eq_some htaken
  refine of_perm (h.toArranged.takeOut htaken) (h.records_takeOut htaken) ?_ ?_
  · show db.valueCount - 1 = _
    rw [h.valueCount_eq_length, hperm.length_eq, List.length_cons, Nat.add_sub_cancel]
  · -- discharging looks at the counts only, and those are still the counts of `db`
    exact Counted.discharge ⟨hcounted.address, hcounted.network⟩

/-- Taking a record out counts nothing below zero. -/
theorem takeOut?_eq (h : db.WellFormed) (key secondary : Key) :
    db.takeOut? key secondary = some ((db.takeOut key secondary).elim db Prod.snd) := by
  unfold takeOut? Database.takeOut
  cases hbag : db.bag? key with
  | none => rfl
  | some bag =>
    dsimp only
    cases hfound : bag.find? secondary with
    | none => rfl
    | some record =>
      have hfind : db.find? key secondary = some record := by simp [find?, hbag, hfound]
      have hperm := h.records_perm_cons_others hfind
      -- the record itself is counted
      have hpos : 1 ≤ db.valueCount := by
        rw [h.valueCount_eq_length, hperm.length_eq]
        exact Nat.succ_pos _
      have hcounted := h.counted.perm hperm
      dsimp only
      rw [minus?, if_pos hpos]
      exact Counted.discharge?_eq ⟨hcounted.address, hcounted.network⟩

/-- All records are those that a condition removes and those that it keeps. -/
theorem records_perm_removed (db : Database) (keep : Record → Bool) :
    db.records.Perm (db.records.filter (fun record => !keep record) ++ db.records.filter keep) :=
  (List.perm_append_comm.trans (List.filter_append_perm keep db.records)).symm

/-- Retaining leaves a database well formed. -/
theorem retain (h : db.WellFormed) (keep : Record → Bool) :
    (db.retain keep).database.WellFormed := by
  have hperm := records_perm_removed db keep
  have hcounted := h.counted.perm hperm
  have harranged := h.toArranged.retain keep
  have hrecords := h.records_retain keep
  unfold Database.retain at harranged hrecords ⊢
  dsimp only at harranged hrecords ⊢
  split
  · -- nothing is removed
    exact h
  · rename_i hsome
    rw [if_neg hsome] at harranged hrecords
    refine of_perm harranged hrecords ?_ ?_
    · rw [valueCount_foldl_discharge]
      show db.valueCount - _ = _
      rw [h.valueCount_eq_length, hperm.length_eq, List.length_append, Nat.add_sub_cancel_left]
    · exact Counted.foldl_discharge ⟨hcounted.address, hcounted.network⟩

/-- Retaining some records counts nothing below zero. -/
theorem retain?_eq (h : db.WellFormed) (keep : Record → Bool) :
    db.retain? keep = some (db.retain keep).database := by
  have hperm := records_perm_removed db keep
  have hcounted := h.counted.perm hperm
  have hle : (db.records.filter fun record => !keep record).length ≤ db.valueCount := by
    rw [h.valueCount_eq_length]
    exact List.length_filter_le _ _
  unfold retain? Database.retain
  dsimp only
  split
  · rfl
  · rw [minus?, if_pos hle]
    exact Counted.foldlM_discharge?_eq ⟨hcounted.address, hcounted.network⟩

theorem clear (db : Database) : db.clear.database.WellFormed :=
  fresh db.limits db.loadRule db.policy

theorem requestLoad (h : db.WellFormed) (key : Key) (counted : Bool) (now : Time) :
    (db.requestLoad key counted now).2.WellFormed := by
  have harranged := h.toArranged.requestLoad key counted now
  have hrecords := h.records_requestLoad key counted now
  unfold Database.requestLoad at harranged hrecords ⊢
  cases hbag : db.bag? key with
  | none => exact h
  | some bag =>
    rw [hbag] at harranged hrecords
    exact of_perm harranged hrecords h.valueCount_eq_length ⟨h.counted.address, h.counted.network⟩

theorem setPolicy (h : db.WellFormed) (policy : Option Admission.Policy) :
    (db.setPolicy policy).WellFormed :=
  ⟨⟨h.key_eq, h.nonempty, h.sound⟩, h.valueCount_eq, ⟨h.counted.address, h.counted.network⟩⟩

end WellFormed

end OverlayStore.Database
