import OverlayStore.Proofs.Database.Reference
import Mathlib.Data.Option.Basic

/-!
# A database is a plain store

A database represents a plain store if it is well formed and finds the same records. Then it admits
the same records, although it compares counts that it keeps and the plain store counts again, and
every request leads to a database that represents the plain store after that request. So nobody who
uses a database can tell it from the plain store, whatever requests came before. An installed policy
may only depend on what it is told about the database, on the record, and on the set of records in
the bag.
-/

namespace OverlayStore

/-- Two bags hold the same records under the same keys. -/
def Bag.SameRecords (a b : Bag) : Prop :=
  a.key = b.key ∧ ∀ secondary, a.find? secondary = b.find? secondary

theorem Bag.SameRecords.size_eq {a b : Bag} (h : a.SameRecords b) : a.size = b.size :=
  (Table.entries_perm_of_find?_eq h.2).length_eq

/-- A policy sees a bag as a set of records: neither its request load nor the order in which its
records came matters. -/
def Admission.SeesRecords (policy : Admission.Policy) : Prop :=
  ∀ view record a b, Bag.SameRecords a b →
    policy view (some a) record = policy view (some b) record

/-- The standard policy sees bags as sets of records. -/
theorem Admission.standard_seesRecords (maxPerKey : Nat) :
    Admission.SeesRecords (Admission.standard maxPerKey) := by
  intro view record a b h
  simp only [Admission.standard, h.2, h.size_eq]

/-- A request installs no policy that sees more of a bag than its records. -/
def Database.Request.SeesRecords : Database.Request → Prop
  | .setPolicy (some policy) => Admission.SeesRecords policy
  | _ => True

namespace PlainStore

/-- A database stands for a plain store: it is well formed and finds the same records. -/
structure Represents (plain : PlainStore) (db : Database) : Prop where
  /-- The database is well formed. -/
  wellFormed : db.WellFormed
  /-- The limits are the same. -/
  limits : db.limits = plain.limits
  /-- The policy is the same. -/
  policy : db.policy = plain.policy
  /-- The policy sees bags as sets of records. -/
  seesRecords : ∀ policy, plain.policy = some policy → Admission.SeesRecords policy
  /-- The records found are the same. -/
  find? : ∀ key secondary, db.find? key secondary = plain.find? key secondary

/-- A database and a plain store that answer every question alike. -/
structure Agrees (plain : PlainStore) (db : Database) : Prop where
  /-- Storing tells the same. -/
  store : ∀ record, (db.store record).result = (plain.store record).1
  /-- Removing answers the same record. -/
  remove : ∀ key secondary, (db.remove key secondary).result = (plain.remove key secondary).1
  /-- Retaining answers the same records. -/
  retain : ∀ keep, (db.retain keep).result.Perm (plain.retain keep).1
  /-- The numbers of keys and records, the pairs present and the counts by origin are the same. -/
  view : db.view = plain.view
  /-- The bags are the same sets of records. -/
  bag? : ∀ key, Option.Rel Bag.SameRecords (db.bag? key) (plain.bag? key)
  /-- The keys are the same. -/
  keys : db.keys.Perm plain.keys
  /-- The records are the same. -/
  records : db.records.Perm plain.records

namespace Represents

variable {plain : PlainStore} {db : Database}

/-! ## Looking -/

/-- The records of the plain store are what it finds. -/
theorem mem_records_iff (h : plain.Represents db) (record : Record) :
    record ∈ plain.records ↔ db.find? record.key record.secondary = some record := by
  rw [records, Table.mem_values_iff]
  constructor
  · rintro ⟨⟨key, secondary⟩, hfound⟩
    have hdb : db.find? key secondary = some record := (h.find? key secondary).trans hfound
    obtain ⟨rfl, rfl, -⟩ := h.wellFormed.of_find? hdb
    exact hdb
  · intro hfound
    exact ⟨(record.key, record.secondary), (h.find? _ _).symm.trans hfound⟩

/-- The records of the plain store are pairwise different, for each tells its pair of keys. -/
theorem nodup_records (h : plain.Represents db) : plain.records.Nodup := by
  -- every entry of the map stands under the two keys of its record
  refine List.Nodup.of_map (fun record => (record.key, record.secondary)) ?_
  have hkeys :
      plain.records.map (fun record => (record.key, record.secondary)) = plain.map.keys := by
    rw [records, Table.values, List.map_map]
    refine List.map_congr_left fun entry hm => ?_
    obtain ⟨⟨key, secondary⟩, record⟩ := entry
    have hfound := (Table.mem_entries_iff plain.map (key, secondary) record).1 hm
    obtain ⟨rfl, rfl, -⟩ := h.wellFormed.of_find? ((h.find? key secondary).trans hfound)
    rfl
  rw [hkeys]
  exact plain.map.nodup

/-- A database has the records of the plain store that it represents. -/
theorem records_perm (h : plain.Represents db) : db.records.Perm plain.records :=
  h.wellFormed.records_perm h.nodup_records h.mem_records_iff

/-- The keys are the same: a bag is never empty. -/
theorem keys_perm (h : plain.Represents db) : db.keys.Perm plain.keys := by
  refine (List.perm_ext_iff_of_nodup db.bags.nodup (List.nodup_dedup _)).2 fun key => ?_
  rw [List.mem_dedup]
  constructor
  · intro hm
    obtain ⟨bag, hbag⟩ := (Table.mem_keys_iff db.bags key).1 hm
    obtain ⟨secondary, record, hdb⟩ := h.wellFormed.exists_find?_of_bag? hbag
    exact List.mem_map.2 ⟨(key, secondary), (Table.mem_keys_iff plain.map _).2
      ⟨record, (h.find? key secondary).symm.trans hdb⟩, rfl⟩
  · intro hm
    obtain ⟨⟨k, secondary⟩, hpair, rfl⟩ := List.mem_map.1 hm
    obtain ⟨record, hfound⟩ := (Table.mem_keys_iff plain.map _).1 hpair
    obtain ⟨bag, hbag, -⟩ := Option.bind_eq_some_iff.1 ((h.find? k secondary).trans hfound)
    exact (Table.mem_keys_iff db.bags k).2 ⟨bag, hbag⟩

/-- The bags are the same sets of records. -/
theorem bag?_rel (h : plain.Represents db) (key : Key) :
    Option.Rel Bag.SameRecords (db.bag? key) (plain.bag? key) := by
  have hunder : ∀ secondary, (plain.under key).find? secondary = db.find? key secondary :=
    fun secondary => (find?_under plain key secondary).trans (h.find? key secondary).symm
  unfold PlainStore.bag?
  dsimp only
  cases hbag : db.bag? key with
  | none =>
    -- the database forgets a bag that has become empty, and so there are no records here
    have hempty : (plain.under key).isEmpty = true := (Table.isEmpty_iff _).2 fun secondary => by
      rw [hunder, Database.find?, hbag]
      rfl
    rw [hempty]
    exact Option.Rel.none
  | some bag =>
    have hfound : ∀ secondary, bag.find? secondary = (plain.under key).find? secondary := by
      intro secondary
      rw [hunder, Database.find?, hbag]
      rfl
    have hempty : (plain.under key).isEmpty = false := by
      obtain ⟨secondary, record, hrecord⟩ :=
        Bag.exists_find?_of_isEmpty_eq_false (h.wellFormed.nonempty hbag)
      exact (Table.isEmpty_eq_false_iff _).2
        ⟨secondary, record, (hfound secondary).symm.trans hrecord⟩
    rw [hempty]
    exact Option.Rel.some ⟨h.wellFormed.key_eq hbag, hfound⟩

/-- The number that a limit is compared with is what counting again gives. -/
theorem elim_charged_eq (h : plain.Represents db) (mask : UInt32) (record : Record) :
    ((record.charge mask).elim 0 fun origin => Record.charged mask origin db.records) =
      plain.remoteLike mask record := by
  unfold Record.charge remoteLike
  split
  · rfl
  · cases record.creator.maskedIpv4 mask with
    | none => rfl
    | some origin =>
      rw [Option.elim_some, Record.charged_perm h.records_perm]
      refine List.countP_congr fun other _ => ?_
      rw [decide_eq_true_eq, Record.charge_eq_some_iff]
      simp

/-- What policies are told about the two is the same. -/
theorem view_eq (h : plain.Represents db) : db.view = plain.view := by
  -- the view has five parts, each with its counterpart in the plain store
  have hkeys : db.keyCount = plain.keys.length := by
    rw [← h.keys_perm.length_eq]
    simp [Database.keyCount, Database.keys, Table.size, Table.keys]
  have hcount : db.valueCount = plain.records.length :=
    h.wellFormed.valueCount_eq_length.trans h.records_perm.length_eq
  have hcontains : db.contains = fun key secondary => (plain.find? key secondary).isSome := by
    funext key secondary
    rw [Database.contains, h.find?]
  have haddress : db.valuesPerAddress = plain.remoteLike Contact.addressMask := by
    funext record
    rw [h.wellFormed.valuesPerAddress_eq, h.elim_charged_eq]
  have hnetwork : db.valuesPerNetwork = plain.remoteLike Contact.networkMask := by
    funext record
    rw [h.wellFormed.valuesPerNetwork_eq, h.elim_charged_eq]
  rw [Database.view, PlainStore.view, hkeys, hcount, hcontains, haddress, hnetwork]

/-! ## Admission -/

/-- The record that would be replaced has the same origin for both. -/
theorem sameOrigin_eq (h : plain.Represents db) (mask : UInt32) (record : Record) :
    record.sameOrigin mask (db.find? record.key record.secondary) =
      plain.replacesSame mask record := by
  rw [h.find?, Record.sameOrigin, replacesSame]
  cases plain.find? record.key record.secondary with
  | none => rfl
  | some previous =>
    rw [Option.bind_some, Record.charge]
    cases hlocal : previous.isLocal with
    | true => simp [hlocal]
    | false =>
      -- a remote record without an IPv4 form has the same origin as no other
      cases horigin : previous.creator.maskedIpv4 mask with
      | none => simp [hlocal, horigin]
      | some origin =>
        simp only [hlocal, horigin, Bool.not_false, Option.isSome_some, Bool.true_and,
          Bool.false_eq_true, if_false]
        exact decide_eq_decide.2 eq_comm

/-- A limit is respected where the plain store does not find it exceeded. -/
theorem withinLimit_eq (h : plain.Represents db) (limit : Option Nat) (mask : UInt32)
    (record : Record) :
    Database.withinLimit limit mask (plain.remoteLike mask record)
        (db.find? record.key record.secondary) record = !plain.exceeds limit mask record := by
  cases limit with
  | none => rfl
  | some max =>
    rw [Database.withinLimit, exceeds, h.sameOrigin_eq]
    by_cases hlt : plain.remoteLike mask record < max
    · simp [hlt, Nat.not_le.2 hlt]
    · simp [hlt, Nat.not_lt.1 hlt]

/-- The fixed limits let in what the plain store does not refuse. -/
theorem withinLimits_eq (h : plain.Represents db) (record : Record) :
    db.withinLimits record = !plain.refuses record := by
  have haddress : db.valuesPerAddress record = plain.remoteLike Contact.addressMask record := by
    rw [h.wellFormed.valuesPerAddress_eq, h.elim_charged_eq]
  have hnetwork : db.valuesPerNetwork record = plain.remoteLike Contact.networkMask record := by
    rw [h.wellFormed.valuesPerNetwork_eq, h.elim_charged_eq]
  -- the two conditions are negations of each other, part by part
  rw [Database.withinLimits, refuses, Record.hasRoutableCreator]
  rw [haddress, hnetwork, h.withinLimit_eq, h.withinLimit_eq, h.limits]
  simp only [Bool.not_and, Bool.not_or, Bool.not_not, Bool.and_assoc, Bool.or_assoc]

/-- Both admit the same records. -/
theorem admits_eq (h : plain.Represents db) (record : Record) :
    db.admits record = plain.admits record := by
  rw [Database.admits, admits, h.withinLimits_eq, h.view_eq, h.policy]
  cases hpolicy : plain.policy with
  | none => rfl
  | some policy =>
    -- the two bags may differ in what the policy does not see
    have hsees : ∀ {a b : Option Bag}, Option.Rel Bag.SameRecords a b →
        policy plain.view a record = policy plain.view b record := by
      intro a b hrel
      cases hrel with
      | none => rfl
      | some hsame => exact h.seesRecords policy hpolicy plain.view record _ _ hsame
    exact congrArg (!plain.refuses record && ·) (hsees (h.bag?_rel record.key))

/-! ## One request -/

/-- A well-formed database with the same rules, and a plain store that finds the same. -/
theorem of_find? (h : plain.Represents db) {db' : Database} (wellFormed : db'.WellFormed)
    (hrules : db'.rules = db.rules) {map : Table (Key × Key) Record}
    (hfind : ∀ key secondary, db'.find? key secondary = map.find? (key, secondary)) :
    ({ plain with map } : PlainStore).Represents db' where
  wellFormed := wellFormed
  limits := (congrArg Prod.fst hrules).trans h.limits
  policy := (congrArg (·.2.2) hrules).trans h.policy
  seesRecords := h.seesRecords
  find? := hfind

/-- Putting a record is inserting it into the map. -/
theorem put (h : plain.Represents db) {record : Record} (hvalue : record.value.isEmpty = false) :
    ({ plain with map := plain.map.insert (record.key, record.secondary) record }
      : PlainStore).Represents (db.put record) := by
  refine h.of_find? (h.wellFormed.put hvalue) (Database.rules_put db record) fun key secondary => ?_
  rw [Database.find?_put, find?_insert, h.find?]

/-- Taking a record out erases its pair. -/
theorem takeOut (h : plain.Represents db) (key secondary : Key) :
    ({ plain with map := plain.map.erase (key, secondary) } : PlainStore).Represents
      ((db.takeOut key secondary).elim db Prod.snd) := by
  cases htaken : db.takeOut key secondary with
  | none =>
    -- where nothing is found, erasing changes nothing
    have hnone := (Database.takeOut_eq_none_iff db key secondary).1 htaken
    refine h.of_find? h.wellFormed rfl fun k s => ?_
    rw [find?_erase, ← h.find?]
    split
    · rename_i hsame
      rw [hsame.1, hsame.2, hnone]
    · rfl
  | some taken =>
    obtain ⟨record, rest⟩ := taken
    refine h.of_find? (h.wellFormed.takeOut htaken) (Database.rules_takeOut htaken) fun k s => ?_
    rw [Database.find?_takeOut htaken, find?_erase, h.find?]

/-- A request leads to a database that represents the plain store after it. -/
theorem serve (h : plain.Represents db) {request : Database.Request}
    (hsees : request.SeesRecords) : (plain.serve request).Represents (db.serve request) := by
  cases request with
  | store record =>
    rw [Database.serve, Database.database_store, PlainStore.serve, PlainStore.store, h.admits_eq]
    split
    · exact h.takeOut record.key record.secondary
    · rename_i hvalue
      split
      · exact h.put (eq_false_of_ne_true hvalue)
      · exact h
  | remove key secondary =>
    rw [Database.serve, Database.database_remove]
    exact h.takeOut key secondary
  | retain keep =>
    refine h.of_find? (h.wellFormed.retain keep) (Database.rules_retain db keep)
      fun key secondary => ?_
    rw [Database.find?_retain db keep h.wellFormed.nonempty, Table.find?_filter, h.find?]
    rfl
  | clear => exact h.of_find? (Database.WellFormed.clear db) rfl fun _ _ => rfl
  | load key counted now =>
    refine h.of_find? (h.wellFormed.requestLoad key counted now)
      (Database.rules_requestLoad db key counted now) fun k s => ?_
    rw [Database.find?_requestLoad, h.find?]
    rfl
  | setPolicy policy =>
    -- the records stay, and the new policy has to see no more of a bag than them
    refine ⟨h.wellFormed.setPolicy policy, h.limits, rfl, ?_, h.find?⟩
    rintro installed (rfl : policy = some installed)
    exact hsees

/-- A history leads to a database that represents the plain store after it. -/
theorem after (h : plain.Represents db) {history : List Database.Request}
    (hsees : ∀ request ∈ history, request.SeesRecords) :
    (plain.after history).Represents (db.after history) := by
  induction history generalizing plain db with
  | nil => exact h
  | cons request history ih =>
    exact ih (h.serve (hsees request List.mem_cons_self)) fun other hm =>
      hsees other (List.mem_cons_of_mem request hm)

/-! ## Answers -/

/-- A database answers every question as the plain store that it represents. -/
theorem agrees (h : plain.Represents db) : plain.Agrees db where
  store record := by
    rw [Database.store, PlainStore.store, h.admits_eq]
    dsimp only
    split
    · show _ = (plain.find? record.key record.secondary).isSome
      rw [← h.find?]
      cases htaken : db.takeOut record.key record.secondary with
      | none => rw [(Database.takeOut_eq_none_iff db _ _).1 htaken]; rfl
      | some taken => rw [Database.find?_of_takeOut_eq_some htaken]; rfl
    · split <;> rfl
  remove key secondary := by
    rw [Database.remove, PlainStore.remove, ← h.find?]
    cases htaken : db.takeOut key secondary with
    | none => rw [(Database.takeOut_eq_none_iff db _ _).1 htaken]
    | some taken => rw [Database.find?_of_takeOut_eq_some htaken]
  retain keep := by
    rw [Database.result_retain]
    exact h.records_perm.filter _
  view := h.view_eq
  bag? := h.bag?_rel
  keys := h.keys_perm
  records := h.records_perm

end Represents

/-- A database that starts without records agrees with the plain store after every history: storing,
removing and retaining answer the same, and so does every look. -/
theorem agrees_after_fresh (limits : FloodLimits) (loadRule : LoadRule)
    (history : List Database.Request) (hsees : ∀ request ∈ history, request.SeesRecords) :
    PlainStore.Agrees (({ limits, policy := none } : PlainStore).after history)
      (({ limits, loadRule } : Database).after history) := by
  have hstart : ({ limits, policy := none } : PlainStore).Represents { limits, loadRule } :=
    { wellFormed := Database.WellFormed.fresh limits loadRule none
      limits := rfl
      policy := rfl
      seesRecords := fun _ hpolicy => by cases hpolicy
      find? := fun _ _ => rfl }
  exact (hstart.after hsees).agrees

/-- One record is allowed for each address, and the standard policy is installed. Where one record
is kept, a second creator at its address is refused by the database and so by the plain store. -/
theorem agrees_after_one_record :
    let value : Value := ⟨.test, ⟨1, 0⟩, [118], by decide⟩
    let first := Record.direct ⟨.zero, .ofOctets 82 1 2 3 4000⟩ .zero value 0
    let second := Record.direct ⟨.ones, .ofOctets 82 1 2 3 5000⟩ .zero value 1
    let limits : FloodLimits := { maxPerAddress := some 1 }
    let history : List Database.Request :=
      [.setPolicy (some (Admission.standard 2)), .store first, .load .zero true 2]
    let plain := ({ limits, policy := none } : PlainStore).after history
    let db := ({ limits } : Database).after history
    (∀ request ∈ history, request.SeesRecords) ∧ plain.Agrees db ∧
      (db.store second).result = false ∧ (plain.store second).1 = false := by
  intro value first second limits history plain db
  have hsees : ∀ request ∈ history, request.SeesRecords := by
    simp only [history, List.mem_cons, List.not_mem_nil, or_false, forall_eq_or_imp, forall_eq]
    exact ⟨Admission.standard_seesRecords 2, trivial, trivial⟩
  have hagrees : plain.Agrees db := agrees_after_fresh limits {} history hsees
  have hrefused : (db.store second).result = false := by decide
  exact ⟨hsees, hagrees, hrefused, (hagrees.store second).symm.trans hrefused⟩

end PlainStore

end OverlayStore
