import OverlayStore.Proofs.Database.Intake
import OverlayStore.Proofs.Database.Place

/-!
# The size of bags

The standard policy asks a remote record for room in its bag if its creator has no record there, and
otherwise lets it replace a remote record only. Local records are never asked: they fill bags beyond
what is allowed, and take the places of remote ones. So what stays bounded at all times is the
number of remote records in a bag, and the whole bag is within the bound at the moment in which a
new remote record comes in.
-/

namespace OverlayStore

/-- The number of remote records under a primary key. -/
def Record.remoteUnder (key : Key) (records : List Record) : Nat :=
  records.countP fun record => record.key = key && !record.isLocal

namespace Database

variable {db : Database} {record : Record} {maxPerKey : Nat}

/-! ## Bags as parts of the database -/

/-- The records in the bag of a key are all records under that key. -/
theorem Arranged.toList_perm (arranged : db.Arranged) {key : Key} {bag : Bag}
    (hbag : db.bag? key = some bag) :
    bag.toList.Perm (db.records.filter fun record => record.key = key) := by
  refine (List.perm_ext_iff_of_nodup (arranged.sound hbag).nodup_toList
    (arranged.nodup_records.filter _)).2 fun record => ?_
  rw [Bag.mem_toList_iff, List.mem_filter, arranged.mem_records_iff, decide_eq_true_eq]
  constructor
  · rintro ⟨secondary, hfound⟩
    have hdb : db.find? key secondary = some record := by simp [find?, hbag, hfound]
    obtain ⟨rfl, rfl, -⟩ := arranged.of_find? hdb
    exact ⟨hdb, rfl⟩
  · rintro ⟨hdb, rfl⟩
    obtain ⟨bag', hbag', hfound⟩ := Option.bind_eq_some_iff.1 hdb
    obtain rfl : bag = bag' := Option.some.inj (hbag.symm.trans hbag')
    exact ⟨_, hfound⟩

/-- The size of a bag is the number of records under its key. -/
theorem Arranged.size_eq_countP (arranged : db.Arranged) {key : Key} {bag : Bag}
    (hbag : db.bag? key = some bag) :
    bag.size = db.records.countP fun record => record.key = key := by
  rw [Bag.size_eq_length_toList, (arranged.toList_perm hbag).length_eq,
    List.countP_eq_length_filter]

/-- The remote records of a bag are those under its key. -/
theorem Arranged.countP_isRemote_eq (arranged : db.Arranged) {key : Key} {bag : Bag}
    (hbag : db.bag? key = some bag) :
    (bag.toList.countP fun record => !record.isLocal) = Record.remoteUnder key db.records := by
  rw [(arranged.toList_perm hbag).countP_eq, List.countP_filter, Record.remoteUnder]
  simp only [Bool.and_comm]

/-- Where there is no bag, there is no record. -/
theorem Arranged.countP_eq_zero (arranged : db.Arranged) {key : Key} (hbag : db.bag? key = none) :
    (db.records.countP fun record => record.key = key) = 0 := by
  refine List.countP_eq_zero.2 fun record hmem => ?_
  rw [decide_eq_true_eq]
  rintro rfl
  have hfound := (arranged.mem_records_iff record).1 hmem
  simp [find?, hbag] at hfound

/-! ## Records that come in -/

/-- A remote record of a new creator is admitted only where there is room for it. -/
theorem Arranged.countP_lt_of_admits (arranged : db.Arranged) (hpos : 0 < maxPerKey)
    (hpolicy : db.policy = some (Admission.standard maxPerKey)) (hremote : record.isLocal = false)
    (hnew : db.find? record.key record.secondary = none) (hadmits : db.admits record = true) :
    (db.records.countP fun other => other.key = record.key) < maxPerKey := by
  cases hbag : db.bag? record.key with
  | none =>
    -- the policy does not ask for the bound here, which therefore must not be zero
    rw [arranged.countP_eq_zero hbag]
    exact hpos
  | some bag =>
    have hnone : bag.find? record.secondary = none := by simpa [find?, hbag] using hnew
    have hroom : bag.size < maxPerKey := by
      simpa [hpolicy, Admission.standard, hremote, hbag, hnone] using
        (Bool.and_eq_true_iff.1 hadmits).2
    rwa [← arranged.size_eq_countP hbag]

/-- An admitted record leaves the number of remote records under every key within the bound. -/
theorem WellFormed.remoteUnder_cons_le (h : db.WellFormed) (hpos : 0 < maxPerKey)
    (hpolicy : db.policy = some (Admission.standard maxPerKey)) (hadmits : db.admits record = true)
    (hwithin : ∀ key, Record.remoteUnder key db.records ≤ maxPerKey) (key : Key) :
    Record.remoteUnder key (record :: db.others record.key record.secondary) ≤ maxPerKey := by
  have hothers : Record.remoteUnder key (db.others record.key record.secondary) ≤
      Record.remoteUnder key db.records := List.filter_sublist.countP_le
  by_cases hcounts : record.key = key ∧ record.isLocal = false
  · obtain ⟨rfl, hremote⟩ := hcounts
    have hcons : ∀ (held : Record) (others : List Record), held.key = record.key →
        held.isLocal = false → Record.remoteUnder record.key (held :: others) =
          Record.remoteUnder record.key others + 1 := by
      intro held others hkey hheld
      simp [Record.remoteUnder, hkey, hheld]
    rw [hcons record _ rfl hremote]
    cases hfound : db.find? record.key record.secondary with
    | some held =>
      -- the record that is replaced is remote too, so the number stays
      rw [admits_of_find? hpolicy hfound hremote] at hadmits
      simp only [Bool.and_eq_true, Bool.not_eq_true', decide_eq_true_eq] at hadmits
      have hperm := h.records_perm_cons_others hfound
      have hall := hwithin record.key
      rwa [Record.remoteUnder, hperm.countP_eq, ← Record.remoteUnder,
        hcons held _ (h.of_find? hfound).1 hadmits.2.1] at hall
    | none =>
      -- there is room for one record more of whatever kind
      have hroom := h.countP_lt_of_admits hpos hpolicy hremote hfound hadmits
      have hle : Record.remoteUnder record.key db.records ≤
          db.records.countP fun other => other.key = record.key :=
        List.countP_mono_left fun other _ hother => by simp_all
      omega
  · -- the record does not count under this key
    have hsame : Record.remoteUnder key (record :: db.others record.key record.secondary) =
        Record.remoteUnder key (db.others record.key record.secondary) :=
      List.countP_cons_of_neg (by simpa using hcounts)
    exact hsame ▸ hothers.trans (hwithin key)

/-- Under the standard policy there are never more remote records under a key than the bound. -/
theorem WellFormed.remoteUnder_after_le (h : db.WellFormed) (hpos : 0 < maxPerKey)
    (hpolicy : db.policy = some (Admission.standard maxPerKey))
    (hstart : ∀ key, Record.remoteUnder key db.records ≤ maxPerKey) {history : List Request}
    (hhistory : ∀ request ∈ history, request.isPolicyChange = false) (key : Key) :
    Record.remoteUnder key (db.after history).records ≤ maxPerKey := by
  induction history generalizing db with
  | nil => exact hstart key
  | cons request history ih =>
    have hchange := hhistory request List.mem_cons_self
    refine ih (h.serve request) ((db.policy_serve hchange).trans hpolicy) (fun other => ?_)
      fun later hmem => hhistory later (List.mem_cons_of_mem request hmem)
    rcases h.records_serve request with hfewer | ⟨record, -, hadmits, hperm⟩
    · exact (hfewer.countP_le _).trans (hstart other)
    · rw [Record.remoteUnder, hperm.countP_eq]
      exact h.remoteUnder_cons_le hpos hpolicy hadmits hstart other

/-- Let the standard policy allow at least one record for each key, and let it stay installed. Then
no bag ever has more remote records than allowed; and when a remote record of a creator who had none
in the bag is accepted, the bag has no more records than allowed afterwards, local ones included. -/
theorem bag_within_max (limits : FloodLimits) (loadRule : LoadRule) (maxPerKey : Nat)
    (hpos : 0 < maxPerKey) (history : List Request)
    (hhistory : ∀ request ∈ history, request.isPolicyChange = false) :
    let start : Database := { limits, loadRule, policy := some (Admission.standard maxPerKey) }
    let db := start.after history
    (∀ key bag, db.bag? key = some bag →
      (bag.toList.countP fun record => !record.isLocal) ≤ maxPerKey) ∧
    ∀ record, record.isLocal = false → db.find? record.key record.secondary = none →
      (db.store record).result = true →
      ∃ bag, (db.store record).database.bag? record.key = some bag ∧
        bag.find? record.secondary = some record ∧ bag.size ≤ maxPerKey := by
  intro start db
  have hstart : start.WellFormed := WellFormed.fresh limits loadRule _
  have hdb : db.WellFormed := hstart.after history
  have hpolicy : db.policy = some (Admission.standard maxPerKey) := start.policy_after hhistory
  refine ⟨fun key bag hbag => ?_, fun record hremote hnew haccepted => ?_⟩
  · rw [hdb.countP_isRemote_eq hbag]
    exact hstart.remoteUnder_after_le hpos rfl (fun _ => Nat.zero_le _) hhistory key
  · -- a deletion at a place where nothing is would have changed nothing
    have hvalue : record.value.isEmpty = false := by
      refine eq_false_of_ne_true fun hempty => ?_
      rw [store, if_pos hempty, (takeOut_eq_none_iff db _ _).2 hnew] at haccepted
      cases haccepted
    have hadmits : db.admits record = true := (db.result_store hvalue).symm.trans haccepted
    have hput : (db.store record).database = db.put record := by
      rw [database_store, hvalue, hadmits]
      rfl
    have hbag := bag?_put db record record.key
    rw [if_pos rfl] at hbag
    refine ⟨_, hput ▸ hbag, by simp, ?_⟩
    rw [(hdb.toArranged.put hvalue).size_eq_countP hbag, (hdb.records_put hvalue).countP_eq,
      hdb.others_eq_records hnew, List.countP_cons_of_pos (by simp)]
    exact hdb.countP_lt_of_admits hpos hpolicy hremote hnew hadmits

/-- Two records are allowed for each key. A remote record and two local ones share a bag, which is
then full for every further remote record. Under another key a remote record joins a local one. -/
theorem bag_within_max_of_crowded_bag :
    let value : Value := ⟨.test, ⟨1, 0⟩, [118], by decide⟩
    let contact (octet : UInt8) : Contact :=
      ⟨⟨List.replicate 20 octet, by simp⟩, .ofOctets 82 1 2 octet 4000⟩
    let history : List Request :=
      [.store (.direct (contact 1) .zero value 0), .store (.own (contact 2) .zero value 0),
        .store (.own (contact 3) .zero value 0), .store (.own (contact 2) .ones value 0)]
    let start : Database := { policy := some (Admission.standard 2) }
    let db := start.after history
    let refused : Record := .direct (contact 4) .zero value 1
    let accepted : Record := .direct (contact 4) .ones value 1
    0 < 2 ∧ (∀ request ∈ history, request.isPolicyChange = false) ∧
      (db.bag? .zero).map Bag.size = some 3 ∧ (db.store refused).result = false ∧
      (∀ bag, db.bag? .zero = some bag →
        (bag.toList.countP fun record => !record.isLocal) ≤ 2) ∧
      (db.store accepted).result = true ∧
      ∃ bag, (db.store accepted).database.bag? .ones = some bag ∧ bag.size ≤ 2 := by
  intro value contact history start db refused accepted
  have hhistory : ∀ request ∈ history, request.isPolicyChange = false := by decide
  obtain ⟨hremote, hnew⟩ := bag_within_max {} {} 2 (by decide) history hhistory
  have haccepted : (db.store accepted).result = true := by decide
  obtain ⟨bag, hbag, -, hsize⟩ := hnew accepted rfl (by decide) haccepted
  exact ⟨by decide, hhistory, by decide, by decide, hremote .zero, haccepted, bag, hbag, hsize⟩

end Database

end OverlayStore
