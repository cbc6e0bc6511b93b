import OverlayStore.Proofs.Database.History
import OverlayStore.Proofs.Metrics
import OverlayStore.Sweep

/-!
# What the figures of a database tell

A database reports what it has measured, and a recorder of its own takes everything in. Then the two
gauges always show how many keys and records there are. Every record that was ever stored is still
there, or was removed, replaced or forgotten, so the counter of stored records is the sum of these
(`Database.figures_tell_the_truth`). The proof is one balance for each operation
(`Database.Balanced`).
-/

namespace OverlayStore

namespace Database

/-- What is done to a database. -/
inductive Operation where
  /-- A request is served. -/
  | request (request : Request)
  /-- The database is swept. -/
  | sweep (expiry : Expiry) (routing : Routing) (now : Time)

/-- What was measured in serving a request. Asking for a request load and installing a policy
measure nothing. -/
def reports (db : Database) : Request → List Metric.Update
  | .store record => (db.store record).updates
  | .remove key secondary => (db.remove key secondary).updates
  | .retain keep => (db.retain keep).updates
  | .clear => db.clear.updates
  | .load _ _ _ => []
  | .setPolicy _ => []

/-- The database after an operation, and what was measured. -/
def perform (db : Database) : Operation → Database × List Metric.Update
  | .request request => (db.serve request, db.reports request)
  | .sweep expiry routing now =>
    let swept := db.sweep expiry routing now
    (swept.database, swept.updates)

/-! ## What operations do -/

/-- How many records the operation replaces by storing a value. -/
def Operation.replaced (db : Database) : Operation → Nat
  | .request (.store record) =>
    (!record.value.isEmpty && (db.store record).result &&
      db.contains record.key record.secondary).toNat
  | _ => 0

/-- How many values the operation would store that are refused. -/
def Operation.refused (db : Database) : Operation → Nat
  | .request (.store record) => (!record.value.isEmpty && !(db.store record).result).toNat
  | _ => 0

/-- How many records the operation forgets. -/
def Operation.forgotten (db : Database) : Operation → Nat
  | .request .clear => db.records.length
  | _ => 0

/-- How many records the operation is said to have swept away. -/
def Operation.evicted (db : Database) : Operation → Nat
  | .sweep expiry routing now => (db.sweep expiry routing now).result
  | _ => 0

/-- What the operations of a history add up to. -/
def total (count : Database → Operation → Nat) : Database → List Operation → Nat
  | _, [] => 0
  | db, operation :: history => count db operation + (db.perform operation).1.total count history

/-! ## How many records there are -/

variable {db : Database}

/-- Taking a record out leaves one record less. -/
theorem WellFormed.valueCount_takeOut (h : db.WellFormed) {rest : Database} {key secondary : Key}
    {record : Record} (htaken : db.takeOut key secondary = some (record, rest)) :
    rest.valueCount + 1 = db.valueCount := by
  have hbefore := (h.records_perm_cons_others (find?_of_takeOut_eq_some htaken)).length_eq
  have hafter := (h.records_takeOut htaken).length_eq
  rw [h.valueCount_eq_length, (h.takeOut htaken).valueCount_eq_length, hbefore, hafter,
    List.length_cons]

/-- Putting a record makes one record more, unless it replaces another. -/
theorem WellFormed.valueCount_put (h : db.WellFormed) {record : Record}
    (hvalue : record.value.isEmpty = false) :
    (db.put record).valueCount + (db.contains record.key record.secondary).toNat =
      db.valueCount + 1 := by
  have hafter := (h.records_put hvalue).length_eq
  rw [(h.put hvalue).valueCount_eq_length, h.valueCount_eq_length, hafter, List.length_cons,
    contains]
  cases hfound : db.find? record.key record.secondary with
  | none =>
    rw [h.others_eq_records hfound]
    rfl
  | some replaced =>
    rw [(h.records_perm_cons_others hfound).length_eq]
    rfl

/-- What is retained and what is removed are all records. -/
theorem WellFormed.valueCount_retain (h : db.WellFormed) (keep : Record → Bool) :
    (db.retain keep).database.valueCount + (db.retain keep).result.length = db.valueCount := by
  have hbefore := (WellFormed.records_perm_removed db keep).length_eq
  have hafter := (h.records_retain keep).length_eq
  rw [h.valueCount_eq_length, (h.retain keep).valueCount_eq_length, hbefore, hafter, result_retain,
    List.length_append, Nat.add_comm]

/-- Asking for a request load changes neither number. -/
theorem counts_requestLoad (db : Database) (key : Key) (counted : Bool) (now : Time) :
    (db.requestLoad key counted now).2.keyCount = db.keyCount ∧
      (db.requestLoad key counted now).2.valueCount = db.valueCount := by
  unfold requestLoad
  cases hbag : db.bag? key with
  | none => exact ⟨rfl, rfl⟩
  | some bag =>
    have hkeys := Table.keys_insert hbag (bag.requestLoad db.loadRule now counted).2
    have hsize := congrArg List.length hkeys
    rw [Table.keys, Table.keys, List.length_map, List.length_map] at hsize
    exact ⟨hsize, rfl⟩

end Database

/-! ## What recorders show -/

/-- The amount that a counter is told by some updates. -/
def Metric.amount (metric : Metric) (updates : List Metric.Update) : Nat :=
  (updates.map fun update => if update.metric = metric then update.amount else 0).sum

theorem Metric.amount_append (metric : Metric) (updates more : List Metric.Update) :
    metric.amount (updates ++ more) = metric.amount updates + metric.amount more := by
  rw [amount, List.map_append, List.sum_append]
  rfl

/-- A recorder shows the numbers of keys and records of a database. -/
structure Recorder.Shows (recorder : Recorder) (db : Database) : Prop where
  keys : recorder.figure .keys = db.keyCount
  values : recorder.figure .values = db.valueCount

namespace Recorder.Shows

variable {recorder : Recorder} {db : Database}

/-- Setting the gauges makes them right, whatever they have shown before. -/
theorem gauges (recorder : Recorder) (db : Database) :
    (recorder.recordAll db.gauges).Shows db where
  keys := by
    show ((recorder.record ⟨.keys, db.keyCount⟩).record ⟨.values, db.valueCount⟩).figure .keys = _
    rw [figure_record_gauge rfl, figure_record_gauge rfl]
    rfl
  values := figure_record_gauge rfl _ _

/-- What is no setting of a gauge does not concern them. -/
theorem record (h : recorder.Shows db) {update : Metric.Update}
    (hcounted : update.metric.kind ≠ .gauge) : (recorder.record update).Shows db := by
  have hkeys : update.metric ≠ .keys := fun hsame => hcounted (by rw [hsame]; rfl)
  have hvalues : update.metric ≠ .values := fun hsame => hcounted (by rw [hsame]; rfl)
  constructor
  · rw [figure_record_gauge rfl, if_neg hkeys, h.keys]
  · rw [figure_record_gauge rfl, if_neg hvalues, h.values]

end Recorder.Shows

namespace Database

/-! ## Balances -/

/-- What an operation does to a database and what it reports of that are in balance. -/
structure Balanced (before after : Database) (updates : List Metric.Update)
    (replaced forgotten refused evicted : Nat) : Prop where
  /-- The gauges are right afterwards if they were before. -/
  shows : ∀ recorder : Recorder, recorder.Shows before → (recorder.recordAll updates).Shows after
  /-- The records from before and what is stored are the records afterwards and what is gone. -/
  stored : before.valueCount + Metric.stored.amount updates =
    after.valueCount + Metric.removed.amount updates + replaced + forgotten
  /-- What is refused is counted. -/
  rejected : Metric.rejected.amount updates = refused
  /-- What is swept away is counted. -/
  evicted : Metric.evicted.amount updates = evicted

namespace Balanced

variable {before after : Database} {updates : List Metric.Update}

/-- Nothing need be reported where the numbers of keys and records stay. -/
theorem silent (hkeys : after.keyCount = before.keyCount)
    (hvalues : after.valueCount = before.valueCount) : Balanced before after [] 0 0 0 0 where
  shows _ h := ⟨h.keys.trans hkeys.symm, h.values.trans hvalues.symm⟩
  stored := hvalues.symm
  rejected := rfl
  evicted := rfl

/-- What is forgotten is not counted, but the gauges are set. -/
theorem forget {forgotten : Nat} (h : before.valueCount = after.valueCount + forgotten) :
    Balanced before after after.gauges 0 forgotten 0 0 where
  shows recorder _ := .gauges recorder after
  stored := h
  rejected := rfl
  evicted := rfl

theorem remove {removed : Nat} (h : after.valueCount + removed = before.valueCount) :
    Balanced before after (⟨.removed, removed⟩ :: after.gauges) 0 0 0 0 where
  shows recorder _ := .gauges (recorder.record _) after
  stored := h.symm
  rejected := rfl
  evicted := rfl

/-- A stored record is counted, and the gauges are set. -/
theorem store {replaced : Nat} (h : after.valueCount + replaced = before.valueCount + 1) :
    Balanced before after (⟨.stored, 1⟩ :: after.gauges) replaced 0 0 0 where
  shows recorder _ := .gauges (recorder.record _) after
  stored := h.symm
  rejected := rfl
  evicted := rfl

/-- A refused record is counted, and all else stays. -/
theorem refuse (db : Database) : Balanced db db [⟨.rejected, 1⟩] 0 0 1 0 where
  shows _ h := h.record (by decide)
  stored := rfl
  rejected := rfl
  evicted := rfl

/-- Counting evictions changes nothing else. -/
theorem evict (h : Balanced before after updates 0 0 0 0) (evicted : Nat) :
    Balanced before after (updates ++ [⟨.evicted, evicted⟩, ⟨.sweepMillis, 1⟩]) 0 0 0 evicted where
  shows recorder hshows := by
    rw [Recorder.recordAll_append]
    have hcounted : ((recorder.recordAll updates).record ⟨.evicted, evicted⟩).Shows after :=
      (h.shows recorder hshows).record nofun
    exact hcounted.record nofun
  stored := by
    rw [Metric.amount_append, Metric.amount_append]
    exact h.stored
  rejected := by
    rw [Metric.amount_append, h.rejected]
    rfl
  evicted := by
    rw [Metric.amount_append, h.evicted, Nat.zero_add]
    rfl

end Balanced

namespace WellFormed

variable {db : Database}

/-- Storing is in balance, whether it stores, deletes or refuses. -/
theorem balanced_store (h : db.WellFormed) (record : Record) :
    let operation : Operation := .request (.store record)
    Balanced db (db.store record).database (db.store record).updates
      (operation.replaced db) 0 (operation.refused db) 0 := by
  intro operation
  cases hvalue : record.value.isEmpty with
  | true =>
    -- an empty value is neither stored nor refused
    have hreplaced : operation.replaced db = 0 := by
      simp [operation, Operation.replaced, hvalue]
    have hrefused : operation.refused db = 0 := by
      simp [operation, Operation.refused, hvalue]
    rw [hreplaced, hrefused, Database.store, if_pos hvalue]
    cases htaken : db.takeOut record.key record.secondary with
    | none => exact .forget rfl
    | some taken => exact .remove (h.valueCount_takeOut htaken)
  | false =>
    have hnonempty : ¬record.value.isEmpty = true := ne_true_of_eq_false hvalue
    cases hadmits : db.admits record with
    | true =>
      have hstore : db.store record =
          ⟨true, db.put record, ⟨.stored, 1⟩ :: (db.put record).gauges⟩ := by
        simp [Database.store, hvalue, hadmits]
      have hreplaced : operation.replaced db =
          (db.contains record.key record.secondary).toNat := by
        simp [operation, Operation.replaced, hvalue, hstore]
      have hrefused : operation.refused db = 0 := by
        simp [operation, Operation.refused, hstore]
      rw [hreplaced, hrefused, hstore]
      exact .store (h.valueCount_put hvalue)
    | false =>
      have hstore : db.store record = ⟨false, db, [⟨.rejected, 1⟩]⟩ := by
        simp [Database.store, hvalue, hadmits]
      have hreplaced : operation.replaced db = 0 := by
        simp [operation, Operation.replaced, hstore]
      have hrefused : operation.refused db = 1 := by
        simp [operation, Operation.refused, hvalue, hstore]
      rw [hreplaced, hrefused, hstore]
      exact .refuse db

theorem balanced_remove (h : db.WellFormed) (key secondary : Key) :
    Balanced db (db.remove key secondary).database (db.remove key secondary).updates 0 0 0 0 := by
  unfold Database.remove
  cases htaken : db.takeOut key secondary with
  | none => exact .silent rfl rfl
  | some taken => exact .remove (h.valueCount_takeOut htaken)

theorem balanced_retain (h : db.WellFormed) (keep : Record → Bool) :
    Balanced db (db.retain keep).database (db.retain keep).updates 0 0 0 0 := by
  have hcount := h.valueCount_retain keep
  unfold Database.retain at hcount ⊢
  dsimp only at hcount ⊢
  split
  · exact .silent rfl rfl
  · rename_i hsome
    rw [if_neg hsome] at hcount
    exact .remove hcount

/-- Every operation on a well-formed database is in balance. -/
theorem balanced_perform (h : db.WellFormed) (operation : Operation) :
    Balanced db (db.perform operation).1 (db.perform operation).2 (operation.replaced db)
      (operation.forgotten db) (operation.refused db) (operation.evicted db) := by
  cases operation with
  | request request =>
    cases request with
    | store record => exact h.balanced_store record
    | remove key secondary => exact h.balanced_remove key secondary
    | retain keep => exact h.balanced_retain keep
    | clear => exact .forget (h.valueCount_eq_length.trans (Nat.zero_add _).symm)
    | load key counted now =>
      obtain ⟨hkeys, hvalues⟩ := db.counts_requestLoad key counted now
      exact .silent hkeys hvalues
    | setPolicy policy => exact .silent rfl rfl
  | sweep expiry routing now => exact (h.balanced_retain _).evict _

/-- An operation leaves the database well formed. -/
theorem perform (h : db.WellFormed) (operation : Operation) :
    (db.perform operation).1.WellFormed := by
  cases operation with
  | request request => exact h.serve request
  | sweep expiry routing now => exact h.retain _

end WellFormed

end Database

/-! ## Histories -/

/-- A database and what has been measured of it. -/
structure Monitored where
  /-- The database. -/
  database : Database
  /-- What has been measured. -/
  recorder : Recorder := {}

namespace Monitored

/-- The database and the recorder after an operation. -/
def perform (monitored : Monitored) (operation : Database.Operation) : Monitored :=
  let (database, updates) := monitored.database.perform operation
  ⟨database, monitored.recorder.recordAll updates⟩

/-- The database and the recorder after a history of operations. -/
def after (monitored : Monitored) (history : List Database.Operation) : Monitored :=
  history.foldl perform monitored

theorem after_append_singleton (monitored : Monitored) (history : List Database.Operation)
    (operation : Database.Operation) :
    monitored.after (history ++ [operation]) = (monitored.after history).perform operation :=
  List.foldl_append

/-- An operation adds to a counter what it reports for it. -/
theorem figure_perform {metric : Metric} (hcounter : metric.kind = .counter)
    (monitored : Monitored) (operation : Database.Operation) :
    (monitored.perform operation).recorder.figure metric =
      monitored.recorder.figure metric +
        metric.amount (monitored.database.perform operation).2 :=
  Recorder.figure_recordAll hcounter _ _

end Monitored

namespace Database

/-- The last operation of a history adds what it counts for the database that it finds. -/
theorem total_append_singleton (count : Database → Operation → Nat) (monitored : Monitored)
    (history : List Operation) (operation : Operation) :
    monitored.database.total count (history ++ [operation]) =
      monitored.database.total count history +
        count (monitored.after history).database operation := by
  induction history generalizing monitored with
  | nil => exact Nat.add_comm _ _
  | cons first history ih =>
    rw [List.cons_append, total, total, Nat.add_assoc]
    exact congrArg _ (ih (monitored.perform first))

/-- The figures account for a history. -/
structure Accounted (start : Database) (history : List Operation) (monitored : Monitored) :
    Prop where
  wellFormed : monitored.database.WellFormed
  shows : monitored.recorder.Shows monitored.database
  stored : monitored.recorder.figure .stored =
    monitored.database.valueCount + monitored.recorder.figure .removed +
      start.total Operation.replaced history + start.total Operation.forgotten history
  rejected : monitored.recorder.figure .rejected = start.total Operation.refused history
  evicted : monitored.recorder.figure .evicted = start.total Operation.evicted history

/-- The books of a database that starts without records balance after every history. -/
theorem accounted_after (limits : FloodLimits) (loadRule : LoadRule)
    (policy : Option Admission.Policy) (history : List Operation) :
    let start : Database := { limits, loadRule, policy }
    Accounted start history (Monitored.after ⟨start, {}⟩ history) := by
  intro start
  induction history using List.reverseRecOn with
  | nil => exact ⟨.fresh limits loadRule policy, ⟨rfl, rfl⟩, rfl, rfl, rfl⟩
  | append_singleton history operation ih =>
    -- one operation balances by itself, and the totals add up over the history
    have hbalance := ih.wellFormed.balanced_perform operation
    have htotal (count : Database → Operation → Nat) :
        start.total count (history ++ [operation]) = start.total count history +
          count (Monitored.after ⟨start, {}⟩ history).database operation :=
      total_append_singleton count ⟨start, {}⟩ history operation
    rw [Monitored.after_append_singleton]
    constructor
    · exact ih.wellFormed.perform operation
    · exact hbalance.shows _ ih.shows
    · have hstored := hbalance.stored
      have hbefore := ih.stored
      rw [Monitored.figure_perform rfl, Monitored.figure_perform rfl, htotal, htotal]
      show _ = (Database.perform _ operation).1.valueCount + _ + _ + _
      omega
    · rw [Monitored.figure_perform rfl, ih.rejected, hbalance.rejected]
      exact (htotal _).symm
    · rw [Monitored.figure_perform rfl, ih.evicted, hbalance.evicted]
      exact (htotal _).symm

/-- Let a database without records, with any limits, load rule and policy, have a recorder of its
own that has not been told anything. After every history the gauges show how many keys and records
there are. What was counted as stored is what is there, what was counted as removed, what was
replaced and what was forgotten. What was counted as rejected are the values that were refused, and
what was counted as evicted is what the sweeps have answered. -/
theorem figures_tell_the_truth (limits : FloodLimits) (loadRule : LoadRule)
    (policy : Option Admission.Policy) (history : List Operation) :
    let start : Database := { limits, loadRule, policy }
    let monitored : Monitored := Monitored.after ⟨start, {}⟩ history
    let db := monitored.database
    let figure := monitored.recorder.figure
    figure .keys = db.keyCount ∧ figure .values = db.valueCount ∧
      figure .stored = db.valueCount + figure .removed +
        start.total Operation.replaced history + start.total Operation.forgotten history ∧
      figure .rejected = start.total Operation.refused history ∧
      figure .evicted = start.total Operation.evicted history := by
  intro start monitored db figure
  have haccounted := accounted_after limits loadRule policy history
  exact ⟨haccounted.shows.keys, haccounted.shows.values, haccounted.stored, haccounted.rejected,
    haccounted.evicted⟩

end Database

end OverlayStore
