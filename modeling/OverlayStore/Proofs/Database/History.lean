import OverlayStore.Proofs.Database.WellFormed

/-!
# Histories of a database

A history is the sequence of requests that a database has served, policies that were swapped on the
way included. Whatever the limits and the requests, a database that starts without records stays
well formed, and serving the requests never counts below zero.
-/

namespace OverlayStore.Database

/-- What changes a database. -/
inductive Request where
  /-- Store a record, or delete one by an empty value. -/
  | store (record : Record)
  /-- Remove the record under a primary and a secondary key. -/
  | remove (key secondary : Key)
  /-- Remove all records that do not satisfy a condition. -/
  | retain (keep : Record → Bool)
  /-- Forget all records. -/
  | clear
  /-- Ask for the request load of a key. -/
  | load (key : Key) (counted : Bool) (now : Time)
  /-- Install a policy, or take the present one away. -/
  | setPolicy (policy : Option Admission.Policy)

/-- The database that a request leaves behind. -/
def serve (db : Database) : Request → Database
  | .store record => (db.store record).database
  | .remove key secondary => (db.remove key secondary).database
  | .retain keep => (db.retain keep).database
  | .clear => db.clear.database
  | .load key counted now => (db.requestLoad key counted now).2
  | .setPolicy policy => db.setPolicy policy

/-- The database after a history. -/
def after (db : Database) (history : List Request) : Database :=
  history.foldl serve db

@[simp]
theorem after_nil (db : Database) : db.after [] = db := rfl

/-- The last request of a history is served last. -/
@[simp]
theorem after_append_singleton (db : Database) (history : List Request) (request : Request) :
    db.after (history ++ [request]) = (db.after history).serve request := by
  simp [after]

/-- Storing takes a record out, puts one in or leaves the database alone. -/
theorem database_store (db : Database) (record : Record) :
    (db.store record).database =
      if record.value.isEmpty then (db.takeOut record.key record.secondary).elim db Prod.snd
      else if db.admits record then db.put record else db := by
  unfold store
  split
  · cases db.takeOut record.key record.secondary <;> rfl
  · split <;> rfl

/-- Removing takes the record out if there is one. -/
theorem database_remove (db : Database) (key secondary : Key) :
    (db.remove key secondary).database = (db.takeOut key secondary).elim db Prod.snd := by
  unfold remove
  cases db.takeOut key secondary <;> rfl

/-! ## What stays -/

/-- The limits, the load rule and the policy. -/
def rules (db : Database) : FloodLimits × LoadRule × Option Admission.Policy :=
  (db.limits, db.loadRule, db.policy)

@[simp]
theorem rules_discharge (db : Database) (record : Record) :
    (db.discharge record).rules = db.rules := rfl

/-- The rules are not about the records, so putting one leaves them alone. -/
@[simp]
theorem rules_put (db : Database) (record : Record) : (db.put record).rules = db.rules := by
  unfold put
  dsimp only
  split <;> rfl

/-- Taking a record out leaves the rules alone. -/
theorem rules_takeOut {db rest : Database} {key secondary : Key} {record : Record}
    (h : db.takeOut key secondary = some (record, rest)) : rest.rules = db.rules := by
  obtain ⟨bag, -, -, rfl⟩ := exists_of_takeOut_eq_some h
  rfl

@[simp]
theorem rules_foldl_discharge (db : Database) (records : List Record) :
    (records.foldl discharge db).rules = db.rules := by
  induction records generalizing db with
  | nil => rfl
  | cons record rest ih => rw [List.foldl_cons, ih, rules_discharge]

/-- Retaining leaves the rules alone. -/
@[simp]
theorem rules_retain (db : Database) (keep : Record → Bool) :
    (db.retain keep).database.rules = db.rules := by
  unfold retain
  dsimp only
  split
  · rfl
  · rw [rules_foldl_discharge]
    rfl

@[simp]
theorem rules_requestLoad (db : Database) (key : Key) (counted : Bool) (now : Time) :
    (db.requestLoad key counted now).2.rules = db.rules := by
  unfold requestLoad
  cases db.bag? key <;> rfl

/-! ## Steps and runs -/

/-- What holds of a database, and is kept by putting an admitted record, taking one out, retaining,
clearing, asking for a load and installing a policy, holds after a request. -/
theorem serve_induction {p : Database → Prop} {db : Database} (same : p db)
    (put : ∀ record, record.value.isEmpty = false → db.admits record = true → p (db.put record))
    (takeOut : ∀ key secondary record rest, db.takeOut key secondary = some (record, rest) → p rest)
    (retain : ∀ keep, p (db.retain keep).database) (clear : p db.clear.database)
    (load : ∀ key counted now, p (db.requestLoad key counted now).2)
    (setPolicy : ∀ policy, p (db.setPolicy policy)) (request : Request) : p (db.serve request) := by
  -- storing an empty value and removing both take a record out, if there is one
  have taken : ∀ key secondary, p ((db.takeOut key secondary).elim db Prod.snd) := by
    intro key secondary
    cases h : db.takeOut key secondary with
    | none => exact same
    | some left => exact takeOut key secondary left.1 left.2 h
  cases request with
  | store record =>
    rw [serve, database_store]
    split
    · exact taken _ _
    · rename_i hvalue
      split
      · rename_i hadmits
        exact put record (eq_false_of_ne_true hvalue) hadmits
      · exact same
  | remove key secondary =>
    rw [serve, database_remove]
    exact taken key secondary
  | retain keep => exact retain keep
  | clear => exact clear
  | load key counted now => exact load key counted now
  | setPolicy policy => exact setPolicy policy

/-- What holds at the start and is kept by every request holds after every history. -/
theorem after_induction {p : Database → Prop} {db : Database} (start : p db)
    (step : ∀ db, p db → ∀ request, p (db.serve request)) (history : List Request) :
    p (db.after history) := by
  -- the property is of the last database, so the last request is taken off
  induction history using List.reverseRecOn with
  | nil => exact start
  | append_singleton history request ih =>
    rw [after_append_singleton]
    exact step _ ih request

/-! ## Well-formedness -/

/-- A request keeps a database well formed. -/
theorem WellFormed.serve {db : Database} (h : db.WellFormed) (request : Request) :
    (db.serve request).WellFormed :=
  serve_induction h (fun _ hvalue _ => h.put hvalue) (fun _ _ _ _ htaken => h.takeOut htaken)
    h.retain (clear db) h.requestLoad h.setPolicy request

/-- A history keeps a database well formed. -/
theorem WellFormed.after {db : Database} (h : db.WellFormed) (history : List Request) :
    (db.after history).WellFormed :=
  after_induction h (fun _ hdb request => hdb.serve request) history

/-! ## No count falls below zero -/

/-- Serve a request, and give up where a count would fall below zero. -/
def serve? (db : Database) : Request → Option Database
  | .store record =>
    if record.value.isEmpty then db.takeOut? record.key record.secondary
    else if db.admits record then db.put? record else some db
  | .remove key secondary => db.takeOut? key secondary
  | .retain keep => db.retain? keep
  | request => some (db.serve request)

/-- Serve a history, and give up where a count would fall below zero. -/
def after? (db : Database) (history : List Request) : Option Database :=
  history.foldlM serve? db

/-- A well-formed database serves a request without giving up. -/
theorem WellFormed.serve?_eq {db : Database} (h : db.WellFormed) (request : Request) :
    db.serve? request = some (db.serve request) := by
  cases request with
  | store record =>
    simp only [serve?, Database.serve, database_store]
    split
    · exact h.takeOut?_eq _ _
    · split
      · exact h.put?_eq record
      · rfl
  | remove key secondary =>
    rw [serve?, Database.serve, database_remove]
    exact h.takeOut?_eq key secondary
  | retain keep => exact h.retain?_eq keep
  | clear => rfl
  | load key counted now => rfl
  | setPolicy policy => rfl

/-- A well-formed database serves a history without giving up. -/
theorem WellFormed.after?_eq {db : Database} (h : db.WellFormed) (history : List Request) :
    db.after? history = some (db.after history) := by
  induction history generalizing db with
  | nil => rfl
  | cons request history ih =>
    rw [after?, List.foldlM_cons, h.serve?_eq request]
    exact ih (h.serve request)

/-- A database that starts without records, with any limits, load rule and policy, is well formed
after every history: its bags, its number of records and its counts by address and by network agree.
So it has no more keys than records, the count of every network is the sum of the counts of its
addresses, and no subtraction on the way went below zero. -/
theorem wellFormed_after_fresh (limits : FloodLimits) (loadRule : LoadRule)
    (policy : Option Admission.Policy) (history : List Request) :
    let start : Database := { limits, loadRule, policy }
    let db := start.after history
    db.WellFormed ∧ db.keyCount ≤ db.valueCount ∧
      (∀ network, (db.perNetwork.find? network).getD 0 =
        ((db.perAddress.entries.filter fun entry =>
          entry.1 &&& Contact.networkMask = network).map Prod.snd).sum) ∧
      start.after? history = some db := by
  intro start db
  have hstart : start.WellFormed := WellFormed.fresh limits loadRule policy
  have hdb : db.WellFormed := hstart.after history
  exact ⟨hdb, hdb.keyCount_le_valueCount, hdb.perNetwork_eq_sum, hstart.after?_eq history⟩

end OverlayStore.Database
