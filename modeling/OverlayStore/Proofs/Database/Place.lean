import OverlayStore.Proofs.Database.History

/-!
# One place of a database

A place of a database is given by a primary and a secondary key and holds at most one record. This
module says what every request leaves at a place (`Database.WellFormed.find?_serve`), which requests
take the record there away, and what the standard policy lets in where a place is taken.
-/

namespace OverlayStore.Database

/-! ## Requests seen from one place -/

namespace Request

/-- The request installs a policy or takes one away. -/
def isPolicyChange : Request → Bool
  | .setPolicy _ => true
  | _ => false

/-- What a request leaves at a place. -/
def leaves (db : Database) (key secondary : Key) : Request → Option Record
  | .store record =>
    if key = record.key ∧ secondary = record.secondary then
      if record.value.isEmpty then none
      else if db.admits record then some record else db.find? key secondary
    else db.find? key secondary
  | .remove k s => if key = k ∧ secondary = s then none else db.find? key secondary
  | .retain keep => (db.find? key secondary).filter keep
  | .clear => none
  | .load _ _ _ => db.find? key secondary
  | .setPolicy _ => db.find? key secondary

/-- What the store of a value leaves at the record's own place. -/
theorem leaves_store (db : Database) (record : Record) (hvalue : record.value.isEmpty = false) :
    (Request.store record).leaves db record.key record.secondary =
      if db.admits record then some record else db.find? record.key record.secondary := by
  simp [leaves, hvalue]

/-- The request takes away what a place holds. -/
def removes (db : Database) (key secondary : Key) : Request → Bool
  | .store record => record.value.isEmpty && (record.key = key && record.secondary = secondary)
  | .remove k s => k = key && s = secondary
  | .retain keep => (db.find? key secondary).any fun record => !keep record
  | .clear => true
  | .load _ _ _ => false
  | .setPolicy _ => false

end Request

/-- No request of a history takes away what a place holds. -/
def keepsPlace (key secondary : Key) : Database → List Request → Bool
  | _, [] => true
  | db, request :: history =>
    !request.removes db key secondary && (db.serve request).keepsPlace key secondary history

variable {db : Database} {key secondary : Key}

/-- A place is kept through a history if it is kept through both of its parts. -/
theorem keepsPlace_append (key secondary : Key) (db : Database) (earlier later : List Request) :
    db.keepsPlace key secondary (earlier ++ later) =
      (db.keepsPlace key secondary earlier &&
        (db.after earlier).keepsPlace key secondary later) := by
  induction earlier generalizing db with
  | nil => rfl
  | cons request earlier ih =>
    rw [List.cons_append, keepsPlace, ih, keepsPlace, Bool.and_assoc]
    rfl

/-- Taking out what is at a place, if anything is there, leaves nothing at the place. -/
theorem find?_elim_takeOut (db : Database) (k s : Key) (key secondary : Key) :
    ((db.takeOut k s).elim db Prod.snd).find? key secondary =
      if key = k ∧ secondary = s then none else db.find? key secondary := by
  cases htaken : db.takeOut k s with
  | none =>
    have hnone := (takeOut_eq_none_iff db k s).1 htaken
    rw [Option.elim_none]
    split
    · rename_i hsame
      rw [hsame.1, hsame.2, hnone]
    · rfl
  | some taken => exact find?_takeOut htaken key secondary

/-- Storing a value tells whether the record is admitted. -/
theorem result_store (db : Database) {record : Record} (hvalue : record.value.isEmpty = false) :
    (db.store record).result = db.admits record := by
  unfold store
  rw [if_neg (ne_true_of_eq_false hvalue)]
  split
  · rename_i hadmits
    exact hadmits.symm
  · rename_i hadmits
    exact (eq_false_of_ne_true hadmits).symm

/-- Storing an empty value tells whether there was a record to remove. -/
theorem result_store_of_isEmpty (db : Database) {record : Record}
    (hvalue : record.value.isEmpty = true) :
    (db.store record).result = db.contains record.key record.secondary := by
  unfold store contains
  rw [if_pos hvalue]
  cases htaken : db.takeOut record.key record.secondary with
  | none => rw [(takeOut_eq_none_iff db _ _).1 htaken, Option.isSome_none]
  | some taken => rw [find?_of_takeOut_eq_some htaken, Option.isSome_some]

/-- Storing an empty value empties the record's own place and no other one. -/
theorem find?_store_of_isEmpty (db : Database) {record : Record}
    (hvalue : record.value.isEmpty = true) (key secondary : Key) :
    (db.store record).database.find? key secondary =
      if key = record.key ∧ secondary = record.secondary then none else db.find? key secondary := by
  rw [database_store, if_pos hvalue, find?_elim_takeOut]

/-- A store that is refused changes nothing. -/
theorem database_store_of_refused (db : Database) {record : Record}
    (hresult : (db.store record).result = false) : (db.store record).database = db := by
  unfold store at hresult ⊢
  split at hresult
  · -- an empty value is refused where there is nothing to remove
    cases htaken : db.takeOut record.key record.secondary with
    | none => simp [*]
    | some taken => simp [htaken] at hresult
  · split at hresult
    · cases hresult
    · simp [*]

/-- What a request leaves at a place is found there afterwards. -/
theorem WellFormed.find?_serve (h : db.WellFormed) (request : Request) (key secondary : Key) :
    (db.serve request).find? key secondary = request.leaves db key secondary := by
  cases request with
  | store record =>
    rw [Database.serve, database_store, Request.leaves]
    -- an empty value takes out what is there, any other one is put if it is admitted
    by_cases hempty : record.value.isEmpty = true
    · rw [if_pos hempty, if_pos hempty, find?_elim_takeOut]
    · rw [if_neg hempty, if_neg hempty]
      by_cases hadmits : db.admits record = true
      · rw [if_pos hadmits, if_pos hadmits, find?_put]
      · rw [if_neg hadmits, if_neg hadmits, ite_self]
  | remove k s => rw [Database.serve, database_remove, find?_elim_takeOut, Request.leaves]
  | retain keep => exact find?_retain db keep h.nonempty key secondary
  | clear => rfl
  | load k counted now => exact find?_requestLoad db k counted now key secondary
  | setPolicy policy => rfl

/-- What a store that succeeds leaves at the record's own place. -/
theorem WellFormed.find?_store_of_accepted (h : db.WellFormed) {record : Record}
    (hresult : (db.store record).result = true) :
    (db.store record).database.find? record.key record.secondary =
      if record.value.isEmpty then none else some record := by
  have hplace := h.find?_serve (.store record) record.key record.secondary
  rw [Database.serve] at hplace
  rw [hplace]
  split
  · rename_i hempty
    simp [Request.leaves, hempty]
  · rename_i hvalue
    have hadmits := db.result_store (eq_false_of_ne_true hvalue)
    rw [Request.leaves_store db record (eq_false_of_ne_true hvalue), ← hadmits, if_pos hresult]

/-- After a store there are records from before and at most the stored one besides, if that was
admitted. -/
theorem WellFormed.mem_records_store (h : db.WellFormed) {record other : Record}
    (hmem : other ∈ (db.store record).database.records) :
    other ∈ db.records ∨ other = record ∧ db.admits record = true := by
  have hfound := ((h.serve (.store record)).mem_records_iff other).mp hmem
  rw [h.find?_serve, Request.leaves] at hfound
  split at hfound
  · split at hfound
    · cases hfound
    · split at hfound
      · rename_i hadmits
        exact .inr ⟨(Option.some.inj hfound).symm, hadmits⟩
      · exact .inl ((h.mem_records_iff other).mpr hfound)
  · exact .inl ((h.mem_records_iff other).mpr hfound)

/-! ## The policy stays -/

theorem rules_elim_takeOut (db : Database) (k s : Key) :
    ((db.takeOut k s).elim db Prod.snd).rules = db.rules := by
  cases htaken : db.takeOut k s with
  | none => rfl
  | some taken => exact rules_takeOut htaken

/-- Only a policy change changes the limits, the load rule or the policy. -/
theorem rules_serve (db : Database) {request : Request} (h : request.isPolicyChange = false) :
    (db.serve request).rules = db.rules := by
  cases request with
  | store record =>
    rw [serve, database_store]
    split
    · exact rules_elim_takeOut db record.key record.secondary
    · split
      · exact rules_put db record
      · rfl
  | remove k s =>
    rw [serve, database_remove]
    exact rules_elim_takeOut db k s
  | retain keep => exact rules_retain db keep
  | clear => rfl
  | load k counted now => exact rules_requestLoad db k counted now
  | setPolicy policy => cases h

theorem policy_serve (db : Database) {request : Request} (h : request.isPolicyChange = false) :
    (db.serve request).policy = db.policy :=
  congrArg (·.2.2) (db.rules_serve h)

/-- A history without policy changes leaves the policy. -/
theorem policy_after (db : Database) {history : List Request}
    (h : ∀ request ∈ history, request.isPolicyChange = false) :
    (db.after history).policy = db.policy := by
  induction history generalizing db with
  | nil => rfl
  | cons request history ih =>
    have hrest := ih (db.serve request) fun other hmem => h other (List.mem_cons_of_mem _ hmem)
    exact hrest.trans (db.policy_serve (h request List.mem_cons_self))

/-! ## The standard policy where a place is taken -/

/-- Local records are always let in. -/
theorem admits_of_isLocal {maxPerKey : Nat}
    (hpolicy : db.policy = some (Admission.standard maxPerKey)) {record : Record}
    (hlocal : record.isLocal = true) : db.admits record = true := by
  simp [admits, withinLimits, hpolicy, Admission.standard, hlocal]

/-- A remote record that comes to a taken place has to respect the limits and to replace a remote
record from its own address. -/
theorem admits_of_find? {maxPerKey : Nat}
    (hpolicy : db.policy = some (Admission.standard maxPerKey)) {record held : Record}
    (hfound : db.find? record.key record.secondary = some held) (hremote : record.isLocal = false) :
    db.admits record = (db.withinLimits record &&
      (!held.isLocal && held.creator.address = record.creator.address)) := by
  obtain ⟨bag, hbag, hheld⟩ := Option.bind_eq_some_iff.1 hfound
  -- where the creator has a record already, the number of creators does not matter
  simp [admits, hpolicy, Admission.standard, hremote, hbag, hheld]

end OverlayStore.Database
