import OverlayStore.Proofs.Database.Place
import OverlayStore.Sweep

/-!
# Sweeps between stores

A database without limits and policy is written to by anyone and swept now and then by the standard
expiry rule. What a place holds is then either what was stored there last, or nothing because a
sweep has found that to be expired. A record that has expired stays expired, so the last sweep would
have removed it as well: the earlier sweeps make no difference to what is left
(`Upkeep.earlier_sweeps_lose_nothing`).
-/

namespace OverlayStore

/-- What happens to a database that is swept now and then. -/
inductive Upkeep where
  /-- Somebody stores a record, or deletes one by an empty value. -/
  | store (record : Record)
  /-- Somebody removes the record under a primary and a secondary key. -/
  | remove (key secondary : Key)
  /-- The database is swept at a time. -/
  | sweep (time : Time)

/-- The database that an event leaves behind. -/
def Database.upkeep (expiry : Expiry) (routing : Routing) (db : Database) : Upkeep → Database
  | .store record => (db.store record).database
  | .remove key secondary => (db.remove key secondary).database
  | .sweep time => (db.sweep expiry routing time).database

/-- The database that several events leave behind. -/
def Database.upkeepAll (expiry : Expiry) (routing : Routing) (db : Database)
    (events : List Upkeep) : Database :=
  events.foldl (upkeep expiry routing) db

/-! ## Expiry -/

namespace Lifetime

variable {lifetime : Lifetime} {routing : Routing} {record : Record} {earlier later : Time}

/-- A record that has expired stays expired. -/
theorem rule_mono (hle : earlier ≤ later) (h : lifetime.rule routing earlier record = true) :
    lifetime.rule routing later record = true := by
  unfold rule at h ⊢
  cases hends : lifetime.expiresAt routing record with
  | none => simp [hends] at h
  | some ends =>
    simp only [hends, decide_eq_true_eq] at h ⊢
    exact Int.le_trans h hle

end Lifetime

namespace Database

variable {db : Database}

/-- Without limits and policy everything is admitted. -/
theorem admits_of_unlimited (hlimits : db.limits = {}) (hpolicy : db.policy = none)
    (record : Record) : db.admits record = true := by
  simp [admits, withinLimits, withinLimit, hlimits, hpolicy]

/-- Where all records are kept, retaining changes nothing. -/
theorem retain_eq_self {keep : Record → Bool} (h : ∀ record ∈ db.records, keep record = true) :
    db.retain keep = ⟨[], db, []⟩ := by
  have hnone : (db.records.filter fun record => !keep record) = [] :=
    List.filter_eq_nil_iff.2 fun record hmem => by simp [h record hmem]
  unfold retain
  dsimp only
  rw [hnone]
  rfl

/-- A sweep that follows another one at the same time finds nothing to remove. -/
theorem Arranged.sweep_sweep (arranged : db.Arranged) (expiry : Expiry) (routing : Routing)
    (now : Time) :
    let swept := (db.sweep expiry routing now).database
    (swept.sweep expiry routing now).result = 0 ∧
      (swept.sweep expiry routing now).database = swept := by
  intro swept
  let keep (record : Record) : Bool := !expiry.isExpired routing now record
  have hkept : ∀ record ∈ swept.records, keep record = true := fun record hmem =>
    List.of_mem_filter ((arranged.records_retain keep).mem_iff.1 hmem)
  have hsame : swept.retain keep = ⟨[], swept, []⟩ := retain_eq_self hkept
  exact ⟨congrArg (·.result.length) hsame, congrArg (·.database) hsame⟩

/-- A sweep by a rule that spares local records leaves all of them. -/
theorem Arranged.mem_records_sweep_of_isLocal (arranged : db.Arranged) {expiry : Expiry}
    {routing : Routing} {now : Time} {record : Record}
    (hspared : expiry.isExpired routing now record = false) (hmem : record ∈ db.records) :
    record ∈ (db.sweep expiry routing now).database.records :=
  (arranged.records_retain _).mem_iff.2 (List.mem_filter.2 ⟨hmem, by simp [hspared]⟩)

end Database

/-! ## What is stored last -/

namespace Upkeep

/-- The event is a sweep. -/
def isSweep : Upkeep → Bool
  | .sweep _ => true
  | _ => false

/-- The times at which the database is swept. -/
def sweepTimes (events : List Upkeep) : List Time :=
  events.filterMap fun event =>
    match event with
    | .sweep time => some time
    | _ => none

/-- What an event makes of the record that was stored last at a place. Sweeps are left aside. -/
def storedNext (key secondary : Key) (held : Option Record) : Upkeep → Option Record
  | .store record =>
    if key = record.key ∧ secondary = record.secondary then
      if record.value.isEmpty then none else some record
    else held
  | .remove k s => if key = k ∧ secondary = s then none else held
  | .sweep _ => held

/-- The record that was stored last at a place and not deleted since. -/
def lastStored (key secondary : Key) (events : List Upkeep) : Option Record :=
  events.foldl (storedNext key secondary) none

/-- The last event decides on what was stored last. -/
theorem lastStored_append_singleton (key secondary : Key) (events : List Upkeep)
    (event : Upkeep) : lastStored key secondary (events ++ [event]) =
      storedNext key secondary (lastStored key secondary events) event := by
  simp [lastStored]

/-- Sweeps store nothing. -/
theorem lastStored_filter (key secondary : Key) (events : List Upkeep) :
    lastStored key secondary (events.filter fun event => !event.isSweep) =
      lastStored key secondary events := by
  induction events using List.reverseRecOn with
  | nil => rfl
  | append_singleton events event ih =>
    rw [List.filter_append, lastStored_append_singleton, ← ih]
    cases event with
    | sweep time => simp [isSweep, storedNext]
    | _ => exact lastStored_append_singleton key secondary _ _

theorem sweepTimes_filter (events : List Upkeep) :
    sweepTimes (events.filter fun event => !event.isSweep) = [] := by
  refine List.filterMap_eq_nil_iff.2 fun event hmem => ?_
  have hwrite := List.of_mem_filter hmem
  cases event with
  | sweep time => cases hwrite
  | _ => rfl

/-! ## What a place holds -/

variable {lifetime : Lifetime} {routing : Routing}

/-- The request that an event is. -/
def request (expiry : Expiry) (routing : Routing) : Upkeep → Database.Request
  | .store record => .store record
  | .remove key secondary => .remove key secondary
  | .sweep time => .retain fun record => !expiry.isExpired routing time record

/-- Every event of the upkeep is a request. -/
theorem upkeep_eq_serve (expiry : Expiry) (routing : Routing) (db : Database) (event : Upkeep) :
    db.upkeep expiry routing event = db.serve (event.request expiry routing) := by
  cases event <;> rfl

/-- A place holds what was stored there last, or nothing because that had expired at a sweep. -/
def Accounts (lifetime : Lifetime) (routing : Routing) (events : List Upkeep) (db : Database)
    (key secondary : Key) : Prop :=
  db.find? key secondary = lastStored key secondary events ∨
    db.find? key secondary = none ∧ ∃ record, lastStored key secondary events = some record ∧
      ∃ time ∈ sweepTimes events, lifetime.rule routing time record = true

/-- A database without limits and policy in which every place is accounted for. -/
structure Kept (lifetime : Lifetime) (routing : Routing) (events : List Upkeep) (db : Database) :
    Prop where
  /-- The database is well formed. -/
  wellFormed : db.WellFormed
  /-- There are no limits. -/
  limits : db.limits = {}
  /-- There is no policy. -/
  policy : db.policy = none
  /-- Every place is accounted for. -/
  accounts : ∀ key secondary, Accounts lifetime routing events db key secondary

namespace Kept

variable {events : List Upkeep} {db : Database}

theorem start (loadRule : LoadRule) : Kept lifetime routing [] { loadRule } where
  wellFormed := Database.WellFormed.fresh {} loadRule none
  limits := rfl
  policy := rfl
  accounts _ _ := .inl rfl

/-- A store or a removal has the effect on a place that it has on what was stored last. -/
theorem accounts_write (h : Kept lifetime routing events db) {event : Upkeep}
    (hwrite : event.isSweep = false) (key secondary : Key) :
    Accounts lifetime routing (events ++ [event])
      (db.upkeep { standard := lifetime.rule } routing event) key secondary := by
  have hsame : sweepTimes (events ++ [event]) = sweepTimes events := by
    cases event with
    | sweep time => cases hwrite
    | _ => simp [sweepTimes]
  rw [Accounts, upkeep_eq_serve, h.wellFormed.find?_serve, lastStored_append_singleton, hsame]
  cases event with
  | store record =>
    rw [request, Database.Request.leaves, storedNext,
      Database.admits_of_unlimited h.limits h.policy, if_pos rfl]
    split
    · exact .inl rfl
    · exact h.accounts key secondary
  | remove k s =>
    rw [request, Database.Request.leaves, storedNext]
    split
    · exact .inl rfl
    · exact h.accounts key secondary
  | sweep time => cases hwrite

/-- A sweep takes away what has expired, and all else stays as it was. -/
theorem accounts_sweep (h : Kept lifetime routing events db) (time : Time) (key secondary : Key) :
    Accounts lifetime routing (events ++ [.sweep time])
      (db.upkeep { standard := lifetime.rule } routing (.sweep time)) key secondary := by
  have htimes : sweepTimes (events ++ [.sweep time]) = sweepTimes events ++ [time] := by
    simp [sweepTimes]
  have hleaves : Database.Request.leaves db key secondary
      (request { standard := lifetime.rule } routing (.sweep time)) =
        (db.find? key secondary).filter fun record => !lifetime.rule routing time record := rfl
  have hstored : storedNext key secondary (lastStored key secondary events) (.sweep time) =
      lastStored key secondary events := rfl
  rw [Accounts, upkeep_eq_serve, h.wellFormed.find?_serve, lastStored_append_singleton, htimes,
    hleaves, hstored]
  rcases h.accounts key secondary with hlast | ⟨hnone, record, hlast, earlier, hmem, hexpired⟩
  · rw [hlast]
    cases lastStored key secondary events with
    | none => exact .inl rfl
    | some record =>
      cases hexpired : lifetime.rule routing time record with
      | false => exact .inl (by simp [hexpired])
      | true => exact .inr ⟨by simp [hexpired], record, rfl, time, by simp, hexpired⟩
  · -- an earlier sweep has taken the record
    rw [hnone]
    exact .inr ⟨rfl, record, hlast, earlier, List.mem_append_left _ hmem, hexpired⟩

/-- An event keeps what is held and what has been swept away in step with the history. -/
theorem step (h : Kept lifetime routing events db) (event : Upkeep) :
    Kept lifetime routing (events ++ [event])
      (db.upkeep { standard := lifetime.rule } routing event) := by
  have hrules : (db.upkeep { standard := lifetime.rule } routing event).rules = db.rules := by
    rw [upkeep_eq_serve]
    exact db.rules_serve (by cases event <;> rfl)
  refine
    { wellFormed := upkeep_eq_serve _ routing db event ▸ h.wellFormed.serve _
      limits := (congrArg Prod.fst hrules).trans h.limits
      policy := (congrArg (·.2.2) hrules).trans h.policy
      accounts := fun key secondary => ?_ }
  cases hsweep : event.isSweep with
  | false => exact h.accounts_write hsweep key secondary
  | true =>
    cases event with
    | sweep time => exact h.accounts_sweep time key secondary
    | _ => cases hsweep

/-- Every place of a database that started without records is accounted for. -/
theorem all (loadRule : LoadRule) (events : List Upkeep) : Kept lifetime routing events
    (({ loadRule } : Database).upkeepAll { standard := lifetime.rule } routing events) := by
  induction events using List.reverseRecOn with
  | nil => exact start loadRule
  | append_singleton events event ih =>
    rw [Database.upkeepAll, List.foldl_append]
    exact ih.step event

/-- A sweep that no earlier one comes after leaves what was stored last and has not expired. -/
theorem find?_sweep (h : Kept lifetime routing events db) {now : Time}
    (hnow : ∀ time ∈ sweepTimes events, time ≤ now) (key secondary : Key) :
    (db.sweep { standard := lifetime.rule } routing now).database.find? key secondary =
      (lastStored key secondary events).filter fun record =>
        !lifetime.rule routing now record := by
  refine (h.wellFormed.find?_serve
    (.retain fun record => !lifetime.rule routing now record) key secondary).trans ?_
  rw [Database.Request.leaves]
  rcases h.accounts key secondary with hlast | ⟨hnone, record, hlast, time, hmem, hexpired⟩
  · rw [hlast]
  · -- what an earlier sweep has taken would be taken now
    rw [hnone, hlast, Option.filter_some, Lifetime.rule_mono (hnow time hmem) hexpired]
    rfl

end Kept

/-- Let a database without limits and policy be swept by the standard rule, for the last time at a
time that no earlier sweep comes after. Then it holds the same records as if only that last sweep
had been made: for each place the record that was stored last, if it was not deleted and has not
expired. No sweep ever removes a local record, and a sweep that is repeated at the same time removes
nothing. -/
theorem earlier_sweeps_lose_nothing (loadRule : LoadRule) (lifetime : Lifetime) (routing : Routing)
    (events : List Upkeep) (now : Time) (hnow : ∀ time ∈ sweepTimes events, time ≤ now) :
    let expiry : Expiry := { standard := lifetime.rule }
    let after (events : List Upkeep) := ({ loadRule } : Database).upkeepAll expiry routing events
    let swept := after (events ++ [.sweep now])
    let alone := after ((events.filter fun event => !event.isSweep) ++ [.sweep now])
    swept.records.Perm alone.records ∧
      (∀ record, record ∈ swept.records ↔
        lastStored record.key record.secondary events = some record ∧
          lifetime.rule routing now record = false) ∧
      ∀ earlier time, earlier ++ [.sweep time] <+: events ++ [.sweep now] →
        (∀ record ∈ (after earlier).records, record.isLocal = true →
          record ∈ (after (earlier ++ [.sweep time])).records) ∧
        ((after (earlier ++ [.sweep time])).sweep expiry routing time).result = 0 ∧
        ((after (earlier ++ [.sweep time])).sweep expiry routing time).database =
          after (earlier ++ [.sweep time]) := by
  intro expiry after swept alone
  have hafter : ∀ events, Kept lifetime routing events (after events) := Kept.all loadRule
  have hlast : ∀ events time, after (events ++ [.sweep time]) =
      ((after events).sweep expiry routing time).database := fun _ _ => List.foldl_append
  -- the last sweep alone decides what is found, whatever the earlier ones took away
  have hswept : ∀ key secondary, swept.find? key secondary =
      (lastStored key secondary events).filter fun record => !lifetime.rule routing now record := by
    intro key secondary
    rw [show swept = _ from hlast events now]
    exact (hafter events).find?_sweep hnow key secondary
  have halone : ∀ key secondary, alone.find? key secondary = swept.find? key secondary := by
    intro key secondary
    rw [hswept, show alone = _ from hlast _ now, ← lastStored_filter]
    exact (hafter _).find?_sweep (by simp [sweepTimes_filter]) key secondary
  have hwell : swept.WellFormed := (hafter _).wellFormed
  refine ⟨?_, fun record => ?_, fun earlier time _ => ?_⟩
  · refine hwell.records_perm (hafter _).wellFormed.nodup_records fun record => ?_
    rw [(hafter _).wellFormed.mem_records_iff, ← halone]
  · rw [hwell.mem_records_iff, hswept, Option.filter_eq_some_iff, Bool.not_eq_true']
  · rw [hlast earlier time]
    have harranged := (hafter earlier).wellFormed.toArranged
    refine ⟨fun record hmem hlocal => ?_, harranged.sweep_sweep expiry routing time⟩
    exact harranged.mem_records_sweep_of_isLocal
      (lifetime.rule_of_isLocal routing time hlocal) hmem

/-- One remote record expires, is swept away, and is stored anew before the last sweep; another one
is swept away for good. A local record of the same age stays, and a removed one stays away. -/
theorem earlier_sweeps_lose_nothing_of_renewed_record :
    let value : Value := ⟨.test, ⟨1, 0⟩, [118], by decide⟩
    let contact (octet : UInt8) : Contact :=
      ⟨⟨List.replicate 20 octet, by simp⟩, .ofOctets 82 1 2 octet 4000⟩
    let lifetime : Lifetime := ⟨1, 100⟩
    let routing : Routing := .fixed (contact 1) []
    let renewed : Record := .direct (contact 2) .zero value 100
    let own : Record := .own (contact 1) .zero value 0
    let events : List Upkeep :=
      [.store (.direct (contact 2) .zero value 0), .store (.direct (contact 3) .zero value 0),
        .store own, .store (.direct (contact 4) .zero value 100), .sweep 100, .store renewed,
        .sweep 130, .remove .zero (contact 4).id]
    let after (events : List Upkeep) :=
      ({} : Database).upkeepAll { standard := lifetime.rule } routing events
    let swept := after (events ++ [.sweep 150])
    (∀ time ∈ sweepTimes events, time ≤ 150) ∧
      swept.records.Perm (after ((events.filter fun event => !event.isSweep) ++
        [.sweep 150])).records ∧
      renewed ∈ swept.records ∧ own ∈ swept.records ∧ swept.records.length = 2 ∧
      (swept.sweep { standard := lifetime.rule } routing 150).result = 0 := by
  intro value contact lifetime routing renewed own events after swept
  have hnow : ∀ time ∈ sweepTimes events, time ≤ 150 := by decide
  obtain ⟨hperm, hmem, hpasses⟩ :=
    earlier_sweeps_lose_nothing {} lifetime routing events 150 hnow
  exact ⟨hnow, hperm, (hmem renewed).2 (by decide), (hmem own).2 (by decide), by decide,
    (hpasses events 150 (List.prefix_refl _)).2.1⟩

end Upkeep

end OverlayStore
