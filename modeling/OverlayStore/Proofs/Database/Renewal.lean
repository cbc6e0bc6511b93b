import OverlayStore.Node
import OverlayStore.Proofs.Database.Place

/-!
# Records that are stored again and again

A lease is a place of a database that a creator takes and renews by having values stored there,
always through the same sender. Under the standard policy a lease that was granted once is granted
at every renewal, however full its bag, its address or its network has become in the meantime. By
the standard expiry rule a sweep removes its record when the span has passed since the last renewal
and not before. So a lease that is renewed in time is held without a gap, and is over at the first
sweep after its span (`Lease.held_while_renewed`).
-/

namespace OverlayStore

/-! ## Renewals and the limits -/

/-- What the limits ask of a record that does not depend on what is stored: its creator is routable
if it has to be, and where it has no IPv4 form the limits are not zero. -/
structure FloodLimits.Tolerates (limits : FloodLimits) (record : Record) : Prop where
  routable : limits.validateCreator = true → record.isDirect = false →
    record.hasRoutableCreator = true
  address : ∀ max, limits.maxPerAddress = some max →
    record.creator.maskedIpv4 Contact.addressMask = none → 0 < max
  network : ∀ max, limits.maxPerNetwork = some max →
    record.creator.maskedIpv4 Contact.networkMask = none → 0 < max

namespace Database

variable {db : Database} {mask : UInt32} {record held : Record}

/-- A creator without an IPv4 form has nothing charged to it. -/
theorem chargedLike_of_maskedIpv4_eq_none (counts : Table UInt32 Nat)
    (hnone : record.creator.maskedIpv4 mask = none) : chargedLike counts mask record = 0 := by
  simp [chargedLike, Record.charge, hnone]

/-- Within a limit there is room for a record without an IPv4 form only if the limit is not zero. -/
theorem pos_of_withinLimit {counts : Table UInt32 Nat} {previous : Option Record} {max : Nat}
    (h : withinLimit (some max) mask (chargedLike counts mask record) previous record = true)
    (hnone : record.creator.maskedIpv4 mask = none) : 0 < max := by
  rw [chargedLike_of_maskedIpv4_eq_none counts hnone, withinLimit, Bool.or_eq_true,
    decide_eq_true_eq] at h
  -- nor can a creator without an IPv4 form have the origin of a record that is charged
  refine h.resolve_left fun hsame => ?_
  rw [Record.sameOrigin] at hsame
  split at hsame
  · simp [hnone] at hsame
  · cases hsame

/-- A record that replaces a remote one of its creator respects a limit, unless the creator is
charged to no place and the limit is zero. -/
theorem withinLimit_of_replaces {limit : Option Nat} (counts : Table UInt32 Nat)
    (hheld : held.isLocal = false) (hcreator : held.creator = record.creator)
    (hpos : ∀ max, limit = some max → record.creator.maskedIpv4 mask = none → 0 < max) :
    withinLimit limit mask (chargedLike counts mask record) (some held) record = true := by
  cases limit with
  | none => rfl
  | some max =>
    rw [withinLimit, Bool.or_eq_true, decide_eq_true_eq]
    cases horigin : record.creator.maskedIpv4 mask with
    | none =>
      rw [chargedLike_of_maskedIpv4_eq_none counts horigin]
      exact .inr (hpos max rfl horigin)
    | some origin =>
      -- both are charged to one origin, so that the number of its records stays as it is
      refine .inl ?_
      simp [Record.sameOrigin, Record.charge, hheld, hcreator, horigin]

/-- The limits tolerate a remote record that they have let in. -/
theorem tolerates_of_withinLimits (hremote : record.isLocal = false)
    (h : db.withinLimits record = true) : db.limits.Tolerates record := by
  simp only [withinLimits, hremote, Bool.false_or, Bool.and_eq_true] at h
  obtain ⟨⟨hroutable, haddress⟩, hnetwork⟩ := h
  refine ⟨fun hvalidate hindirect => ?_, fun max hmax hnone => ?_, fun max hmax hnone => ?_⟩
  · simpa [hvalidate, hindirect] using hroutable
  · rw [hmax] at haddress
    exact pos_of_withinLimit haddress hnone
  · rw [hmax] at hnetwork
    exact pos_of_withinLimit hnetwork hnone

/-- The limits let in a record that they tolerate in place of a remote one of its creator. -/
theorem withinLimits_of_tolerates (h : db.limits.Tolerates record)
    (hfound : db.find? record.key record.secondary = some held) (hheld : held.isLocal = false)
    (hcreator : held.creator = record.creator) : db.withinLimits record = true := by
  have haddress := withinLimit_of_replaces db.perAddress hheld hcreator h.address
  have hnetwork := withinLimit_of_replaces db.perNetwork hheld hcreator h.network
  have hroutable : (!(db.limits.validateCreator && !record.isDirect) ||
      record.hasRoutableCreator) = true := by
    cases hvalidate : db.limits.validateCreator <;> cases hdirect : record.isDirect <;>
      simp [h.routable, hvalidate, hdirect]
  simp only [withinLimits, hfound, valuesPerAddress, valuesPerNetwork, hroutable, haddress,
    hnetwork, Bool.and_self, Bool.or_true]

/-! ## What a sweep does to a place -/

/-- The request stores or removes at another place, or asks for a request load. -/
def Request.spares (key secondary : Key) : Request → Bool
  | .store record => !(record.key = key && record.secondary = secondary)
  | .remove k s => !(k = key && s = secondary)
  | .load _ _ _ => true
  | _ => false

/-- A request that spares a place leaves what is held there. -/
theorem Request.leaves_of_spares {key secondary : Key} {request : Request}
    (h : request.spares key secondary = true) :
    request.leaves db key secondary = db.find? key secondary := by
  cases request with
  | store record =>
    refine if_neg ?_
    rintro ⟨rfl, rfl⟩
    simp [spares] at h
  | remove k s =>
    refine if_neg ?_
    rintro ⟨rfl, rfl⟩
    simp [spares] at h
  | load k counted now => rfl
  | _ => cases h

theorem Request.isPolicyChange_of_spares {key secondary : Key} {request : Request}
    (h : request.spares key secondary = true) : request.isPolicyChange = false := by
  cases request <;> first | rfl | cases h

/-- A sweep retains what has not expired. -/
theorem database_sweep (db : Database) (expiry : Expiry) (routing : Routing) (now : Time) :
    (db.sweep expiry routing now).database =
      db.serve (.retain fun record => !expiry.isExpired routing now record) := rfl

end Database

/-- Where types have no rules of their own, a record is stale once its span has passed. -/
theorem Expiry.isExpired_eq_true_iff (settings : Config.Storage) (routing : Routing) (now : Time)
    {record : Record} (hremote : record.isLocal = false) :
    (Expiry.ofSettings settings).isExpired routing now record = true ↔
      ∃ ends, Time.add? record.created
        ((Lifetime.ofSettings settings).span routing record.key) = some ends ∧ ends ≤ now := by
  have hrule : (Expiry.ofSettings settings).isExpired routing now record =
      (Lifetime.ofSettings settings).rule routing now record := rfl
  rw [hrule, Lifetime.rule, Lifetime.expiresAt, hremote, if_neg Bool.false_ne_true]
  cases Time.add? record.created ((Lifetime.ofSettings settings).span routing record.key) <;> simp

/-- A time that can be told is the sum. -/
theorem Time.eq_add_of_add? {time ends : Time} {span : Duration}
    (h : Time.add? time span = some ends) : ends = time + (span : Int) := by
  unfold Time.add? at h
  dsimp only at h
  split at h
  · exact (Option.some.inj h).symm
  · cases h

/-! ## Leases -/

/-- Who has values stored, through whom, and under which key. -/
structure Lease where
  /-- Who creates the values. -/
  creator : Contact
  /-- Who delivers them. -/
  sender : Contact
  /-- The key that they are stored under. -/
  key : Key

namespace Lease

/-- The record that takes or renews a lease. -/
def record (lease : Lease) (value : Value) (time : Time) : Record :=
  ⟨lease.creator, lease.sender, lease.key, value, time, false⟩

/-- What happens to a database in which a lease is held. -/
inductive Event where
  /-- The lease is renewed with a value. -/
  | renew (value : Value)
  /-- The database is swept. -/
  | sweep
  /-- The database serves a request of somebody else. -/
  | serve (request : Database.Request)

/-- Renewals have a value, and the requests of others spare the place of the lease. -/
def Event.isAllowed (lease : Lease) : Event → Bool
  | .renew value => !value.isEmpty
  | .sweep => true
  | .serve request => request.spares lease.key lease.creator.id

/-- The database that an event at a time leaves behind. -/
def apply (lease : Lease) (expiry : Expiry) (routing : Routing) (db : Database) :
    Time × Event → Database
  | (time, .renew value) => (db.store (lease.record value time)).database
  | (time, .sweep) => (db.sweep expiry routing time).database
  | (_, .serve request) => db.serve request

/-- The database that several events leave behind. -/
def applyAll (lease : Lease) (expiry : Expiry) (routing : Routing) (db : Database)
    (events : List (Time × Event)) : Database :=
  events.foldl (lease.apply expiry routing) db

/-- How long a lease is held without a renewal. -/
def span (lease : Lease) (settings : Config.Storage) (routing : Routing) : Duration :=
  (Lifetime.ofSettings settings).span routing lease.key

/-- The record that was stored last for a lease: the first one, or that of the last renewal. -/
def latest (lease : Lease) (first : Record) : List (Time × Event) → Record
  | [] => first
  | (time, .renew value) :: events => lease.latest (lease.record value time) events
  | _ :: events => lease.latest first events

/-- When a lease is renewed. -/
def renewals (events : List (Time × Event)) : List Time :=
  events.filterMap fun event =>
    match event with
    | (time, .renew _) => some time
    | _ => none

/-- A lease is renewed in time: the clock does not go back, every renewal comes before the span has
passed since the one before, and nobody else touches the place. -/
structure InTime (lease : Lease) (span : Duration) (start : Time) (events : List (Time × Event)) :
    Prop where
  /-- The clock does not go back. -/
  ordered : (start :: events.map Prod.fst).Pairwise (· ≤ ·)
  /-- The next renewal comes before the span has passed. -/
  gaps : (start :: renewals events).IsChain fun earlier later => later < earlier + (span : Int)
  /-- All events are allowed. -/
  allowed : ∀ event ∈ events, event.2.isAllowed lease = true

variable {lease : Lease} {span : Duration} {start time : Time} {events : List (Time × Event)}
  {event : Event} {first : Record}

/-! ### The course of a lease -/

theorem mem_times_of_mem_renewals (h : time ∈ renewals events) : time ∈ events.map Prod.fst := by
  obtain ⟨⟨t, event⟩, hmem, hsome⟩ := List.mem_filterMap.mp h
  cases event with
  | renew value => exact List.mem_map.mpr ⟨_, hmem, Option.some.inj hsome⟩
  | _ => cases hsome

/-- Without renewals the first record is the latest. -/
theorem latest_of_renewals_eq_nil (first : Record) (h : renewals events = []) :
    lease.latest first events = first := by
  induction events with
  | nil => rfl
  | cons event events ih =>
    obtain ⟨time, event⟩ := event
    cases event with
    | renew value => cases h
    | sweep => exact ih h
    | serve request => exact ih h

theorem latest_append (lease : Lease) (first : Record) (earlier later : List (Time × Event)) :
    lease.latest first (earlier ++ later) = lease.latest (lease.latest first earlier) later := by
  induction earlier generalizing first with
  | nil => rfl
  | cons event earlier ih =>
    obtain ⟨time, event⟩ := event
    cases event <;> exact ih _

namespace InTime

/-- A renewal in time begins a new term. -/
theorem renewed {value : Value} (h : lease.InTime span start ((time, .renew value) :: events)) :
    lease.InTime span time events where
  ordered := (List.pairwise_cons.mp h.ordered).2
  gaps := (List.isChain_cons_cons.mp h.gaps).2
  allowed other hmem := h.allowed other (List.mem_cons_of_mem _ hmem)

/-- An event that renews nothing leaves the renewals that are still to come. -/
theorem passed (h : lease.InTime span start ((time, event) :: events))
    (hpasses : renewals ((time, event) :: events) = renewals events) :
    lease.InTime span start events where
  ordered := h.ordered.sublist ((List.sublist_cons_self _ _).cons_cons start)
  gaps := hpasses ▸ h.gaps
  allowed other hmem := h.allowed other (List.mem_cons_of_mem _ hmem)

/-- The course of a lease after some events. -/
theorem drop (first : Record) {earlier later : List (Time × Event)}
    (h : lease.InTime span first.created (earlier ++ later)) :
    lease.InTime span (lease.latest first earlier).created later := by
  induction earlier generalizing first with
  | nil => exact h
  | cons event earlier ih =>
    obtain ⟨time, event⟩ := event
    cases event with
    | renew value => exact ih (lease.record value time) h.renewed
    | sweep => exact ih first (h.passed rfl)
    | serve request => exact ih first (h.passed rfl)

/-- Events in time do not come before the start. -/
theorem start_le (h : lease.InTime span start events) (hmem : time ∈ events.map Prod.fst) :
    start ≤ time :=
  (List.pairwise_cons.mp h.ordered).1 time hmem

/-- Events in time come in the order of their times. -/
theorem le_of_mem_earlier {earlier later : List (Time × Event)} {other : Time × Event}
    (h : lease.InTime span start (earlier ++ (time, event) :: later)) (hmem : other ∈ earlier) :
    other.1 ≤ time := by
  have hordered := (List.pairwise_cons.mp h.ordered).2
  rw [List.map_append] at hordered
  exact (List.pairwise_append.mp hordered).2.2 _ (List.mem_map_of_mem hmem) _ List.mem_cons_self

/-- The last renewal is not before the start. -/
theorem created_le_latest (first : Record) (h : lease.InTime span first.created events) :
    first.created ≤ (lease.latest first events).created := by
  induction events generalizing first with
  | nil => exact Int.le_refl _
  | cons event events ih =>
    obtain ⟨time, event⟩ := event
    cases event with
    | renew value =>
      have hstart : first.created ≤ time := h.start_le List.mem_cons_self
      exact Int.le_trans hstart (ih (lease.record value time) h.renewed)
    | sweep => exact ih first (h.passed rfl)
    | serve request => exact ih first (h.passed rfl)

/-- A renewal comes before the span has passed. -/
theorem renewal_lt {value : Value} (h : lease.InTime span start ((time, .renew value) :: events)) :
    time < start + (span : Int) :=
  (List.isChain_cons_cons.mp h.gaps).1

/-- A term that can be renewed is not empty. -/
theorem span_pos {value : Value} (h : lease.InTime span start ((time, .renew value) :: events)) :
    0 < span := by
  refine Nat.pos_of_ne_zero ?_
  rintro rfl
  exact Int.not_lt.mpr (h.start_le List.mem_cons_self) (by simpa using h.renewal_lt)

/-- A sweep comes before the span has passed, unless no renewal follows it. -/
theorem sweep_lt (h : lease.InTime span start ((time, .sweep) :: events))
    (hrenewals : renewals events ≠ []) : time < start + (span : Int) := by
  -- the next renewal is not before the sweep, and comes before the span has passed
  obtain ⟨next, rest, hnext⟩ := List.exists_cons_of_ne_nil hrenewals
  have hle : time ≤ next := by
    refine (List.pairwise_cons.mp (List.pairwise_cons.mp h.ordered).2).1 next ?_
    exact mem_times_of_mem_renewals (hnext ▸ List.mem_cons_self)
  have hgaps := (h.passed rfl).gaps
  rw [hnext] at hgaps
  exact Int.lt_of_le_of_lt hle (List.isChain_cons_cons.mp hgaps).1

end InTime

/-! ### Holding a lease -/

/-- A record holds its lease in a database. -/
structure Holds (lease : Lease) (db : Database) (held : Record) : Prop where
  /-- The database is well formed. -/
  wellFormed : db.WellFormed
  /-- The standard policy is installed. -/
  policy : ∃ maxPerKey, db.policy = some (Admission.standard maxPerKey)
  /-- The record was stored for the lease. -/
  ofLease : ∃ value time, held = lease.record value time
  /-- The limits tolerate the records of the lease. -/
  tolerated : db.limits.Tolerates held
  /-- The record is found. -/
  found : db.find? lease.key lease.creator.id = some held

namespace Holds

variable {db : Database} {held : Record} {settings : Config.Storage} {routing : Routing}

theorem isLocal (h : lease.Holds db held) : held.isLocal = false := by
  obtain ⟨value, time, rfl⟩ := h.ofLease
  rfl

/-- A stored record holds its lease. -/
theorem of_admits (hdb : db.WellFormed)
    (hpolicy : ∃ maxPerKey, db.policy = some (Admission.standard maxPerKey)) {value : Value}
    (hvalue : value.isEmpty = false) {time : Time}
    (hadmits : db.admits (lease.record value time) = true) :
    lease.Holds (db.store (lease.record value time)).database (lease.record value time) := by
  let request : Database.Request := .store (lease.record value time)
  have hrules : (db.serve request).rules = db.rules := db.rules_serve rfl
  have hpolicy' : (db.serve request).policy = db.policy := congrArg (·.2.2) hrules
  have hlimits : (db.serve request).limits = db.limits := congrArg Prod.fst hrules
  have hwithin : db.withinLimits (lease.record value time) = true :=
    (Bool.and_eq_true_iff.mp hadmits).1
  have hleaves : request.leaves db lease.key lease.creator.id = some (lease.record value time) := by
    have hstore := Database.Request.leaves_store db (lease.record value time) hvalue
    rwa [hadmits, if_pos rfl] at hstore
  exact
    { wellFormed := hdb.serve request
      policy := hpolicy.imp fun _ hstandard => hpolicy'.trans hstandard
      ofLease := ⟨value, time, rfl⟩
      tolerated := hlimits.symm ▸ Database.tolerates_of_withinLimits rfl hwithin
      found := (hdb.find?_serve request lease.key lease.creator.id).trans hleaves }

/-- A lease that is held is renewed whenever that is asked for. -/
theorem admits (h : lease.Holds db held) (value : Value) (time : Time) :
    db.admits (lease.record value time) = true := by
  obtain ⟨maxPerKey, hpolicy⟩ := h.policy
  obtain ⟨value', time', rfl⟩ := h.ofLease
  -- what the limits tolerate of one record of a lease they tolerate of all
  have htolerated : db.limits.Tolerates (lease.record value time) :=
    ⟨h.tolerated.routable, h.tolerated.address, h.tolerated.network⟩
  have hwithin : db.withinLimits (lease.record value time) = true :=
    Database.withinLimits_of_tolerates htolerated h.found rfl rfl
  rw [Database.admits_of_find? hpolicy h.found rfl, hwithin]
  simp [record]

/-- A renewal is held from then on. -/
theorem renew (h : lease.Holds db held) {value : Value} (hvalue : value.isEmpty = false)
    (time : Time) : lease.Holds (db.store (lease.record value time)).database
      (lease.record value time) :=
  of_admits h.wellFormed h.policy hvalue (h.admits value time)

/-- A request that leaves the policy and the record alone leaves the lease held. -/
theorem serve (h : lease.Holds db held) {request : Database.Request}
    (hchange : request.isPolicyChange = false)
    (hleaves : request.leaves db lease.key lease.creator.id = some held) :
    lease.Holds (db.serve request) held where
  wellFormed := h.wellFormed.serve request
  policy := h.policy.imp fun _ hstandard => (db.policy_serve hchange).trans hstandard
  ofLease := h.ofLease
  tolerated := by
    have hlimits : (db.serve request).limits = db.limits :=
      congrArg Prod.fst (db.rules_serve hchange)
    exact hlimits.symm ▸ h.tolerated
  found := (h.wellFormed.find?_serve request lease.key lease.creator.id).trans hleaves

/-- What a sweep makes of the record of a lease. -/
theorem isExpired_iff (h : lease.Holds db held) (now : Time) :
    (Expiry.ofSettings settings).isExpired routing now held = true ↔
      ∃ ends, Time.add? held.created (lease.span settings routing) = some ends ∧ ends ≤ now := by
  obtain ⟨value, time, rfl⟩ := h.ofLease
  exact Expiry.isExpired_eq_true_iff settings routing now rfl

/-- A sweep before the span has passed leaves the lease held. -/
theorem sweep (h : lease.Holds db held) {now : Time}
    (hlt : now < held.created + (lease.span settings routing : Int)) :
    lease.Holds (db.sweep (.ofSettings settings) routing now).database held := by
  have hkept : (Expiry.ofSettings settings).isExpired routing now held = false := by
    refine eq_false_of_ne_true fun hexpired => ?_
    obtain ⟨ends, hends, hle⟩ := (h.isExpired_iff now).mp hexpired
    rw [Time.eq_add_of_add? hends] at hle
    exact absurd hle (Int.not_le.mpr hlt)
  rw [Database.database_sweep]
  refine h.serve rfl ?_
  rw [Database.Request.leaves, h.found, Option.filter_some, hkept]
  rfl

/-- A sweep after the span has passed ends the lease. -/
theorem find?_sweep (h : lease.Holds db held) {now ends : Time}
    (hends : Time.add? held.created (lease.span settings routing) = some ends) (hle : ends ≤ now) :
    (db.sweep (.ofSettings settings) routing now).database.find? lease.key lease.creator.id =
      none := by
  have hexpired : (Expiry.ofSettings settings).isExpired routing now held = true :=
    (h.isExpired_iff now).mpr ⟨ends, hends, hle⟩
  rw [Database.database_sweep, h.wellFormed.find?_serve, Database.Request.leaves, h.found,
    Option.filter_some, hexpired]
  rfl

/-- A lease that is renewed in time is held as long as no sweep comes after its end. -/
theorem applyAll {earlier later : List (Time × Event)} (h : lease.Holds db first)
    (hcourse : lease.InTime (lease.span settings routing) first.created (earlier ++ later))
    (hsweeps : ∀ time, (time, .sweep) ∈ earlier → time <
      (lease.latest first (earlier ++ later)).created + (lease.span settings routing : Int)) :
    lease.Holds (lease.applyAll (.ofSettings settings) routing db earlier)
      (lease.latest first earlier) := by
  induction earlier generalizing db first with
  | nil => exact h
  | cons event earlier ih =>
    obtain ⟨time, event⟩ := event
    have hallowed := hcourse.allowed (time, event) List.mem_cons_self
    have hrest : ∀ t, (t, Event.sweep) ∈ earlier → t < (lease.latest first
        ((time, event) :: earlier ++ later)).created + (lease.span settings routing : Int) :=
      fun t hmem => hsweeps t (List.mem_cons_of_mem _ hmem)
    cases event with
    | renew value =>
      have hvalue : value.isEmpty = false := by simpa [Event.isAllowed] using hallowed
      exact ih (h.renew hvalue time) hcourse.renewed hrest
    | sweep =>
      -- a later renewal keeps the sweep before the end of the span, or else the bound does
      refine ih (h.sweep ?_) (hcourse.passed rfl) hrest
      by_cases hlast : renewals (earlier ++ later) = []
      · have hlt : time < (lease.latest first (earlier ++ later)).created +
            (lease.span settings routing : Int) := hsweeps time List.mem_cons_self
        rwa [latest_of_renewals_eq_nil first hlast] at hlt
      · exact hcourse.sweep_lt hlast
    | serve request =>
      refine ih (h.serve (Database.Request.isPolicyChange_of_spares hallowed) ?_)
        (hcourse.passed rfl) hrest
      exact (Database.Request.leaves_of_spares hallowed).trans h.found

/-- A renewal in time is accepted. -/
theorem result_renewal {earlier later : List (Time × Event)} {time : Time} {value : Value}
    (h : lease.Holds db first) (hcourse : lease.InTime (lease.span settings routing) first.created
      (earlier ++ (time, .renew value) :: later)) :
    ((lease.applyAll (.ofSettings settings) routing db earlier).store
      (lease.record value time)).result = true := by
  have hrest := hcourse.drop first
  -- the sweeps so far came before this renewal, and so before the end of the lease
  have hholds := h.applyAll hcourse fun t hmem => by
    rw [latest_append]
    calc t ≤ time := hcourse.le_of_mem_earlier hmem
      _ ≤ (lease.latest (lease.record value time) later).created :=
        hrest.renewed.created_le_latest (lease.record value time)
      _ < _ := Int.lt_add_of_pos_right _ (Int.natCast_pos.mpr hrest.span_pos)
  have hvalue : value.isEmpty = false := by
    simpa [Event.isAllowed] using hcourse.allowed (time, .renew value) (by simp)
  exact (Database.result_store _ hvalue).trans (hholds.admits value time)

/-- The first sweep that does not come before the end of a lease removes its record. -/
theorem find?_applyAll_sweep {earlier later : List (Time × Event)} {time ends : Time}
    (h : lease.Holds db first) (hcourse : lease.InTime (lease.span settings routing) first.created
      (earlier ++ (time, .sweep) :: later))
    (hends : Time.add? (lease.latest first (earlier ++ (time, .sweep) :: later)).created
      (lease.span settings routing) = some ends)
    (hsweeps : ∀ t, (t, .sweep) ∈ earlier → t < ends) (hle : ends ≤ time) :
    (lease.applyAll (.ofSettings settings) routing db (earlier ++ [(time, .sweep)])).find? lease.key
      lease.creator.id = none := by
  have hends' := Time.eq_add_of_add? hends
  have hrest := hcourse.drop first
  have hholds := h.applyAll hcourse fun t hmem => hends' ▸ hsweeps t hmem
  -- if a renewal followed this sweep, the sweep would come before the end
  have hnone : renewals later = [] := by
    by_contra hrenewals
    refine Int.not_lt.mpr hle ?_
    calc time < (lease.latest first earlier).created + (lease.span settings routing : Int) :=
          hrest.sweep_lt hrenewals
      _ ≤ ends := by
        rw [hends', latest_append]
        exact Int.add_le_add_right (hrest.created_le_latest _) _
  have hlatest : lease.latest first (earlier ++ (time, .sweep) :: later) =
      lease.latest first earlier := by
    rw [latest_append]
    exact latest_of_renewals_eq_nil _ hnone
  have hafter : lease.applyAll (.ofSettings settings) routing db (earlier ++ [(time, .sweep)]) =
      ((lease.applyAll (.ofSettings settings) routing db earlier).sweep (.ofSettings settings)
        routing time).database := List.foldl_append
  rw [hafter]
  exact hholds.find?_sweep (hlatest ▸ hends) hle

end Holds

/-- Let a lease be taken in the database of a new node, after any requests that leave its policy
alone, and be renewed in time. Then all renewals are accepted. The record stored last is found at
all times before the span has passed since the last renewal, and for as long after that as no sweep
comes; and the first sweep that comes then removes it. -/
theorem held_while_renewed {ν σ : Type} {settings : Config.Storage} {network : ν} {now : Time}
    {number : Nat} {node : Node ν σ} (hnode : Node.new settings network now number = .ok node)
    (routing : Routing) (lease : Lease) (before : List Database.Request)
    (hbefore : ∀ request ∈ before, request.isPolicyChange = false)
    (value : Value) (hvalue : value.isEmpty = false) (start : Time) (events : List (Time × Event)) :
    let span := lease.span settings routing
    let first := lease.record value start
    let taken := (node.database.after before).store first
    let after (events : List (Time × Event)) :=
      lease.applyAll node.expiry routing taken.database events
    taken.result = true → lease.InTime span start events →
    ∀ ends, Time.add? (lease.latest first events).created span = some ends →
    (∀ earlier time renewal later, events = earlier ++ (time, .renew renewal) :: later →
      ((after earlier).store (lease.record renewal time)).result = true) ∧
    (∀ earlier later, events = earlier ++ later →
      (∀ time, (time, .sweep) ∈ earlier → time < ends) →
      (after earlier).find? lease.key lease.creator.id = some (lease.latest first earlier)) ∧
    (∀ earlier time later, events = earlier ++ (time, .sweep) :: later →
      (∀ time, (time, .sweep) ∈ earlier → time < ends) → ends ≤ time →
      (after (earlier ++ [(time, .sweep)])).find? lease.key lease.creator.id = none) := by
  intro span first taken after htaken hcourse ends hends
  obtain rfl : node = .ofSettings settings network now number := by
    unfold Node.new at hnode
    split at hnode
    · cases hnode
    · exact (Except.ok.inj hnode).symm
  -- the lease is held once it has been taken
  have hheld : lease.Holds taken.database first := by
    have hnew : (Database.ofSettings settings).WellFormed := Database.WellFormed.fresh _ _ _
    have hpolicy := Database.policy_after
      ((Database.ofSettings settings).setPolicy (some (Admission.standard settings.maxPerKey)))
      hbefore
    refine Holds.of_admits ((hnew.setPolicy _).after before) ⟨_, hpolicy⟩ hvalue ?_
    exact (Database.result_store _ hvalue).symm.trans htaken
  refine ⟨?_, ?_, ?_⟩
  · rintro earlier time renewal later rfl
    exact hheld.result_renewal hcourse
  · rintro earlier later rfl hsweeps
    have hends' := Time.eq_add_of_add? hends
    exact (hheld.applyAll hcourse fun t hmem => hends' ▸ hsweeps t hmem).found
  · rintro earlier time later rfl hsweeps hle
    exact hheld.find?_applyAll_sweep hcourse hends hsweeps hle

/-- One record fills the bag of its key and all that its address may have, so that a rival and a
second record are refused. It is renewed nevertheless after five of its six time units, is still
held when a sweep comes after ten, and is gone after the sweep that comes at its end. -/
theorem held_while_renewed_of_full_bag :
    let settings : Config.Storage := { valueExpiration := 6, maxPerKey := 1, maxPerAddress := 1 }
    let node : Node Unit Unit := .ofSettings settings () 0 0
    let value : Value := ⟨.test, ⟨1, 0⟩, [118], by decide⟩
    let creator : Contact := ⟨.ones, .ofOctets 82 1 2 3 4000⟩
    let rival : Contact := ⟨.zero, .ofOctets 82 1 2 4 4000⟩
    let routing := Routing.fixed rival []
    let lease : Lease := ⟨creator, creator, .zero⟩
    let others : List (Time × Event) :=
      [(1, .serve (.store (.direct rival .zero value 1))),
        (2, .serve (.store (.direct creator .ones value 2)))]
    let renewed := others ++ [(5, .renew value), (10, .sweep)]
    let taken := node.database.store (lease.record value 0)
    let after (events : List (Time × Event)) :=
      lease.applyAll node.expiry routing taken.database events
    taken.result = true ∧ (after others).records = [lease.record value 0] ∧
      ((after others).store (lease.record value 5)).result = true ∧
      (after renewed).find? .zero .ones = some (lease.record value 5) ∧
      (after (renewed ++ [(11, .sweep)])).find? .zero .ones = none := by
  intro settings node value creator rival routing lease others renewed taken after
  have husable : settings.fault? = none := by decide
  have hnode : Node.new settings () 0 0 = .ok node := by
    simp only [Node.new, Config.Storage.validate, husable, node]
  have htaken : taken.result = true := by decide
  have hcourse : lease.InTime (lease.span settings routing) 0 (renewed ++ [(11, .sweep)]) :=
    ⟨by decide, by decide, by decide⟩
  obtain ⟨hrenews, hholds, hends⟩ := held_while_renewed hnode routing lease [] (by decide) value
    rfl 0 (renewed ++ [(11, .sweep)]) htaken hcourse 11 (by decide)
  have hsweeps : ∀ time, (time, Event.sweep) ∈ renewed → time < 11 := by simp [renewed, others]
  have hrenewed := hrenews others 5 value [(10, .sweep), (11, .sweep)] rfl
  have hheld := hholds renewed [(11, .sweep)] rfl hsweeps
  have hended := hends renewed 11 [] rfl hsweeps (Int.le_refl _)
  exact ⟨htaken, by decide, hrenewed, hheld, hended⟩

end Lease

end OverlayStore
