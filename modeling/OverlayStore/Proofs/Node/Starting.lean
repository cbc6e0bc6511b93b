import OverlayStore.Network.Scripted
import OverlayStore.Proofs.Node.Passage
import OverlayStore.Proofs.Publisher.Chronicle

/-!
# Starting a node as a whole

A node is started by scheduling its sweeper and then its publisher. The publisher refuses to be
scheduled while it has a run in progress that no schedule has begun, and by then the sweeper has
been scheduled: a start that fails leaves the node half started (`half_started_by_refused_start`).

`Supervised.started_as_a_whole` says how far that goes, whatever is called on the node and whatever
happens in between: the node is half started exactly from a failed start until it is stopped or
started with success, a start fails exactly where the publisher is not scheduled and has a run in
progress, all it does is to schedule the sweeper, and only turns that are taken by hand lead there.
-/

namespace OverlayStore

/-! ## Runs that no turn begins -/

namespace Publisher

variable (publisher : Publisher) (serial : Nat)

/-- A halted publisher has no run in progress. -/
theorem isRunning_halt : publisher.halt.publisher.isRunning = false := by
  unfold halt
  cases publisher.inFlight <;> rfl

theorem isRunning_begin : (publisher.begin serial).2.isRunning = publisher.isRunning := by
  unfold begin
  split
  · rfl
  · split
    · rfl
    · split <;> rfl

/-- The conclusion of a store begins no run. -/
theorem isRunning_conclude (h : publisher.isRunning = false) (result : Except Error Receipt)
    (node : Contact) (now : Time) :
    (publisher.conclude serial result node now).publisher.isRunning = false := by
  unfold conclude
  split
  · exact h
  · have hdiscard : (publisher.discard serial).isRunning = false := h
    unfold complete
    rw [hdiscard, Bool.not_false, Bool.or_true, if_pos rfl]
    exact hdiscard

/-- Going on with a task begins no run. -/
theorem isRunning_resume (h : publisher.isRunning = false) (node : Contact) (now : Time) :
    (publisher.resume serial node now).publisher.isRunning = false := by
  unfold resume
  split
  · exact h
  · split
    · exact h
    · split
      · exact publisher.isRunning_conclude serial h _ node now
      · exact h

end Publisher

namespace Node

/-! ## What is done to a node -/

variable {ν σ : Type}

/-- What can happen to a node that is started and stopped as a whole. -/
inductive ControlEvent (ν σ : Type) where
  /-- The node is started. -/
  | start
  /-- The node is stopped. -/
  | stop
  /-- A turn of the publisher is taken by hand. -/
  | tick
  /-- A series of a duty is woken. -/
  | wake (duty : Duty) (number : Nat)
  /-- A task of the publisher is polled for the first time. -/
  | begin (serial : Nat)
  /-- The network answers a task that waits for it. -/
  | answer (serial : Nat) (result : Except Error Receipt)
  /-- A task is polled again. -/
  | resume (serial : Nat)
  /-- The store of a task is completed. -/
  | conclude (serial : Nat) (result : Except Error Receipt)
  /-- The network, the catalogue and the time are others from now on. -/
  | change (network : ν) (catalogue : Catalogue σ) (now : Time)

variable [Network ν] [Source σ]

/-- The node after an event. -/
def ControlEvent.apply (node : Node ν σ) : ControlEvent ν σ → Node ν σ
  | .start => node.start.2
  | .stop => node.stop
  | .tick => node.publish
  | .wake duty number => duty.wake node number
  | .begin serial => (node.beginTask serial).2
  | .answer serial result => node.deliver serial result
  | .resume serial => node.resumeTask serial
  | .conclude serial result => node.conclude serial result
  | .change network catalogue now => { node with network, catalogue, now }

/-- The event is a call that starts or stops the node. -/
def ControlEvent.isSwitch : ControlEvent ν σ → Bool
  | .start | .stop => true
  | _ => false

/-- A node whose duties have not been scheduled and whose publisher has done nothing yet. -/
def idle (node : Node ν σ) : Node ν σ := { node.unscheduled with publisher := {} }

end Node

namespace Node

variable {ν σ : Type}

/-! ## What a start does -/

/-- The start of a node fails. -/
def refusesStart (node : Node ν σ) : Bool :=
  match node.start.1 with
  | .ok () => false
  | .error _ => true

/-- Scheduling the sweeper schedules it and leaves the publisher alone. -/
theorem startSweeper_cases (node : Node ν σ) :
    node.startSweeper.sweeping.isRunning = true ∧
      node.startSweeper.publishing = node.publishing ∧
      node.startSweeper.publisher = node.publisher := by
  unfold startSweeper
  cases hrunning : node.sweeping.isRunning with
  | true => exact ⟨hrunning, rfl, rfl⟩
  | false => exact ⟨Schedule.isRunning_start .., rfl, rfl⟩

/-- Scheduling the sweeper changes a node unless the sweeper is scheduled. -/
theorem startSweeper_eq_self_iff (node : Node ν σ) :
    node.startSweeper = node ↔ node.sweeping.isRunning = true := by
  unfold startSweeper
  cases hrunning : node.sweeping.isRunning with
  | true => simp
  | false =>
    refine iff_of_false (fun hsame => ?_) Bool.false_ne_true
    -- a new series takes a number
    exact Nat.succ_ne_self _ (congrArg nextSeries hsame)

/-- A start fails where the publisher is not scheduled and has a run in progress. -/
theorem refusesStart_eq (node : Node ν σ) :
    node.refusesStart = (!node.publishing.isRunning && node.publisher.isRunning) := by
  obtain ⟨-, hpublishing, hpublisher⟩ := node.startSweeper_cases
  rw [refusesStart, start, startPublisher, hpublishing, hpublisher]
  cases node.publishing.isRunning <;> cases node.publisher.isRunning <;> rfl

/-- All that a failed start does is to schedule the sweeper. -/
theorem start_of_refusesStart {node : Node ν σ} (h : node.refusesStart = true) :
    node.start.2 = node.startSweeper := by
  obtain ⟨-, hpublishing, hpublisher⟩ := node.startSweeper_cases
  rw [refusesStart_eq, Bool.and_eq_true, Bool.not_eq_true'] at h
  rw [start, startPublisher, hpublishing, hpublisher, h.1, h.2]
  rfl

/-- A start always schedules the sweeper, and the publisher unless it fails. -/
theorem isRunning_start (node : Node ν σ) :
    node.start.2.sweeping.isRunning = true ∧
      node.start.2.publishing.isRunning = !node.refusesStart := by
  obtain ⟨hsweeping, hpublishing, hpublisher⟩ := node.startSweeper_cases
  rw [refusesStart_eq, start, startPublisher, hpublishing, hpublisher]
  cases hrunning : node.publishing.isRunning with
  | true => exact ⟨hsweeping, hpublishing ▸ hrunning⟩
  | false =>
    cases node.publisher.isRunning with
    | true => exact ⟨hsweeping, hpublishing ▸ hrunning⟩
    | false => exact ⟨hsweeping, Schedule.isRunning_start ..⟩

/-- A stop ends both schedules and any run in progress. -/
theorem isRunning_stop (node : Node ν σ) :
    node.stop.sweeping.isRunning = false ∧ node.stop.publishing.isRunning = false ∧
      node.stop.publisher.isRunning = false := by
  have hspares := Duty.publish.spares_stop node
  refine ⟨rfl, ?_, ?_⟩
  · exact congrArg Schedule.isRunning hspares.publishing
  · show (node.stopPublisher).publisher.isRunning = false
    rw [stopPublisher, haltPublisher, publisher_applyTurn]
    exact Publisher.isRunning_halt _

theorem publisher_start (node : Node ν σ) : node.start.2.publisher = node.publisher := by
  obtain ⟨-, -, hpublisher⟩ := node.startSweeper_cases
  rw [start, startPublisher]
  split
  · exact hpublisher
  · split <;> exact hpublisher

variable [Network ν] [Source σ]

/-! ## What all other events do -/

/-- Nothing but starting and stopping the node begins or ends a schedule. -/
theorem isRunning_apply (node : Node ν σ) {event : ControlEvent ν σ}
    (hevent : event.isSwitch = false) (duty : Duty) :
    (duty.schedule (event.apply node)).isRunning = (duty.schedule node).isRunning := by
  -- of the events that are no switch, all but a wake spare both schedules
  have hspared : ∀ {after : Node ν σ}, node.Spares after →
      (duty.schedule after).isRunning = (duty.schedule node).isRunning :=
    fun h => by rw [h.schedule]
  cases event with
  | start => cases hevent
  | stop => cases hevent
  | tick => exact hspared (spares_applyTurn _ _)
  | wake own number =>
    rw [ControlEvent.apply, (own.spares_wake node number).schedule, Duty.schedule_reschedule]
    split
    · rename_i hown
      rw [Schedule.isRunning_poll, hown]
    · rfl
  | begin serial => exact hspared (node.spares_beginTask serial)
  | answer serial result => exact hspared ⟨rfl, rfl, rfl, rfl, Nat.le_refl _⟩
  | resume serial => exact hspared (node.spares_resumeTask serial)
  | conclude serial result => exact hspared (node.spares_conclude serial result)
  | change network catalogue now => cases duty <;> rfl

/-- A publisher that is not scheduled takes no turn, whichever of its series is woken. -/
theorem publisher_wakePublisher {node : Node ν σ} (h : node.publishing.isRunning = false)
    (number : Nat) : (node.wakePublisher number).publisher = node.publisher := by
  have hlive : ∀ phase, node.publishing.live ≠ some (number, phase) := by
    intro phase hphase
    rw [Schedule.isRunning, hphase] at h
    cases h
  rw [wakePublisher, Schedule.poll_of_ne _ hlive]
  rfl

/-- Only a turn begins a run. -/
theorem isRunning_publisher_apply {node : Node ν σ} {event : ControlEvent ν σ}
    (hevent : event ≠ .tick) (hscheduled : node.publishing.isRunning = false)
    (hidle : node.publisher.isRunning = false) :
    (event.apply node).publisher.isRunning = false := by
  cases event with
  | start => exact node.publisher_start ▸ hidle
  | stop => exact node.isRunning_stop.2.2
  | tick => exact absurd rfl hevent
  | wake duty number =>
    cases duty with
    | sweep =>
      rw [ControlEvent.apply, Duty.wake, wakeSweeper]
      dsimp only
      split <;> exact hidle
    | publish =>
      exact (congrArg Publisher.isRunning (publisher_wakePublisher hscheduled number)).trans hidle
  | begin serial => exact (node.publisher.isRunning_begin serial).trans hidle
  | answer serial result => exact hidle
  | resume serial =>
    -- a task that is resumed may conclude, but what it concludes is no run in progress
    have hturn := node.publisher.isRunning_resume serial hidle (Network.contact node.network)
      node.now
    rw [ControlEvent.apply, resumeTask]
    split <;> simpa only [publisher_applyTurn] using hturn
  | conclude serial result =>
    rw [ControlEvent.apply, conclude, publisher_applyTurn]
    exact node.publisher.isRunning_conclude serial hidle result _ _
  | change network catalogue now => exact hidle

/-- Without turns by hand, a run is in progress only while the publisher is scheduled. -/
theorem not_isRunning_publisher_apply {node : Node ν σ} {event : ControlEvent ν σ}
    (hevent : event ≠ .tick)
    (h : node.publishing.isRunning = false → node.publisher.isRunning = false)
    (hafter : (event.apply node).publishing.isRunning = false) :
    (event.apply node).publisher.isRunning = false := by
  cases hscheduled : node.publishing.isRunning with
  | false => exact isRunning_publisher_apply hevent hscheduled (h hscheduled)
  | true =>
    -- only a stop ends the schedule, and it ends the run as well
    cases hswitch : event.isSwitch with
    | false =>
      have hsame := node.isRunning_apply hswitch .publish
      cases hafter.symm.trans (hsame.trans hscheduled)
    | true =>
      cases event with
      | start =>
        have hstarted := node.isRunning_start.2
        rw [refusesStart_eq, hscheduled] at hstarted
        cases hafter.symm.trans hstarted
      | stop => exact node.isRunning_stop.2.2
      | _ => cases hswitch

end Node

/-- A node and what became of the last call that started or stopped it. -/
structure Supervised (ν σ : Type) where
  /-- The node. -/
  node : Node ν σ
  /-- It was a start, and it failed. -/
  startFailed : Bool := false

namespace Supervised

open Node

variable {ν σ : Type}

/-- What holds of a supervised node at every moment: the sweeper and the publisher are scheduled
together, but for a start that failed. -/
structure Balanced (supervised : Supervised ν σ) : Prop where
  sweeping : supervised.node.sweeping.isRunning =
    (supervised.node.publishing.isRunning || supervised.startFailed)
  publishing : supervised.startFailed = true → supervised.node.publishing.isRunning = false

theorem balanced_idle (node : Node ν σ) : Balanced { node := node.idle } := ⟨rfl, nofun⟩

variable {supervised : Supervised ν σ}

/-- What holds of a supervised node at every moment if no turn is taken by hand. -/
structure OnSchedule (supervised : Supervised ν σ) : Prop where
  idle : supervised.node.publishing.isRunning = false →
    supervised.node.publisher.isRunning = false
  started : supervised.startFailed = false

/-- A node that is on schedule does not refuse to be started. -/
theorem OnSchedule.refusesStart (h : supervised.OnSchedule) :
    supervised.node.refusesStart = false := by
  rw [refusesStart_eq]
  cases hscheduled : supervised.node.publishing.isRunning with
  | true => rfl
  | false => rw [h.idle hscheduled, Bool.and_false]

variable [Network ν] [Source σ]

/-- What an event leaves behind. -/
def after (supervised : Supervised ν σ) (event : ControlEvent ν σ) : Supervised ν σ where
  node := event.apply supervised.node
  startFailed := match event with
    | .start => supervised.node.refusesStart
    | .stop => false
    | _ => supervised.startFailed

/-- What a history leaves behind. -/
def afterAll (supervised : Supervised ν σ) (history : List (ControlEvent ν σ)) :
    Supervised ν σ :=
  history.foldl after supervised

/-- A start keeps the balance, whether it fails or not. -/
theorem Balanced.start (supervised : Supervised ν σ) : (supervised.after .start).Balanced := by
  obtain ⟨hsweeping, hpublishing⟩ := supervised.node.isRunning_start
  constructor
  · show supervised.node.start.2.sweeping.isRunning =
      (supervised.node.start.2.publishing.isRunning || supervised.node.refusesStart)
    rw [hsweeping, hpublishing, Bool.not_or_self]
  · intro hfailed
    have hrefuses : supervised.node.refusesStart = true := hfailed
    show supervised.node.start.2.publishing.isRunning = false
    rw [hpublishing, hrefuses, Bool.not_true]

theorem Balanced.stop (supervised : Supervised ν σ) : (supervised.after .stop).Balanced := by
  obtain ⟨hsweeping, hpublishing, -⟩ := supervised.node.isRunning_stop
  constructor
  · show supervised.node.stop.sweeping.isRunning =
      (supervised.node.stop.publishing.isRunning || false)
    rw [hsweeping, hpublishing, Bool.or_false]
  · exact nofun

/-- Every event keeps the balance. -/
theorem Balanced.after (h : supervised.Balanced) (event : ControlEvent ν σ) :
    (supervised.after event).Balanced := by
  cases hswitch : event.isSwitch with
  | false =>
    -- nothing but a switch starts or ends a schedule, or is a start that fails
    have hsame : (supervised.after event).startFailed = supervised.startFailed := by
      cases event with
      | start => cases hswitch
      | stop => cases hswitch
      | _ => rfl
    have hsweeping := supervised.node.isRunning_apply hswitch .sweep
    have hpublishing := supervised.node.isRunning_apply hswitch .publish
    constructor
    · calc (event.apply supervised.node).sweeping.isRunning
          = supervised.node.sweeping.isRunning := hsweeping
        _ = (supervised.node.publishing.isRunning || supervised.startFailed) := h.sweeping
        _ = ((event.apply supervised.node).publishing.isRunning ||
              (supervised.after event).startFailed) := by
          rw [hsame]
          exact congrArg (· || _) hpublishing.symm
    · intro hfailed
      rw [hsame] at hfailed
      exact hpublishing.trans (h.publishing hfailed)
  | true =>
    cases event with
    | start => exact .start supervised
    | stop => exact .stop supervised
    | _ => cases hswitch

/-- Every history keeps the balance. -/
theorem Balanced.afterAll (h : supervised.Balanced) (history : List (ControlEvent ν σ)) :
    (supervised.afterAll history).Balanced := by
  induction history generalizing supervised with
  | nil => exact h
  | cons event history ih => exact ih (h.after event)

/-- Only a turn by hand can take a node off its schedule. -/
theorem OnSchedule.after (h : supervised.OnSchedule) {event : ControlEvent ν σ}
    (hevent : event ≠ .tick) : (supervised.after event).OnSchedule where
  idle := not_isRunning_publisher_apply hevent h.idle
  started := by
    cases event with
    | start => exact h.refusesStart
    | stop => rfl
    | _ => exact h.started

/-- Without turns by hand a node stays on schedule. -/
theorem OnSchedule.afterAll (h : supervised.OnSchedule) {history : List (ControlEvent ν σ)}
    (hhistory : ∀ event ∈ history, event ≠ .tick) : (supervised.afterAll history).OnSchedule := by
  induction history generalizing supervised with
  | nil => exact h
  | cons event history ih =>
    obtain ⟨hevent, hrest⟩ := List.forall_mem_cons.mp hhistory
    exact ih (h.after hevent) hrest

/-! ## The main theorem -/

/-- How far a node is from being started as a whole or not at all. -/
structure Coherent (supervised : Supervised ν σ) : Prop where
  /-- The sweeper and the publisher are both scheduled or both not, unless the last call that
  started or stopped the node was a start that failed. -/
  together : supervised.node.sweeping.isRunning = supervised.node.publishing.isRunning ↔
    supervised.startFailed = false
  /-- After a start that failed it is the sweeper that is scheduled. -/
  half : supervised.startFailed = true → supervised.node.sweeping.isRunning = true ∧
    supervised.node.publishing.isRunning = false
  /-- A start fails exactly where the publisher is not scheduled and has a run in progress. -/
  refused : supervised.node.refusesStart =
    (!supervised.node.publishing.isRunning && supervised.node.publisher.isRunning)
  /-- All that a failed start does is to schedule the sweeper, so it leaves the node as it was
  exactly where the sweeper was scheduled before. -/
  left : supervised.node.refusesStart = true →
    supervised.node.start.2 = supervised.node.startSweeper ∧
      (supervised.node.start.2 = supervised.node ↔
        supervised.node.sweeping.isRunning = true)

/-- A node that is started and stopped as a whole is started as a whole or not at all, but for
starts that fail; and no start fails unless a turn of the publisher has been taken by hand. -/
theorem started_as_a_whole (node : Node ν σ) (history : List (ControlEvent ν σ)) :
    let supervised := afterAll { node := node.idle } history
    supervised.Coherent ∧
      ((∀ event ∈ history, event ≠ .tick) →
        supervised.node.refusesStart = false ∧ supervised.startFailed = false) := by
  intro supervised
  have hbalanced : supervised.Balanced := (balanced_idle node).afterAll history
  refine ⟨?_, fun hhistory => ?_⟩
  · exact {
      together := by
        rw [hbalanced.sweeping]
        cases hfailed : supervised.startFailed with
        | false => simp
        | true => simp [hbalanced.publishing hfailed]
      half := fun hfailed =>
        ⟨by rw [hbalanced.sweeping, hfailed, Bool.or_true], hbalanced.publishing hfailed⟩
      refused := refusesStart_eq _
      left := fun hrefuses =>
        have hstart := start_of_refusesStart hrefuses
        ⟨hstart, by rw [hstart, startSweeper_eq_self_iff]⟩ }
  -- without a tick from outside, runs are begun by the schedule alone
  · have hidle : ({ node := node.idle } : Supervised ν σ).OnSchedule := ⟨fun _ => rfl, rfl⟩
    have hschedule := hidle.afterAll hhistory
    exact ⟨hschedule.refusesStart, hschedule.started⟩

/-- A turn is taken by hand and the node is started while its store is under way: the start fails,
and of two schedules that were not running before, the sweeper's is running now. -/
theorem half_started_by_refused_start :
    let contact : Contact := ⟨.ones, .ofOctets 82 1 2 3 4000⟩
    let value : Value := ⟨.test, ⟨1, 0⟩, [118], by decide⟩
    let fresh : Node Scripted Shelf := .ofSettings {} { contact } 0 0
    let node : Node Scripted Shelf :=
      { fresh with
        catalogue :=
          { sources := [{ publications := [⟨0, .zero, value⟩] }]
            entries := Table.empty.insertLast ValueType.test.code 0 } }
    let ticked := (afterAll { node := node.idle } [.tick]).node
    let started := (afterAll { node := node.idle } [.tick, .start]).node
    (ticked.sweeping.isRunning = false ∧ ticked.publishing.isRunning = false) ∧
      ticked.refusesStart = true ∧
      started.sweeping.isRunning = true ∧ started.publishing.isRunning = false := by
  decide

end Supervised

end OverlayStore
