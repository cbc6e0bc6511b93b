import OverlayStore.Node.Control

/-!
# Chronicles of publishing

A chronicle follows a node through everything that concerns its publisher: turns, stops, the polls
of tasks, the answers of the network and the conclusions of stores, also of stores that were given
up before, while the network, the catalogue and the clock change as they like in between. It counts
how often the generation was raised, so that runs can be told apart even where generations repeat,
and it keeps a log of what happened to the runs.

That what a node does while time passes is a history that its chronicle allows is in
`OverlayStore.Proofs.Publisher.Passage`.
-/

namespace OverlayStore

namespace Publisher

/-- The network has been called for the task. -/
def Task.isCalled (task : Task) : Bool :=
  match task.stage with
  | .queued => false
  | _ => true

/-- The answer that the task with a serial number is to be concluded with, unless it has been given
up or waits for the network. -/
def answer? (publisher : Publisher) (serial : Nat) : Option (Except Error Receipt) :=
  match publisher.task? serial with
  | some ⟨_, _, _, _, false, .answered result⟩ => some result
  | _ => none

/-- Going on with a task that is to be concluded concludes it. -/
theorem resume_of_answer? {publisher : Publisher} {serial : Nat} {result : Except Error Receipt}
    (h : publisher.answer? serial = some result) (node : Contact) (now : Time) :
    publisher.resume serial node now = publisher.conclude serial result node now := by
  unfold answer? at h
  unfold resume
  split at h
  · rename_i htask
    rw [htask]
    cases h
    rfl
  · cases h

end Publisher

/-- A node takes over the publisher that a turn leaves behind. -/
theorem Node.publisher_applyTurn {ν σ : Type} (node : Node ν σ) (turn : Publisher.Turn) :
    (node.applyTurn turn).publisher = turn.publisher := by
  unfold Node.applyTurn
  cases turn.stored <;> cases turn.task <;> rfl

namespace Chronicle

/-- What can happen to a node with a publisher. -/
inductive Event (ν σ : Type) where
  /-- The publisher takes its turn. -/
  | tick
  /-- The publisher is stopped. -/
  | stop
  /-- A task is polled for the first time, and the network is called. -/
  | begin (serial : Nat)
  /-- The network answers a task that waits for it. -/
  | answer (serial : Nat) (result : Except Error Receipt)
  /-- A task is polled again. -/
  | resume (serial : Nat)
  /-- The store of a task is completed, also where the task has been given up meanwhile. -/
  | conclude (serial : Nat) (result : Except Error Receipt)
  /-- The network, the catalogue and the time are others from now on. -/
  | change (network : ν) (catalogue : Catalogue σ) (now : Time)

/-- The circumstances in which a task was made. Runs are numbered by how often the generation had
been raised. -/
structure Origin where
  /-- The run that the task was made for. -/
  run : Nat
  /-- The node's contact at the time. -/
  contact : Contact
  /-- The time. -/
  time : Time

/-- A call into the network on behalf of a task. -/
structure Call where
  /-- Where the task comes from. -/
  origin : Origin
  /-- The serial number of the task. -/
  serial : Nat
  /-- The record that is to be stored. -/
  record : Record

/-- What happens to a run. -/
inductive Entry where
  /-- A turn took a snapshot and began a run of it. -/
  | started (run : Nat) (snapshot : List Publication)
  /-- The network was called for a task. -/
  | called (call : Call)
  /-- The store of a task was completed while its own run was in progress. -/
  | finished (run serial : Nat) (publication : Publication) (result : Except Error Receipt)
    (time : Time)
  /-- A run was halted, or would have been if it was still in progress. -/
  | halted (run : Nat)

end Chronicle

/-- What has happened to a node with a publisher. -/
structure Chronicle (ν σ : Type) where
  /-- The node. -/
  node : Node ν σ
  /-- How often the generation has been raised. -/
  raises : Nat := 0
  /-- Where the task with each serial number comes from. -/
  originOf : Nat → Chronicle.Origin
  /-- What has happened to the runs, the latest last. -/
  log : List Chronicle.Entry := []

namespace Chronicle

open Publisher

variable {ν σ : Type}

/-- The publisher now. -/
abbrev publisher (c : Chronicle ν σ) : Publisher := c.node.publisher

/-- What the completion of a store means for the run in progress. -/
def outcome (c : Chronicle ν σ) (serial : Nat) (result : Except Error Receipt) : List Entry :=
  match c.publisher.task? serial with
  | some task =>
    if c.publisher.isRunning && (c.originOf serial).run = c.raises then
      [.finished c.raises serial task.publication result c.node.now]
    else []
  | none => []

variable [Network ν] [Source σ]

/-- The node after an event. -/
def Event.apply (node : Node ν σ) : Event ν σ → Node ν σ
  | .tick => node.publish
  | .stop => node.stopPublisher
  | .begin serial => (node.beginTask serial).2
  | .answer serial result => node.deliver serial result
  | .resume serial => node.resumeTask serial
  | .conclude serial result => node.conclude serial result
  | .change network catalogue now => { node with network, catalogue, now }

/-- What an event adds to the log. -/
def news (c : Chronicle ν σ) : Event ν σ → List Entry
  | .tick =>
    -- a node that is not ready halts, also where no run is in progress
    if !Network.isReady c.node.network then [.halted c.raises]
    else if !c.publisher.isRunning && c.node.publish.publisher.isRunning then
      [.started (c.raises + 1) c.node.catalogue.snapshot]
    else []
  | .stop => [.halted c.raises]
  | .begin serial =>
    match (c.node.beginTask serial).1 with
    | some record => [.called ⟨c.originOf serial, serial, record⟩]
    | none => []
  | .resume serial =>
    match c.publisher.answer? serial with
    | some result => c.outcome serial result
    | none => []
  | .conclude serial result => c.outcome serial result
  | .answer .. | .change .. => []

/-- The chronicle after an event. Tasks that are made in it belong to the run that is in progress
then. -/
def after (c : Chronicle ν σ) (event : Event ν σ) : Chronicle ν σ :=
  let node := event.apply c.node
  let raises :=
    if node.publisher.generation = c.publisher.generation then c.raises else c.raises + 1
  { node, raises
    -- the origin of a task is settled when its serial number is given out
    originOf serial :=
      if serial < c.publisher.nextSerial then c.originOf serial
      else ⟨raises, Network.contact c.node.network, c.node.now⟩
    log := c.log ++ c.news event }

/-- An event can happen. A store is completed only after the network has been called for it. -/
def allows (c : Chronicle ν σ) : Event ν σ → Bool
  | .conclude serial _ => (c.publisher.task? serial).all Task.isCalled
  | _ => true

/-- While a task is around, the generation is raised fewer times than there are generations. -/
def Bounded (c : Chronicle ν σ) : Prop :=
  ∀ task ∈ c.publisher.tasks, c.raises < (c.originOf task.serial).run + UInt64.size

/-- The chronicles of a node whose publisher was fresh at the start. -/
inductive Reachable : Chronicle ν σ → Prop
  /-- Nothing has happened yet. -/
  | start {c : Chronicle ν σ} (publisher : c.publisher = {}) (raises : c.raises = 0)
      (log : c.log = []) : Reachable c
  /-- One event more has happened. -/
  | step {c : Chronicle ν σ} (earlier : Reachable c) (event : Event ν σ)
      (allowed : c.allows event = true) (bounded : (c.after event).Bounded) :
      Reachable (c.after event)

/-- A task that is begun brings the news of a call, if there is one. -/
theorem news_begin (c : Chronicle ν σ) (serial : Nat) :
    c.news (.begin serial) =
      match (c.publisher.begin serial).1 with
      | some record => [.called ⟨c.originOf serial, serial, record⟩]
      | none => [] :=
  rfl

/-- A task that is polled again brings the news of its outcome, if its answer has come. -/
theorem news_resume (c : Chronicle ν σ) (serial : Nat) :
    c.news (.resume serial) =
      match c.publisher.answer? serial with
      | some result => c.outcome serial result
      | none => [] :=
  rfl

/-! ## The publisher after an event -/

/-- The publisher takes its turn by the network, the catalogue and the clock of the node. -/
theorem publisher_after_tick (c : Chronicle ν σ) :
    (c.after .tick).publisher =
      (c.publisher.tick (Network.isReady c.node.network) c.node.catalogue.snapshot
        (Network.contact c.node.network) c.node.now).publisher :=
  Node.publisher_applyTurn _ _

theorem publisher_after_stop (c : Chronicle ν σ) :
    (c.after .stop).publisher = c.publisher.halt.publisher :=
  Node.publisher_applyTurn _ _

theorem publisher_after_begin (c : Chronicle ν σ) (serial : Nat) :
    (c.after (.begin serial)).publisher = (c.publisher.begin serial).2 :=
  rfl

theorem publisher_after_answer (c : Chronicle ν σ) (serial : Nat)
    (result : Except Error Receipt) :
    (c.after (.answer serial result)).publisher = c.publisher.answer serial result :=
  rfl

theorem publisher_after_resume (c : Chronicle ν σ) (serial : Nat) :
    (c.after (.resume serial)).publisher =
      (c.publisher.resume serial (Network.contact c.node.network) c.node.now).publisher := by
  rw [publisher, after, Event.apply, Node.resumeTask]
  split <;> exact Node.publisher_applyTurn _ _

theorem publisher_after_conclude (c : Chronicle ν σ) (serial : Nat)
    (result : Except Error Receipt) :
    (c.after (.conclude serial result)).publisher =
      (c.publisher.conclude serial result (Network.contact c.node.network) c.node.now).publisher :=
  Node.publisher_applyTurn _ _

/-! ## Short histories -/

/-- An event raises the generation once at most. -/
theorem raises_after_le_add_one (c : Chronicle ν σ) (event : Event ν σ) :
    (c.after event).raises ≤ c.raises + 1 := by
  rw [after]
  dsimp only
  split <;> omega

/-- The generation is never taken back. -/
theorem raises_le_raises_after (c : Chronicle ν σ) (event : Event ν σ) :
    c.raises ≤ (c.after event).raises := by
  rw [after]
  dsimp only
  split <;> omega

/-- The chronicle after a history of events. -/
def afterAll (c : Chronicle ν σ) (history : List (Event ν σ)) : Chronicle ν σ :=
  history.foldl after c

/-- The events of a history can happen one after the other. -/
def allowsAll (c : Chronicle ν σ) : List (Event ν σ) → Bool
  | [] => true
  | event :: history => c.allows event && (c.after event).allowsAll history

/-- A history can go on where another one ends. -/
theorem afterAll_append (c : Chronicle ν σ) (history later : List (Event ν σ)) :
    c.afterAll (history ++ later) = (c.afterAll history).afterAll later :=
  List.foldl_append ..

/-- What goes on after a history has to be possible then. -/
theorem allowsAll_append (c : Chronicle ν σ) (history later : List (Event ν σ)) :
    c.allowsAll (history ++ later) =
      (c.allowsAll history && (c.afterAll history).allowsAll later) := by
  induction history generalizing c with
  | nil => rfl
  | cons event history ih => rw [List.cons_append, allowsAll, ih, allowsAll, Bool.and_assoc]; rfl

/-- What events keep holds after a history, for the bound on the age of tasks is kept by all
histories that are not astronomically long. -/
theorem afterAll_induction {p : Chronicle ν σ → Prop} {c : Chronicle ν σ} (start : p c)
    (step : ∀ (c : Chronicle ν σ) (event : Event ν σ), p c → c.allows event = true →
      (c.after event).Bounded → p (c.after event))
    (history : List (Event ν σ)) (hallowed : c.allowsAll history = true)
    (hlength : c.raises + history.length < UInt64.size) : p (c.afterAll history) := by
  induction history generalizing c with
  | nil => exact start
  | cons event history ih =>
    rw [allowsAll, Bool.and_eq_true] at hallowed
    rw [List.length_cons] at hlength
    have hraises := c.raises_after_le_add_one event
    have hbounded : (c.after event).Bounded := fun _ _ => by omega
    exact ih (step c event start hallowed.1 hbounded) hallowed.2 (by omega)

/-- A chronicle stays reachable through every history that is not astronomically long. -/
theorem Reachable.afterAll {c : Chronicle ν σ} (h : c.Reachable) (history : List (Event ν σ))
    (hallowed : c.allowsAll history = true) (hlength : c.raises + history.length < UInt64.size) :
    (c.afterAll history).Reachable :=
  afterAll_induction h (fun _ event hc allowed bounded => hc.step event allowed bounded) history
    hallowed hlength

end Chronicle

end OverlayStore
