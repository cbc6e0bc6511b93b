import OverlayStore.Proofs.Publisher.Chronicle

/-!
# What events ask of a node

Every event of a chronicle is a turn of the publisher, and the node does what the turn asks for: it
stamps a stored publication, puts a notice for its source into the queue of jobs, and records what
was measured (`Chronicle.Event.turn`). Only the conclusion of a store asks for any of this; all
other turns are quiet.
-/

namespace OverlayStore

/-! ## Turns -/

namespace Publisher

/-- The turn stamps nothing and has measured nothing. -/
structure Turn.IsQuiet (turn : Turn) : Prop where
  stored : turn.stored = none
  updates : turn.updates = []

variable (publisher : Publisher) (node : Contact) (now : Time)

/-- A halt is quiet. -/
theorem isQuiet_halt : publisher.halt.IsQuiet := by
  unfold halt
  cases publisher.inFlight <;> exact ⟨rfl, rfl⟩

theorem isQuiet_advance : (publisher.advance node now).IsQuiet := by
  unfold advance
  split <;> exact ⟨rfl, rfl⟩

/-- A turn of the publisher is quiet, whether it halts, begins a run or does nothing. -/
theorem isQuiet_tick (ready : Bool) (snapshot : List Publication) :
    (publisher.tick ready snapshot node now).IsQuiet := by
  unfold tick
  split
  · exact isQuiet_halt publisher
  · split
    · exact ⟨rfl, rfl⟩
    · exact isQuiet_advance _ node now

/-- Polling a task that is not to be concluded is quiet. -/
theorem isQuiet_resume {publisher : Publisher} {serial : Nat}
    (hanswer : publisher.answer? serial = none) :
    (publisher.resume serial node now).IsQuiet := by
  unfold answer? at hanswer
  unfold resume
  cases htask : publisher.task? serial with
  | none => exact ⟨rfl, rfl⟩
  | some task =>
    obtain ⟨own, generation, publication, record, aborted, stage⟩ := task
    rw [htask] at hanswer
    cases aborted with
    | true => exact ⟨rfl, rfl⟩
    | false =>
      cases stage with
      | answered result => cases hanswer
      | _ => exact ⟨rfl, rfl⟩

/-- A turn that stamps a publication has concluded a store of it with success. -/
theorem eq_ok_of_stored_conclude {publisher : Publisher} {node : Contact} {now : Time}
    {serial : Nat} {result : Except Error Receipt} {publication : Publication} {receipt : Receipt}
    (hstored : (publisher.conclude serial result node now).stored = some (publication, receipt)) :
    result = .ok receipt ∧
      ∃ task, publisher.task? serial = some task ∧ task.publication = publication := by
  unfold conclude at hstored
  cases htask : publisher.task? serial with
  | none =>
    rw [htask] at hstored
    cases hstored
  | some task =>
    rw [htask] at hstored
    dsimp only at hstored
    unfold complete at hstored
    split at hstored
    · cases hstored
    · cases result with
      | error error => cases hstored
      | ok receipt =>
        cases hstored
        exact ⟨rfl, task, rfl, rfl⟩

end Publisher

/-! ## What a node does -/

/-- The publication and the receipt that a job is to tell a source of. -/
def Job.notice? : Job → Option (Publication × Receipt)
  | .notify publication receipt => some (publication, receipt)
  | _ => none

namespace Node

variable {ν σ : Type}

/-- The notices that wait to be delivered, the oldest first. -/
def notices (node : Node ν σ) : List (Publication × Receipt) := node.jobs.filterMap Job.notice?

/-- A node does what a turn asks for. -/
structure Obeys (node after : Node ν σ) (turn : Publisher.Turn) : Prop where
  ledger : after.ledger = turn.stored.elim node.ledger fun stored =>
    node.ledger.stamp stored.1 node.now stored.2.count
  notices : after.notices = node.notices ++ turn.stored.toList
  recorder : after.recorder = node.recorder.recordAll turn.updates

/-- Taking a turn does what the turn asks for. -/
theorem obeys_applyTurn (node : Node ν σ) (turn : Publisher.Turn) :
    node.Obeys (node.applyTurn turn) turn := by
  -- a turn may stamp or not, and may make a task or not
  obtain ⟨publisher, _ | stored, _ | serial, updates⟩ := turn <;>
    exact ⟨rfl, by simp [Node.notices, applyTurn, enqueue, measure, Job.notice?], rfl⟩

/-- Where nothing is asked for, nothing is done. -/
theorem Obeys.of_isQuiet {node after : Node ν σ} {turn : Publisher.Turn} (hquiet : turn.IsQuiet)
    (ledger : after.ledger = node.ledger) (notices : after.notices = node.notices)
    (recorder : after.recorder = node.recorder) : node.Obeys after turn where
  ledger := by rw [hquiet.stored, ledger]; rfl
  notices := by rw [hquiet.stored, notices, Option.toList_none, List.append_nil]
  recorder := by rw [hquiet.updates, recorder]; rfl

theorem network_applyTurn (node : Node ν σ) (turn : Publisher.Turn) :
    (node.applyTurn turn).network = node.network := by
  unfold applyTurn
  cases turn.stored <;> cases turn.task <;> rfl

theorem catalogue_applyTurn (node : Node ν σ) (turn : Publisher.Turn) :
    (node.applyTurn turn).catalogue = node.catalogue := by
  unfold applyTurn
  cases turn.stored <;> cases turn.task <;> rfl

end Node

namespace Chronicle

open Publisher

variable {ν σ : Type} [Network ν] [Source σ]

/-- The turn of the publisher that an event is. -/
def Event.turn (node : Node ν σ) : Event ν σ → Turn
  | .tick => node.publisher.tick (Network.isReady node.network) node.catalogue.snapshot
      (Network.contact node.network) node.now
  | .stop => node.publisher.halt
  | .begin serial => { publisher := (node.publisher.begin serial).2 }
  | .answer serial result => { publisher := node.publisher.answer serial result }
  | .resume serial => node.publisher.resume serial (Network.contact node.network) node.now
  | .conclude serial result =>
    node.publisher.conclude serial result (Network.contact node.network) node.now
  | .change .. => { publisher := node.publisher }

/-- Every event does what its turn asks for. -/
theorem Event.obeys_apply (node : Node ν σ) (event : Event ν σ) :
    node.Obeys (event.apply node) (event.turn node) := by
  cases event with
  | tick => exact node.obeys_applyTurn _
  | stop =>
    -- the schedule that is ended as well is none of what a turn is about
    have h := { node with publishing := node.publishing.stop }.obeys_applyTurn node.publisher.halt
    exact ⟨h.ledger, h.notices, h.recorder⟩
  | begin serial => exact .of_isQuiet ⟨rfl, rfl⟩ rfl rfl rfl
  | answer serial result =>
    -- the task that has got its answer is put into the queue, but that is no notice
    refine .of_isQuiet ⟨rfl, rfl⟩ rfl ?_ rfl
    simp [Event.apply, Node.deliver, Node.notices, Node.enqueue, Job.notice?]
  | resume serial =>
    have h := node.obeys_applyTurn
      (node.publisher.resume serial (Network.contact node.network) node.now)
    rw [Event.apply, Node.resumeTask]
    -- the network may be told that the task is over
    split
    · exact h
    · exact ⟨h.ledger, h.notices, h.recorder⟩
  | conclude serial result => exact node.obeys_applyTurn _
  | change network catalogue now => exact .of_isQuiet ⟨rfl, rfl⟩ rfl rfl rfl

/-- An event concludes the store of a task. -/
def Event.Concludes (node : Node ν σ) (event : Event ν σ) (serial : Nat)
    (result : Except Error Receipt) : Prop :=
  event = .conclude serial result ∨
    event = .resume serial ∧ node.publisher.answer? serial = some result

/-- What is stamped is the publication of a task whose store is concluded with success. -/
theorem Event.concludes_of_stored {node : Node ν σ} {event : Event ν σ}
    {publication : Publication} {receipt : Receipt}
    (hstored : (event.turn node).stored = some (publication, receipt)) :
    ∃ serial task, event.Concludes node serial (.ok receipt) ∧
      node.publisher.task? serial = some task ∧ task.publication = publication := by
  cases event with
  | tick => cases (isQuiet_tick _ _ _ _ _).stored.symm.trans hstored
  | stop => cases (isQuiet_halt _).stored.symm.trans hstored
  | begin serial => cases hstored
  | answer serial result => cases hstored
  | resume serial =>
    -- a task is resumed with the answer that it has, and waits on if there is none
    cases hanswer : node.publisher.answer? serial with
    | none => cases (isQuiet_resume _ _ hanswer).stored.symm.trans hstored
    | some result =>
      rw [turn, resume_of_answer? hanswer] at hstored
      obtain ⟨rfl, task, htask, hpublication⟩ := eq_ok_of_stored_conclude hstored
      exact ⟨serial, task, .inr ⟨rfl, hanswer⟩, htask, hpublication⟩
  | conclude serial result =>
    obtain ⟨rfl, task, htask, hpublication⟩ := eq_ok_of_stored_conclude hstored
    exact ⟨serial, task, .inl rfl, htask, hpublication⟩
  | change network catalogue now => cases hstored

/-- Only a change from outside has to do with the catalogue. -/
theorem Event.catalogue_apply (node : Node ν σ) (event : Event ν σ) :
    (event.apply node).catalogue =
      match event with
      | .change _ catalogue _ => catalogue
      | _ => node.catalogue := by
  cases event with
  | resume serial =>
    rw [Event.apply, Node.resumeTask]
    dsimp only
    split <;> exact node.catalogue_applyTurn _
  | answer serial result => rfl
  | begin serial => rfl
  | change network catalogue now => rfl
  | _ => exact Node.catalogue_applyTurn _ _

end Chronicle

end OverlayStore
