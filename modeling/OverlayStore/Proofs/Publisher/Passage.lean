import OverlayStore.Proofs.Node.SmallSteps
import OverlayStore.Proofs.Publisher.Chronicle

/-!
# What a publisher sees of passing time

The jobs of a node look after the tasks of its publisher and let it take its turns, and all else
that they do is a change of the surroundings. So what a node does while time passes is a history
that its chronicle allows (`Chronicle.exists_history_advance`), and what holds of a publisher after
all such histories holds of a node that is left to itself.
-/

namespace OverlayStore

/-- After the network has been called for a task, the task is a called one. -/
theorem Publisher.isCalled_of_begin {publisher : Publisher} {serial : Nat} {record : Record}
    (hbegin : (publisher.begin serial).1 = some record) :
    ((publisher.begin serial).2.task? serial).all Task.isCalled = true := by
  rw [Option.all_eq_true]
  intro task htask
  unfold begin at hbegin htask
  cases hold : publisher.task? serial with
  | none => simp [hold] at hbegin
  | some old =>
    cases haborted : old.aborted with
    | true => simp [hold, haborted] at hbegin
    | false =>
      cases hstage : old.stage with
      | queued =>
        -- only here the network is called, and the task that is found is the changed one
        simp only [hold, haborted, hstage, Bool.false_eq_true, if_false] at htask
        have hmem := List.mem_of_find?_eq_some htask
        have hserial : task.serial = serial := by simpa using List.find?_some htask
        obtain ⟨other, -, hother⟩ := List.mem_map.mp hmem
        split at hother
        · rw [← hother]
          rfl
        · rename_i hne
          exact absurd (hother ▸ hserial) hne
      | awaiting => simp [hold, haborted, hstage] at hbegin
      | answered result => simp [hold, haborted, hstage] at hbegin

namespace Chronicle

variable {ν σ : Type}

/-! ## What a chronicle follows -/

/-- Two nodes agree in all that chronicles follow. -/
structure Alike (node other : Node ν σ) : Prop where
  /-- The publishers are the same. -/
  publisher : node.publisher = other.publisher
  /-- The networks are the same. -/
  network : node.network = other.network
  /-- The catalogues are the same. -/
  catalogue : node.catalogue = other.catalogue
  /-- The stamps are the same. -/
  ledger : node.ledger = other.ledger
  /-- The times are the same. -/
  now : node.now = other.now

namespace Alike

variable {node other third : Node ν σ}

protected theorem refl (node : Node ν σ) : Alike node node := ⟨rfl, rfl, rfl, rfl, rfl⟩

protected theorem trans (h : Alike node other) (h' : Alike other third) : Alike node third where
  publisher := h.publisher.trans h'.publisher
  network := h.network.trans h'.network
  catalogue := h.catalogue.trans h'.catalogue
  ledger := h.ledger.trans h'.ledger
  now := h.now.trans h'.now

/-- Nodes that agree do the same when they take the same turn. -/
theorem applyTurn (h : Alike node other) {turn turn' : Publisher.Turn} (hturn : turn = turn') :
    Alike (node.applyTurn turn) (other.applyTurn turn') := by
  subst hturn
  obtain ⟨-, hnetwork, hcatalogue, hledger, hnow⟩ := h
  unfold Node.applyTurn
  cases turn.task <;> cases turn.stored <;>
    exact ⟨rfl, hnetwork, hcatalogue, by simp [Node.measure, Node.enqueue, hledger, hnow], hnow⟩

variable [Network ν]

/-- Nodes that agree go on with a task alike. -/
theorem resumeTask (h : Alike node other) (serial : Nat) :
    Alike (node.resumeTask serial) (other.resumeTask serial) := by
  let turn := node.publisher.resume serial (Network.contact node.network) node.now
  let turn' := other.publisher.resume serial (Network.contact other.network) other.now
  have hturn : Alike (node.applyTurn turn) (other.applyTurn turn') :=
    h.applyTurn (by simp only [turn, turn', h.publisher, h.network, h.now])
  unfold Node.resumeTask
  by_cases hleft : ((node.applyTurn turn).publisher.task? serial).isSome = true
  · rw [if_pos hleft, if_pos (hturn.publisher ▸ hleft)]
    exact hturn
  · -- the task is over for both, and the networks hear of it
    rw [if_neg hleft, if_neg (hturn.publisher ▸ hleft)]
    exact ⟨hturn.publisher, congrArg (Network.forget serial) hturn.network, hturn.catalogue,
      hturn.ledger, hturn.now⟩

variable [Source σ]

/-- Nodes that agree still do so after the same event. -/
theorem apply (h : Alike node other) (event : Event ν σ) :
    Alike (event.apply node) (event.apply other) := by
  cases event with
  | tick => exact h.applyTurn (by rw [h.publisher, h.network, h.catalogue, h.now])
  | stop =>
    -- the schedules are not compared, so stopping one leaves the nodes alike
    have hunscheduled : Alike { node with publishing := node.publishing.stop }
        { other with publishing := other.publishing.stop } :=
      ⟨h.publisher, h.network, h.catalogue, h.ledger, h.now⟩
    exact hunscheduled.applyTurn (congrArg Publisher.halt h.publisher)
  | begin serial =>
    exact ⟨congrArg (fun publisher => (publisher.begin serial).2) h.publisher, h.network,
      h.catalogue, h.ledger, h.now⟩
  | answer serial result =>
    exact ⟨congrArg (fun publisher => publisher.answer serial result) h.publisher, h.network,
      h.catalogue, h.ledger, h.now⟩
  | resume serial => exact h.resumeTask serial
  | conclude serial result => exact h.applyTurn (by rw [h.publisher, h.network, h.now])
  | change network catalogue now => exact ⟨h.publisher, rfl, rfl, h.ledger, rfl⟩

end Alike

variable [Network ν] [Source σ]

/-! ## Histories from one node to another -/

/-- Every chronicle of the one node allows a history after which it is one of the other node, as far
as chronicles follow nodes. -/
def Leads (node after : Node ν σ) : Prop :=
  ∀ c : Chronicle ν σ, Alike c.node node →
    ∃ history, c.allowsAll history = true ∧ Alike (c.afterAll history).node after

namespace Leads

variable {node middle after : Node ν σ}

/-- What chronicles do not follow may change without any event. -/
theorem of_alike (h : Alike node after) : Leads node after :=
  fun _ hnode => ⟨[], rfl, hnode.trans h⟩

/-- An event that is allowed is a history. -/
theorem of_event (event : Event ν σ)
    (hallowed : ∀ c : Chronicle ν σ, Alike c.node node → c.allows event = true) :
    Leads node (event.apply node) :=
  fun c hnode => ⟨[event], by rw [allowsAll, hallowed c hnode]; rfl, hnode.apply event⟩

/-- One history can go on where another one ends. -/
protected theorem trans (h : Leads node middle) (h' : Leads middle after) : Leads node after := by
  intro c hnode
  obtain ⟨history, hallowed, hmiddle⟩ := h c hnode
  obtain ⟨later, hallowed', hafter⟩ := h' _ hmiddle
  refine ⟨history ++ later, ?_, ?_⟩
  · rw [allowsAll_append, hallowed, hallowed']
    rfl
  · rw [afterAll_append]
    exact hafter

end Leads

variable (node : Node ν σ)

/-- Looking after a task is a history: the network is called and may answer at once, or the task is
polled again. -/
theorem leads_attend (serial : Nat) : Leads node (node.attend {} serial) := by
  have hbegun : Leads node (node.beginTask serial).2 :=
    .of_event (Event.begin serial) fun _ _ => rfl
  unfold Node.attend
  split
  · rename_i record begun hbegin
    rw [hbegin] at hbegun
    -- what the call does to the network is a change between two polls
    let reply := Network.store record (some serial) begun.now begun.network
    let called : Node ν σ := { begun with network := reply.network }.measure reply.updates
    have hcalled : Leads node called :=
      hbegun.trans (.trans (.of_event (.change reply.network begun.catalogue begun.now)
        fun _ _ => rfl) (.of_alike ⟨rfl, rfl, rfl, rfl, rfl⟩))
    show Leads node (begun.callNetwork serial record)
    unfold Node.callNetwork
    dsimp only
    split
    · rename_i result _
      -- the network answers at once, and the task that it answers has been called
      refine hcalled.trans (.of_event (.conclude serial result) fun c hnode => ?_)
      have hpublisher : c.publisher = (node.publisher.begin serial).2 :=
        hnode.publisher.trans (congrArg (fun pair => pair.2.publisher) hbegin).symm
      rw [allows, hpublisher]
      exact Publisher.isCalled_of_begin (congrArg Prod.fst hbegin)
    · exact hcalled
  · rename_i begun hbegin
    rw [hbegin] at hbegun
    exact hbegun.trans (.of_event (Event.resume serial) fun _ _ => rfl)

/-- A job looks after a task, lets the publisher take its turn, or changes the surroundings. -/
theorem leads_runJob (job : Job) : Leads node (node.runJob {} job) := by
  match job with
  | .task serial => exact leads_attend node serial
  | .notify publication receipt =>
    exact .of_event (.change node.network (node.catalogue.noteReceipt publication receipt) node.now)
      fun _ _ => rfl
  | .wake .sweep series =>
    refine .of_alike ?_
    show Alike node (node.wakeSweeper series)
    unfold Node.wakeSweeper
    dsimp only
    split <;> exact ⟨rfl, rfl, rfl, rfl, rfl⟩
  | .wake .guestSweep series =>
    refine .of_alike ?_
    show Alike node (node.wakeGuestSweeper series)
    unfold Node.wakeGuestSweeper
    split
    · exact .refl node
    · dsimp only
      split <;> exact ⟨rfl, rfl, rfl, rfl, rfl⟩
  | .wake .publish series =>
    -- only a schedule that is due makes the publisher tick
    have hpolled : Leads node { node with
        publishing := (node.publishing.poll series node.timerNow).2 } :=
      .of_alike ⟨rfl, rfl, rfl, rfl, rfl⟩
    show Leads node (node.wakePublisher series)
    unfold Node.wakePublisher
    dsimp only
    split
    · exact hpolled.trans (.of_event .tick fun _ _ => rfl)
    · exact hpolled

/-- The small steps of a node are histories of its publisher. -/
theorem stepClosed_leads : Node.StepClosed {} (Leads (ν := ν) (σ := σ)) where
  refl node := .of_alike (.refl node)
  trans := .trans
  runJob := leads_runJob
  queue _ _ := .of_alike ⟨rfl, rfl, rfl, rfl, rfl⟩
  clock node span _ _ :=
    .trans (.of_event (.change node.network node.catalogue (node.now + (span : Int)))
      fun _ _ => rfl) (.of_alike ⟨rfl, rfl, rfl, rfl, rfl⟩)

/-- What a node does while time passes is a history that its chronicle allows. -/
theorem exists_history_advance (c : Chronicle ν σ) (count : Nat) :
    ∃ history, c.allowsAll history = true ∧
      Alike (c.afterAll history).node (c.node.advance count) :=
  stepClosed_leads.advance count c.node c (.refl c.node)

end Chronicle

end OverlayStore
