import OverlayStore.Node.Run

/-!
# The small steps of a node

What a node does while time passes is made of small steps: a job is done, the queue of jobs changes,
and the clock goes on. A relation that holds between a node and what each of these steps makes of it
(`Node.StepClosed`) holds between a node and what time makes of it (`Node.StepClosed.advance`). So
whoever wants to know something of all that a node does by itself need only look at the small steps.
-/

namespace OverlayStore.Node

variable {ν σ : Type}

section Histories

variable {ε : Type} {apply : Node ν σ → ε → Node ν σ} {node middle after : Node ν σ}

/-- There is a history of events that leads from one node to another. -/
def Becomes (apply : Node ν σ → ε → Node ν σ) (node after : Node ν σ) : Prop :=
  ∃ history : List ε, history.foldl apply node = after

/-- Without any event a node stays what it is. -/
protected theorem Becomes.refl (node : Node ν σ) : node.Becomes apply node := ⟨[], rfl⟩

/-- One history can go on where another one ends. -/
protected theorem Becomes.trans (h : node.Becomes apply middle) (h' : middle.Becomes apply after) :
    node.Becomes apply after := by
  obtain ⟨history, rfl⟩ := h
  obtain ⟨later, rfl⟩ := h'
  exact ⟨history ++ later, List.foldl_append ..⟩

/-- A single event is a history. -/
theorem Becomes.of_event (node : Node ν σ) (event : ε) : node.Becomes apply (apply node event) :=
  ⟨[event], rfl⟩

end Histories

variable [Network ν] [Source σ]

/-- A relation between nodes is closed under the small steps of a node. `meanwhile` is what other
parts of the program do while the node does its jobs. -/
structure StepClosed (meanwhile : Interlude ν σ) (leads : Node ν σ → Node ν σ → Prop) : Prop where
  /-- Nothing at all may happen. -/
  refl (node : Node ν σ) : leads node node
  /-- One thing may happen after the other. -/
  trans {node middle after : Node ν σ} : leads node middle → leads middle after → leads node after
  /-- A job is done. -/
  runJob (node : Node ν σ) (job : Job) : leads node (node.runJob meanwhile job)
  /-- The queue of jobs is another. -/
  queue (node : Node ν σ) (jobs : List Job) : leads node { node with jobs }
  /-- Time passes, and the timers go on as well or fall behind. -/
  clock (node : Node ν σ) (span lag : Duration) (hle : lag ≤ span + node.timerLag) :
    leads node { node with now := node.now + (span : Int), timerLag := lag }

namespace StepClosed

variable {meanwhile : Interlude ν σ} {leads : Node ν σ → Node ν σ → Prop}

/-- Jobs are done one after the other. -/
theorem runJobs (h : StepClosed meanwhile leads) (count : Nat) (node : Node ν σ) :
    leads node (node.runJobs meanwhile count) := by
  induction count generalizing node with
  | zero => exact h.refl node
  | succ count ih =>
    unfold Node.runJobs
    split
    · exact h.refl node
    · -- the oldest job is taken off the queue before it is done
      rename_i job rest _
      have htaken : leads node { node with jobs := rest } := h.queue node rest
      exact h.trans htaken (h.trans (h.runJob _ job) (ih _))

/-- All jobs are done. -/
theorem settle (h : StepClosed meanwhile leads) (node : Node ν σ) :
    leads node (node.settle meanwhile) := by
  unfold Node.settle
  split
  · exact h.refl node
  · exact h.runJobs _ node

/-- Work that is due becomes a job. -/
theorem wakeIfDue (h : StepClosed meanwhile leads) (node : Node ν σ) (chore : Chore)
    (schedule : Schedule) : leads node (node.wakeIfDue chore schedule) := by
  unfold Node.wakeIfDue
  split
  · exact h.queue node _
  · exact h.refl node

/-- All work that is due becomes jobs. -/
theorem wakeDue (h : StepClosed meanwhile leads) (node : Node ν σ) : leads node node.wakeDue := by
  unfold Node.wakeDue
  have hsweep := h.wakeIfDue node .sweep node.sweeping
  cases node.guestSweeping with
  | none => exact h.trans hsweep (h.wakeIfDue ..)
  | some schedule => exact h.trans (h.trans hsweep (h.wakeIfDue ..)) (h.wakeIfDue ..)

/-- A millisecond passes. First the time goes on, then the timers do. -/
theorem passMilli (h : StepClosed meanwhile leads) (node : Node ν σ) :
    leads node (node.passMilli meanwhile) := by
  -- jobs that have been waiting see the new time, but begin to wait by the old one
  let late : Node ν σ :=
    { node with now := node.now + (Duration.millis 1 : Int), timerLag := Duration.millis 1 }
  let done : Node ν σ := late.settle meanwhile
  have hlate : leads node late := h.clock node _ _ (Nat.le_add_right ..)
  have hdone : leads node done := h.trans hlate (h.settle late)
  have hcaught : leads done { done with timerLag := 0 } := by
    simpa using h.clock done 0 0 (Nat.zero_le _)
  exact h.trans (h.trans hdone hcaught) (h.trans (h.wakeDue _) (h.settle _))

/-- A relation that is closed under the small steps holds between a node and what becomes of it
while time passes. -/
theorem advance (h : StepClosed meanwhile leads) (count : Nat) (node : Node ν σ) :
    leads node (node.advance count meanwhile) := by
  induction count generalizing node with
  | zero => exact h.refl node
  | succ count ih => exact h.trans (h.passMilli node) (ih _)

end StepClosed

end OverlayStore.Node
