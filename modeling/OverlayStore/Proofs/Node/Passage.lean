import OverlayStore.Proofs.Node.Duties
import OverlayStore.Proofs.Node.SmallSteps

/-!
# What a node's duties see of passing time

The jobs of a node wake the series of its duties, and all else that they do is no concern of the
schedules. So whatever happens while time passes is a history of a node's duties
(`Node.becomes_advance`), provided that this is so of what other parts of the program do meanwhile.
What holds of a duty after every history (`Watch.one_schedule_at_a_time`) therefore holds of a node
that is left to itself.
-/

namespace OverlayStore.Node

variable {ν σ : Type}

/-! ## What is no concern of the schedules -/

/-- Beginning a task is no concern of the schedules. -/
theorem spares_beginTask (node : Node ν σ) (serial : Nat) :
    node.Spares (node.beginTask serial).2 :=
  ⟨rfl, rfl, rfl, rfl, Nat.le_refl _⟩

variable [Network ν]

theorem spares_conclude (node : Node ν σ) (serial : Nat) (result : Except Error Receipt) :
    node.Spares (node.conclude serial result) :=
  spares_applyTurn _ _

/-- Calling the network is no concern of the schedules. -/
theorem spares_callNetwork (node : Node ν σ) (serial : Nat) (record : Record) :
    node.Spares (node.callNetwork serial record) := by
  unfold callNetwork
  dsimp only
  split
  · refine Spares.trans ?_ (spares_conclude _ _ _)
    exact ⟨rfl, rfl, rfl, rfl, Nat.le_refl _⟩
  · exact ⟨rfl, rfl, rfl, rfl, Nat.le_refl _⟩

/-- Going on with a task is no concern of the schedules. -/
theorem spares_resumeTask (node : Node ν σ) (serial : Nat) :
    node.Spares (node.resumeTask serial) := by
  unfold resumeTask
  dsimp only
  split
  · exact spares_applyTurn _ _
  · exact (spares_applyTurn _ _).trans ⟨rfl, rfl, rfl, rfl, Nat.le_refl _⟩

/-- The sweeper of a guest has a schedule of its own. -/
theorem spares_wakeGuestSweeper (node : Node ν σ) (number : Nat) :
    node.Spares (node.wakeGuestSweeper number) := by
  unfold wakeGuestSweeper
  split
  · exact .refl _
  · dsimp only
    split <;> exact ⟨rfl, rfl, rfl, rfl, Nat.le_refl _⟩

/-! ## Histories of the duties -/

variable [Source σ]

/-- What is no concern of the schedules is a change of all else. -/
theorem Spares.becomes {node after : Node ν σ} (h : node.Spares after) :
    node.Becomes DutyEvent.apply after := by
  refine ⟨[.change after], ?_⟩
  obtain ⟨now, timerLag, sweeping, publishing, series⟩ := h
  simp only [List.foldl_cons, List.foldl_nil, DutyEvent.apply, Nat.max_eq_right series, ← now,
    ← timerLag, ← sweeping, ← publishing]

/-- Time may pass, and the timers with it or not. -/
theorem becomes_clock (node : Node ν σ) (span lag : Duration) (hle : lag ≤ span + node.timerLag) :
    node.Becomes DutyEvent.apply { node with now := node.now + (span : Int), timerLag := lag } := by
  have hnow : node.timerNow + ((span + node.timerLag - lag : Nat) : Int) + (lag : Int) =
      node.now + (span : Int) := by
    rw [Int.ofNat_sub hle, Int.natCast_add, timerNow, Int.add_assoc, Int.sub_add_cancel,
      Int.add_comm (span : Int), ← Int.add_assoc, Int.sub_add_cancel]
  refine ⟨[.pass (span + node.timerLag - lag) lag], ?_⟩
  rw [List.foldl_cons, List.foldl_nil, DutyEvent.apply, hnow]

section Interlude

variable {meanwhile : Interlude ν σ}
  (hmeanwhile : ∀ node : Node ν σ, node.Becomes DutyEvent.apply (meanwhile.play node))

include hmeanwhile

/-- Looking after a task is a history, what happens just before the call included. -/
theorem becomes_attend (node : Node ν σ) (serial : Nat) :
    node.Becomes DutyEvent.apply (node.attend meanwhile serial) := by
  have hbegun := (node.spares_beginTask serial).becomes
  unfold attend
  split
  · rename_i record begun hbegin
    rw [hbegin] at hbegun
    exact (hbegun.trans (hmeanwhile begun)).trans (spares_callNetwork ..).becomes
  · rename_i begun hbegin
    rw [hbegin] at hbegun
    exact hbegun.trans (spares_resumeTask ..).becomes

/-- A job wakes a series of a duty, or it is no concern of the schedules. -/
theorem becomes_runJob (node : Node ν σ) (job : Job) :
    node.Becomes DutyEvent.apply (node.runJob meanwhile job) := by
  match job with
  | .task serial => exact becomes_attend hmeanwhile node serial
  | .notify publication receipt => exact Spares.becomes ⟨rfl, rfl, rfl, rfl, Nat.le_refl _⟩
  | .wake .sweep number => exact .of_event node (DutyEvent.wake .sweep number)
  | .wake .publish number => exact .of_event node (DutyEvent.wake .publish number)
  | .wake .guestSweep number => exact (node.spares_wakeGuestSweeper number).becomes

/-- The small steps of a node are histories of its duties. -/
theorem stepClosed_becomes : StepClosed meanwhile (Becomes (ν := ν) (σ := σ) DutyEvent.apply) where
  refl := .refl
  trans := .trans
  runJob := becomes_runJob hmeanwhile
  queue _ _ := Spares.becomes ⟨rfl, rfl, rfl, rfl, Nat.le_refl _⟩
  clock := becomes_clock

/-- What becomes of a node while time passes becomes of it in a history of its duties. -/
theorem becomes_advance (node : Node ν σ) (count : Nat) :
    node.Becomes DutyEvent.apply (node.advance count meanwhile) :=
  (stepClosed_becomes hmeanwhile).advance count node

end Interlude

end OverlayStore.Node
