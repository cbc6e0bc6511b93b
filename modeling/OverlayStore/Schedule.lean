import OverlayStore.Duration

/-!
# Schedules

Recurring work with a fixed delay: the first run starts when the initial delay has passed, and each
later one when the period has passed since the end of the one before, so that a slow run never
overlaps the next. A schedule has at most one live series of runs. Every series has a number of its
own, by which work that is still under way for an ended series is told from work for a new one.
-/

namespace OverlayStore

/-- The delays of recurring work. -/
structure Timetable where
  /-- The delay before the first run. -/
  initialDelay : Duration
  /-- The delay from the end of a run to the start of the next. -/
  period : Duration
  /-- How long a run takes. -/
  busy : Duration := 0
  deriving DecidableEq, Repr

/-- Where a series of runs stands. -/
inductive Phase where
  /-- It has been asked for and has not begun to wait. -/
  | fresh
  /-- It waits for a run to be due. -/
  | resting (due : Time)
  /-- A run is under way and will end. -/
  | working (ends : Time)
  deriving DecidableEq, Repr

/-- What happens in a series of runs. -/
inductive Milestone where
  /-- A run starts. -/
  | started
  /-- A run ends. -/
  | ended
  deriving DecidableEq, Repr

namespace Phase

/-- The time that the series waits for, if it waits. -/
def wakesAt? : Phase → Option Time
  | .fresh => none
  | .resting due => some due
  | .working ends => some ends

/-- The series waits for a time that has come. -/
def isDue (now : Time) (phase : Phase) : Bool :=
  match phase.wakesAt? with
  | some time => time ≤ now
  | none => false

end Phase

namespace Timetable

/-- Go on from a phase, unless its time has not come. -/
def next? (timetable : Timetable) (now : Time) : Phase → Option (Option Milestone × Phase)
  | .fresh => some (none, .resting (now + (timetable.initialDelay : Int)))
  | .resting due =>
    if due ≤ now then some (some .started, .working (now + (timetable.busy : Int))) else none
  | .working ends =>
    if ends ≤ now then some (some .ended, .resting (now + (timetable.period : Int))) else none

/-- Go on for a number of phases at most, and answer what happens. -/
def follow (timetable : Timetable) (now : Time) : Nat → Phase → List Milestone × Phase
  | 0, phase => ([], phase)
  | steps + 1, phase =>
    match timetable.next? now phase with
    | none => ([], phase)
    | some (milestone, phase) =>
      let (rest, phase) := timetable.follow now steps phase
      (milestone.toList ++ rest, phase)

/-- Go on as far as the time allows. Where a run or the pause after it takes time, four phases are
enough: from the beginning of the series to the pause after its first run. -/
def poll (timetable : Timetable) (now : Time) (phase : Phase) : List Milestone × Phase :=
  timetable.follow now 4 phase

end Timetable

/-- Recurring work that can be started and stopped. -/
structure Schedule where
  /-- The delays. -/
  timetable : Timetable
  /-- The number and the phase of the live series, if there is one. -/
  live : Option (Nat × Phase) := none

namespace Schedule

/-- There is a live series. -/
def isRunning (schedule : Schedule) : Bool := schedule.live.isSome

/-- Start a series with a number; a live series goes on instead. -/
def start (schedule : Schedule) (number : Nat) : Schedule :=
  match schedule.live with
  | some _ => schedule
  | none => { schedule with live := some (number, .fresh) }

/-- End the live series. -/
def stop (schedule : Schedule) : Schedule :=
  { schedule with live := none }

/-- The number of the live series, if it waits for a time that has come. -/
def due? (schedule : Schedule) (now : Time) : Option Nat :=
  match schedule.live with
  | some (number, phase) => if phase.isDue now then some number else none
  | none => none

/-- Let the series with a number go on, if it is the live one, and answer what happens. -/
def poll (schedule : Schedule) (number : Nat) (now : Time) : List Milestone × Schedule :=
  match schedule.live with
  | some (serial, phase) =>
    if serial = number then
      let (milestones, phase) := schedule.timetable.poll now phase
      (milestones, { schedule with live := some (serial, phase) })
    else ([], schedule)
  | none => ([], schedule)

/-- A started schedule runs. -/
@[simp] theorem isRunning_start (schedule : Schedule) (number : Nat) :
    (schedule.start number).isRunning = true := by
  unfold start
  split <;> simp_all [isRunning]

/-- Polling neither starts nor ends a series. -/
@[simp] theorem isRunning_poll (schedule : Schedule) (number : Nat) (now : Time) :
    (schedule.poll number now).2.isRunning = schedule.isRunning := by
  unfold poll
  split
  · split <;> simp_all [isRunning]
  · rfl

/-- Nothing happens in a series that is not the live one. -/
theorem poll_of_ne {schedule : Schedule} {number : Nat} (now : Time)
    (h : ∀ phase, schedule.live ≠ some (number, phase)) :
    schedule.poll number now = ([], schedule) := by
  unfold poll
  split
  · rename_i serial phase live
    split
    · rename_i same
      exact absurd live (same ▸ h phase)
    · rfl
  · rfl

end Schedule

end OverlayStore
