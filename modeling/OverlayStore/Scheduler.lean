import OverlayStore.Schedule

/-!
# The scheduler

Named tasks in virtual time. A task is a series of runs, or a single run after its delay. After
every change all tasks go on as far as the time allows; while time passes, this happens at every
millisecond. What happens is noted with its time.
-/

namespace OverlayStore

namespace Scheduler

/-- A task of the scheduler. -/
structure Task where
  /-- The name of the task. -/
  name : String
  /-- The delays of the task. -/
  timetable : Timetable
  /-- Where the task stands; a task that is over stands nowhere. -/
  phase : Option Phase := some .fresh
  /-- Whether the handle of the task is still there. -/
  held : Bool := true
  deriving DecidableEq, Repr

namespace Task

/-- The text of something that happens in a series of runs. -/
def milestoneText (task : Task) : Milestone → String
  | .started => task.name ++ " start"
  | .ended => task.name ++ " end"

/-- Go on as far as the time allows, and answer what happens. -/
def poll (task : Task) (now : Time) : List String × Task :=
  match task.phase with
  | none => ([], task)
  | some phase =>
    let (milestones, phase) := task.timetable.poll now phase
    (milestones.map task.milestoneText, { task with phase := some phase })

/-- Go on as far as the time allows with a task of a single run, which takes no time. -/
def pollOnce (task : Task) (now : Time) : List String × Task :=
  match task.phase with
  | none => ([], task)
  | some phase =>
    let (milestones, phase) := task.timetable.poll now phase
    if milestones.contains .started then ([task.name ++ " once"], { task with phase := none })
    else ([], { task with phase := some phase })

/-- End the task at once, also in the middle of a run. -/
def cancel (task : Task) : Task := { task with phase := none }

/-- Let go of the task's handle, which ends the task. -/
def drop (task : Task) : Task := { task.cancel with held := false }

/-- The task is over; nobody can tell without its handle. -/
def isFinished? (task : Task) : Option Bool :=
  if task.held then some task.phase.isNone else none

end Task

end Scheduler

/-- The tasks and the clock. -/
structure Scheduler where
  /-- The time. -/
  now : Time := 0
  /-- The recurring tasks. -/
  series : List Scheduler.Task := []
  /-- The tasks of a single run. -/
  singles : List Scheduler.Task := []
  /-- What has happened and when, the latest moment first. -/
  log : List (Time × String) := []

namespace Scheduler

/-- Let every task go on. -/
def settle (scheduler : Scheduler) : Scheduler :=
  let series := scheduler.series.map fun task => task.poll scheduler.now
  let singles := scheduler.singles.map fun task => task.pollOnce scheduler.now
  let texts := (series ++ singles).flatMap Prod.fst
  { scheduler with
    series := series.map Prod.snd, singles := singles.map Prod.snd
    log := (texts.map fun text => (scheduler.now, text)) ++ scheduler.log }

/-- Bring in recurring work. -/
def schedule (scheduler : Scheduler) (name : String) (timetable : Timetable) : Scheduler :=
  let task : Task := { name, timetable }
  { scheduler with series := scheduler.series ++ [task] }.settle

/-- Bring in a single run after a delay. -/
def spawn (scheduler : Scheduler) (name : String) (delay : Duration) : Scheduler :=
  let task : Task := { name, timetable := ⟨delay, 0, 0⟩ }
  { scheduler with singles := scheduler.singles ++ [task] }.settle

/-- End the recurring task with a number. -/
def cancel (scheduler : Scheduler) (number : Nat) : Scheduler :=
  { scheduler with series := scheduler.series.modify number Task.cancel }.settle

/-- Let go of the recurring task with a number. -/
def drop (scheduler : Scheduler) (number : Nat) : Scheduler :=
  { scheduler with series := scheduler.series.modify number Task.drop }.settle

/-- Let a number of milliseconds pass. -/
def advance (scheduler : Scheduler) : Nat → Scheduler
  | 0 => scheduler
  | count + 1 =>
    { scheduler with now := scheduler.now + (Duration.millis 1 : Int) }.settle.advance count

/-- What comes first in the log: the earlier entry, and of two at the same time the one whose text
is less. -/
def notAfter (a b : Time × String) : Bool :=
  a.1 < b.1 || (a.1 = b.1 && !(b.2 < a.2))

/-- Take what has happened, in order. -/
def takeLog (scheduler : Scheduler) : List (Time × String) × Scheduler :=
  (scheduler.log.mergeSort notAfter, { scheduler with log := [] })

end Scheduler

end OverlayStore
