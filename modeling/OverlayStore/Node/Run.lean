import OverlayStore.Node

/-!
# Running a node

How the jobs of a node are done: one at a time, the oldest first, until none is left. While time
passes, at every millisecond the recurring work that is due becomes a job, and all jobs are done
before time goes on.

Other parts of the program may act on the node just before the network is called for a record; what
they do is the interlude `meanwhile`, and by default there is none.
-/

namespace OverlayStore.Node

variable {ν σ : Type} [Network ν] [Source σ]

/-- Let a series of sweeps go on. -/
def wakeSweeper (node : Node ν σ) (series : Nat) : Node ν σ :=
  let (milestones, sweeping) := node.sweeping.poll series node.timerNow
  let node := { node with sweeping }
  if milestones.contains .started then node.sweep.2 else node

/-- Let a guest's series of sweeps go on. -/
def wakeGuestSweeper (node : Node ν σ) (series : Nat) : Node ν σ :=
  match node.guestSweeping with
  | none => node
  | some schedule =>
    let (milestones, schedule) := schedule.poll series node.timerNow
    let node := { node with guestSweeping := some schedule }
    if milestones.contains .started then node.sweep.2 else node

/-- Let the publisher's series of turns go on. -/
def wakePublisher (node : Node ν σ) (series : Nat) : Node ν σ :=
  let (milestones, publishing) := node.publishing.poll series node.timerNow
  let node := { node with publishing }
  if milestones.contains .started then node.publish else node

/-- Do one job. -/
def runJob (meanwhile : Interlude ν σ) (node : Node ν σ) : Job → Node ν σ
  | .task serial => node.attend meanwhile serial
  | .notify publication receipt =>
    { node with catalogue := node.catalogue.noteReceipt publication receipt }
  | .wake .sweep series => node.wakeSweeper series
  | .wake .guestSweep series => node.wakeGuestSweeper series
  | .wake .publish series => node.wakePublisher series

/-- Do up to a number of jobs. -/
def runJobs (meanwhile : Interlude ν σ) : Nat → Node ν σ → Node ν σ
  | 0, node => node
  | count + 1, node =>
    match node.jobs with
    | [] => node
    | job :: rest => runJobs meanwhile count ({ node with jobs := rest }.runJob meanwhile job)

/-- How many jobs can come of those that wait and of those that an interlude leaves. Each of them
takes at most one turn of the publisher, a turn begins a run of what is offered at most, and each
store of a run makes at most two jobs. -/
def jobBound (node : Node ν σ) (meanwhile : Interlude ν σ) : Nat :=
  let stores := (node.publisher.pending.getD []).length + node.catalogue.snapshot.length
  (node.jobs.length + meanwhile.steps.length + 1) * (2 * stores + 4)

/-- Do all jobs, also those that come up meanwhile. -/
def settle (node : Node ν σ) (meanwhile : Interlude ν σ := {}) : Node ν σ :=
  if node.jobs.isEmpty then node else runJobs meanwhile (node.jobBound meanwhile) node

/-- Make a job of a schedule whose time has come. -/
def wakeIfDue (node : Node ν σ) (chore : Chore) (schedule : Schedule) : Node ν σ :=
  match schedule.due? node.timerNow with
  | some series => node.enqueue (.wake chore series)
  | none => node

/-- Make jobs of all recurring work that is due. -/
def wakeDue (node : Node ν σ) : Node ν σ :=
  let woken := node.wakeIfDue .sweep node.sweeping
  let woken := match node.guestSweeping with
    | some schedule => woken.wakeIfDue .guestSweep schedule
    | none => woken
  woken.wakeIfDue .publish node.publishing

/-- Let one millisecond pass. Jobs that have been waiting are done first: they see the new time, but
the delays that they begin count from before it. Then what is due is done. -/
def passMilli (node : Node ν σ) (meanwhile : Interlude ν σ := {}) : Node ν σ :=
  let tick := Duration.millis 1
  let node := { node with now := node.now + (tick : Int), timerLag := tick }.settle meanwhile
  ({ node with timerLag := 0 }.wakeDue).settle meanwhile

/-- Let a number of milliseconds pass. -/
def advance (node : Node ν σ) (count : Nat) (meanwhile : Interlude ν σ := {}) : Node ν σ :=
  match count with
  | 0 => node
  | count + 1 => (node.passMilli meanwhile).advance count meanwhile

end OverlayStore.Node
