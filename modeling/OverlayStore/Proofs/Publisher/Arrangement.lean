import Mathlib.Data.List.Basic
import OverlayStore.Proofs.Publisher.Chronicle

/-!
# The arrangement of a publisher

At any time the tasks of a publisher are some that have been given up and, while a run is in
progress, one more that the run waits for. This arrangement determines the publisher, and every
operation on an arranged publisher leaves an arranged publisher behind.
-/

namespace OverlayStore

namespace Publisher

/-- How far a run has come. -/
structure Run where
  /-- What has been stored. -/
  taken : List Publication
  /-- The task that the run waits for. -/
  task : Task
  /-- What is still to be stored. -/
  rest : List Publication

namespace Run

/-- What the run was begun with. -/
def snapshot (run : Run) : List Publication := run.taken ++ run.task.publication :: run.rest

/-- The run when its task has come to another stage. -/
def atStage (run : Run) (stage : Stage) : Run := { run with task := { run.task with stage } }

end Run

/-- The task that is made of a publication. -/
def freshTask (generation : UInt64) (serial : Nat) (publication : Publication) (node : Contact)
    (now : Time) : Task :=
  { serial, generation, publication, record := .own node publication.key publication.value now }

namespace Task

/-- The task when the network has answered, if it waits for that. -/
def hear (result : Except Error Receipt) (task : Task) : Task :=
  match task.stage with
  | .awaiting => { task with stage := .answered result }
  | _ => task

/-- An answer changes nothing but the stage of a task. -/
theorem exists_hear_eq (result : Except Error Receipt) (task : Task) :
    ∃ stage, task.hear result = { task with stage } := by
  unfold hear
  split
  · exact ⟨.answered result, rfl⟩
  · exact ⟨task.stage, rfl⟩

@[simp]
theorem serial_hear (result : Except Error Receipt) (task : Task) :
    (task.hear result).serial = task.serial := by
  obtain ⟨stage, hhear⟩ := task.exists_hear_eq result
  rw [hhear]

@[simp]
theorem isCalled_hear (result : Except Error Receipt) (task : Task) :
    (task.hear result).isCalled = task.isCalled := by
  unfold hear isCalled
  cases hstage : task.stage <;> simp [hstage]

end Task

/-- The publisher with some tasks that have been given up and with a run in progress or none. -/
def arranged (generation : UInt64) (stale : List Task) (current : Option Run) (nextSerial : Nat) :
    Publisher where
  generation
  pending := current.map Run.rest
  inFlight := current.map fun run => run.task.serial
  tasks := stale ++ (current.map Run.task).toList
  nextSerial

/-- The tasks that have been given up after a halt. -/
def givenUp (stale : List Task) (current : Option Run) : List Task :=
  stale ++ (current.map fun run => { run.task with aborted := true }).toList

section Arranged

variable {generation : UInt64} {stale : List Task} {current : Option Run} {run : Run}
  {nextSerial serial : Nat} {result : Except Error Receipt} {node : Contact} {now : Time}

/-! ## Tasks that have been given up -/

section

variable {publisher : Publisher}

/-- Discarding a task that is not there changes nothing. -/
theorem discard_of_task?_eq_none (hnone : publisher.task? serial = none) :
    publisher.discard serial = publisher := by
  have hsame : (publisher.tasks.filter fun task => task.serial ≠ serial) = publisher.tasks := by
    refine List.filter_eq_self.mpr fun task hmem => ?_
    simpa using List.find?_eq_none.mp hnone task hmem
  rw [discard, hsame]

/-- A task that has been given up is over when it is polled for the first time. -/
theorem begin_of_aborted
    (haborted : ∀ task, publisher.task? serial = some task → task.aborted = true) :
    publisher.begin serial = (none, publisher.discard serial) := by
  unfold begin
  cases htask : publisher.task? serial with
  | none => rw [discard_of_task?_eq_none htask]
  | some task => simp [haborted task htask]

/-- A task that has been given up is over when it is polled again. -/
theorem resume_of_aborted
    (haborted : ∀ task, publisher.task? serial = some task → task.aborted = true) :
    (publisher.resume serial node now).publisher = publisher.discard serial := by
  unfold resume
  cases htask : publisher.task? serial with
  | none => rw [discard_of_task?_eq_none htask]
  | some task => simp [haborted task htask]

/-- The conclusion of a store of another generation is ignored. -/
theorem conclude_of_generation_ne
    (hgeneration : ∀ task, publisher.task? serial = some task →
      publisher.generation ≠ task.generation) :
    (publisher.conclude serial result node now).publisher = publisher.discard serial := by
  unfold conclude
  cases htask : publisher.task? serial with
  | none => rw [discard_of_task?_eq_none htask]
  | some task =>
    have hne : (publisher.discard serial).generation ≠ task.generation := hgeneration task htask
    simp [complete, hne]

/-- A task that has been given up is not concluded with any answer. -/
theorem answer?_of_aborted
    (haborted : ∀ task, publisher.task? serial = some task → task.aborted = true) :
    publisher.answer? serial = none := by
  unfold answer?
  split
  · rename_i htask
    exact absurd (haborted _ htask) Bool.false_ne_true
  · rfl

/-- Going on with publications left makes a task of the first of them. -/
theorem advance_cons {publication : Publication} {rest : List Publication}
    (hpending : publisher.pending = some (publication :: rest)) (taken : List Publication) :
    (publisher.advance node now).publisher =
      arranged publisher.generation publisher.tasks
        (some ⟨taken,
          freshTask publisher.generation publisher.nextSerial publication node now, rest⟩)
        (publisher.nextSerial + 1) := by
  unfold advance
  rw [hpending]
  rfl

/-- Going on without publications left ends the run. -/
theorem advance_nil (hpending : publisher.pending = some []) :
    (publisher.advance node now).publisher =
      arranged publisher.generation publisher.tasks none publisher.nextSerial := by
  unfold advance
  rw [hpending]
  simp [arranged]

/-- A publisher that is ready to go on with a run does not begin another one. -/
theorem tick_of_isRunning (hrunning : publisher.isRunning = true) (snapshot : List Publication) :
    publisher.tick true snapshot node now = { publisher } := by
  simp [tick, hrunning]

theorem tick_nil (publisher : Publisher) : publisher.tick true [] node now = { publisher } := by
  simp [tick]

end

/-! ## Events that concern no run in progress -/

/-- A task that the run in progress does not wait for has been given up. -/
theorem mem_stale_of_task? (hserial : ∀ run, current = some run → run.task.serial ≠ serial)
    {task : Task}
    (htask : (arranged generation stale current nextSerial).task? serial = some task) :
    task ∈ stale ∧ task.serial = serial := by
  have hmem := List.mem_of_find?_eq_some htask
  have hsame : task.serial = serial := by simpa using List.find?_some htask
  rcases List.mem_append.mp hmem with hstale | hcurrent
  · exact ⟨hstale, hsame⟩
  · cases current with
    | none => cases hcurrent
    | some run =>
      rw [List.mem_singleton.mp hcurrent] at hsame
      exact absurd hsame (hserial run rfl)

/-- Discarding a task that the run does not wait for concerns the other tasks only. -/
theorem discard_arranged_of_ne (hserial : ∀ run, current = some run → run.task.serial ≠ serial) :
    (arranged generation stale current nextSerial).discard serial =
      arranged generation (stale.filter fun task => task.serial ≠ serial) current nextSerial := by
  cases current with
  | none => simp [discard, arranged]
  | some run => simp [discard, arranged, hserial run rfl]

/-- Polling such a task for the first time is the end of it, without a call. -/
theorem begin_arranged_of_ne (hserial : ∀ run, current = some run → run.task.serial ≠ serial)
    (hstale : ∀ task ∈ stale, task.aborted = true) :
    (arranged generation stale current nextSerial).begin serial =
      (none, arranged generation (stale.filter fun task => task.serial ≠ serial) current
        nextSerial) := by
  rw [begin_of_aborted fun task htask => hstale task (mem_stale_of_task? hserial htask).1,
    discard_arranged_of_ne hserial]

/-- An answer to such a task is heard by that task only. -/
theorem answer_arranged_of_ne (hserial : ∀ run, current = some run → run.task.serial ≠ serial) :
    (arranged generation stale current nextSerial).answer serial result =
      arranged generation (stale.map fun task =>
        if task.serial = serial then task.hear result else task) current nextSerial := by
  -- the answer is the same change for every task, awaiting or not
  have hanswer : ∀ publisher : Publisher,
      publisher.answer serial result = publisher.modifyTask serial (Task.hear result) :=
    fun _ => rfl
  rw [hanswer]
  cases current with
  | none => simp [modifyTask, arranged]
  | some run => simp [modifyTask, arranged, hserial run rfl]

/-- Polling such a task again is the end of it. -/
theorem resume_arranged_of_ne (hserial : ∀ run, current = some run → run.task.serial ≠ serial)
    (hstale : ∀ task ∈ stale, task.aborted = true) :
    ((arranged generation stale current nextSerial).resume serial node now).publisher =
      arranged generation (stale.filter fun task => task.serial ≠ serial) current nextSerial := by
  rw [resume_of_aborted fun task htask => hstale task (mem_stale_of_task? hserial htask).1,
    discard_arranged_of_ne hserial]

/-- Such a task is not concluded with any answer. -/
theorem answer?_arranged_of_ne (hserial : ∀ run, current = some run → run.task.serial ≠ serial)
    (hstale : ∀ task ∈ stale, task.aborted = true) :
    (arranged generation stale current nextSerial).answer? serial = none :=
  answer?_of_aborted fun task htask => hstale task (mem_stale_of_task? hserial htask).1

/-- The conclusion of such a task is ignored, for it belongs to an older generation. -/
theorem conclude_arranged_of_ne (hserial : ∀ run, current = some run → run.task.serial ≠ serial)
    (hstale : ∀ task ∈ stale, task.generation ≠ generation) :
    ((arranged generation stale current nextSerial).conclude serial result node now).publisher =
      arranged generation (stale.filter fun task => task.serial ≠ serial) current nextSerial := by
  rw [conclude_of_generation_ne, discard_arranged_of_ne hserial]
  intro task htask
  exact (hstale task (mem_stale_of_task? hserial htask).1).symm

/-! ## Events that concern a run -/

/-- A halt gives the task of the run up and begins a new generation. -/
theorem halt_arranged (hstale : ∀ task ∈ stale, task.aborted = true) :
    (arranged generation stale current nextSerial).halt.publisher =
      arranged (generation + 1) (givenUp stale current) none nextSerial := by
  cases current with
  | none => simp [halt, arranged, givenUp]
  | some run =>
    -- the halt gives up every task with the serial number, but the others are given up already
    have hsame : (stale.map fun task =>
        if task.serial = run.task.serial then { task with aborted := true } else task) = stale := by
      refine (List.map_congr_left fun task htask => ?_).trans (List.map_id _)
      have haborted := hstale task htask
      split
      · rw [← haborted]
        rfl
      · rfl
    simp [halt, modifyTask, arranged, givenUp, hsame]

/-- A turn without a run in progress begins one with the first publication of the snapshot. -/
theorem tick_arranged_start (publication : Publication) (rest : List Publication) :
    ((arranged generation stale none nextSerial).tick true (publication :: rest) node
        now).publisher =
      arranged (generation + 1) stale
        (some ⟨[], freshTask (generation + 1) nextSerial publication node now, rest⟩)
        (nextSerial + 1) := by
  have htick : (arranged generation stale none nextSerial).tick true (publication :: rest) node
      now = { arranged generation stale none nextSerial with
        generation := generation + 1, pending := some (publication :: rest) }.advance node now := by
    simp [tick, isRunning, arranged]
  rw [htick, advance_cons rfl []]
  simp [arranged]

section

variable (hstale : ∀ task ∈ stale, task.serial ≠ run.task.serial)

include hstale

/-- The task of the run is found by its serial number. -/
theorem task?_arranged_current :
    (arranged generation stale (some run) nextSerial).task? run.task.serial = some run.task := by
  have hnone : (stale.find? fun task => task.serial = run.task.serial) = none := by
    simpa using hstale
  simp [task?, arranged, hnone]

/-- Discarding the task of the run leaves the other tasks alone. -/
theorem discard_arranged_current :
    (arranged generation stale (some run) nextSerial).discard run.task.serial =
      { arranged generation stale none nextSerial with
        pending := some run.rest, inFlight := some run.task.serial } := by
  have hsame : (stale.filter fun task => task.serial ≠ run.task.serial) = stale :=
    List.filter_eq_self.mpr fun task htask => decide_eq_true (hstale task htask)
  -- until the run goes on, it is pending without a task
  rw [discard, arranged]
  simp only [List.filter_append, hsame]
  simp [arranged]

theorem modifyTask_arranged_current (change : Task → Task)
    (hserial : (change run.task).serial = run.task.serial) :
    (arranged generation stale (some run) nextSerial).modifyTask run.task.serial change =
      arranged generation stale (some { run with task := change run.task }) nextSerial := by
  have hsame : (stale.map fun task =>
      if task.serial = run.task.serial then change task else task) = stale := by
    refine (List.map_congr_left fun task htask => ?_).trans (List.map_id _)
    exact if_neg (hstale task htask)
  simp [modifyTask, arranged, hsame, hserial]

/-- Polling the task of the run for the first time calls the network. -/
theorem begin_arranged_queued (haborted : run.task.aborted = false)
    (hstage : run.task.stage = .queued) :
    (arranged generation stale (some run) nextSerial).begin run.task.serial =
      (some run.task.record,
        arranged generation stale (some (run.atStage .awaiting)) nextSerial) := by
  unfold begin
  rw [task?_arranged_current hstale]
  simp only [haborted, hstage, Bool.false_eq_true, if_false]
  rw [modifyTask_arranged_current hstale _ rfl]
  rfl

/-- Once the network has been called, beginning the task again does nothing. -/
theorem begin_arranged_called (haborted : run.task.aborted = false)
    (hcalled : run.task.isCalled = true) :
    (arranged generation stale (some run) nextSerial).begin run.task.serial =
      (none, arranged generation stale (some run) nextSerial) := by
  unfold begin
  rw [task?_arranged_current hstale]
  unfold Task.isCalled at hcalled
  cases hstage : run.task.stage with
  | queued => simp [hstage] at hcalled
  | awaiting => simp [haborted, hstage]
  | answered result => simp [haborted, hstage]

/-- The task of the run hears its answer. -/
theorem answer_arranged_current :
    (arranged generation stale (some run) nextSerial).answer run.task.serial result =
      arranged generation stale (some { run with task := run.task.hear result }) nextSerial :=
  modifyTask_arranged_current hstale (Task.hear result) (Task.serial_hear result run.task)

/-- The task of the run is to be concluded with the answer that it has heard. -/
theorem answer?_arranged_current (haborted : run.task.aborted = false) :
    (arranged generation stale (some run) nextSerial).answer? run.task.serial =
      match run.task.stage with
      | .answered result => some result
      | _ => none := by
  unfold answer?
  rw [task?_arranged_current hstale]
  obtain ⟨taken, ⟨serial, generation, publication, record, aborted, stage⟩, rest⟩ := run
  cases haborted
  cases stage <;> rfl

/-- Polling the task of the run before its answer has come does nothing. -/
theorem resume_arranged_of_answer?_eq_none (haborted : run.task.aborted = false)
    (hanswer : (arranged generation stale (some run) nextSerial).answer? run.task.serial = none) :
    ((arranged generation stale (some run) nextSerial).resume run.task.serial node now).publisher =
      arranged generation stale (some run) nextSerial := by
  rw [answer?_arranged_current hstale haborted] at hanswer
  unfold resume
  rw [task?_arranged_current hstale]
  cases hstage : run.task.stage with
  | queued => simp [haborted, hstage]
  | awaiting => simp [haborted, hstage]
  | answered result => simp [hstage] at hanswer

/-- The conclusion of the store that the run waits for is taken into the run. -/
theorem conclude_arranged_current (hgeneration : run.task.generation = generation) :
    ((arranged generation stale (some run) nextSerial).conclude run.task.serial result node
        now).publisher =
      match result with
      | .ok _ => ({ arranged generation stale none nextSerial with
          pending := some run.rest, inFlight := some run.task.serial }.advance node now).publisher
      | .error _ => arranged generation stale none nextSerial := by
  unfold conclude
  rw [task?_arranged_current hstale, discard_arranged_current hstale]
  simp only [complete, isRunning, arranged, hgeneration]
  cases result <;> simp

/-- What is stamped is the publication of the task, if its store succeeded. -/
theorem stored_conclude_arranged_current (hgeneration : run.task.generation = generation) :
    ((arranged generation stale (some run) nextSerial).conclude run.task.serial result node
        now).stored = result.toOption.map fun receipt => (run.task.publication, receipt) := by
  unfold conclude
  rw [task?_arranged_current hstale, discard_arranged_current hstale]
  simp only [complete, isRunning, arranged, hgeneration]
  cases result <;> simp [Except.toOption]

/-- After a success the run goes on with the next publication. -/
theorem conclude_arranged_ok_cons (hgeneration : run.task.generation = generation)
    {publication : Publication} {rest : List Publication} (hrest : run.rest = publication :: rest)
    (receipt : Receipt) :
    ((arranged generation stale (some run) nextSerial).conclude run.task.serial (.ok receipt) node
        now).publisher =
      arranged generation stale
        (some ⟨run.taken ++ [run.task.publication],
          freshTask generation nextSerial publication node now, rest⟩)
        (nextSerial + 1) := by
  rw [conclude_arranged_current hstale hgeneration, hrest]
  dsimp only
  rw [advance_cons rfl (run.taken ++ [run.task.publication])]
  simp [arranged]

/-- After its last success the run is over. -/
theorem conclude_arranged_ok_nil (hgeneration : run.task.generation = generation)
    (hrest : run.rest = []) (receipt : Receipt) :
    ((arranged generation stale (some run) nextSerial).conclude run.task.serial (.ok receipt) node
        now).publisher =
      arranged generation stale none nextSerial := by
  rw [conclude_arranged_current hstale hgeneration, hrest]
  dsimp only
  rw [advance_nil rfl]
  simp [arranged]

end

end Arranged

end Publisher

end OverlayStore
