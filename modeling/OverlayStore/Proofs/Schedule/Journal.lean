import OverlayStore.Proofs.Table
import OverlayStore.Scheduler

/-!
# Journals of schedules

A schedule keeps its live series only. A journal keeps every series that was ever begun, as a task
of its own, beside the handle that starting and stopping go by, and it notes when series are begun,
when the work is stopped, and what the tasks reach when they are woken, in whatever order that is.

The journal and the schedule tell the same story (`Journal.Follows`): at every moment the live
series of the schedule is the only task that is not over (`Follows.size_liveTasks`), and waking any
of the tasks achieves what polling the schedule does (`Follows.milestones`).
-/

namespace OverlayStore

namespace Scheduler.Task

/-- What happens when a task goes on. -/
def milestones (task : Task) (now : Time) : List Milestone :=
  task.phase.elim [] fun phase => (task.timetable.poll now phase).1

/-- A task that goes on gets where its timetable takes it. -/
theorem poll_snd (task : Task) (now : Time) :
    (task.poll now).2 =
      { task with phase := task.phase.map fun phase => (task.timetable.poll now phase).2 } := by
  unfold poll
  split
  · rename_i hphase
    rw [hphase, Option.map_none, ← hphase]
  · rename_i phase hphase
    rw [hphase, Option.map_some]

end Scheduler.Task

namespace Schedule

/-- What is noted of recurring work. -/
inductive Entry where
  /-- The series with a number was begun. -/
  | begun (number : Nat)
  /-- The work was stopped. -/
  | stopped
  /-- Something happened in the series with a number. -/
  | reached (number : Nat) (milestone : Milestone)

/-- The series that the entry says was begun. -/
def Entry.begun? : Entry → Option Nat
  | .begun number => some number
  | _ => none

/-- Every series of recurring work that was begun, and what has happened. -/
structure Journal where
  /-- The name of the work. -/
  name : String
  /-- The delays of the work. -/
  timetable : Timetable
  /-- The tasks of all series, also of those that are over. -/
  tasks : Table Nat Scheduler.Task := .empty
  /-- The series that ends when the work is stopped. -/
  handle : Option Nat := none
  /-- What has happened and when, the latest last. -/
  log : List (Time × Entry) := []

/-- The phase of the series with a number, if it is the live one. -/
def phase? (schedule : Schedule) (number : Nat) : Option Phase :=
  schedule.live.bind fun live => if live.1 = number then some live.2 else none

/-- What a poll reports are the milestones of the series that is polled. -/
theorem poll_fst (schedule : Schedule) (number : Nat) (now : Time) :
    (schedule.poll number now).1 =
      (schedule.phase? number).elim [] fun phase => (schedule.timetable.poll now phase).1 := by
  unfold poll phase?
  cases schedule.live with
  | none => rfl
  | some live =>
    dsimp only [Option.bind_some]
    split <;> rfl

/-- Polling moves on the live series only. -/
theorem poll_snd (schedule : Schedule) (number : Nat) (now : Time) :
    (schedule.poll number now).2 = { schedule with
      live := schedule.live.map fun live =>
        if live.1 = number then (live.1, (schedule.timetable.poll now live.2).2) else live } := by
  obtain ⟨timetable, _ | ⟨serial, phase⟩⟩ := schedule
  · rfl
  · by_cases hserial : serial = number <;> simp [poll, hserial]

/-- A poll takes its own series further, and no other. -/
theorem phase?_poll (schedule : Schedule) (number other : Nat) (now : Time) :
    (schedule.poll number now).2.phase? other =
      (schedule.phase? other).map fun phase =>
        if other = number then (schedule.timetable.poll now phase).2 else phase := by
  obtain ⟨timetable, _ | ⟨serial, phase⟩⟩ := schedule
  · rfl
  · rw [poll_snd]
    by_cases hserial : serial = number <;> by_cases hother : serial = other <;>
      simp_all [phase?]

namespace Journal

/-! ## What can happen -/

/-- Change the task of the series with a number. -/
def amend (journal : Journal) (number : Nat) (change : Scheduler.Task → Scheduler.Task) :
    Table Nat Scheduler.Task :=
  journal.tasks.map fun own task => if own = number then change task else task

/-- What happens when the series with a number is woken. -/
def milestones (journal : Journal) (number : Nat) (now : Time) : List Milestone :=
  (journal.tasks.find? number).elim [] fun task => task.milestones now

/-- The work is started: a new series is begun, unless there is one to be stopped. -/
def start (journal : Journal) (number : Nat) (now : Time) : Journal :=
  if journal.handle.isSome then journal
  else
    { journal with
      tasks := journal.tasks.insert number { name := journal.name, timetable := journal.timetable }
      handle := some number
      log := journal.log ++ [(now, .begun number)] }

/-- The work is stopped. -/
def stop (journal : Journal) (now : Time) : Journal :=
  { journal with
    tasks := journal.handle.elim journal.tasks fun number => journal.amend number .cancel
    handle := none
    log := journal.log ++ [(now, .stopped)] }

/-- The series with a number is woken, whether it is over or not. -/
def wake (journal : Journal) (number : Nat) (now : Time) : Journal :=
  { journal with
    tasks := journal.amend number fun task => (task.poll now).2
    log := journal.log ++ (journal.milestones number now).map fun milestone =>
      (now, .reached number milestone) }

/-- Runs take another time from now on. -/
def pace (journal : Journal) (busy : Duration) : Journal :=
  { journal with
    timetable := { journal.timetable with busy }
    tasks := journal.tasks.map fun _ task =>
      { task with timetable := { task.timetable with busy } } }

/-- The series that were begun, in order. -/
def begun (journal : Journal) : List Nat := journal.log.filterMap fun entry => entry.2.begun?

/-! ## The tasks and the schedule -/

/-- The tasks that are not over. -/
def liveTasks (journal : Journal) : Table Nat Scheduler.Task :=
  journal.tasks.filter fun _ task => task.phase.isSome

/-- Where the task of a series stands, if there is one that is not over. -/
def phase? (journal : Journal) (number : Nat) : Option Phase :=
  (journal.tasks.find? number).bind Scheduler.Task.phase

/-- Only the task with the number is amended. -/
theorem find?_amend (journal : Journal) (number : Nat) (change : Scheduler.Task → Scheduler.Task)
    (other : Nat) :
    (journal.amend number change).find? other =
      (journal.tasks.find? other).map fun task =>
        if other = number then change task else task :=
  Table.find?_map ..

theorem keys_amend (journal : Journal) (number : Nat)
    (change : Scheduler.Task → Scheduler.Task) :
    (journal.amend number change).keys = journal.tasks.keys :=
  Table.keys_map ..

/-! ### The series that have a task -/

/-- A start adds a task at the end. -/
theorem keys_start {journal : Journal} {number : Nat} (hhandle : journal.handle = none)
    (hnew : journal.tasks.find? number = none) (now : Time) :
    (journal.start number now).tasks.keys = journal.tasks.keys ++ [number] := by
  rw [start, if_neg (by simp [hhandle])]
  exact Table.keys_insert_of_new hnew _

theorem keys_stop (journal : Journal) (now : Time) :
    (journal.stop now).tasks.keys = journal.tasks.keys := by
  rw [stop]
  cases journal.handle with
  | none => rfl
  | some number => exact journal.keys_amend number .cancel

theorem keys_wake (journal : Journal) (number : Nat) (now : Time) :
    (journal.wake number now).tasks.keys = journal.tasks.keys :=
  journal.keys_amend number _

theorem keys_pace (journal : Journal) (busy : Duration) :
    (journal.pace busy).tasks.keys = journal.tasks.keys :=
  Table.keys_map ..

/-! ### The live series -/

/-- The journal tells the story of a schedule. -/
structure Follows (journal : Journal) (schedule : Schedule) : Prop where
  timetable : journal.timetable = schedule.timetable
  handle : journal.handle = schedule.live.map Prod.fst
  phase : ∀ number, journal.phase? number = schedule.phase? number
  paced : ∀ number task, journal.tasks.find? number = some task →
    task.timetable = journal.timetable

variable {journal : Journal} {schedule : Schedule}

/-- The journal of a new schedule follows it. -/
theorem follows_fresh (name : String) (timetable : Timetable) :
    Follows { name, timetable } { timetable } where
  timetable := rfl
  handle := rfl
  phase _ := rfl
  paced _ _ h := by cases h

/-- There is a series that can be stopped if the schedule is running. -/
theorem Follows.isSome_handle (h : journal.Follows schedule) :
    journal.handle.isSome = schedule.isRunning := by
  rw [h.handle, Option.isSome_map, isRunning]

/-- Only the series that can be stopped is not over. -/
theorem Follows.phase?_eq_none (h : journal.Follows schedule) {number : Nat}
    (hne : journal.handle ≠ some number) : journal.phase? number = none := by
  rw [h.phase, Schedule.phase?, Option.bind_eq_none_iff]
  intro live hlive
  refine if_neg fun hnumber => hne ?_
  rw [h.handle, hlive, Option.map_some, hnumber]

/-- There is at most one such series. -/
theorem Follows.eq_of_phase? (h : journal.Follows schedule) {number other : Nat}
    {phase next : Phase} (hphase : journal.phase? number = some phase)
    (hnext : journal.phase? other = some next) : number = other := by
  have hhandle : ∀ {own : Nat} {phase : Phase}, journal.phase? own = some phase →
      journal.handle = some own := fun hown =>
    not_not.mp fun hne => Option.some_ne_none _ (hown.symm.trans (h.phase?_eq_none hne))
  exact Option.some.inj ((hhandle hphase).symm.trans (hhandle hnext))

/-- Starting begins a series with a number that no series has had before. -/
theorem Follows.start (h : journal.Follows schedule) {number : Nat}
    (hnew : journal.tasks.find? number = none) (now : Time) :
    (journal.start number now).Follows (schedule.start number) := by
  unfold Journal.start Schedule.start
  cases hlive : schedule.live with
  | some live =>
    rw [h.handle, hlive]
    exact h
  | none =>
    have hhandle : journal.handle = none := by rw [h.handle, hlive]; rfl
    rw [hhandle]
    refine ⟨h.timetable, rfl, fun other => ?_, fun other task hfound => ?_⟩
    · -- the new series stands at its beginning on both sides, and all others are over
      by_cases hother : other = number
      · subst hother
        simp [Journal.phase?, Schedule.phase?]
      · have hnone : journal.phase? other = none := h.phase?_eq_none (by simp [hhandle])
        simp_all [Journal.phase?, Schedule.phase?, Ne.symm hother]
    · simp only [Option.isSome_none, Bool.false_eq_true, if_false, Table.find?_insert] at hfound ⊢
      split at hfound
      · cases hfound
        rfl
      · exact h.paced other task hfound

/-- The journal follows a stop. -/
theorem Follows.stop (h : journal.Follows schedule) (now : Time) :
    (journal.stop now).Follows schedule.stop := by
  cases hhandle : journal.handle with
  | none =>
    have htasks : (journal.stop now).tasks = journal.tasks := by rw [Journal.stop, hhandle]; rfl
    refine ⟨h.timetable, rfl, fun number => ?_, fun number task hfound => ?_⟩
    · rw [Journal.phase?, htasks]
      exact h.phase?_eq_none (by simp [hhandle])
    · exact h.paced number task (htasks ▸ hfound)
  | some serial =>
    have htasks : (journal.stop now).tasks = journal.amend serial .cancel := by
      rw [Journal.stop, hhandle]; rfl
    refine ⟨h.timetable, rfl, fun number => ?_, fun number task hfound => ?_⟩
    · -- the task that the handle is for is cancelled, and all others are over already
      rw [Journal.phase?, htasks, find?_amend]
      by_cases hnumber : number = serial
      · subst hnumber
        rw [show schedule.stop.phase? number = none from rfl]
        cases journal.tasks.find? number <;> simp [Scheduler.Task.cancel]
      · simp only [if_neg hnumber, Option.map_id']
        exact h.phase?_eq_none (by simpa [hhandle] using Ne.symm hnumber)
    · rw [htasks, find?_amend] at hfound
      obtain ⟨task, hold, rfl⟩ := Option.map_eq_some_iff.mp hfound
      split <;> exact h.paced number task hold

/-- What a series reaches depends only on where its task stands. -/
theorem Follows.milestones_eq (h : journal.Follows schedule) (number : Nat) (now : Time) :
    journal.milestones number now =
      (journal.phase? number).elim [] fun phase => (journal.timetable.poll now phase).1 := by
  rw [Journal.milestones, Journal.phase?]
  cases hfound : journal.tasks.find? number with
  | none => rfl
  | some task =>
    rw [Option.elim_some, Option.bind_some, Scheduler.Task.milestones, h.paced number task hfound]

/-- Waking a task and polling the schedule achieve the same. -/
theorem Follows.milestones (h : journal.Follows schedule) (number : Nat) (now : Time) :
    journal.milestones number now = (schedule.poll number now).1 := by
  rw [h.milestones_eq, h.phase, h.timetable, Schedule.poll_fst]

/-- The journal follows a wake-up of any series. -/
theorem Follows.wake (h : journal.Follows schedule) (number : Nat) (now : Time) :
    (journal.wake number now).Follows (schedule.poll number now).2 where
  timetable := by
    rw [Schedule.poll_snd]
    exact h.timetable
  handle := by
    rw [Schedule.poll_snd, Journal.wake, h.handle, Option.map_map]
    cases schedule.live with
    | none => rfl
    | some live => simp only [Option.map_some, Function.comp_apply]; split <;> rfl
  phase other := by
    rw [phase?_poll, ← h.phase, Journal.phase?, Journal.phase?, Journal.wake, find?_amend]
    cases hfound : journal.tasks.find? other with
    | none => rfl
    | some task =>
      rw [Option.map_some, Option.bind_some, Option.bind_some, Scheduler.Task.poll_snd,
        h.paced other task hfound, h.timetable]
      split
      · rfl
      · exact Option.map_id'.symm
  paced other task hfound := by
    rw [Journal.wake, find?_amend] at hfound
    obtain ⟨task, hold, rfl⟩ := Option.map_eq_some_iff.mp hfound
    rw [Scheduler.Task.poll_snd]
    split <;> exact h.paced other task hold

/-- A wake moves on the task of the series where the timetable takes it, and leaves all others. -/
theorem Follows.phase?_wake (h : journal.Follows schedule) (number : Nat) (now : Time)
    (other : Nat) :
    (journal.wake number now).phase? other =
      (journal.phase? other).map fun phase =>
        if other = number then (journal.timetable.poll now phase).2 else phase := by
  rw [(h.wake number now).phase, phase?_poll, h.phase, h.timetable]

/-- The journal follows a change of pace. -/
theorem Follows.pace (h : journal.Follows schedule) (busy : Duration) :
    (journal.pace busy).Follows
      { schedule with timetable := { schedule.timetable with busy } } where
  timetable := by rw [Journal.pace, h.timetable]
  handle := h.handle
  phase number := by
    have hphase := h.phase number
    rw [Journal.phase?, Journal.pace, Table.find?_map, Option.bind_map]
    exact hphase
  paced number task hfound := by
    rw [Journal.pace, Table.find?_map] at hfound
    obtain ⟨task, hold, rfl⟩ := Option.map_eq_some_iff.mp hfound
    rw [h.paced number task hold]
    rfl

/-- The tasks that are not over are those with a phase. -/
theorem mem_keys_liveTasks (journal : Journal) (number : Nat) :
    number ∈ journal.liveTasks.keys ↔ (journal.phase? number).isSome := by
  rw [Table.mem_keys_iff, liveTasks, Table.find?_filter, phase?]
  cases journal.tasks.find? number <;> simp

/-- The only task that is not over is the one that can be stopped. -/
theorem Follows.keys_liveTasks (h : journal.Follows schedule) :
    journal.liveTasks.keys = journal.handle.toList := by
  have hmem : ∀ number, number ∈ journal.liveTasks.keys ↔ number ∈ journal.handle.toList := by
    intro number
    rw [mem_keys_liveTasks, h.phase, Schedule.phase?, h.handle, Option.mem_toList]
    cases schedule.live with
    | none => simp
    | some live => by_cases hlive : live.1 = number <;> simp [hlive]
  -- a list without repetition is known from its members, if there is one at most
  cases hhandle : journal.handle with
  | none =>
    refine List.eq_nil_iff_forall_not_mem.mpr fun number hnumber => ?_
    rw [hmem, hhandle] at hnumber
    cases hnumber
  | some serial =>
    rw [hhandle] at hmem
    exact List.perm_singleton.mp
      ((List.perm_ext_iff_of_nodup journal.liveTasks.nodup (List.nodup_singleton serial)).mpr hmem)

/-- There is one task that is not over if the schedule is running, and none if it is not. -/
theorem Follows.size_liveTasks (h : journal.Follows schedule) :
    journal.liveTasks.size = if schedule.isRunning then 1 else 0 := by
  have hsize : journal.liveTasks.size = journal.liveTasks.keys.length := List.length_map .. |>.symm
  rw [hsize, h.keys_liveTasks, h.handle, isRunning]
  cases schedule.live <;> rfl

end Journal

end Schedule

end OverlayStore
