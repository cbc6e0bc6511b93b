import OverlayStore.Node.Control
import OverlayStore.Node.Run
import OverlayStore.Proofs.Schedule.Timing

/-!
# One schedule at a time

The duties of a node are the sweeps of its database and the turns of its publisher. Both can be
started and stopped at any time, in any order and as often as one likes, and their series of runs
can be woken at any time, also those that are over. A `Watch` keeps a journal of one of the duties
meanwhile, with all series that were ever begun.

For every history (`Watch.one_schedule_at_a_time`), the duty has one task that is not over if it is
running and none otherwise, it is done exactly where that task starts a run, and every run starts
after a start that is in effect, as late as its delays ask for.

That what a node does while time passes is such a history is in `OverlayStore.Proofs.Node.Passage`.
Times are those of the timers, which may be behind the time of the node.
-/

namespace OverlayStore

namespace Node

variable {ν σ : Type}

/-! ## Duties -/

/-- What a node does again and again on its own account. -/
inductive Duty where
  /-- It sweeps its database. -/
  | sweep
  /-- It takes the publisher's turn. -/
  | publish
  deriving DecidableEq

namespace Duty

/-- The name of the duty. -/
def name : Duty → String
  | sweep => "database-cleaner"
  | publish => "storable-publisher"

/-- The schedule of the duty. -/
def schedule (node : Node ν σ) : Duty → Schedule
  | sweep => node.sweeping
  | publish => node.publishing

/-- Put another schedule in place of the duty's. -/
def reschedule (node : Node ν σ) (schedule : Schedule) : Duty → Node ν σ
  | sweep => { node with sweeping := schedule }
  | publish => { node with publishing := schedule }

/-- Schedule the duty. -/
def start (node : Node ν σ) : Duty → Except StartFault Unit × Node ν σ
  | sweep => (.ok (), node.startSweeper)
  | publish => node.startPublisher

/-- End the duty's schedule. -/
def stop (node : Node ν σ) : Duty → Node ν σ
  | sweep => node.stopSweeper
  | publish => node.stopPublisher

variable [Network ν] [Source σ]

/-- Let a series of the duty go on. -/
def wake (node : Node ν σ) (number : Nat) : Duty → Node ν σ
  | sweep => node.wakeSweeper number
  | publish => node.wakePublisher number

/-- Do the duty now. -/
def perform (node : Node ν σ) : Duty → Node ν σ
  | sweep => node.sweep.2
  | publish => node.publish

end Duty

/-- A node whose duties have not been scheduled yet. -/
def unscheduled (node : Node ν σ) : Node ν σ :=
  { node with
    sweeping := { timetable := node.sweeping.timetable }
    publishing := { timetable := node.publishing.timetable } }

/-! ## Events -/

/-- What can happen to a node, as far as its duties are concerned. -/
inductive DutyEvent (ν σ : Type) where
  /-- A duty is started. -/
  | start (duty : Duty)
  /-- A duty is stopped. -/
  | stop (duty : Duty)
  /-- A series of a duty is woken, whether it is over or not. -/
  | wake (duty : Duty) (number : Nat)
  /-- Time passes by the timers, which are behind by `lag` from now on. -/
  | pass (span lag : Duration)
  /-- A duty takes another time from now on. -/
  | pace (duty : Duty) (busy : Duration)
  /-- All else about the node is another from now on. -/
  | change (other : Node ν σ)

/-- What led from one node to the other is no concern of the schedules: the time and the schedules
are the same, and no number of a series is free again. -/
structure Spares (node after : Node ν σ) : Prop where
  now : after.now = node.now
  timerLag : after.timerLag = node.timerLag
  sweeping : after.sweeping = node.sweeping
  publishing : after.publishing = node.publishing
  series : node.nextSeries ≤ after.nextSeries

namespace Spares

protected theorem refl (node : Node ν σ) : node.Spares node := ⟨rfl, rfl, rfl, rfl, Nat.le_refl _⟩

/-- Two steps that are no concern of the schedules are none together. -/
protected theorem trans {node middle after : Node ν σ} (h : node.Spares middle)
    (h' : middle.Spares after) : node.Spares after where
  now := h'.now.trans h.now
  timerLag := h'.timerLag.trans h.timerLag
  sweeping := h'.sweeping.trans h.sweeping
  publishing := h'.publishing.trans h.publishing
  series := Nat.le_trans h.series h'.series

variable {node after : Node ν σ}

theorem timerNow (h : node.Spares after) : after.timerNow = node.timerNow := by
  rw [Node.timerNow, Node.timerNow, h.now, h.timerLag]

theorem schedule (h : node.Spares after) (duty : Duty) :
    duty.schedule after = duty.schedule node := by
  cases duty with
  | sweep => exact h.sweeping
  | publish => exact h.publishing

end Spares

/-- A turn of the publisher is no concern of the schedules. -/
theorem spares_applyTurn (node : Node ν σ) (turn : Publisher.Turn) :
    node.Spares (node.applyTurn turn) := by
  unfold applyTurn
  cases turn.stored <;> cases turn.task <;> exact ⟨rfl, rfl, rfl, rfl, Nat.le_refl _⟩

/-! ## What events do to the schedules -/

namespace Duty

/-- Only the duty's own schedule is replaced. -/
theorem schedule_reschedule (node : Node ν σ) (duty own : Duty) (schedule : Schedule) :
    own.schedule (duty.reschedule node schedule) =
      if own = duty then schedule else own.schedule node := by
  cases duty <;> cases own <;> rfl

theorem timerNow_reschedule (node : Node ν σ) (duty : Duty) (schedule : Schedule) :
    (duty.reschedule node schedule).timerNow = node.timerNow := by
  cases duty <;> rfl

theorem nextSeries_reschedule (node : Node ν σ) (duty : Duty) (schedule : Schedule) :
    (duty.reschedule node schedule).nextSeries = node.nextSeries := by
  cases duty <;> rfl

/-- A start changes nothing, because the duty is running or the start is refused, or it begins a
series with the next number. -/
theorem start_cases (node : Node ν σ) (duty : Duty) :
    (duty.start node).2 = node ∧
        ((duty.start node).1 = .ok () → (duty.schedule node).isRunning = true) ∨
      (duty.start node).1 = .ok () ∧ (duty.schedule node).isRunning = false ∧
        (duty.reschedule node ((duty.schedule node).start node.nextSeries)).Spares
          (duty.start node).2 ∧
        node.nextSeries < (duty.start node).2.nextSeries := by
  cases duty with
  | sweep =>
    cases hrunning : node.sweeping.isRunning with
    | true => exact .inl ⟨by simp [start, startSweeper, hrunning], fun _ => hrunning⟩
    | false =>
      refine .inr ⟨rfl, hrunning, ?_⟩
      simp only [start, startSweeper, hrunning, reschedule, schedule, enqueue]
      exact ⟨⟨rfl, rfl, rfl, rfl, Nat.le_succ _⟩, Nat.lt_succ_self _⟩
  | publish =>
    cases hrunning : node.publishing.isRunning with
    | true => exact .inl ⟨by simp [start, startPublisher, hrunning], fun _ => hrunning⟩
    | false =>
      -- a publisher in the middle of a run refuses to be started
      cases hrun : node.publisher.isRunning with
      | true =>
        exact .inl ⟨by simp [start, startPublisher, hrunning, hrun],
          fun hok => by simp [start, startPublisher, hrunning, hrun] at hok⟩
      | false =>
        refine .inr ⟨by simp [start, startPublisher, hrunning, hrun], hrunning, ?_⟩
        simp only [start, startPublisher, hrunning, hrun, reschedule, schedule, enqueue]
        exact ⟨⟨rfl, rfl, rfl, rfl, Nat.le_succ _⟩, Nat.lt_succ_self _⟩

/-- A stop ends the duty's schedule, and all else that it does is no concern of the schedules. -/
theorem spares_stop (node : Node ν σ) (duty : Duty) :
    (duty.reschedule node (duty.schedule node).stop).Spares (duty.stop node) := by
  cases duty with
  | sweep => exact .refl _
  | publish => exact spares_applyTurn _ _

variable [Network ν] [Source σ]

theorem spares_perform (node : Node ν σ) (duty : Duty) : node.Spares (duty.perform node) := by
  cases duty with
  | sweep => exact ⟨rfl, rfl, rfl, rfl, Nat.le_refl _⟩
  | publish => exact spares_applyTurn _ _

/-- A duty is done where a run of its live series starts. -/
theorem wake_eq (node : Node ν σ) (duty : Duty) (number : Nat) :
    duty.wake node number =
      let polled := (duty.schedule node).poll number node.timerNow
      if polled.1.contains .started then duty.perform (duty.reschedule node polled.2)
      else duty.reschedule node polled.2 := by
  cases duty <;> rfl

/-- Waking a series takes the duty's schedule further, and all else that it does is no concern of
the schedules. -/
theorem spares_wake (node : Node ν σ) (duty : Duty) (number : Nat) :
    (duty.reschedule node ((duty.schedule node).poll number node.timerNow).2).Spares
      (duty.wake node number) := by
  rw [wake_eq]
  dsimp only
  split
  · exact duty.spares_perform _
  · exact .refl _

end Duty

variable [Network ν] [Source σ]

/-- The node after an event. -/
def DutyEvent.apply (node : Node ν σ) : DutyEvent ν σ → Node ν σ
  | .start duty => (duty.start node).2
  | .stop duty => duty.stop node
  | .wake duty number => duty.wake node number
  | .pass span lag => { node with
      now := node.timerNow + (span : Int) + (lag : Int), timerLag := lag }
  | .pace duty busy =>
    let schedule := duty.schedule node
    duty.reschedule node { schedule with timetable := { schedule.timetable with busy } }
  | .change other => { other with
      now := node.now
      timerLag := node.timerLag
      sweeping := node.sweeping
      publishing := node.publishing
      nextSeries := max node.nextSeries other.nextSeries }

end Node

/-- A node and the journal of one of its duties. -/
structure Watch (ν σ : Type) where
  /-- The node. -/
  node : Node ν σ
  /-- The journal of the duty. -/
  journal : Schedule.Journal

namespace Watch

open Node Schedule

variable {ν σ : Type}

/-- The watch of a duty before anything has happened. -/
def initial (duty : Duty) (node : Node ν σ) : Watch ν σ where
  node := node.unscheduled
  journal := { name := duty.name, timetable := (duty.schedule node).timetable }

/-! ## What every event preserves -/

/-- What holds of a watch at every moment. -/
structure Sound (duty : Duty) (watch : Watch ν σ) : Prop where
  follows : watch.journal.Follows (duty.schedule watch.node)
  orderly : watch.journal.Orderly watch.node.timerNow
  /-- The next series has a number of its own. -/
  numbered : ∀ number ∈ watch.journal.tasks.keys, number < watch.node.nextSeries

/-- The watch is sound at the start. -/
theorem sound_initial (duty : Duty) (node : Node ν σ) : (initial duty node).Sound duty where
  follows := by cases duty <;> exact Journal.follows_fresh ..
  orderly := Journal.orderly_fresh ..
  numbered _ h := by cases h

variable {duty own : Duty} {watch : Watch ν σ}

/-- The next series has no task yet. -/
theorem Sound.find?_nextSeries (h : watch.Sound duty) :
    watch.journal.tasks.find? watch.node.nextSeries = none := by
  refine Option.eq_none_iff_forall_ne_some.mpr fun task hfound => ?_
  exact Nat.lt_irrefl _ (h.numbered _ ((Table.mem_keys_iff _ _).mpr ⟨task, hfound⟩))

/-- Where no series is added, the numbers stay in order. -/
theorem Sound.numbered_of_spares (h : watch.Sound duty) {schedule : Schedule} {node : Node ν σ}
    {journal : Journal} (hspares : (own.reschedule watch.node schedule).Spares node)
    (hkeys : journal.tasks.keys = watch.journal.tasks.keys) :
    ∀ number ∈ journal.tasks.keys, number < node.nextSeries := by
  have hle := hspares.series
  rw [Duty.nextSeries_reschedule] at hle
  rw [hkeys]
  exact fun number hmem => Nat.lt_of_lt_of_le (h.numbered number hmem) hle

/-- What concerns the other duty leaves a watch sound. -/
theorem Sound.of_other (h : watch.Sound duty) (hne : own ≠ duty) {schedule : Schedule}
    {node : Node ν σ} (hspares : (own.reschedule watch.node schedule).Spares node) :
    Sound duty { watch with node } where
  follows := by
    rw [hspares.schedule, Duty.schedule_reschedule, if_neg (Ne.symm hne)]
    exact h.follows
  orderly := by
    rw [hspares.timerNow, Duty.timerNow_reschedule]
    exact h.orderly
  numbered := h.numbered_of_spares hspares rfl

/-- What concerns the duty itself is to happen to its journal and to its schedule alike. -/
theorem sound_of_own {schedule : Schedule} {node : Node ν σ} {journal : Journal}
    (hspares : (duty.reschedule watch.node schedule).Spares node)
    (hfollows : journal.Follows schedule) (horderly : journal.Orderly watch.node.timerNow)
    (hnumbered : ∀ number ∈ journal.tasks.keys, number < node.nextSeries) :
    Sound duty { node, journal } where
  follows := by
    rw [hspares.schedule, Duty.schedule_reschedule, if_pos rfl]
    exact hfollows
  orderly := by
    rw [hspares.timerNow, Duty.timerNow_reschedule]
    exact horderly
  numbered := hnumbered

variable [Network ν] [Source σ]

/-- What an event means to the journal of a duty. A start that is refused means nothing. -/
def note (duty : Duty) (watch : Watch ν σ) : DutyEvent ν σ → Journal
  | .start own =>
    if own = duty then
      match (own.start watch.node).1 with
      | .ok () => watch.journal.start watch.node.nextSeries watch.node.timerNow
      | .error _ => watch.journal
    else watch.journal
  | .stop own => if own = duty then watch.journal.stop watch.node.timerNow else watch.journal
  | .wake own number =>
    if own = duty then watch.journal.wake number watch.node.timerNow else watch.journal
  | .pace own busy => if own = duty then watch.journal.pace busy else watch.journal
  | .pass .. | .change _ => watch.journal

/-- The watch of a duty after an event. -/
def after (duty : Duty) (watch : Watch ν σ) (event : DutyEvent ν σ) : Watch ν σ where
  node := event.apply watch.node
  journal := watch.note duty event

/-- The watch of a duty after a history. -/
def afterAll (duty : Duty) (watch : Watch ν σ) (history : List (DutyEvent ν σ)) : Watch ν σ :=
  history.foldl (after duty) watch

/-- A start of either duty leaves a watch sound. -/
theorem Sound.start (h : watch.Sound duty) (own : Duty) :
    (watch.after duty (.start own)).Sound duty := by
  rcases own.start_cases watch.node with ⟨hsame, hrunning⟩ | ⟨hok, hidle, hspares, hseries⟩
  · -- the journal has a handle where the duty is running, so it takes no notice either
    have hjournal : watch.note duty (.start own) = watch.journal := by
      rw [note]
      split
      · rename_i hown
        subst hown
        split
        · rename_i hok
          exact if_pos (h.follows.isSome_handle.trans (hrunning hok))
        · rfl
      · rfl
    rw [after, hjournal, DutyEvent.apply, hsame]
    exact h
  · by_cases hown : own = duty
    · subst hown
      -- the duty is idle, so the journal has no handle and takes notice of the start
      have hhandle : watch.journal.handle = none := by
        rw [← Option.not_isSome_iff_eq_none, h.follows.isSome_handle, hidle]
        exact Bool.false_ne_true
      have hkeys := Journal.keys_start hhandle h.find?_nextSeries watch.node.timerNow
      rw [after, note, if_pos rfl, hok]
      refine sound_of_own hspares (h.follows.start h.find?_nextSeries _)
        (h.orderly.start h.follows h.find?_nextSeries) fun number hmem => ?_
      rw [hkeys, List.mem_append, List.mem_singleton] at hmem
      obtain hold | rfl := hmem
      · exact Nat.lt_trans (h.numbered number hold) hseries
      · exact hseries
    · rw [after, note, if_neg hown]
      exact h.of_other hown hspares

/-- A stop of either duty leaves a watch sound. -/
theorem Sound.stop (h : watch.Sound duty) (own : Duty) :
    (watch.after duty (.stop own)).Sound duty := by
  have hspares := own.spares_stop watch.node
  by_cases hown : own = duty
  · subst hown
    rw [after, note, if_pos rfl]
    exact sound_of_own hspares (h.follows.stop _) (h.orderly.stop h.follows)
      (h.numbered_of_spares hspares (Journal.keys_stop ..))
  · rw [after, note, if_neg hown]
    exact h.of_other hown hspares

/-- Waking any series of either duty leaves a watch sound. -/
theorem Sound.wake (h : watch.Sound duty) (own : Duty) (number : Nat) :
    (watch.after duty (.wake own number)).Sound duty := by
  -- the journal polls the series just as the schedule does
  have hspares := own.spares_wake watch.node number
  by_cases hown : own = duty
  · subst hown
    rw [after, note, if_pos rfl]
    exact sound_of_own hspares (h.follows.wake number _) (h.orderly.wake h.follows number)
      (h.numbered_of_spares hspares (Journal.keys_wake ..))
  · rw [after, note, if_neg hown]
    exact h.of_other hown hspares

/-- A duty that takes another time leaves a watch sound. -/
theorem Sound.pace (h : watch.Sound duty) (own : Duty) (busy : Duration) :
    (watch.after duty (.pace own busy)).Sound duty := by
  by_cases hown : own = duty
  · subst hown
    rw [after, note, if_pos rfl]
    exact sound_of_own (.refl _) (h.follows.pace busy) (h.orderly.pace busy)
      (h.numbered_of_spares (.refl _) (Journal.keys_pace ..))
  · rw [after, note, if_neg hown]
    exact h.of_other hown (.refl _)

/-- Time that passes leaves a watch sound. -/
theorem Sound.pass (h : watch.Sound duty) (span lag : Duration) :
    (watch.after duty (.pass span lag)).Sound duty where
  follows := by cases duty <;> exact h.follows
  orderly := by
    have htime : (watch.after duty (.pass span lag)).node.timerNow =
        watch.node.timerNow + (span : Int) := by
      simp [Watch.after, DutyEvent.apply, Node.timerNow]
    rw [htime]
    exact h.orderly.mono (Int.le_add_of_nonneg_right (Int.natCast_nonneg span))
  numbered := h.numbered

/-- Every event leaves a watch sound. -/
theorem Sound.after (h : watch.Sound duty) (event : DutyEvent ν σ) :
    (watch.after duty event).Sound duty := by
  cases event with
  | start own => exact h.start own
  | stop own => exact h.stop own
  | wake own number => exact h.wake own number
  | pass span lag => exact h.pass span lag
  | pace own busy => exact h.pace own busy
  | change other =>
    -- no series that has a task is begun again, since numbers only go up
    have hseries := Nat.le_max_left watch.node.nextSeries other.nextSeries
    refine ⟨?_, h.orderly, fun number hmem => Nat.lt_of_lt_of_le (h.numbered number hmem) hseries⟩
    cases duty <;> exact h.follows

/-- Every history leaves a watch sound. -/
theorem Sound.afterAll (h : watch.Sound duty) (history : List (DutyEvent ν σ)) :
    (watch.afterAll duty history).Sound duty := by
  induction history generalizing watch with
  | nil => exact h
  | cons event history ih => exact ih (h.after event)

/-- No event changes the delays. -/
theorem timetable_after (duty : Duty) (watch : Watch ν σ) (event : DutyEvent ν σ) :
    ∃ busy, (watch.after duty event).journal.timetable =
      { watch.journal.timetable with busy } := by
  cases event with
  | start own =>
    refine ⟨watch.journal.timetable.busy, ?_⟩
    rw [after, note]
    split
    · split
      · rw [Journal.start]
        split <;> rfl
      · rfl
    · rfl
  | pace own busy =>
    rw [after, note]
    split
    · exact ⟨busy, rfl⟩
    · exact ⟨_, rfl⟩
  | stop own =>
    refine ⟨watch.journal.timetable.busy, ?_⟩
    rw [after, note]
    split <;> rfl
  | wake own number =>
    refine ⟨watch.journal.timetable.busy, ?_⟩
    rw [after, note]
    split <;> rfl
  | pass span lag => exact ⟨_, rfl⟩
  | change other => exact ⟨_, rfl⟩

/-- No history changes the delays. -/
theorem timetable_afterAll (duty : Duty) (watch : Watch ν σ) (history : List (DutyEvent ν σ)) :
    ∃ busy, (watch.afterAll duty history).journal.timetable =
      { watch.journal.timetable with busy } := by
  induction history generalizing watch with
  | nil => exact ⟨_, rfl⟩
  | cons event history ih =>
    obtain ⟨busy, hevent⟩ := watch.timetable_after duty event
    obtain ⟨later, hhistory⟩ := ih (watch.after duty event)
    exact ⟨later, by rw [afterAll, List.foldl_cons, ← afterAll, hhistory, hevent]⟩

/-! ## The main theorem -/

/-- The duty has one schedule at a time, with the fixed delays of a timetable. -/
structure OneAtATime (duty : Duty) (timetable : Timetable) (watch : Watch ν σ) : Prop where
  /-- Of all series that were begun, one is not over if the duty is running, and none if it is
  not. -/
  live : watch.journal.liveTasks.size = if (duty.schedule watch.node).isRunning then 1 else 0
  /-- Whichever series is woken, the duty is done when its task starts a run, and then only. -/
  done : ∀ number,
    let waiting := duty.reschedule watch.node
      ((duty.schedule watch.node).poll number watch.node.timerNow).2
    duty.wake watch.node number =
      if (watch.journal.milestones number watch.node.timerNow).contains .started then
        duty.perform waiting
      else waiting
  /-- Every start that took effect began a series of its own. -/
  distinct : watch.journal.begun.Nodup
  /-- The journal is in the order of time. -/
  chronological : watch.journal.log.Pairwise fun earlier later => earlier.1 ≤ later.1
  /-- Every run belongs to the start that was in effect and came when it was due or later. -/
  timed : WellTimed timetable watch.journal.log

/-- After every history of starts, stops, wake-ups and passing time, each duty has one schedule at a
time, with the delays that it had at the start. -/
theorem one_schedule_at_a_time (duty : Duty) (node : Node ν σ) (history : List (DutyEvent ν σ)) :
    OneAtATime duty (duty.schedule node).timetable ((initial duty node).afterAll duty history) := by
  have hsound := (sound_initial duty node).afterAll history
  obtain ⟨busy, htimetable⟩ := (initial duty node).timetable_afterAll duty history
  exact {
    live := hsound.follows.size_liveTasks
    done := fun number => by
      rw [hsound.follows.milestones]
      exact duty.wake_eq _ number
    distinct := hsound.orderly.nodup_begun
    chronological := hsound.orderly.chronological
    timed := by
      have htimed := hsound.orderly.timed
      rw [htimetable] at htimed
      exact htimed }

end Watch

end OverlayStore
