import OverlayStore.Proofs.Schedule.Journal

/-!
# When the runs of a schedule take place

Every run belongs to the start that is in effect, and comes no sooner than its delay after it. This
is read off a journal: what a series has reached stands in the log behind the entry of its own
beginning, with nothing in between but what the same series has reached before (`EndsIn`), and a run
starts when the initial delay has passed since the beginning or the period since the last run ended
(`Timetable.Allows`). A log in which this is so at every place is `WellTimed`.

`Journal.Orderly` is what carries this through everything that can happen: next to the log it says
what each phase of a task promises of what the task may reach next (`Timetable.Promises`).
-/

namespace OverlayStore

namespace Timetable

/-- When the next run is due in a series that was begun at `began` and has reached `since` from then
on, unless a run is under way. -/
def runDue? (timetable : Timetable) (began : Time) (since : List (Time × Milestone)) :
    Option Time :=
  match since.getLast? with
  | none => some (began + (timetable.initialDelay : Int))
  | some (ended, .ended) => some (ended + (timetable.period : Int))
  | some (_, .started) => none

/-- A milestone may be reached at a time in such a series: a run starts when it is due or later, and
it is that run that ends. -/
def Allows (timetable : Timetable) (began : Time) (since : List (Time × Milestone)) (now : Time) :
    Milestone → Prop
  | .started => ∃ due, timetable.runDue? began since = some due ∧ due ≤ now
  | .ended => ∃ started, since.getLast? = some (started, .started)

/-- What a phase promises of the milestone that is next. -/
def Promises (timetable : Timetable) (began : Time) (since : List (Time × Milestone)) :
    Phase → Prop
  | .fresh => since = []
  | .resting due => timetable.Allows began since due .started
  | .working ends => timetable.Allows began since ends .ended

variable {timetable : Timetable} {began now : Time} {since : List (Time × Milestone)}

/-- What is allowed stays so. -/
theorem Allows.mono {milestone : Milestone} {later : Time}
    (h : timetable.Allows began since now milestone) (hle : now ≤ later) :
    timetable.Allows began since later milestone := by
  cases milestone with
  | started =>
    obtain ⟨due, hdue, hnow⟩ := h
    exact ⟨due, hdue, Int.le_trans hnow hle⟩
  | ended => exact h

/-- What is reached next is allowed, and the phase after it keeps its promise. -/
theorem Promises.next {phase next : Phase} {milestone : Option Milestone}
    (h : timetable.Promises began since phase) (hbegan : began ≤ now)
    (hnext : timetable.next? now phase = some (milestone, next)) :
    (∀ reached ∈ milestone, timetable.Allows began since now reached) ∧
      timetable.Promises began (since ++ milestone.toList.map (now, ·)) next := by
  cases phase with
  | fresh =>
    cases hnext
    obtain rfl : since = [] := h
    exact ⟨nofun, _, rfl, Int.add_le_add_right hbegan _⟩
  | resting due =>
    -- a run that was due at `due` may start later, and what ends next is that run
    obtain ⟨hdue, hnext⟩ := Option.ite_none_right_eq_some.mp hnext
    cases hnext
    have hallowed : timetable.Allows began since due .started := h
    exact ⟨fun _ hreached => by cases hreached; exact hallowed.mono hdue,
      now, List.getLast?_concat⟩
  | working ends =>
    obtain ⟨hends, hnext⟩ := Option.ite_none_right_eq_some.mp hnext
    cases hnext
    have hallowed : timetable.Allows began since ends .ended := h
    -- the period counts from this end
    refine ⟨fun _ hreached => by cases hreached; exact hallowed.mono hends, _, ?_, Int.le_refl _⟩
    simp [runDue?]

end Timetable

namespace Schedule

/-- A log ends with what a series has reached since it was begun. -/
def EndsIn (log : List (Time × Entry)) (number : Nat) (began : Time)
    (since : List (Time × Milestone)) : Prop :=
  ∃ earlier, log = earlier ++ (began, .begun number) ::
    since.map fun reached => (reached.1, .reached number reached.2)

/-- Whatever a series has reached, it was allowed to reach, and nothing else was begun or stopped or
reached since the series was begun. -/
def WellTimed (timetable : Timetable) (log : List (Time × Entry)) : Prop :=
  ∀ before now number milestone after,
    log = before ++ (now, .reached number milestone) :: after →
      ∃ began since, EndsIn before number began since ∧
        timetable.Allows began since now milestone

variable {timetable : Timetable} {log : List (Time × Entry)} {number : Nat} {began now : Time}
  {since : List (Time × Milestone)}

/-- A log ends in a series that has just been begun. -/
theorem endsIn_begun (log : List (Time × Entry)) (number : Nat) (now : Time) :
    EndsIn (log ++ [(now, .begun number)]) number now [] :=
  ⟨log, rfl⟩

/-- A log goes on with the milestones of the series that it ends in. -/
theorem EndsIn.reached (h : EndsIn log number began since) (now : Time)
    (milestones : List Milestone) :
    EndsIn (log ++ milestones.map fun milestone => (now, .reached number milestone)) number began
      (since ++ milestones.map (now, ·)) := by
  obtain ⟨earlier, rfl⟩ := h
  exact ⟨earlier, by simp⟩

theorem EndsIn.mem (h : EndsIn log number began since) : (began, .begun number) ∈ log := by
  obtain ⟨earlier, rfl⟩ := h
  simp

theorem wellTimed_nil (timetable : Timetable) : WellTimed timetable [] := by
  intro before now number milestone after hlog
  cases before <;> cases hlog

/-- A log stays well timed with one entry more, if a milestone that it notes was allowed. -/
theorem WellTimed.concat (h : WellTimed timetable log) (entry : Time × Entry)
    (hallowed : ∀ now number milestone, entry = (now, .reached number milestone) →
      ∃ began since, EndsIn log number began since ∧
        timetable.Allows began since now milestone) :
    WellTimed timetable (log ++ [entry]) := by
  intro before now number milestone after hlog
  -- the milestone is the new entry, or it stands in the log before it
  obtain rfl | ⟨rest, last, rfl⟩ := List.eq_nil_or_concat after
  · obtain ⟨rfl, hentry⟩ := List.append_inj' hlog rfl
    exact hallowed now number milestone (List.singleton_inj.mp hentry)
  · rw [List.concat_eq_append, ← List.cons_append, ← List.append_assoc] at hlog
    exact h before now number milestone rest (List.append_inj' hlog rfl).1

/-- A task that goes on keeps the log well timed, and its own promise. -/
theorem WellTimed.follow (hbegan : began ≤ now) (steps : Nat) :
    ∀ {log since phase}, WellTimed timetable log → EndsIn log number began since →
      timetable.Promises began since phase →
      WellTimed timetable (log ++ (timetable.follow now steps phase).1.map fun milestone =>
          (now, .reached number milestone)) ∧
        timetable.Promises began (since ++ (timetable.follow now steps phase).1.map (now, ·))
          (timetable.follow now steps phase).2 := by
  -- each step adds what it reaches to the log, so the log and the phase are generalized
  induction steps with
  | zero =>
    intro log since phase hlog _ hphase
    simpa [Timetable.follow] using ⟨hlog, hphase⟩
  | succ steps ih =>
    intro log since phase hlog hends hphase
    unfold Timetable.follow
    cases hnext : timetable.next? now phase with
    | none => simpa using ⟨hlog, hphase⟩
    | some outcome =>
      obtain ⟨milestone, next⟩ := outcome
      obtain ⟨hallowed, hpromise⟩ := hphase.next hbegan hnext
      have hlog' : WellTimed timetable (log ++ milestone.toList.map fun milestone =>
          (now, .reached number milestone)) := by
        cases milestone with
        | none => simpa using hlog
        | some milestone =>
          refine hlog.concat _ fun time own reached hentry => ?_
          cases hentry
          exact ⟨began, since, hends, hallowed milestone rfl⟩
      have hrest := ih hlog' (hends.reached now milestone.toList) hpromise
      simpa only [List.map_append, List.append_assoc] using hrest

namespace Journal

/-- What holds of a journal at a time. -/
structure Orderly (journal : Journal) (now : Time) : Prop where
  /-- Every run takes place when it may. -/
  timed : WellTimed journal.timetable journal.log
  /-- The log is in the order of time. -/
  chronological : journal.log.Pairwise fun earlier later => earlier.1 ≤ later.1
  /-- The log is of the past. -/
  past : ∀ entry ∈ journal.log, entry.1 ≤ now
  /-- Each series that was begun has a task of its own. -/
  begun : journal.begun = journal.tasks.keys
  /-- A task that is not over is the latest in the log, and keeps the promise of its phase. -/
  standing : ∀ number phase, journal.phase? number = some phase →
    ∃ began since, EndsIn journal.log number began since ∧
      journal.timetable.Promises began since phase

variable {journal : Journal} {schedule : Schedule}

/-- A new journal is orderly. -/
theorem orderly_fresh (name : String) (timetable : Timetable) (now : Time) :
    Orderly { name, timetable } now where
  timed := wellTimed_nil timetable
  chronological := .nil
  past _ h := by cases h
  begun := rfl
  standing _ _ h := by cases h

/-- Time may pass. -/
theorem Orderly.mono (h : journal.Orderly now) {later : Time} (hle : now ≤ later) :
    journal.Orderly later :=
  { h with past := fun entry hmem => Int.le_trans (h.past entry hmem) hle }

/-- No two series are the same. -/
theorem Orderly.nodup_begun (h : journal.Orderly now) : journal.begun.Nodup :=
  h.begun ▸ journal.tasks.nodup

/-- Entries of the present go to the end of the log. -/
theorem Orderly.pairwise_append (h : journal.Orderly now) (entries : List (Time × Entry))
    (hnow : ∀ entry ∈ entries, entry.1 = now) :
    (journal.log ++ entries).Pairwise fun earlier later => earlier.1 ≤ later.1 := by
  refine List.pairwise_append.mpr ⟨h.chronological, ?_, ?_⟩
  · refine List.Pairwise.imp_of_mem (fun ha hb _ => ?_) (List.pairwise_of_forall fun _ _ => trivial)
    exact (hnow _ ha).trans (hnow _ hb).symm ▸ Int.le_refl _
  · intro earlier hearlier entry hentry
    rw [hnow entry hentry]
    exact h.past earlier hearlier

/-- What is logged now is not in the future. -/
theorem Orderly.past_append (h : journal.Orderly now) (entries : List (Time × Entry))
    (hnow : ∀ entry ∈ entries, entry.1 = now) :
    ∀ entry ∈ journal.log ++ entries, entry.1 ≤ now := by
  intro entry hmem
  obtain hmem | hmem := List.mem_append.mp hmem
  · exact h.past entry hmem
  · exact Int.le_of_eq (hnow entry hmem)

/-- A start begins a series with a number that no series has had before. -/
theorem Orderly.start (h : journal.Orderly now) (hfollows : journal.Follows schedule)
    {number : Nat} (hnew : journal.tasks.find? number = none) :
    (journal.start number now).Orderly now := by
  cases hhandle : journal.handle with
  | some serial =>
    have hsame : journal.start number now = journal := by simp [Journal.start, hhandle]
    rwa [hsame]
  | none =>
    have hkeys := keys_start hhandle hnew now
    rw [Journal.start, if_neg (by simp [hhandle])] at hkeys ⊢
    refine ⟨?_, h.pairwise_append _ (by simp), h.past_append _ (by simp), ?_, ?_⟩
    · exact h.timed.concat _ fun time own milestone hentry => by cases hentry
    · rw [hkeys, ← h.begun]
      exact List.filterMap_append ..
    · intro own phase hphase
      by_cases hown : own = number
      · subst hown
        rw [Journal.phase?, Table.find?_insert, if_pos rfl] at hphase
        cases hphase
        exact ⟨now, [], endsIn_begun journal.log own now, rfl⟩
      · -- a series that was begun before is over
        have hover : journal.phase? own = none := hfollows.phase?_eq_none (by simp [hhandle])
        rw [Journal.phase?, Table.find?_insert, if_neg hown] at hphase
        cases hover.symm.trans hphase

/-- A stop leaves a journal orderly. -/
theorem Orderly.stop (h : journal.Orderly now) (hfollows : journal.Follows schedule) :
    (journal.stop now).Orderly now := by
  refine ⟨?_, h.pairwise_append _ (by simp), h.past_append _ (by simp), ?_, ?_⟩
  · exact h.timed.concat _ fun time own milestone hentry => by cases hentry
  · rw [keys_stop, ← h.begun]
    exact (List.filterMap_append ..).trans (List.append_nil _)
  · intro own phase hphase
    rw [(hfollows.stop now).phase] at hphase
    cases hphase

/-- What a task reaches is allowed, and the phase that it gets to keeps its promise. -/
theorem Orderly.reached (h : journal.Orderly now) (hfollows : journal.Follows schedule)
    {number : Nat} {phase : Phase} (hphase : journal.phase? number = some phase) :
    WellTimed journal.timetable (journal.wake number now).log ∧
      ∃ began since, EndsIn (journal.wake number now).log number began since ∧
        journal.timetable.Promises began since (journal.timetable.poll now phase).2 := by
  obtain ⟨began, since, hends, hpromise⟩ := h.standing number phase hphase
  have hbegan : began ≤ now := h.past _ hends.mem
  have hmilestones := hfollows.milestones_eq number now
  rw [hphase, Option.elim_some] at hmilestones
  obtain ⟨htimed, hafter⟩ := WellTimed.follow hbegan 4 h.timed hends hpromise
  rw [Journal.wake, hmilestones]
  exact ⟨htimed, began, _, hends.reached now _, hafter⟩

/-- Nothing is reached in a series that is over. -/
theorem log_wake_of_none (hfollows : journal.Follows schedule) {number : Nat}
    (hphase : journal.phase? number = none) (now : Time) :
    (journal.wake number now).log = journal.log := by
  rw [Journal.wake, hfollows.milestones_eq, hphase, Option.elim_none]
  exact List.append_nil _

/-- Waking a series begins none. -/
theorem begun_wake (journal : Journal) (number : Nat) (now : Time) :
    (journal.wake number now).begun = journal.begun := by
  have hnone : ((journal.milestones number now).map fun milestone =>
      (now, Entry.reached number milestone)).filterMap (fun entry => entry.2.begun?) = [] := by
    simp [Entry.begun?]
  rw [Journal.wake, Journal.begun, List.filterMap_append, hnone, List.append_nil, Journal.begun]

/-- A wake-up of any series leaves a journal orderly. -/
theorem Orderly.wake (h : journal.Orderly now) (hfollows : journal.Follows schedule)
    (number : Nat) : (journal.wake number now).Orderly now := by
  refine ⟨?_, h.pairwise_append _ (by simp), h.past_append _ (by simp), ?_, ?_⟩
  · cases hphase : journal.phase? number with
    | none =>
      rw [log_wake_of_none hfollows hphase]
      exact h.timed
    | some phase => exact (h.reached hfollows hphase).1
  · rw [keys_wake, begun_wake, h.begun]
  · intro own phase hown
    rw [hfollows.phase?_wake] at hown
    obtain ⟨old, hold, rfl⟩ := Option.map_eq_some_iff.mp hown
    by_cases hsame : own = number
    · subst hsame
      rw [if_pos rfl]
      exact (h.reached hfollows hold).2
    · -- another series is over if this one is not
      have hover : journal.phase? number = none :=
        Option.eq_none_iff_forall_ne_some.mpr fun next hnext =>
          hsame (hfollows.eq_of_phase? hold hnext)
      rw [if_neg hsame, log_wake_of_none hfollows hover]
      exact h.standing own old hold

theorem Orderly.pace (h : journal.Orderly now) (busy : Duration) :
    (journal.pace busy).Orderly now where
  timed := h.timed
  chronological := h.chronological
  past := h.past
  begun := by rw [keys_pace]; exact h.begun
  standing number phase hphase := by
    rw [Journal.phase?, Journal.pace, Table.find?_map, Option.bind_map] at hphase
    obtain ⟨began, since, hends, hpromise⟩ := h.standing number phase hphase
    refine ⟨began, since, hends, ?_⟩
    cases phase <;> exact hpromise

end Journal

end Schedule

end OverlayStore
