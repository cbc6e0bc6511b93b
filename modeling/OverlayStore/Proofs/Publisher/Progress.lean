import Mathlib.Data.UInt
import OverlayStore.Network.Scripted
import OverlayStore.Proofs.Publisher.Arrangement

/-!
# The progress of runs

A chronicle is sound when its publisher is arranged: the tasks that have been given up belong to
earlier runs, and the one task besides them belongs to the run in progress and was made of the
publication that was taken last from the snapshot of the run. Every event keeps a chronicle sound,
and there are eight moves that it can make. So a run is in progress exactly when one store is
outstanding.
-/

namespace OverlayStore.Chronicle

open Publisher

variable {ν σ : Type}

/-- A task that has been given up and belongs to an earlier run. -/
structure Spent (c : Chronicle ν σ) (task : Task) : Prop where
  aborted : task.aborted = true
  serial_lt : task.serial < c.publisher.nextSerial
  generation : task.generation = UInt64.ofNat (c.originOf task.serial).run
  run_lt : (c.originOf task.serial).run < c.raises

/-- A task that the run in progress waits for. -/
structure Live (c : Chronicle ν σ) (task : Task) : Prop where
  aborted : task.aborted = false
  serial_lt : task.serial < c.publisher.nextSerial
  generation : task.generation = UInt64.ofNat c.raises
  run : (c.originOf task.serial).run = c.raises
  record : task.record =
    .own (c.originOf task.serial).contact task.publication.key task.publication.value
      (c.originOf task.serial).time

/-- The publisher of a chronicle is arranged, and its tasks are what they are taken for. -/
structure Sound (c : Chronicle ν σ) (stale : List Task) (current : Option Run) : Prop where
  publisher : c.publisher =
    arranged (UInt64.ofNat c.raises) stale current c.publisher.nextSerial
  spent : ∀ task ∈ stale, c.Spent task
  live : ∀ run, current = some run → c.Live run.task
  started : ∀ run, current = some run → .started c.raises run.snapshot ∈ c.log

/-- What one event can do to a chronicle with a run in progress or none. -/
inductive Move (c c' : Chronicle ν σ) : Option Run → Option Run → Prop
  /-- Nothing happens to the run. -/
  | same {current : Option Run} (raises : c'.raises = c.raises) (log : c'.log = c.log) :
      Move c c' current current
  /-- The run in progress is halted, if there is one. -/
  | halt {current : Option Run} (raises : c'.raises = c.raises + 1)
      (log : c'.log = c.log ++ [.halted c.raises]) : Move c c' current none
  /-- A run is begun. -/
  | start {task : Task} {rest : List Publication} (raises : c'.raises = c.raises + 1)
      (log : c'.log = c.log ++ [.started c'.raises (task.publication :: rest)])
      (queued : task.isCalled = false) : Move c c' none (some ⟨[], task, rest⟩)
  /-- The network is called for the task of the run. -/
  | call {run : Run} (raises : c'.raises = c.raises)
      (log : c'.log =
        c.log ++ [.called ⟨c.originOf run.task.serial, run.task.serial, run.task.record⟩])
      (queued : run.task.isCalled = false) : Move c c' (some run) (some (run.atStage .awaiting))
  /-- The network answers the task of the run. -/
  | hear {run : Run} (result : Except Error Receipt) (raises : c'.raises = c.raises)
      (log : c'.log = c.log) :
      Move c c' (some run) (some { run with task := run.task.hear result })
  /-- A store succeeds, and the run goes on to the next one. -/
  | next {run : Run} {task : Task} {rest : List Publication} {receipt : Receipt} {time : Time}
      (raises : c'.raises = c.raises)
      (log : c'.log =
        c.log ++ [.finished c.raises run.task.serial run.task.publication (.ok receipt) time])
      (called : run.task.isCalled = true) (more : run.rest = task.publication :: rest)
      (queued : task.isCalled = false) :
      Move c c' (some run) (some ⟨run.taken ++ [run.task.publication], task, rest⟩)
  /-- The last store of a run succeeds. -/
  | last {run : Run} {receipt : Receipt} {time : Time} (raises : c'.raises = c.raises)
      (log : c'.log =
        c.log ++ [.finished c.raises run.task.serial run.task.publication (.ok receipt) time])
      (called : run.task.isCalled = true) (done : run.rest = []) : Move c c' (some run) none
  /-- A store fails, and that ends the run. -/
  | fail {run : Run} {error : Error} {time : Time} (raises : c'.raises = c.raises)
      (log : c'.log =
        c.log ++ [.finished c.raises run.task.serial run.task.publication (.error error) time]) :
      Move c c' (some run) none

theorem Spent.atStage {c : Chronicle ν σ} {task : Task} (h : c.Spent task) (stage : Stage) :
    c.Spent { task with stage } :=
  ⟨h.aborted, h.serial_lt, h.generation, h.run_lt⟩

theorem Live.atStage {c : Chronicle ν σ} {task : Task} (h : c.Live task) (stage : Stage) :
    c.Live { task with stage } :=
  ⟨h.aborted, h.serial_lt, h.generation, h.run, h.record⟩

namespace Sound

variable {c : Chronicle ν σ} {stale : List Task} {current : Option Run} {run : Run} {serial : Nat}
  {result : Except Error Receipt}

/-- The run in progress does not wait for a task that has been given up. -/
theorem serial_ne (h : c.Sound stale (some run)) (task : Task) (htask : task ∈ stale) :
    task.serial ≠ run.task.serial := by
  intro hserial
  have hlt := (h.spent task htask).run_lt
  rw [hserial, (h.live run rfl).run] at hlt
  exact absurd hlt (Nat.lt_irrefl _)

theorem aborted (h : c.Sound stale current) (task : Task) (htask : task ∈ stale) :
    task.aborted = true :=
  (h.spent task htask).aborted

/-- The generation is the number of its raises, as far as a generation can count. -/
theorem generation (h : c.Sound stale current) :
    c.publisher.generation = UInt64.ofNat c.raises := by
  rw [h.publisher]
  rfl

/-- A task that has been given up bears another generation than the present one, although
generations repeat in the long run. -/
theorem generation_ne (h : c.Sound stale current) (hbounded : c.Bounded) (task : Task)
    (htask : task ∈ stale) : task.generation ≠ UInt64.ofNat c.raises := by
  have hmem : task ∈ c.publisher.tasks := by
    rw [h.publisher, arranged]
    exact List.mem_append_left _ htask
  -- the two numbers of raises lie less than `2 ^ 64` apart, so they differ modulo it
  have hbound := hbounded task hmem
  rw [UInt64.size] at hbound
  have hlt := (h.spent task htask).run_lt
  intro heq
  have hmod := congrArg UInt64.toNat ((h.spent task htask).generation.symm.trans heq)
  simp only [UInt64.toNat_ofNat'] at hmod
  omega

/-- The news of a completed store of the run in progress. -/
theorem outcome_current (h : c.Sound stale (some run)) :
    c.outcome run.task.serial result =
      [.finished c.raises run.task.serial run.task.publication result c.node.now] := by
  have htask : c.publisher.task? run.task.serial = some run.task := by
    rw [h.publisher]
    exact task?_arranged_current h.serial_ne
  have hrunning : c.publisher.isRunning = true := by
    rw [h.publisher]
    rfl
  rw [outcome, htask]
  simp [hrunning, (h.live run rfl).run]

/-- The completion of a store that has been given up is no news. -/
theorem outcome_of_ne (h : c.Sound stale current)
    (hserial : ∀ run, current = some run → run.task.serial ≠ serial) :
    c.outcome serial result = [] := by
  rw [outcome]
  cases htask : c.publisher.task? serial with
  | none => rfl
  | some task =>
    rw [h.publisher] at htask
    obtain ⟨hmem, hsame⟩ := mem_stale_of_task? hserial htask
    have hlt := (h.spent task hmem).run_lt
    rw [hsame] at hlt
    simp [hlt.ne]

/-- The tasks that are neither over nor given up. -/
theorem liveTasks_eq (h : c.Sound stale current) :
    c.publisher.liveTasks = (current.map Run.task).toList := by
  have hstale : (stale.filter fun task => !task.aborted) = [] := by
    simpa using h.aborted
  rw [h.publisher, liveTasks, arranged, List.filter_append, hstale, List.nil_append]
  cases current with
  | none => rfl
  | some run =>
    have hlive := (h.live run rfl).aborted
    simp [hlive]

end Sound

variable [Network ν] [Source σ] {c : Chronicle ν σ} {event : Event ν σ} {stale stale' : List Task}
  {current : Option Run} {run : Run} {serial nextSerial : Nat} {result : Except Error Receipt}

/-! ## What an event leaves alone -/

theorem raises_after_of_eq
    (hgeneration : (c.after event).publisher.generation = c.publisher.generation) :
    (c.after event).raises = c.raises :=
  if_pos hgeneration

theorem raises_after_of_eq_add_one
    (hgeneration : (c.after event).publisher.generation = c.publisher.generation + 1) :
    (c.after event).raises = c.raises + 1 := by
  refine if_neg fun hsame => ?_
  have hone : c.publisher.generation + 1 = c.publisher.generation := hgeneration.symm.trans hsame
  exact absurd (add_eq_left.mp hone) (by decide)

/-- The origin of a task that was made before is settled. -/
theorem originOf_after_of_lt (h : serial < c.publisher.nextSerial) :
    (c.after event).originOf serial = c.originOf serial :=
  if_pos h

/-- A task that is made now comes from the run in progress then. -/
theorem originOf_after_nextSerial (c : Chronicle ν σ) (event : Event ν σ) :
    (c.after event).originOf c.publisher.nextSerial =
      ⟨(c.after event).raises, Network.contact c.node.network, c.node.now⟩ :=
  if_neg (Nat.lt_irrefl _)

/-- A task that is spent stays so. -/
theorem Spent.after {task : Task} (h : c.Spent task)
    (hserial : c.publisher.nextSerial ≤ (c.after event).publisher.nextSerial) :
    (c.after event).Spent task where
  aborted := h.aborted
  serial_lt := h.serial_lt.trans_le hserial
  generation := by rw [originOf_after_of_lt h.serial_lt, h.generation]
  run_lt := by
    rw [originOf_after_of_lt h.serial_lt]
    exact h.run_lt.trans_le (c.raises_le_raises_after event)

/-- The task of the run stays live while the generation is not raised. -/
theorem Live.after {task : Task} (h : c.Live task)
    (hraises : (c.after event).raises = c.raises)
    (hserial : c.publisher.nextSerial ≤ (c.after event).publisher.nextSerial) :
    (c.after event).Live task where
  aborted := h.aborted
  serial_lt := h.serial_lt.trans_le hserial
  generation := by rw [hraises, h.generation]
  run := by rw [hraises, originOf_after_of_lt h.serial_lt, h.run]
  record := by rw [originOf_after_of_lt h.serial_lt, h.record]

/-- A live task that is given up when the generation is raised is spent. -/
theorem Live.spent_after {task : Task} (h : c.Live task)
    (hraises : (c.after event).raises = c.raises + 1)
    (hserial : c.publisher.nextSerial ≤ (c.after event).publisher.nextSerial) :
    (c.after event).Spent { task with aborted := true } where
  aborted := rfl
  serial_lt := h.serial_lt.trans_le hserial
  generation := by
    rw [originOf_after_of_lt h.serial_lt, h.run]
    exact h.generation
  run_lt := by
    rw [originOf_after_of_lt h.serial_lt, h.run, hraises]
    exact Nat.lt_succ_self c.raises

/-- A task that an event has made is live. -/
theorem live_freshTask (publication : Publication)
    (hserial : c.publisher.nextSerial < (c.after event).publisher.nextSerial) :
    (c.after event).Live (freshTask (UInt64.ofNat (c.after event).raises) c.publisher.nextSerial
      publication (Network.contact c.node.network) c.node.now) where
  aborted := rfl
  serial_lt := hserial
  generation := rfl
  run := by
    rw [freshTask, originOf_after_nextSerial]
  record := by
    rw [freshTask, originOf_after_nextSerial]

/-! ## What an event does to the run in progress -/

/-- An event is one of the moves, and it leaves the chronicle sound. -/
def Proceeds (c : Chronicle ν σ) (current : Option Run) (event : Event ν σ) : Prop :=
  ∃ stale' current', (c.after event).Sound stale' current' ∧ Move c (c.after event) current current'

theorem log_after (c : Chronicle ν σ) (event : Event ν σ) :
    (c.after event).log = c.log ++ c.news event :=
  rfl

namespace Sound

variable {current' : Option Run}

/-- A publisher of the same generation has not been raised. -/
theorem raises_after (h : c.Sound stale current) (hpublisher : (c.after event).publisher =
      arranged (UInt64.ofNat c.raises) stale' current' nextSerial) :
    (c.after event).raises = c.raises := by
  refine raises_after_of_eq ?_
  rw [hpublisher, h.generation]
  rfl

theorem raises_after_add_one (h : c.Sound stale current) (hpublisher : (c.after event).publisher =
      arranged (UInt64.ofNat c.raises + 1) stale' current' nextSerial) :
    (c.after event).raises = c.raises + 1 := by
  refine raises_after_of_eq_add_one ?_
  rw [hpublisher, h.generation]
  rfl

/-- The run in progress may go on with a task at another stage, and tasks that have been given up
come and go without notice. -/
theorem after_keep (h : c.Sound stale current) (hpublisher : (c.after event).publisher =
      arranged (UInt64.ofNat c.raises) stale' current' c.publisher.nextSerial)
    (hspent : ∀ task ∈ stale', c.Spent task)
    (hcurrent : ∀ run', current' = some run' →
      ∃ run, current = some run ∧ run'.snapshot = run.snapshot ∧ c.Live run'.task) :
    (c.after event).Sound stale' current' := by
  have hraises := h.raises_after hpublisher
  have hserial : c.publisher.nextSerial ≤ (c.after event).publisher.nextSerial := by
    rw [hpublisher]
    exact Nat.le_refl _
  -- neither the generation nor the origin of an old task changes
  refine ⟨?_, ?_, ?_, ?_⟩
  · rw [hpublisher, hraises]
    rfl
  · intro task htask
    exact (hspent task htask).after hserial
  · intro run' hrun'
    obtain ⟨-, -, -, hlive⟩ := hcurrent run' hrun'
    exact hlive.after hraises hserial
  · intro run' hrun'
    obtain ⟨run, hrun, hsnapshot, -⟩ := hcurrent run' hrun'
    rw [hraises, hsnapshot, log_after]
    exact List.mem_append_left _ (h.started run hrun)

/-- An event may make a task, and with it a run that is in progress from then on. -/
theorem after_fresh (h : c.Sound stale current) {run : Run} {publication : Publication}
    (hpublisher : (c.after event).publisher =
      arranged (UInt64.ofNat (c.after event).raises) stale (some run) (c.publisher.nextSerial + 1))
    (htask : run.task = freshTask (UInt64.ofNat (c.after event).raises) c.publisher.nextSerial
      publication (Network.contact c.node.network) c.node.now)
    (hstarted : .started (c.after event).raises run.snapshot ∈ (c.after event).log) :
    (c.after event).Sound stale (some run) := by
  have hserial : c.publisher.nextSerial < (c.after event).publisher.nextSerial := by
    rw [hpublisher]
    exact Nat.lt_succ_self _
  refine ⟨?_, ?_, ?_, ?_⟩
  · rw [hpublisher]
    rfl
  · intro task htask
    exact (h.spent task htask).after hserial.le
  · rintro _ ⟨⟩
    rw [htask]
    exact live_freshTask publication hserial
  · rintro _ ⟨⟩
    exact hstarted

/-- An event that leaves the run alone and has no news is no move. -/
theorem proceeds_same (h : c.Sound stale current)
    (hpublisher : (c.after event).publisher =
      arranged (UInt64.ofNat c.raises) stale' current c.publisher.nextSerial)
    (hspent : ∀ task ∈ stale', c.Spent task) (hnews : c.news event = []) :
    Proceeds c current event := by
  refine ⟨stale', current, ?_, .same (h.raises_after hpublisher) ?_⟩
  · exact h.after_keep hpublisher hspent fun run hrun => ⟨run, hrun, rfl, h.live run hrun⟩
  · rw [log_after, hnews, List.append_nil]

/-- A halt gives the run up. -/
theorem proceeds_halt (h : c.Sound stale current)
    (hpublisher : (c.after event).publisher = c.publisher.halt.publisher)
    (hnews : c.news event = [.halted c.raises]) : Proceeds c current event := by
  rw [h.publisher, halt_arranged h.aborted] at hpublisher
  have hraises := h.raises_after_add_one hpublisher
  have hserial : c.publisher.nextSerial ≤ (c.after event).publisher.nextSerial := by
    rw [hpublisher]
    exact Nat.le_refl _
  refine ⟨givenUp stale current, none, ⟨?_, ?_, ?_, ?_⟩, .halt hraises ?_⟩
  · rw [hpublisher, hraises, UInt64.ofNat_add]
    rfl
  · intro task htask
    rcases List.mem_append.mp htask with hold | hhalted
    · exact (h.spent task hold).after hserial
    · -- the task of the halted run belongs to an earlier run from now on
      cases current with
      | none => cases hhalted
      | some run =>
        obtain rfl : task = { run.task with aborted := true } := by simpa using hhalted
        exact (h.live run rfl).spent_after hraises hserial
  · rintro _ ⟨⟩
  · rintro _ ⟨⟩
  · rw [log_after, hnews]

/-- A turn that finds something to publish begins a run. -/
theorem proceeds_start (h : c.Sound stale none) {publication : Publication}
    {rest : List Publication}
    (hpublisher : (c.after event).publisher =
      (c.publisher.tick true (publication :: rest) (Network.contact c.node.network)
        c.node.now).publisher)
    (hnews : c.news event = [.started (c.raises + 1) (publication :: rest)]) :
    Proceeds c none event := by
  rw [h.publisher, tick_arranged_start] at hpublisher
  have hraises := h.raises_after_add_one hpublisher
  have hlog : (c.after event).log =
      c.log ++ [.started (c.after event).raises (publication :: rest)] := by
    rw [log_after, hnews, hraises]
  have hgeneration : UInt64.ofNat c.raises + 1 = UInt64.ofNat (c.after event).raises := by
    rw [hraises, UInt64.ofNat_add]
    rfl
  rw [hgeneration] at hpublisher
  refine ⟨stale, _, h.after_fresh hpublisher rfl ?_, .start hraises hlog rfl⟩
  rw [hlog]
  exact List.mem_append_right _ (List.mem_singleton_self _)

/-- The conclusion of the store that the run waits for takes the run on or ends it. -/
theorem proceeds_conclude (h : c.Sound stale (some run))
    (hpublisher : (c.after event).publisher =
      (c.publisher.conclude run.task.serial result (Network.contact c.node.network)
        c.node.now).publisher)
    (hnews : c.news event = c.outcome run.task.serial result) (hcalled : run.task.isCalled = true) :
    Proceeds c (some run) event := by
  have hgeneration := (h.live run rfl).generation
  have hlog : (c.after event).log = c.log ++
      [.finished c.raises run.task.serial run.task.publication result c.node.now] := by
    rw [log_after, hnews, h.outcome_current]
  rw [h.publisher] at hpublisher
  cases result with
  | error error =>
    rw [conclude_arranged_current h.serial_ne hgeneration] at hpublisher
    refine ⟨stale, none, ?_, .fail (h.raises_after hpublisher) hlog⟩
    refine h.after_keep hpublisher h.spent ?_
    rintro _ ⟨⟩
  | ok receipt =>
    cases hrest : run.rest with
    | nil =>
      rw [conclude_arranged_ok_nil h.serial_ne hgeneration hrest] at hpublisher
      refine ⟨stale, none, ?_, .last (h.raises_after hpublisher) hlog hcalled hrest⟩
      refine h.after_keep hpublisher h.spent ?_
      rintro _ ⟨⟩
    | cons publication rest =>
      rw [conclude_arranged_ok_cons h.serial_ne hgeneration hrest] at hpublisher
      have hraises := h.raises_after hpublisher
      rw [← hraises] at hpublisher
      refine ⟨stale, _, h.after_fresh hpublisher rfl ?_, .next hraises hlog hcalled hrest rfl⟩
      -- the next task takes the next publication of the same snapshot
      have hsnapshot : run.snapshot =
          run.taken ++ [run.task.publication] ++ publication :: rest := by
        simp [Run.snapshot, hrest]
      have hstarted := h.started run rfl
      rw [hsnapshot] at hstarted
      rw [hraises, hlog]
      exact List.mem_append_left _ hstarted

/-! ## One event -/

/-- A turn of the publisher halts, begins a run or does nothing. -/
theorem proceeds_tick (h : c.Sound stale current) : Proceeds c current .tick := by
  by_cases hready : Network.isReady c.node.network = true
  · -- the node is ready: what happens depends on the run in progress and on the snapshot
    have hpublisher : (c.after .tick).publisher =
        (c.publisher.tick true c.node.catalogue.snapshot (Network.contact c.node.network)
          c.node.now).publisher := by
      rw [← hready]
      exact publisher_after_tick c
    have hnews : c.news .tick =
        if !c.publisher.isRunning && (c.after .tick).publisher.isRunning then
          [.started (c.raises + 1) c.node.catalogue.snapshot]
        else [] := by
      rw [news, hready]
      rfl
    cases hcurrent : current with
    | some run =>
      subst hcurrent
      have hrunning : c.publisher.isRunning = true := by
        rw [h.publisher]
        rfl
      refine h.proceeds_same (hpublisher.trans ?_) h.spent (by simp [hnews, hrunning])
      rw [tick_of_isRunning hrunning]
      exact h.publisher
    | none =>
      subst hcurrent
      have hrunning : c.publisher.isRunning = false := by
        rw [h.publisher]
        rfl
      cases hsnapshot : c.node.catalogue.snapshot with
      | nil =>
        rw [hsnapshot, tick_nil] at hpublisher
        refine h.proceeds_same (hpublisher.trans h.publisher) h.spent ?_
        rw [hnews, hpublisher, hrunning]
        rfl
      | cons publication rest =>
        rw [hsnapshot] at hpublisher hnews
        refine h.proceeds_start hpublisher ?_
        rw [hnews, hpublisher, hrunning, h.publisher, tick_arranged_start]
        rfl
  · -- the node is not ready: the turn is a halt
    refine h.proceeds_halt ?_ ?_
    · have htick := publisher_after_tick c
      rw [eq_false_of_ne_true hready] at htick
      exact htick
    · rw [news, eq_false_of_ne_true hready]
      rfl

/-- Beginning a task calls the network for the run in progress or does nothing to it. -/
theorem proceeds_begin (h : c.Sound stale current) (serial : Nat) :
    Proceeds c current (.begin serial) := by
  have hpublisher := publisher_after_begin c serial
  have hnews := news_begin c serial
  -- either the task has been given up, or it is the one that the run in progress waits for
  by_cases hserial : ∀ run, current = some run → run.task.serial ≠ serial
  · rw [h.publisher, begin_arranged_of_ne hserial h.aborted] at hpublisher hnews
    exact h.proceeds_same hpublisher
      (fun task htask => h.spent task (List.mem_of_mem_filter htask)) hnews
  · push Not at hserial
    obtain ⟨run, rfl, rfl⟩ := hserial
    have hlive := h.live run rfl
    cases hcalled : run.task.isCalled with
    | true =>
      -- the network is not called twice
      rw [h.publisher, begin_arranged_called h.serial_ne hlive.aborted hcalled] at hpublisher hnews
      exact h.proceeds_same hpublisher h.spent hnews
    | false =>
      have hstage : run.task.stage = .queued := by
        unfold Task.isCalled at hcalled
        split at hcalled
        · assumption
        · cases hcalled
      rw [h.publisher, begin_arranged_queued h.serial_ne hlive.aborted hstage] at hpublisher hnews
      refine ⟨stale, some (run.atStage .awaiting), ?_,
        .call (h.raises_after hpublisher) ?_ hcalled⟩
      · refine h.after_keep hpublisher h.spent ?_
        rintro _ ⟨⟩
        exact ⟨run, rfl, rfl, hlive.atStage .awaiting⟩
      · rw [log_after, hnews]

/-- An answer is heard by the task of the run or does nothing to the run. -/
theorem proceeds_answer (h : c.Sound stale current) (serial : Nat)
    (result : Except Error Receipt) : Proceeds c current (.answer serial result) := by
  have hpublisher := publisher_after_answer c serial result
  rw [h.publisher] at hpublisher
  by_cases hserial : ∀ run, current = some run → run.task.serial ≠ serial
  · rw [answer_arranged_of_ne hserial] at hpublisher
    refine h.proceeds_same hpublisher ?_ rfl
    intro task htask
    obtain ⟨old, hold, rfl⟩ := List.mem_map.mp htask
    split
    · obtain ⟨stage, hhear⟩ := old.exists_hear_eq result
      rw [hhear]
      exact (h.spent old hold).atStage stage
    · exact h.spent old hold
  · push Not at hserial
    obtain ⟨run, rfl, rfl⟩ := hserial
    rw [answer_arranged_current h.serial_ne] at hpublisher
    refine ⟨stale, _, ?_, .hear result (h.raises_after hpublisher) (List.append_nil c.log)⟩
    refine h.after_keep hpublisher h.spent ?_
    rintro _ ⟨⟩
    obtain ⟨stage, hhear⟩ := run.task.exists_hear_eq result
    rw [hhear]
    exact ⟨run, rfl, rfl, (h.live run rfl).atStage stage⟩

/-- Polling a task again concludes the store of the run or does nothing to it. -/
theorem proceeds_resume (h : c.Sound stale current) (serial : Nat) :
    Proceeds c current (.resume serial) := by
  have hpublisher := publisher_after_resume c serial
  have hnews := news_resume c serial
  by_cases hserial : ∀ run, current = some run → run.task.serial ≠ serial
  · rw [h.publisher, answer?_arranged_of_ne hserial h.aborted] at hnews
    rw [h.publisher, resume_arranged_of_ne hserial h.aborted] at hpublisher
    exact h.proceeds_same hpublisher
      (fun task htask => h.spent task (List.mem_of_mem_filter htask)) hnews
  · push Not at hserial
    obtain ⟨run, rfl, rfl⟩ := hserial
    have hlive := h.live run rfl
    cases hanswer : c.publisher.answer? run.task.serial with
    | none =>
      -- the network has not answered yet
      rw [hanswer] at hnews
      rw [h.publisher] at hanswer hpublisher
      rw [resume_arranged_of_answer?_eq_none h.serial_ne hlive.aborted hanswer] at hpublisher
      exact h.proceeds_same hpublisher h.spent hnews
    | some result =>
      rw [resume_of_answer? hanswer] at hpublisher
      rw [hanswer] at hnews
      refine h.proceeds_conclude hpublisher hnews ?_
      rw [h.publisher, answer?_arranged_current h.serial_ne hlive.aborted] at hanswer
      unfold Task.isCalled
      cases hstage : run.task.stage with
      | queued => simp [hstage] at hanswer
      | awaiting => rfl
      | answered result => rfl

/-- A store that is completed concludes that of the run or does nothing to it. -/
theorem proceeds_concluded (h : c.Sound stale current) (hbounded : c.Bounded) (serial : Nat)
    (result : Except Error Receipt)
    (hallowed : c.allows (.conclude serial result) = true) :
    Proceeds c current (.conclude serial result) := by
  have hpublisher := publisher_after_conclude c serial result
  by_cases hserial : ∀ run, current = some run → run.task.serial ≠ serial
  · rw [h.publisher, conclude_arranged_of_ne hserial (h.generation_ne hbounded)] at hpublisher
    exact h.proceeds_same hpublisher
      (fun task htask => h.spent task (List.mem_of_mem_filter htask)) (h.outcome_of_ne hserial)
  · push Not at hserial
    obtain ⟨run, rfl, rfl⟩ := hserial
    refine h.proceeds_conclude hpublisher rfl ?_
    rw [allows, h.publisher, task?_arranged_current h.serial_ne] at hallowed
    exact hallowed

/-- Every event that can happen is one of the moves, and it leaves the chronicle sound. -/
theorem proceeds (h : c.Sound stale current) (hbounded : c.Bounded) (event : Event ν σ)
    (hallowed : c.allows event = true) : Proceeds c current event := by
  cases event with
  | tick => exact h.proceeds_tick
  | stop => exact h.proceeds_halt (publisher_after_stop c) rfl
  | begin serial => exact h.proceeds_begin serial
  | answer serial result => exact h.proceeds_answer serial result
  | resume serial => exact h.proceeds_resume serial
  | conclude serial result => exact h.proceeds_concluded hbounded serial result hallowed
  | change network catalogue now => exact h.proceeds_same h.publisher h.spent rfl

end Sound

/-! ## Chronicles from the start -/

/-- No task around is older than generations can tell. -/
theorem Reachable.bounded (h : c.Reachable) : c.Bounded := by
  cases h with
  | start publisher raises log =>
    intro task htask
    rw [publisher] at htask
    cases htask
  | step earlier event allowed bounded => exact bounded

/-- Every chronicle is sound for some tasks that have been given up and some run. -/
theorem Reachable.exists_sound (h : c.Reachable) : ∃ stale current, c.Sound stale current := by
  induction h with
  | start publisher raises log =>
    refine ⟨[], none, ?_, ?_, ?_, ?_⟩
    · rw [publisher, raises]
      rfl
    · rintro _ ⟨⟩
    · rintro _ ⟨⟩
    · rintro _ ⟨⟩
  | step earlier event allowed bounded ih =>
    obtain ⟨stale, current, hsound⟩ := ih
    obtain ⟨stale', current', hsound', -⟩ := hsound.proceeds earlier.bounded event allowed
    exact ⟨stale', current', hsound'⟩

/-! ## Runs and stores -/

/-- A run is in progress exactly when one store is outstanding: at any time there is one task that
is neither over nor given up if a run is in progress, and none if not. That task is the one that the
run waits for, it bears the present generation, and what it stores is the publication that was taken
last from the snapshot which the run was begun with. -/
theorem one_live_task_iff_isRunning (h : c.Reachable) :
    c.publisher.liveTasks.length = (if c.publisher.isRunning then 1 else 0) ∧
      c.publisher.inFlight.isSome = c.publisher.pending.isSome ∧
      ∀ task ∈ c.publisher.liveTasks,
        task.generation = c.publisher.generation ∧
        c.publisher.inFlight = some task.serial ∧
        ∃ snapshot taken rest, .started c.raises snapshot ∈ c.log ∧
          c.publisher.pending = some rest ∧ snapshot = taken ++ task.publication :: rest := by
  obtain ⟨stale, current, hsound⟩ := h.exists_sound
  have hpending : c.publisher.pending = current.map Run.rest := by
    rw [hsound.publisher]
    rfl
  have hinFlight : c.publisher.inFlight = current.map fun run => run.task.serial := by
    rw [hsound.publisher]
    rfl
  -- from here all is said of the run in progress, if there is one
  rw [hsound.liveTasks_eq, isRunning, hpending, hinFlight, hsound.generation]
  cases current with
  | none => simp
  | some run =>
    refine ⟨rfl, rfl, fun task htask => ?_⟩
    obtain rfl : task = run.task := by simpa using htask
    refine ⟨(hsound.live run rfl).generation, rfl, run.snapshot, run.taken, run.rest, ?_, rfl, rfl⟩
    exact hsound.started run rfl

/-- A store that was given up is concluded after a second run has begun. The task of the second run
stays the only one, and the run goes on. -/
theorem one_live_task_after_late_conclusion :
    let contact : Contact := ⟨.ones, .ofOctets 82 1 2 3 4000⟩
    let publication : Publication := ⟨0, .zero, ⟨.test, ⟨1, 0⟩, [118], by decide⟩⟩
    let fresh : Node Scripted Shelf := .ofSettings {} { contact } 0 0
    let node : Node Scripted Shelf :=
      { fresh with
        catalogue :=
          { sources := [{ publications := [publication] }]
            entries := Table.empty.insertLast ValueType.test.code 0 } }
    let start : Chronicle Scripted Shelf := { node, originOf := fun _ => ⟨0, contact, 0⟩ }
    let late : Event Scripted Shelf := .conclude 0 (.ok { key := .zero, locations := [] })
    let c := start.afterAll [.tick, .begin 0, .stop, .tick, late]
    c.Reachable ∧ c.raises = 3 ∧ c.publisher.tasks.map Task.serial = [1] ∧
      c.publisher.isRunning = true ∧ c.publisher.liveTasks.length = 1 := by
  intro contact publication fresh node start late c
  have hstart : start.Reachable := .start rfl rfl rfl
  have hc : c.Reachable := hstart.afterAll _ (by decide) (by decide)
  have hrunning : c.publisher.isRunning = true := by decide
  have hcount := (one_live_task_iff_isRunning hc).1
  rw [hrunning, if_pos rfl] at hcount
  exact ⟨hc, by decide, by decide, hrunning, hcount⟩

end OverlayStore.Chronicle
