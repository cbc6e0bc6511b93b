import Mathlib.Data.List.Forall2
import OverlayStore.Proofs.Publisher.Progress

/-!
# The stores of a run

What the log of a chronicle tells of one run: its calls into the network are, in order, for the
records of a prefix of the snapshot that the run was begun with. Each call comes after all earlier
ones have succeeded, none comes after a failure or a halt, and where all stores have succeeded there
was one call for each publication.
-/

namespace OverlayStore.Chronicle

open Publisher

/-- The record of a call is the one that the node makes of a publication for itself, with the
contact and the time of when the task was made. -/
def Call.Bears (publication : Publication) (call : Call) : Prop :=
  call.record =
    .own call.origin.contact publication.key publication.value call.origin.time

namespace Entry

/-- The run that an entry is about. -/
def run : Entry → Nat
  | started run _ => run
  | called call => call.origin.run
  | finished run .. => run
  | halted run => run

/-- The call of a run that an entry tells of. -/
def callOf? (run : Nat) : Entry → Option Call
  | called call => if call.origin.run = run then some call else none
  | _ => none

/-- The entry tells of a store of a run that succeeded. -/
def isSuccessOf (run : Nat) : Entry → Bool
  | finished own _ _ (.ok _) _ => own = run
  | _ => false

/-- The entry tells of a failure in a run, or of a halt at that run or a later one. -/
def Ends (run : Nat) : Entry → Prop
  | finished own _ _ (.error _) _ => own = run
  | halted own => run ≤ own
  | _ => False

/-- What ends a run belongs to that run or to a later one. -/
theorem not_ends_of_run_lt {run : Nat} {entry : Entry} (h : entry.run < run) :
    ¬ entry.Ends run := by
  cases entry with
  | started own snapshot => exact id
  | called call => exact id
  | finished own serial publication result time =>
    cases result with
    | ok receipt => exact id
    | error error => exact h.ne
  | halted own => exact Nat.not_le.mpr h

/-- The entry tells that a run was begun or that the network was called. -/
def isOpening : Entry → Bool
  | started .. | called _ => true
  | _ => false

end Entry

/-- The calls of a run, in order. -/
def calls (run : Nat) (log : List Entry) : List Call := log.filterMap (Entry.callOf? run)

/-- How many stores of a run have succeeded. -/
def successes (run : Nat) (log : List Entry) : Nat := log.countP (Entry.isSuccessOf run)

/-- The store of a task was completed with success while its run was in progress. -/
def Succeeded (run serial : Nat) (log : List Entry) : Prop :=
  ∃ publication receipt time, .finished run serial publication (.ok receipt) time ∈ log

section Log

variable {log : List Entry} {entry : Entry} {run serial : Nat} {call : Call}

/-- One more entry adds its call for the run, if it is one. -/
theorem calls_concat (run : Nat) (log : List Entry) (entry : Entry) :
    calls run (log ++ [entry]) = calls run log ++ (entry.callOf? run).toList := by
  rw [calls, List.filterMap_append, List.filterMap_cons, List.filterMap_nil]
  cases entry.callOf? run <;> rfl

theorem successes_concat (run : Nat) (log : List Entry) (entry : Entry) :
    successes run (log ++ [entry]) = successes run log + (entry.isSuccessOf run).toNat := by
  rw [successes, List.countP_append, List.countP_singleton]
  cases entry.isSuccessOf run <;> rfl

/-- The calls for a run are the calls in the log that were made for it. -/
theorem mem_calls_iff : call ∈ calls run log ↔ .called call ∈ log ∧ call.origin.run = run := by
  rw [calls, List.mem_filterMap]
  constructor
  · rintro ⟨entry, hentry, hcall⟩
    cases entry with
    | called other =>
      rw [Entry.callOf?] at hcall
      split at hcall
      · rename_i hrun
        cases hcall
        exact ⟨hentry, hrun⟩
      · cases hcall
    | _ => cases hcall
  · rintro ⟨hentry, hrun⟩
    exact ⟨.called call, hentry, if_pos hrun⟩

theorem Succeeded.concat (h : Succeeded run serial log) (entry : Entry) :
    Succeeded run serial (log ++ [entry]) := by
  obtain ⟨publication, receipt, time, hmem⟩ := h
  exact ⟨publication, receipt, time, List.mem_append_left _ hmem⟩

/-- Nothing is told of a run before it is begun. -/
theorem calls_eq_nil (hrun : ∀ entry ∈ log, entry.run < run) : calls run log = [] := by
  refine List.eq_nil_iff_forall_not_mem.mpr fun call hcall => ?_
  obtain ⟨hmem, rfl⟩ := mem_calls_iff.mp hcall
  exact absurd (hrun _ hmem) (Nat.lt_irrefl _)

/-- A run that has not begun yet has no successes. -/
theorem successes_eq_zero (hrun : ∀ entry ∈ log, entry.run < run) : successes run log = 0 := by
  refine List.countP_eq_zero.mpr fun entry hentry hsuccess => ?_
  have hlt := hrun entry hentry
  unfold Entry.isSuccessOf at hsuccess
  split at hsuccess
  · rw [Entry.run, of_decide_eq_true hsuccess] at hlt
    exact absurd hlt (Nat.lt_irrefl _)
  · cases hsuccess

end Log

/-- What the log tells of a run that was begun with a snapshot. -/
structure Sequence (log : List Entry) (run : Nat) (snapshot : List Publication) : Prop where
  /-- The calls are for the records of a prefix of the snapshot, in order. -/
  calls_bear : ∃ count ≤ snapshot.length,
    List.Forall₂ Call.Bears (snapshot.take count) (calls run log)
  /-- Before a call, the stores of all earlier calls have succeeded. -/
  calls_wait : ∀ earlier call, earlier ++ [.called call] <+: log → call.origin.run = run →
    ∀ before ∈ calls run earlier, Succeeded run before.serial earlier
  /-- There is no call after a failure or a halt. -/
  calls_stop : ∀ earlier call, earlier ++ [.called call] <+: log → call.origin.run = run →
    ∀ entry ∈ earlier, ¬ entry.Ends run
  /-- Where all stores have succeeded, there was a call for each publication. -/
  calls_suffice : successes run log = snapshot.length → (calls run log).length = snapshot.length

namespace Sequence

variable {log : List Entry} {run : Nat} {snapshot : List Publication} {entry : Entry}

/-- What is told of a run when it is begun. -/
theorem of_run_lt (hrun : ∀ entry ∈ log, entry.run < run) (hne : snapshot ≠ []) :
    Sequence (log ++ [.started run snapshot]) run snapshot := by
  have hcalls : calls run (log ++ [.started run snapshot]) = [] := by
    rw [calls_concat, calls_eq_nil hrun]
    rfl
  -- there is no call of the run yet, so nothing is said of any
  have hnone : ∀ earlier call, earlier ++ [.called call] <+: log ++ [.started run snapshot] →
      call.origin.run ≠ run := by
    intro earlier call hearlier hcall
    have hmem : call ∈ calls run (log ++ [.started run snapshot]) :=
      mem_calls_iff.mpr ⟨hearlier.subset (by simp), hcall⟩
    rw [hcalls] at hmem
    cases hmem
  refine ⟨⟨0, Nat.zero_le _, ?_⟩, ?_, ?_, ?_⟩
  · rw [hcalls]
    exact .nil
  · exact fun earlier call hearlier hcall => absurd hcall (hnone earlier call hearlier)
  · exact fun earlier call hearlier hcall => absurd hcall (hnone earlier call hearlier)
  · rw [successes_concat, successes_eq_zero hrun]
    intro hzero
    exact absurd (List.length_eq_zero_iff.mp hzero.symm) hne

/-- An entry that is no call of the run keeps what is told, if it is no success of the run or the
one that was still missing. -/
theorem concat (h : Sequence log run snapshot) (hcall : entry.callOf? run = none)
    (hsuccess : entry.isSuccessOf run = false ∨
      (calls run log).length = successes run log + 1) :
    Sequence (log ++ [entry]) run snapshot := by
  have hcalls : calls run (log ++ [entry]) = calls run log := by
    rw [calls_concat, hcall]
    exact List.append_nil _
  -- a prefix that ends in a call of the run does not reach the new entry
  have hold : ∀ earlier call, earlier ++ [.called call] <+: log ++ [entry] →
      call.origin.run = run → earlier ++ [.called call] <+: log := by
    intro earlier call hearlier hrun
    rcases List.prefix_concat_iff.mp hearlier with heq | hearlier
    · obtain ⟨-, rfl⟩ := List.append_singleton_inj.mp heq
      rw [Entry.callOf?, if_pos hrun] at hcall
      cases hcall
    · exact hearlier
  refine ⟨?_, ?_, ?_, ?_⟩
  · rw [hcalls]
    exact h.calls_bear
  · exact fun earlier call hearlier hrun =>
      h.calls_wait earlier call (hold earlier call hearlier hrun) hrun
  · exact fun earlier call hearlier hrun =>
      h.calls_stop earlier call (hold earlier call hearlier hrun) hrun
  · rw [hcalls, successes_concat]
    rcases hsuccess with hsuccess | hsuccess
    · rw [hsuccess]
      exact h.calls_suffice
    · intro hlength
      cases hentry : entry.isSuccessOf run with
      | false =>
        rw [hentry] at hlength
        exact h.calls_suffice hlength
      | true =>
        rw [hentry] at hlength
        exact hsuccess.trans hlength

/-- A call of the run keeps what is told, if it is for the next publication, all earlier stores have
succeeded and nothing has ended the run. -/
theorem concat_called {call : Call} {taken rest : List Publication} {publication : Publication}
    (h : Sequence log run snapshot) (hsnapshot : snapshot = taken ++ publication :: rest)
    (hrun : call.origin.run = run) (hcall : Call.Bears publication call)
    (hcalls : List.Forall₂ Call.Bears taken (calls run log))
    (hwait : ∀ before ∈ calls run log, Succeeded run before.serial log)
    (hstop : ∀ entry ∈ log, ¬ entry.Ends run) :
    Sequence (log ++ [.called call]) run snapshot := by
  have hconcat : calls run (log ++ [.called call]) = calls run log ++ [call] := by
    rw [calls_concat, Entry.callOf?, if_pos hrun]
    rfl
  -- a prefix that ends in a call ends in the new one or is one of the old log
  have hlast : ∀ earlier other, earlier ++ [.called other] <+: log ++ [.called call] →
      earlier = log ∨ earlier ++ [.called other] <+: log := by
    intro earlier other hearlier
    rcases List.prefix_concat_iff.mp hearlier with heq | hearlier
    · exact .inl (List.append_singleton_inj.mp heq).1
    · exact .inr hearlier
  refine ⟨⟨taken.length + 1, ?_, ?_⟩, ?_, ?_, ?_⟩
  · rw [hsnapshot, List.length_append, List.length_cons]
    omega
  · rw [hconcat, hsnapshot, List.take_length_add_append, List.take_succ_cons, List.take_zero]
    exact List.rel_append hcalls (.cons hcall .nil)
  · intro earlier other hearlier hother
    rcases hlast earlier other hearlier with rfl | hearlier
    · exact hwait
    · exact h.calls_wait earlier other hearlier hother
  · intro earlier other hearlier hother
    rcases hlast earlier other hearlier with rfl | hearlier
    · exact hstop
    · exact h.calls_stop earlier other hearlier hother
  · -- with a publication left, there are too few calls for all stores to have succeeded
    rw [successes_concat, hconcat]
    intro hsuccesses
    have hlength := h.calls_suffice hsuccesses
    rw [← hcalls.length_eq, hsnapshot, List.length_append, List.length_cons] at hlength
    omega

end Sequence

/-- Where all stores of a run have succeeded, the calls are for the records of the snapshot. -/
theorem Sequence.calls_bear_all {log : List Entry} {run : Nat} {snapshot : List Publication}
    (h : Sequence log run snapshot) (hsuccesses : successes run log = snapshot.length) :
    List.Forall₂ Call.Bears snapshot (calls run log) := by
  -- as many calls as publications make the prefix the whole snapshot
  obtain ⟨count, hcount, hcalls⟩ := h.calls_bear
  have hlength := hcalls.length_eq
  rw [h.calls_suffice hsuccesses, List.length_take_of_le hcount] at hlength
  rwa [hlength, List.take_length] at hcalls

/-! ## The run in progress -/

/-- What the log tells of the run in progress. -/
structure Tells (log : List Entry) (raises : Nat) (run : Run) : Prop where
  started : .started raises run.snapshot ∈ log
  successes : successes raises log = run.taken.length
  calls : List.Forall₂ Call.Bears
    (if run.task.isCalled then run.taken ++ [run.task.publication] else run.taken)
    (calls raises log)
  waits : ∀ call ∈ Chronicle.calls raises log, Succeeded raises call.serial log ∨
    run.task.isCalled = true ∧ call.serial = run.task.serial
  going : ∀ entry ∈ log, ¬ entry.Ends raises

namespace Tells

variable {log : List Entry} {raises : Nat} {run : Run}

/-- Before the network is called, the calls bear what has been stored. -/
theorem calls_of_queued (h : Tells log raises run) (hqueued : run.task.isCalled = false) :
    List.Forall₂ Call.Bears run.taken (Chronicle.calls raises log) := by
  have hcalls := h.calls
  rwa [if_neg (Bool.eq_false_iff.mp hqueued)] at hcalls

/-- Once the network has been called, the last call bears what is being stored. -/
theorem calls_of_called (h : Tells log raises run) (hcalled : run.task.isCalled = true) :
    List.Forall₂ Call.Bears (run.taken ++ [run.task.publication])
      (Chronicle.calls raises log) := by
  have hcalls := h.calls
  rwa [if_pos hcalled] at hcalls

/-- While a run has not called the network for its task, all its earlier stores have succeeded. -/
theorem succeeded_of_queued (h : Tells log raises run) (hqueued : run.task.isCalled = false) :
    ∀ call ∈ Chronicle.calls raises log, Succeeded raises call.serial log := by
  intro call hcall
  rcases h.waits call hcall with hsucceeded | ⟨hcalled, -⟩
  · exact hsucceeded
  · exact absurd (hqueued.symm.trans hcalled) Bool.false_ne_true

/-- While a store is outstanding, there is one call more than there are successes. -/
theorem length_calls (h : Tells log raises run) (hcalled : run.task.isCalled = true) :
    (Chronicle.calls raises log).length = Chronicle.successes raises log + 1 := by
  have hlength := (h.calls_of_called hcalled).length_eq
  rw [List.length_append] at hlength
  rw [h.successes]
  exact hlength.symm

/-- While a run is in progress, not all of its stores have succeeded. -/
theorem successes_lt (h : Tells log raises run) :
    Chronicle.successes raises log < run.snapshot.length := by
  rw [h.successes, Run.snapshot, List.length_append, List.length_cons]
  omega

/-- A run is begun. -/
theorem concat_started (hrun : ∀ entry ∈ log, entry.run < raises) {task : Task}
    {rest : List Publication} (hqueued : task.isCalled = false) :
    Tells (log ++ [.started raises (task.publication :: rest)]) raises ⟨[], task, rest⟩ := by
  have hcalls : Chronicle.calls raises
      (log ++ [.started raises (task.publication :: rest)]) = [] := by
    rw [calls_concat, calls_eq_nil hrun]
    rfl
  refine ⟨?_, ?_, ?_, ?_, ?_⟩
  · exact List.mem_append_right _ (List.mem_singleton_self _)
  · rw [successes_concat, successes_eq_zero hrun]
    rfl
  · rw [hcalls, if_neg (Bool.eq_false_iff.mp hqueued)]
    exact .nil
  · rw [hcalls]
    rintro _ ⟨⟩
  · rw [List.forall_mem_append, List.forall_mem_singleton]
    exact ⟨fun entry hmem => Entry.not_ends_of_run_lt (hrun entry hmem), id⟩

/-- The network is called for the task of the run. -/
theorem concat_called (h : Tells log raises run) {call : Call} (hrun : call.origin.run = raises)
    (hserial : call.serial = run.task.serial) (hcall : Call.Bears run.task.publication call)
    (hqueued : run.task.isCalled = false) :
    Tells (log ++ [.called call]) raises (run.atStage .awaiting) := by
  have hconcat : Chronicle.calls raises (log ++ [.called call]) =
      Chronicle.calls raises log ++ [call] := by
    rw [calls_concat, Entry.callOf?, if_pos hrun]
    rfl
  -- the task has just been queued, so all earlier calls of its run have succeeded
  have hwait := h.succeeded_of_queued hqueued
  refine ⟨List.mem_append_left _ h.started, ?_, ?_, ?_, ?_⟩
  · rw [successes_concat]
    exact h.successes
  · rw [hconcat]
    exact List.rel_append (h.calls_of_queued hqueued) (.cons hcall .nil)
  · rw [hconcat, List.forall_mem_append, List.forall_mem_singleton]
    exact ⟨fun other hmem => .inl ((hwait other hmem).concat _), .inr ⟨rfl, hserial⟩⟩
  · rw [List.forall_mem_append, List.forall_mem_singleton]
    exact ⟨h.going, id⟩

/-- The store of the run's task succeeds, and the run goes on with another task. -/
theorem concat_succeeded (h : Tells log raises run) (hcalled : run.task.isCalled = true)
    (receipt : Receipt) (time : Time) {next : Run} (hsnapshot : next.snapshot = run.snapshot)
    (htaken : next.taken = run.taken ++ [run.task.publication])
    (hqueued : next.task.isCalled = false) :
    Tells (log ++ [.finished raises run.task.serial run.task.publication (.ok receipt) time]) raises
      next := by
  have hcalls : Chronicle.calls raises
      (log ++ [.finished raises run.task.serial run.task.publication (.ok receipt) time]) =
        Chronicle.calls raises log := by
    rw [calls_concat]
    exact List.append_nil _
  refine ⟨?_, ?_, ?_, ?_, ?_⟩
  · rw [hsnapshot]
    exact List.mem_append_left _ h.started
  · rw [successes_concat, h.successes, htaken, List.length_append]
    simp [Entry.isSuccessOf]
  · rw [hcalls, if_neg (Bool.eq_false_iff.mp hqueued), htaken]
    exact h.calls_of_called hcalled
  · rw [hcalls]
    intro call hmem
    rcases h.waits call hmem with hsucceeded | ⟨-, hserial⟩
    · exact .inl (hsucceeded.concat _)
    · -- the call that was still waiting has just succeeded
      rw [hserial]
      exact .inl ⟨_, receipt, time, List.mem_append_right _ (List.mem_singleton_self _)⟩
  · rw [List.forall_mem_append, List.forall_mem_singleton]
    exact ⟨h.going, id⟩

/-- The network answers the task of the run. -/
theorem hear (h : Tells log raises run) (result : Except Error Receipt) :
    Tells log raises { run with task := run.task.hear result } := by
  obtain ⟨stage, hhear⟩ := run.task.exists_hear_eq result
  have hcalled := run.task.isCalled_hear result
  rw [hhear] at hcalled ⊢
  refine ⟨h.started, h.successes, ?_, ?_, h.going⟩
  · rw [hcalled]
    exact h.calls
  · rw [hcalled]
    exact h.waits

end Tells

/-! ## The whole log -/

/-- What the log tells of all runs. -/
structure Told (log : List Entry) (raises : Nat) (current : Option Run) : Prop where
  run_le : ∀ entry ∈ log, entry.run ≤ raises
  started : ∀ call, .called call ∈ log → ∃ snapshot, .started call.origin.run snapshot ∈ log
  unique : ∀ run first second, .started run first ∈ log → .started run second ∈ log →
    first = second
  sequence : ∀ run snapshot, .started run snapshot ∈ log → Sequence log run snapshot
  current : ∀ run, current = some run → Tells log raises run

namespace Told

variable {log : List Entry} {raises : Nat} {current : Option Run} {entry : Entry} {run : Run}

theorem nil : Told [] raises none := by
  refine ⟨?_, ?_, ?_, ?_, ?_⟩
  · rintro _ ⟨⟩
  · rintro _ ⟨⟩
  · rintro _ _ _ ⟨⟩
  · rintro _ _ ⟨⟩
  · rintro _ ⟨⟩

/-- An entry that is neither the start of a run nor a call keeps what is told, if a success is the
one that was still missing. -/
theorem concat (h : Told log raises current) {raises' : Nat} {current' : Option Run}
    (hrun : entry.run ≤ raises') (hraises : raises ≤ raises')
    (hopening : entry.isOpening = false)
    (hsuccess : ∀ run, entry.isSuccessOf run = true →
      (calls run log).length = successes run log + 1)
    (hcurrent : ∀ run, current' = some run → Tells (log ++ [entry]) raises' run) :
    Told (log ++ [entry]) raises' current' := by
  -- the new entry neither starts a run nor calls for one
  have hold : ∀ run snapshot, .started run snapshot ∈ log ++ [entry] →
      .started run snapshot ∈ log := by
    intro run snapshot hmem
    rcases List.mem_append.mp hmem with hmem | hmem
    · exact hmem
    · rw [← List.mem_singleton.mp hmem] at hopening
      cases hopening
  have hnone : ∀ run, entry.callOf? run = none := by
    intro run
    cases entry with
    | called call => cases hopening
    | _ => rfl
  refine ⟨?_, ?_, ?_, ?_, hcurrent⟩
  · rw [List.forall_mem_append, List.forall_mem_singleton]
    exact ⟨fun other hmem => (h.run_le other hmem).trans hraises, hrun⟩
  · intro call hmem
    rcases List.mem_append.mp hmem with hmem | hmem
    · obtain ⟨snapshot, hsnapshot⟩ := h.started call hmem
      exact ⟨snapshot, List.mem_append_left _ hsnapshot⟩
    · rw [← List.mem_singleton.mp hmem] at hopening
      cases hopening
  · exact fun run first second hfirst hsecond =>
      h.unique run first second (hold run first hfirst) (hold run second hsecond)
  · intro run snapshot hmem
    refine (h.sequence run snapshot (hold run snapshot hmem)).concat (hnone run) ?_
    cases hentry : entry.isSuccessOf run with
    | false => exact .inl rfl
    | true => exact .inr (hsuccess run hentry)

/-- A halt is told of the run in progress, and then none is in progress. -/
theorem concat_halted (h : Told log raises current) :
    Told (log ++ [.halted raises]) (raises + 1) none := by
  refine h.concat (Nat.le_succ raises) (Nat.le_succ raises) rfl ?_ ?_
  · rintro _ ⟨⟩
  · rintro _ ⟨⟩

/-- A failure is told of the run in progress, and then none is in progress. -/
theorem concat_failed (h : Told log raises current) (serial : Nat) (publication : Publication)
    (error : Error) (time : Time) :
    Told (log ++ [.finished raises serial publication (.error error) time]) raises none := by
  refine h.concat (Nat.le_refl _) (Nat.le_refl _) rfl ?_ ?_
  · rintro _ ⟨⟩
  · rintro _ ⟨⟩

/-- A success is told of the run in progress, which goes on with the next publication or is over. -/
theorem concat_succeeded (h : Told log raises (some run)) (hcalled : run.task.isCalled = true)
    (receipt : Receipt) (time : Time) {current' : Option Run}
    (hnext : ∀ next, current' = some next → next.snapshot = run.snapshot ∧
      next.taken = run.taken ++ [run.task.publication] ∧ next.task.isCalled = false) :
    Told (log ++ [.finished raises run.task.serial run.task.publication (.ok receipt) time]) raises
      current' := by
  have htells := h.current run rfl
  refine h.concat (Nat.le_refl _) (Nat.le_refl _) rfl ?_ ?_
  · intro other hother
    obtain rfl : raises = other := of_decide_eq_true hother
    exact htells.length_calls hcalled
  · intro next hrun
    obtain ⟨hsnapshot, htaken, hqueued⟩ := hnext next hrun
    exact htells.concat_succeeded hcalled receipt time hsnapshot htaken hqueued

/-- A run that is begun has no calls yet. -/
theorem concat_started (h : Told log raises none) {task : Task} {rest : List Publication}
    (hqueued : task.isCalled = false) :
    Told (log ++ [.started (raises + 1) (task.publication :: rest)]) (raises + 1)
      (some ⟨[], task, rest⟩) := by
  have hlt : ∀ entry ∈ log, entry.run < raises + 1 := fun entry hentry =>
    Nat.lt_succ_of_le (h.run_le entry hentry)
  -- the number of the new run is larger than all before, so its start is told apart by it
  have hcases : ∀ run snapshot,
      .started run snapshot ∈ log ++ [.started (raises + 1) (task.publication :: rest)] →
      (run ≤ raises ∧ .started run snapshot ∈ log) ∨
        run = raises + 1 ∧ snapshot = task.publication :: rest := by
    intro run snapshot hmem
    rcases List.mem_append.mp hmem with hmem | hmem
    · exact .inl ⟨h.run_le _ hmem, hmem⟩
    · cases List.mem_singleton.mp hmem
      exact .inr ⟨rfl, rfl⟩
  refine ⟨?_, ?_, ?_, ?_, ?_⟩
  · rw [List.forall_mem_append, List.forall_mem_singleton]
    exact ⟨fun entry hmem => (hlt entry hmem).le, Nat.le_refl _⟩
  · intro call hmem
    rcases List.mem_append.mp hmem with hmem | hmem
    · obtain ⟨snapshot, hsnapshot⟩ := h.started call hmem
      exact ⟨snapshot, List.mem_append_left _ hsnapshot⟩
    · cases List.mem_singleton.mp hmem
  · intro run first second hfirst hsecond
    rcases hcases run first hfirst with ⟨hle, hfirst⟩ | ⟨rfl, rfl⟩
    · rcases hcases run second hsecond with ⟨-, hsecond⟩ | ⟨rfl, -⟩
      · exact h.unique run first second hfirst hsecond
      · omega
    · rcases hcases _ second hsecond with ⟨hle, -⟩ | ⟨-, rfl⟩
      · omega
      · rfl
  · intro run snapshot hmem
    rcases hcases run snapshot hmem with ⟨hle, hmem⟩ | ⟨rfl, rfl⟩
    · exact (h.sequence run snapshot hmem).concat rfl (.inl rfl)
    · exact .of_run_lt hlt (List.cons_ne_nil _ _)
  · rintro _ ⟨⟩
    exact .concat_started hlt hqueued

/-- A call is told of the run in progress, for the publication that comes next. -/
theorem concat_called (h : Told log raises (some run)) {call : Call}
    (hrun : call.origin.run = raises) (hserial : call.serial = run.task.serial)
    (hcall : Call.Bears run.task.publication call) (hqueued : run.task.isCalled = false) :
    Told (log ++ [.called call]) raises (some (run.atStage .awaiting)) := by
  have htells := h.current run rfl
  have hold : ∀ run snapshot, .started run snapshot ∈ log ++ [.called call] →
      .started run snapshot ∈ log := by
    intro run snapshot hmem
    rcases List.mem_append.mp hmem with hmem | hmem
    · exact hmem
    · cases List.mem_singleton.mp hmem
  refine ⟨?_, ?_, ?_, ?_, ?_⟩
  · rw [List.forall_mem_append, List.forall_mem_singleton]
    exact ⟨h.run_le, hrun.le⟩
  · intro other hmem
    rcases List.mem_append.mp hmem with hmem | hmem
    · obtain ⟨snapshot, hsnapshot⟩ := h.started other hmem
      exact ⟨snapshot, List.mem_append_left _ hsnapshot⟩
    · cases List.mem_singleton.mp hmem
      rw [hrun]
      exact ⟨run.snapshot, List.mem_append_left _ htells.started⟩
  · exact fun run first second hfirst hsecond =>
      h.unique run first second (hold run first hfirst) (hold run second hsecond)
  · intro other snapshot hmem
    have hmem := hold other snapshot hmem
    by_cases hother : other = raises
    · -- the call belongs to this run, whose snapshot is that of the run in progress
      subst hother
      have hsnapshot := h.unique other snapshot run.snapshot hmem htells.started
      exact (h.sequence other snapshot hmem).concat_called hsnapshot hrun hcall
        (htells.calls_of_queued hqueued) (htells.succeeded_of_queued hqueued) htells.going
    · refine (h.sequence other snapshot hmem).concat ?_ (.inl rfl)
      exact if_neg fun heq => hother (heq.symm.trans hrun)
  · rintro _ ⟨⟩
    exact htells.concat_called hrun hserial hcall hqueued

/-- The log goes on telling the same of all runs, whatever move is made. -/
theorem move {ν σ : Type} {c c' : Chronicle ν σ} {stale : List Task} {current' : Option Run}
    (h : Told c.log c.raises current) (hsound : c.Sound stale current)
    (hmove : Move c c' current current') : Told c'.log c'.raises current' := by
  cases hmove with
  | same raises log =>
    rw [raises, log]
    exact h
  | halt raises log =>
    rw [raises, log]
    exact h.concat_halted
  | start raises log queued =>
    rw [raises] at log
    rw [raises, log]
    exact h.concat_started queued
  | @call run raises log queued =>
    rw [raises, log]
    have hlive := hsound.live run rfl
    exact h.concat_called hlive.run rfl hlive.record queued
  | @hear run result raises log =>
    rw [raises, log]
    refine ⟨h.run_le, h.started, h.unique, h.sequence, ?_⟩
    rintro _ ⟨⟩
    exact (h.current run rfl).hear result
  | next raises log called more queued =>
    rw [raises, log]
    refine h.concat_succeeded called _ _ ?_
    rintro _ ⟨⟩
    refine ⟨?_, rfl, queued⟩
    simp [Run.snapshot, more]
  | last raises log called done =>
    rw [raises, log]
    refine h.concat_succeeded called _ _ ?_
    rintro _ ⟨⟩
  | fail raises log =>
    rw [raises, log]
    exact h.concat_failed _ _ _ _

end Told

/-! ## Chronicles from the start -/

variable {ν σ : Type} [Network ν] [Source σ] {c : Chronicle ν σ}

/-- In every chronicle the log tells what has become of the runs. -/
theorem Reachable.exists_told (h : c.Reachable) :
    ∃ stale current, c.Sound stale current ∧ Told c.log c.raises current := by
  induction h with
  | start publisher raises log =>
    obtain ⟨stale, current, hsound⟩ := (Reachable.start publisher raises log).exists_sound
    -- a fresh publisher has nothing pending
    have hcurrent : current = none := by
      have hpending := congrArg Publisher.pending hsound.publisher
      rw [publisher] at hpending
      exact Option.map_eq_none_iff.mp hpending.symm
    subst hcurrent
    rw [log, raises]
    exact ⟨stale, none, hsound, Told.nil⟩
  | step earlier event allowed bounded ih =>
    obtain ⟨stale, current, hsound, htold⟩ := ih
    obtain ⟨stale', current', hsound', hmove⟩ := hsound.proceeds earlier.bounded event allowed
    exact ⟨stale', current', hsound', htold.move hsound hmove⟩

/-- The publisher's turn changes nothing on a node that is ready and has a run in progress. -/
theorem publish_of_isRunning {node : Node ν σ}
    (hready : Network.isReady node.network = true) (hrunning : node.publisher.isRunning = true) :
    node.publish = node := by
  rw [Node.publish, hready, tick_of_isRunning hrunning]
  rfl

/-- Every run stores a prefix of its snapshot, strictly in sequence, whatever happens to the network
and to the sources in between. Where all stores of a run have succeeded, there was one call for each
publication, and unless the generation was raised again, no run is in progress. Every call belongs
to a run that was begun with one snapshot. A turn that finds a run in progress on a node that is
ready changes nothing. -/
theorem sequence_of_started (h : c.Reachable) :
    (∀ run snapshot, .started run snapshot ∈ c.log →
      Sequence c.log run snapshot ∧
      (successes run c.log = snapshot.length →
        List.Forall₂ Call.Bears snapshot (calls run c.log) ∧
        (c.raises = run → c.publisher.isRunning = false))) ∧
    (∀ call, .called call ∈ c.log → ∃! snapshot, .started call.origin.run snapshot ∈ c.log) ∧
    (Network.isReady c.node.network = true → c.publisher.isRunning = true →
      c.node.publish = c.node ∧ c.news .tick = []) := by
  obtain ⟨stale, current, hsound, htold⟩ := h.exists_told
  refine ⟨fun run snapshot hstarted => ?_, ?_, ?_⟩
  · have hsequence := htold.sequence run snapshot hstarted
    refine ⟨hsequence, fun hsuccesses => ⟨hsequence.calls_bear_all hsuccesses, ?_⟩⟩
    rintro rfl
    cases current with
    | none =>
      rw [hsound.publisher]
      rfl
    | some run =>
      -- a run in progress has a store that has not succeeded yet
      have htells := htold.current run rfl
      have hsnapshot := htold.unique c.raises snapshot run.snapshot hstarted htells.started
      rw [hsnapshot] at hsuccesses
      exact absurd htells.successes_lt hsuccesses.not_lt
  · intro call hcall
    obtain ⟨snapshot, hstarted⟩ := htold.started call hcall
    refine ⟨snapshot, hstarted, fun other hother => ?_⟩
    exact htold.unique call.origin.run other snapshot hother hstarted
  · intro hready hrunning
    refine ⟨publish_of_isRunning hready hrunning, ?_⟩
    rw [news, hready, hrunning]
    rfl

/-- Two publications are stored one after the other: there are two calls, and the run is over. -/
theorem sequence_of_two_publications :
    let contact : Contact := ⟨.ones, .ofOctets 82 1 2 3 4000⟩
    let value : Value := ⟨.test, ⟨1, 0⟩, [118], by decide⟩
    let snapshot : List Publication := [⟨0, .zero, value⟩, ⟨1, .ones, value⟩]
    let fresh : Node Scripted Shelf := .ofSettings {} { contact } 0 0
    let node : Node Scripted Shelf :=
      { fresh with
        catalogue :=
          { sources := [{ publications := snapshot }]
            entries := Table.empty.insertLast ValueType.test.code 0 } }
    let start : Chronicle Scripted Shelf := { node, originOf := fun _ => ⟨0, contact, 0⟩ }
    let receipt (key : Key) : Except Error Receipt := .ok { key, locations := [contact] }
    let c := start.afterAll [.tick, .begin 0, .conclude 0 (receipt .zero), .tick, .begin 1,
      .conclude 1 (receipt .ones)]
    c.Reachable ∧ Sequence c.log 1 snapshot ∧ (calls 1 c.log).length = 2 ∧
      c.publisher.isRunning = false := by
  intro contact value snapshot fresh node start receipt c
  have hstart : start.Reachable := .start rfl rfl rfl
  have hc : c.Reachable := hstart.afterAll _ (by decide) (by decide)
  have hstarted : .started 1 snapshot ∈ c.log := List.mem_of_mem_head? rfl
  have hsuccesses : successes 1 c.log = snapshot.length := by decide
  obtain ⟨hsequence, hall⟩ := (sequence_of_started hc).1 1 snapshot hstarted
  obtain ⟨hcalls, hidle⟩ := hall hsuccesses
  exact ⟨hc, hsequence, hcalls.length_eq.symm, hidle (by decide)⟩

end OverlayStore.Chronicle
