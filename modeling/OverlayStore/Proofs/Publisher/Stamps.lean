import OverlayStore.Proofs.Metrics
import OverlayStore.Proofs.Publisher.Sequence
import OverlayStore.Proofs.Publisher.Turns

/-!
# The stamps of publications

The log of a chronicle tells of every store that was completed while its own run was in progress.
The publisher tells runs apart by generations, which repeat in the long run, but as long as no task
gets too old the two agree: a publication is stamped exactly by the successes that the log tells of.
So its stamp is that of the last one, and the two counters of the publisher are the numbers of
successes and of failures.
-/

namespace OverlayStore

/-! ## Ledgers -/

/-- A successful store of a publication, and when it was completed. -/
structure Publication.Stored where
  publication : Publication
  receipt : Receipt
  time : Time

namespace Ledger

/-- Note several successful stores, one after the other. -/
def stampAll (ledger : Ledger) (stores : List Publication.Stored) : Ledger :=
  stores.foldl (fun ledger stored =>
    ledger.stamp stored.publication stored.time stored.receipt.count) ledger

/-- The last store of a publication gives its stamp. -/
theorem stampOf_stampAll (ledger : Ledger) (stores : List Publication.Stored)
    (publication : Publication) :
    (ledger.stampAll stores).stampOf publication =
      match (stores.filter fun stored => stored.publication.id = publication.id).getLast? with
      | some stored => ⟨some stored.time, stored.receipt.count⟩
      | none => ledger.stampOf publication := by
  induction stores using List.reverseRecOn with
  | nil => rfl
  | append_singleton stores stored ih =>
    rw [stampAll, List.foldl_append, List.foldl_cons, List.foldl_nil, stampOf_stamp,
      List.filter_append]
    by_cases hsame : stored.publication.id = publication.id
    · simp [hsame, Receipt.count]
    · -- a store of another publication is passed over, and the stamp stays
      have hother : ([stored].filter fun stored => stored.publication.id = publication.id) = [] :=
        List.filter_eq_nil_iff.mpr fun other hother => by
          simpa [List.mem_singleton.mp hother] using hsame
      rw [if_neg (Ne.symm hsame), hother, List.append_nil]
      exact ih

end Ledger

namespace Chronicle

open Publisher

/-! ## What the log tells of stores -/

namespace Entry

/-- The successful store that an entry tells of. -/
def stored? : Entry → Option Publication.Stored
  | finished _ _ publication (.ok receipt) time => some ⟨publication, receipt, time⟩
  | _ => none

/-- The entry tells of a failure of a run in progress. -/
def isFailure : Entry → Bool
  | finished _ _ _ (.error _) _ => true
  | _ => false

/-- What is measured when an entry is made. -/
def updates (entry : Entry) : List Metric.Update :=
  (if entry.stored?.isSome then [⟨.published, 1⟩] else []) ++
    if entry.isFailure then [⟨.failed, 1⟩] else []

end Entry

/-- The successful stores of a log, in order. -/
def stores (log : List Entry) : List Publication.Stored := log.filterMap Entry.stored?

/-- The stamp that the log tells of: that of the last successful store. -/
def lastStamp (log : List Entry) (publication : Publication) : Stamp :=
  match ((stores log).filter fun stored => stored.publication.id = publication.id).getLast? with
  | some stored => ⟨some stored.time, stored.receipt.locations.length⟩
  | none => ⟨none, 0⟩

/-- An entry counts for the counter of its kind and for no other. -/
theorem sum_updates (log : List Entry) :
    ((log.flatMap Entry.updates).map fun update =>
        if update.metric = .published then update.amount else 0).sum = (stores log).length ∧
      ((log.flatMap Entry.updates).map fun update =>
        if update.metric = .failed then update.amount else 0).sum = log.countP Entry.isFailure := by
  induction log with
  | nil => exact ⟨rfl, rfl⟩
  | cons entry log ih =>
    simp only [List.flatMap_cons, List.map_append, List.sum_append, ih, stores,
      List.filterMap_cons, List.countP_cons]
    cases entry with
    | finished run serial publication result time =>
      cases result <;> simp [Entry.updates, Entry.stored?, Entry.isFailure, Nat.add_comm]
    | _ => simp [Entry.updates, Entry.stored?, Entry.isFailure]

variable {ν σ : Type} {c start : Chronicle ν σ} {stale : List Task} {current : Option Run}

/-! ## One event -/

/-- The generation of a task is the present one exactly if its own run is the latest. -/
theorem Sound.generation_eq_iff (h : c.Sound stale current) (hbounded : c.Bounded) {task : Task}
    (htask : task ∈ c.publisher.tasks) :
    c.publisher.generation = task.generation ↔ (c.originOf task.serial).run = c.raises := by
  rw [h.generation]
  rw [h.publisher] at htask
  rcases List.mem_append.mp htask with hstale | hcurrent
  · -- generations may repeat, but not as long as a task is around
    have hne := h.generation_ne hbounded task hstale
    have hlt := (h.spent task hstale).run_lt
    exact ⟨fun heq => absurd heq.symm hne, fun heq => absurd heq hlt.ne⟩
  · cases current with
    | none => cases hcurrent
    | some run =>
      have hlive := h.live run rfl
      rw [List.mem_singleton.mp hcurrent]
      exact ⟨fun _ => hlive.run, fun _ => hlive.generation.symm⟩

/-- A turn asks for what the entries of the log tell of. -/
structure Matches (turn : Turn) (now : Time) (news : List Entry) : Prop where
  stored : stores news = (turn.stored.map fun stored => ⟨stored.1, stored.2, now⟩).toList
  updates : turn.updates = news.flatMap Entry.updates

/-- A quiet turn matches news without any stores. -/
theorem Matches.of_isQuiet {turn : Turn} (hquiet : turn.IsQuiet) (now : Time) {news : List Entry}
    (hstores : stores news = []) (hupdates : news.flatMap Entry.updates = []) :
    Matches turn now news where
  stored := by rw [hquiet.stored, hstores]; rfl
  updates := hquiet.updates.trans hupdates.symm

/-- The conclusion of a store is taken into its run exactly if the log tells of it. -/
theorem Sound.matches_conclude (h : c.Sound stale current) (hbounded : c.Bounded) (serial : Nat)
    (result : Except Error Receipt) (contact : Contact) :
    Matches (c.publisher.conclude serial result contact c.node.now) c.node.now
      (c.outcome serial result) := by
  unfold Publisher.conclude outcome
  cases htask : c.publisher.task? serial with
  | none => exact ⟨rfl, rfl⟩
  | some task =>
    have hserial : task.serial = serial := by simpa using List.find?_some htask
    have hgeneration := h.generation_eq_iff hbounded (List.mem_of_find?_eq_some htask)
    rw [hserial] at hgeneration
    -- taking the task off the list leaves the generation and the run in progress
    have hignored : ((c.publisher.discard serial).generation ≠ task.generation ||
        !(c.publisher.discard serial).isRunning) =
          !(c.publisher.isRunning && (c.originOf serial).run = c.raises) := by
      have hsame : (c.publisher.discard serial).generation = c.publisher.generation ∧
        (c.publisher.discard serial).isRunning = c.publisher.isRunning := ⟨rfl, rfl⟩
      rw [hsame.1, hsame.2, Bool.not_and, Bool.or_comm]
      simp [hgeneration]
    dsimp only
    unfold complete
    rw [hignored]
    cases c.publisher.isRunning && (c.originOf serial).run = c.raises with
    | false => exact ⟨rfl, rfl⟩
    | true => cases result <;> exact ⟨rfl, rfl⟩

variable [Network ν] [Source σ]

/-- An event asks for what it adds to the log. -/
theorem Sound.matches_news (h : c.Sound stale current) (hbounded : c.Bounded) (event : Event ν σ) :
    Matches (event.turn c.node) c.node.now (c.news event) := by
  cases event with
  | tick =>
    -- of a turn, the log tells at most that a run was begun or halted
    have hnews : stores (c.news .tick) = [] ∧ (c.news .tick).flatMap Entry.updates = [] := by
      rw [news]
      split
      · exact ⟨rfl, rfl⟩
      · split <;> exact ⟨rfl, rfl⟩
    exact .of_isQuiet (isQuiet_tick _ _ _ _ _) _ hnews.1 hnews.2
  | stop => exact .of_isQuiet (isQuiet_halt _) _ rfl rfl
  | begin serial =>
    have hnews : stores (c.news (.begin serial)) = [] ∧
        (c.news (.begin serial)).flatMap Entry.updates = [] := by
      rw [news_begin]
      split <;> exact ⟨rfl, rfl⟩
    exact .of_isQuiet ⟨rfl, rfl⟩ _ hnews.1 hnews.2
  | answer serial result => exact .of_isQuiet ⟨rfl, rfl⟩ _ rfl rfl
  | resume serial =>
    cases hanswer : c.publisher.answer? serial with
    | none =>
      rw [news_resume, hanswer]
      exact .of_isQuiet (isQuiet_resume _ _ hanswer) _ rfl rfl
    | some result =>
      rw [news_resume, hanswer, Event.turn, resume_of_answer? hanswer]
      exact h.matches_conclude hbounded serial result _
  | conclude serial result => exact h.matches_conclude hbounded serial result _
  | change network catalogue now => exact .of_isQuiet ⟨rfl, rfl⟩ _ rfl rfl

/-- An event stamps what the log tells to be stored. -/
theorem Sound.ledger_after (h : c.Sound stale current) (hbounded : c.Bounded)
    (event : Event ν σ) :
    (c.after event).node.ledger = c.node.ledger.stampAll (stores (c.news event)) := by
  rw [(h.matches_news hbounded event).stored]
  refine (Event.obeys_apply c.node event).ledger.trans ?_
  cases (event.turn c.node).stored <;> rfl

/-- What is measured can be read off the news. -/
theorem Sound.recorder_after (h : c.Sound stale current) (hbounded : c.Bounded)
    (event : Event ν σ) :
    (c.after event).node.recorder =
      c.node.recorder.recordAll ((c.news event).flatMap Entry.updates) := by
  rw [← (h.matches_news hbounded event).updates]
  exact (Event.obeys_apply c.node event).recorder

/-! ## Histories -/

/-- Nothing has been published yet. -/
structure Fresh (start : Chronicle ν σ) : Prop where
  publisher : start.publisher = {}
  raises : start.raises = 0
  log : start.log = []
  stamps : ∀ publication, start.node.ledger.stampOf publication = {}
  published : start.node.recorder.figure .published = 0
  failed : start.node.recorder.figure .failed = 0

/-- The chronicles that come out of one chronicle. -/
inductive Follows (start : Chronicle ν σ) : Chronicle ν σ → Prop
  /-- Nothing has happened since. -/
  | refl : Follows start start
  /-- One event more has happened. -/
  | step {c : Chronicle ν σ} (earlier : Follows start c) (event : Event ν σ)
      (allowed : c.allows event = true) (bounded : (c.after event).Bounded) :
      Follows start (c.after event)

namespace Follows

theorem reachable (h : start.Follows c) (hstart : start.Fresh) : c.Reachable := by
  induction h with
  | refl => exact .start hstart.publisher hstart.raises hstart.log
  | step earlier event allowed bounded ih => exact ih.step event allowed bounded

/-- What a chronicle has stamped and measured is what its log tells of. -/
theorem agrees (h : start.Follows c) (hstart : start.Fresh) :
    c.node.ledger = start.node.ledger.stampAll (stores c.log) ∧
      c.node.recorder = start.node.recorder.recordAll (c.log.flatMap Entry.updates) := by
  induction h with
  | refl =>
    rw [hstart.log]
    exact ⟨rfl, rfl⟩
  | @step c earlier event allowed bounded ih =>
    obtain ⟨hledger, hrecorder⟩ := ih
    have hreachable := earlier.reachable hstart
    obtain ⟨stale, current, hsound⟩ := hreachable.exists_sound
    -- the log grows by the news of the event, and the stamps and figures by what they tell of
    have hstores : stores (c.log ++ c.news event) = stores c.log ++ stores (c.news event) :=
      List.filterMap_append
    rw [log_after, hsound.ledger_after hreachable.bounded, hsound.recorder_after hreachable.bounded,
      hledger, hrecorder, hstores, List.flatMap_append, Recorder.recordAll_append]
    exact ⟨List.foldl_append.symm, rfl⟩

theorem afterAll (h : start.Follows c) (history : List (Event ν σ))
    (hallowed : c.allowsAll history = true) (hlength : c.raises + history.length < UInt64.size) :
    start.Follows (c.afterAll history) :=
  afterAll_induction h (fun _ event hc allowed bounded => hc.step event allowed bounded) history
    hallowed hlength

end Follows

instance (run : Nat) : DecidablePred (Entry.Ends run)
  | .started .. | .called _ | .finished _ _ _ (.ok _) _ => inferInstanceAs (Decidable False)
  | .finished own _ _ (.error _) _ => inferInstanceAs (Decidable (own = run))
  | .halted own => inferInstanceAs (Decidable (run ≤ own))

/-- The log tells that a run is over: it has failed, or was halted, or a later one was begun. -/
def IsOver (log : List Entry) (run : Nat) : Prop :=
  ∃ entry ∈ log, entry.Ends run ∨ run < entry.run

instance (log : List Entry) (run : Nat) : Decidable (IsOver log run) :=
  inferInstanceAs (Decidable (∃ entry ∈ log, entry.Ends run ∨ run < entry.run))

/-- A run that is over is not in progress. -/
theorem Reachable.isRunning_eq_false_of_isOver (h : c.Reachable) (hover : IsOver c.log c.raises) :
    c.publisher.isRunning = false := by
  obtain ⟨stale, current, hsound, htold⟩ := h.exists_told
  obtain ⟨entry, hentry, hends | hlater⟩ := hover
  · cases current with
    | none =>
      rw [hsound.publisher]
      rfl
    | some run => exact absurd hends ((htold.current run rfl).going entry hentry)
  · exact absurd hlater (htold.run_le entry hentry).not_gt

/-- A conclusion that is a failure, or comes after its run is over, stores nothing. -/
theorem Reachable.stores_news_eq_nil (h : c.Reachable) {event : Event ν σ} {serial : Nat}
    {result : Except Error Receipt} (hconcludes : event.Concludes c.node serial result)
    (hvain : result.isOk = false ∨ IsOver c.log (c.originOf serial).run) :
    stores (c.news event) = [] := by
  have hnews : c.news event = c.outcome serial result := by
    rcases hconcludes with rfl | ⟨rfl, hanswer⟩
    · rfl
    · rw [news_resume, hanswer]
  rw [hnews, outcome]
  cases c.publisher.task? serial with
  | none => rfl
  | some task =>
    dsimp only
    split
    · rename_i hown
      -- the store belongs to the run in progress, so it has failed
      rw [Bool.and_eq_true, decide_eq_true_eq] at hown
      cases result with
      | error error => rfl
      | ok receipt =>
        rcases hvain with hfailed | hover
        · cases hfailed
        · rw [hown.2] at hover
          exact absurd (h.isRunning_eq_false_of_isOver hover) (by simp [hown.1])
    · rfl

/-- The stamp of a publication is that of the last store that succeeded while its own run was in
progress, and the publication bears none if there was no such store. No other event stamps anything;
in particular, no failure does, and no success that comes after its run has failed, after a halt or
after a later run was begun. The counters of the publisher are the numbers of successes and of
failures within their own runs. -/
theorem stampOf_eq_lastStamp (hstart : start.Fresh) (h : start.Follows c) :
    (∀ publication, c.node.ledger.stampOf publication = lastStamp c.log publication) ∧
      (∀ event, stores (c.news event) = [] → (c.after event).node.ledger = c.node.ledger) ∧
      (∀ event serial result, event.Concludes c.node serial result →
        result.isOk = false ∨ IsOver c.log (c.originOf serial).run →
          (c.after event).node.ledger = c.node.ledger) ∧
      c.node.recorder.figure .published = (stores c.log).length ∧
      c.node.recorder.figure .failed = c.log.countP Entry.isFailure := by
  obtain ⟨hledger, hrecorder⟩ := h.agrees hstart
  have hreachable := h.reachable hstart
  -- the ledger changes by the stores that an event adds to the log, and by nothing else
  have hsame : ∀ event, stores (c.news event) = [] →
      (c.after event).node.ledger = c.node.ledger := by
    intro event hstores
    obtain ⟨stale, current, hsound⟩ := hreachable.exists_sound
    rw [hsound.ledger_after hreachable.bounded, hstores]
    rfl
  obtain ⟨hpublished, hfailed⟩ := sum_updates c.log
  refine ⟨fun publication => ?_, hsame, fun event serial result hconcludes hvain => ?_, ?_, ?_⟩
  · rw [hledger, Ledger.stampOf_stampAll, hstart.stamps]
    rfl
  · exact hsame event (hreachable.stores_news_eq_nil hconcludes hvain)
  · rw [hrecorder, Recorder.figure_recordAll rfl, hstart.published, hpublished, Nat.zero_add]
  · rw [hrecorder, Recorder.figure_recordAll rfl, hstart.failed, hfailed, Nat.zero_add]

/-- A publication is stored at time 5. Its store in the next run succeeds only after a stop, and
that leaves the stamp and the counter as they are. -/
theorem stampOf_eq_lastStamp_of_late_success :
    let contact : Contact := ⟨.ones, .ofOctets 82 1 2 3 4000⟩
    let publication : Publication := ⟨0, .zero, ⟨.test, ⟨1, 0⟩, [118], by decide⟩⟩
    let fresh : Node Scripted Shelf := .ofSettings {} { contact } 0 0
    let catalogue : Catalogue Shelf :=
      { sources := [{ publications := [publication] }]
        entries := Table.empty.insertLast ValueType.test.code 0 }
    let start : Chronicle Scripted Shelf :=
      { node := { fresh with catalogue }, originOf := fun _ => ⟨0, contact, 0⟩ }
    let success (count : Nat) : Except Error Receipt :=
      .ok { key := .zero, locations := List.replicate count contact }
    let c := start.afterAll [.tick, .begin 0, .change { contact } catalogue 5,
      .conclude 0 (success 2), .tick, .begin 1, .change { contact } catalogue 9, .stop]
    start.Fresh ∧ start.Follows c ∧
      c.node.ledger.stampOf publication = ⟨some 5, 2⟩ ∧
      (c.after (.conclude 1 (success 1))).node.ledger = c.node.ledger ∧
      c.node.recorder.figure .published = 1 := by
  intro contact publication fresh catalogue start success c
  have hstart : start.Fresh := ⟨rfl, rfl, rfl, fun _ => rfl, rfl, rfl⟩
  have hc : start.Follows c := .afterAll .refl _ (by decide) (by decide)
  obtain ⟨hstamps, -, hvain, hpublished, -⟩ := stampOf_eq_lastStamp hstart hc
  have hover : IsOver c.log (c.originOf 1).run := by decide
  have hlate := hvain (.conclude 1 (success 1)) 1 (success 1) (.inl rfl) (.inr hover)
  have hstamp : lastStamp c.log publication = ⟨some 5, 2⟩ := by decide
  have hcount : (stores c.log).length = 1 := by decide
  exact ⟨hstart, hc, (hstamps publication).trans hstamp, hlate, hpublished.trans hcount⟩

end Chronicle

end OverlayStore
