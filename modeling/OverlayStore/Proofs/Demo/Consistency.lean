import OverlayStore.Demo
import OverlayStore.Proofs.Network.Loopback
import OverlayStore.Proofs.Publisher.Arrangement
import OverlayStore.Proofs.Publisher.Turns

/-!
# The books of a demo

A node in a loopback network is answered at once. So between two of its jobs at most one task of its
publisher is live, and that one has not been begun. Whenever a job has been done the books are in
order (`Demo.Consistent`): every stamp tells how many peers hold the publication, a publication
without a stamp is held by nobody, and nobody holds anything else. A store that fails leaves no copy
behind, for the peers that hold a key accept it whenever it comes again.
-/

namespace OverlayStore

/-! ## Publishers that are answered at once -/

namespace Publisher

/-- All tasks have been given up but the one that the run in progress waits for, which has not been
begun. The run is about some of the publications of a creator. -/
structure Orderly (publications : List Publication) (creator : Contact) (generation : UInt64)
    (stale : List Task) (current : Option Run) (nextSerial : Nat) : Prop where
  /-- The tasks that do not belong to the run have been given up. -/
  aborted : ∀ task ∈ stale, task.aborted = true
  /-- Their serial numbers have been given out. -/
  serial_lt : ∀ task ∈ stale, task.serial < nextSerial
  /-- The task of the run has a serial number of its own, and has not been begun. -/
  task : ∀ run, current = some run → run.task.serial < nextSerial ∧
    (∀ task ∈ stale, task.serial ≠ run.task.serial) ∧
    ∃ publication ∈ publications, ∃ time,
      run.task = freshTask generation run.task.serial publication creator time
  /-- What is still to be stored is among the publications. -/
  rest : ∀ run, current = some run → ∀ publication ∈ run.rest, publication ∈ publications

/-- The tasks and the run of a publisher are in order. -/
def IsOrderly (publications : List Publication) (creator : Contact) (publisher : Publisher) :
    Prop :=
  ∃ generation stale current nextSerial, publisher = arranged generation stale current nextSerial ∧
    Orderly publications creator generation stale current nextSerial

section Orderly

variable {publications snapshot : List Publication} {creator : Contact} {generation : UInt64}
  {stale : List Task} {current : Option Run} {nextSerial : Nat} {publisher : Publisher}

/-- Without a run in progress there is no task but those that have been given up. -/
theorem Orderly.of_idle (haborted : ∀ task ∈ stale, task.aborted = true)
    (hserial : ∀ task ∈ stale, task.serial < nextSerial) :
    Orderly publications creator generation stale none nextSerial where
  aborted := haborted
  serial_lt := hserial
  task := by simp
  rest := by simp

/-- A run goes on with the first of the publications that are left. -/
theorem Orderly.of_next (haborted : ∀ task ∈ stale, task.aborted = true)
    (hserial : ∀ task ∈ stale, task.serial < nextSerial) {publication : Publication}
    {rest : List Publication} (hleft : ∀ other ∈ publication :: rest, other ∈ publications)
    (taken : List Publication) (now : Time) :
    Orderly publications creator generation stale
      (some ⟨taken, freshTask generation nextSerial publication creator now, rest⟩)
      (nextSerial + 1) where
  aborted := haborted
  serial_lt task htask := Nat.lt_succ_of_lt (hserial task htask)
  task := by
    rintro run ⟨⟩
    refine ⟨Nat.lt_succ_self _, fun task htask => (hserial task htask).ne, ?_⟩
    exact ⟨publication, hleft _ List.mem_cons_self, now, rfl⟩
  rest := by
    rintro run ⟨⟩ other hother
    exact hleft other (List.mem_cons_of_mem _ hother)

/-- Tasks that have been given up can go. -/
theorem Orderly.filter (h : Orderly publications creator generation stale current nextSerial)
    (keep : Task → Bool) :
    Orderly publications creator generation (stale.filter keep) current nextSerial where
  aborted task htask := h.aborted task (List.mem_of_mem_filter htask)
  serial_lt task htask := h.serial_lt task (List.mem_of_mem_filter htask)
  task run hrun := by
    obtain ⟨hlt, hne, hfresh⟩ := h.task run hrun
    exact ⟨hlt, fun task htask => hne task (List.mem_of_mem_filter htask), hfresh⟩
  rest := h.rest

/-- The store of the task that the run waits for is completed, and the run goes on or is over. -/
theorem Orderly.conclude {run : Run}
    (h : Orderly publications creator generation stale (some run) nextSerial) (stage : Stage)
    (answer : Except Error Receipt) (now : Time) :
    ((arranged generation stale (some (run.atStage stage)) nextSerial).conclude run.task.serial
      answer creator now).publisher.IsOrderly publications creator := by
  obtain ⟨-, hserial, publication, -, time, hfresh⟩ := h.task run rfl
  let called := run.atStage stage
  let after : Publisher :=
    ((arranged generation stale (some called) nextSerial).conclude called.task.serial answer creator
      now).publisher
  show after.IsOrderly publications creator
  have hne : ∀ task ∈ stale, task.serial ≠ called.task.serial := hserial
  have hgeneration : called.task.generation = generation := by
    show run.task.generation = generation
    rw [hfresh]
    rfl
  have hidle : Orderly publications creator generation stale none nextSerial :=
    .of_idle h.aborted h.serial_lt
  cases answer with
  | error error =>
    -- the run ends here, whatever was left to be stored
    have hended : after = arranged generation stale none nextSerial :=
      conclude_arranged_current hne hgeneration
    exact hended ▸ ⟨_, _, _, _, rfl, hidle⟩
  | ok receipt =>
    have hleft : ∀ publication ∈ called.rest, publication ∈ publications := h.rest run rfl
    cases hrest : called.rest with
    | nil =>
      have hended : after = arranged generation stale none nextSerial :=
        conclude_arranged_ok_nil hne hgeneration hrest receipt
      exact hended ▸ ⟨_, _, _, _, rfl, hidle⟩
    | cons next rest =>
      -- the next publication gets a task with a new serial number
      have hnext : after = _ := conclude_arranged_ok_cons hne hgeneration hrest receipt
      rw [hrest] at hleft
      exact hnext ▸ ⟨_, _, _, _, rfl, .of_next h.aborted h.serial_lt hleft _ now⟩

/-- A turn leaves a publisher in order, whether it begins a run or not. -/
theorem IsOrderly.tick (h : publisher.IsOrderly publications creator)
    (hsnapshot : ∀ publication ∈ snapshot, publication ∈ publications) (now : Time) :
    (publisher.tick true snapshot creator now).publisher.IsOrderly publications creator := by
  obtain ⟨generation, stale, current, nextSerial, rfl, horderly⟩ := h
  cases current with
  | some run =>
    rw [tick_of_isRunning rfl]
    exact ⟨generation, stale, some run, nextSerial, rfl, horderly⟩
  | none =>
    cases snapshot with
    | nil =>
      rw [tick_nil]
      exact ⟨generation, stale, none, nextSerial, rfl, horderly⟩
    | cons publication rest =>
      rw [tick_arranged_start]
      exact ⟨_, _, _, _, rfl, .of_next horderly.aborted horderly.serial_lt hsnapshot [] now⟩

/-- A halt leaves a publisher in order. -/
theorem IsOrderly.halt (h : publisher.IsOrderly publications creator) :
    publisher.halt.publisher.IsOrderly publications creator := by
  obtain ⟨generation, stale, current, nextSerial, rfl, horderly⟩ := h
  rw [halt_arranged horderly.aborted]
  refine ⟨_, _, _, _, rfl, .of_idle ?_ ?_⟩
  · intro task htask
    rcases List.mem_append.mp htask with hstale | hcurrent
    · exact horderly.aborted task hstale
    · -- the task of the run is given up as well
      obtain ⟨run, -, rfl⟩ := by simpa using hcurrent
      rfl
  · intro task htask
    rcases List.mem_append.mp htask with hstale | hcurrent
    · exact horderly.serial_lt task hstale
    · obtain ⟨run, hrun, rfl⟩ := by simpa using hcurrent
      exact (horderly.task run hrun).1

end Orderly

end Publisher

/-- A receipt does not change what is on a shelf. -/
theorem Catalogue.snapshot_noteReceipt (catalogue : Catalogue Shelf) (publication : Publication)
    (receipt : Receipt) :
    (catalogue.noteReceipt publication receipt).snapshot = catalogue.snapshot := by
  unfold noteReceipt
  split
  · rename_i number _
    rw [snapshot_eq, snapshot_eq]
    refine List.flatMap_congr fun other _ => ?_
    rw [source?, source?, modifySource, List.getElem?_modify]
    cases catalogue.sources[other]? with
    | none => rfl
    | some shelf =>
      show contribution (if number = other then _ else shelf) = contribution shelf
      split <;> rfl
  · rfl

/-! ## The node -/

namespace Demo

open Publisher

/-- The publications can be told apart by their identities and by their keys, and each has a
value. -/
structure Distinct (publications : List Publication) : Prop where
  /-- No two publications share an identity. -/
  ids : (publications.map Publication.id).Nodup
  /-- No two publications share a key. -/
  keys : (publications.map Publication.key).Nodup
  /-- No publication is a deletion. -/
  values : ∀ publication ∈ publications, publication.value.isEmpty = false

namespace Distinct

variable {publications : List Publication} {a b : Publication}

theorem eq_of_id_eq (h : Distinct publications) (ha : a ∈ publications) (hb : b ∈ publications)
    (hid : a.id = b.id) : a = b :=
  List.inj_on_of_nodup_map h.ids ha hb hid

theorem eq_of_key_eq (h : Distinct publications) (ha : a ∈ publications) (hb : b ∈ publications)
    (hkey : a.key = b.key) : a = b :=
  List.inj_on_of_nodup_map h.keys ha hb hkey

end Distinct

/-- A stamp tells how many peers hold its publication. Without a stamp that is none. -/
structure Tells (stamp : Stamp) (holders : Nat) : Prop where
  /-- The locations are the holders. -/
  locations : stamp.locations = holders
  /-- There is a time exactly if there are holders. -/
  time : stamp.time.isSome = true ↔ 0 < holders

/-- The books of a node are in order. The network was another one at first, with the same peers. -/
structure Consistent (origin : Loopback) (publications : List Publication)
    (node : Node Loopback Shelf) : Prop where
  /-- The network is sound. -/
  network : node.network.Sound
  /-- The contact of the node is the same. -/
  contact : node.network.contact = origin.contact
  /-- The peers are the same. -/
  peers : node.network.peers.map Peer.contact = origin.peers.map Peer.contact
  /-- The node publishes no more than the publications. -/
  snapshot : ∀ publication ∈ node.catalogue.snapshot, publication ∈ publications
  /-- The publisher is in order. -/
  publisher : node.publisher.IsOrderly publications node.network.contact
  /-- The stamps tell how many peers hold the publications. -/
  stamps : ∀ publication ∈ publications,
    Tells (node.ledger.stampOf publication) (node.network.holders publication.key)
  /-- Nobody holds anything else. -/
  elsewhere : ∀ key, (∀ publication ∈ publications, publication.key ≠ key) →
    node.network.holders key = 0

namespace Consistent

variable {origin : Loopback} {publications : List Publication} {node : Node Loopback Shelf}

/-- The books stay in order while nothing that they are about changes. -/
theorem of_eq {other : Node Loopback Shelf} (h : Consistent origin publications node)
    (hnetwork : other.network = node.network) (hcatalogue : other.catalogue = node.catalogue)
    (hpublisher : other.publisher = node.publisher) (hledger : other.ledger = node.ledger) :
    Consistent origin publications other := by
  refine ⟨?_, ?_, ?_, ?_, ?_, ?_, ?_⟩
  · exact hnetwork ▸ h.network
  · exact hnetwork ▸ h.contact
  · exact hnetwork ▸ h.peers
  · exact hcatalogue ▸ h.snapshot
  · exact hpublisher ▸ hnetwork ▸ h.publisher
  · exact hledger ▸ hnetwork ▸ h.stamps
  · exact hnetwork ▸ h.elsewhere

/-- A turn that stamps nothing leaves the books in order. -/
theorem applyTurn (h : Consistent origin publications node) {turn : Turn}
    (hstored : turn.stored = none)
    (hpublisher : turn.publisher.IsOrderly publications node.network.contact) :
    Consistent origin publications (node.applyTurn turn) := by
  have hnetwork := node.network_applyTurn turn
  have hledger : (node.applyTurn turn).ledger = node.ledger := by
    rw [(node.obeys_applyTurn turn).ledger, hstored]
    rfl
  refine ⟨?_, ?_, ?_, ?_, ?_, ?_, ?_⟩
  · rw [hnetwork]
    exact h.network
  · rw [hnetwork]
    exact h.contact
  · rw [hnetwork]
    exact h.peers
  · rw [node.catalogue_applyTurn turn]
    exact h.snapshot
  · rw [node.publisher_applyTurn turn, hnetwork]
    exact hpublisher
  · rw [hledger, hnetwork]
    exact h.stamps
  · rw [hnetwork]
    exact h.elsewhere

/-- The publisher's turn leaves the books in order. -/
theorem publish (h : Consistent origin publications node) :
    Consistent origin publications node.publish := by
  have hready : Network.isReady node.network = true := by
    show (node.network.bootstrapped && !false) = true
    rw [h.network.bootstrapped]
    rfl
  have hpublisher := h.publisher.tick h.snapshot node.now
  rw [Node.publish, hready]
  exact h.applyTurn (isQuiet_tick _ _ _ _ _).stored hpublisher

/-- A stop leaves the books in order. -/
theorem stop (h : Consistent origin publications node) :
    Consistent origin publications node.stop := by
  have hunscheduled :
      Consistent origin publications { node with publishing := node.publishing.stop } :=
    h.of_eq rfl rfl rfl rfl
  have hhalted := hunscheduled.applyTurn (isQuiet_halt node.publisher).stored h.publisher.halt
  exact hhalted.of_eq rfl rfl rfl rfl

/-! ### Tasks -/

/-- A task that the run in progress does not wait for is over without a call. -/
theorem attend_stale (h : Consistent origin publications node) {generation : UInt64}
    {stale : List Task} {current : Option Run} {nextSerial serial : Nat}
    (hpublisher : node.publisher = arranged generation stale current nextSerial)
    (horderly : Orderly publications node.network.contact generation stale current nextSerial)
    (hserial : ∀ run, current = some run → run.task.serial ≠ serial) :
    Consistent origin publications (node.attend {} serial) := by
  let left := stale.filter fun task => task.serial ≠ serial
  let begun : Node Loopback Shelf :=
    { node with publisher := arranged generation left current nextSerial }
  have hbegin : node.beginTask serial = (none, begun) := by
    rw [Node.beginTask, hpublisher, begin_arranged_of_ne hserial horderly.aborted]
  have hleft : Orderly publications node.network.contact generation left current nextSerial :=
    horderly.filter _
  have hbegun : Consistent origin publications begun :=
    ⟨h.network, h.contact, h.peers, h.snapshot, ⟨_, _, _, _, rfl, hleft⟩, h.stamps, h.elsewhere⟩
  have hstored : (begun.publisher.resume serial node.network.contact node.now).stored = none :=
    (isQuiet_resume _ _ (answer?_arranged_of_ne hserial hleft.aborted)).stored
  have hresumed := hbegun.applyTurn hstored ⟨_, _, _, _,
    resume_arranged_of_ne hserial hleft.aborted, hleft.filter _⟩
  rw [Node.attend, hbegin]
  dsimp only
  unfold Node.resumeTask
  dsimp only
  -- the network does not mind that the task is over
  split <;> exact hresumed.of_eq rfl rfl rfl rfl

/-- The books after a store of a publication that was answered. -/
theorem of_answer (h : Consistent origin publications node) (hdistinct : Distinct publications)
    {publication : Publication} (hpublication : publication ∈ publications) {record : Record}
    (hcreator : record.creator = node.network.contact) (hkey : record.key = publication.key)
    (hvalue : record.value = publication.value) {answer : Except Error Receipt}
    (hanswer : (node.network.store record node.now).answer = some answer)
    {after : Node Loopback Shelf}
    (hnetwork : after.network = (node.network.store record node.now).network)
    (hcatalogue : after.catalogue = node.catalogue)
    (hpublisher : after.publisher.IsOrderly publications node.network.contact)
    (hledger : after.ledger = answer.toOption.elim node.ledger fun receipt =>
      node.ledger.stamp publication node.now receipt.count) :
    Consistent origin publications after := by
  have hvalue : record.value.isEmpty = false := hvalue ▸ hdistinct.values publication hpublication
  have hothers : ∀ key, key ≠ publication.key →
      after.network.holders key = node.network.holders key := by
    intro key hne
    rw [hnetwork]
    exact h.network.holders_store_of_ne hcreator node.now (hkey ▸ hne)
  have hcontact : after.network.contact = node.network.contact := by
    rw [hnetwork, Loopback.contact_store h.network.bootstrapped]
  obtain ⟨same, hsame, hcount⟩ := h.network.exists_answer_store hcreator hvalue node.now
  obtain rfl : answer = same := Option.some.inj (hanswer.symm.trans hsame)
  rw [hkey, ← hnetwork] at hcount
  refine ⟨?_, hcontact.trans h.contact, ?_, ?_, ?_, ?_, ?_⟩
  · rw [hnetwork]
    exact h.network.store hcreator hvalue node.now
  · rw [hnetwork, Loopback.contacts_store h.network.bootstrapped]
    exact h.peers
  · rw [hcatalogue]
    exact h.snapshot
  · rw [hcontact]
    exact hpublisher
  · intro other hother
    by_cases hid : other = publication
    · subst hid
      cases answer with
      | ok receipt =>
        -- the receipt counts the peers that hold the key now
        rw [hledger, Except.toOption, Option.elim_some, Ledger.stampOf_stamp, if_pos rfl]
        exact ⟨hcount.1, by simpa [← hcount.1] using hcount.2⟩
      | error error =>
        -- nobody has held the key before
        rw [hledger, hcount.1, ← hcount.2]
        exact h.stamps other hother
    · -- another publication keeps its stamp, and its key keeps its holders
      have hne : other.key ≠ publication.key := fun hsame =>
        hid (hdistinct.eq_of_key_eq hother hpublication hsame)
      have hstamp : after.ledger.stampOf other = node.ledger.stampOf other := by
        rw [hledger]
        cases answer with
        | ok receipt =>
          rw [Except.toOption, Option.elim_some, Ledger.stampOf_stamp, if_neg]
          exact fun hsame => hid (hdistinct.eq_of_id_eq hother hpublication hsame)
        | error error => rfl
      rw [hstamp, hothers other.key hne]
      exact h.stamps other hother
  · intro key hnone
    rw [hothers key (hnone publication hpublication).symm]
    exact h.elsewhere key hnone

/-- The task that the run in progress waits for is begun, and its store is completed. -/
theorem attend_current (h : Consistent origin publications node) (hdistinct : Distinct publications)
    {generation : UInt64} {stale : List Task} {run : Run} {nextSerial : Nat}
    (hpublisher : node.publisher = arranged generation stale (some run) nextSerial)
    (horderly : Orderly publications node.network.contact generation stale (some run) nextSerial) :
    Consistent origin publications (node.attend {} run.task.serial) := by
  obtain ⟨hlt, hne, publication, hpublication, time, hfresh⟩ := horderly.task run rfl
  let begun : Node Loopback Shelf :=
    { node with publisher := arranged generation stale (some (run.atStage .awaiting)) nextSerial }
  have hbegin : node.beginTask run.task.serial = (some run.task.record, begun) := by
    rw [Node.beginTask, hpublisher,
      begin_arranged_queued hne (by rw [hfresh]; rfl) (by rw [hfresh]; rfl)]
  have hgeneration : run.task.generation = generation := by rw [hfresh]; rfl
  have hcreator : run.task.record.creator = node.network.contact := by rw [hfresh]; rfl
  have hkey : run.task.record.key = publication.key := by rw [hfresh]; rfl
  have hvalue : run.task.record.value = publication.value := by rw [hfresh]; rfl
  obtain ⟨answer, hanswer, -⟩ := h.network.exists_answer_store hcreator
    (hvalue ▸ hdistinct.values publication hpublication) node.now
  let reply := node.network.store run.task.record node.now
  let called : Node Loopback Shelf := { begun with network := reply.network }.measure reply.updates
  have hcalled : begun.callNetwork run.task.serial run.task.record =
      called.conclude run.task.serial answer := by
    have hreply : (Network.store run.task.record (some run.task.serial) begun.now
      begun.network).answer = some answer := hanswer
    unfold Node.callNetwork
    dsimp only
    rw [hreply]
    rfl
  let turn := called.publisher.conclude run.task.serial answer called.network.contact called.now
  have hstored : turn.stored = answer.toOption.map fun receipt => (run.task.publication, receipt) :=
    stored_conclude_arranged_current hne hgeneration
  have hcontact : reply.network.contact = node.network.contact :=
    Loopback.contact_store h.network.bootstrapped run.task.record node.now
  have hturn : turn.publisher.IsOrderly publications node.network.contact := by
    show (called.publisher.conclude run.task.serial answer reply.network.contact
      node.now).publisher.IsOrderly publications node.network.contact
    rw [hcontact]
    exact horderly.conclude .awaiting answer node.now
  -- the network answers before anything else happens to the node
  rw [Node.attend, hbegin]
  show Consistent origin publications (begun.callNetwork run.task.serial run.task.record)
  rw [hcalled]
  refine h.of_answer hdistinct hpublication hcreator hkey hvalue hanswer
    (called.network_applyTurn turn) (called.catalogue_applyTurn turn) ?_ ?_
  · exact (called.publisher_applyTurn turn).symm ▸ hturn
  · refine (called.obeys_applyTurn turn).ledger.trans ?_
    rw [hstored, hfresh]
    cases answer <;> rfl

/-- Looking after any task leaves the books in order. -/
theorem attend (h : Consistent origin publications node) (hdistinct : Distinct publications)
    (serial : Nat) : Consistent origin publications (node.attend {} serial) := by
  obtain ⟨generation, stale, current, nextSerial, hpublisher, horderly⟩ := h.publisher
  by_cases hcurrent : ∃ run, current = some run ∧ run.task.serial = serial
  · obtain ⟨run, rfl, rfl⟩ := hcurrent
    exact h.attend_current hdistinct hpublisher horderly
  · exact h.attend_stale hpublisher horderly fun run hrun hserial => hcurrent ⟨run, hrun, hserial⟩

/-! ### Jobs -/

/-- Telling a source leaves the books in order. -/
theorem noteReceipt (h : Consistent origin publications node) (publication : Publication)
    (receipt : Receipt) :
    Consistent origin publications
      { node with catalogue := node.catalogue.noteReceipt publication receipt } where
  network := h.network
  contact := h.contact
  peers := h.peers
  snapshot := by
    rw [Catalogue.snapshot_noteReceipt]
    exact h.snapshot
  publisher := h.publisher
  stamps := h.stamps
  elsewhere := h.elsewhere

/-- A sweep of the node's own records leaves the books in order. -/
theorem wakeSweeper (h : Consistent origin publications node) (series : Nat) :
    Consistent origin publications (node.wakeSweeper series) := by
  unfold Node.wakeSweeper
  dsimp only
  split <;> exact h.of_eq rfl rfl rfl rfl

theorem wakeGuestSweeper (h : Consistent origin publications node) (series : Nat) :
    Consistent origin publications (node.wakeGuestSweeper series) := by
  unfold Node.wakeGuestSweeper
  split
  · exact h
  · dsimp only
    split <;> exact h.of_eq rfl rfl rfl rfl

/-- A turn that is due leaves the books in order. -/
theorem wakePublisher (h : Consistent origin publications node) (series : Nat) :
    Consistent origin publications (node.wakePublisher series) := by
  have hpolled : Consistent origin publications
      { node with publishing := (node.publishing.poll series node.timerNow).2 } :=
    h.of_eq rfl rfl rfl rfl
  unfold Node.wakePublisher
  dsimp only
  split
  · exact hpolled.publish
  · exact hpolled

/-- Every job leaves the books in order. -/
theorem runJob (h : Consistent origin publications node) (hdistinct : Distinct publications)
    (job : Job) : Consistent origin publications (node.runJob {} job) := by
  cases job with
  | task serial => exact h.attend hdistinct serial
  | notify publication receipt => exact h.noteReceipt publication receipt
  | wake chore series =>
    cases chore with
    | sweep => exact h.wakeSweeper series
    | guestSweep => exact h.wakeGuestSweeper series
    | publish => exact h.wakePublisher series

/-- A start schedules the duties and leaves the books alone. -/
theorem start (h : Consistent origin publications node) :
    Consistent origin publications node.start.2 := by
  have hsweeper : Consistent origin publications node.startSweeper := by
    unfold Node.startSweeper
    split
    · exact h
    · exact h.of_eq rfl rfl rfl rfl
  unfold Node.start Node.startPublisher
  split
  · exact hsweeper
  · split
    · exact hsweeper
    · exact hsweeper.of_eq rfl rfl rfl rfl

end Consistent

end Demo

end OverlayStore
