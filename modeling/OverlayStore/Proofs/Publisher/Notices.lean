import Mathlib.Data.List.Induction
import Mathlib.Data.List.Infix
import Mathlib.Data.List.Perm.Basic
import OverlayStore.Network.Scripted
import OverlayStore.Node.Run
import OverlayStore.Proofs.Publisher.Turns

/-!
# The notices of stores

A successful store stamps its publication and leaves a notice, which is delivered later by a job of
its own: to the source that is in charge of the type then, or to nobody. In between, the publisher
goes on or is stopped, and sources come and go. Every source is watched by a listener, so that what
the sources have heard can be weighed against what was stamped: what a source has heard and what
still waits is never more than what was stamped, and it is the same for the types that the source
has kept.
-/

namespace OverlayStore

/-- A source that remembers the receipts it was handed, and is in all else the source that it stands
for. -/
structure Listener (σ : Type) where
  /-- The source that the listener stands for. -/
  source : σ
  /-- The receipts that the source was handed, the latest last. -/
  heard : List (Publication × Receipt) := []

instance {σ : Type} [Source σ] : Source (Listener σ) where
  offer listener := Source.offer listener.source
  noteReceipt publication receipt listener :=
    ⟨Source.noteReceipt publication receipt listener.source,
      listener.heard ++ [(publication, receipt)]⟩
  noteContactChange listener := { listener with source := Source.noteContactChange listener.source }

namespace Catalogue

variable {σ : Type}

/-- What the source with a number has heard. -/
def heard (catalogue : Catalogue (Listener σ)) (number : Nat) : List (Publication × Receipt) :=
  ((catalogue.source? number).map Listener.heard).getD []

/-- A source that is brought in has not heard anything, and the others have heard what they had. -/
theorem heard_addSource (catalogue : Catalogue (Listener σ)) (source : σ) (number : Nat) :
    (catalogue.addSource { source }).2.heard number = catalogue.heard number := by
  rw [heard, heard, source?, source?, addSource, List.getElem?_append]
  split
  · rfl
  · -- the one that is brought in has heard nothing, and behind it there is none
    rename_i hlength
    rw [List.getElem?_eq_none (Nat.le_of_not_lt hlength), List.getElem?_singleton]
    split <;> rfl

/-- A source that comes to offer something else has heard what it had. -/
theorem heard_modifySource (catalogue : Catalogue (Listener σ)) (index : Nat) (change : σ → σ)
    (number : Nat) :
    (catalogue.modifySource index fun listener =>
      { listener with source := change listener.source }).heard number =
        catalogue.heard number := by
  rw [heard, heard, source?, source?, modifySource, List.getElem?_modify]
  cases catalogue.sources[number]? with
  | none => rfl
  | some listener => split <;> rfl

/-- The source in charge hears of a receipt once, and no other source does. -/
theorem heard_noteReceipt [Source σ] {catalogue : Catalogue (Listener σ)}
    (hregular : ∀ code number, catalogue.entries.find? code = some number →
      number < catalogue.sources.length)
    (publication : Publication) (receipt : Receipt) (number : Nat) :
    (catalogue.noteReceipt publication receipt).heard number = catalogue.heard number ++
      if catalogue.entries.find? publication.value.type.code = some number then
        [(publication, receipt)]
      else [] := by
  unfold noteReceipt
  cases hfound : catalogue.entries.find? publication.value.type.code with
  | none => simp
  | some own =>
    have hlength := hregular _ own hfound
    simp only [heard, source?, modifySource, List.getElem?_modify]
    by_cases hnumber : own = number
    · subst hnumber
      simp [List.getElem?_eq_getElem hlength, Source.noteReceipt]
    · simp [hnumber]

theorem entries_noteReceipt [Source σ] (catalogue : Catalogue σ) (publication : Publication)
    (receipt : Receipt) :
    (catalogue.noteReceipt publication receipt).entries = catalogue.entries := by
  unfold noteReceipt
  split <;> rfl

theorem length_sources_noteReceipt [Source σ] (catalogue : Catalogue σ)
    (publication : Publication) (receipt : Receipt) :
    (catalogue.noteReceipt publication receipt).sources.length = catalogue.sources.length := by
  unfold noteReceipt
  split
  · exact List.length_modify _ _ _
  · rfl

end Catalogue

namespace Correspondence

/-- What can happen to a node between a store and the delivery of its notice. -/
inductive Event (ν σ : Type) where
  /-- Something happens to the publisher. -/
  | publishing (event : Chronicle.Event ν (Listener σ))
  /-- The network and the time are others from now on. -/
  | surroundings (network : ν) (now : Time)
  /-- A source is brought in, not yet registered. -/
  | bringIn (source : σ)
  /-- A source comes to offer something else. -/
  | edit (number : Nat) (change : σ → σ)
  /-- A source is registered for a type. -/
  | register (type : ValueType) (number : Nat)
  /-- The source of a type is taken away. -/
  | unregister (type : ValueType)
  /-- One of the waiting jobs is done, if it is a notice. -/
  | notify (index : Nat)

end Correspondence

/-- What has passed between the publisher of a node and its sources. -/
structure Correspondence (ν σ : Type) where
  /-- The node. -/
  node : Node ν (Listener σ)
  /-- The stores that a publication was stamped for, the latest last. -/
  stamped : List (Publication × Receipt) := []

namespace Correspondence

variable {ν σ : Type}

/-- The number of the source that is registered for a type code. -/
def inCharge? (c : Correspondence ν σ) (code : UInt32) : Option Nat :=
  c.node.catalogue.entries.find? code

/-- How often the source with a number was told of a store of a publication. -/
def tellings (c : Correspondence ν σ) (number : Nat) (publication : Publication) : Nat :=
  (c.node.catalogue.heard number).countP fun entry => entry.1 = publication

/-- How often a publication was stamped. -/
def stampings (c : Correspondence ν σ) (publication : Publication) : Nat :=
  c.stamped.countP fun entry => entry.1 = publication

/-! ## Balance -/

/-- Only sources that there are have been registered. -/
def IsRegular (c : Correspondence ν σ) : Prop :=
  ∀ code number, c.inCharge? code = some number → number < c.node.catalogue.sources.length

/-- A source has heard no more than was stamped and does not wait any longer. -/
structure Balanced (c : Correspondence ν σ) : Prop where
  regular : c.IsRegular
  heard_le : ∀ number counted,
    (c.node.catalogue.heard number).countP counted + c.node.notices.countP counted ≤
      c.stamped.countP counted

/-- What waits has been stamped. -/
theorem Balanced.mem_stamped {c : Correspondence ν σ} (h : c.Balanced)
    {notice : Publication × Receipt} (hnotice : notice ∈ c.node.notices) : notice ∈ c.stamped := by
  have hle := h.heard_le 0 fun entry => entry = notice
  have hpos : 0 < c.node.notices.countP fun entry => entry = notice :=
    List.countP_pos_iff.mpr ⟨notice, hnotice, decide_eq_true rfl⟩
  obtain ⟨entry, hentry, hsame⟩ :=
    List.countP_pos_iff.mp (hpos.trans_le ((Nat.le_add_left _ _).trans hle))
  exact of_decide_eq_true hsame ▸ hentry

/-- No notice waits, and the stamps and what the sources have heard are counted from now on. -/
structure Fresh (c : Correspondence ν σ) : Prop where
  regular : c.IsRegular
  stamped : c.stamped = []
  notices : c.node.notices = []
  heard : ∀ number, c.node.catalogue.heard number = []

/-- Where nothing has happened, the books balance. -/
theorem Fresh.balanced {c : Correspondence ν σ} (h : c.Fresh) : c.Balanced where
  regular := h.regular
  heard_le number counted := by rw [h.heard, h.notices, h.stamped]; exact Nat.le_refl _

/-! ## Events -/

/-- An event can happen. Only what there is can be registered, and the publisher does not touch the
catalogue. -/
def allows (c : Correspondence ν σ) : Event ν σ → Bool
  | .publishing (.change ..) => false
  | .register _ number => number < c.node.catalogue.sources.length
  | _ => true

namespace Event

/-- The notice that an event delivers. -/
def delivery? (node : Node ν (Listener σ)) : Event ν σ → Option (Publication × Receipt)
  | notify index => node.jobs[index]?.bind Job.notice?
  | _ => none

/-- The source in charge of a type code after an event. The wildcard type takes no source. -/
def successor? (code : UInt32) (former : Option Nat) : Event ν σ → Option Nat
  | register type number => if type.code = code ∧ type.isAny = false then some number else former
  | unregister type => if type.code = code then none else former
  | _ => former

/-- A delivery takes one notice out of those that wait. -/
theorem notices_perm_of_delivery? {node : Node ν (Listener σ)} {index : Nat}
    {notice : Publication × Receipt}
    (hdelivery : (notify index : Event ν σ).delivery? node = some notice) :
    node.notices.Perm (notice :: (node.jobs.eraseIdx index).filterMap Job.notice?) := by
  obtain ⟨job, hjob, hnotice⟩ := Option.bind_eq_some_iff.mp hdelivery
  obtain ⟨hindex, rfl⟩ := List.getElem?_eq_some_iff.mp hjob
  have hperm := (List.getElem_cons_eraseIdx_perm hindex).filterMap Job.notice?
  rw [List.filterMap_cons_some hnotice] at hperm
  exact hperm.symm

/-- What is delivered has been waiting. -/
theorem mem_notices_of_delivery? {node : Node ν (Listener σ)} {event : Event ν σ}
    {notice : Publication × Receipt} (hdelivery : event.delivery? node = some notice) :
    notice ∈ node.notices := by
  cases event with
  | notify index =>
    exact (notices_perm_of_delivery? hdelivery).mem_iff.mpr List.mem_cons_self
  | _ => cases hdelivery

variable [Network ν] [Source σ]

/-- The store that an event stamps a publication for. -/
def success? (node : Node ν (Listener σ)) : Event ν σ → Option (Publication × Receipt)
  | publishing event => (event.turn node).stored
  | _ => none

/-- The node after an event. -/
def apply (node : Node ν (Listener σ)) : Event ν σ → Node ν (Listener σ)
  | publishing event => event.apply node
  | surroundings network now => { node with network, now }
  | bringIn source => { node with catalogue := (node.catalogue.addSource { source }).2 }
  | edit number change =>
    { node with
      catalogue := node.catalogue.modifySource number fun listener =>
        { listener with source := change listener.source } }
  | register type number =>
    match node.catalogue.register type number with
    | .ok (_, catalogue) => { node with catalogue }
    | .error _ => node
  | unregister type => { node with catalogue := (node.catalogue.unregister type).2 }
  | notify index =>
    match node.jobs[index]? with
    | some (.notify publication receipt) =>
      { node with jobs := node.jobs.eraseIdx index }.runJob {} (.notify publication receipt)
    | _ => node

end Event

variable [Network ν] [Source σ]

/-- The correspondence after an event. -/
def after (c : Correspondence ν σ) (event : Event ν σ) : Correspondence ν σ where
  node := event.apply c.node
  stamped := c.stamped ++ (event.success? c.node).toList

/-- The correspondence after a history of events. -/
def afterAll (c : Correspondence ν σ) (history : List (Event ν σ)) : Correspondence ν σ :=
  history.foldl after c

/-- The events of a history can happen one after the other. -/
def allowsAll (c : Correspondence ν σ) : List (Event ν σ) → Bool
  | [] => true
  | event :: history => c.allows event && (c.after event).allowsAll history

/-- What one event does. -/
structure Step (c : Correspondence ν σ) (event : Event ν σ) : Prop where
  /-- A publication is stamped only where a store of it is concluded with success. -/
  success : ∀ publication receipt, event.success? c.node = some (publication, receipt) →
    ∃ own serial task, event = .publishing own ∧ own.Concludes c.node serial (.ok receipt) ∧
      c.node.publisher.task? serial = some task ∧ task.publication = publication
  /-- The ledger is stamped for that store, and else it stays as it is. -/
  ledger : (c.after event).node.ledger =
    (event.success? c.node).elim c.node.ledger fun stored =>
      c.node.ledger.stamp stored.1 c.node.now stored.2.count
  /-- One notice comes with each stamp, one goes with each delivery, and all others wait on. -/
  notices : (c.node.notices ++ (event.success? c.node).toList).Perm
    ((event.delivery? c.node).toList ++ (c.after event).node.notices)
  /-- A delivered notice is heard once, by the source in charge of the type. -/
  heard : ∀ number, (c.after event).node.catalogue.heard number =
    c.node.catalogue.heard number ++ ((event.delivery? c.node).filter fun notice =>
      c.inCharge? notice.1.value.type.code = some number).toList
  /-- Only registrations say which source is in charge. -/
  inCharge : ∀ code, (c.after event).inCharge? code = event.successor? code (c.inCharge? code)

variable {c start : Correspondence ν σ} {event : Event ν σ}

/-! ## One event -/

/-- An event that neither stamps nor delivers anything leaves all notices waiting. -/
theorem Step.of_idle (hsuccess : event.success? c.node = none)
    (hdelivery : event.delivery? c.node = none)
    (hledger : (c.after event).node.ledger = c.node.ledger)
    (hjobs : (c.after event).node.jobs = c.node.jobs)
    (hheard : ∀ number,
      (c.after event).node.catalogue.heard number = c.node.catalogue.heard number)
    (hinCharge : ∀ code,
      (c.after event).inCharge? code = event.successor? code (c.inCharge? code)) :
    c.Step event where
  success publication receipt h := by
    rw [hsuccess] at h
    cases h
  ledger := by
    rw [hsuccess]
    exact hledger
  notices := by
    rw [hsuccess, hdelivery, Node.notices, Node.notices, hjobs]
    simp
  heard number := by
    rw [hdelivery, hheard]
    simp
  inCharge := hinCharge

/-- What happens to the publisher does not change the catalogue. -/
theorem catalogue_after_publishing (own : Chronicle.Event ν (Listener σ))
    (hallowed : c.allows (.publishing own) = true) :
    (c.after (.publishing own)).node.catalogue = c.node.catalogue := by
  refine (own.catalogue_apply c.node).trans ?_
  cases own with
  | change network catalogue now => cases hallowed
  | _ => rfl

/-- What happens to the publisher is a step: what it stamps waits to be told. -/
theorem step_publishing (own : Chronicle.Event ν (Listener σ))
    (hallowed : c.allows (.publishing own) = true) : c.Step (.publishing own) := by
  have hobeys := own.obeys_apply c.node
  have hcatalogue := catalogue_after_publishing own hallowed
  refine ⟨fun publication receipt hstored => ?_, hobeys.ledger, ?_, fun number => ?_,
    fun code => ?_⟩
  · obtain ⟨serial, task, hconcludes, htask⟩ := Chronicle.Event.concludes_of_stored hstored
    exact ⟨own, serial, task, rfl, hconcludes, htask⟩
  · exact List.Perm.of_eq hobeys.notices.symm
  · rw [hcatalogue]
    exact (List.append_nil _).symm
  · rw [inCharge?, hcatalogue]
    rfl

/-- A registration changes nothing but the entries of the catalogue, and one for the wildcard type
not even those. -/
theorem node_after_register (c : Correspondence ν σ) (type : ValueType) (number : Nat) :
    (c.after (.register type number)).node =
      { c.node with
        catalogue := { c.node.catalogue with
          entries := if type.isAny then c.node.catalogue.entries
            else c.node.catalogue.entries.insertLast type.code number } } := by
  rw [after, Event.apply, Catalogue.register]
  -- the wildcard type is turned down
  cases type.isAny <;> rfl

/-- A registration is a step, whether it is granted or not. -/
theorem step_register (type : ValueType) (number : Nat) : c.Step (.register type number) := by
  have hnode := node_after_register c type number
  refine .of_idle rfl rfl ?_ ?_ (fun other => ?_) fun code => ?_
  · rw [hnode]
  · rw [hnode]
  · rw [hnode]
    rfl
  · rw [inCharge?, inCharge?, hnode, Event.successor?]
    cases type.isAny with
    | true => simp
    | false =>
      -- the type goes to the end of the order, which is the same to whoever looks it up
      simp only [Bool.false_eq_true, if_false, and_true, Table.insertLast, Table.find?_insert,
        Table.find?_erase, eq_comm]
      split <;> rfl

/-- Taking a registration away is a step. -/
theorem step_unregister (type : ValueType) : c.Step (.unregister type) := by
  refine .of_idle rfl rfl rfl rfl (fun _ => rfl) fun code => ?_
  rw [inCharge?, inCharge?, after, Event.apply, Catalogue.unregister, Event.successor?,
    Table.find?_erase]
  simp [eq_comm]

/-- Where a notice is delivered, its job is done and the receipt is handed on. -/
theorem Event.apply_notify (node : Node ν (Listener σ)) (index : Nat) :
    (notify index).apply node =
      match (notify index : Event ν σ).delivery? node with
      | some notice =>
        { node with
          jobs := node.jobs.eraseIdx index
          catalogue := node.catalogue.noteReceipt notice.1 notice.2 }
      | none => node := by
  rw [apply, delivery?]
  cases node.jobs[index]? with
  | none => rfl
  | some job => cases job <;> rfl

/-- Doing a waiting job is a step: a notice is delivered, and it does not wait any longer. -/
theorem step_notify (h : c.IsRegular) (index : Nat) : c.Step (.notify index) := by
  have happly : (c.after (.notify index)).node = _ := Event.apply_notify c.node index
  cases hdelivery : (Event.notify index : Event ν σ).delivery? c.node with
  | none =>
    -- there is no notice at that place, and nothing happens
    rw [hdelivery] at happly
    refine .of_idle rfl hdelivery ?_ ?_ (fun number => ?_) fun code => ?_
    · rw [happly]
    · rw [happly]
    · rw [happly]
    · rw [inCharge?, happly]
      rfl
  | some notice =>
    rw [hdelivery] at happly
    have hsuccess : (Event.notify index : Event ν σ).success? c.node = none := rfl
    refine ⟨fun publication receipt hstored => ?_, ?_, ?_, fun number => ?_, fun code => ?_⟩
    · cases hsuccess.symm.trans hstored
    · rw [happly, hsuccess]
      rfl
    · rw [happly, hsuccess, Option.toList_none, List.append_nil, hdelivery]
      exact Event.notices_perm_of_delivery? hdelivery
    · rw [happly, hdelivery, Catalogue.heard_noteReceipt h, Option.filter_some, inCharge?]
      simp only [decide_eq_true_eq]
      split <;> rfl
    · rw [inCharge?, happly, Catalogue.entries_noteReceipt]
      rfl

/-- Every event that can happen is a step. -/
theorem IsRegular.step (h : c.IsRegular) (hallowed : c.allows event = true) : c.Step event := by
  cases event with
  | publishing own => exact step_publishing own hallowed
  | surroundings network now => exact .of_idle rfl rfl rfl rfl (fun _ => rfl) fun _ => rfl
  | bringIn source =>
    exact .of_idle rfl rfl rfl rfl (Catalogue.heard_addSource _ source) fun _ => rfl
  | edit number change =>
    exact .of_idle rfl rfl rfl rfl (Catalogue.heard_modifySource _ number change) fun _ => rfl
  | register type number => exact step_register type number
  | unregister type => exact step_unregister type
  | notify index => exact step_notify h index

/-- No source is ever thrown out. -/
theorem length_sources_le_after (hallowed : c.allows event = true) :
    c.node.catalogue.sources.length ≤ (c.after event).node.catalogue.sources.length := by
  cases event with
  | publishing own => exact Nat.le_of_eq (by rw [catalogue_after_publishing own hallowed])
  | bringIn source =>
    have hsources : (c.after (.bringIn source)).node.catalogue.sources =
        c.node.catalogue.sources ++ [⟨source, []⟩] := rfl
    rw [hsources, List.length_append]
    exact Nat.le_add_right _ _
  | edit number change => exact Nat.le_of_eq (List.length_modify _ _ _).symm
  | register type number => exact Nat.le_of_eq (by rw [node_after_register])
  | notify index =>
    have happly : (c.after (.notify index)).node = _ := Event.apply_notify c.node index
    rw [happly]
    cases (Event.notify index : Event ν σ).delivery? c.node with
    | none => exact Nat.le_refl _
    | some notice => exact Nat.le_of_eq (Catalogue.length_sources_noteReceipt _ _ _).symm
  | _ => exact Nat.le_refl _

theorem IsRegular.after (h : c.IsRegular) (hallowed : c.allows event = true) :
    (c.after event).IsRegular := by
  intro code number hnumber
  -- sources are never dropped, so a number in use stays one of a source
  refine Nat.lt_of_lt_of_le ?_ (length_sources_le_after hallowed)
  rw [(h.step hallowed).inCharge] at hnumber
  cases event with
  | register type own =>
    rw [Event.successor?] at hnumber
    split at hnumber
    · cases hnumber
      exact of_decide_eq_true hallowed
    · exact h code number hnumber
  | unregister type =>
    rw [Event.successor?] at hnumber
    split at hnumber
    · cases hnumber
    · exact h code number hnumber
  | _ => exact h code number hnumber

/-! ## Histories -/

section Counts

variable (counted : Publication × Receipt → Bool)

/-- Of every kind, as many notices have come as stamps, and as many have gone as were delivered. -/
theorem Step.countP_notices (h : c.Step event) :
    c.node.notices.countP counted + (event.success? c.node).toList.countP counted =
      (event.delivery? c.node).toList.countP counted +
        (c.after event).node.notices.countP counted := by
  have hcount := h.notices.countP_eq counted
  rwa [List.countP_append, List.countP_append] at hcount

/-- A source hears no more than what is delivered. -/
theorem Step.countP_heard_le (h : c.Step event) (number : Nat) :
    ((c.after event).node.catalogue.heard number).countP counted ≤
      (c.node.catalogue.heard number).countP counted +
        (event.delivery? c.node).toList.countP counted := by
  rw [h.heard, List.countP_append]
  cases event.delivery? c.node with
  | none => exact Nat.le_refl _
  | some notice =>
    refine Nat.add_le_add_left (List.Sublist.countP_le ?_) _
    rw [Option.filter_some]
    split
    · exact List.Sublist.refl _
    · exact List.nil_sublist _

/-- The source in charge hears of all that is delivered. -/
theorem Step.countP_heard (h : c.Step event) (number : Nat)
    (hnumber : ∀ notice, event.delivery? c.node = some notice → counted notice = true →
      c.inCharge? notice.1.value.type.code = some number) :
    ((c.after event).node.catalogue.heard number).countP counted =
      (c.node.catalogue.heard number).countP counted +
        (event.delivery? c.node).toList.countP counted := by
  rw [h.heard, List.countP_append]
  cases hdelivery : event.delivery? c.node with
  | none => rfl
  | some notice =>
    cases hcounted : counted notice with
    | true => rw [Option.filter_some, if_pos (decide_eq_true (hnumber notice hdelivery hcounted))]
    | false =>
      rw [Option.filter_some]
      split <;> simp [hcounted]

end Counts

theorem Balanced.after (h : c.Balanced) (hallowed : c.allows event = true) :
    (c.after event).Balanced where
  regular := h.regular.after hallowed
  heard_le number counted := by
    have hstep := h.regular.step hallowed
    have hbefore := h.heard_le number counted
    have hheard := hstep.countP_heard_le counted number
    have hnotices := hstep.countP_notices counted
    -- what is heard more is waited for less, and what is waited for more has been stamped
    rw [Correspondence.after, List.countP_append] at *
    omega

variable {history : List (Event ν σ)}

theorem afterAll_concat (c : Correspondence ν σ) (history : List (Event ν σ))
    (event : Event ν σ) : c.afterAll (history ++ [event]) = (c.afterAll history).after event :=
  List.foldl_concat _ _ _ _

theorem allowsAll_concat (c : Correspondence ν σ) (history : List (Event ν σ))
    (event : Event ν σ) :
    c.allowsAll (history ++ [event]) =
      (c.allowsAll history && (c.afterAll history).allows event) := by
  induction history generalizing c with
  | nil => exact Bool.and_true _
  | cons first history ih =>
    rw [List.cons_append, allowsAll, ih, allowsAll, Bool.and_assoc]
    rfl

/-- A history that can happen keeps the books in balance. -/
theorem Balanced.afterAll (h : start.Balanced) (hallowed : start.allowsAll history = true) :
    (start.afterAll history).Balanced := by
  induction history using List.reverseRecOn with
  | nil => exact h
  | append_singleton history event ih =>
    rw [allowsAll_concat, Bool.and_eq_true] at hallowed
    rw [afterAll_concat]
    exact (ih hallowed.1).after hallowed.2

/-- Which source is in charge is what the registrations say. -/
theorem Balanced.inCharge?_afterAll (h : start.Balanced)
    (hallowed : start.allowsAll history = true) (code : UInt32) :
    (start.afterAll history).inCharge? code =
      history.foldl (fun former event => event.successor? code former) (start.inCharge? code) := by
  induction history using List.reverseRecOn with
  | nil => rfl
  | append_singleton history event ih =>
    rw [allowsAll_concat, Bool.and_eq_true] at hallowed
    rw [afterAll_concat, ((h.afterAll hallowed.1).regular.step hallowed.2).inCharge,
      ih hallowed.1, List.foldl_concat]

/-- A source has been registered for a type code all the time, or at least since a publication of
the type was stamped for the first time. -/
def Keeps (start : Correspondence ν σ) (history : List (Event ν σ)) (number : Nat)
    (code : UInt32) : Prop :=
  ∀ earlier, earlier <+: history →
    (∃ entry ∈ (start.afterAll earlier).stamped, entry.1.value.type.code = code) →
      (start.afterAll earlier).inCharge? code = some number

instance (start : Correspondence ν σ) (history : List (Event ν σ)) (number : Nat)
    (code : UInt32) : Decidable (start.Keeps history number code) :=
  decidable_of_iff (∀ earlier ∈ history.inits,
      (∃ entry ∈ (start.afterAll earlier).stamped, entry.1.value.type.code = code) →
        (start.afterAll earlier).inCharge? code = some number) <| by
    simp only [List.mem_inits, Keeps]

/-- A source that has kept a type has heard of all stamps of its publications, except for those
whose notices wait. -/
theorem Fresh.tellings_add_waiting (h : start.Fresh) (hallowed : start.allowsAll history = true)
    {number : Nat} {publication : Publication}
    (hkeeps : start.Keeps history number publication.value.type.code) :
    (start.afterAll history).tellings number publication +
        (start.afterAll history).node.notices.countP (fun notice => notice.1 = publication) =
      (start.afterAll history).stampings publication := by
  induction history using List.reverseRecOn with
  | nil =>
    rw [tellings, stampings, afterAll, List.foldl_nil, h.heard, h.notices, h.stamped]
    rfl
  | append_singleton history event ih =>
    rw [allowsAll_concat, Bool.and_eq_true] at hallowed
    have hbefore := ih hallowed.1 fun earlier hearlier =>
      hkeeps earlier (hearlier.trans (List.prefix_append _ _))
    have hbalanced := h.balanced.afterAll hallowed.1
    have hstep := hbalanced.regular.step hallowed.2
    have hheard := hstep.countP_heard (fun entry => entry.1 = publication) number <| by
      -- what is delivered has been stamped, so the source is in charge by now
      intro notice hdelivery hsame
      have hstamped := hbalanced.mem_stamped (Event.mem_notices_of_delivery? hdelivery)
      rw [of_decide_eq_true hsame]
      refine hkeeps history (List.prefix_append _ _) ⟨notice, hstamped, ?_⟩
      rw [of_decide_eq_true hsame]
    have hnotices := hstep.countP_notices fun entry => entry.1 = publication
    rw [tellings, stampings] at hbefore
    rw [afterAll_concat, tellings, stampings, hheard, Correspondence.after, List.countP_append]
    rw [Correspondence.after] at hnotices
    omega

/-- Receipts reach the sources exactly once. After any history, whoever is in charge of a type is
who the registrations say, and any further event does what `Step` tells: a notice comes with each
stamp and with nothing else, it waits until it is delivered whatever happens, and its delivery is
heard once by the source in charge then and by no other. So no source has been told of a publication
more often than it was stamped, and just as often once nothing waits, if the source has kept the
type. -/
theorem tellings_le_stampings (hstart : start.Fresh) (history : List (Event ν σ))
    (hallowed : start.allowsAll history = true) :
    let c := start.afterAll history
    (∀ code, c.inCharge? code =
        history.foldl (fun former event => event.successor? code former) (start.inCharge? code)) ∧
      (∀ event, c.allows event = true → c.Step event) ∧
      ∀ number publication,
        c.tellings number publication ≤ c.stampings publication ∧
          (start.Keeps history number publication.value.type.code →
            (∀ notice ∈ c.node.notices, notice.1 ≠ publication) →
              c.tellings number publication = c.stampings publication) := by
  intro c
  have hbalanced : c.Balanced := hstart.balanced.afterAll hallowed
  refine ⟨hstart.balanced.inCharge?_afterAll hallowed, fun event => hbalanced.regular.step,
    fun number publication => ⟨?_, fun hkeeps hnone => ?_⟩⟩
  · exact (Nat.le_add_right _ _).trans (hbalanced.heard_le number _)
  · have hcount := hstart.tellings_add_waiting hallowed hkeeps
    have hzero : (c.node.notices.countP fun notice => notice.1 = publication) = 0 :=
      List.countP_eq_zero.mpr fun notice hnotice => by simpa using hnone notice hnotice
    rwa [hzero, Nat.add_zero] at hcount

/-- A publication is stored and the publisher is stopped before its notice is delivered. The source
that was registered all along has been told once in the end. -/
theorem tellings_le_stampings_of_late_notice :
    let contact : Contact := ⟨.ones, .ofOctets 82 1 2 3 4000⟩
    let publication : Publication := ⟨0, .zero, ⟨.test, ⟨1, 0⟩, [118], by decide⟩⟩
    let node : Node Scripted (Listener Shelf) := .ofSettings {} { contact } 0 0
    let start : Correspondence Scripted Shelf := { node }
    let history : List (Event Scripted Shelf) :=
      [.bringIn { publications := [publication] }, .register .test 0, .publishing .tick,
        .publishing (.begin 0),
        .publishing (.conclude 0 (.ok { key := .zero, locations := [contact] })),
        .publishing .stop, .bringIn {}, .register .text 1, .notify 1]
    start.Fresh ∧ start.allowsAll history = true ∧
      start.Keeps history 0 publication.value.type.code ∧
      (start.afterAll history).stampings publication = 1 ∧
      (start.afterAll history).tellings 0 publication = 1 ∧
      (start.afterAll history).tellings 1 publication ≤ 1 := by
  intro contact publication node start history
  have hregular : start.IsRegular := by
    intro code number hnumber
    cases hnumber
  have hstart : start.Fresh := ⟨hregular, rfl, rfl, fun _ => rfl⟩
  have hallowed : start.allowsAll history = true := by decide
  have hkeeps : start.Keeps history 0 publication.value.type.code := by decide
  have hstampings : (start.afterAll history).stampings publication = 1 := by decide
  have hnone : ∀ notice ∈ (start.afterAll history).node.notices, notice.1 ≠ publication := by decide
  obtain ⟨-, -, htellings⟩ := tellings_le_stampings hstart history hallowed
  refine ⟨hstart, hallowed, hkeeps, hstampings, ?_, ?_⟩
  · exact ((htellings 0 publication).2 hkeeps hnone).trans hstampings
  · exact (htellings 1 publication).1.trans hstampings.le

end Correspondence

end OverlayStore
