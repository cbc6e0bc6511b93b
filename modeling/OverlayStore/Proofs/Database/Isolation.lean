import OverlayStore.Proofs.Database.Place

/-!
# Clients that do not meet

Clients call a database in turns. What a call answers depends on the bag of its key and, where a
remote record is stored, on the number of remote records from the same address and network. All of
this is the same whether or not other clients call in between, as long as these use other keys and
other networks (`Database.Coincide`). So every client gets the answers that it would get alone
(`Database.clients_do_not_interfere`).

A call of the client itself keeps both runs alike, and a call of another client changes nothing in
what the client sees of the run that it occurs in.
-/

namespace OverlayStore.Database

/-! ## Calls -/

/-- What a client can ask of a database. -/
inductive Call where
  /-- Store a record, or delete one by an empty value. -/
  | store (record : Record)
  /-- Remove the record under a primary and a secondary key. -/
  | remove (key secondary : Key)
  /-- Ask whether there is a record under a primary and a secondary key. -/
  | contains (key secondary : Key)
  /-- Ask for the bag of a key. -/
  | get (key : Key)
  /-- Ask for the request load of a key at a time. -/
  | load (key : Key) (counted : Bool) (now : Time)

/-- What a database answers to a call. -/
inductive Answer where
  /-- Whether storing changed anything. -/
  | stored (changed : Bool)
  /-- The record that was removed. -/
  | removed (record : Option Record)
  /-- Whether there is a record. -/
  | contained (found : Bool)
  /-- The bag, if there is one. -/
  | bag (bag : Option Bag)
  /-- The request load. -/
  | load (load : Float32)

namespace Call

/-- The primary key that a call is about. -/
def key : Call → Key
  | .store record => record.key
  | .remove key _ => key
  | .contains key _ => key
  | .get key => key
  | .load key _ _ => key

/-- The /24 network that a call's record is charged to, if the call stores a remote record whose
creator has an IPv4 form. -/
def network? : Call → Option UInt32
  | .store record => record.charge Contact.networkMask
  | _ => none

/-- Two calls use different keys, and no common network. -/
def Apart (a b : Call) : Prop :=
  a.key ≠ b.key ∧ (a.network? = b.network? → a.network? = none)

instance (a b : Call) : Decidable (a.Apart b) :=
  inferInstanceAs (Decidable (a.key ≠ b.key ∧ (a.network? = b.network? → a.network? = none)))

end Call

/-- Answer a call. -/
def answer (db : Database) : Call → Answer × Database
  | .store record => (.stored (db.store record).result, (db.store record).database)
  | .remove key secondary =>
    (.removed (db.remove key secondary).result, (db.remove key secondary).database)
  | .contains key secondary => (.contained (db.contains key secondary), db)
  | .get key => (.bag (db.bag? key), db)
  | .load key counted now =>
    (.load (db.requestLoad key counted now).1, (db.requestLoad key counted now).2)

/-- Answer the calls of several clients in turn. -/
def answerAll {ι : Type} (db : Database) : List (ι × Call) → List (ι × Answer) × Database
  | [] => ([], db)
  | (client, call) :: calls =>
    let (answers, last) := (db.answer call).2.answerAll calls
    ((client, (db.answer call).1) :: answers, last)

variable {db a b : Database} {call : Call}

/-! ## One call -/

/-- The request that a call makes, if it may change the database. -/
def Call.request? : Call → Option Request
  | .store record => some (.store record)
  | .remove key secondary => some (.remove key secondary)
  | .load key counted now => some (.load key counted now)
  | .contains _ _ | .get _ => none

/-- A call serves its request, if it is one that changes anything. -/
theorem database_answer (db : Database) (call : Call) :
    (db.answer call).2 = call.request?.elim db db.serve := by
  cases call <;> rfl

/-- A call keeps a database well formed. -/
theorem WellFormed.answer (h : db.WellFormed) (call : Call) : (db.answer call).2.WellFormed := by
  rw [database_answer]
  cases call.request? with
  | none => exact h
  | some request => exact h.serve request

theorem rules_answer (db : Database) (call : Call) : (db.answer call).2.rules = db.rules := by
  rw [database_answer]
  cases hrequest : call.request? with
  | none => rfl
  | some request =>
    refine db.rules_serve ?_
    cases call <;> cases hrequest <;> rfl

theorem policy_answer (db : Database) (call : Call) : (db.answer call).2.policy = db.policy :=
  congrArg (·.2.2) (rules_answer db call)

/-- After a call there are records from before, and at most the stored one besides. -/
theorem WellFormed.mem_records_answer (h : db.WellFormed) {record : Record}
    (hmem : record ∈ (db.answer call).2.records) : record ∈ db.records ∨ call = .store record := by
  cases call with
  | store stored =>
    rcases h.mem_records_store hmem with hbefore | ⟨rfl, -⟩
    · exact .inl hbefore
    · exact .inr rfl
  | remove key secondary =>
    have hfound := ((h.serve (.remove key secondary)).mem_records_iff record).mp hmem
    rw [h.find?_serve, Request.leaves] at hfound
    split at hfound
    · cases hfound
    · exact .inl ((h.mem_records_iff record).mpr hfound)
  | load key counted now => exact .inl ((h.records_requestLoad key counted now).mem_iff.mp hmem)
  | contains key secondary => exact .inl hmem
  | get key => exact .inl hmem

/-! ## The bag of a call's key -/

/-- A call changes no other bag than that of its key. -/
theorem bag?_answer_of_ne (db : Database) {key : Key} (hne : key ≠ call.key) :
    (db.answer call).2.bag? key = db.bag? key := by
  -- records are taken out by a removal and by a store of an empty value alike
  have taken : ∀ k secondary, key ≠ k →
      ((db.takeOut k secondary).elim db Prod.snd).bag? key = db.bag? key := by
    intro k secondary hne
    cases htaken : db.takeOut k secondary with
    | none => rfl
    | some left =>
      obtain ⟨bag, hbag, -, -⟩ := exists_of_takeOut_eq_some htaken
      exact (bag?_takeOut htaken hbag key).trans (if_neg hne)
  cases call with
  | store record =>
    refine (congrArg (bag? · key) (database_store db record)).trans ?_
    split
    · exact taken _ _ hne
    · split
      · exact (bag?_put db record key).trans (if_neg hne)
      · rfl
  | remove k secondary =>
    exact (congrArg (bag? · key) (database_remove db k secondary)).trans (taken k secondary hne)
  | contains k secondary => rfl
  | get k => rfl
  | load k counted now => exact (bag?_requestLoad db k counted now key).trans (if_neg hne)

theorem find?_congr {key : Key} (hbag : a.bag? key = b.bag? key) (secondary : Key) :
    a.find? key secondary = b.find? key secondary :=
  congrArg (·.bind fun bag => bag.find? secondary) hbag

/-- Taking a record out of the same bag takes the same record and leaves the same bag. -/
theorem takeOut_congr {key : Key} (hbag : a.bag? key = b.bag? key) (secondary : Key) :
    (a.takeOut key secondary).map Prod.fst = (b.takeOut key secondary).map Prod.fst ∧
      ((a.takeOut key secondary).elim a Prod.snd).bag? key =
        ((b.takeOut key secondary).elim b Prod.snd).bag? key := by
  have hfind := find?_congr hbag secondary
  cases ha : a.takeOut key secondary with
  | none =>
    rw [(takeOut_eq_none_iff b key secondary).2
      (hfind.symm.trans ((takeOut_eq_none_iff a key secondary).1 ha))]
    exact ⟨rfl, hbag⟩
  | some left =>
    cases hb : b.takeOut key secondary with
    | none =>
      have hnone := (takeOut_eq_none_iff b key secondary).1 hb
      rw [← hfind, find?_of_takeOut_eq_some ha] at hnone
      cases hnone
    | some right =>
      obtain ⟨bag, hbag', -, -⟩ := exists_of_takeOut_eq_some ha
      have hsame : left.1 = right.1 := Option.some.inj <|
        (find?_of_takeOut_eq_some ha).symm.trans (hfind.trans (find?_of_takeOut_eq_some hb))
      refine ⟨congrArg some hsame, ?_⟩
      rw [Option.elim_some, Option.elim_some, bag?_takeOut ha hbag', if_pos rfl,
        bag?_takeOut hb (hbag.symm.trans hbag'), if_pos rfl]

/-- Removing answers the record that was there. -/
theorem result_remove (db : Database) (key secondary : Key) :
    (db.remove key secondary).result = (db.takeOut key secondary).map Prod.fst := by
  unfold remove
  cases db.takeOut key secondary <;> rfl

/-- Where the bags of a call's key are the same, the load rules are, and a record to be stored is
admitted to both databases or none, the answers are the same, and so are the bags afterwards. -/
theorem answer_congr (hbag : a.bag? call.key = b.bag? call.key) (hload : a.loadRule = b.loadRule)
    (hadmits : ∀ record, call = .store record → a.admits record = b.admits record) :
    (a.answer call).1 = (b.answer call).1 ∧
      (a.answer call).2.bag? call.key = (b.answer call).2.bag? call.key := by
  cases call with
  | store record =>
    have hadmits := hadmits record rfl
    by_cases hempty : record.value.isEmpty = true
    · -- an empty value takes out what is there
      obtain ⟨-, hleft⟩ := takeOut_congr hbag record.secondary
      simp only [answer, result_store_of_isEmpty _ hempty, database_store, if_pos hempty]
      exact ⟨congrArg (Answer.stored ·.isSome) (find?_congr hbag record.secondary), hleft⟩
    · have hresult := fun db : Database => db.result_store (eq_false_of_ne_true hempty)
      simp only [answer, hresult, database_store, if_neg hempty, hadmits, true_and]
      split
      · have hbagFor : a.bagFor record = b.bagFor record :=
          congrArg (·.getD { key := record.key }) hbag
        rw [bag?_put, bag?_put, hbagFor, hbag]
      · exact hbag
  | remove key secondary =>
    obtain ⟨htaken, hleft⟩ := takeOut_congr hbag secondary
    simp only [answer, result_remove, database_remove]
    exact ⟨congrArg Answer.removed htaken, hleft⟩
  | contains key secondary =>
    exact ⟨congrArg (fun found => Answer.contained (Option.isSome found))
      (find?_congr hbag secondary), hbag⟩
  | get key => exact ⟨congrArg Answer.bag hbag, hbag⟩
  | load key counted now =>
    have hbag : a.bag? key = b.bag? key := hbag
    refine ⟨congrArg Answer.load ?_, ?_⟩
    · unfold requestLoad
      rw [hbag, hload]
      cases b.bag? key <;> rfl
    · exact (bag?_requestLoad a key counted now key).trans
        (by rw [hbag, hload]; exact (bag?_requestLoad b key counted now key).symm)

/-! ## What a client sees -/

/-- The records that are charged to some of the networks are all under some of the keys. -/
def Reserved (keys : Key → Prop) (networks : UInt32 → Prop) (db : Database) : Prop :=
  ∀ record ∈ db.records, ∀ network, record.charge Contact.networkMask = some network →
    networks network → keys record.key

/-- Two databases with the standard policy look the same to a client that uses some keys and
networks. In both, all records from these networks are under these keys. -/
structure Coincide (keys : Key → Prop) (networks : UInt32 → Prop) (a b : Database) : Prop where
  /-- The first database is well formed. -/
  left : a.WellFormed
  /-- The second one is. -/
  right : b.WellFormed
  /-- Both have the same limits, load rule and policy. -/
  rules_eq : a.rules = b.rules
  /-- The policy is the standard one. -/
  policy : ∃ maxPerKey, a.policy = some (Admission.standard maxPerKey)
  /-- Both have the same bags under the keys. -/
  bag?_eq : ∀ key, keys key → a.bag? key = b.bag? key
  /-- The first database has records from the networks under the keys only. -/
  reserved_left : a.Reserved keys networks
  /-- So has the second one. -/
  reserved_right : b.Reserved keys networks

variable {keys : Key → Prop} {networks : UInt32 → Prop}

/-- A call that stores a record from the networks under one of the keys only keeps them reserved. -/
theorem Reserved.answer (hdb : db.WellFormed) (h : db.Reserved keys networks)
    (hcall : ∀ network, call.network? = some network → networks network → keys call.key) :
    (db.answer call).2.Reserved keys networks := by
  intro record hmem network hcharge hnetwork
  rcases hdb.mem_records_answer hmem with hbefore | rfl
  · exact h record hbefore network hcharge hnetwork
  · exact hcall network hcharge hnetwork

namespace Coincide

/-- A record from the client's networks that is in one of the databases is in the other. -/
theorem mem_records (h : Coincide keys networks a b) {record : Record} {network : UInt32}
    (hcharge : record.charge Contact.networkMask = some network) (hnetwork : networks network) :
    record ∈ a.records ↔ record ∈ b.records := by
  have hsame : keys record.key →
      a.find? record.key record.secondary = b.find? record.key record.secondary :=
    fun hkey => find?_congr (h.bag?_eq _ hkey) _
  constructor <;> intro hmem
  · have hkey := h.reserved_left record hmem network hcharge hnetwork
    rwa [h.left.mem_records_iff, hsame hkey, ← h.right.mem_records_iff] at hmem
  · have hkey := h.reserved_right record hmem network hcharge hnetwork
    rwa [h.right.mem_records_iff, ← hsame hkey, ← h.left.mem_records_iff] at hmem

/-- As many records are charged to an origin in one of the client's networks. -/
theorem charged_eq (h : Coincide keys networks a b) {mask origin : UInt32}
    (horigin : ∀ record : Record, record.charge mask = some origin →
      ∃ network, record.charge Contact.networkMask = some network ∧ networks network) :
    Record.charged mask origin a.records = Record.charged mask origin b.records := by
  unfold Record.charged
  rw [List.countP_eq_length_filter, List.countP_eq_length_filter]
  refine List.Perm.length_eq ((List.perm_ext_iff_of_nodup (h.left.nodup_records.filter _)
    (h.right.nodup_records.filter _)).2 fun record => ?_)
  rw [List.mem_filter, List.mem_filter, and_congr_left_iff]
  intro hcharge
  obtain ⟨network, hnetwork, hours⟩ := horigin record (of_decide_eq_true hcharge)
  exact h.mem_records hnetwork hours

/-- The client's records are admitted to both databases or to none. -/
theorem admits_eq (h : Coincide keys networks a b) {record : Record} (hkey : keys record.key)
    (hnetwork : ∀ network, record.charge Contact.networkMask = some network → networks network) :
    a.admits record = b.admits record := by
  have hbag := h.bag?_eq _ hkey
  have hlimits : a.limits = b.limits := congrArg Prod.fst h.rules_eq
  have haddress : a.valuesPerAddress record = b.valuesPerAddress record := by
    rw [h.left.valuesPerAddress_eq, h.right.valuesPerAddress_eq]
    cases horigin : record.charge Contact.addressMask with
    | none => rfl
    | some origin =>
      refine h.charged_eq fun other hother => ?_
      -- records from one address are from one network
      have hcharge : other.charge Contact.networkMask = record.charge Contact.networkMask := by
        rw [charge_networkMask, charge_networkMask, hother, horigin]
      have hsome : record.charge Contact.networkMask = some (origin &&& Contact.networkMask) := by
        rw [charge_networkMask, horigin, Option.map_some]
      exact ⟨_, hcharge.trans hsome, hnetwork _ hsome⟩
  have hnetworks : a.valuesPerNetwork record = b.valuesPerNetwork record := by
    rw [h.left.valuesPerNetwork_eq, h.right.valuesPerNetwork_eq]
    cases horigin : record.charge Contact.networkMask with
    | none => rfl
    | some origin => exact h.charged_eq fun other hother => ⟨origin, hother, hnetwork _ horigin⟩
  obtain ⟨maxPerKey, hpolicy⟩ := h.policy
  have hpolicy' : b.policy = some (Admission.standard maxPerKey) :=
    (congrArg (·.2.2) h.rules_eq).symm.trans hpolicy
  -- the standard policy looks at the bag only
  simp only [admits, withinLimits, hpolicy, hpolicy', hlimits, haddress, hnetworks, hbag,
    find?_congr hbag, Admission.standard]

/-- The client's own calls get the same answers from both databases, which go on to look the
same. -/
theorem answer_own (h : Coincide keys networks a b) (hkey : keys call.key)
    (hnetwork : ∀ network, call.network? = some network → networks network) :
    (a.answer call).1 = (b.answer call).1 ∧
      Coincide keys networks (a.answer call).2 (b.answer call).2 := by
  have hload : a.loadRule = b.loadRule := congrArg (·.2.1) h.rules_eq
  obtain ⟨hanswer, hbag⟩ := answer_congr (h.bag?_eq _ hkey) hload fun record hstore => by
    subst hstore
    exact h.admits_eq hkey hnetwork
  refine ⟨hanswer,
    { left := h.left.answer call
      right := h.right.answer call
      rules_eq := by rw [rules_answer, rules_answer, h.rules_eq]
      policy := by rw [policy_answer]; exact h.policy
      bag?_eq := fun key hother => ?_
      reserved_left := h.reserved_left.answer h.left fun _ _ _ => hkey
      reserved_right := h.reserved_right.answer h.right fun _ _ _ => hkey }⟩
  by_cases hsame : key = call.key
  · rw [hsame, hbag]
  · rw [bag?_answer_of_ne a hsame, bag?_answer_of_ne b hsame, h.bag?_eq key hother]

/-- A call under another key and from another network that only the first database gets changes
nothing for the client. -/
theorem answer_other (h : Coincide keys networks a b) (hkey : ¬ keys call.key)
    (hnetwork : ∀ network, call.network? = some network → ¬ networks network) :
    Coincide keys networks (a.answer call).2 b where
  left := h.left.answer call
  right := h.right
  rules_eq := (rules_answer a call).trans h.rules_eq
  policy := by rw [policy_answer]; exact h.policy
  bag?_eq key hours := by
    rw [bag?_answer_of_ne a fun hsame => hkey (hsame ▸ hours), h.bag?_eq key hours]
  reserved_left := h.reserved_left.answer h.left fun network hcharge hours =>
    absurd hours (hnetwork network hcharge)
  reserved_right := h.reserved_right

/-- Over a whole run, the client gets the answers that it gets when only its own calls are made. -/
theorem answerAll {ι : Type} [DecidableEq ι] (h : Coincide keys networks a b)
    {calls : List (ι × Call)} {client : ι}
    (hown : ∀ c ∈ calls, c.1 = client → keys c.2.key ∧
      ∀ network, c.2.network? = some network → networks network)
    (hothers : ∀ c ∈ calls, c.1 ≠ client → ¬ keys c.2.key ∧
      ∀ network, c.2.network? = some network → ¬ networks network) :
    (a.answerAll calls).1.filter (·.1 = client) =
        (b.answerAll (calls.filter (·.1 = client))).1 ∧
      Coincide keys networks (a.answerAll calls).2
        (b.answerAll (calls.filter (·.1 = client))).2 := by
  induction calls generalizing a b with
  | nil => exact ⟨rfl, h⟩
  | cons c calls ih =>
    obtain ⟨who, call⟩ := c
    have hown' := fun c hmem => hown c (List.mem_cons_of_mem _ hmem)
    have hothers' := fun c hmem => hothers c (List.mem_cons_of_mem _ hmem)
    -- both sides answer a call of the client, and only the left one answers another
    by_cases hwho : who = client
    · obtain ⟨hkey, hnetwork⟩ := hown _ List.mem_cons_self hwho
      obtain ⟨hanswer, hafter⟩ := h.answer_own hkey hnetwork
      obtain ⟨hrest, hlast⟩ := ih hafter hown' hothers'
      simp only [Database.answerAll, List.filter_cons, hwho, decide_true, if_true]
      exact ⟨by rw [hanswer, hrest], hlast⟩
    · obtain ⟨hkey, hnetwork⟩ := hothers _ List.mem_cons_self hwho
      obtain ⟨hrest, hlast⟩ := ih (h.answer_other hkey hnetwork) hown' hothers'
      simp only [Database.answerAll, List.filter_cons, hwho, decide_false, Bool.false_eq_true,
        if_false]
      exact ⟨hrest, hlast⟩

end Coincide

/-- Let several clients call a database with the standard policy in any order, so that the calls of
different clients are about different keys and store remote records from different /24 networks.
Then each client gets the answers that it would get if it were alone, and the bags under its keys
are in the end what they would be then. -/
theorem clients_do_not_interfere {ι : Type} [DecidableEq ι] (limits : FloodLimits)
    (loadRule : LoadRule) (maxPerKey : Nat) (calls : List (ι × Call))
    (hapart : ∀ c ∈ calls, ∀ d ∈ calls, c.1 ≠ d.1 → c.2.Apart d.2) (client : ι) :
    let start : Database := { limits, loadRule, policy := some (Admission.standard maxPerKey) }
    let together := start.answerAll calls
    let alone := start.answerAll (calls.filter (·.1 = client))
    together.1.filter (·.1 = client) = alone.1 ∧
      ∀ c ∈ calls, c.1 = client → together.2.bag? c.2.key = alone.2.bag? c.2.key := by
  intro start together alone
  -- the keys and networks that the client uses
  let keys (key : Key) : Prop := ∃ c ∈ calls, c.1 = client ∧ c.2.key = key
  let networks (network : UInt32) : Prop :=
    ∃ c ∈ calls, c.1 = client ∧ c.2.network? = some network
  have hwell : start.WellFormed := WellFormed.fresh limits loadRule _
  have hreserved : start.Reserved keys networks := fun record hmem => by cases hmem
  have hstart : Coincide keys networks start start :=
    ⟨hwell, hwell, rfl, ⟨maxPerKey, rfl⟩, fun _ _ => rfl, hreserved, hreserved⟩
  have hown : ∀ c ∈ calls, c.1 = client → keys c.2.key ∧
      ∀ network, c.2.network? = some network → networks network := fun c hmem hclient =>
    ⟨⟨c, hmem, hclient, rfl⟩, fun _ hnetwork => ⟨c, hmem, hclient, hnetwork⟩⟩
  have hothers : ∀ c ∈ calls, c.1 ≠ client → ¬ keys c.2.key ∧
      ∀ network, c.2.network? = some network → ¬ networks network := by
    intro c hmem hother
    refine ⟨fun ⟨d, hd, hclient, hkey⟩ => ?_, fun network hnetwork ⟨d, hd, hclient, hsame⟩ => ?_⟩
    · exact (hapart c hmem d hd (hclient ▸ hother)).1 hkey.symm
    · have hnone := (hapart c hmem d hd (hclient ▸ hother)).2 (hnetwork.trans hsame.symm)
      rw [hnetwork] at hnone
      cases hnone
  obtain ⟨hanswers, hlast⟩ := hstart.answerAll hown hothers
  exact ⟨hanswers, fun c hmem hclient => hlast.bag?_eq _ (hown c hmem hclient).1⟩

/-- One record for each address and two for each network are allowed. The first client fills its
address, is refused there, makes room and tries again, while the second one stores records from
another network, and local ones from the first one's. -/
theorem clients_do_not_interfere_of_full_address :
    let value : Value := ⟨.test, ⟨1, 0⟩, [118], by decide⟩
    let deleted : Value := ⟨.test, ⟨1, 0⟩, [], by decide⟩
    let contact (octet net : UInt8) : Contact :=
      ⟨⟨List.replicate 20 octet, by simp⟩, .ofOctets 82 1 net 7 4000⟩
    let limits : FloodLimits := { maxPerAddress := some 1, maxPerNetwork := some 2 }
    let start : Database := { limits, policy := some (Admission.standard 5) }
    let calls : List (Bool × Call) :=
      [(true, .store (.direct (contact 1 1) .zero value 0)),
        (false, .store (.direct (contact 3 2) .ones value 0)),
        (true, .store (.direct (contact 2 1) .zero value 0)),
        (false, .store (.own (contact 4 1) .ones value 0)),
        (true, .store (.direct (contact 1 1) .zero deleted 0)),
        (false, .load .ones true 5),
        (true, .store (.direct (contact 2 1) .zero value 0)),
        (true, .get .zero)]
    let together := start.answerAll calls
    let alone := start.answerAll (calls.filter (·.1 = true))
    let changes := alone.1.filterMap fun
      | (_, .stored changed) => some changed
      | _ => none
    (∀ c ∈ calls, ∀ d ∈ calls, c.1 ≠ d.1 → c.2.Apart d.2) ∧
      changes = [true, false, true, true] ∧
      together.1.filter (·.1 = true) = alone.1 ∧
      together.2.bag? .zero = alone.2.bag? .zero := by
  intro value deleted contact limits start calls together alone changes
  have hapart : ∀ c ∈ calls, ∀ d ∈ calls, c.1 ≠ d.1 → c.2.Apart d.2 := by decide
  obtain ⟨hanswers, hbags⟩ := clients_do_not_interfere limits {} 5 calls hapart true
  exact ⟨hapart, by decide, hanswers, hbags (true, .get .zero) (by simp [calls]) rfl⟩

end OverlayStore.Database
