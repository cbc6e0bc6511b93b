import OverlayStore.Proofs.Database.Removal

/-!
# What a request load depends on

The load of a key is kept in its bag, which comes and goes with the records under the key, and even
a request that does not count may change it: after a long gap it sets the load to zero. While the
clock does not go back none of this shows. What a request is answered is determined by the times of
the requests counted since the key last came to have records
(`Database.requestLoad_eq_answerAt`): an uncounted request that finds a long gap makes zero of a
load that every later request would take for zero as well, since the gap only grows.
-/

namespace OverlayStore

/-! ## The load by the times of the counted requests -/

namespace LoadRule

/-- The load after some counted requests, given by their times with the latest first. The first one
gives no rate. Each later one is averaged with the load before it, or with zero after a long gap. -/
def loadAfter (rule : LoadRule) : List Time → Float32
  | [] => 0
  | [_] => 0
  | time :: earlier :: times =>
    let gap := Time.since time earlier
    let seconds := Duration.singleSeconds gap
    let previous := if gap > rule.nullingDelay then 0 else rule.loadAfter (earlier :: times)
    rule.smoothing * (1 / if seconds > 0.001 then seconds else 0.001) +
      (1 - rule.smoothing) * previous

/-- What a request at a time is answered after some counted requests. One that counts itself is the
latest of them, and any other one reads the load after the latest, which is zero after a long
gap. -/
def answerAt (rule : LoadRule) (counted : Bool) (now : Time) (times : List Time) : Float32 :=
  if counted then rule.loadAfter (now :: times)
  else
    match times with
    | [] => 0
    | last :: _ => if Time.since now last > rule.nullingDelay then 0 else rule.loadAfter times

end LoadRule

/-- What a bag keeps for its request load: the load, and the time of the last counted request. -/
def Bag.meter (bag : Bag) : Float32 × Option Time := (bag.load, bag.lastRequest)

/-- A meter has counted requests at some times: it shows the load after them, or zero if the gap
since the last of them is a long one now. -/
structure Metered (rule : LoadRule) (meter : Float32 × Option Time) (times : List Time)
    (now : Time) : Prop where
  /-- The last request is the latest of them. -/
  last_eq : meter.2 = times.head?
  /-- The load is the load after them, if that still matters. -/
  load_eq : meter.1 = rule.loadAfter times ∨
    meter.1 = 0 ∧ ∃ last ∈ times.head?, rule.nullingDelay < Time.since now last

namespace Metered

variable {rule : LoadRule} {meter : Float32 × Option Time} {times : List Time} {now later : Time}

theorem zero (rule : LoadRule) (now : Time) : Metered rule (0, none) [] now := ⟨rfl, .inl rfl⟩

/-- Gaps only grow. -/
theorem mono (h : Metered rule meter times now) (hle : now ≤ later) :
    Metered rule meter times later where
  last_eq := h.last_eq
  load_eq := by
    rcases h.load_eq with hload | ⟨hzero, last, hlast, hlong⟩
    · exact .inl hload
    · have hgap : Time.since now last ≤ Time.since later last :=
        Int.toNat_le_toNat (Int.sub_le_sub_right hle last)
      exact .inr ⟨hzero, last, hlast, hlong.trans_le hgap⟩

/-- What is left of the load that is shown is what is left of the load after the requests. -/
theorem faded_eq (h : Metered rule meter times now) {last : Time}
    (hlast : times.head? = some last) :
    rule.faded (Time.since now last) meter.1 =
      rule.faded (Time.since now last) (rule.loadAfter times) := by
  rcases h.load_eq with hload | ⟨-, other, hother, hlong⟩
  · rw [hload]
  · -- after a long gap nothing is left of either
    obtain rfl : last = other := Option.some.inj (hlast.symm.trans hother)
    simp [LoadRule.faded, hlong]

/-- A request is answered from the times of the counted ones, and is one of them if it counts. -/
theorem requestLoad {bag : Bag} (h : Metered rule bag.meter times now) (counted : Bool) :
    (bag.requestLoad rule now counted).1 = rule.answerAt counted now times ∧
      Metered rule (bag.requestLoad rule now counted).2.meter
        (if counted then now :: times else times) now := by
  have hlast : bag.lastRequest = times.head? := h.last_eq
  unfold Bag.requestLoad
  rw [hlast]
  cases times with
  | nil =>
    -- the load that is shown has never been changed
    have hzero : bag.load = 0 := h.load_eq.elim id And.left
    cases counted with
    | true => exact ⟨hzero, rfl, .inl hzero⟩
    | false => exact ⟨hzero, rfl, .inl hzero⟩
  | cons last times =>
    have hfaded : rule.faded (Time.since now last) bag.load = _ := h.faded_eq rfl
    cases counted with
    | true =>
      have hnext : rule.next (Time.since now last) bag.load =
          rule.loadAfter (now :: last :: times) := by
        rw [LoadRule.next, hfaded]
        rfl
      exact ⟨hnext, rfl, .inl hnext⟩
    | false =>
      refine ⟨hfaded, rfl, ?_⟩
      show rule.faded _ bag.load = _ ∨ rule.faded _ bag.load = 0 ∧ _
      rw [hfaded, LoadRule.faded]
      split
      · rename_i hlong
        exact .inr ⟨rfl, last, rfl, hlong⟩
      · exact .inl rfl

end Metered

namespace Database

/-! ## The requests of a history -/

namespace Request

/-- The time of a request for a load. -/
def time? : Request → Option Time
  | .load _ _ now => some now
  | _ => none

/-- The time of a request that counts towards the load of a key. -/
def countedAt? (key : Key) : Request → Option Time
  | .load k counted now => if k = key ∧ counted = true then some now else none
  | _ => none

end Request

/-- The times at which loads are asked for do not decrease. -/
def InOrder (history : List Request) : Prop :=
  (history.filterMap Request.time?).Pairwise (· ≤ ·)

instance (history : List Request) : Decidable (InOrder history) :=
  inferInstanceAs (Decidable (List.Pairwise _ _))

/-- There are records under a key. -/
def holds (db : Database) (key : Key) : Bool := db.records.any fun record => record.key = key

/-- A database after one more request, and the times of the counted requests for a key since the key
last came to have records, with the latest first. -/
def follow (key : Key) (state : Database × List Time) (request : Request) : Database × List Time :=
  let next := state.1.serve request
  (next, if next.holds key then (request.countedAt? key).toList ++ state.2 else [])

/-- The times of the requests that were counted for a key since the key last came to have records,
with the latest first. -/
def countedSince (key : Key) (db : Database) (history : List Request) : List Time :=
  (history.foldl (follow key) (db, [])).2

variable {db : Database} {key : Key}

/-- Following a key does not get in the way of the database. -/
theorem fst_foldl_follow (key : Key) (db : Database) (history : List Request) :
    (history.foldl (follow key) (db, [])).1 = db.after history := by
  induction history using List.reverseRecOn with
  | nil => rfl
  | append_singleton history request ih =>
    rw [List.foldl_append, after_append_singleton, ← ih]
    rfl

/-- The last request is counted if the key is held after it, and forgets all others if not. -/
theorem countedSince_append_singleton (key : Key) (db : Database) (history : List Request)
    (request : Request) :
    countedSince key db (history ++ [request]) =
      if (db.after (history ++ [request])).holds key then
        (request.countedAt? key).toList ++ countedSince key db history
      else [] := by
  rw [after_append_singleton, ← fst_foldl_follow key, countedSince, List.foldl_append]
  rfl

/-! ## What a request does to a meter -/

/-- What is kept for the load of a key. A key without records has never been asked for. -/
def meter (db : Database) (key : Key) : Float32 × Option Time :=
  (db.bag? key).elim (0, none) Bag.meter

/-- A key that holds nothing has no bag. -/
theorem Arranged.holds_eq_false_iff (arranged : db.Arranged) :
    db.holds key = false ↔ db.bag? key = none := by
  rw [holds, List.any_eq_false]
  constructor
  · intro hnone
    by_contra hsome
    obtain ⟨bag, hbag⟩ := Option.ne_none_iff_exists'.1 hsome
    obtain ⟨secondary, record, hfound⟩ := arranged.exists_find?_of_bag? hbag
    obtain ⟨rfl, rfl, -⟩ := arranged.of_find? hfound
    exact hnone record ((arranged.mem_records_iff record).2 hfound) (decide_eq_true rfl)
  · intro hnone record hmem hkey
    obtain rfl := of_decide_eq_true hkey
    have hfound := (arranged.mem_records_iff record).1 hmem
    simp [find?, hnone] at hfound

/-- A key that holds nothing has a fresh meter. -/
theorem Arranged.meter_of_not_holds (arranged : db.Arranged) (h : db.holds key = false) :
    db.meter key = (0, none) := by
  rw [meter, arranged.holds_eq_false_iff.1 h]
  rfl

/-- What is left of a database has kept the meters of the bags that are left. -/
theorem Rest.meter_eq {rest : Database} (h : db.Rest rest) {left : Bag}
    (hleft : rest.bag? key = some left) : rest.meter key = db.meter key := by
  obtain ⟨bag, hbag, hrest⟩ := h.bag hleft
  rw [meter, meter, hleft, hbag]
  exact Prod.ext hrest.load_eq hrest.lastRequest_eq

theorem meter_put (db : Database) (record : Record) (key : Key) :
    (db.put record).meter key = db.meter key := by
  rw [meter, bag?_put]
  split
  · rename_i hsame
    subst hsame
    -- a new bag starts as if there had been one that was never asked for
    rw [bagFor, meter]
    cases db.bag? record.key <;> rfl
  · rfl

/-- Only a request for the load of a key moves its meter, as long as there are records. -/
theorem meter_serve {request : Request} (hother : ∀ counted now, request ≠ .load key counted now)
    {left : Bag} (hleft : (db.serve request).bag? key = some left) :
    (db.serve request).meter key = db.meter key := by
  cases request with
  | store record =>
    rw [serve, database_store] at hleft ⊢
    split at hleft
    · rw [if_pos ‹_›]
      exact (Rest.elim_takeOut db _ _).meter_eq hleft
    · rw [if_neg ‹_›]
      split
      · exact meter_put db record key
      · rfl
  | remove k s => exact (Rest.remove db k s).meter_eq hleft
  | retain keep => exact (Rest.retain db keep).meter_eq hleft
  | clear => cases hleft
  | load k counted now =>
    have hne : key ≠ k := by
      rintro rfl
      exact hother counted now rfl
    rw [serve, meter, bag?_requestLoad, if_neg hne, meter]
  | setPolicy policy => rfl

theorem loadRule_serve (db : Database) (request : Request) :
    (db.serve request).loadRule = db.loadRule := by
  cases hchange : request.isPolicyChange with
  | false => exact congrArg (·.2.1) (db.rules_serve hchange)
  | true =>
    cases request with
    | setPolicy policy => rfl
    | _ => cases hchange

/-- No history changes the load rule. -/
theorem loadRule_after (db : Database) (history : List Request) :
    (db.after history).loadRule = db.loadRule := by
  apply after_induction (p := fun other => other.loadRule = db.loadRule) rfl
  intro other h request
  exact (loadRule_serve other request).trans h

/-! ## Runs -/

/-- A request that is served at a time, which has come now, leaves the meter of a key with the
requests counted so far, itself included. -/
theorem WellFormed.metered_serve (h : db.WellFormed) {request : Request} {times : List Time}
    {now : Time} (hmetered : Metered db.loadRule (db.meter key) times (request.time?.getD now))
    (hle : request.time?.getD now ≤ now) :
    Metered db.loadRule ((db.serve request).meter key)
      (if (db.serve request).holds key then (request.countedAt? key).toList ++ times else [])
      now := by
  have hserved : (db.serve request).Arranged := (h.serve request).toArranged
  cases hholds : (db.serve request).holds key with
  | false =>
    rw [hserved.meter_of_not_holds hholds]
    exact .zero _ _
  | true =>
    obtain ⟨left, hleft⟩ : ∃ left, (db.serve request).bag? key = some left := by
      apply Option.ne_none_iff_exists'.1
      intro hnone
      simp [hserved.holds_eq_false_iff.2 hnone] at hholds
    by_cases hload : ∃ counted time, request = .load key counted time
    · obtain ⟨counted, time, rfl⟩ := hload
      rw [Database.serve, bag?_requestLoad, if_pos rfl] at hleft
      obtain ⟨bag, hbag, rfl⟩ := Option.map_eq_some_iff.1 hleft
      rw [meter, hbag] at hmetered
      -- the bag takes the request in at its own time
      have hafter := (Metered.requestLoad hmetered counted).2.mono hle
      rw [Database.serve, meter, bag?_requestLoad, if_pos rfl, hbag]
      cases counted <;> simpa [Request.countedAt?, Request.time?] using hafter
    · have hother : ∀ counted time, request ≠ .load key counted time :=
        fun counted time hsame => hload ⟨counted, time, hsame⟩
      have hnone : request.countedAt? key = none := by
        cases request with
        | load k counted time =>
          have hne : k ≠ key := by
            rintro rfl
            exact hother counted time rfl
          simp [Request.countedAt?, hne]
        | _ => rfl
      rw [meter_serve hother hleft, hnone]
      exact hmetered.mono hle

/-- After a run in which the clock has not gone back, the meter of a key that had no records at the
start has the requests counted since the key last came to have records. -/
theorem WellFormed.metered_after (h : db.WellFormed) (hstart : db.meter key = (0, none))
    {history : List Request} (horder : InOrder history) {now : Time}
    (hnow : ∀ time ∈ history.filterMap Request.time?, time ≤ now) :
    Metered db.loadRule ((db.after history).meter key) (countedSince key db history) now := by
  -- the clock moves with the last request, so the time is part of the induction
  induction history using List.reverseRecOn generalizing now with
  | nil =>
    rw [after_nil, hstart]
    exact .zero _ _
  | append_singleton history request ih =>
    rw [InOrder, List.filterMap_append, List.pairwise_append] at horder
    simp only [List.filterMap_append, List.mem_append] at hnow
    obtain ⟨hearlier, -, hsorted⟩ := horder
    have hrule : (db.after history).loadRule = db.loadRule := loadRule_after db history
    rw [countedSince_append_singleton, after_append_singleton, ← hrule]
    apply (h.after history).metered_serve
    · rw [hrule]
      apply ih hearlier
      intro time hmem
      cases htime : request.time? with
      | none => exact hnow time (.inl hmem)
      | some served => exact hsorted time hmem served (by simp [htime])
    · cases htime : request.time? with
      | none => exact Int.le_refl now
      | some served => exact hnow served (.inr (by simp [htime]))

/-- What a request is answered, read off from what was counted before. -/
theorem fst_requestLoad_eq (h : db.WellFormed) {times : List Time} {now : Time}
    (hmetered : Metered db.loadRule (db.meter key) times now) (counted : Bool) :
    (db.requestLoad key counted now).1 =
      if db.holds key then db.loadRule.answerAt counted now times else 0 := by
  unfold requestLoad
  cases hbag : db.bag? key with
  | none =>
    rw [h.toArranged.holds_eq_false_iff.2 hbag]
    rfl
  | some bag =>
    have hholds : db.holds key = true := by
      rw [← Bool.not_eq_false, h.toArranged.holds_eq_false_iff, hbag]
      simp
    rw [meter, hbag] at hmetered
    rw [hholds]
    exact (Metered.requestLoad hmetered counted).1

/-- Let a run of a database that starts without records end with a request for the load of a key, on
a clock that does not go back. Without records under the key the answer is zero, and nothing is
counted. Otherwise it is determined by the times of the requests that were counted since the key
last came to have records. No request in between that does not count for the key changes the answer,
if it leaves the key with records or without them as it was. -/
theorem requestLoad_eq_answerAt (limits : FloodLimits) (loadRule : LoadRule)
    (policy : Option Admission.Policy) (history : List Request) (key : Key) (counted : Bool)
    (now : Time) (horder : InOrder (history ++ [.load key counted now])) :
    let start : Database := { limits, loadRule, policy }
    let db := start.after history
    (db.holds key = false → db.requestLoad key counted now = (0, db)) ∧
      (db.holds key = true → (db.requestLoad key counted now).1 =
        loadRule.answerAt counted now (countedSince key start history)) ∧
      ∀ request, InOrder (history ++ [request, .load key counted now]) →
        request.countedAt? key = none → (db.serve request).holds key = db.holds key →
        ((db.serve request).requestLoad key counted now).1 = (db.requestLoad key counted now).1 := by
  intro start db
  have hstart : start.WellFormed := WellFormed.fresh limits loadRule policy
  -- stated for every history, for the last part asks it of the longer one as well
  have hanswer : ∀ history, InOrder (history ++ [.load key counted now]) →
      ((start.after history).requestLoad key counted now).1 =
        if (start.after history).holds key then
          loadRule.answerAt counted now (countedSince key start history)
        else 0 := by
    intro history horder
    rw [InOrder, List.filterMap_append, List.pairwise_append] at horder
    have hrule : (start.after history).loadRule = loadRule := loadRule_after start history
    have hnow : ∀ time ∈ history.filterMap Request.time?, time ≤ now := fun time hmem =>
      horder.2.2 time hmem now (by simp [Request.time?])
    have hmetered : Metered loadRule ((start.after history).meter key)
        (countedSince key start history) now := hstart.metered_after rfl horder.1 hnow
    rw [← hrule]
    exact fst_requestLoad_eq (hstart.after history) (hrule ▸ hmetered) counted
  refine ⟨fun hnone => ?_, fun hholds => ?_, fun request horder' huncounted hsame => ?_⟩
  · have hbag := (hstart.after history).toArranged.holds_eq_false_iff.1 hnone
    unfold requestLoad
    rw [hbag]
  · rw [hanswer history horder, hholds]
    rfl
  · have hlater := hanswer (history ++ [request]) (by simpa using horder')
    rw [countedSince_append_singleton, after_append_singleton, huncounted] at hlater
    rw [hlater, hanswer history horder, hsame]
    cases db.holds key <;> rfl

/-- Five requests are counted for a key, but one comes before there are records, and one before the
only record is removed. Between the other three a record is replaced, another key is asked for, and
an uncounted request finds a long gap. -/
theorem requestLoad_eq_answerAt_of_second_stay :
    let value : Value := ⟨.test, ⟨1, 0⟩, [118], by decide⟩
    let creator : Contact := ⟨.ones, .ofOctets 82 1 2 3 4000⟩
    let loadRule : LoadRule := { nullingDelay := 60 }
    let history : List Request :=
      [.load .zero true 0, .store (.direct creator .zero value 0), .load .zero true 1,
        .remove .zero .ones, .store (.direct creator .zero value 2), .load .zero true 10,
        .store (.own creator .zero value 10), .load .ones true 11, .load .zero true 12,
        .load .zero false 80]
    let start : Database := { loadRule }
    let db := start.after history
    (InOrder (history ++ [.load .zero true 90]) ∧ db.holds .zero = true ∧
      (db.requestLoad .zero true 90).1 = loadRule.loadAfter [90, 12, 10]) ∧
    (InOrder (history ++ [.load .zero false 90]) ∧ (db.requestLoad .zero false 90).1 = 0) ∧
    (InOrder (history ++ [.load .ones true 90]) ∧ db.holds .ones = false ∧
      db.requestLoad .ones true 90 = (0, db)) := by
  intro value creator loadRule history start db
  have hcountedOrder : InOrder (history ++ [.load .zero true 90]) := by decide
  have hreadOrder : InOrder (history ++ [.load .zero false 90]) := by decide
  have habsentOrder : InOrder (history ++ [.load .ones true 90]) := by decide
  have hholds : db.holds .zero = true := by decide
  have hnone : db.holds .ones = false := by decide
  have htimes : countedSince .zero start history = [12, 10] := by decide
  obtain ⟨-, hcounted, -⟩ :=
    requestLoad_eq_answerAt {} loadRule none history .zero true 90 hcountedOrder
  obtain ⟨-, hread, -⟩ :=
    requestLoad_eq_answerAt {} loadRule none history .zero false 90 hreadOrder
  obtain ⟨habsent, -⟩ :=
    requestLoad_eq_answerAt {} loadRule none history .ones true 90 habsentOrder
  have hlong : Time.since 90 12 > loadRule.nullingDelay := by decide
  refine ⟨⟨hcountedOrder, hholds, ?_⟩, ⟨hreadOrder, ?_⟩, habsentOrder, hnone, habsent hnone⟩
  · rw [hcounted hholds, htimes, LoadRule.answerAt, if_pos rfl]
  · rw [hread hholds, htimes, LoadRule.answerAt, if_neg Bool.false_ne_true]
    exact if_pos hlong

end Database

end OverlayStore
