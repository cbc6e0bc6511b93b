import OverlayStore.Database
import OverlayStore.Proofs.Table
import Mathlib.Algebra.BigOperators.Group.List.Lemmas
import Mathlib.Algebra.GroupWithZero.Nat

/-!
# Tallies

The database counts its remote records by IPv4 address and by network while it changes. A table of
such counts is right if it is a tally of the records: every place finds the number of records that
are charged to it, and a place without any finds nothing (`Tallies`). Counting a record in or out
keeps a tally, and no count that is taken down was missing or zero, so the variants below that give
up in such a case do the same (`Tallies.countOut?_eq`).
-/

namespace OverlayStore

/-- The number of records that are charged to a place, as the mask tells places apart. -/
def Record.charged (mask origin : UInt32) (records : List Record) : Nat :=
  records.countP fun record => record.charge mask = some origin

/-- The places that records are charged to, once for each record. -/
def Record.origins (mask : UInt32) (records : List Record) : List UInt32 :=
  records.filterMap (Record.charge mask)

/-- A count as a table holds it: zero is left out. -/
def nonzero (count : Nat) : Option Nat :=
  if count = 0 then none else some count

/-- A table says of every place how many of the records are charged to it. -/
def Tallies (counts : Table UInt32 Nat) (mask : UInt32) (records : List Record) : Prop :=
  ∀ origin, counts.find? origin = nonzero (Record.charged mask origin records)

namespace Record

/-- A record is charged to a place if it is remote and its creator has that masked IPv4 form. -/
theorem charge_eq_some_iff (mask origin : UInt32) (record : Record) :
    record.charge mask = some origin ↔
      record.isLocal = false ∧ record.creator.maskedIpv4 mask = some origin := by
  unfold charge
  cases record.isLocal <;> simp

/-- One more record is charged to the place that it comes from. -/
theorem charged_cons (mask origin : UInt32) (record : Record) (records : List Record) :
    charged mask origin (record :: records) =
      charged mask origin records + if record.charge mask = some origin then 1 else 0 := by
  simp [charged, List.countP_cons]

/-- The order of the records does not matter to what is charged. -/
theorem charged_perm {a b : List Record} (h : a.Perm b) (mask origin : UInt32) :
    charged mask origin a = charged mask origin b :=
  h.countP_eq _

/-- The records charged to a place are the occurrences of the place among all. -/
theorem charged_eq_count (mask origin : UInt32) (records : List Record) :
    charged mask origin records = (origins mask records).count origin := by
  rw [origins, List.count_filterMap, charged]
  simp only [beq_eq_decide]

end Record

namespace Database

/-! ## Counting up and down -/

/-- Counting up concerns the place that is counted only. -/
@[simp]
theorem find?_countUp (counts : Table UInt32 Nat) (origin k : UInt32) :
    (countUp counts origin).find? k =
      if k = origin then some ((counts.find? origin).getD 0 + 1) else counts.find? k := by
  simp [countUp]

/-- Counting down lowers one count, and leaves it out when it becomes zero. -/
theorem find?_countDown (counts : Table UInt32 Nat) (origin k : UInt32) :
    (countDown counts origin).find? k =
      if k = origin then (counts.find? origin).bind fun count => nonzero (count - 1)
      else counts.find? k := by
  unfold countDown
  by_cases hk : k = origin
  · subst hk
    cases hfound : counts.find? k with
    | none => simp [hfound]
    | some count =>
      dsimp only
      -- a count that becomes zero is erased, which is what `nonzero` says
      by_cases hzero : count - 1 = 0 <;> simp [hzero, nonzero]
  · cases hfound : counts.find? origin with
    | none => simp [hk]
    | some count =>
      dsimp only
      split <;> simp [hk]

/-- Count one less, and give up where there is nothing to count down. -/
def countDown? (counts : Table UInt32 Nat) (origin : UInt32) : Option (Table UInt32 Nat) :=
  match counts.find? origin with
  | none => none
  | some 0 => none
  | some (count + 1) =>
    some (if count = 0 then counts.erase origin else counts.insert origin count)

/-- Count a record in. -/
def countIn (mask : UInt32) (counts : Table UInt32 Nat) (record : Record) : Table UInt32 Nat :=
  (record.charge mask).elim counts (countUp counts)

/-- Count a record out. -/
def countOut (mask : UInt32) (counts : Table UInt32 Nat) (record : Record) : Table UInt32 Nat :=
  (record.charge mask).elim counts (countDown counts)

/-- Count a record out, and give up where there is nothing to count down. -/
def countOut? (mask : UInt32) (counts : Table UInt32 Nat) (record : Record) :
    Option (Table UInt32 Nat) :=
  (record.charge mask).elim (some counts) (countDown? counts)

end Database

/-! ## Tallies -/

namespace Tallies

open Database

variable {counts : Table UInt32 Nat} {mask : UInt32} {records : List Record}

theorem empty (mask : UInt32) : Tallies .empty mask [] := fun _ => rfl

theorem perm {others : List Record} (h : Tallies counts mask records)
    (hperm : records.Perm others) : Tallies counts mask others := fun origin => by
  rw [h origin, Record.charged_perm hperm]

/-- Counting a record in makes the counts right with it. -/
theorem countIn (h : Tallies counts mask records) (record : Record) :
    Tallies (countIn mask counts record) mask (record :: records) := by
  intro origin
  rw [Record.charged_cons, Database.countIn]
  cases hcharge : record.charge mask with
  | none => simpa using h origin
  | some place =>
    rw [Option.elim_some, find?_countUp]
    by_cases hplace : origin = place
    · -- a count that is missing stands for zero
      subst hplace
      rw [h origin]
      simp only [if_true, nonzero]
      split <;> simp_all
    · simpa [hplace, Ne.symm hplace] using h origin

/-- The count of a place that a record is charged to. -/
theorem find?_of_charge {record : Record} (h : Tallies counts mask (record :: records))
    {origin : UInt32} (hcharge : record.charge mask = some origin) :
    counts.find? origin = some (Record.charged mask origin records + 1) := by
  rw [h origin, Record.charged_cons, if_pos hcharge, nonzero, if_neg (Nat.succ_ne_zero _)]

/-- Counting a record out makes the counts right without it. -/
theorem countOut {record : Record} (h : Tallies counts mask (record :: records)) :
    Tallies (countOut mask counts record) mask records := by
  intro origin
  rw [Database.countOut]
  cases hcharge : record.charge mask with
  | none => simpa [Record.charged_cons, hcharge] using h origin
  | some place =>
    rw [Option.elim_some, find?_countDown]
    by_cases hplace : origin = place
    · -- the record itself is in the count, so the count is not zero
      subst hplace
      rw [if_pos rfl, h.find?_of_charge hcharge, Option.bind_some, Nat.add_sub_cancel]
    · rw [if_neg hplace, h origin, Record.charged_cons, hcharge,
        if_neg fun e => hplace (Option.some.inj e).symm, Nat.add_zero]

/-- A record that is counted out has been counted in. -/
theorem countOut?_eq {record : Record} (h : Tallies counts mask (record :: records)) :
    countOut? mask counts record = some (Database.countOut mask counts record) := by
  rw [countOut?, Database.countOut]
  cases hcharge : record.charge mask with
  | none => rfl
  | some origin =>
    simp only [Option.elim_some, countDown?, countDown, h.find?_of_charge hcharge,
      Nat.add_sub_cancel]

/-- The places that a tally knows are those that records are charged to. -/
theorem keys_perm (h : Tallies counts mask records) :
    counts.keys.Perm (Record.origins mask records).dedup := by
  -- both lists are without repetitions, so it is enough to compare their members
  refine (List.perm_ext_iff_of_nodup counts.nodup (List.nodup_dedup _)).2 fun origin => ?_
  have hpos : 0 < Record.charged mask origin records ↔ origin ∈ Record.origins mask records := by
    rw [Record.charged_eq_count, List.count_pos_iff]
  refine (Table.mem_keys_iff counts origin).trans ?_
  rw [List.mem_dedup, ← hpos, h origin, nonzero]
  split <;> simp_all [Nat.pos_iff_ne_zero]

/-- The counts of several places together are the number of records charged to any of them. -/
theorem sum_filter (h : Tallies counts mask records) (choose : UInt32 → Bool) :
    ((counts.entries.filter fun entry => choose entry.1).map Prod.snd).sum =
      records.countP fun record => (record.charge mask).any choose := by
  -- an entry holds how often its place occurs among all places that are charged
  have hentries : (counts.entries.filter fun entry => choose entry.1).map Prod.snd =
      (counts.keys.filter choose).map fun origin => (Record.origins mask records).count origin := by
    rw [Table.keys, List.filter_map, List.map_map]
    refine List.map_congr_left fun entry hm => ?_
    have hfound := (Table.mem_entries_iff counts entry.1 entry.2).1 (List.mem_of_mem_filter hm)
    rw [h entry.1, nonzero] at hfound
    split at hfound
    · cases hfound
    · rw [← Option.some.inj hfound, Record.charged_eq_count]
      rfl
  calc ((counts.entries.filter fun entry => choose entry.1).map Prod.snd).sum
      = ((counts.keys.filter choose).map fun origin =>
          (Record.origins mask records).count origin).sum := by rw [hentries]
    _ = (((Record.origins mask records).dedup.filter choose).map fun origin =>
          (Record.origins mask records).count origin).sum :=
        ((h.keys_perm.filter choose).map _).sum_eq
    _ = (Record.origins mask records).countP choose :=
        List.sum_map_count_dedup_filter_eq_countP choose _
    _ = records.countP fun record => (record.charge mask).any choose := by
        rw [Record.origins, List.countP_filterMap]
        refine List.countP_congr fun record _ => ?_
        cases record.charge mask <;> simp

/-- The count that a record is compared with. -/
theorem chargedLike_eq (h : Tallies counts mask records) (record : Record) :
    chargedLike counts mask record =
      (record.charge mask).elim 0 fun origin => Record.charged mask origin records := by
  rw [chargedLike]
  cases record.charge mask with
  | none => rfl
  | some origin =>
    simp only [Option.bind_some, Option.elim_some, h origin, nonzero]
    split <;> simp_all

end Tallies

end OverlayStore
