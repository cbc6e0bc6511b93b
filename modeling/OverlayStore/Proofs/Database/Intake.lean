import OverlayStore.Proofs.Database.History
import Mathlib.Data.List.Perm.Subperm

/-!
# How records come into a database

Of all requests only a store brings a record in, and only one that the database admits, in place of
the creator's earlier record under the same key. All other requests leave some of the records that
were there. So what holds of no records, is kept when records go, and is kept when an admitted
record comes in, holds of the records of a database after every history
(`Database.WellFormed.records_induction`).
-/

namespace OverlayStore.Database

variable {db : Database}

/-- The limits are fixed. -/
theorem limits_serve (db : Database) (request : Request) :
    (db.serve request).limits = db.limits := by
  have of_rules : ∀ {other : Database}, other.rules = db.rules → other.limits = db.limits :=
    fun h => congrArg Prod.fst h
  refine serve_induction (p := fun other => other.limits = db.limits) rfl ?_ ?_ ?_ rfl ?_
    (fun _ => rfl) request
  · exact fun record _ _ => of_rules (rules_put db record)
  · exact fun _ _ _ _ htaken => of_rules (rules_takeOut htaken)
  · exact fun keep => of_rules (rules_retain db keep)
  · exact fun key counted now => of_rules (rules_requestLoad db key counted now)

theorem limits_after (db : Database) (history : List Request) :
    (db.after history).limits = db.limits := by
  apply after_induction (p := fun other => other.limits = db.limits) rfl
  intro other h request
  exact (limits_serve other request).trans h

namespace WellFormed

/-- After a request there are some of the records from before, or an admitted record and the others
from before. -/
theorem records_serve (h : db.WellFormed) (request : Request) :
    (db.serve request).records.Subperm db.records ∨
      ∃ record, record.value.isEmpty = false ∧ db.admits record = true ∧
        (db.serve request).records.Perm (record :: db.others record.key record.secondary) := by
  refine serve_induction (p := fun other => other.records.Subperm db.records ∨ ∃ record : Record,
    record.value.isEmpty = false ∧ db.admits record = true ∧
      other.records.Perm (record :: db.others record.key record.secondary))
    (.inl (List.Subperm.refl _)) ?_ ?_ ?_ ?_ ?_ ?_ request
  · exact fun record hvalue hadmits => .inr ⟨record, hvalue, hadmits, h.records_put hvalue⟩
  · intro key secondary record rest htaken
    exact .inl ((h.records_takeOut htaken).subperm.trans List.filter_sublist.subperm)
  · intro keep
    exact .inl ((h.records_retain keep).subperm.trans List.filter_sublist.subperm)
  · exact .inl (List.nil_subperm)
  · exact fun key counted now => .inl (h.records_requestLoad key counted now).subperm
  · exact fun policy => .inl (List.Subperm.refl _)

/-- What holds of the records at the start, and is kept when records go and when an admitted record
comes in, holds of the records after every history. -/
theorem records_induction {p : List Record → Prop} (h : db.WellFormed) (start : p db.records)
    (fewer : ∀ {some all : List Record}, some.Subperm all → p all → p some)
    (more : ∀ (db' : Database) (record : Record), db'.WellFormed → db'.limits = db.limits →
      db'.admits record = true → p db'.records →
      p (record :: db'.others record.key record.secondary))
    (history : List Request) : p (db.after history).records := by
  -- the invariant also says that the database is well formed and that the limits are the same
  refine (after_induction (p := fun db' => db'.WellFormed ∧ db'.limits = db.limits ∧ p db'.records)
    ⟨h, rfl, start⟩ ?_ history).2.2
  rintro db' ⟨hdb, hlimits, hrecords⟩ request
  refine ⟨hdb.serve request, (limits_serve db' request).trans hlimits, ?_⟩
  rcases hdb.records_serve request with hfewer | ⟨record, -, hadmits, hperm⟩
  · exact fewer hfewer hrecords
  · exact fewer hperm.subperm (more db' record hdb hlimits hadmits hrecords)

end WellFormed

end OverlayStore.Database
