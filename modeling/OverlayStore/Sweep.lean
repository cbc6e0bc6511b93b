import OverlayStore.Database
import OverlayStore.Expiry

/-!
# Sweeps

A sweep removes every expired record from a database and counts them.
-/

namespace OverlayStore.Database

/-- Remove the expired records and answer how many there were. -/
def sweep (db : Database) (expiry : Expiry) (routing : Routing) (now : Time) : Outcome Nat :=
  let kept := db.retain fun record => !expiry.isExpired routing now record
  let count := kept.result.length
  ⟨count, kept.database, kept.updates ++ [⟨.evicted, count⟩, ⟨.sweepMillis, 1⟩]⟩

end OverlayStore.Database
