import OverlayStore.Record
import OverlayStore.Table

/-!
# Bags

A bag holds the records under one primary key, one for each creator, and measures how often the key
is asked for. The request load is an average of the request rate in which every new request counts
with a fixed weight and older ones fade.
-/

namespace OverlayStore

/-- How the request load is averaged. -/
structure LoadRule where
  /-- The weight of the newest request. -/
  smoothing : Float32 := 0.25
  /-- The gap between requests beyond which the average starts again from zero. -/
  nullingDelay : Duration := Duration.minutes 1

namespace LoadRule

/-- The shortest gap between requests that a rate is computed from, in seconds. -/
def leastGap : Float32 := 0.001

/-- The gap in seconds, at least the shortest one. -/
def gapSeconds (gap : Duration) : Float32 :=
  let seconds := Duration.singleSeconds gap
  if seconds > leastGap then seconds else leastGap

/-- What is left of a load after a gap. -/
def faded (rule : LoadRule) (gap : Duration) (load : Float32) : Float32 :=
  if gap > rule.nullingDelay then 0 else load

/-- The load after a request that follows the one before it by a gap. -/
def next (rule : LoadRule) (gap : Duration) (load : Float32) : Float32 :=
  rule.smoothing * (1 / gapSeconds gap) + (1 - rule.smoothing) * rule.faded gap load

end LoadRule

/-- The records under one primary key. -/
structure Bag where
  /-- The primary key. -/
  key : Key
  /-- The records by secondary key. -/
  records : Table Key Record := .empty
  /-- The request load after the last request. -/
  load : Float32 := 0
  /-- When the last request was counted. -/
  lastRequest : Option Time := none

namespace Bag

/-- The number of records. -/
def size (bag : Bag) : Nat := bag.records.size

/-- There are no records. -/
def isEmpty (bag : Bag) : Bool := bag.records.isEmpty

/-- The record of a creator. -/
def find? (bag : Bag) (secondary : Key) : Option Record :=
  bag.records.find? secondary

/-- The records, in no meaningful order. -/
def toList (bag : Bag) : List Record := bag.records.values

/-- Put a record in, in place of the creator's earlier one. -/
def put (bag : Bag) (record : Record) : Bag :=
  { bag with records := bag.records.insert record.secondary record }

/-- Take the record of a creator out. -/
def erase (bag : Bag) (secondary : Key) : Bag :=
  { bag with records := bag.records.erase secondary }

/-- Keep the records that satisfy a condition. -/
def filter (keep : Record → Bool) (bag : Bag) : Bag :=
  { bag with records := bag.records.filter fun _ record => keep record }

/-- The request load now, and the bag afterwards. A counted request changes the load and is
remembered; an uncounted one only lets the load fade. -/
def requestLoad (rule : LoadRule) (now : Time) (counted : Bool) (bag : Bag) : Float32 × Bag :=
  let load :=
    match bag.lastRequest with
    | none => bag.load
    | some last =>
      let gap := Time.since now last
      if counted then rule.next gap bag.load else rule.faded gap bag.load
  (load, { bag with load, lastRequest := if counted then some now else bag.lastRequest })

end Bag

end OverlayStore
