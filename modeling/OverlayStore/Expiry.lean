import OverlayStore.Config.Storage
import OverlayStore.Record
import OverlayStore.Routing
import OverlayStore.Table

/-!
# Expiry

When a record is stale. A rule is asked about one record at one time. By the standard rule a node's
own records never expire, since it keeps publishing them, and remote ones live for a fixed span
after they were stored. A node that is not among the closest to a key holds its records for a
shorter time: the span is halved for every bucket between the last of the closest contacts and the
node, at most eight times. Other rules can be registered for single value types.
-/

namespace OverlayStore

/-- How long remote records live. -/
structure Lifetime where
  /-- How many of the nodes closest to a key hold its records for the whole span. -/
  replication : Nat
  /-- The whole span. -/
  expiration : Duration

namespace Lifetime

/-- How often the span is halved at most. -/
def maxHalvings : Nat := 8

/-- The lifetime that the settings ask for. -/
def ofSettings (settings : Config.Storage) : Lifetime :=
  ⟨settings.replication, settings.valueExpiration⟩

/-- How often the span is halved for a node outside the closest contacts, whose last one is
given. -/
def halvings (node furthest : Contact) (key : Key) : Nat :=
  min maxHalvings (node.id.bucketIndex key - furthest.id.bucketIndex key)

/-- How long a node holds the records of a key. -/
def span (lifetime : Lifetime) (routing : Routing) (key : Key) : Duration :=
  let closest := routing.select key lifetime.replication
  if closest.length < lifetime.replication ||
      closest.any (fun contact => contact.id = routing.node.id) then
    lifetime.expiration
  else
    match closest.getLast? with
    | none => lifetime.expiration
    | some furthest => lifetime.expiration / Nat.pow 2 (halvings routing.node furthest key)

/-- When a record expires, if it ever does. -/
def expiresAt (lifetime : Lifetime) (routing : Routing) (record : Record) : Option Time :=
  if record.isLocal then none else Time.add? record.created (lifetime.span routing record.key)

/-- A node never holds records for longer than the whole span. -/
theorem span_le (lifetime : Lifetime) (routing : Routing) (key : Key) :
    lifetime.span routing key ≤ lifetime.expiration := by
  simp only [span]
  split
  · exact Nat.le_refl _
  · split
    · exact Nat.le_refl _
    · exact Nat.div_le_self _ _

end Lifetime

/-- A rule says whether a record is stale, given the node's view of the overlay and the time. -/
abbrev ExpiryRule := Routing → Time → Record → Bool

/-- The standard rule. -/
def Lifetime.rule (lifetime : Lifetime) : ExpiryRule := fun routing now record =>
  match lifetime.expiresAt routing record with
  | none => false
  | some time => time ≤ now

/-- A node's own records never expire by the standard rule. -/
theorem Lifetime.rule_of_isLocal (lifetime : Lifetime) (routing : Routing) (now : Time)
    {record : Record} (h : record.isLocal = true) : lifetime.rule routing now record = false := by
  simp [Lifetime.rule, Lifetime.expiresAt, h]

/-- The rules of a node: one for each value type that has its own, and the rule for all others. -/
structure Expiry where
  /-- The rule for types without a rule of their own. -/
  standard : ExpiryRule
  /-- The registered rules by type code. -/
  rules : Table UInt32 ExpiryRule := .empty

namespace Expiry

/-- The rules that the settings ask for. -/
def ofSettings (settings : Config.Storage) : Expiry :=
  { standard := (Lifetime.ofSettings settings).rule }

/-- Register a rule for a type; the flag tells whether it replaced another one. The wildcard type
takes no rule. -/
def register (expiry : Expiry) (type : ValueType) (rule : ExpiryRule) :
    Except Error (Bool × Expiry) :=
  if type.isAny then .error (.precondition "cannot register an evictor for the ANY type")
  else .ok (expiry.rules.contains type.code,
    { expiry with rules := expiry.rules.insert type.code rule })

/-- Take away the rule of a type; the flag tells whether there was one. -/
def unregister (expiry : Expiry) (type : ValueType) : Bool × Expiry :=
  (expiry.rules.contains type.code, { expiry with rules := expiry.rules.erase type.code })

/-- The rule in charge of a type. -/
def ruleFor (expiry : Expiry) (type : ValueType) : ExpiryRule :=
  (expiry.rules.find? type.code).getD expiry.standard

/-- A record is stale by the rule in charge of its value's type. -/
def isExpired (expiry : Expiry) : ExpiryRule := fun routing now record =>
  expiry.ruleFor record.value.type routing now record

end Expiry

end OverlayStore
