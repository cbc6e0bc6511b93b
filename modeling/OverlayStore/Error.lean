/-!
# Errors of a node

What can go wrong when records are stored, decoded and published. Collaborators outside this
library, such as networks and decoders, report their own reasons as text.
-/

namespace OverlayStore

/-- What went wrong in a node. -/
inductive Error where
  /-- A part of the node was set up or called wrongly. -/
  | precondition (why : String)
  /-- Some bytes do not denote a value. -/
  | decode (why : String)
  /-- A value has no bytes. -/
  | encode (why : String)
  /-- A shared part of the node became unusable. -/
  | lock (why : String)
  /-- The network did not store a record. -/
  | store (why : String)
  /-- The operation was given up before it ended. -/
  | cancelled
  /-- The node has not joined the network yet. -/
  | notBootstrapped
  deriving DecidableEq, Repr

/-- The wording of an error. -/
def Error.message : Error → String
  | .precondition why => s!"Precondition violated: {why}"
  | .decode why => s!"Decode error: {why}"
  | .encode why => s!"Encode error: {why}"
  | .lock why => s!"Lock error: {why}"
  | .store why => s!"Store failed: {why}"
  | .cancelled => "Operation cancelled"
  | .notBootstrapped => "Node is not bootstrapped"

/-- The name of what went wrong. -/
def Error.kind : Error → String
  | .precondition _ => "Precondition"
  | .decode _ => "Decode"
  | .encode _ => "Encode"
  | .lock _ => "Lock"
  | .store _ => "Store"
  | .cancelled => "Cancelled"
  | .notBootstrapped => "NotBootstrapped"

/-- All that can go wrong, for one reason. -/
def Error.all (why : String) : List Error :=
  [.precondition why, .decode why, .encode why, .lock why, .store why, .cancelled,
    .notBootstrapped]

/-- The error with a name. -/
def Error.ofKind? (kind why : String) : Option Error :=
  (Error.all why).find? fun error => error.kind = kind

end OverlayStore
