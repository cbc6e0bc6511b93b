import OverlayStore.Network.Loopback
import OverlayStore.Node.Control
import OverlayStore.Node.Run

/-!
# The demo

A node publishes some texts into a loopback network for a while. Afterwards it reports what became
of each of them and what every peer holds.
-/

namespace OverlayStore.Demo

/-- What is tried out. -/
structure Plan where
  /-- How many seconds the node runs. -/
  seconds : Nat := 3
  /-- The number of peers. -/
  peers : Nat := 16
  /-- The number of texts. -/
  values : Nat := 5
  deriving DecidableEq, Repr

/-- One line of the report. -/
inductive Line where
  /-- A text was stored at a number of peers. -/
  | published (key : Key) (locations : Nat)
  /-- A text was never stored. -/
  | neverPublished (key : Key)
  /-- What a peer holds. -/
  | peer (contact : Contact) (keys values : Nat)

/-- A line as named texts, of which the first is what the line is about. -/
def Line.fields : Line → List (String × String)
  | .published key locations =>
    [("message", "Published"), ("key", key.short), ("locations", toString locations)]
  | .neverPublished key => [("message", "Never published"), ("key", key.short)]
  | .peer contact keys values =>
    [("message", "Peer database"), ("peer", contact.toText), ("keys", toString keys),
      ("values", toString values)]

/-- The publications of a node: numbered texts under numbered keys. -/
def publications (node : Node Loopback Shelf) (count : Nat) : Except Error (List Publication) :=
  (List.range count).mapM fun index => do
    let value ← node.factories.create id .text (node.types.nameOf .text) ⟨1, 0⟩
      (Bytes.ofText s!"value number {index}")
    return ⟨index, Key.ofText s!"demo-{index}", value⟩

/-- The node before it is started, and what it publishes, which is on a registered shelf. -/
def prepare (settings : Config.Storage) (plan : Plan) (now : Time) :
    Except Error (List Publication × Node Loopback Shelf) := do
  let node ← Node.new settings (Loopback.ofSettings plan.peers settings) now 1
  let publications ← publications node plan.values
  let (shelf, catalogue) := node.catalogue.addSource { publications }
  let (_, catalogue) ← catalogue.register .text shelf
  return (publications, { node with catalogue })

/-- Run a node for a number of milliseconds. It is stopped the moment its time is up, before
anything else that is due then. -/
def run (millis : Nat) (node : Node Loopback Shelf) : Node Loopback Shelf :=
  let started := node.start.2
  match millis with
  | 0 => started.stop
  | whole + 1 =>
    let ran := started.settle.advance whole
    { ran with now := ran.now + (Duration.millis 1 : Int) }.stop

/-- What became of a publication. -/
def lineOf (node : Node Loopback Shelf) (publication : Publication) : Line :=
  let stamp := node.ledger.stampOf publication
  match stamp.time with
  | some _ => .published publication.key stamp.locations
  | none => .neverPublished publication.key

/-- What a peer holds. -/
def lineOfPeer (peer : Peer) : Line :=
  .peer peer.contact peer.database.keyCount peer.database.valueCount

/-- Try a plan out under some settings, from a time on. -/
def report (settings : Config.Storage) (plan : Plan) (now : Time) : Except Error (List Line) := do
  let (publications, node) ← prepare settings plan now
  let node := run (plan.seconds * 1000) node
  return publications.map (lineOf node) ++ node.network.peers.map lineOfPeer

end OverlayStore.Demo
