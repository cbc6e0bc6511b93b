import OverlayStore.Network.Scripted
import OverlayStore.Node

/-!
# Nodes in scripted networks

In a scripted network, stores may wait until they are answered by hand. Its calls are counted, so an
interlude can be put at any of them.
-/

namespace OverlayStore.Node

/-- Answer the store that has waited longest; the flag tells whether there was one. -/
def answerOldest {σ : Type} (node : Node Scripted σ) (result : Key → Except Error Receipt) :
    Bool × Node Scripted σ :=
  match node.network.takeOldest with
  | none => (false, node)
  | some ((task, key), network) => (true, { node with network }.deliver task (result key))

/-- An interlude at the call with a number, counted from one. -/
def Interlude.atCall {σ : Type} (number : Nat)
    (steps : List (Node Scripted σ → Node Scripted σ)) : Interlude Scripted σ where
  isNow node := node.network.calls.length + 1 = number
  steps

end OverlayStore.Node
