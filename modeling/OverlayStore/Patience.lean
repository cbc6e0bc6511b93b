import OverlayStore.Duration

/-!
# Patience

Waiting for a condition: it is asked for at once and then every millisecond, until it holds or the
time is up. The last question is asked when the time is up.
-/

namespace OverlayStore.Patience

/-- How a wait ended. -/
structure Outcome where
  /-- The condition held in the end. -/
  held : Bool
  /-- How many milliseconds have passed. -/
  waited : Nat
  /-- How often the condition was asked for. -/
  polls : Nat
  deriving DecidableEq, Repr

/-- Wait for a condition on the passed milliseconds. `left` is what is left of the time and
`waited` has passed already. -/
def waitFrom (holds : Nat → Bool) (waited polls : Nat) : Nat → Outcome
  | 0 => ⟨holds waited, waited, polls + 1⟩
  | left + 1 =>
    if holds waited then ⟨true, waited, polls + 1⟩
    else waitFrom holds (waited + 1) (polls + 1) left

/-- Wait for a condition on the passed milliseconds, at most the given number of them. -/
def waitFor (timeout : Nat) (holds : Nat → Bool) : Outcome :=
  waitFrom holds 0 0 timeout

/-- The usual number of milliseconds to wait. -/
def usualTimeout : Nat := 5000

/-- The number of milliseconds to wait for what should fail fast. -/
def shortTimeout : Nat := 100

end OverlayStore.Patience
