import OverlayStore.Number.Text
import OverlayStore.Text.Blank

/-!
# Durations and times

Spans of time and points in time, both counted in nanoseconds, and the text of durations: numbers
with units, such as `1h 30m`. Reading allows a decimal fraction wherever the unit divides it
exactly; printing uses the largest units first and leaves out those that are zero.
-/

namespace OverlayStore

/-- A span of time in nanoseconds. -/
abbrev Duration := Nat

/-- A point in time: nanoseconds since the start of 1970, negative before it. -/
abbrev Time := Int

namespace Time

/-- The time after a span, if the whole seconds since 1970 still fit a signed 64-bit number. -/
def add? (time : Time) (span : Duration) : Option Time :=
  let sum := time + (span : Int)
  if sum / 1000000000 < Nat.pow 2 63 then some sum else none

/-- The span from one time to a later one, zero if it is not later. -/
def since (later earlier : Time) : Duration :=
  (later - earlier).toNat

end Time

namespace Duration

/-- A number of seconds. -/
def seconds (count : Nat) : Duration := count * 1000000000

/-- A number of minutes. -/
def minutes (count : Nat) : Duration := seconds (60 * count)

/-- A number of milliseconds. -/
def millis (count : Nat) : Duration := count * 1000000

/-- The seconds of a duration in single precision: whole seconds and the rest are converted apart
and then added. -/
def singleSeconds (span : Duration) : Float32 :=
  Number.singleOfNat (span / 1000000000) +
    Number.singleOfNat (span % 1000000000) / Number.singleOfNat 1000000000

/-! ## Reading -/

/-- A unit of time. -/
structure Unit where
  /-- The names that may be written. -/
  names : List String
  /-- The unit is a whole number of seconds, otherwise of nanoseconds. -/
  ofSeconds : Bool
  /-- How many seconds or nanoseconds it has. -/
  factor : Nat
  /-- How many seconds or nanoseconds a fraction of it is taken of, if fractions are allowed. -/
  fractionFactor : Option Nat
  /-- Fractions are counted in seconds, otherwise in nanoseconds. -/
  fractionOfSeconds : Bool

/-- All units. -/
def units : List Unit := [
  ⟨["nanos", "nsec", "ns"], false, 1, none, false⟩,
  ⟨["usec", "us", "µs"], false, 1000, some 1000, false⟩,
  ⟨["millis", "msec", "ms"], false, 1000000, some 1000000, false⟩,
  ⟨["seconds", "second", "secs", "sec", "s"], true, 1, some 1000000000, false⟩,
  ⟨["minutes", "minute", "min", "mins", "m"], true, 60, some 60000000000, false⟩,
  ⟨["hours", "hour", "hr", "hrs", "h"], true, 3600, some 3600, true⟩,
  ⟨["days", "day", "d"], true, 86400, some 86400, true⟩,
  ⟨["weeks", "week", "wk", "wks", "w"], true, 604800, some 604800, true⟩,
  ⟨["months", "month", "M"], true, 2630016, some 2630016, true⟩,
  ⟨["years", "year", "yr", "yrs", "y"], true, 31557600, some 31557600, true⟩]

/-- Why a text is no duration. -/
inductive Error where
  /-- There is nothing to read. -/
  | empty
  /-- A number has to start at this byte. -/
  | numberExpected (offset : Nat)
  /-- The character at this byte has no place there. -/
  | invalidCharacter (offset : Nat)
  /-- The number has no unit. -/
  | unitNeeded (number : Nat)
  /-- There is no such unit. -/
  | unknownUnit (name : String)
  /-- The duration is too long, or its fraction is too fine. -/
  | notRepresentable
  /-- The carry of a whole second runs over the longest duration. This is no fault of the text that
  could be reported: the program comes down. -/
  | overrun
  deriving DecidableEq, Repr

/-- The wording of an error. -/
def Error.message : Error → String
  | .empty => "value was empty"
  | .numberExpected offset => s!"expected number at {offset}"
  | .invalidCharacter offset => s!"invalid character at {offset}"
  | .unitNeeded number => s!"time unit needed, for example {number}sec or {number}ms"
  | .unknownUnit name =>
    "unknown time unit \"" ++ name ++ "\", supported units: ns, us/µs, ms, sec, min, hours, " ++
      "days, weeks, months, years (and few variations)"
  | .notRepresentable =>
    "number is too large or cannot be represented without a lack of precision " ++
      "(values below 1ns are not supported)"
  | .overrun => "carry over the longest duration"

/-- A decimal fraction: numerator and power of ten. -/
structure Fraction where
  numerator : Nat
  denominator : Nat
  deriving DecidableEq, Repr

/-- A number of 64 bits, or the failure to represent it. -/
def bounded (value : Nat) : Except Error Nat :=
  if value ≤ Number.maxWhole then .ok value else .error .notRepresentable

/-- Add seconds and nanoseconds to a sum. Nanoseconds that make exactly one second are carried last,
when nothing is checked any more. -/
def addParts (sum : Duration) (secs nanos : Nat) : Except Error Duration := do
  let rest ← bounded (sum % 1000000000 + nanos)
  let total := sum + secs * 1000000000 + nanos
  if rest = 1000000000 ∧ total / 1000000000 = Number.maxWhole + 1 then .error .overrun
  else
    let _ ← bounded (total / 1000000000)
    return total

/-- Add a number of units to a sum. -/
def addItem (sum : Duration) (number : Nat) (fraction : Option Fraction) (name : List Char) :
    Except Error Duration := do
  let name := String.ofList name
  match units.find? (·.names.contains name) with
  | none => .error (if name.isEmpty then .unitNeeded number else .unknownUnit name)
  | some unit =>
    let whole ← bounded (number * unit.factor)
    let sum ← if unit.ofSeconds then addParts sum whole 0 else addParts sum 0 whole
    match fraction with
    | none => return sum
    | some fraction =>
      match unit.fractionFactor with
      | none => .error .notRepresentable
      | some factor =>
        let scaled ← bounded (fraction.numerator * factor)
        if scaled % fraction.denominator ≠ 0 then .error .notRepresentable
        else
          let part := scaled / fraction.denominator
          if unit.fractionOfSeconds then addParts sum part 0 else addParts sum 0 part

/-- Where the reader stands. -/
inductive Place where
  /-- Before a number; the flag tells whether an item has been read. -/
  | between (any : Bool)
  /-- Among the digits before a point. -/
  | whole (number : Nat)
  /-- Among the digits after a point; `mark` is the byte to blame for a missing digit. -/
  | fraction (number : Nat) (part : Fraction) (mark : Nat)
  /-- Inside a unit, whose letters are kept in reverse. -/
  | unit (number : Nat) (part : Option Fraction) (letters : List Char)

/-- The character may occur in a unit. -/
def isUnitLetter (c : Char) : Bool :=
  ('a' ≤ c && c ≤ 'z') || ('A' ≤ c && c ≤ 'Z') || c = 'µ'

/-- The value of a digit. -/
def digitValue (c : Char) : Nat := c.toNat - 48

/-- Take one character, which starts at the given byte. -/
def step (offset : Nat) (c : Char) : Place → Duration → Except Error (Place × Duration)
  | .between any, sum =>
    if c.isDigit then .ok (.whole (digitValue c), sum)
    else if Text.isBlank c then .ok (.between any, sum)
    else .error (.numberExpected offset)
  | .whole number, sum =>
    if c.isDigit then do
      let number ← bounded (number * 10 + digitValue c)
      return (.whole number, sum)
    else if Text.isBlank c then .ok (.whole number, sum)
    else if isUnitLetter c then .ok (.unit number none [c], sum)
    else if c = '.' then .ok (.fraction number ⟨0, 1⟩ offset, sum)
    else .error (.invalidCharacter offset)
  | .fraction number part mark, sum =>
    let next := offset + c.utf8Size
    if c.isDigit then do
      let denominator ← bounded (part.denominator * 10)
      let numerator ← bounded (part.numerator * 10 + digitValue c)
      return (.fraction number ⟨numerator, denominator⟩ next, sum)
    else if Text.isBlank c then .ok (.fraction number part next, sum)
    else if isUnitLetter c then
      if part.denominator = 1 then .error (.invalidCharacter mark)
      else .ok (.unit number (some part) [c], sum)
    else .error (.invalidCharacter mark)
  | .unit number part letters, sum =>
    if c.isDigit then do
      let sum ← addItem sum number part letters.reverse
      return (.whole (digitValue c), sum)
    else if Text.isBlank c then do
      let sum ← addItem sum number part letters.reverse
      return (.between true, sum)
    else if isUnitLetter c then .ok (.unit number part (c :: letters), sum)
    else .error (.invalidCharacter offset)

/-- Finish at the end of the text. -/
def finish : Place → Duration → Except Error Duration
  | .between any, sum => if any then .ok sum else .error .empty
  | .whole number, sum => addItem sum number none []
  | .fraction number part mark, sum =>
    if part.denominator = 1 then .error (.invalidCharacter mark)
    else addItem sum number (some part) []
  | .unit number part letters, sum => addItem sum number part letters.reverse

/-- Read the rest of a text from the given byte on. -/
def readFrom (offset : Nat) (place : Place) (sum : Duration) : List Char → Except Error Duration
  | [] => finish place sum
  | c :: rest =>
    match step offset c place sum with
    | .error why => .error why
    | .ok (place, sum) => readFrom (offset + c.utf8Size) place sum rest

/-- The duration that a text denotes. A lone zero needs no unit. -/
def ofText (text : String) : Except Error Duration :=
  if text = "0" then .ok 0 else readFrom 0 (.between false) 0 text.toList

/-! ## Printing -/

/-- A count and its unit, left out if the count is zero. -/
def item (count : Nat) (unit : String) : List String :=
  if count = 0 then [] else [s!"{count}{unit}"]

/-- A count and its unit in singular or plural, left out if the count is zero. -/
def pluralItem (count : Nat) (unit : String) : List String :=
  if count = 0 then [] else if count = 1 then [s!"{count}{unit}"] else [s!"{count}{unit}s"]

/-- The text of a duration. -/
def toText (span : Duration) : String :=
  if span = 0 then "0s"
  else
    let secs := span / 1000000000
    let nanos := span % 1000000000
    let ofYear := secs % 31557600
    let ofMonth := ofYear % 2630016
    let ofDay := ofMonth % 86400
    " ".intercalate (
      pluralItem (secs / 31557600) "year" ++ pluralItem (ofYear / 2630016) "month" ++
      pluralItem (ofMonth / 86400) "day" ++ item (ofDay / 3600) "h" ++
      item (ofDay % 3600 / 60) "m" ++ item (ofDay % 60) "s" ++ item (nanos / 1000000) "ms" ++
      item (nanos / 1000 % 1000) "us" ++ item (nanos % 1000) "ns")

end Duration

end OverlayStore
