import OverlayStore.Number.Binary

/-!
# Decimal numerals

Reading decimal numerals as exact decimal fractions, rounding these to a binary format, and the
shortest decimal numeral that a binary number can be read back from.
-/

namespace OverlayStore.Number

/-- The exact value of a decimal numeral: the digits as a whole number times a power of ten. -/
structure Decimal where
  /-- All digits, read as one whole number. -/
  digits : Nat
  /-- The power of ten. -/
  exponent : Int
  deriving DecidableEq, Repr

/-- The value of a run of decimal digits. -/
def digitsValue (digits : List Char) : Nat :=
  digits.foldl (fun value c => value * 10 + (c.toNat - 48)) 0

/-- Read an exponent after its letter: an optional sign and at least one digit. -/
def readExponent (text : List Char) : Option Int :=
  let (negative, text) :=
    match text with
    | '+' :: rest => (false, rest)
    | '-' :: rest => (true, rest)
    | _ => (false, text)
  if text.isEmpty || !text.all Char.isDigit then none
  else some (if negative then -(digitsValue text : Int) else (digitsValue text : Int))

/-- Read an unsigned numeral: digits with an optional point among or around them, at least one
digit, and an optional exponent. -/
def Decimal.ofChars? (text : List Char) : Option Decimal :=
  let whole := text.takeWhile Char.isDigit
  let rest := text.dropWhile Char.isDigit
  let (fraction, rest) :=
    match rest with
    | '.' :: tail => (tail.takeWhile Char.isDigit, tail.dropWhile Char.isDigit)
    | _ => ([], rest)
  if whole.isEmpty && fraction.isEmpty then none
  else
    let exponent? :=
      match rest with
      | [] => some 0
      | e :: tail => if e = 'e' ∨ e = 'E' then readExponent tail else none
    exponent?.map fun exponent => ⟨digitsValue (whole ++ fraction), exponent - fraction.length⟩

/-- No number of either format has a decimal exponent beyond this. -/
def exponentBound : Int := 400

/-- The number of a format that is nearest to a decimal fraction. -/
def Decimal.round (format : Format) (value : Decimal) : Magnitude :=
  let size : Int := (Nat.toDigits 10 value.digits).length
  if value.digits = 0 ∨ value.exponent + size < -exponentBound then .finite 0 format.least
  else if value.exponent + size > exponentBound then .infinite
  else if value.exponent ≥ 0 then format.round (value.digits * Nat.pow 10 value.exponent.toNat) 1
  else format.round value.digits (Nat.pow 10 (-value.exponent).toNat)

/-! ## The shortest numeral -/

/-- The quarters of the last bit that a number reaches below and above itself before its neighbours
are nearer: the step down is half as long at the bottom of a range of exponents. -/
def Format.reach (format : Format) (significand : Nat) (exponent : Int) : Nat × Nat :=
  if significand = Nat.pow 2 (format.precision - 1) ∧ exponent > format.least then (1, 2)
  else (2, 2)

/-- The decimal `digits * 10 ^ power` reads back as the number: compared with the bounds of the
number, which belong to it if the significand is even. -/
def Format.readsBack (format : Format) (significand : Nat) (exponent : Int) (digits : Nat)
    (power : Int) : Bool :=
  let (below, above) := format.reach significand exponent
  let (unit, one) := scaleQuotient 1 1 (exponent - 2)
  let (num, den) :=
    if power ≥ 0 then (digits * Nat.pow 10 power.toNat, 1) else (digits, Nat.pow 10 (-power).toNat)
  let candidate := num * one
  let low := (4 * significand - below) * unit * den
  let high := (4 * significand + above) * unit * den
  if significand % 2 = 0 then low ≤ candidate && candidate ≤ high
  else low < candidate && candidate < high

/-- The shortest decimal that reads back, searched on ever finer decimal grids; of two on one grid
the nearer. -/
def Format.shortestFrom (format : Format) (significand : Nat) (exponent : Int) :
    Nat → Int → Decimal
  | 0, power => ⟨significand, power⟩
  | fuel + 1, power =>
    let (num, den) := scaleQuotient significand 1 exponent
    let (num, den) :=
      if power ≥ 0 then (num, den * Nat.pow 10 power.toNat)
      else (num * Nat.pow 10 (-power).toNat, den)
    let down := num / den
    let lower := down > 0 && format.readsBack significand exponent down power
    let upper := format.readsBack significand exponent (down + 1) power
    let upperNearer := 2 * (num % den) > den || (2 * (num % den) = den && down % 2 = 1)
    if lower && !(upper && upperNearer) then ⟨down, power⟩
    else if upper then ⟨down + 1, power⟩
    else shortestFrom format significand exponent fuel (power - 1)

/-- The shortest decimal that reads back as the given number of the format. -/
def Format.shortest (format : Format) (significand : Nat) (exponent : Int) : Decimal :=
  if significand = 0 then ⟨0, 0⟩
  else
    let bits : Int := (significand.log2 : Int) + exponent
    format.shortestFrom significand exponent 40 (bits * 30103 / 100000 + 2)

/-- A decimal in positional notation. Without digits after the point there is no point. -/
def Decimal.positional (value : Decimal) : String :=
  let digits := Nat.toDigits 10 value.digits
  if value.exponent ≥ 0 then
    if value.digits = 0 then "0"
    else String.ofList (digits ++ List.replicate value.exponent.toNat '0')
  else
    let places := (-value.exponent).toNat
    let padded := List.replicate (places + 1 - digits.length) '0' ++ digits
    String.ofList (padded.take (padded.length - places)) ++ "." ++
      String.ofList (padded.drop (padded.length - places))

end OverlayStore.Number
