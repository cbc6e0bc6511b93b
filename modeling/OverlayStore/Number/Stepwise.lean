import OverlayStore.Number.Text

/-!
# Numerals read step by step

The double-precision number of a numeral, found with few operations and not by exact arithmetic: the
leading digits that fit 64 bits are converted, and the result is multiplied or divided by a power of
ten. Each of these steps rounds, so that the last bit may differ from that of the nearest number.
-/

namespace OverlayStore.Number.Stepwise

/-- The leading digits of a numeral as a whole number, with the power of ten to take it with. -/
structure Scaled where
  /-- The digits that fit 64 bits. -/
  significand : Nat
  /-- The power of ten. -/
  exponent : Int

/-- Take in the digits before the point. Digits that do not fit count as powers of ten. -/
def takeWhole : Nat → List Char → Scaled
  | significand, [] => ⟨significand, 0⟩
  | significand, c :: rest =>
    let next := significand * 10 + (c.toNat - 48)
    if next ≤ maxWhole then takeWhole next rest else ⟨significand, (c :: rest).length⟩

/-- Take in the digits after the point. Digits from the first one on that does not fit are left
out. -/
def takeFraction (value : Scaled) : List Char → Scaled
  | [] => value
  | c :: rest =>
    let next := value.significand * 10 + (c.toNat - 48)
    if next ≤ maxWhole then takeFraction ⟨next, value.exponent - 1⟩ rest else value

/-- The number nearest to a power of ten. -/
def powerOfTen (exponent : Nat) : Float :=
  doubleOf false (double.round (Nat.pow 10 exponent) 1)

/-- The greatest whole power of ten among the finite numbers. -/
def greatestPower : Nat := 308

/-- A number times a power of ten. There is none beyond all finite numbers. A power below the
smallest is taken in several steps, until nothing is left. -/
def scale (value : Float) (exponent : Int) : Option Float :=
  if exponent > (greatestPower : Int) then if value == 0 then some value else none
  else if exponent ≥ 0 then
    let product := value * powerOfTen exponent.toNat
    if product.isInf then none else some product
  else if exponent ≥ -(greatestPower : Int) then some (value / powerOfTen (-exponent).toNat)
  else if value == 0 then some value
  else scale (value / powerOfTen greatestPower) (exponent + (greatestPower : Int))
  termination_by (-exponent).toNat
  decreasing_by simp only [greatestPower] at *; omega

/-- The greatest exponent that a numeral may spell out, a signed number of 32 bits. -/
def exponentLimit : Nat := Nat.pow 2 31 - 1

/-- An exponent in the range of signed numbers of 32 bits. -/
def clamp (exponent : Int) : Int :=
  max (-(exponentLimit : Int) - 1) (min exponent exponentLimit)

/-- Take in the exponent. One that is out of range makes every number zero or too large. -/
def withExponent (value : Scaled) (exponent : Int) : Option Float :=
  if exponent.natAbs > exponentLimit then
    if value.significand ≠ 0 ∧ exponent > 0 then none else some 0
  else
    scale (doubleOf false (double.round value.significand 1)) (clamp (value.exponent + exponent))

/-- The number that an unsigned numeral denotes: digits, perhaps with a point among them, and
perhaps an exponent. There is none beyond all finite numbers. -/
def ofChars? (text : List Char) : Option Float :=
  let whole := text.takeWhile Char.isDigit
  let rest := text.dropWhile Char.isDigit
  let value := takeWhole 0 whole
  let (value, rest) :=
    match rest with
    | '.' :: rest =>
      (takeFraction value (rest.takeWhile Char.isDigit), rest.dropWhile Char.isDigit)
    | _ => (value, rest)
  match rest with
  | [] => withExponent value 0
  | _ :: exponent => (readExponent exponent).bind (withExponent value)

end OverlayStore.Number.Stepwise
