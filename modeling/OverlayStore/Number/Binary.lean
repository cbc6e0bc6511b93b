/-!
# Binary floating point

The two binary formats in use, and the rounding of an exact quotient to the nearest number of a
format, ties to the even neighbour. A finite number is a significand times a power of two; the
power is never below the least one of the format, so small numbers lose leading bits and not range.
-/

namespace OverlayStore.Number

/-- A binary floating-point format. -/
structure Format where
  /-- The number of bits of a full significand. -/
  precision : Nat
  /-- The least exponent of a significand's last bit. -/
  least : Int
  /-- The greatest exponent of a significand's last bit. -/
  greatest : Int

/-- Single precision. -/
def single : Format := ⟨24, -149, 104⟩

/-- Double precision. -/
def double : Format := ⟨53, -1074, 971⟩

/-- A nonnegative number of a format, or the mark of one that is too large for it. -/
inductive Magnitude where
  /-- The significand times two to the exponent. -/
  | finite (significand : Nat) (exponent : Int)
  /-- Larger than every finite number. -/
  | infinite
  deriving DecidableEq, Repr

/-- The quotient rounded to the nearest natural number, a tie to the even one. -/
def roundQuotient (num den : Nat) : Nat :=
  let whole := num / den
  let twice := 2 * (num % den)
  if twice > den ∨ (twice = den ∧ whole % 2 = 1) then whole + 1 else whole

/-- Shift a quotient by a power of two: the result is `num / den * 2 ^ shift`, as a quotient. -/
def scaleQuotient (num den : Nat) (shift : Int) : Nat × Nat :=
  if shift ≥ 0 then (num <<< shift.toNat, den) else (num, den <<< (-shift).toNat)

/-- The exponent of the highest bit of a positive quotient. -/
def quotientLog2 (num den : Nat) : Int :=
  let guess : Int := (num.log2 : Int) - (den.log2 : Int)
  let (n, d) := scaleQuotient num den (-guess)
  if n < d then guess - 1 else guess

/-- The number of a format that is nearest to a quotient. -/
def Format.round (format : Format) (num den : Nat) : Magnitude :=
  if num = 0 then .finite 0 format.least
  else
    let exponent := max (quotientLog2 num den - (format.precision - 1 : Nat)) format.least
    let (n, d) := scaleQuotient num den (-exponent)
    let significand := roundQuotient n d
    let (significand, exponent) :=
      if significand = Nat.pow 2 format.precision then (significand / 2, exponent + 1)
      else (significand, exponent)
    if exponent > format.greatest then .infinite else .finite significand exponent

/-- The bits of a magnitude, without the sign: the exponent field above the significand, whose
leading bit is left out where it is set. -/
def Format.bits (format : Format) : Magnitude → Nat
  | .finite significand exponent =>
    significand + (exponent - format.least).toNat * Nat.pow 2 (format.precision - 1)
  | .infinite => ((format.greatest - format.least).toNat + 2) * Nat.pow 2 (format.precision - 1)

/-- The magnitude with the given bits; a sign bit above them is ignored. `none` stands for the
bits that denote no number. -/
def Format.ofBits (format : Format) (bits : Nat) : Option Magnitude :=
  let unit := Nat.pow 2 (format.precision - 1)
  let top := (format.greatest - format.least).toNat + 2
  let field := bits / unit % (top + 1)
  let fraction := bits % unit
  if field = top then (if fraction = 0 then some .infinite else none)
  else if field = 0 then some (.finite fraction format.least)
  else some (.finite (fraction + unit) (format.least + (field - 1 : Nat)))

end OverlayStore.Number
