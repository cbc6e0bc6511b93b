import OverlayStore.Number.Decimal

/-!
# Numbers in texts

The numbers that settings and messages contain: whole numbers of 64 bits, and single-precision
numbers, which are written with the fewest digits that read back, never with an exponent.
-/

namespace OverlayStore.Number

/-! ## Whole numbers -/

/-- Why a text is no whole number. -/
inductive WholeError where
  | empty
  | invalidDigit
  | tooLarge
  deriving DecidableEq, Repr

/-- The wording of an error. -/
def WholeError.message : WholeError → String
  | .empty => "cannot parse integer from empty string"
  | .invalidDigit => "invalid digit found in string"
  | .tooLarge => "number too large to fit in target type"

/-- The greatest whole number of 64 bits. -/
def maxWhole : Nat := Nat.pow 2 64 - 1

/-- Read digits from left to right. The first character that is no digit, or the first digit that
makes the number too large, decides. -/
def readWhole (value : Nat) : List Char → Except WholeError Nat
  | [] => .ok value
  | c :: rest =>
    if c.isDigit then
      let value := value * 10 + (c.toNat - 48)
      if value > maxWhole then .error .tooLarge else readWhole value rest
    else .error .invalidDigit

/-- The whole number that a text denotes; a plus sign may come first. -/
def wholeOfText (text : String) : Except WholeError Nat :=
  match text.toList with
  | [] => .error .empty
  | ['+'] => .error .invalidDigit
  | '+' :: digits => readWhole 0 digits
  | digits => readWhole 0 digits

/-! ## Single-precision numbers -/

/-- Why a text is no floating-point number. -/
inductive SingleError where
  | empty
  | invalid
  deriving DecidableEq, Repr

/-- The wording of an error. -/
def SingleError.message : SingleError → String
  | .empty => "cannot parse float from empty string"
  | .invalid => "invalid float literal"

/-- The sign bit of single precision. -/
def signBit (negative : Bool) : UInt32 :=
  if negative then 0x80000000 else 0

/-- The single-precision number with a sign and a magnitude. -/
def singleOf (negative : Bool) (magnitude : Magnitude) : Float32 :=
  Float32.ofBits (signBit negative ||| UInt32.ofNat (single.bits magnitude))

/-- The double-precision number with a sign and a magnitude. -/
def doubleOf (negative : Bool) (magnitude : Magnitude) : Float :=
  Float.ofBits ((if negative then 0x8000000000000000 else 0) |||
    UInt64.ofNat (double.bits magnitude))

/-- The single-precision number nearest to a natural number. -/
def singleOfNat (value : Nat) : Float32 :=
  singleOf false (single.round value 1)

/-- The names of the values that are no finite numbers, in lower case. -/
def namedMagnitude? (text : List Char) : Option (Option Magnitude) :=
  match String.ofList (text.map Char.toLower) with
  | "inf" | "infinity" => some (some .infinite)
  | "nan" => some none
  | _ => none

/-- Cut a leading sign off; the flag tells whether it is a minus. -/
def splitSign : List Char → Bool × List Char
  | '+' :: rest => (false, rest)
  | '-' :: rest => (true, rest)
  | text => (false, text)

/-- The single-precision number nearest to the one that a text denotes. -/
def singleOfText (text : String) : Except SingleError Float32 :=
  if text.isEmpty then .error .empty
  else
    let (negative, body) := splitSign text.toList
    match Decimal.ofChars? body with
    | some decimal => .ok (singleOf negative (decimal.round single))
    | none =>
      match namedMagnitude? body with
      | some (some magnitude) => .ok (singleOf negative magnitude)
      | some none => .ok (Float32.ofBits (signBit negative ||| 0x7FC00000))
      | none => .error .invalid

/-- The text of a number of a format given by its bits. -/
def textOfBits (format : Format) (negative : Bool) (bits : Nat) : String :=
  let sign := if negative then "-" else ""
  match format.ofBits bits with
  | none => "NaN"
  | some .infinite => sign ++ "inf"
  | some (.finite significand exponent) =>
    sign ++ (format.shortest significand exponent).positional

/-- The text of a single-precision number: the fewest digits that read back, in positional
notation. -/
def singleToText (value : Float32) : String :=
  let bits := value.toBits
  textOfBits single (bits &&& 0x80000000 != 0) bits.toNat

/-- The bits of a single-precision number. What arithmetic makes of operands without a sensible
result is always the same quiet not-a-number, whose sign bit is set. -/
def singleBits (value : Float32) : UInt32 :=
  if value.isNaN then 0xFFC00000 else value.toBits

/-- The text of a double-precision number, by the same rule. -/
def doubleToText (value : Float) : String :=
  let bits := value.toBits
  textOfBits double (bits &&& 0x8000000000000000 != 0) bits.toNat

end OverlayStore.Number
