import OverlayStore.Bytes

/-!
# UTF-8

The strict decoder. It refuses stray continuation bytes, overlong forms, surrogates and code
points past the last one, and says where the refused sequence starts and how many bytes of it are
known to be wrong. A sequence that the end of the input cuts off is told apart from a wrong one.
-/

namespace OverlayStore.Text.Utf8

/-- What is wrong with some bytes. -/
inductive Flaw where
  /-- This many bytes form no beginning of a character. -/
  | invalid (count : Nat)
  /-- The input ends inside a character. -/
  | incomplete
  deriving DecidableEq, Repr

/-- A flaw and the offset of the sequence that has it. -/
structure Malformed where
  /-- What is wrong. -/
  flaw : Flaw
  /-- The offset of the first byte of the sequence. -/
  offset : Nat
  deriving DecidableEq, Repr

/-- The wording of a malformation. -/
def Malformed.message (malformed : Malformed) : String :=
  match malformed.flaw with
  | .invalid count => s!"invalid utf-8 sequence of {count} bytes from index {malformed.offset}"
  | .incomplete => s!"incomplete utf-8 byte sequence from index {malformed.offset}"

/-- The byte continues a character. -/
def isTail (byte : UInt8) : Bool :=
  0x80 ≤ byte && byte ≤ 0xBF

/-- The second byte of a three-byte character is right for its first byte. -/
def isSecondOfThree (first second : UInt8) : Bool :=
  if first = 0xE0 then 0xA0 ≤ second && second ≤ 0xBF
  else if first = 0xED then 0x80 ≤ second && second ≤ 0x9F
  else isTail second

/-- The second byte of a four-byte character is right for its first byte. -/
def isSecondOfFour (first second : UInt8) : Bool :=
  if first = 0xF0 then 0x90 ≤ second && second ≤ 0xBF
  else if first = 0xF4 then 0x80 ≤ second && second ≤ 0x8F
  else isTail second

/-- The payload bits of a continuation byte. -/
def tailBits (byte : UInt8) : Nat :=
  byte.toNat % 64

/-- The first character of a nonempty input and the number of bytes after its first one. -/
def first (byte : UInt8) (rest : Bytes) : Except Flaw (Char × Nat) :=
  if byte < 0x80 then .ok (Char.ofNat byte.toNat, 0)
  else if 0xC2 ≤ byte ∧ byte ≤ 0xDF then
    match rest with
    | [] => .error .incomplete
    | b :: _ =>
      if isTail b then .ok (Char.ofNat (byte.toNat % 32 * 64 + tailBits b), 1)
      else .error (.invalid 1)
  else if 0xE0 ≤ byte ∧ byte ≤ 0xEF then
    match rest with
    | [] => .error .incomplete
    | b :: rest =>
      if !isSecondOfThree byte b then .error (.invalid 1)
      else match rest with
        | [] => .error .incomplete
        | c :: _ =>
          if isTail c then
            .ok (Char.ofNat ((byte.toNat % 16 * 64 + tailBits b) * 64 + tailBits c), 2)
          else .error (.invalid 2)
  else if 0xF0 ≤ byte ∧ byte ≤ 0xF4 then
    match rest with
    | [] => .error .incomplete
    | b :: rest =>
      if !isSecondOfFour byte b then .error (.invalid 1)
      else match rest with
        | [] => .error .incomplete
        | c :: rest =>
          if !isTail c then .error (.invalid 2)
          else match rest with
            | [] => .error .incomplete
            | d :: _ =>
              if isTail d then
                .ok (Char.ofNat
                  (((byte.toNat % 8 * 64 + tailBits b) * 64 + tailBits c) * 64 + tailBits d), 3)
              else .error (.invalid 3)
  else .error (.invalid 1)

/-- Decode from the given offset on; `done` holds the characters before it, the last one first. -/
def decodeFrom (offset : Nat) (done : List Char) (bytes : Bytes) : Except Malformed (List Char) :=
  match bytes with
  | [] => .ok done.reverse
  | byte :: rest =>
    match first byte rest with
    | .error flaw => .error ⟨flaw, offset⟩
    | .ok (c, more) => decodeFrom (offset + 1 + more) (c :: done) (rest.drop more)
termination_by bytes.length
decreasing_by simp only [List.length_drop, List.length_cons]; omega

/-- The text that some bytes encode. -/
def decode (bytes : Bytes) : Except Malformed String :=
  (decodeFrom 0 [] bytes).map String.ofList

/-- The text that some bytes encode, if they encode one. -/
def decode? (bytes : Bytes) : Option String :=
  (decode bytes).toOption

end OverlayStore.Text.Utf8
