/-!
# Byte strings

Byte strings are lists of bytes, so that framing, hashing and hexadecimal text can be read off
their definitions by recursion. The module holds the lower-case hexadecimal writer, the strict
hexadecimal reader with the position of the first offending byte, and numbers and words with the
most significant byte first.
-/

namespace OverlayStore

/-- A byte string. -/
abbrev Bytes := List UInt8

namespace Bytes

/-- The UTF-8 bytes of a text. -/
def ofText (text : String) : Bytes :=
  text.toUTF8.toList

/-- The lower-case hexadecimal digit of a number below sixteen. -/
def hexDigit (value : Nat) : Char :=
  if value < 10 then Char.ofNat (48 + value) else Char.ofNat (87 + value)

/-- The two lower-case hexadecimal digits of a byte. -/
def hexPair (byte : UInt8) : List Char :=
  [hexDigit (byte.toNat / 16), hexDigit (byte.toNat % 16)]

/-- A byte string as lower-case hexadecimal text. -/
def toHex (bytes : Bytes) : String :=
  String.ofList (bytes.flatMap hexPair)

/-- The value of the ASCII byte of a hexadecimal digit of either case. -/
def hexValue? (byte : UInt8) : Option UInt8 :=
  if 48 ≤ byte ∧ byte ≤ 57 then some (byte - 48)
  else if 97 ≤ byte ∧ byte ≤ 102 then some (byte - 87)
  else if 65 ≤ byte ∧ byte ≤ 70 then some (byte - 55)
  else none

/-- Why a text is no hexadecimal text. -/
inductive HexError where
  /-- The text has an odd number of bytes. -/
  | oddLength
  /-- The byte at this offset is no hexadecimal digit. -/
  | badDigit (byte : UInt8) (offset : Nat)
  deriving DecidableEq, Repr

/-- Read digit pairs; `offset` is the position of the first one. -/
def readPairs (offset : Nat) : Bytes → Except HexError Bytes
  | high :: low :: rest =>
    match hexValue? high, hexValue? low with
    | none, _ => .error (.badDigit high offset)
    | some _, none => .error (.badDigit low (offset + 1))
    | some h, some l => (readPairs (offset + 2) rest).map ((h * 16 + l) :: ·)
  | _ => .ok []

/-- Read hexadecimal text given by its bytes. An odd length is reported before any bad digit. -/
def ofHex (text : Bytes) : Except HexError Bytes :=
  if text.length % 2 = 1 then .error .oddLength else readPairs 0 text

/-- The number that a byte string denotes, read most significant byte first. -/
def number (bytes : Bytes) : Nat :=
  bytes.foldl (fun value byte => value * 256 + byte.toNat) 0

/-- The four bytes of a word, most significant first. -/
def ofWord32 (word : UInt32) : Bytes :=
  [(word >>> 24).toUInt8, (word >>> 16).toUInt8, (word >>> 8).toUInt8, word.toUInt8]

/-- The word whose bytes are given, most significant first. -/
def word32 (b0 b1 b2 b3 : UInt8) : UInt32 :=
  b0.toUInt32 <<< 24 ||| b1.toUInt32 <<< 16 ||| b2.toUInt32 <<< 8 ||| b3.toUInt32

/-- Fixed-width lower-case hexadecimal text of a word, eight digits. -/
def hexOfWord32 (word : UInt32) : String :=
  toHex (ofWord32 word)

end Bytes

end OverlayStore
