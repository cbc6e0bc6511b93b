import OverlayStore.Blake3
import OverlayStore.Text.Quoted

/-!
# Keys

Keys are 160-bit identifiers, written as twenty bytes with the most significant byte first. Node
identifiers and the identifiers of stored content share this one space, whose metric is the
bitwise exclusive or.

The module holds the numeric reading `Key.toNat`, the order, the distance, the bucket index, which
is the position of the highest differing bit, and the hexadecimal text of keys.
-/

namespace OverlayStore

/-- A 160-bit identifier. -/
structure Key where
  /-- The twenty bytes, most significant first. -/
  bytes : Bytes
  /-- A key has exactly twenty bytes. -/
  length_eq : bytes.length = 20
  deriving DecidableEq

namespace Key

/-- The number of bytes of a key. -/
def size : Nat := 20

/-- The number of bits of a key. -/
def bits : Nat := 160

/-- The key as a number below `2 ^ 160`. -/
def toNat (key : Key) : Nat :=
  Bytes.number key.bytes

/-- The key of zero bits only. -/
def zero : Key := ⟨List.replicate 20 0, by decide⟩

/-- The key of one bits only. -/
def ones : Key := ⟨List.replicate 20 255, by decide⟩

instance : Inhabited Key := ⟨zero⟩

/-- Why some bytes or some text denote no key. -/
inductive Error where
  /-- There are not twenty bytes but this many. -/
  | wrongSize (count : Nat)
  /-- The text is no hexadecimal text. -/
  | badHex (why : Bytes.HexError)
  deriving DecidableEq, Repr

/-- The wording of an error. -/
def Error.message : Error → String
  | .wrongSize count => s!"key must be {size} bytes, got {count}"
  | .badHex .oddLength => "invalid hex key: Odd number of digits"
  | .badHex (.badDigit byte offset) =>
    s!"invalid hex key: Invalid character {Text.quotedByte byte} at position {offset}"

/-- The key with the given bytes. -/
def ofBytes (bytes : Bytes) : Except Error Key :=
  if h : bytes.length = 20 then .ok ⟨bytes, h⟩ else .error (.wrongSize bytes.length)

/-- The key written as forty hexadecimal digits. -/
def ofHex (text : String) : Except Error Key :=
  match Bytes.ofHex (Bytes.ofText text) with
  | .ok bytes => ofBytes bytes
  | .error why => .error (.badHex why)

/-- The key of some content: the first twenty bytes of its hash. -/
def ofContent (content : Bytes) : Key :=
  ⟨(Blake3.hash content).take 20, by simp [Blake3.length_hash]⟩

/-- The key of a text, hashed as UTF-8. -/
def ofText (text : String) : Key :=
  ofContent (Bytes.ofText text)

/-- All forty hexadecimal digits. -/
def toHex (key : Key) : String :=
  Bytes.toHex key.bytes

/-- The short form: the hexadecimal digits of the first eight bytes. -/
def short (key : Key) : String :=
  Bytes.toHex (key.bytes.take 8)

/-- The distance of two keys, their bitwise exclusive or. -/
def distance (a b : Key) : Key :=
  ⟨List.zipWith (· ^^^ ·) a.bytes b.bytes, by simp [a.length_eq, b.length_eq]⟩

/-- The number of zero bits of a byte above its highest one bit. -/
def byteLeadingZeros (byte : UInt8) : Nat :=
  if byte = 0 then 8 else 7 - Nat.log2 byte.toNat

/-- The number of zero bits before the first one bit of a byte string. -/
def leadingZerosOf : Bytes → Nat
  | [] => 0
  | byte :: rest => if byte = 0 then 8 + leadingZerosOf rest else byteLeadingZeros byte

/-- The number of leading zero bits of a key. -/
def leadingZeros (key : Key) : Nat :=
  leadingZerosOf key.bytes

/-- The position of the highest bit in which two keys differ, zero for equal keys. -/
def bucketIndex (a b : Key) : Nat :=
  let leading := (a.distance b).leadingZeros
  if leading ≥ bits then 0 else bits - 1 - leading

/-- Lexicographic comparison of byte strings. -/
def compareBytes : Bytes → Bytes → Ordering
  | [], [] => .eq
  | [], _ :: _ => .lt
  | _ :: _, [] => .gt
  | x :: xs, y :: ys =>
    if x < y then .lt else if y < x then .gt else compareBytes xs ys

/-- Compare two keys byte by byte, the most significant byte first. -/
def compare (a b : Key) : Ordering :=
  compareBytes a.bytes b.bytes

/-- Whether the first key comes strictly before the second. -/
def before (a b : Key) : Bool :=
  compare a b == .lt

/-- Whether the first key comes no later than the second. -/
def notAfter (a b : Key) : Bool :=
  !before b a

/-- Whether `a` lies strictly nearer to `target` than `b` does. -/
def isCloser (a b target : Key) : Bool :=
  before (a.distance target) (b.distance target)

end Key

end OverlayStore
