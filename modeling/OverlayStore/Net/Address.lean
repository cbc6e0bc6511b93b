import OverlayStore.Text.Quoted

/-!
# Internet addresses

IPv4 and IPv6 socket addresses, their text form and the classes of addresses that matter for
admission. IPv6 text is printed in compressed form: the longest run of at least two zero groups,
the first of several, is left out, and addresses that map an IPv4 address show it in dotted form.
-/

namespace OverlayStore.Net

/-- An internet address. -/
inductive Ip where
  /-- An IPv4 address as a word, the first octet most significant. -/
  | v4 (word : UInt32)
  /-- An IPv6 address as eight groups. -/
  | v6 (groups : Vector UInt16 8)
  deriving DecidableEq

/-- An address to which messages can be sent. The flow information of IPv6 socket addresses is left
out: no text form sets it and nothing else here does, so it is zero in every address. -/
structure Address where
  /-- The internet address. -/
  ip : Ip
  /-- The port. -/
  port : UInt16
  /-- The scope of a link-local IPv6 address, zero where there is none. -/
  scope : UInt32
  deriving DecidableEq

namespace Ip

/-- The IPv4 address with the given octets. -/
def ofOctets (a b c d : UInt8) : Ip :=
  .v4 (a.toUInt32 <<< 24 ||| b.toUInt32 <<< 16 ||| c.toUInt32 <<< 8 ||| d.toUInt32)

/-- The IPv4 address that a group sequence maps: five zero groups, a group of ones, the address. -/
def mapped? (groups : Vector UInt16 8) : Option UInt32 :=
  match groups.toList with
  | [a, b, c, d, e, f, high, low] =>
    if a = 0 ∧ b = 0 ∧ c = 0 ∧ d = 0 ∧ e = 0 ∧ f = 0xffff then
      some (high.toUInt32 <<< 16 ||| low.toUInt32)
    else none
  | _ => none

/-- The IPv4 form of an address: the address itself or the one it maps. -/
def v4Form? : Ip → Option UInt32
  | .v4 word => some word
  | .v6 groups => mapped? groups

/-- The address that stands for no address at all: all bits zero in its own family. -/
def isUnspecified : Ip → Bool
  | .v4 word => word = 0
  | .v6 groups => groups.all (· = 0)

/-- An IPv4 word inside the block given by its leading bits. -/
def inBlock (word : UInt32) (start : UInt32) (mask : UInt32) : Bool :=
  word &&& mask = start

/-- Private, loopback and link-local addresses. IPv6 addresses are judged by their own bits. -/
def isPrivate : Ip → Bool
  | .v4 word =>
    inBlock word 0x0A000000 0xFF000000 || inBlock word 0xAC100000 0xFFF00000 ||
      inBlock word 0xC0A80000 0xFFFF0000 || inBlock word 0x7F000000 0xFF000000 ||
      inBlock word 0xA9FE0000 0xFFFF0000
  | .v6 groups =>
    groups = #v[0, 0, 0, 0, 0, 0, 0, 1] || groups.toList.headD 0 &&& 0xfe00 = 0xfc00

/-- The four octets of an IPv4 word in dotted form. -/
def dotted (word : UInt32) : String :=
  let octet (shift : UInt32) : String := toString ((word >>> shift) &&& 0xFF).toNat
  ".".intercalate [octet 24, octet 16, octet 8, octet 0]

/-- Groups in hexadecimal, separated by colons. -/
def colonGroups (groups : List UInt16) : String :=
  ":".intercalate (groups.map fun group => Text.hexDigits group.toNat)

/-- The number of leading zero groups. -/
def zeroRun : List UInt16 → Nat
  | [] => 0
  | group :: rest => if group = 0 then zeroRun rest + 1 else 0

/-- The start and length of the longest run of zero groups, the first of equally long ones. -/
def longestZeroRun (groups : List UInt16) : Nat × Nat :=
  (List.range groups.length).foldl
    (fun best start =>
      let run := zeroRun (groups.drop start)
      if run > best.2 then (start, run) else best) (0, 0)

/-- The text form of an address. -/
def toText : Ip → String
  | .v4 word => dotted word
  | .v6 groups =>
    match mapped? groups with
    | some word => "::ffff:" ++ dotted word
    | none =>
      let groups := groups.toList
      let (start, run) := longestZeroRun groups
      if run > 1 then
        colonGroups (groups.take start) ++ "::" ++ colonGroups (groups.drop (start + run))
      else colonGroups groups

end Ip

/-! ## Reading addresses -/

/-- A reader takes characters from the front of a text, or fails. -/
abbrev Reader (α : Type) := List Char → Option (α × List Char)

namespace Reader

/-- Read exactly this character. -/
def char (expected : Char) : Reader Unit
  | c :: rest => if c = expected then some ((), rest) else none
  | [] => none

/-- The value of a digit in a base of at most sixteen. -/
def digitValue? (base : Nat) (c : Char) : Option Nat :=
  let value? :=
    if '0' ≤ c ∧ c ≤ '9' then some (c.toNat - 48)
    else if 'a' ≤ c ∧ c ≤ 'f' then some (c.toNat - 87)
    else if 'A' ≤ c ∧ c ≤ 'F' then some (c.toNat - 55)
    else none
  value?.filter (· < base)

/-- Split off the leading digits of a base. -/
def digits (base : Nat) : List Char → List Nat × List Char
  | [] => ([], [])
  | c :: rest =>
    match digitValue? base c with
    | some value => let (more, tail) := digits base rest; (value :: more, tail)
    | none => ([], c :: rest)

/-- Read a number below `bound` with at least one digit and at most `width` digits, if a width is
given. Unless `zeros` allows it, the first of several digits is no zero. -/
def number (base bound : Nat) (width : Option Nat) (zeros : Bool) : Reader Nat := fun text =>
  let (ds, rest) := digits base text
  let value := ds.foldl (fun value d => value * base + d) 0
  if ds.isEmpty || width.any (ds.length > ·) || (!zeros && ds.length > 1 && ds.head? = some 0) ||
      value ≥ bound then none
  else some (value, rest)

/-- Read one octet of a dotted address. -/
def octet : Reader Nat :=
  number 10 256 (some 3) false

/-- Read a dotted IPv4 address. -/
def dottedQuad : Reader UInt32 := fun text => do
  let (a, text) ← octet text
  let (_, text) ← char '.' text
  let (b, text) ← octet text
  let (_, text) ← char '.' text
  let (c, text) ← octet text
  let (_, text) ← char '.' text
  let (d, text) ← octet text
  return (UInt32.ofNat (((a * 256 + b) * 256 + c) * 256 + d), text)

/-- Read a separating colon, unless nothing has been read before, and then an item. -/
def separated {α : Type} (first : Bool) (item : Reader α) : Reader α := fun text =>
  if first then item text
  else do
    let (_, text) ← char ':' text
    item text

/-- Read up to `room` groups; the last two may be written as a dotted IPv4 address. The flag tells
whether they were. -/
def groups (first : Bool) : Nat → List Char → (List UInt16 × Bool) × List Char
  | 0, text => (([], false), text)
  | room + 1, text =>
    match if room ≥ 1 then separated first dottedQuad text else none with
    | some (word, rest) => (([(word >>> 16).toUInt16, word.toUInt16], true), rest)
    | none =>
      match separated first (number 16 65536 (some 4) true) text with
      | some (group, rest) =>
        let ((more, quad), rest) := groups false room rest
        ((UInt16.ofNat group :: more, quad), rest)
      | none => (([], false), text)

/-- Eight groups from a list of them; missing ones are zero. -/
def eight (groups : List UInt16) : Vector UInt16 8 :=
  Vector.ofFn fun i => groups.getD i.val 0

/-- Read an IPv6 address. A double colon stands for at least one zero group, and no dotted part
comes before it. -/
def ipv6 : Reader (Vector UInt16 8) := fun text =>
  let ((front, quad), rest) := groups true 8 text
  if front.length = 8 then some (eight front, rest)
  else if quad then none
  else do
    let (_, rest) ← char ':' rest
    let (_, rest) ← char ':' rest
    let ((back, _), rest) := groups true (7 - front.length) rest
    return (eight (front ++ List.replicate (8 - front.length - back.length) 0 ++ back), rest)

/-- Read a colon and a port. -/
def port : Reader UInt16 := fun text => do
  let (_, text) ← char ':' text
  let (port, text) ← number 10 65536 none true text
  return (UInt16.ofNat port, text)

/-- Read a percent sign and a scope, or nothing. -/
def scope (text : List Char) : Nat × List Char :=
  let read := do
    let (_, rest) ← char '%' text
    number 10 4294967296 none true rest
  read.getD (0, text)

/-- Read an IPv4 socket address. -/
def socketV4 : Reader Address := fun text => do
  let (word, text) ← dottedQuad text
  let (port, text) ← port text
  return (⟨.v4 word, port, 0⟩, text)

/-- Read an IPv6 socket address. -/
def socketV6 : Reader Address := fun text => do
  let (_, text) ← char '[' text
  let (groups, text) ← ipv6 text
  let (scope, text) := scope text
  let (_, text) ← char ']' text
  let (port, text) ← port text
  return (⟨.v6 groups, port, UInt32.ofNat scope⟩, text)

end Reader

namespace Address

/-- The IPv4 socket address with the given octets. -/
def ofOctets (a b c d : UInt8) (port : UInt16) : Address :=
  ⟨.ofOctets a b c d, port, 0⟩

/-- The address that a text denotes, if the whole text denotes one. -/
def ofText? (text : String) : Option Address :=
  match (Reader.socketV4 text.toList).orElse fun _ => Reader.socketV6 text.toList with
  | some (address, []) => some address
  | _ => none

/-- The text form of an address. -/
def toText (address : Address) : String :=
  match address.ip with
  | .v4 _ => s!"{address.ip.toText}:{address.port.toNat}"
  | .v6 _ =>
    let scope := if address.scope = 0 then "" else s!"%{address.scope.toNat}"
    s!"[{address.ip.toText}{scope}]:{address.port.toNat}"

/-- What is said about a text that denotes no address. -/
def malformedMessage : String := "invalid socket address syntax"

end Address

end OverlayStore.Net
