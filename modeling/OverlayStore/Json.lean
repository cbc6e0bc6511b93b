import OverlayStore.Text.Quoted

/-!
# JSON text

Values of the data format, a strict reader and a writer without spaces. Numbers keep their
spelling, because `1` and `1.0` are different kinds of number to those who ask for a whole number,
and objects keep the order and the repetition of their members.
-/

namespace OverlayStore

/-- A value of the data format. -/
inductive Json where
  | null
  | bool (value : Bool)
  /-- A number as it is spelled. -/
  | number (spelling : String)
  | string (value : String)
  | array (items : List Json)
  /-- Members in order of appearance, repeated names included. -/
  | object (members : List (String × Json))
  /-- A string that is no text, because it holds half of a surrogate pair, or an object with such a
  name in it. It keeps to the grammar and can be skipped, but not be used. -/
  | unusable
  deriving Inhabited

namespace Json

/-! ## Reading -/

/-- Skip the four blank characters of the format. -/
def skipBlank : List Char → List Char
  | c :: rest => if c = ' ' ∨ c = '\n' ∨ c = '\t' ∨ c = '\r' then skipBlank rest else c :: rest
  | [] => []

/-- Split off the leading decimal digits. -/
def takeDigits (text : List Char) : List Char × List Char :=
  (text.takeWhile Char.isDigit, text.dropWhile Char.isDigit)

/-- Read the digits before the point: a lone zero or digits that start with another one. -/
def readWhole (text : List Char) : Option (List Char × List Char) :=
  match takeDigits text with
  | ([], _) => none
  | ('0' :: _ :: _, _) => none
  | found => some found

/-- Read an optional point with at least one digit after it. -/
def readFraction (text : List Char) : Option (List Char × List Char) :=
  match text with
  | '.' :: rest =>
    match takeDigits rest with
    | ([], _) => none
    | (ds, tail) => some ('.' :: ds, tail)
  | _ => some ([], text)

/-- Read an optional exponent. -/
def readExponent (text : List Char) : Option (List Char × List Char) :=
  match text with
  | e :: rest =>
    if e = 'e' ∨ e = 'E' then
      let (sign, rest) :=
        match rest with
        | '+' :: tail => (['+'], tail)
        | '-' :: tail => (['-'], tail)
        | _ => ([], rest)
      match takeDigits rest with
      | ([], _) => none
      | (ds, tail) => some (e :: sign ++ ds, tail)
    else some ([], text)
  | [] => some ([], [])

/-- Read a number and keep its spelling. -/
def readNumber (text : List Char) : Option (String × List Char) := do
  let (sign, text) :=
    match text with
    | '-' :: rest => (['-'], rest)
    | _ => ([], text)
  let (whole, text) ← readWhole text
  let (fraction, text) ← readFraction text
  let (exponent, text) ← readExponent text
  return (String.ofList (sign ++ whole ++ fraction ++ exponent), text)

/-- The value of a hexadecimal digit. -/
def hexValue? (c : Char) : Option Nat :=
  if '0' ≤ c ∧ c ≤ '9' then some (c.toNat - 48)
  else if 'a' ≤ c ∧ c ≤ 'f' then some (c.toNat - 87)
  else if 'A' ≤ c ∧ c ≤ 'F' then some (c.toNat - 55)
  else none

/-- Read four hexadecimal digits. -/
def readUnit (text : List Char) : Option (Nat × List Char) :=
  match text with
  | a :: b :: c :: d :: rest => do
    let a ← hexValue? a
    let b ← hexValue? b
    let c ← hexValue? c
    let d ← hexValue? d
    return (((a * 16 + b) * 16 + c) * 16 + d, rest)
  | _ => none

/-- Read a `\u` escape after its letter. Two escapes of a surrogate pair make one character; a
surrogate that stands alone makes none. -/
def readCodePoint (text : List Char) : Option (Option Char × List Char) := do
  let (unit, rest) ← readUnit text
  if 0xD800 ≤ unit ∧ unit < 0xDC00 then
    match rest with
    | '\\' :: 'u' :: tail =>
      let (low, tail) ← readUnit tail
      if 0xDC00 ≤ low ∧ low < 0xE000 then
        return (some (Char.ofNat (0x10000 + (unit - 0xD800) * 0x400 + (low - 0xDC00))), tail)
      else return (none, rest)
    | _ => return (none, rest)
  else if 0xDC00 ≤ unit ∧ unit < 0xE000 then return (none, rest)
  else return (some (Char.ofNat unit), rest)

/-- The character that a one-letter escape stands for. -/
def shortEscape? (c : Char) : Option Char :=
  match c with
  | '"' => some '"'
  | '\\' => some '\\'
  | '/' => some '/'
  | 'b' => some '\x08'
  | 'f' => some '\x0c'
  | 'n' => some '\n'
  | 'r' => some '\r'
  | 't' => some '\t'
  | _ => none

/-- Read a string after its opening quote. `done` holds the characters so far, the last one first,
unless one of them is no character. -/
def readString : Nat → Option (List Char) → List Char → Option (Option String × List Char)
  | 0, _, _ => none
  | fuel + 1, done, text =>
    match text with
    | [] => none
    | '"' :: rest => some (done.map fun chars => String.ofList chars.reverse, rest)
    | '\\' :: 'u' :: rest =>
      match readCodePoint rest with
      | some (c, rest) => readString fuel (done.bind fun chars => c.map (· :: chars)) rest
      | none => none
    | '\\' :: e :: rest =>
      match shortEscape? e with
      | some c => readString fuel (done.map (c :: ·)) rest
      | none => none
    | c :: rest => if c.toNat < 32 then none else readString fuel (done.map (c :: ·)) rest

/-- Read the given word. -/
def readWord (word : String) (text : List Char) : Option (List Char) :=
  let expected := word.toList
  if text.take expected.length = expected then some (text.drop expected.length) else none

/-- The object with the members that were read. All names have to be texts. -/
def ofMembers (members : List (Option String × Json)) : Json :=
  match members.mapM fun (name, value) => name.map fun name => (name, value) with
  | some members => .object members
  | none => .unusable

mutual

/-- Read a value; blank characters before it have been skipped. -/
def readValue : Nat → List Char → Option (Json × List Char)
  | 0, _ => none
  | fuel + 1, text =>
    match text with
    | 'n' :: _ => (readWord "null" text).map fun rest => (.null, rest)
    | 't' :: _ => (readWord "true" text).map fun rest => (.bool true, rest)
    | 'f' :: _ => (readWord "false" text).map fun rest => (.bool false, rest)
    | '"' :: rest =>
      (readString (rest.length + 1) (some []) rest).map fun (s, rest) =>
        (s.elim .unusable .string, rest)
    | '[' :: rest =>
      let (items, rest) := readItems fuel [] (skipBlank rest)
      rest.map fun rest => (.array items, rest)
    | '\x7b' :: rest =>
      let (members, rest) := readMembers fuel [] (skipBlank rest)
      rest.map fun rest => (ofMembers members, rest)
    | _ => (readNumber text).map fun (s, rest) => (.number s, rest)

/-- Read the items of an array up to its closing bracket. Where the text breaks off being an array,
the items before that are answered and no rest. -/
def readItems : Nat → List Json → List Char → List Json × Option (List Char)
  | 0, done, _ => (done.reverse, none)
  | fuel + 1, done, text =>
    match done, text with
    | [], ']' :: rest => ([], some rest)
    | _, _ =>
      match readValue fuel text with
      | none => (done.reverse, none)
      | some (item, rest) =>
        match skipBlank rest with
        | ',' :: rest => readItems fuel (item :: done) (skipBlank rest)
        | ']' :: rest => ((item :: done).reverse, some rest)
        | _ => ((item :: done).reverse, none)

/-- Read the members of an object up to its closing brace. Where the text breaks off being an
object, the members before that are answered and no rest. -/
def readMembers : Nat → List (Option String × Json) → List Char →
    List (Option String × Json) × Option (List Char)
  | 0, done, _ => (done.reverse, none)
  | fuel + 1, done, text =>
    match done, text with
    | [], '\x7d' :: rest => ([], some rest)
    | _, '"' :: rest =>
      match readString (rest.length + 1) (some []) rest with
      | none => (done.reverse, none)
      | some (name, rest) =>
        match skipBlank rest with
        | ':' :: rest =>
          match readValue fuel (skipBlank rest) with
          | none => (done.reverse, none)
          | some (value, rest) =>
            match skipBlank rest with
            | ',' :: rest => readMembers fuel ((name, value) :: done) (skipBlank rest)
            | '\x7d' :: rest => (((name, value) :: done).reverse, some rest)
            | _ => (((name, value) :: done).reverse, none)
        | _ => (done.reverse, none)
    | _, _ => (done.reverse, none)

end

/-- The value that a whole text denotes, blank characters around it allowed. -/
def ofText? (text : String) : Option Json :=
  let chars := text.toList
  match readValue (chars.length + 1) (skipBlank chars) with
  | some (value, rest) => if skipBlank rest = [] then some value else none
  | none => none

/-- The record that a text denotes, as far as it can be read: the items of an array or the members
of an object before the first fault. The flag tells whether there is no fault. -/
def beforeFault (text : String) : Json × Bool :=
  let isEnd (rest : Option (List Char)) : Bool := rest.any fun rest => (skipBlank rest).isEmpty
  let chars := text.toList
  match skipBlank chars with
  | '[' :: rest =>
    let (items, rest) := readItems chars.length [] (skipBlank rest)
    (.array items, isEnd rest)
  | '\x7b' :: rest =>
    let (members, rest) := readMembers chars.length [] (skipBlank rest)
    let named := members.takeWhile fun member => member.1.isSome
    (ofMembers named, isEnd rest && named.length = members.length)
  | _ => (.null, false)

/-! ## Looking inside -/

/-- The members of an object, in order. -/
def members? : Json → Option (List (String × Json))
  | .object members => some members
  | _ => none

/-- The items of an array. -/
def items? : Json → Option (List Json)
  | .array items => some items
  | _ => none

/-- The text of a string. -/
def text? : Json → Option String
  | .string text => some text
  | _ => none

/-- The truth value of a boolean. -/
def bool? : Json → Option Bool
  | .bool value => some value
  | _ => none

/-- The value of a natural number that is spelled without sign, point and exponent. -/
def nat? : Json → Option Nat
  | .number spelling =>
    let chars := spelling.toList
    if chars.all Char.isDigit then
      some (chars.foldl (fun value c => value * 10 + (c.toNat - 48)) 0)
    else none
  | _ => none

/-- The value of a whole number that is spelled without point and exponent. -/
def int? : Json → Option Int
  | .number spelling =>
    match spelling.toList with
    | '-' :: rest => (nat? (.number (String.ofList rest))).map fun value => -(value : Int)
    | _ => (nat? (.number spelling)).map Int.ofNat
  | _ => none

/-- The first member of an object with the given name; null if there is none. -/
def field (value : Json) (name : String) : Json :=
  match value with
  | .object members => (members.lookup name).getD .null
  | _ => .null

/-- There is no value. -/
def isNull : Json → Bool
  | .null => true
  | _ => false

/-- The text of a member, empty if there is none. -/
def textAt (value : Json) (name : String) : String := ((value.field name).text?).getD ""

/-- The natural number of a member, zero if there is none. -/
def natAt (value : Json) (name : String) : Nat := ((value.field name).nat?).getD 0

/-- The whole number of a member, zero if there is none. -/
def intAt (value : Json) (name : String) : Int := ((value.field name).int?).getD 0

/-- The truth value of a member, false if there is none. -/
def flagAt (value : Json) (name : String) : Bool := ((value.field name).bool?).getD false

/-- The items of a member, none if it is no array. -/
def itemsAt (value : Json) (name : String) : List Json := ((value.field name).items?).getD []

/-! ## Writing -/

/-- The text of a character inside a string. -/
def escapeChar (c : Char) : List Char :=
  match c with
  | '"' => ['\\', '"']
  | '\\' => ['\\', '\\']
  | '\x08' => ['\\', 'b']
  | '\x0c' => ['\\', 'f']
  | '\n' => ['\\', 'n']
  | '\r' => ['\\', 'r']
  | '\t' => ['\\', 't']
  | c =>
    if c.toNat < 32 then
      let digit (n : Nat) : Char := Char.ofNat (if n < 10 then 48 + n else 87 + n)
      ['\\', 'u', '0', '0', digit (c.toNat / 16), digit (c.toNat % 16)]
    else [c]

/-- A string in quotes. -/
def quote (text : String) : String :=
  "\"" ++ String.ofList (text.toList.flatMap escapeChar) ++ "\""

mutual

/-- The text of a value, without spaces. -/
def toText : Json → String
  | .null => "null"
  | .bool true => "true"
  | .bool false => "false"
  | .number spelling => spelling
  | .string text => quote text
  | .array items => "[" ++ ",".intercalate (textsOfItems items) ++ "]"
  | .object members => "\x7b" ++ ",".intercalate (textsOfMembers members) ++ "\x7d"
  | .unusable => "null"

/-- The texts of the items of an array. -/
def textsOfItems : List Json → List String
  | [] => []
  | item :: rest => toText item :: textsOfItems rest

/-- The texts of the members of an object. -/
def textsOfMembers : List (String × Json) → List String
  | [] => []
  | (name, value) :: rest => (quote name ++ ":" ++ toText value) :: textsOfMembers rest

end

/-- A natural number. -/
def nat (value : Nat) : Json := .number (toString value)

/-- A whole number. -/
def int (value : Int) : Json := .number (toString value)

end Json

end OverlayStore
