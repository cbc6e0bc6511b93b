import OverlayStore.Text.Alphanumeric
import OverlayStore.Text.Blank

/-!
# Patterns

The regular expressions that a log filter may ask the value of a field to match. The module tells
which texts are patterns; what a pattern matches is no matter here.

Nothing is known of the properties of characters beyond ASCII. So classes such as digits, word
boundaries and matching without regard to case are refused, unless the flag `u` is switched off.
With that flag off a pattern speaks of bytes, and what could match half of a character is refused.
A count in braces cannot occur, since a field of a filter ends at the first closing brace.
-/

namespace OverlayStore.Log

/-- A reader's place in a pattern. -/
structure Pattern.Cursor where
  /-- What is still to be read. -/
  rest : List Char
  /-- The flag `i`: matching goes without regard to case. -/
  caseless : Bool := false
  /-- The flag `u`: the pattern speaks of characters and not of bytes. -/
  unicode : Bool := true
  /-- The flag `x`: blanks and comments between the parts are skipped. -/
  verbose : Bool := false
  /-- The names of the groups so far. -/
  names : List (List Char) := []

namespace Pattern

/-- A step of reading, which fails where the text is no pattern. -/
abbrev Reader (α : Type) := StateT Cursor Option α

/-! ## Characters -/

/-- Demand a condition. -/
def demand (condition : Bool) : Reader Unit := if condition then pure () else failure

/-- The next character, which stays. -/
def peek? : Reader (Option Char) := return (← get).rest.head?

/-- Take the next character. -/
def next : Reader Char := do
  match (← get).rest with
  | c :: rest => do
    modify fun cursor => { cursor with rest }
    return c
  | [] => failure

/-- Take the given characters if they are next. -/
def takeIf (expected : List Char) : Reader Bool := do
  let rest := (← get).rest
  if expected.isPrefixOf rest then
    modify fun cursor => { cursor with rest := rest.drop expected.length }
    return true
  else return false

/-- Take the first of some texts that is next, if one is. -/
def takeOneOf : List (List Char) → Reader Bool
  | [] => pure false
  | expected :: others => do
    if ← takeIf expected then return true else takeOneOf others

/-- Skip blanks, and comments from a number sign to the end of the line. -/
def dropBlank : Bool → List Char → List Char
  | _, [] => []
  | true, c :: rest => dropBlank (c != '\n') rest
  | false, c :: rest =>
    if Text.isBlank c then dropBlank false rest
    else if c = '#' then dropBlank true rest
    else c :: rest

/-- Skip blanks and comments where they are skipped. -/
def skipBlank : Reader Unit :=
  modify fun cursor =>
    if cursor.verbose then { cursor with rest := dropBlank false cursor.rest } else cursor

/-- The character after the next one, blanks left out where they are skipped. A comment is looked
into. -/
def peekSecond? : Reader (Option Char) := do
  let cursor ← get
  let tail := cursor.rest.drop 1
  if !cursor.verbose then return tail.head?
  else
    match tail.dropWhile Text.isBlank with
    | '#' :: comment => return (comment.dropWhile Text.isBlank).head?
    | rest => return rest.head?

/-! ## Escapes -/

/-- What one element of a pattern stands for. -/
inductive Element where
  /-- A character; whether it is written as the value of one byte. -/
  | char (c : Char) (isByte : Bool)
  /-- A class of digits, blanks or word characters, or the rest of the characters. -/
  | shorthand (negated : Bool)
  /-- The beginning or the end of a line or of the text. -/
  | anchor
  /-- The boundary of a word. -/
  | boundary

/-- The value of a hexadecimal digit. -/
def hexValue? (c : Char) : Option Nat :=
  if c.isDigit then some (c.toNat - 48)
  else if 'a' ≤ c ∧ c ≤ 'f' then some (c.toNat - 87)
  else if 'A' ≤ c ∧ c ≤ 'F' then some (c.toNat - 55)
  else none

/-- Read a number of hexadecimal digits. -/
def readHex : Nat → Nat → Reader Nat
  | 0, value => do
    skipBlank
    return value
  | count + 1, value => do
    skipBlank
    match hexValue? (← next) with
    | some digit => readHex count (value * 16 + digit)
    | none => failure

/-- Read a character given by a number of hexadecimal digits. -/
def readCode (count : Nat) : Reader Element := do
  let code ← readHex count 0
  demand (code < 0xD800 || (0xE000 ≤ code && code < 0x110000))
  return .char (Char.ofNat code) (count = 2)

/-- Read an escape after its backslash. -/
def readEscape : Reader Element := do
  let c ← next
  match c with
  | 'x' => readCode 2
  | 'u' => readCode 4
  | 'U' => readCode 8
  | 'd' | 's' | 'w' => return .shorthand false
  | 'D' | 'S' | 'W' => return .shorthand true
  | 'A' | 'z' => return .anchor
  | 'b' | 'B' | '<' | '>' => return .boundary
  | 'a' => return .char '\x07' false
  | 'f' => return .char '\x0c' false
  | 't' => return .char '\t' false
  | 'n' => return .char '\n' false
  | 'r' => return .char '\r' false
  | 'v' => return .char '\x0b' false
  | _ => do
    demand (c.toNat < 128 && !c.isAlphanum)
    return .char c false

/-- The element may be used outside a set. -/
def demandUsable (element : Element) : Reader Unit := do
  let cursor ← get
  demand <| match element with
    | .char c isByte => if cursor.unicode then !cursor.caseless else !isByte || c.toNat < 128
    | .shorthand negated => !cursor.unicode && !negated
    | .anchor => true
    | .boundary => !cursor.unicode

/-! ## Sets -/

/-- The depth of a part that is made of parts of the given depths. -/
def nested (depths : List Nat) : Nat := depths.foldl max 0 + 1

/-- The depth of parts that follow each other: a single one counts as itself. -/
def sequence : List Nat → Nat
  | [] => 0
  | [depth] => depth
  | depths => nested depths

/-- The names of the classes of ASCII characters. -/
def classNames : List String := ["alnum", "alpha", "ascii", "blank", "cntrl", "digit", "graph",
  "lower", "print", "punct", "space", "upper", "word", "xdigit"]

/-- Take a named class with its brackets and colons, if there is one. -/
def takeNamedClass : Reader Bool := do
  let start ← get
  if ← takeIf ['[', ':'] then
    let negated ← takeIf ['^']
    let rest := (← get).rest
    let name := rest.takeWhile (· != ':')
    modify fun cursor => { cursor with rest := rest.drop name.length }
    if (← takeIf [':', ']']) && classNames.contains (String.ofList name) then
      demand (if start.unicode then !start.caseless else !negated)
      return true
    else
      set start
      return false
  else return false

/-- The character may stand in a set. -/
def demandMember (c : Char) : Reader Unit := do
  let cursor ← get
  demand (if cursor.unicode then !cursor.caseless else c.toNat < 128)

/-- Read an element of a set. -/
def readMember : Reader Element := do
  let c ← next
  if c = '\\' then readEscape else return .char c false

/-- Read an element of a set or a range of characters. -/
def readRange : Reader Unit := do
  let first ← readMember
  skipBlank
  let beside ← peekSecond?
  if (← peek?) = some '-' && beside != some ']' && beside != some '-' then
    let _ ← next
    skipBlank
    match first, ← readMember with
    | .char low _, .char high _ => do
      demandMember low
      demandMember high
      demand (low ≤ high)
    | _, _ => failure
  else
    match first with
    | .char c _ => demandMember c
    | .shorthand _ => demandUsable first
    | _ => failure

/-- Read hyphens at the beginning of a set, which stand for themselves, and answer their number. -/
def readHyphens : List Char → Nat → Reader Nat
  | [], count => pure count
  | _ :: bound, count => do
    if ← takeIf ['-'] then
      demandMember '-'
      skipBlank
      readHyphens bound (count + 1)
    else return count

/-- Read the beginning of a set after its bracket, and answer the depths of the elements there. A
closing bracket that comes first stands for itself. -/
def openSet : Reader (List Nat) := do
  skipBlank
  if ← takeIf ['^'] then
    demand (← get).unicode
    skipBlank
  let hyphens ← readHyphens (← get).rest 0
  if hyphens > 0 then return List.replicate hyphens 0
  else if ← takeIf [']'] then
    demandMember ']'
    skipBlank
    return [0]
  else return []

/-- Join the depth of an operand to that of what stands before it in the set. -/
def combine : Option Nat → Nat → Nat
  | none, depth => depth
  | some before, depth => nested [before, depth]

/-- The operators between sets. -/
def operators : List (List Char) := [['&', '&'], ['-', '-'], ['~', '~']]

/-- Read a set up to its closing bracket, and answer its depth. The operands before the last
operator have the depth `before`, the elements since then have the depths `elements`. -/
def readSet : Nat → Option Nat → List Nat → Reader Nat
  | 0, _, _ => failure
  | fuel + 1, before, elements => do
    skipBlank
    if ← takeNamedClass then readSet fuel before (0 :: elements)
    else if ← takeIf ['['] then
      let inner ← readSet fuel none (← openSet)
      readSet fuel before (inner :: elements)
    else if ← takeIf [']'] then return combine before (sequence elements) + 1
    else if ← takeOneOf operators then readSet fuel (combine before (sequence elements)) []
    else
      readRange
      readSet fuel before (0 :: elements)

/-! ## Groups -/

/-- Read the flags of a group up to the mark that ends them, and answer all of them with whether
they are switched on, and the mark. No flag and no minus sign is given twice, and a flag follows the
minus sign. -/
def readFlags : List Char → List (Char × Bool) → Option Bool → Reader (List (Char × Bool) × Char)
  | [], _, _ => failure
  | _ :: bound, flags, minus => do
    let c ← next
    if c = ':' ∨ c = ')' then
      demand (minus != some true)
      return (flags, c)
    else if c = '-' then
      demand minus.isNone
      readFlags bound flags (some true)
    else
      demand (['i', 'm', 's', 'U', 'u', 'R', 'x'].contains c && (flags.lookup c).isNone)
      readFlags bound ((c, minus.isNone) :: flags) (minus.map fun _ => false)

/-- Switch flags on and off. -/
def applyFlags (flags : List (Char × Bool)) : Reader Unit :=
  modify fun cursor => { cursor with
    caseless := (flags.lookup 'i').getD cursor.caseless
    unicode := (flags.lookup 'u').getD cursor.unicode
    verbose := (flags.lookup 'x').getD cursor.verbose }

/-- Read the name of a group up to its closing angle bracket. No two groups have the same name. -/
def readName : Reader Unit := do
  let rest := (← get).rest
  let name := rest.takeWhile (· != '>')
  match name with
  | [] => failure
  | first :: others => do
    demand (first = '_' || Text.isAlphabetic first)
    demand (others.all fun c => ['_', '.', '[', ']'].contains c || Text.isAlphanumeric c)
    demand (!(← get).names.contains name)
    modify fun cursor =>
      { cursor with rest := rest.drop name.length, names := name :: cursor.names }
    demand (← takeIf ['>'])

/-- Read the beginning of a group after its parenthesis. The answer tells whether this is all of it,
so that it only switches flags for what follows. -/
def openGroup : Reader Bool := do
  skipBlank
  if ← takeOneOf [['?', 'P', '<'], ['?', '<']] then
    readName
    return false
  else if ← takeIf ['?'] then
    let (flags, mark) ← readFlags (← get).rest [] none
    applyFlags flags
    demand (mark = ':' || !flags.isEmpty)
    return mark = ')'
  else return false

/-! ## Patterns -/

/-- The depth of branches that stand for a choice: a single one counts as itself. -/
def choice : List Nat → Nat → Nat
  | [], depth => depth
  | branches, depth => nested (depth :: branches)

/-- Read a pattern up to the end of its group, and answer its depth. The branches before the last
bar have the depths `branches`; the items since then have the depths `items`, the last one first,
where `none` is a switch of flags, which cannot be repeated. -/
def readBranches : Nat → List Nat → List (Option Nat) → Reader Nat
  | 0, _, _ => failure
  | fuel + 1, branches, items => do
    skipBlank
    let depth := sequence (items.map (·.getD 0))
    match ← peek? with
    | none | some ')' => return choice branches depth
    | some '|' => do
      let _ ← next
      readBranches fuel (depth :: branches) []
    | some '(' => do
      let _ ← next
      let outside ← get
      if ← openGroup then readBranches fuel branches (none :: items)
      else
        let inner ← readBranches fuel [] []
        demand (← takeIf [')'])
        modify fun cursor => { outside with rest := cursor.rest, names := cursor.names }
        readBranches fuel branches (some (inner + 1) :: items)
    | some '[' => do
      let _ ← next
      let depth ← readSet fuel none (← openSet)
      readBranches fuel branches (some depth :: items)
    | some '?' | some '*' | some '+' => do
      let _ ← next
      match items with
      | some depth :: others => do
        let _ ← takeIf ['?']
        readBranches fuel branches (some (depth + 1) :: others)
      | _ => failure
    | some '\x7b' => failure
    | some '.' => do
      let _ ← next
      demand (← get).unicode
      readBranches fuel branches (some 0 :: items)
    | some c => do
      let _ ← next
      demandUsable (← if c = '\\' then readEscape
        else if c = '^' ∨ c = '$' then pure .anchor
        else pure (.char c false))
      readBranches fuel branches (some 0 :: items)

/-- How deep the parts of a pattern may be nested. -/
def depthLimit : Nat := 250

end Pattern

/-- The text is a pattern. -/
def isPattern (text : List Char) : Bool :=
  match (Pattern.readBranches (text.length + 1) [] []).run { rest := text } with
  | some (depth, cursor) => cursor.rest.isEmpty && depth ≤ Pattern.depthLimit
  | none => false

end OverlayStore.Log
