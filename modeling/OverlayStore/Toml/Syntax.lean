import OverlayStore.Datum

/-!
# Reading TOML values

The lexical level of documents: blanks and comments, keys, texts in their four forms, numbers,
dates and times, lists and inline tables. The readers take characters from the front of a text, or
fail. Dates and times are checked and then kept under a name that no setting has.
-/

namespace OverlayStore.Toml

/-- A reader takes characters from the front of a text, or fails. -/
abbrev Reader (α : Type) := List Char → Option (α × List Char)

/-- The greatest depth of lists and inline tables inside each other, and of names in one key. -/
def depthLimit : Nat := 80

/-! ## Blanks -/

/-- Skip spaces and tabs. -/
def skipSpaces (text : List Char) : List Char :=
  text.dropWhile fun c => c = ' ' || c = '\t'

/-- Read a line break. -/
def readBreak : List Char → Option (List Char)
  | '\n' :: rest => some rest
  | '\r' :: '\n' :: rest => some rest
  | _ => none

/-- The character may occur in a comment and, quotes and backslashes apart, in a text. -/
def isPrintable (c : Char) : Bool :=
  c = '\t' || (32 ≤ c.toNat && c.toNat ≠ 127)

/-- Skip an optional comment, up to the line break. -/
def skipComment : List Char → List Char
  | '#' :: rest => rest.dropWhile isPrintable
  | text => text

/-- Skip spaces, comments and line breaks. -/
def skipLines : Nat → List Char → List Char
  | 0, text => text
  | fuel + 1, text =>
    let text := skipSpaces text
    match readBreak text with
    | some rest => skipLines fuel rest
    | none =>
      match text with
      | '#' :: _ =>
        match readBreak (skipComment text) with
        | some rest => skipLines fuel rest
        | none => text
      | _ => text

/-- Skip everything blank between the items of a list. -/
def skipBetween (text : List Char) : List Char :=
  skipLines text.length text

/-- Read the end of a line: spaces, an optional comment, and a line break or the end of the text. -/
def readLineEnd (text : List Char) : Option (List Char) :=
  match skipComment (skipSpaces text) with
  | [] => some []
  | rest => readBreak rest

/-! ## Texts -/

/-- The value of a hexadecimal digit. -/
def hexValue? (c : Char) : Option Nat :=
  if '0' ≤ c ∧ c ≤ '9' then some (c.toNat - 48)
  else if 'a' ≤ c ∧ c ≤ 'f' then some (c.toNat - 87)
  else if 'A' ≤ c ∧ c ≤ 'F' then some (c.toNat - 55)
  else none

/-- Read a code point of the given number of hexadecimal digits. -/
def readCodePoint (width : Nat) : Reader Char := fun text => do
  let digits ← (text.take width).mapM hexValue?
  if digits.length ≠ width then none
  else
    let code := digits.foldl (fun value d => value * 16 + d) 0
    if code < 0xD800 ∨ (0xDFFF < code ∧ code < 0x110000) then
      some (Char.ofNat code, text.drop width)
    else none

/-- Read an escape after its backslash. -/
def readEscape : Reader Char
  | 'b' :: rest => some ('\x08', rest)
  | 't' :: rest => some ('\t', rest)
  | 'n' :: rest => some ('\n', rest)
  | 'f' :: rest => some ('\x0c', rest)
  | 'r' :: rest => some ('\r', rest)
  | '"' :: rest => some ('"', rest)
  | '\\' :: rest => some ('\\', rest)
  | 'u' :: rest => readCodePoint 4 rest
  | 'U' :: rest => readCodePoint 8 rest
  | _ => none

/-- Read the rest of a text in double quotes. -/
def readBasic : Nat → List Char → Reader String
  | 0, _, _ => none
  | fuel + 1, done, text =>
    match text with
    | '"' :: rest => some (String.ofList done.reverse, rest)
    | '\\' :: rest =>
      match readEscape rest with
      | some (c, rest) => readBasic fuel (c :: done) rest
      | none => none
    | c :: rest => if isPrintable c then readBasic fuel (c :: done) rest else none
    | [] => none

/-- Read the rest of a text in single quotes. -/
def readLiteral : List Char → Reader String
  | done, '\'' :: rest => some (String.ofList done.reverse, rest)
  | done, c :: rest => if isPrintable c then readLiteral (c :: done) rest else none
  | _, [] => none

/-- Skip spaces and line breaks. -/
def skipFolded : Nat → List Char → List Char
  | 0, text => text
  | fuel + 1, text =>
    let text := skipSpaces text
    match readBreak text with
    | some rest => skipFolded fuel rest
    | none => text

/-- Read the run of quotes that starts here: it closes the text if it has three or more, and at most
two more of them belong to the text. Otherwise all of it belongs to the text. -/
def readQuotes (mark : Char) (text : List Char) : Bool × List Char × List Char :=
  let run := (text.takeWhile (· = mark)).length
  if run ≥ 3 then
    let own := min (run - 3) 2
    (true, List.replicate own mark, text.drop (own + 3))
  else (false, List.replicate run mark, text.drop run)

/-- Read the rest of a text in three double quotes. -/
def readMultilineBasic : Nat → List Char → Reader String
  | 0, _, _ => none
  | fuel + 1, done, text =>
    match text with
    | '"' :: _ =>
      match readQuotes '"' text with
      | (true, own, rest) => some (String.ofList (own ++ done).reverse, rest)
      | (false, own, rest) => readMultilineBasic fuel (own ++ done) rest
    | '\\' :: rest =>
      match readBreak (skipSpaces rest) with
      | some rest => readMultilineBasic fuel done (skipFolded rest.length rest)
      | none =>
        match readEscape rest with
        | some (c, rest) => readMultilineBasic fuel (c :: done) rest
        | none => none
    | c :: rest =>
      match readBreak text with
      | some rest => readMultilineBasic fuel ('\n' :: done) rest
      | none => if isPrintable c then readMultilineBasic fuel (c :: done) rest else none
    | [] => none

/-- Read the rest of a text in three single quotes. -/
def readMultilineLiteral : Nat → List Char → Reader String
  | 0, _, _ => none
  | fuel + 1, done, text =>
    match text with
    | '\'' :: _ =>
      match readQuotes '\'' text with
      | (true, own, rest) => some (String.ofList (own ++ done).reverse, rest)
      | (false, own, rest) => readMultilineLiteral fuel (own ++ done) rest
    | c :: rest =>
      match readBreak text with
      | some rest => readMultilineLiteral fuel ('\n' :: done) rest
      | none => if isPrintable c then readMultilineLiteral fuel (c :: done) rest else none
    | [] => none

/-- Leave out a line break right after the opening quotes. -/
def dropBreak (text : List Char) : List Char :=
  (readBreak text).getD text

/-- Read a text in one of its four forms. -/
def readText : Reader String
  | '"' :: '"' :: '"' :: rest => readMultilineBasic (rest.length + 1) [] (dropBreak rest)
  | '"' :: rest => readBasic (rest.length + 1) [] rest
  | '\'' :: '\'' :: '\'' :: rest => readMultilineLiteral (rest.length + 1) [] (dropBreak rest)
  | '\'' :: rest => readLiteral [] rest
  | _ => none

/-! ## Keys -/

/-- The character may occur in a bare key. -/
def isBareKey (c : Char) : Bool :=
  ('a' ≤ c && c ≤ 'z') || ('A' ≤ c && c ≤ 'Z') || c.isDigit || c = '_' || c = '-'

/-- Read one name of a key: quoted, on one line, or bare. -/
def readName : Reader String := fun text =>
  match text with
  | '"' :: rest => readBasic (rest.length + 1) [] rest
  | '\'' :: rest => readLiteral [] rest
  | _ =>
    let name := text.takeWhile isBareKey
    if name.isEmpty then none else some (String.ofList name, text.dropWhile isBareKey)

/-- Read names separated by points, spaces around each allowed. -/
def readNames : Nat → Reader (List String)
  | 0, _ => none
  | fuel + 1, text => do
    let (name, rest) ← readName (skipSpaces text)
    match skipSpaces rest with
    | '.' :: rest =>
      let (names, rest) ← readNames fuel rest
      return (name :: names, rest)
    | rest => return ([name], rest)

/-- Read a key of fewer names than the limit. -/
def readKey : Reader (List String) := fun text =>
  (readNames (depthLimit - 1) text)

/-! ## Numbers -/

/-- Read digits, the first one required, with single underscores between them. The underscores are
left out. -/
def readDigits (isDigit : Char → Bool) : Reader (List Char)
  | [] => none
  | [c] => if isDigit c then some ([c], []) else none
  | c :: d :: rest =>
    if !isDigit c then none
    else if d = '_' then (readDigits isDigit rest).map fun (ds, tail) => (c :: ds, tail)
    else if isDigit d then
      (readDigits isDigit (d :: rest)).map fun (ds, tail) => (c :: ds, tail)
    else some ([c], d :: rest)

/-- Read a whole number in a base that is marked by a letter after a zero. -/
def readMarked (base : Nat) : Reader Datum := fun text => do
  let isDigit (c : Char) : Bool := (hexValue? c).any (· < base)
  let (digits, rest) ← readDigits isDigit text
  let value := digits.foldl (fun value c => value * base + (hexValue? c).getD 0) 0
  if value < Nat.pow 2 63 then some (.whole value, rest) else none

/-- The whole part of a decimal number has no idle zero in front. -/
def isPlainWhole : List Char → Bool
  | '0' :: _ :: _ => false
  | _ => true

/-- Read an optional fraction: a point and digits. -/
def readFraction : Reader (List Char)
  | '.' :: rest => (readDigits Char.isDigit rest).map fun (ds, rest) => ('.' :: ds, rest)
  | text => some ([], text)

/-- Read an optional exponent. -/
def readExponent : Reader (List Char)
  | e :: rest =>
    if e = 'e' ∨ e = 'E' then
      let (sign, rest) :=
        match rest with
        | '+' :: tail => (['+'], tail)
        | '-' :: tail => (['-'], tail)
        | _ => ([], rest)
      (readDigits Char.isDigit rest).map fun (ds, rest) => ('e' :: sign ++ ds, rest)
    else some ([], e :: rest)
  | [] => some ([], [])

/-- The real number of a numeral in parts. Positive numbers that are too large are refused. -/
def realOf (negative : Bool) (numeral : List Char) : Option Datum :=
  match (Number.Decimal.ofChars? numeral).map (Number.Decimal.round Number.double) with
  | some .infinite => if negative then some (.real (Number.doubleOf true .infinite)) else none
  | some magnitude => some (.real (Number.doubleOf negative magnitude))
  | none => none

/-- Read a number after its sign. -/
def readUnsigned (negative : Bool) : Reader Datum := fun text =>
  match text with
  | 'i' :: 'n' :: 'f' :: rest => some (.real (Number.doubleOf negative .infinite), rest)
  | 'n' :: 'a' :: 'n' :: rest =>
    some (.real (Float.ofBits (if negative then 0xFFF8000000000000 else 0x7FF8000000000000)), rest)
  | _ => do
    let (whole, rest) ← readDigits Char.isDigit text
    if !isPlainWhole whole then none
    else
      let (fraction, rest) ← readFraction rest
      let (exponent, rest) ← readExponent rest
      if fraction.isEmpty && exponent.isEmpty then
        let value : Int := Number.digitsValue whole
        let value := if negative then -value else value
        if -(Nat.pow 2 63 : Int) ≤ value ∧ value < Nat.pow 2 63 then some (.whole value, rest)
        else none
      else (realOf negative (whole ++ fraction ++ exponent)).map fun datum => (datum, rest)

/-- Read a number. -/
def readNumber : Reader Datum
  | '0' :: 'x' :: rest => readMarked 16 rest
  | '0' :: 'o' :: rest => readMarked 8 rest
  | '0' :: 'b' :: rest => readMarked 2 rest
  | '+' :: rest => readUnsigned false rest
  | '-' :: rest => readUnsigned true rest
  | text => readUnsigned false text

/-! ## Dates and times -/

/-- Read exactly this many digits as a number. -/
def readFixed (width : Nat) : Reader Nat := fun text =>
  let digits := text.take width
  if digits.length = width && digits.all Char.isDigit then
    some (Number.digitsValue digits, text.drop width)
  else none

/-- Read a number of two digits between bounds. -/
def readTwo (low high : Nat) : Reader Nat := fun text => do
  let (value, rest) ← readFixed 2 text
  if low ≤ value ∧ value ≤ high then some (value, rest) else none

/-- Read exactly this character. -/
def readMark (mark : Char) : List Char → Option (List Char)
  | c :: rest => if c = mark then some rest else none
  | [] => none

/-- The number of days of a month. -/
def daysOfMonth (year month : Nat) : Nat :=
  if month = 2 then
    if year % 4 = 0 ∧ (year % 100 ≠ 0 ∨ year % 400 = 0) then 29 else 28
  else if month = 4 ∨ month = 6 ∨ month = 9 ∨ month = 11 then 30
  else 31

/-- Skip a date. -/
def skipDate (text : List Char) : Option (List Char) := do
  let (year, text) ← readFixed 4 text
  let text ← readMark '-' text
  let (month, text) ← readTwo 1 12 text
  let text ← readMark '-' text
  let (_, text) ← readTwo 1 (daysOfMonth year month) text
  return text

/-- Skip a time of day. -/
def skipTime (text : List Char) : Option (List Char) := do
  let (_, text) ← readTwo 0 23 text
  let text ← readMark ':' text
  let (_, text) ← readTwo 0 59 text
  let text ← readMark ':' text
  let (_, text) ← readTwo 0 60 text
  match text with
  | '.' :: rest =>
    if (rest.takeWhile Char.isDigit).isEmpty then none else some (rest.dropWhile Char.isDigit)
  | _ => some text

/-- Skip an optional offset from universal time. -/
def skipOffset (text : List Char) : Option (List Char) :=
  match text with
  | 'Z' :: rest => some rest
  | 'z' :: rest => some rest
  | sign :: rest =>
    if sign = '+' ∨ sign = '-' then do
      let (_, rest) ← readTwo 0 23 rest
      let rest ← readMark ':' rest
      let (_, rest) ← readTwo 0 59 rest
      return rest
    else some text
  | [] => some []

/-- The text begins with a date: four digits and a dash. -/
def startsDate (text : List Char) : Bool :=
  match readFixed 4 text with
  | some (_, '-' :: _) => true
  | _ => false

/-- The text begins with a time of day: two digits and a colon. -/
def startsTime (text : List Char) : Bool :=
  match readFixed 2 text with
  | some (_, ':' :: _) => true
  | _ => false

/-- Skip a date with an optional time of day and offset. -/
def skipMoment (text : List Char) : Option (List Char) := do
  let text ← skipDate text
  match text with
  | mark :: rest =>
    if (mark = 'T' ∨ mark = 't' ∨ mark = ' ') ∧ startsTime rest then do
      let rest ← skipTime rest
      skipOffset rest
    else some text
  | [] => some []

/-- The value that stands for a date or a time. -/
def moment : Datum :=
  .table false [("$moment", .text "")]

/-! ## Values -/

/-- Read `true` or `false`. -/
def readFlag : Reader Datum
  | 't' :: 'r' :: 'u' :: 'e' :: rest => some (.flag true, rest)
  | 'f' :: 'a' :: 'l' :: 's' :: 'e' :: rest => some (.flag false, rest)
  | _ => none

/-- Read a value that is neither a list nor a table. -/
def readScalar : Reader Datum := fun text =>
  match text with
  | '"' :: _ => (readText text).map fun (value, rest) => (.text value, rest)
  | '\'' :: _ => (readText text).map fun (value, rest) => (.text value, rest)
  | 't' :: _ => readFlag text
  | 'f' :: _ => readFlag text
  | _ =>
    if startsDate text then (skipMoment text).map fun rest => (moment, rest)
    else if startsTime text then (skipTime text).map fun rest => (moment, rest)
    else readNumber text

end OverlayStore.Toml
