/-!
# Quoted texts

How a text is written in a TOML document. Plain double quotes are preferred, then single quotes,
in which nothing is escaped, then the triple forms, which may hold line breaks. A text that suits
none of them is written in double quotes with escapes.
-/

namespace OverlayStore.Toml

/-- The longest run of a character in a text. -/
def longestRun (mark : Char) (text : List Char) : Nat :=
  let step (state : Nat × Nat) (c : Char) : Nat × Nat :=
    if c = mark then (state.1 + 1, max state.2 (state.1 + 1)) else (0, state.2)
  (text.foldl step (0, 0)).2

/-- The character can only be written as an escape: a control character apart from the tab and the
line feed. -/
def needsEscape (c : Char) : Bool :=
  (c.toNat < 32 && c ≠ '\t' && c ≠ '\n') || c.toNat = 127

/-- The forms of a quoted text. -/
inductive QuoteForm where
  | basic
  | literal
  | multilineBasic
  | multilineLiteral
  deriving DecidableEq

/-- The form that a text is written in. -/
def quoteForm (text : List Char) : QuoteForm :=
  let escapes := text.any needsEscape
  let backslash := text.contains '\\'
  let lines := text.contains '\n'
  let double := longestRun '"' text
  let single := longestRun '\'' text
  if !escapes && !backslash && double = 0 && !lines then .basic
  else if !escapes && single = 0 && !lines then .literal
  else if !escapes && !backslash && double ≤ 2 then .multilineBasic
  else if !escapes && single ≤ 2 then .multilineLiteral
  else if lines then .multilineBasic
  else .basic

/-- Four upper-case hexadecimal digits. -/
def fourDigits (value : Nat) : List Char :=
  let digits := (Nat.toDigits 16 value).map Char.toUpper
  List.replicate (4 - digits.length) '0' ++ digits

/-- The escape of a character other than a quote, if it needs one. -/
def escape? (multiline : Bool) (c : Char) : Option (List Char) :=
  match c with
  | '\x08' => some ['\\', 'b']
  | '\t' => some ['\\', 't']
  | '\n' => if multiline then none else some ['\\', 'n']
  | '\x0c' => some ['\\', 'f']
  | '\r' => some ['\\', 'r']
  | '\\' => some ['\\', '\\']
  | c => if needsEscape c then some ('\\' :: 'u' :: fourDigits c.toNat) else none

/-- The body of a text in double quotes. In the triple form up to two quotes in a row stand for
themselves; `run` counts those just written. -/
def basicBody (multiline : Bool) (run : Nat) : List Char → List Char
  | [] => []
  | '"' :: rest =>
    if run + 1 > (if multiline then 2 else 0) then '\\' :: '"' :: basicBody multiline 0 rest
    else '"' :: basicBody multiline (run + 1) rest
  | c :: rest => (escape? multiline c).getD [c] ++ basicBody multiline 0 rest

/-- A text as it is written in a document. -/
def quote (text : String) : String :=
  let chars := text.toList
  let lineBreak : List Char := if chars.contains '\n' then ['\n'] else []
  String.ofList <|
    match quoteForm chars with
    | .basic => ['"'] ++ basicBody false 0 chars ++ ['"']
    | .literal => ['\''] ++ chars ++ ['\'']
    | .multilineBasic =>
      ['"', '"', '"'] ++ lineBreak ++ basicBody true 0 chars ++ ['"', '"', '"']
    | .multilineLiteral => ['\'', '\'', '\''] ++ lineBreak ++ chars ++ ['\'', '\'', '\'']

end OverlayStore.Toml
