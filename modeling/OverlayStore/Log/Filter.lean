import OverlayStore.Log.Pattern
import OverlayStore.Number.Text

/-!
# Log filters

A filter is a list of directives separated by commas. A directive is a level, a target, or a target
and a level joined by an equals sign; a span in brackets, with a field in braces, may follow the
target. The module tells which texts are filters; what a filter lets through is no matter here.

The characters of a directive are taken without the blanks around it, but its parts are then cut out
of the whole directive at the places counted without them. So blanks in front move every part to the
left, blanks at the end belong to the last part, and a cut may even fall inside a character.
-/

namespace OverlayStore.Log.Filter

/-- Why a text is no filter. -/
inductive Fault where
  /-- A directive is malformed. -/
  | malformed
  /-- A part of a directive begins or ends inside a character. -/
  | splitCharacter
  deriving DecidableEq, Repr

/-! ## Parts -/

/-- The names of the levels that a directive may set, which may be switched off altogether. -/
def levelNames : List String := ["error", "warn", "info", "debug", "trace", "off"]

/-- The text is a level in a directive: a name in any mixture of cases, a number up to five, or
nothing. -/
def isLevel (text : List Char) : Bool :=
  match Number.wholeOfText (String.ofList text) with
  | .ok number => number ≤ 5
  | .error _ => text.isEmpty || levelNames.contains (String.ofList (text.map Char.toLower))

/-- The text can stand for the value of a field: a number or a pattern. -/
def isFieldValue (text : List Char) : Bool :=
  (Number.singleOfText (String.ofList text)).toOption.isSome || isPattern text

/-- The text is a field: a name, perhaps with an equals sign and a value. What follows a second
equals sign is ignored. -/
def isField (text : List Char) : Bool :=
  !text.isEmpty &&
    match Text.splitAt '=' text with
    | _ :: value :: _ => isFieldValue value
    | _ => true

/-- Split a text after a number of bytes. -/
def splitAtByte? : Nat → List Char → Option (List Char × List Char)
  | 0, text => some ([], text)
  | _ + 1, [] => none
  | bytes + 1, c :: rest =>
    if c.utf8Size ≤ bytes + 1 then
      (splitAtByte? (bytes + 1 - c.utf8Size) rest).map fun (left, right) => (c :: left, right)
    else none

/-- The part of a text from one byte to another, or to the end. -/
def part (text : List Char) (start : Nat) (stop : Option Nat) : Except Fault (List Char) :=
  let found := do
    let (_, right) ← splitAtByte? start text
    match stop with
    | none => return right
    | some stop => return (← splitAtByte? (stop - start) right).1
  found.elim (.error .splitCharacter) .ok

/-! ## Directives -/

/-- Where the reader of a directive stands. Where the current part matters, it is known at which
byte the part begins. -/
inductive Place where
  | start
  | levelOrTarget
  | span (start : Nat)
  | field (start : Nat)
  | afterFields
  | afterSpan
  | level (start : Nat)
  deriving DecidableEq

/-- Take one character, which has the given place among the bytes without the blanks in front, of a
directive. -/
def step (directive : List Char) (offset : Nat) (c : Char) : Place → Except Fault Place
  | .start =>
    if c = '[' then .ok (.span (offset + 1))
    else if c = '-' ∨ c = ':' ∨ c = '_' ∨ Text.isAlphanumeric c then .ok .levelOrTarget
    else .error .malformed
  | .levelOrTarget =>
    if c = '=' then (part directive 0 (some offset)).map fun _ => .level (offset + 1)
    else if c = '[' then (part directive 0 (some offset)).map fun _ => .span (offset + 1)
    else .ok .levelOrTarget
  | .span start =>
    if c = ']' then (part directive start (some offset)).map fun _ => .afterSpan
    else if c = '\x7b' then (part directive start (some offset)).map fun _ => .field (offset + 1)
    else .ok (.span start)
  | .field start =>
    if c = '\x7d' then do
      let text ← part directive start (some offset)
      if isField text then return .afterFields else .error .malformed
    else .ok (.field start)
  | .afterFields => if c = ']' then .ok .afterSpan else .error .malformed
  | .afterSpan => if c = '=' then .ok (.level (offset + 1)) else .error .malformed
  | .level start => .ok (.level start)

/-- Finish at the end of a directive. -/
def finish (directive : List Char) : Place → Except Fault Unit
  | .levelOrTarget => .ok ()
  | .afterSpan => .ok ()
  | .level start => do
    let text ← part directive start none
    if isLevel text then return () else .error .malformed
  | _ => .error .malformed

/-- Read the rest of a directive from the given byte on. -/
def readFrom (directive : List Char) (offset : Nat) (place : Place) :
    List Char → Except Fault Unit
  | [] => finish directive place
  | c :: rest => do
    readFrom directive (offset + c.utf8Size) (← step directive offset c place) rest

/-- Read a directive. -/
def readDirective (directive : List Char) : Except Fault Unit :=
  readFrom directive 0 .start (Text.trimBlank directive)

/-- Read a filter: each of its nonempty pieces between commas is a directive. -/
def read (text : String) : Except Fault Unit :=
  ((Text.splitAt ',' text.toList).filter (!·.isEmpty)).forM readDirective

end OverlayStore.Log.Filter
