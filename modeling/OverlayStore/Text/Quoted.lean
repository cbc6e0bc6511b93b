/-!
# Quoted characters

How a single character is shown in an error text: between single quotes, with the usual short
escapes, and with its code point in braces where it has no visible form. The characters that can
occur are those of one byte, so the invisible ones are the control characters, the no-break space
and the soft hyphen.
-/

namespace OverlayStore.Text

/-- The lower-case hexadecimal digits of a number, without leading zeros. -/
def hexDigits (value : Nat) : String :=
  String.ofList (Nat.toDigits 16 value)

/-- A one-byte character without a visible form of its own. -/
def isInvisible (code : Nat) : Bool :=
  code < 32 || (127 ≤ code && code ≤ 160) || code = 173

/-- The character of a byte, as error texts quote it. -/
def quotedByte (byte : UInt8) : String :=
  let body :=
    match byte.toNat with
    | 0 => "\\0"
    | 9 => "\\t"
    | 10 => "\\n"
    | 13 => "\\r"
    | 39 => "\\'"
    | 92 => "\\\\"
    | code =>
      if isInvisible code then "\\u\x7b" ++ hexDigits code ++ "\x7d"
      else String.singleton (Char.ofNat code)
  "'" ++ body ++ "'"

end OverlayStore.Text
