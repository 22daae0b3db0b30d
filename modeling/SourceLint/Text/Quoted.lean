import SourceLint.Text.Class
import SourceLint.Text.Unprintable

/-! A text between quotes with everything escaped that has no printed form. -/

namespace SourceLint.Text

/-- Whether a character has a printed form. -/
def isPrintable (c : Char) : Bool :=
  if c.toNat < 0x80 then 0x20 ≤ c.toNat && c.toNat < 0x7f
  else !inRanges unprintableRanges c.toNat

/-- A number in hexadecimal with the given number of digits, in lower case. -/
def hexDigits : (width : Nat) → Nat → Text
  | 0, _ => []
  | width + 1, value => hexDigits width (value / 16) ++ [Nat.digitChar (value % 16)]

/-- The escape of a code point, as short as its size allows. -/
def escapeCode (code : Nat) : Text :=
  if code < 0x100 then backslash :: 'x' :: hexDigits 2 code
  else if code < 0x10000 then backslash :: 'u' :: hexDigits 4 code
  else backslash :: 'U' :: hexDigits 8 code

/-- A character inside the given quotes. -/
def quoteChar (quote c : Char) : Text :=
  if c == quote || c == backslash then [backslash, c]
  else if c == '\n' then [backslash, 'n']
  else if c == '\r' then [backslash, 'r']
  else if c == '\t' then [backslash, 't']
  else if isPrintable c then [c]
  else escapeCode c.toNat

/-- A text between single quotes, or double ones when that spares an escape. -/
def quoted (text : Text) : Text :=
  let quote := if text.contains singleQuote && !text.contains doubleQuote then doubleQuote
    else singleQuote
  quote :: text.flatMap (quoteChar quote) ++ [quote]

end SourceLint.Text
