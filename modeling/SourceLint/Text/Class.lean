import SourceLint.Text.Alphanumeric
import SourceLint.Text.Decimal

/-! The character classes that decide where words, numbers and gaps begin and end. -/

namespace SourceLint

/-- Text under analysis, one entry per code point. Rendered output is a `String` instead. -/
abbrev Text := List Char

namespace Text

/-- Whether a code point lies in one of the inclusive ranges. -/
def inRanges (ranges : List (Nat × Nat)) (code : Nat) : Bool :=
  ranges.any fun (low, high) => low ≤ code && code ≤ high

/-- The code points of Unicode white space, line breaks included. -/
def spaceRanges : List (Nat × Nat) :=
  [(0x09, 0x0d), (0x1c, 0x20), (0x85, 0x85), (0xa0, 0xa0), (0x1680, 0x1680), (0x2000, 0x200a),
   (0x2028, 0x2029), (0x202f, 0x202f), (0x205f, 0x205f), (0x3000, 0x3000)]

/-- White space separates tokens and is trimmed from both ends of a line. -/
def isSpace (c : Char) : Bool :=
  inRanges spaceRanges c.toNat

/-- A decimal digit of any script. -/
def isDecimal (c : Char) : Bool :=
  if c.toNat < 0x80 then c.isDigit else inRanges decimalRanges c.toNat

/-- A letter, digit or other number of any script. -/
def isAlphanumeric (c : Char) : Bool :=
  if c.toNat < 0x80 then c.isAlphanum else inRanges alphanumericRanges c.toNat

/-- Words are made of alphanumeric characters and underscores. -/
def isWord (c : Char) : Bool :=
  isAlphanumeric c || c == '_'

/-- A name starts with an ASCII letter or an underscore. -/
def isNameStart (c : Char) : Bool :=
  c.isAlpha || c == '_'

/-- An ASCII name continues with letters, digits and underscores. -/
def isNameChar (c : Char) : Bool :=
  c.isAlphanum || c == '_'

/-- The delimiter of a character literal. -/
def singleQuote : Char := '\x27'

/-- The delimiter of a string literal. -/
def doubleQuote : Char := '\x22'

/-- The character that hides the next one from the end of a literal. -/
def backslash : Char := '\x5c'

/-- Either delimiter opens a literal, and only the same one closes it. -/
def isQuote (c : Char) : Bool :=
  c == singleQuote || c == doubleQuote

/-- A character other than a line break. -/
def sameLine (c : Char) : Bool :=
  c != '\n'

end Text

end SourceLint
