import SourceLint.Finding
import SourceLint.LineShape

/-! Characters that are out of place outside literals. -/

namespace SourceLint.StrayCharacter

/-- Whether a loop over a range stands somewhere in the text: a colon inside its parentheses. -/
def hasRangeLoop (text : Text) : Bool :=
  (Text.words text).any fun word =>
    word.text == "for".toList &&
      (Text.after? ['('] (Text.skipSpace word.rest)).any fun inner =>
        ((inner.takeWhile Text.sameLine).dropWhile (· != ':')).contains ')'

/-- Whether a line is a macro definition, in which a hash sign may appear again. -/
def isDefinition (text : Text) : Bool :=
  (Text.after? ['#'] (Text.skipSpace text)).any fun rest =>
    Text.startsWithWord "define".toList (Text.skipSpace rest)

/-- Whether a character of a line plays none of the roles that it may have. -/
def isMisplaced (text : Text) (place : Text.Position) (c : Char) (rest : Text) : Bool :=
  match c with
  | '@' | '$' | '\x60' => true
  | '!' => !rest.head?.any fun next => Text.isWord next || "=( !".toList.contains next
  | '#' => !(place.before.all Text.isSpace || isDefinition text)
  | ':' =>
    !(place.follows (· == ':') || rest.head? == some ':' || place.before.contains '?' ||
      hasRangeLoop text || LineShape.isLabel text)
  | _ => false

/-- The misplaced character at a place. -/
def misplacedAt? (text : Text) (place : Text.Position) : Option Char :=
  match place.after with
  | c :: rest => if isMisplaced text place c rest then some c else none
  | [] => none

/-- Characters before punctuation that may be its left operand. -/
def isLeftOperand (c : Char) : Bool :=
  Text.isQuote c || Text.isWord c || Text.isSpace c || c == Text.backslash || c == ')' || c == ']'

/-- Characters after punctuation that may be its right operand. -/
def isRightOperand (c : Char) : Bool :=
  Text.isQuote c || Text.isWord c || Text.isSpace c || c == Text.backslash || c == '('

/-- The punctuation at a place that has an operand on neither side. Step operators are none. -/
def strayAt? (place : Text.Position) : Option Char :=
  match place.after with
  | c :: rest =>
    let alone := !place.follows isLeftOperand && !rest.head?.any isRightOperand
    let single := !place.follows (· == c) && rest.head? != some c
    if alone && ("!#%^&*[]|~".toList.contains c || ((c == '+' || c == '-') && single)) then some c
    else none
  | [] => none

/-- Characters that make a run of special characters part of an operator. -/
def isOperatorPart (c : Char) : Bool :=
  "=<>!&|+-".toList.contains c

/--
The run of three or more equal special characters at a place.

The run has to end before a character that is no part of an operator, so it may leave out its last
character when that is none itself.
-/
def repeatedAt? (place : Text.Position) : Option Text :=
  match place.after with
  | c :: _ =>
    let run := place.after.takeWhile (· == c)
    let next := (place.after.dropWhile (· == c)).head?
    if !"#%^&*+-".toList.contains c || place.follows isOperatorPart || run.length < 3 then none
    else if !next.any isOperatorPart then some run
    else if 4 ≤ run.length && !isOperatorPart c then some run.dropLast
    else none
  | [] => none

/-- All findings about the characters of a line. -/
def check (line : Text) : List Finding :=
  let text := Text.mask line
  let places := Text.positions text
  (Text.distinct (places.filterMap (misplacedAt? text))).map .unexpectedCharacter ++
    ((places.findSome? strayAt?).map Finding.strayPunctuation).toList ++
    ((places.findSome? repeatedAt?).map Finding.repeatedSpecial).toList

end SourceLint.StrayCharacter
