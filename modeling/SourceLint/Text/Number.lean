import SourceLint.Text.Basic

/-! Reading unsigned numbers at the front of a text. -/

namespace SourceLint.Text

/-- The characters after the first digit of a number: digits, and a point followed by digits. -/
def numberTail (rest : Text) : Text :=
  let whole := rest.takeWhile isDecimal
  match rest.dropWhile isDecimal with
  | '.' :: fraction =>
    let digits := fraction.takeWhile isDecimal
    if digits.isEmpty then whole else whole ++ '.' :: digits
  | _ => whole

/-- The number at the front of a text and what follows it. -/
def number? : Text → Option (Text × Text)
  | c :: rest =>
    if isDecimal c then
      let tail := numberTail rest
      some (c :: tail, rest.drop tail.length)
    else
      none
  | [] => none

/-- Whether the text is one number: digits, and after a point more digits. -/
def isNumber (text : Text) : Bool :=
  match number? text with
  | some (_, rest) => rest.isEmpty
  | none => false

/-- What follows the digits at the front of a text, if there are any. -/
def afterDigits? : Text → Option Text
  | c :: rest => if isDecimal c then some (rest.dropWhile isDecimal) else none
  | [] => none

/-- The text without a minus sign in front. -/
def skipMinus : Text → Text
  | '-' :: rest => rest
  | text => text

end SourceLint.Text
