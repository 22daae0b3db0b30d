import SourceLint.SymbolTable
import SourceLint.Text.Number

/-!
Whether a value may be stored in a variable of a given type.

Expressions are not evaluated: anything that holds an arithmetic operator is accepted.
-/

namespace SourceLint.Value

/-- An optional minus sign and a number. -/
def isNumeric (value : Text) : Bool :=
  Text.isNumber (Text.skipMinus value)

/-- An optional minus sign and digits, followed by at most one of the given suffixes. -/
def isWhole (suffixes : List Char) (value : Text) : Bool :=
  match Text.afterDigits? (Text.skipMinus value) with
  | some [] => true
  | some [suffix] => suffixes.contains suffix
  | _ => false

/-- The text after an exponent, or the text itself when no exponent stands at its front. -/
def skipExponent : Text → Text
  | mark :: rest =>
    if mark == 'e' || mark == 'E' then
      let digits := match rest with
        | '+' :: digits => digits
        | '-' :: digits => digits
        | _ => rest
      (Text.afterDigits? digits).getD (mark :: rest)
    else
      mark :: rest
  | [] => []

/-- An optional minus sign, a number, an optional exponent and an optional suffix. -/
def isReal (value : Text) : Bool :=
  match Text.number? (Text.skipMinus value) with
  | some (_, rest) =>
    match skipExponent rest with
    | [] => true
    | [suffix] => suffix == 'f' || suffix == 'F'
    | _ => false
  | none => false

/-- One character of the line between single quotes. -/
def isCharacter : Text → Bool
  | [opening, c, closing] =>
    opening == Text.singleQuote && closing == Text.singleQuote && Text.sameLine c
  | _ => false

/-- Any characters of the line between double quotes. -/
def isString : Text → Bool
  | opening :: rest =>
    opening == Text.doubleQuote && Text.endsWith Text.doubleQuote rest &&
      rest.dropLast.all Text.sameLine
  | [] => false

/-- Whether a value is one of the given words. -/
def isOneOf (words : List String) (value : Text) : Bool :=
  (words.map String.toList).contains value

/-- Whether a value is a literal of the given type. -/
def isLiteralOf (type : DataType) (value : Text) : Bool :=
  match type with
  | .int | .long | .short | .unsignedInt | .unsignedShort | .unsignedLong => isWhole [] value
  | .longLong => isWhole ['l', 'L'] value
  | .float | .double => isReal value
  | .char => isCharacter value
  | .bool => isOneOf ["true", "false", "0", "1"] value
  | .string => isString value

/-- Whether a text holds an arithmetic operator. -/
def hasArithmetic (value : Text) : Bool :=
  value.any "+-*/%".toList.contains

/--
Whether a value may be stored in a variable of the given type.

A variable has to hold a value of a type that the target accepts. Any other text has to be a
literal of the type or an expression.
-/
def isValid (type : VarType) (value : Text) (table : SymbolTable) : Bool :=
  let value := Text.trim value
  if value.isEmpty then false
  else
    match table.lookup value with
    | some symbol => symbol.initialized && type.accepts symbol.type
    | none =>
      hasArithmetic value ||
        match type with
        | .known type => isLiteralOf type value
        | .other _ => false

end SourceLint.Value
