import SourceLint.Finding
import SourceLint.LineShape
import SourceLint.Value

/-! Arithmetic between a string variable and a number. -/

namespace SourceLint.StringArithmetic

/-- Two operands with an arithmetic operator between them. -/
structure Pair where
  left : Text
  operator : Char
  right : Text
deriving DecidableEq

/-- The operand at the front of a text, a name or a number, and what follows it. -/
def operand? (text : Text) : Option (Text × Text) :=
  (Text.name? text).or (Text.number? text)

/-- Characters that would make an operand longer or part of something else. -/
def extendsOperand (c : Char) : Bool :=
  Text.isWord c || c == '.'

/-- The pair that starts at a place. Both operands have to be complete. -/
def pairAt? (place : Text.Position) : Option Pair :=
  if place.follows extendsOperand then none
  else
    (operand? place.after).bind fun (left, rest) =>
      match Text.skipSpace rest with
      | operator :: rest =>
        if "+-*/".toList.contains operator then
          (operand? (Text.skipSpace rest)).bind fun (right, rest) =>
            if rest.head?.any extendsOperand then none else some ⟨left, operator, right⟩
        else
          none
      | [] => none

/-- Whether an operand is a string variable. -/
def isString (table : SymbolTable) (operand : Text) : Bool :=
  (table.lookup operand).any fun symbol => symbol.type == .known .string

/-- Whether an operand is a number or a variable of a numeric type. -/
def isNumeric (table : SymbolTable) (operand : Text) : Bool :=
  Value.isNumeric operand || (table.lookup operand).any fun symbol => symbol.type.isNumeric

/-- What is wrong with one pair. -/
def pairFindings (table : SymbolTable) (pair : Pair) : List Finding :=
  (if isString table pair.left && isNumeric table pair.right then
    [.stringWithNumber pair.operator] else []) ++
  (if isString table pair.right && isNumeric table pair.left then
    [.numberWithString pair.operator] else [])

/-- The findings for every pair of a line, neighbouring pairs sharing an operand. -/
def check (table : SymbolTable) (line : Text) : List Finding :=
  ((Text.positions (Text.blank line)).filterMap pairAt?).flatMap (pairFindings table)

end SourceLint.StringArithmetic
