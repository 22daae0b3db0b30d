import SourceLint.Finding
import SourceLint.LineShape
import SourceLint.SymbolTable

/-! Suspicious operator clusters and misuse of the step operators. -/

namespace SourceLint.Operators

/-- The text after a step operator. -/
def afterStep? (text : Text) : Option Text :=
  (Text.after? "++".toList text).or (Text.after? "--".toList text)

/-- The variable that a step operator follows, read from the first letter of its word. -/
def steppedBefore? (word : Text.Word) : Option Text :=
  let name := word.text.dropWhile fun c => !Text.isNameStart c
  if name.isEmpty || (afterStep? (Text.skipSpace word.rest)).isNone then none else some name

/-- The variable that follows a step operator. -/
def steppedAfter? (place : Text.Position) : Option Text :=
  (afterStep? place.after).bind fun rest => (Text.name? (Text.skipSpace rest)).map Prod.fst

/-- The distinct variables that a text steps, those with the operator behind them first. -/
def targetsIn (text : Text) : List Text :=
  Text.distinct
    ((Text.words text).filterMap steppedBefore? ++ (Text.positions text).filterMap steppedAfter?)

/-- Checks one stepped variable. One without a value is reported once and then counts as set. -/
def checkTarget (table : SymbolTable) (name : Text) : SymbolTable × List Finding :=
  match table.lookup name with
  | none => (table, [.steppedUndeclared name])
  | some symbol =>
    let wrongType : List Finding :=
      if symbol.type.isNumeric then [] else [.steppedNonNumeric symbol.type]
    if symbol.initialized then (table, wrongType)
    else (table.markInitialized name, .steppedUninitialized name :: wrongType)

/-- Whether an equals sign and four minus signs follow, with white space in between. -/
def startsMinusChain (text : Text) : Bool :=
  let minus := fun rest => Text.after? ['-'] (Text.skipSpace rest)
  ((((Text.after? ['='] text).bind minus).bind minus).bind minus).bind minus |>.isSome

/-- The clusters of operators that are suspicious wherever they stand. -/
def clusterFindings (text : Text) : List Finding :=
  let has (pieces : List String) := Text.containsAny text (pieces.map String.toList)
  (if has ["+++", "---"] then [.tripleStep] else []) ++
  (if has ["++--", "--++"] then [.mixedStep] else []) ++
  (if Text.anywhere text fun place => startsMinusChain place.after then [.minusChain] else []) ++
  (if has ["*&", "&*"] then [.pointerPair] else []) ++
  (if has ["**", "/*", "/+", "+/", "+-", "-+"] then [.doubledArithmetic] else [])

/-- Step operators of a line that steps no variable. Loop headers are left alone. -/
def loneStepFindings (text : Text) : List Finding :=
  if LineShape.hasLoopHeader text then []
  else if (afterStep? (Text.trim text)).isSome then [.stepWithoutVariable]
  else if Text.anywhere text fun place =>
      (afterStep? place.after).any fun rest => (Text.skipSpace rest).head? == some ';' then
    [.doubtfulStep]
  else []

/-- The binary operator that is all there is between the text before and a semicolon. -/
def danglingAfter? (text : Text) : Option Char :=
  match Text.skipSpace text with
  | operator :: rest =>
    if "+-*/&|^%".toList.contains operator && (Text.skipSpace rest).head? == some ';' then
      some operator
    else
      none
  | [] => none

/-- What follows the operand that starts at a place: a name, a number or a closing parenthesis. -/
def afterOperand? (place : Text.Position) : Option Text :=
  match Text.wordAt? place with
  | some word =>
    if word.text.any Text.isNameStart || word.text.getLast?.any Text.isDecimal then some word.rest
    else none
  | none => Text.after? [')'] place.after

/-- The first operator of a text that lacks its right operand. -/
def dangling? (text : Text) : Option Char :=
  (Text.positions text).findSome? fun place => (afterOperand? place).bind danglingAfter?

/-- All findings about the operators of a line. -/
def check (table : SymbolTable) (line : Text) : SymbolTable × List Finding :=
  let text := Text.blank line
  let targets := targetsIn text
  let (table, stepped) := table.runAll checkTarget targets
  let lone := if targets.isEmpty then loneStepFindings text else []
  (table, clusterFindings text ++ stepped ++ lone ++
    ((dangling? text).map Finding.danglingOperator).toList)

end SourceLint.Operators
