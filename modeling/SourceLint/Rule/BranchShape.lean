import SourceLint.Finding
import SourceLint.LineShape
import SourceLint.SymbolTable

/-! The shape of branch headers and the variables that their conditions read. -/

namespace SourceLint.BranchShape

/-- The object of a member access at a place, with the number of characters the access takes. -/
def accessAt? (place : Text.Position) : Option (Nat × Text) :=
  if place.follows Text.isWord then none
  else
    (Text.name? place.after).bind fun (object, rest) =>
      let rest := Text.skipSpace rest
      ((Text.after? ['.'] rest).or (Text.after? ['-', '>'] rest)).bind fun rest =>
        (Text.afterName? (Text.skipSpace rest)).map fun rest =>
          (place.after.length - rest.length, object)

/-- The names whose members a text accesses. -/
def objectsIn (text : Text) : List Text :=
  Text.finds accessAt? text

/-- Words of a condition that are values. -/
def valueWords : List Text :=
  ["true", "false", "null", "nullptr"].map String.toList

/-- The distinct names that a condition reads, in order. Functions and members are left out. -/
def namesIn (text : Text) : List Text :=
  Text.distinct <| ((Text.words text).filter fun word =>
    word.isBareName && !word.isCalled && !word.place.followsArrow &&
      !Vocabulary.isReserved word.text && !valueWords.contains word.text).map Text.Word.text

/-- The names of a condition that stand for nothing or for a variable without a value. -/
def conditionFindings (table : SymbolTable) (condition : Text) : List Finding :=
  let text := Text.blank condition
  let objects := objectsIn text
  (namesIn text).filterMap fun name =>
    let usage : Usage := if objects.contains name then .object else .plain
    match table.lookup name with
    | none => some (.conditionUndeclared usage name)
    | some symbol => if symbol.initialized then none else some (.conditionUninitialized usage name)

/-- What follows the first semicolon, when no brace and at least `least` characters precede it. -/
def afterStatement? (least : Nat) (text : Text) : Option Text :=
  let inside := fun c => c != ';' && c != '{'
  if (text.takeWhile inside).length < least then none
  else Text.after? [';'] (text.dropWhile inside)

/-- Whether a text is a single statement without braces. -/
def isSingleStatement (text : Text) : Bool :=
  (afterStatement? 1 text).any Text.isBlank

/-- Whether a line is an `else` with nothing but an optional brace. -/
def isBareElse (line : Text) : Bool :=
  (Text.after? "else".toList line).any fun rest =>
    let rest := Text.skipSpace rest
    Text.isBlank ((Text.after? ['{'] rest).getD rest)

/-- Whether a line is an `else` with white space and a single statement. -/
def isSingleLineElse (line : Text) : Bool :=
  (Text.after? "else".toList line).any fun rest =>
    rest.head?.any Text.isSpace && (afterStatement? 2 rest).any Text.isBlank

/-- Whether a line is an `if` with something other than a parenthesis. -/
def isOpenIf (line : Text) : Bool :=
  (Text.afterSpaced? "if".toList line).any fun rest => rest.head?.any (· != '(')

/-- The branch that a line with a branch header belongs to. -/
def branchOf (line : Text) : Branch :=
  if (Text.afterSpaced? "else".toList line).isSome then .elseIfBranch else .ifBranch

/-- The findings for a line with a branch header. -/
def headerFindings (table : SymbolTable) (line : Text) : List Finding :=
  let branch := branchOf line
  match Statement.condition? line with
  | none => [.unclosedCondition branch]
  | some (condition, after) =>
    conditionFindings table condition ++
      (if Text.isBlank condition then [.emptyCondition branch] else []) ++
      (if !line.contains '{' && !isSingleStatement after then [.missingBrace branch] else [])

/-- All findings about the branch header of a line. -/
def check (table : SymbolTable) (line : Text) : List Finding :=
  let line := Text.trim line
  if LineShape.isBranchHeader line then headerFindings table line
  else if isBareElse line then if line.contains '{' then [] else [.missingBrace .elseBranch]
  else if isSingleLineElse line then [.singleLineElse]
  else if isOpenIf line then [.ifWithoutParentheses]
  else []

end SourceLint.BranchShape
