import SourceLint.Diagnostic.Log
import SourceLint.Validator

/-!
The main function: where it is, what is wrong with its outline, and a second look at its body.

The second look uses the rules that apply to the main function alone. Its table is a copy, so that
nothing found in the body changes the table of the program.
-/

namespace SourceLint

/-- The header of a main function in a masked source. -/
structure MainHeader where
  returnType : Text
  /-- The index of its first character. -/
  start : Nat
  /-- The index after its last character. -/
  stop : Nat
deriving DecidableEq

/-- The place of the only main function of a source. -/
structure MainFunction where
  returnType : Text
  headerLine : Int
  /-- The index after the opening brace. -/
  bodyStart : Nat
  /-- The index of the closing brace. -/
  bodyEnd : Nat
  /-- The line of the opening brace. -/
  bodyLine : Int
deriving DecidableEq

namespace MainHeader

/-- The text after a complete header that starts with the given return type. -/
def afterHeader? (returnType text : Text) : Option Text :=
  (Text.afterSpaced? returnType text).bind fun rest =>
    (Statement.afterOpening? ["main".toList] rest).bind fun parameters =>
      Text.after? [')'] (parameters.dropWhile (· != ')'))

/-- The header at a place, with the number of characters it takes. -/
def at? (place : Text.Position) : Option (Nat × MainHeader) :=
  if place.follows Text.isWord then none
  else
    ["int".toList, "void".toList].findSome? fun returnType =>
      (afterHeader? returnType place.after).map fun rest =>
        let start := place.before.length
        let size := place.after.length - rest.length
        (size, ⟨returnType, start, start + size⟩)

/-- The headers of a masked source, from left to right. -/
def all (masked : Text) : List MainHeader :=
  Text.finds at? masked

end MainHeader

namespace MainFunction

/-- The text between the braces. -/
def body (main : MainFunction) (source : Text) : Text :=
  (source.drop main.bodyStart).take (main.bodyEnd - main.bodyStart)

/-- What became of the search for the main function. -/
inductive Search where
  | found (main : MainFunction)
  /-- It cannot be used, for the given reason. -/
  | faulty (reason : Finding)
  /-- There is none, and none is needed. -/
  | absent
deriving DecidableEq

/--
Whether a word that starts like the one for the main function has a malformed header.

An opening parenthesis stands behind it on the line where the next characters are, or behind a
closing one.
-/
def malformedAt (place : Text.Position) : Bool :=
  !place.follows Text.isWord &&
    (Text.after? "main".toList place.after).any fun rest =>
      let rest := Text.skipSpace rest
      (rest.dropWhile fun c => c != '(' && c != '\n').head? == some '(' ||
        (Text.after? [')'] rest).any fun rest => (Text.skipSpace rest).head? == some '('

/-- Whether the word for the main function stands somewhere in the text. -/
def hasMainWord (masked : Text) : Bool :=
  (Text.words masked).any fun word => word.text == "main".toList

/-- What to say when a masked source has no header. -/
def missing (required : Bool) (masked : Text) : Search :=
  if Text.anywhere masked malformedAt then .faulty .malformedMain
  else if hasMainWord masked then .faulty .mainNoFunction
  else if required then .faulty .noMain
  else .absent

/-- The main function with the given header. -/
def ofHeader (masked : Text) (header : MainHeader) : Search :=
  let after := masked.drop header.stop
  let gap := (after.takeWhile Text.isSpace).length
  match after.drop gap with
  | '{' :: rest =>
    -- The source is masked already, so every character counts as it stands.
    match Text.closeFrom? '{' '}' 0 (rest.map fun c => (c, c)) with
    | some (inside, _) =>
      let opening := header.stop + gap
      .found ⟨header.returnType, Text.lineOf masked header.start, opening + 1,
        opening + 1 + inside.length, Text.lineOf masked opening⟩
    | none => .faulty .mainWithoutClosing
  | _ => .faulty .mainWithoutOpening

/-- Looks for the main function of a source without comments. -/
def locate (required : Bool) (source : Text) : Search :=
  let masked := Text.maskSource source
  match MainHeader.all masked with
  | [] => missing required masked
  | [header] => ofHeader masked header
  | _ => .faulty .severalMains

/-- How the body of the main function is looked at again. -/
structure Scan where
  /-- Whether the body has a scope of its own, outside of which only earlier variables are known. -/
  ownScope : Bool := true
  reportRedeclarations : Bool := false

/-- The table with which the body is entered. -/
def Scan.startTable (scan : Scan) (main : MainFunction) (globals : SymbolTable) : SymbolTable :=
  let visible := globals.globals.filter fun symbol =>
    !scan.ownScope || symbol.line < main.headerLine
  let table := SymbolTable.ofSymbols visible
  if scan.ownScope then table.enter else table

/-- The variables of a table that the body declares. -/
def declaredIn (main : MainFunction) (table : SymbolTable) : Scope :=
  table.current.filter fun symbol => main.bodyLine ≤ symbol.line

/-- The warnings about variables without a value, as far as the body declares their names. -/
def warnUnset (unset declared : Scope) : List Diagnostic :=
  unset.filterMap fun symbol =>
    (declared.lookup symbol.name).map fun own =>
      (Finding.neverInitializedInMain own.name).inMain own.line

/--
Looks at the body again and reports what is new, then the variables without a value.

The answer has the variables that the body declares.
-/
def Scan.run (scan : Scan) (source : Text) (main : MainFunction) (globals : SymbolTable)
    (log : Log) : Log × Scope :=
  let validator := Validator.standard true scan.reportRedeclarations (scan.startTable main globals)
  let (validator, found) := validator.validate (main.body source) main.bodyLine
  -- Without a scope of its own the body shares its scope with the variables of the program.
  let declared := main.declaredIn validator.table
  let log := (log.collapse.extend found).uncollapse
  (log.extend (warnUnset validator.table.uninitialized declared), declared)

/-- Finds the main function, reports what is wrong with it and looks at its body again. -/
def examine (scan : Scan) (required : Bool) (source : Text) (globals : SymbolTable) (log : Log) :
    Log × Scope :=
  match locate required source with
  | .found main => scan.run source main globals log
  | .faulty reason => (log.report reason.inProgram, [])
  | .absent => (log, [])

end MainFunction

end SourceLint
