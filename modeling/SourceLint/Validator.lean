import SourceLint.Rule

/-! Running the rules over the lines of a text, with one state for all of them. -/

namespace SourceLint

/-- A line with its number. -/
structure NumberedLine where
  number : Int
  text : Text
deriving DecidableEq

/-- Numbers lines from the given one on. -/
def numberLines (first : Int) : List Text → List NumberedLine
  | [] => []
  | line :: others => ⟨first, line⟩ :: numberLines (first + 1) others

/-- The trimmed lines of a text that are not blank, with their numbers. -/
def prepareLines (text : Text) (first : Int) : List NumberedLine :=
  (numberLines first ((Text.lines text).map Text.trim)).filter fun line => !line.text.isEmpty

/-- Rules in the order in which they run, and the state they share. -/
structure Validator extends Rule.State where
  rules : List Rule
  /-- Whether a name that is declared twice in one scope is reported. -/
  reportRedeclarations : Bool := false

namespace Validator

/-- The rules of a list that run, those for the main function only in its body. -/
def selectRules (mainBody : Bool) (rules : List Rule) : List Rule :=
  rules.filter fun rule => mainBody || !rule.isMainOnly

/-- A validator with all rules that apply. -/
def standard (mainBody reportRedeclarations : Bool) (table : SymbolTable) : Validator :=
  { table, rules := selectRules mainBody Rule.all, reportRedeclarations }

/-- Runs rules on one line until one breaks the circuit. -/
def runRules (registration : Registration) (line : Text) :
    Rule.State → List Rule → Rule.State × List Finding
  | state, [] => (state, [])
  | state, rule :: others =>
    let (state, findings) := rule.check registration state line
    if rule.breaksCircuit && !findings.isEmpty then (state, findings)
    else
      let (state, later) := runRules registration line state others
      (state, findings ++ later)

/-- Checks one line. -/
def validateLine (validator : Validator) (line : NumberedLine) : Validator × List Diagnostic :=
  let registration := ⟨validator.reportRedeclarations, line.number⟩
  let (state, findings) := runRules registration line.text validator.toState validator.rules
  ({ validator with toState := state }, findings.map fun finding => finding.onLine line.number)

/-- Checks one line after another. -/
def validateLines : Validator → List NumberedLine → Validator × List Diagnostic
  | validator, [] => (validator, [])
  | validator, line :: others =>
    let (validator, found) := validator.validateLine line
    let (validator, later) := validateLines validator others
    (validator, found ++ later)

/-- The validator with the branches forgotten that its rules have read. -/
def reset (validator : Validator) : Validator :=
  { validator with toState := validator.toState.reset }

/-- Checks every line of a text that is not blank, its first line having the given number. -/
def validate (validator : Validator) (text : Text) (first : Int) : Validator × List Diagnostic :=
  validator.reset.validateLines (prepareLines text first)

end Validator

end SourceLint
