import SourceLint.Diagnostic.Log
import SourceLint.Memory
import SourceLint.Validator

/-!
A pass over lines that works on a table in memory.

The rules that change a table do so through its address, variable by variable. All others read it as
it is at that moment. What is found on a line goes to the log before the next line is looked at.
-/

namespace SourceLint

/-- Runs one step after another on memory and collects what they find. -/
def Memory.runAll {α β : Type} (memory : Memory) (step : Memory → α → Memory × List β) :
    List α → Memory × List β
  | [] => (memory, [])
  | first :: others =>
    let (memory, found) := step memory first
    let (memory, later) := memory.runAll step others
    (memory, found ++ later)

namespace Registration

variable (registration : Registration) (table : Address)

/-- Enters one variable of a declaration. -/
def declareAt (type : DataType) (several : Bool) (memory : Memory) (item : Item) :
    Memory × List Finding :=
  match Declaration.nameFault? item.name with
  | some fault => (memory, [fault])
  | none =>
    -- A value that is missing altogether is found by a check of its own.
    if item.value == some [] then (memory, [])
    else if (memory.lookupCurrent table item.name).isSome then
      (memory, if registration.reportRedeclarations then [.alreadyDeclared item.name] else [])
    else
      let fits := item.value.all fun value => Value.isValid (.known type) value (memory.read table)
      let fault : Finding :=
        if several then .badInitializerOf item.name type else .badInitializer type
      (memory.declare table ⟨item.name, .known type, item.value.isSome, registration.line⟩,
        if fits then [] else [fault])

/-- Enters an assignment. The variable counts as set before its new value is looked at. -/
def assignAt (assignment : Assignment) (memory : Memory) : Memory × List Finding :=
  match memory.lookup table assignment.name with
  | none => (memory, [.assignedUndeclared assignment.name])
  | some (address, cell) =>
    let unset :=
      if assignment.isCompound && !cell.initialized then
        [.assignedUninitialized assignment.name assignment.operator]
      else []
    -- The variable is written where it was found, without looking for its name again.
    let memory := memory.setInitialized address
    let unfit :=
      if Value.isValid cell.type assignment.value (memory.read table) then []
      else [.badValue cell.type]
    (memory, unset ++ unfit)

/-- Enters one statement. -/
def enterAt (memory : Memory) (statement : Text) : Memory × List Finding :=
  match Declaration.nameless? statement with
  | some type => (memory, [.namelessDeclaration type])
  | none =>
    match Declaration.parse? statement with
    | some declaration =>
      memory.runAll
        (registration.declareAt table declaration.type (1 < declaration.items.length))
        declaration.items
    | none =>
      match Assignment.parse? statement with
      | some assignment => assignAt table assignment memory
      | none => (memory, [])

/-- Enters every finished statement of a line, in order. -/
def enterLineAt (memory : Memory) (line : Text) : Memory × List Finding :=
  memory.runAll (registration.enterAt table) (Statement.effective line false)

end Registration

namespace Operators

variable (table : Address)

/-- Checks one stepped variable. One without a value is reported once and then counts as set. -/
def checkTargetAt (memory : Memory) (name : Text) : Memory × List Finding :=
  match memory.lookup table name with
  | none => (memory, [.steppedUndeclared name])
  | some (_, cell) =>
    let wrongType : List Finding :=
      if cell.type.isNumeric then [] else [.steppedNonNumeric cell.type]
    if cell.initialized then (memory, wrongType)
    else (memory.markInitialized table name, .steppedUninitialized name :: wrongType)

/-- All findings about the operators of a line. -/
def checkAt (memory : Memory) (line : Text) : Memory × List Finding :=
  let text := Text.blank line
  let targets := targetsIn text
  let (memory, stepped) := memory.runAll (checkTargetAt table) targets
  let lone := if targets.isEmpty then loneStepFindings text else []
  (memory, clusterFindings text ++ stepped ++ lone ++
    ((dangling? text).map Finding.danglingOperator).toList)

end Operators

namespace Rule

/-- What the rules of a pass share when their table is in memory. -/
structure Stored where
  memory : Memory
  /-- What is remembered of the branches read so far. -/
  tracker : ElseTracker := {}

/-- What the rules would share if the table were no object. -/
def Stored.view (stored : Stored) (table : Address) : State :=
  { table := stored.memory.read table, tracker := stored.tracker }

/-- Checks one line. Only declarations, assignments and steps change memory. -/
def checkAt (rule : Rule) (registration : Registration) (table : Address) (stored : Stored)
    (line : Text) : Stored × List Finding :=
  match rule with
  | declarations =>
    let (memory, findings) := registration.enterLineAt table stored.memory line
    ({ stored with memory }, findings)
  | operators =>
    let (memory, findings) := Operators.checkAt table stored.memory line
    ({ stored with memory }, findings)
  | rule =>
    let (state, findings) := rule.check registration (stored.view table) line
    ({ stored with tracker := state.tracker }, findings)

/-- Runs rules on one line until one breaks the circuit. -/
def runAllAt (registration : Registration) (table : Address) (line : Text) :
    Stored → List Rule → Stored × List Finding
  | stored, [] => (stored, [])
  | stored, rule :: others =>
    let (stored, findings) := rule.checkAt registration table stored line
    if rule.breaksCircuit && !findings.isEmpty then (stored, findings)
    else
      let (stored, later) := runAllAt registration table line stored others
      (stored, findings ++ later)

end Rule

/-- A validator at work: its table is in memory, and its messages go to a log. -/
structure Pass extends Rule.Stored where
  /-- The table that the rules read and change. -/
  table : Address
  log : Log
  rules : List Rule
  /-- Whether a name that is declared twice in one scope is reported. -/
  reportRedeclarations : Bool := false

namespace Pass

/-- A pass with all rules that apply. -/
def standard (mainBody reportRedeclarations : Bool) (memory : Memory) (table : Address)
    (log : Log) : Pass :=
  { memory, table, log, rules := Validator.selectRules mainBody Rule.all, reportRedeclarations }

/-- Checks one line and reports what is found on it. -/
def validateLine (pass : Pass) (line : NumberedLine) : Pass :=
  let registration := ⟨pass.reportRedeclarations, line.number⟩
  let (stored, findings) :=
    Rule.runAllAt registration pass.table line.text pass.toStored pass.rules
  { pass with
    toStored := stored
    log := pass.log.extend (findings.map fun finding => finding.onLine line.number) }

/-- Checks one line after another. -/
def validateLines (pass : Pass) (lines : List NumberedLine) : Pass :=
  lines.foldl validateLine pass

/-- Checks every line of a text that is not blank, its first line having the given number. -/
def validate (pass : Pass) (text : Text) (first : Int) : Pass :=
  validateLines { pass with tracker := {} } (prepareLines text first)

end Pass

end SourceLint
