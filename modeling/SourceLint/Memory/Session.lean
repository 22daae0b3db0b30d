import SourceLint.Analysis
import SourceLint.Memory.Pass

/-!
A run as a session that hands its state from stage to stage.

All tables of the run live in one memory. Listeners are told of tokens and symbols when these are
found, and the result is read from memory when everything is over.
-/

namespace SourceLint

namespace MainFunction

/-- Copies a variable of the program into a table, if the body of the main function may see it. -/
def Scan.copyVariable (scan : Scan) (main : MainFunction) (table : Address) (memory : Memory)
    (binding : Binding) : Memory :=
  match memory.cells[binding.cell]? with
  | some cell =>
    if !scan.ownScope || cell.line < main.headerLine then
      -- The copy is a variable of its own, with the values that this one has now.
      let (memory, copy) := memory.newCell cell
      memory.bind table ⟨binding.name, copy⟩
    else memory
  | none => memory

/-- Makes the table with which the body of the main function is entered. -/
def Scan.openTable (scan : Scan) (main : MainFunction) (globals : Address) (memory : Memory) :
    Memory × Address :=
  let (memory, table) := memory.newTable
  let memory := (memory.globalBindings globals).foldl (scan.copyVariable main table) memory
  (if scan.ownScope then memory.enter table else memory, table)

/-- Looks at the body again, with a table that is thrown away afterwards. -/
def Scan.runAt (scan : Scan) (source : Text) (main : MainFunction) (globals : Address)
    (memory : Memory) (log : Log) : Memory × Log × Scope :=
  let (memory, table) := scan.openTable main globals memory
  let pass := (Pass.standard true scan.reportRedeclarations memory table log.collapse).validate
    (main.body source) main.bodyLine
  let memory := pass.memory
  -- Without a scope of its own the body shares its scope with the variables of the program.
  let declared := (memory.items table).filter fun symbol => main.bodyLine ≤ symbol.line
  let log := pass.log.uncollapse.extend (warnUnset (memory.uninitialized table) declared)
  (if scan.ownScope then memory.exit table else memory, log, declared)

/-- Finds the main function, reports what is wrong with it and looks at its body again. -/
def examineAt (scan : Scan) (required : Bool) (source : Text) (globals : Address)
    (memory : Memory) (log : Log) : Memory × Log × Scope :=
  match locate required source with
  | .found main => scan.runAt source main globals memory log
  | .faulty reason => (memory, log.report reason.inProgram, [])
  | .absent => (memory, log, [])

end MainFunction

/-- The state of a run. -/
structure Session where
  memory : Memory
  /-- The table of the program. -/
  symbols : Address
  log : Log
  tokens : List Token := []
  tokenSink : List String := []
  symbolSink : List String := []
  aborted : Bool := false

namespace Session

/-- The state in which a run starts, with an empty table. -/
def start (config : Config) : Session :=
  let (memory, symbols) := ({} : Memory).newTable
  { memory, symbols, log := Analysis.startLog config }

/-- Keeps a token and tells the listener of it. -/
def addToken (session : Session) (token : Token) : Session :=
  { session with
    tokens := session.tokens ++ [token]
    tokenSink := session.tokenSink ++ [token.text] }

/-- Cuts a text into tokens. -/
def readTokens (session : Session) (text : Text) : Session :=
  (Token.tokenize text).foldl addToken session

/-- Checks the lines of a text. -/
def checkLines (session : Session) (config : Config) (text : Text) : Session :=
  let pass := (Pass.standard false config.reportRedeclarations session.memory session.symbols
    session.log).validate text 1
  { session with memory := pass.memory, log := pass.log }

/-- The lines of the symbol report, as memory is now. -/
def symbolLines (session : Session) : List String :=
  Report.scopeLines (session.memory.globals session.symbols)

/-- Tells the listener of the symbols. -/
def showSymbols (session : Session) : Session :=
  { session with symbolSink := session.symbolSink ++ session.symbolLines }

/-- Examines the main function. The answer has the variables that are settled by that. -/
def examine (session : Session) (config : Config) (text : Text) : Session × Scope :=
  let (memory, log, settled) :=
    MainFunction.examineAt ⟨config.scopedMain, config.reportRedeclarations⟩ config.requireMain text
      session.symbols session.memory session.log
  ({ session with memory, log }, settled)

/-- Warns about variables of the program that never got a value and are not settled. -/
def sweep (session : Session) (settled : Scope) : Session :=
  let unset := (session.memory.globals session.symbols).filter fun symbol =>
    !symbol.initialized && (settled.lookup symbol.name).isNone
  { session with
    log := session.log.extend (unset.map fun symbol =>
      (Finding.neverInitialized symbol.name).inProgram) }

/-- What a run on a source without open comments has done when the symbols are shown. -/
def prepare (config : Config) (nested : List Int) (text : Text) : Session :=
  let session := start config
  let messages := nested.map Finding.nestedComment.onLine
  let session := { session with log := session.log.extend messages }
  ((session.readTokens text).checkLines config text).showSymbols

/-- What a run does after that. -/
def finish (session : Session) (config : Config) (text : Text) : Session :=
  let (session, settled) := session.examine config text
  session.sweep settled

/-- What a run does on a source with a comment that starts on the given line and never ends. -/
def abort (config : Config) (line : Int) : Session :=
  let session := start config
  { session with
    log := session.log.report (Finding.unclosedComment line).inProgram
    aborted := true }

/-- The session when a run is over. What is wrong with comments is dropped when one never ends. -/
def run (config : Config) (source : Text) : Session :=
  let stripped := Comment.strip source
  match stripped.unclosed with
  | some line => abort config line
  | none => (prepare config stripped.nested stripped.text).finish config stripped.text

/-- What a run leaves: the result as memory has it in the end, and what the listeners were told. -/
def outcome (session : Session) : Run :=
  { result :=
      { tokens := session.tokens
        symbols := session.memory.read session.symbols
        diagnostics := session.log.entries
        aborted := session.aborted
        strict := session.log.strict }
    tokenSink := session.tokenSink
    symbolSink := session.symbolSink
    diagnosticSink := session.log.sink.getD [] }

end Session

end SourceLint
