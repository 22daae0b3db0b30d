import SourceLint.Comment
import SourceLint.Config
import SourceLint.MainFunction
import SourceLint.Report
import SourceLint.Report.Json
import SourceLint.Token.Lexer

/-!
A whole run over a source.

Comments are removed, what is left is cut into tokens and checked line by line, the main function
is examined, and variables that never got a value are reported. Nothing is kept between runs.
-/

namespace SourceLint

/-- The result of a run. -/
structure Analysis where
  tokens : List Token := []
  symbols : SymbolTable := {}
  diagnostics : List Diagnostic := []
  /-- Whether the run ended early because a comment never ends. -/
  aborted : Bool := false
  /-- Whether a warning makes the run fail. -/
  strict : Bool := false

/-- A run: its result, and what it wrote to its listeners on the way. -/
structure Run where
  result : Analysis
  tokenSink : List String := []
  symbolSink : List String := []
  diagnosticSink : List String := []

namespace Analysis

/-- The number of errors. -/
def errors (analysis : Analysis) : Nat :=
  analysis.diagnostics.countP Diagnostic.isError

/-- The number of warnings. -/
def warnings (analysis : Analysis) : Nat :=
  analysis.diagnostics.length - analysis.errors

/-- Whether the run counts as failed. -/
def hasErrors (analysis : Analysis) : Bool :=
  if analysis.strict then !analysis.diagnostics.isEmpty else 0 < analysis.errors

/-- Whether there is nothing to say about the source. -/
def succeeded (analysis : Analysis) : Bool :=
  analysis.diagnostics.isEmpty

/-- The token report as one text. -/
def tokenReport (analysis : Analysis) : String :=
  Report.render (Report.tokenLines analysis.tokens)

/-- The symbol report as one text. -/
def symbolReport (analysis : Analysis) : String :=
  Report.render (Report.symbolLines analysis.symbols)

/-- The message report as one text. -/
def diagnosticReport (analysis : Analysis) : String :=
  Report.render (Report.diagnosticLines analysis.diagnostics)

/-- The warnings about global variables that never got a value, those of the main function aside. -/
def sweep (table : SymbolTable) (settled : Scope) : List Diagnostic :=
  (table.globals.filter fun symbol =>
    !symbol.initialized && (settled.lookup symbol.name).isNone).map
      fun symbol => (Finding.neverInitialized symbol.name).inProgram

/-- The log with which a run starts. -/
def startLog (config : Config) : Log :=
  { sink := some [], strict := config.warningsAsErrors }

/-- The run on a source whose comments have been removed without a problem. -/
def runStripped (config : Config) (nested : List Int) (text : Text) : Run :=
  let log := (startLog config).extend (nested.map Finding.nestedComment.onLine)
  let tokens := Token.tokenize text
  let (validator, found) :=
    (Validator.standard false config.reportRedeclarations {}).validate text 1
  let table := validator.table
  let (log, settled) := MainFunction.examine ⟨config.scopedMain, config.reportRedeclarations⟩
    config.requireMain text table (log.extend found)
  let log := log.extend (sweep table settled)
  { result := { tokens, symbols := table, diagnostics := log.entries, strict := log.strict }
    tokenSink := tokens.map Token.text
    symbolSink := Report.symbolLines table
    diagnosticSink := log.sink.getD [] }

/-- The run on a source with a comment that starts on the given line and never ends. -/
def runAborted (config : Config) (start : Int) : Run :=
  let log := (startLog config).report (Finding.unclosedComment start).inProgram
  { result := { diagnostics := log.entries, aborted := true, strict := log.strict }
    diagnosticSink := log.sink.getD [] }

/-- The run on a source. What is wrong with its comments is dropped when one of them never ends. -/
def run (config : Config) (source : Text) : Run :=
  let stripped := Comment.strip source
  match stripped.unclosed with
  | some start => runAborted config start
  | none => runStripped config stripped.nested stripped.text

/-- The result of the run on a source. -/
def analyze (config : Config) (source : Text) : Analysis :=
  (run config source).result

/-- A token in structured output. -/
def tokenJson (token : Token) : Report.Json :=
  .object [("lexeme", .string (String.ofList token.lexeme)), ("line", .int token.line),
    ("category", .string token.category.label)]

/-- A variable in structured output. -/
def symbolJson (symbol : Symbol) : Report.Json :=
  .object [("name", .string (String.ofList symbol.name)),
    ("type", .string (String.ofList symbol.type.spelling)),
    ("initialized", .bool symbol.initialized), ("line", .int symbol.line)]

/-- A message in structured output. -/
def diagnosticJson (diagnostic : Diagnostic) : Report.Json :=
  .object [("level", .string diagnostic.level.label),
    ("line", (diagnostic.line.map Report.Json.int).getD .null),
    ("origin", .string diagnostic.origin.label), ("message", .string diagnostic.message),
    ("text", .string diagnostic.text)]

/-- The global variables in structured output. -/
def symbolsJson (table : SymbolTable) : Report.Json :=
  .array (table.globals.map symbolJson)

/-- The result of a run in structured output. -/
def toJson (analysis : Analysis) : Report.Json :=
  .object [("aborted", .bool analysis.aborted), ("succeeded", .bool analysis.succeeded),
    ("verdict", if analysis.succeeded then .string Report.success else .null),
    ("errors", .int analysis.errors), ("warnings", .int analysis.warnings),
    ("tokens", .array (analysis.tokens.map tokenJson)),
    ("symbols", symbolsJson analysis.symbols),
    ("diagnostics", .array (analysis.diagnostics.map diagnosticJson))]

end Analysis

end SourceLint
