import SourceLint.Analysis
import SourceLint.Command.Options
import SourceLint.Report.Terminal
import SourceLint.Source.File

/-! The command: what it prints for a request, and with which status it ends. -/

namespace SourceLint.Command

/-- What the command leaves behind. -/
structure Response where
  status : Nat
  output : String
  /-- Whether plain output was asked for. -/
  minimal : Bool := false

/-- The answer to a request for the version. -/
def version : String :=
  "cppscan 1.0.0"

/-- How the command is used. -/
def usage : String :=
  "usage: cppscan [-h] [--tokens] [--symbols] [--json] [--require-main] [--warnings-as-errors] " ++
    "[--minimal] [-v] [--version] input"

namespace Invocation

/-- Whether plain output is asked for. Structured output asks for it too. -/
def minimal (invocation : Invocation) : Bool :=
  invocation.has .minimal || invocation.has .json

/-- The settings of the environment and the options together. -/
def config (invocation : Invocation) (environment : Environment) : Config :=
  let config := Config.ofEnvironment environment
  { config with
    requireMain := config.requireMain || invocation.has .requireMain
    warningsAsErrors := config.warningsAsErrors || invocation.has .warningsAsErrors }

/-- Whether output is plain, on which the environment has the last word. -/
def printsPlain (invocation : Invocation) (environment : Environment) : Bool :=
  match environment "CPPSCAN_MINIMAL_UI" with
  | some value => Config.isOn value
  | none => invocation.minimal

/-- Whether the source comes from standard input. -/
def readsStandardInput (invocation : Invocation) : Bool :=
  invocation.input == ['-']

/-- The lines printed for a finished run. -/
def lines (invocation : Invocation) (plain : Bool) (analysis : Analysis) :
    List Report.Terminal.Line :=
  let showTokens := invocation.has .tokens
  let showSymbols := invocation.has .symbols
  (if showTokens then
    Report.Terminal.stageLine plain 1 "Tokens" ::
      Report.Terminal.tokenLines analysis.tokens else []) ++
  (if showSymbols then
    Report.Terminal.stageLine plain 2 "Symbol table" ::
      Report.Terminal.symbolTable plain analysis.symbols else []) ++
  (if showTokens || showSymbols then [Report.Terminal.stageLine plain 3 "Diagnostics"] else []) ++
  (if analysis.succeeded then [Report.Terminal.successLine plain Report.success]
    else analysis.diagnostics.map (Report.Terminal.diagnosticLine plain))

/-- The response to a finished run. -/
def respond (invocation : Invocation) (plain : Bool) (analysis : Analysis) : Response :=
  let output :=
    if invocation.has .json then Report.render [Report.Json.render 2 analysis.toJson]
    else Report.Terminal.print (invocation.lines plain analysis)
  ⟨if analysis.hasErrors then 1 else 0, output, invocation.minimal⟩

/--
The response once the source has been read, or could not be read.

There is none for a path that no file can have.
-/
def answer (invocation : Invocation) (environment : Environment)
    (source : Except Source.FileFault Text) : Except Source.FileFault Response :=
  let plain := invocation.printsPlain environment
  match source with
  | .ok text =>
    .ok (invocation.respond plain (Analysis.analyze (invocation.config environment) text))
  | .error fault =>
    if fault.isReported then
      let message := (fault.fault invocation.input).text
      .ok ⟨1, Report.Terminal.print [Report.Terminal.errorLine plain message], invocation.minimal⟩
    else .error fault

end Invocation

/--
The response to arguments, given what standard input and the files of a folder hold.

There is none for a path that no file can have.
-/
def run (environment : Environment) (standardInput : Text) (folder : Source.Folder)
    (arguments : List Text) : Except Source.FileFault Response :=
  match parse arguments with
  | .run invocation =>
    let source :=
      if invocation.readsStandardInput then .ok (Source.normalizeBreaks standardInput)
      else folder.readText invocation.input
    invocation.answer environment source
  | .showVersion => .ok ⟨0, Report.render [version], false⟩
  | .showHelp => .ok ⟨0, Report.render [usage], false⟩
  | .misuse => .ok ⟨2, "", false⟩

end SourceLint.Command
