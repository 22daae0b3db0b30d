import SourceLint.Diagnostic
import SourceLint.SymbolTable
import SourceLint.Token

/-! The plain reports of a run, line by line. -/

namespace SourceLint.Report

/-- What is said of a run without any message. -/
def success : String :=
  "Compilation successful. No syntax errors found."

/-- A text filled up with spaces on the right. A longer one is not cut. -/
def padRight (width : Nat) (text : String) : String :=
  text ++ String.ofList (List.replicate (width - text.length) ' ')

/-- The word for whether a variable has a value. -/
def yesNo (value : Bool) : String :=
  if value then "Yes" else "No"

/-- A row of the symbol report. -/
def symbolRow (name type initialized : String) : String :=
  padRight 15 name ++ " | " ++ padRight 10 type ++ " | " ++ padRight 10 initialized

/-- The line above and below the head of the symbol report. -/
def symbolRule : String :=
  String.ofList (List.replicate 40 '-')

/-- The symbol report on a scope: a head and a row for every variable. -/
def scopeLines (scope : Scope) : List String :=
  ["SYMBOL TABLE:", symbolRule, symbolRow "IDENTIFIER" "TYPE" "INITIALIZED", symbolRule] ++
    scope.map fun symbol =>
      symbolRow (String.ofList symbol.name) (String.ofList symbol.type.spelling)
        (yesNo symbol.initialized)

/-- The symbol report, which is about the global variables. -/
def symbolLines (table : SymbolTable) : List String :=
  scopeLines table.globals

/-- The token report. -/
def tokenLines (tokens : List Token) : List String :=
  tokens.map Token.text

/-- The message report. -/
def diagnosticLines (diagnostics : List Diagnostic) : List String :=
  diagnostics.map Diagnostic.text

/-- Lines as one text, each ended by a line break. -/
def render (lines : List String) : String :=
  String.join (lines.map (· ++ "\n"))

end SourceLint.Report
