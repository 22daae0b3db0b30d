import SourceLint.Emoji
import SourceLint.Report
import SourceLint.Report.Markup
import SourceLint.Text.CellWidth

/-! What a run prints: styled lines and a boxed table, or plain text in minimal mode. -/

namespace SourceLint.Report.Terminal

/-- A line to print. -/
inductive Line where
  /-- Text without tags. -/
  | plain (text : String)
  /-- Text with style tags in it. -/
  | styled (markup : Text)

/-- The cells between two tab stops. -/
def tabWidth : Nat := 8

/-- Control characters that a terminal line does not show. -/
def isHidden (c : Char) : Bool :=
  [0x07, 0x08, 0x0b, 0x0c, 0x0d].contains c.toNat

/-- Spaces up to the next tab stop for every tab, from the given cell on. -/
def expandTabs : (cell : Nat) → Text → Text
  | _, [] => []
  | cell, c :: rest =>
    if c = '\t' then
      let width := tabWidth - cell % tabWidth
      List.replicate width ' ' ++ expandTabs (cell + width) rest
    else if c = '\n' then c :: expandTabs 0 rest
    else c :: expandTabs (cell + Text.cellWidth c) rest

/-- The pieces of a line within which emoji codes are looked for. -/
def Line.pieces : Line → List Text
  | plain text => [text.toList]
  | styled markup => Markup.pieces markup

/-- A line as a terminal shows it. -/
def Line.shown (line : Line) : String :=
  let characters := line.pieces.flatMap Emoji.expand
  String.ofList (expandTabs 0 (characters.filter fun c => !isHidden c))

/-- The line that announces a stage of the output. -/
def stageLine (minimal : Bool) (step : Nat) (title : String) : Line :=
  let counter := (toString step ++ "/3").toList
  let front :=
    if minimal then '[' :: (counter ++ [']'])
    else Markup.Style.cyan.wrap ['●'] ++ ' ' :: Markup.Style.bold.wrap counter
  .styled (front ++ ' ' :: Markup.escape title.toList)

/-- A line that tells how a run went: a label and a message. -/
def verdictLine (minimal : Bool) (short long : String) (style : Markup.Style) (message : String) :
    Line :=
  let label := if minimal then ("[" ++ short ++ "]").toList else style.wrap (long ++ ":").toList
  .styled (label ++ ' ' :: Markup.escape message.toList)

/-- The line that tells a failure. -/
def errorLine (minimal : Bool) (message : String) : Line :=
  verdictLine minimal "ERROR" "Error" .red message

/-- The line that tells a success. -/
def successLine (minimal : Bool) (message : String) : Line :=
  verdictLine minimal "OK" "Success" .green message

/-- The style that tells errors from warnings. -/
def styleOf : Level → Markup.Style
  | .error => .red
  | .warning => .yellow

/-- The line for a message about the source. -/
def diagnosticLine (minimal : Bool) (diagnostic : Diagnostic) : Line :=
  if minimal then .plain diagnostic.text
  else .styled ((styleOf diagnostic.level).wrap (Markup.escape diagnostic.text.toList))

/-- The lines of the token report. -/
def tokenLines (tokens : List Token) : List Line :=
  (Report.tokenLines tokens).map .plain

/-- A text filled up with spaces on the left. -/
def padLeft (width : Nat) (text : String) : String :=
  String.ofList (List.replicate (width - text.length) ' ') ++ text

/-- A title in the middle of a width, the odd space on the right. -/
def center (width : Nat) (title : String) : String :=
  let left := (width - title.length) / 2
  padRight width (String.ofList (List.replicate left ' ') ++ title)

/-- The cells of a row of the symbol table. -/
structure Row where
  name : String
  type : String
  initialized : String
  line : String

namespace Row

/-- The head of the symbol table. -/
def head : Row :=
  ⟨"Identifier", "Type", "Initialized", "Line"⟩

/-- The row of a variable. -/
def ofSymbol (symbol : Symbol) : Row :=
  ⟨String.ofList symbol.name, String.ofList symbol.type.spelling, yesNo symbol.initialized,
    toString symbol.line⟩

/-- The cells from left to right. -/
def cells (row : Row) : List String :=
  [row.name, row.type, row.initialized, row.line]

end Row

/-- The widths of the columns: as wide as the longest cell of each. -/
def columnWidths (rows : List Row) : List Nat :=
  [Row.name, Row.type, Row.initialized, Row.line].map fun cell =>
    (rows.map fun row => (cell row).length).foldl max 0

/-- Pieces between a left and a right border, with dividers between them. -/
def bordered (left divider right : String) (pieces : List String) : String :=
  left ++ String.intercalate divider pieces ++ right

/-- A horizontal line across all columns. -/
def ruleLine (fill : Char) (left divider right : String) (widths : List Nat) : String :=
  bordered left divider right
    (widths.map fun width => String.ofList (List.replicate (width + 2) fill))

/-- The cells of a row filled up to the widths of their columns, the last one on its left. -/
def padCells : List Nat → List String → List String
  | [width], [cell] => [" " ++ padLeft width cell ++ " "]
  | width :: widths, cell :: cells => (" " ++ padRight width cell ++ " ") :: padCells widths cells
  | _, _ => []

/-- A row of the table with its borders. -/
def rowLine (border : String) (widths : List Nat) (row : Row) : String :=
  bordered border border border (padCells widths row.cells)

/-- The symbol table in a box, with a title above it. -/
def symbolBox (table : SymbolTable) : List String :=
  let rows := table.globals.map Row.ofSymbol
  let widths := columnWidths (Row.head :: rows)
  let total := (widths.map (· + 3)).foldl (· + ·) 1
  [center total "Symbol Table", ruleLine '━' "┏" "┳" "┓" widths, rowLine "┃" widths Row.head,
    ruleLine '━' "┡" "╇" "┩" widths] ++ rows.map (rowLine "│" widths) ++
    [ruleLine '─' "└" "┴" "┘" widths]

/-- The symbol table as it is printed. -/
def symbolTable (minimal : Bool) (table : SymbolTable) : List Line :=
  (if minimal then symbolLines table else symbolBox table).map .plain

/-- Lines as they are printed. -/
def print (lines : List Line) : String :=
  render (lines.map Line.shown)

end SourceLint.Report.Terminal
