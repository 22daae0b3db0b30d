import SourceLint.Analysis
import SourceLint.Command
import SourceLint.Command.Options
import SourceLint.Comment
import SourceLint.Config
import SourceLint.DataType
import SourceLint.Declaration
import SourceLint.Diagnostic
import SourceLint.Diagnostic.Log
import SourceLint.Emoji
import SourceLint.Emoji.Face
import SourceLint.Emoji.Nature
import SourceLint.Emoji.Object
import SourceLint.Emoji.Person
import SourceLint.Emoji.Recent
import SourceLint.Emoji.Region
import SourceLint.Emoji.Sequence
import SourceLint.Emoji.Symbol
import SourceLint.Emoji.Travel
import SourceLint.Fault
import SourceLint.Finding
import SourceLint.LineShape
import SourceLint.Main
import SourceLint.MainFunction
import SourceLint.Proofs.Comment
import SourceLint.Proofs.Insertion.Comment
import SourceLint.Proofs.Insertion.Edge
import SourceLint.Proofs.Insertion.MainBody
import SourceLint.Proofs.Insertion.MainFunction
import SourceLint.Proofs.Insertion.MainHeader
import SourceLint.Proofs.Insertion.Mask
import SourceLint.Proofs.Insertion.Reading
import SourceLint.Proofs.Insertion.Token
import SourceLint.Proofs.Log
import SourceLint.Proofs.MainFunction
import SourceLint.Proofs.Reading
import SourceLint.Proofs.Renumber
import SourceLint.Proofs.Rescan.Agreement
import SourceLint.Proofs.Rescan.Attribution
import SourceLint.Proofs.Rescan.Rule
import SourceLint.Proofs.Rescan.Table
import SourceLint.Proofs.Rescan.Tracker
import SourceLint.Proofs.Spacing
import SourceLint.Proofs.StraightLine.Arithmetic
import SourceLint.Proofs.StraightLine.Definition
import SourceLint.Proofs.StraightLine.Literal
import SourceLint.Proofs.StraightLine.Program
import SourceLint.Proofs.StraightLine.Silence
import SourceLint.Proofs.Table
import SourceLint.Proofs.Text.Class
import SourceLint.Proofs.Text.Lines
import SourceLint.Proofs.Text.Masking
import SourceLint.Proofs.Text.Number
import SourceLint.Proofs.Text.Scanning
import SourceLint.Proofs.Text.Span
import SourceLint.Proofs.Text.Splitting
import SourceLint.Report
import SourceLint.Report.Json
import SourceLint.Report.Markup
import SourceLint.Report.Terminal
import SourceLint.Rule
import SourceLint.Rule.BranchShape
import SourceLint.Rule.DanglingElse
import SourceLint.Rule.KeywordCase
import SourceLint.Rule.MixedTypes
import SourceLint.Rule.Operators
import SourceLint.Rule.RightHandSide
import SourceLint.Rule.Semicolon
import SourceLint.Rule.StrayCharacter
import SourceLint.Rule.StringArithmetic
import SourceLint.Rule.Undeclared
import SourceLint.Source.File
import SourceLint.Source.Utf8
import SourceLint.Statement
import SourceLint.SymbolTable
import SourceLint.Text.Alphanumeric
import SourceLint.Text.Basic
import SourceLint.Text.Bracket
import SourceLint.Text.CellWidth
import SourceLint.Text.Class
import SourceLint.Text.Decimal
import SourceLint.Text.Literal
import SourceLint.Text.Number
import SourceLint.Text.Position
import SourceLint.Text.Quoted
import SourceLint.Text.Unprintable
import SourceLint.Token
import SourceLint.Token.Lexer
import SourceLint.Validator
import SourceLint.Value
import SourceLint.Vocabulary
import SourceLint.Proofs.Comment.Reader
import SourceLint.Proofs.Comment.Block
import SourceLint.Proofs.Comment.Lines
import SourceLint.Proofs.Comment.Uncommented
import SourceLint.Proofs.Comment.Literal
import SourceLint.Proofs.Commentless
import SourceLint.Proofs.Growth.Line
import SourceLint.Proofs.Growth.Program
import SourceLint.Proofs.MainOutline
import SourceLint.Proofs.Stages
import SourceLint.Proofs.Lookahead.Rule
import SourceLint.Proofs.Lookahead.Header
import SourceLint.Proofs.Lookahead.Front
import SourceLint.Proofs.Lookahead.Run
import SourceLint.Proofs.Text.Seam
import SourceLint.Proofs.Unset.Warning
import SourceLint.Proofs.MainLines
import SourceLint.Proofs.Unset.Place
import SourceLint.Proofs.Unset.Value
import SourceLint.Proofs.LineFront
import SourceLint.Proofs.Wording
import SourceLint.Proofs.Unset.Sweep
import SourceLint.Proofs.CircuitBreaker
import SourceLint.Proofs.Undeclared.Lookup
import SourceLint.Proofs.Undeclared.Line
import SourceLint.Proofs.Undeclared.Main
import SourceLint.Proofs.Redeclaration.Item
import SourceLint.Proofs.Redeclaration.Report
import SourceLint.Proofs.Nesting.Line
import SourceLint.Proofs.Nesting.Program
import SourceLint.Proofs.Nesting.Tracker
import SourceLint.Proofs.Tokens
import SourceLint.Proofs.Comment.Break
import SourceLint.Proofs.Lexeme
import SourceLint.Proofs.Sinks
import SourceLint.Proofs.Standing
import SourceLint.Proofs.Declared.Place
import SourceLint.Proofs.Declared.Token
import SourceLint.Proofs.Keyword
import SourceLint.Proofs.StraightLine.Statement
import SourceLint.Proofs.Items.Reading
import SourceLint.Proofs.Items.Entering
import SourceLint.Proofs.Matching.Brace
import SourceLint.Proofs.Matching.Block
import SourceLint.Proofs.Matching.Line
import SourceLint.Proofs.Matching.Else
import SourceLint.Proofs.Statements.Beside
import SourceLint.Proofs.Statements.LoopClause
import SourceLint.Proofs.Statements.EmptyValue
import SourceLint.Proofs.Statements.Assigning
import SourceLint.Proofs.Locating.Body
import SourceLint.Proofs.Locating.Lines
import SourceLint.Proofs.Locating.Word
import SourceLint.Proofs.Masked.MixedTypes
import SourceLint.Proofs.Masked.Structure
import SourceLint.Proofs.Sections
import SourceLint.Proofs.Collapsing
import SourceLint.Proofs.Scopes
import SourceLint.Proofs.Text.Enclosing
import SourceLint.Proofs.Statements.Headers
import SourceLint.Proofs.Nesting.Depth
import SourceLint.Proofs.Masked.Content
import SourceLint.Proofs.Chain
import SourceLint.Proofs.Statements.Condition
import SourceLint.Proofs.Text.Pieces
import SourceLint.Proofs.Statements.NormalForm
import SourceLint.Memory
import SourceLint.Memory.Pass
import SourceLint.Memory.Session
import SourceLint.Proofs.Memory.Holding
import SourceLint.Proofs.Memory.Operation
import SourceLint.Proofs.Memory.Rule
import SourceLint.Proofs.Memory.Session
import SourceLint.Proofs.Memory.Unwinding
import SourceLint.Proofs.Unset.Message
