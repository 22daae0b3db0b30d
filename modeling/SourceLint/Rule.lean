import SourceLint.Rule.BranchShape
import SourceLint.Rule.DanglingElse
import SourceLint.Rule.KeywordCase
import SourceLint.Rule.MixedTypes
import SourceLint.Rule.Operators
import SourceLint.Rule.RightHandSide
import SourceLint.Rule.Semicolon
import SourceLint.Rule.StrayCharacter
import SourceLint.Rule.StringArithmetic
import SourceLint.Rule.Undeclared

/-! The checks of a line as one family, and what they share from one line to the next. -/

namespace SourceLint

/-- A check of single lines. -/
inductive Rule where
  | mixedTypes
  | stringArithmetic
  | danglingElse
  | keywordCase
  | missingSemicolon
  | emptyInitializer
  | undeclaredIdentifier
  | declarations
  | nestedAssignment
  | operators
  | strayCharacters
  | branchShape
deriving DecidableEq

namespace Rule

/-- All rules in the order in which a line is checked. -/
def all : List Rule :=
  [mixedTypes, stringArithmetic, danglingElse, keywordCase, missingSemicolon, emptyInitializer,
   undeclaredIdentifier, declarations, nestedAssignment, operators, strayCharacters, branchShape]

/-- The name by which a rule is chosen. -/
def name : Rule → String
  | mixedTypes => "multiple-data-types"
  | stringArithmetic => "string-arithmetic"
  | danglingElse => "dangling-else"
  | keywordCase => "keyword-case"
  | missingSemicolon => "missing-semicolon"
  | emptyInitializer => "empty-initialization"
  | undeclaredIdentifier => "undeclared-identifier"
  | declarations => "declarations"
  | nestedAssignment => "nested-assignment"
  | operators => "problematic-operators"
  | strayCharacters => "stray-characters"
  | branchShape => "if-else-structure"

/-- The title under which a rule is listed. -/
def title : Rule → String
  | mixedTypes => "MultipleDataTypesRule"
  | stringArithmetic => "StringArithmeticRule"
  | danglingElse => "ElseTracker"
  | keywordCase => "KeywordCaseRule"
  | missingSemicolon => "MissingSemicolonRule"
  | emptyInitializer => "EmptyInitializationRule"
  | undeclaredIdentifier => "UndeclaredIdentifierRule"
  | declarations => "DeclarationRule"
  | nestedAssignment => "NestedAssignmentRule"
  | operators => "ProblematicOperatorRule"
  | strayCharacters => "StrayCharacterRule"
  | branchShape => "IfElseStructureRule"

/-- The entry of a rule in a list of rules. -/
def listing (rule : Rule) : String :=
  "<" ++ rule.title ++ " " ++ rule.name ++ ">"

/-- Whether a rule checks the body of the main function only. -/
def isMainOnly : Rule → Bool
  | nestedAssignment | operators | strayCharacters | branchShape => true
  | _ => false

/-- Whether a finding of the rule keeps the rules after it from checking the line. -/
def breaksCircuit : Rule → Bool
  | mixedTypes => true
  | _ => false

/-- The rule with the given name. -/
def ofName? (name : String) : Option Rule :=
  all.find? fun rule => rule.name = name

/-- What the rules of a pass share. A rule that runs twice on a line finds what it left itself. -/
structure State where
  table : SymbolTable
  /-- What is remembered of the branches read so far. -/
  tracker : ElseTracker := {}

/-- The state with the branches forgotten. The symbols stay. -/
def State.reset (state : State) : State :=
  { state with tracker := {} }

/-- Checks one line. Only declarations, assignments and steps change the table. -/
def check (rule : Rule) (registration : Registration) (state : State) (line : Text) :
    State × List Finding :=
  match rule with
  | mixedTypes => (state, MixedTypes.check line)
  | stringArithmetic => (state, StringArithmetic.check state.table line)
  | danglingElse =>
    let (tracker, findings) := state.tracker.check line
    ({ state with tracker }, findings)
  | keywordCase => (state, KeywordCase.check line)
  | missingSemicolon => (state, Semicolon.check line)
  | emptyInitializer => (state, RightHandSide.checkEmpty line)
  | undeclaredIdentifier => (state, Undeclared.check state.table line)
  | declarations =>
    let (table, findings) := registration.enterLine state.table line
    ({ state with table }, findings)
  | nestedAssignment => (state, RightHandSide.checkNested line)
  | operators =>
    let (table, findings) := Operators.check state.table line
    ({ state with table }, findings)
  | strayCharacters => (state, StrayCharacter.check line)
  | branchShape => (state, BranchShape.check state.table line)

end Rule

end SourceLint
