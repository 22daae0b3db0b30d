import SourceLint.DataType

/-! Declared variables, kept scope by scope in the order of their declaration. -/

namespace SourceLint

/-- A declared variable. -/
structure Symbol where
  name : Text
  type : VarType
  /-- Whether it has been given a value. -/
  initialized : Bool := false
  /-- The line that declares it, zero when that is not known. -/
  line : Int := 0
deriving DecidableEq

/-- The variables of one scope, in the order of their declaration. -/
abbrev Scope := List Symbol

namespace Scope

/-- The variable of the scope with the given name. -/
def lookup (scope : Scope) (name : Text) : Option Symbol :=
  scope.find? fun symbol => symbol.name == name

/-- Notes that the variable with the given name has a value. -/
def markInitialized (scope : Scope) (name : Text) : Scope :=
  scope.map fun symbol =>
    if symbol.name == name then { symbol with initialized := true } else symbol

end Scope

/-- The scopes that are open at some point of a program. There is always at least one. -/
structure SymbolTable where
  /-- The innermost scope, which takes new declarations. -/
  current : Scope := []
  /-- The scopes around it, the global one last. -/
  enclosing : List Scope := []
deriving DecidableEq

namespace SymbolTable

/-- Every open scope, innermost first. -/
def stack (table : SymbolTable) : List Scope :=
  table.current :: table.enclosing

/-- Every open scope, the global one first. -/
def scopes (table : SymbolTable) : List Scope :=
  table.stack.reverse

/-- The outermost scope. -/
def globals (table : SymbolTable) : Scope :=
  table.enclosing.getLast?.getD table.current

/-- How many scopes are open inside the global one. -/
def level (table : SymbolTable) : Nat :=
  table.enclosing.length

/-- Opens a scope inside the current one. -/
def enter (table : SymbolTable) : SymbolTable :=
  { current := [], enclosing := table.stack }

/-- Closes the current scope. The global scope stays open. -/
def exit (table : SymbolTable) : SymbolTable :=
  match table.enclosing with
  | outer :: outers => { current := outer, enclosing := outers }
  | [] => table

/-- The variable that a name stands for, found in the innermost scope that has it. -/
def lookup (table : SymbolTable) (name : Text) : Option Symbol :=
  table.stack.findSome? fun scope => scope.lookup name

/-- The variable of the current scope with the given name. -/
def lookupCurrent (table : SymbolTable) (name : Text) : Option Symbol :=
  table.current.lookup name

/-- Whether a name stands for a variable. -/
def declares (table : SymbolTable) (name : Text) : Bool :=
  (table.lookup name).isSome

/-- Adds a variable to the current scope, unless its name is taken there. -/
def declare (table : SymbolTable) (symbol : Symbol) : SymbolTable :=
  if (table.lookupCurrent symbol.name).isSome then table
  else { table with current := table.current ++ [symbol] }

/-- A table whose global scope holds the given variables, of which the first of each name counts. -/
def ofSymbols (symbols : List Symbol) : SymbolTable :=
  symbols.foldl declare {}

/-- Marks a name in the innermost of the scopes that has it. -/
def markIn (name : Text) : List Scope → List Scope
  | [] => []
  | scope :: outers =>
    if (scope.lookup name).isSome then scope.markInitialized name :: outers
    else scope :: markIn name outers

/-- Notes that the variable a name stands for has a value. -/
def markInitialized (table : SymbolTable) (name : Text) : SymbolTable :=
  if (table.lookupCurrent name).isSome then
    { table with current := table.current.markInitialized name }
  else
    { table with enclosing := markIn name table.enclosing }

/-- The variables of the current scope that never got a value. -/
def uninitialized (table : SymbolTable) : List Symbol :=
  table.current.filter fun symbol => !symbol.initialized

/-- Runs one step after another on a table and collects what they find. -/
def runAll {α β : Type} (table : SymbolTable) (step : SymbolTable → α → SymbolTable × List β) :
    List α → SymbolTable × List β
  | [] => (table, [])
  | first :: others =>
    let (table, found) := step table first
    let (table, later) := table.runAll step others
    (table, found ++ later)

end SymbolTable

end SourceLint
