import SourceLint.SymbolTable

/-!
Symbol tables as objects in memory.

A table leads to its scopes, a scope to its variables, and a variable can be changed by everyone who
knows where it is. A table counts its scopes beside the list of them and keeps the global one apart,
so these can only be told to agree by looking at every operation.
-/

namespace SourceLint

/-- Where an object is: the number of objects of its kind that were made before it. -/
abbrev Address := Nat

/-- What memory has of a variable. Its name is kept by the scope that leads to it. -/
structure Cell where
  type : VarType
  /-- Whether it has been given a value. -/
  initialized : Bool := false
  /-- The line that declares it, zero when that is not known. -/
  line : Int := 0
deriving DecidableEq

/-- The variable that a cell is when it is reached by a name. -/
def Cell.named (cell : Cell) (name : Text) : Symbol :=
  ⟨name, cell.type, cell.initialized, cell.line⟩

/-- A name of a scope, and where its variable is. -/
structure Binding where
  name : Text
  cell : Address
deriving DecidableEq

/-- A table: where its scopes are, how many of them there are, and which one is the global one. -/
structure TableObject where
  /-- The open scopes, the global one first. -/
  scopes : List Address
  /-- How many scopes are open inside the global one. -/
  level : Nat := 0
  /-- The global scope. -/
  globals : Address
deriving DecidableEq

/-- All objects of a run. None of them is ever taken away. -/
structure Memory where
  cells : List Cell := []
  scopes : List (List Binding) := []
  tables : List TableObject := []
deriving DecidableEq

namespace Memory

/-- Makes a variable. -/
def newCell (memory : Memory) (cell : Cell) : Memory × Address :=
  ({ memory with cells := memory.cells ++ [cell] }, memory.cells.length)

/-- Makes a table with an empty global scope. -/
def newTable (memory : Memory) : Memory × Address :=
  -- The list of open scopes and the table itself lead to the same scope.
  let scope := memory.scopes.length
  ({ memory with
      scopes := memory.scopes ++ [[]]
      tables := memory.tables ++ [{ scopes := [scope], globals := scope }] },
    memory.tables.length)

/-- The names of a scope, in the order of their declaration. -/
def bindings (memory : Memory) (scope : Address) : List Binding :=
  memory.scopes[scope]?.getD []

/-- Where the variable of a scope with the given name is, and what it holds. -/
def lookupIn (memory : Memory) (scope : Address) (name : Text) : Option (Address × Cell) :=
  ((memory.bindings scope).find? fun binding => binding.name == name).bind fun binding =>
    memory.cells[binding.cell]?.map fun cell => (binding.cell, cell)

/-- The variables of a scope. -/
def readScope (memory : Memory) (scope : Address) : Scope :=
  (memory.bindings scope).filterMap fun binding =>
    memory.cells[binding.cell]?.map fun cell => cell.named binding.name

variable (memory : Memory) (table : Address)

/-- Opens a scope inside the current one of a table. -/
def enter : Memory :=
  { memory with
    scopes := memory.scopes ++ [[]]
    tables := memory.tables.modify table fun object =>
      { object with
        scopes := object.scopes ++ [memory.scopes.length]
        level := object.level + 1 } }

/-- Closes the current scope of a table, unless its counter says that this is the global one. -/
def exit : Memory :=
  { memory with
    tables := memory.tables.modify table fun object =>
      if 0 < object.level then
        { object with
          scopes := object.scopes.dropLast
          level := object.level - 1 }
      else object }

/-- The current scope of a table, found by its counter. -/
def currentScope? : Option Address :=
  memory.tables[table]?.bind fun object => object.scopes[object.level]?

/-- Where the variable of the current scope with the given name is, and what it holds. -/
def lookupCurrent (name : Text) : Option (Address × Cell) :=
  (memory.currentScope? table).bind fun scope => memory.lookupIn scope name

/-- Where the variable is that a name stands for, in the innermost scope that has it. -/
def lookup (name : Text) : Option (Address × Cell) :=
  memory.tables[table]?.bind fun object =>
    object.scopes.reverse.findSome? fun scope => memory.lookupIn scope name

/-- Puts a name into the current scope of a table, unless it is taken there. -/
def bind (binding : Binding) : Memory :=
  if (memory.lookupCurrent table binding.name).isSome then memory
  else
    match memory.currentScope? table with
    | some scope => { memory with scopes := memory.scopes.modify scope (· ++ [binding]) }
    | none => memory

/-- Makes a variable and puts its name into the current scope of a table. -/
def declare (symbol : Symbol) : Memory :=
  let (memory, cell) := memory.newCell ⟨symbol.type, symbol.initialized, symbol.line⟩
  memory.bind table ⟨symbol.name, cell⟩

/-- Notes that the variable at an address has a value. -/
def setInitialized (cell : Address) : Memory :=
  { memory with cells := memory.cells.modify cell fun cell => { cell with initialized := true } }

/-- Notes that the variable a name stands for has a value. -/
def markInitialized (name : Text) : Memory :=
  match memory.lookup table name with
  | some (cell, _) => memory.setInitialized cell
  | none => memory

/-- The variables of the current scope of a table. -/
def items : Scope :=
  ((memory.currentScope? table).map memory.readScope).getD []

/-- The variables of the current scope that never got a value. -/
def uninitialized : Scope :=
  (memory.items table).filter fun symbol => !symbol.initialized

/-- The names of the global scope that the table has kept. -/
def globalBindings : List Binding :=
  (memory.tables[table]?.map fun object => memory.bindings object.globals).getD []

/-- The variables of the global scope that the table has kept. -/
def globals : Scope :=
  (memory.tables[table]?.map fun object => memory.readScope object.globals).getD []

/-- A table as its scopes are read now. -/
def read : SymbolTable :=
  match (memory.tables[table]?.map fun object => object.scopes.reverse.map memory.readScope) with
  | some (current :: enclosing) => { current, enclosing }
  | _ => {}

end Memory

end SourceLint
