import SourceLint.Memory
import SourceLint.Proofs.Scopes

/-!
Tables that memory holds.

A table in memory is read as a symbol table if all it leads to was made for it alone: no scope is
open twice, and no variable is led to by two names. Then a write through one name is seen by this
name only, so every operation does to the reading what it does to a symbol table.

All of this is told relative to an earlier memory. The objects of the table were made later, and so
no operation on it changes an object that was there before.
-/

namespace SourceLint

/-- A change behind the end of a front leaves the front as it is. -/
theorem prefix_modify {α : Type} {front list : List α} (kept : front <+: list) {index : Nat}
    (behind : front.length ≤ index) (change : α → α) : front <+: list.modify index change := by
  -- An entry of the front has another index than the one that is changed.
  rw [List.prefix_iff_getElem?] at kept ⊢
  intro place inside
  rw [List.getElem?_modify, kept place inside, Option.map_eq_map, Option.map_some,
    if_neg (by omega)]

namespace Memory

/-- Memory in which all objects of an earlier one are as they were. -/
structure Extends (base memory : Memory) : Prop where
  cells : base.cells <+: memory.cells
  scopes : base.scopes <+: memory.scopes
  tables : base.tables <+: memory.tables

/-- A name that leads to the given variable, which was made after an earlier memory. -/
structure Leads (base memory : Memory) (binding : Binding) (symbol : Symbol) : Prop where
  new : base.cells.length ≤ binding.cell
  cell : ∃ cell, memory.cells[binding.cell]? = some cell ∧ cell.named binding.name = symbol

/-- A scope with the given variables, all made after an earlier memory. -/
structure Shows (base memory : Memory) (address : Address) (scope : Scope) : Prop where
  new : base.scopes.length ≤ address
  inside : address < memory.scopes.length
  leads : List.Forall₂ (base.Leads memory) (memory.bindings address) scope

/-- Where the variables of a scope are. -/
def cellsOf (memory : Memory) (address : Address) : List Address :=
  (memory.bindings address).map Binding.cell

/-- A table object that is read as a symbol table, and whose scopes and variables are its own. -/
structure Backs (base memory : Memory) (object : TableObject) (table : SymbolTable) : Prop where
  -- The counter and the global scope that are kept agree with the list of scopes.
  level : object.scopes.length = object.level + 1
  globals : object.scopes.head? = some object.globals
  scopes : List.Forall₂ (base.Shows memory) object.scopes.reverse table.stack
  -- No two scopes of the list are one object, and neither are two variables of them.
  apart : object.scopes.reverse.Nodup
  unshared : (object.scopes.reverse.flatMap memory.cellsOf).Nodup
  distinct : ∀ scope ∈ table.stack, (scope.map Symbol.name).Nodup

/-- Memory that holds a table at an address, and has all objects of an earlier memory unchanged. -/
structure Holds (base : Memory) (address : Address) (memory : Memory) (table : SymbolTable) :
    Prop where
  extension : base.Extends memory
  new : base.tables.length ≤ address
  object : ∃ object, memory.tables[address]? = some object ∧ base.Backs memory object table

variable {base memory later : Memory} {address scope : Address} {table : SymbolTable}
  {content : Scope} {object : TableObject} {contents : List Scope} {stack : List Address}
  {name : Text}

namespace Extends

/-- Nothing has changed as long as nothing is done. -/
theorem refl (memory : Memory) : memory.Extends memory :=
  ⟨List.prefix_rfl, List.prefix_rfl, List.prefix_rfl⟩

/-- What was there at first is there after two steps. -/
theorem trans (first : base.Extends memory) (second : memory.Extends later) :
    base.Extends later :=
  -- Each of the three lists is a beginning of the next one.
  ⟨first.cells.trans second.cells, first.scopes.trans second.scopes,
    first.tables.trans second.tables⟩

/-- A scope that was there has the names it had. -/
theorem bindings (extension : memory.Extends later) (inside : scope < memory.scopes.length) :
    later.bindings scope = memory.bindings scope := by
  -- The entry of a front is the entry of the whole.
  have same := List.prefix_iff_getElem?.mp extension.scopes scope inside
  rw [Memory.bindings, Memory.bindings, same, List.getElem?_eq_getElem inside]

end Extends

/-- A name leads to the same variable as long as this is not changed. -/
theorem Leads.of_same {binding : Binding} {symbol : Symbol}
    (leads : base.Leads memory binding symbol)
    (same : later.cells[binding.cell]? = memory.cells[binding.cell]?) :
    base.Leads later binding symbol := by
  -- The name leads to the same cell, which holds the same.
  obtain ⟨new, cell, found, named⟩ := leads
  exact ⟨new, cell, same.trans found, named⟩

namespace Shows

/-- A scope shows the same as long as it has its names and these lead to what they led to. -/
theorem of_same (shown : base.Shows memory scope content)
    (inside : scope < later.scopes.length)
    (names : later.bindings scope = memory.bindings scope)
    (cells : ∀ cell ∈ memory.cellsOf scope, later.cells[cell]? = memory.cells[cell]?) :
    base.Shows later scope content := by
  refine ⟨shown.new, inside, ?_⟩
  rw [names]
  -- Only names of this scope are asked for their variables.
  refine (List.forall₂_iff_zip.mpr ⟨shown.leads.length_eq, fun {binding symbol} paired => ?_⟩)
  have leads := (List.forall₂_iff_zip.mp shown.leads).2 paired
  exact leads.of_same (cells _ (List.mem_map_of_mem (List.of_mem_zip paired).1))

/-- The variables of a scope are in memory, and were made after the earlier one. -/
theorem cell_bounds (shown : base.Shows memory scope content) {cell : Address}
    (member : cell ∈ memory.cellsOf scope) :
    base.cells.length ≤ cell ∧ cell < memory.cells.length := by
  obtain ⟨binding, listed, rfl⟩ := List.mem_map.mp member
  -- Every name of the scope leads somewhere.
  obtain ⟨symbol, -, leads⟩ := exists_of_forall₂ shown.leads listed
  obtain ⟨content, found, -⟩ := leads.cell
  exact ⟨leads.new, (List.getElem?_eq_some_iff.mp found).1⟩

/-- A scope is read with the variables that it shows. -/
theorem readScope_eq (shown : base.Shows memory scope content) :
    memory.readScope scope = content := by
  -- The scope is read name by name.
  obtain ⟨-, -, leads⟩ := shown
  rw [readScope]
  generalize memory.bindings scope = names at leads
  -- Every name leads to a variable, so none is passed over.
  induction leads with
  | nil => rfl
  | cons here _ ih =>
    obtain ⟨cell, found, rfl⟩ := here.cell
    rw [List.filterMap_cons, found, Option.map_some, ih]

/-- A name is found in a scope with the variable that it shows for it. -/
theorem map_lookupIn (shown : base.Shows memory scope content) (name : Text) :
    (memory.lookupIn scope name).map (fun found => found.2.named name) = content.lookup name := by
  -- The name is looked for among those of the scope.
  obtain ⟨-, -, leads⟩ := shown
  rw [lookupIn, Scope.lookup]
  generalize memory.bindings scope = names at leads
  -- The names of the scope are those of the variables, in the same order.
  induction leads with
  | nil => rfl
  | @cons binding symbol _ _ here _ ih =>
    obtain ⟨cell, found, rfl⟩ := here.cell
    have named : (cell.named binding.name).name = binding.name := rfl
    rw [List.find?_cons, List.find?_cons, named]
    cases same : binding.name == name with
    | true => simp [found, Cell.named, beq_iff_eq.mp same]
    | false => exact ih

/-- A name that is found in a scope is one of its names, and its variable is read. -/
theorem exists_of_lookupIn {cell : Address} {value : Cell}
    (found : memory.lookupIn scope name = some (cell, value)) :
    ∃ binding ∈ memory.bindings scope,
      binding.name = name ∧ binding.cell = cell ∧ memory.cells[cell]? = some value := by
  obtain ⟨binding, looked, read⟩ := Option.bind_eq_some_iff.mp found
  obtain ⟨content, there, same⟩ := Option.map_eq_some_iff.mp read
  cases same
  -- The search stops at a name that is the given one.
  exact ⟨binding, List.mem_of_find?_eq_some looked, by simpa using List.find?_some looked, rfl,
    there⟩

/-- The names of a scope are those of the variables that it shows. -/
theorem map_name (shown : base.Shows memory scope content) :
    (memory.bindings scope).map Binding.name = content.map Symbol.name := by
  -- The names are compared one by one.
  obtain ⟨-, -, leads⟩ := shown
  generalize memory.bindings scope = names at leads
  -- A variable has the name that leads to it.
  induction leads with
  | nil => rfl
  | cons here _ ih =>
    obtain ⟨cell, -, rfl⟩ := here.cell
    rw [List.map_cons, List.map_cons, ih]
    rfl

end Shows

/-- Names are found in the innermost scope that has them, in memory as in a symbol table. -/
theorem map_findSome?_lookupIn (shown : List.Forall₂ (base.Shows memory) stack contents)
    (name : Text) :
    (stack.findSome? fun scope => memory.lookupIn scope name).map
        (fun found => found.2.named name) =
      contents.findSome? fun scope => scope.lookup name := by
  -- Both searches pass over the same scopes.
  induction shown with
  | nil => rfl
  | @cons scope content _ _ here _ ih =>
    rw [List.findSome?_cons, List.findSome?_cons, ← here.map_lookupIn name]
    cases memory.lookupIn scope name with
    | none => exact ih
    | some found => rfl

namespace Backs

/-- The current scope of a table is the last one of its list, where its counter points. -/
theorem exists_top (backs : base.Backs memory object table) :
    ∃ top outers, object.scopes.reverse = top :: outers ∧
      object.scopes = outers.reverse ++ [top] ∧ object.scopes[object.level]? = some top ∧
      base.Shows memory top table.current ∧
      List.Forall₂ (base.Shows memory) outers table.enclosing := by
  -- The scopes of the table are listed the other way round in memory.
  have shown := backs.scopes
  rw [SymbolTable.stack] at shown
  obtain ⟨top, outers, here, around, split⟩ := List.forall₂_cons_right_iff.mp shown
  have whole : object.scopes = outers.reverse ++ [top] := by
    rw [← List.reverse_reverse object.scopes, split, List.reverse_cons]
  -- The counter is one less than the number of scopes.
  have level : object.level = outers.reverse.length := by
    have size := backs.level
    rw [whole, List.length_append, List.length_singleton] at size
    omega
  refine ⟨top, outers, split, whole, ?_, here, around⟩
  rw [level, whole, List.getElem?_append_right (Nat.le_refl _), Nat.sub_self]
  rfl

/-- The global scope that is kept shows the global variables. -/
theorem shows_globals (backs : base.Backs memory object table) :
    base.Shows memory object.globals table.globals := by
  -- In the order of the symbol table the scopes are the contents, from the bottom up.
  have shown : List.Forall₂ (base.Shows memory) object.scopes table.scopes := by
    rw [SymbolTable.scopes, ← List.reverse_reverse object.scopes]
    exact List.rel_reverse backs.scopes
  -- Both are at the bottom.
  have kept := backs.globals
  have bottom := SymbolTable.head?_scopes table
  generalize object.scopes = scopes at shown kept
  generalize table.scopes = contents at shown bottom
  cases shown with
  | nil => simp at kept
  | cons here _ =>
    rw [List.head?_cons, Option.some.injEq] at kept bottom
    exact kept ▸ bottom ▸ here

/-- A table is backed as long as its scopes have their names and these their variables. -/
theorem of_same (backs : base.Backs memory object table)
    (inside : memory.scopes.length ≤ later.scopes.length)
    (names : ∀ scope ∈ object.scopes.reverse, later.bindings scope = memory.bindings scope)
    (cells : ∀ cell, base.cells.length ≤ cell → cell < memory.cells.length →
      later.cells[cell]? = memory.cells[cell]?) :
    base.Backs later object table := by
  -- A scope with the same names leads to the same cells.
  have same : ∀ scope ∈ object.scopes.reverse, later.cellsOf scope = memory.cellsOf scope := by
    intro scope member
    rw [cellsOf, cellsOf, names scope member]
  refine ⟨backs.level, backs.globals, ?_, backs.apart, ?_, backs.distinct⟩
  · -- Every scope shows its content, since neither its names nor their cells are touched.
    refine List.forall₂_iff_zip.mpr ⟨backs.scopes.length_eq, fun {scope content} paired => ?_⟩
    have shown := (List.forall₂_iff_zip.mp backs.scopes).2 paired
    refine shown.of_same (Nat.lt_of_lt_of_le shown.inside inside)
      (names scope (List.of_mem_zip paired).1) fun cell member => ?_
    obtain ⟨new, old⟩ := shown.cell_bounds member
    exact cells cell new old
  · rw [List.flatMap_congr same]
    exact backs.unshared

end Backs

end Memory

end SourceLint
