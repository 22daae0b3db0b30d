import SourceLint.Proofs.Memory.Holding

/-!
What the operations on a table in memory do to its reading.

Each of them does to the reading what it does to a symbol table, and leaves alone what was there
before the table was made.
-/

namespace SourceLint.Memory

variable {base memory later : Memory} {address scope : Address} {table : SymbolTable}
  {content : Scope} {object : TableObject} {contents : List Scope} {stack : List Address}
  {name : Text}

namespace Holds

/-- A table that is held stays so in a memory that only has more objects. -/
theorem extend (holds : base.Holds address memory table) (extension : memory.Extends later) :
    base.Holds address later table := by
  -- All that the table uses was there before, and is where it was.
  obtain ⟨object, found, backs⟩ := holds.object
  obtain ⟨there, rfl⟩ := List.getElem?_eq_some_iff.mp found
  refine ⟨holds.extension.trans extension, holds.new, _,
    List.prefix_iff_getElem?.mp extension.tables address there, ?_⟩
  refine backs.of_same extension.scopes.length_le (fun scope member => ?_) fun cell _ inside => ?_
  · obtain ⟨content, -, shown⟩ := exists_of_forall₂ backs.scopes member
    exact extension.bindings shown.inside
  · rw [List.prefix_iff_getElem?.mp extension.cells cell inside, List.getElem?_eq_getElem inside]

/-- A name is found in the innermost scope that has it. -/
theorem map_lookup (holds : base.Holds address memory table) (name : Text) :
    (memory.lookup address name).map (fun found => found.2.named name) = table.lookup name := by
  -- The scopes are searched from the innermost one on both sides.
  obtain ⟨object, found, backs⟩ := holds.object
  rw [lookup, found, Option.bind_some, map_findSome?_lookupIn backs.scopes name]
  rfl

/-- A name is found in the current scope if the current scope of the symbol table has it. -/
theorem map_lookupCurrent (holds : base.Holds address memory table) (name : Text) :
    (memory.lookupCurrent address name).map (fun found => found.2.named name) =
      table.lookupCurrent name := by
  -- The current scope is the one that the counter points at.
  obtain ⟨object, found, backs⟩ := holds.object
  obtain ⟨top, outers, -, -, current, shown, -⟩ := backs.exists_top
  rw [lookupCurrent, currentScope?, found, Option.bind_some, current, Option.bind_some,
    shown.map_lookupIn name]
  rfl

/-- The current scope is read as that of the symbol table. -/
theorem items_eq (holds : base.Holds address memory table) :
    memory.items address = table.current := by
  -- The current scope shows that of the symbol table.
  obtain ⟨object, found, backs⟩ := holds.object
  obtain ⟨top, outers, -, -, current, shown, -⟩ := backs.exists_top
  rw [items, currentScope?, found, Option.bind_some, current, Option.map_some, Option.getD_some,
    shown.readScope_eq]

/-- The same variables have no value. -/
theorem uninitialized_eq (holds : base.Holds address memory table) :
    memory.uninitialized address = table.uninitialized := by
  -- The current scope is asked in both.
  rw [Memory.uninitialized, holds.items_eq, SymbolTable.uninitialized]

/-- The global scope that is kept is read as that of the symbol table. -/
theorem globals_eq (holds : base.Holds address memory table) :
    memory.globals address = table.globals := by
  -- The global scope that is kept shows the global variables.
  obtain ⟨object, found, backs⟩ := holds.object
  rw [Memory.globals, found, Option.map_some, Option.getD_some, backs.shows_globals.readScope_eq]

/-- The names of the global scope lead to the variables of the symbol table. -/
theorem leads_globalBindings (holds : base.Holds address memory table) :
    List.Forall₂ (base.Leads memory) (memory.globalBindings address) table.globals := by
  -- The global scope that is kept is the one whose names are read.
  obtain ⟨object, found, backs⟩ := holds.object
  rw [globalBindings, found, Option.map_some, Option.getD_some]
  exact backs.shows_globals.leads

/-- The whole table is read as the symbol table. -/
theorem read_eq (holds : base.Holds address memory table) : memory.read address = table := by
  -- Scope by scope the table shows the symbol table.
  obtain ⟨object, found, backs⟩ := holds.object
  have stacked : object.scopes.reverse.map memory.readScope = table.stack := by
    have shown := backs.scopes
    generalize object.scopes.reverse = stack at shown
    generalize table.stack = contents at shown
    induction shown with
    | nil => rfl
    | cons here _ ih => rw [List.map_cons, here.readScope_eq, ih]
  -- The innermost scope is read first on both sides.
  rw [read, found, Option.map_some, stacked]
  rfl

end Holds

/-- A new table is empty, and it is read as such. -/
theorem holds_newTable (memory : Memory) :
    memory.Holds memory.newTable.2 memory.newTable.1 {} := by
  refine ⟨⟨List.prefix_rfl, List.prefix_append _ _, List.prefix_append _ _⟩, Nat.le_refl _,
    ⟨[memory.scopes.length], 0, memory.scopes.length⟩, by simp [newTable], ?_⟩
  -- Its only scope has no names.
  have named : memory.newTable.1.bindings memory.scopes.length = [] := by
    simp [newTable, bindings]
  have shown : memory.Shows memory.newTable.1 memory.scopes.length [] :=
    ⟨Nat.le_refl _, by simp [newTable], by rw [named]; exact .nil⟩
  exact ⟨rfl, rfl, .cons shown .nil, by simp, by simp [cellsOf, named], by simp [SymbolTable.stack]⟩

namespace Holds

/-- A variable that is made belongs to no table yet. -/
theorem newCell (holds : base.Holds address memory table) (cell : Cell) :
    base.Holds address (memory.newCell cell).1 table :=
  holds.extend ⟨List.prefix_append _ _, List.prefix_rfl, List.prefix_rfl⟩

end Holds

/-- A table whose scope is opened has a new one behind the others, and counts it. -/
theorem tables_enter (found : memory.tables[address]? = some object) :
    (memory.enter address).tables[address]? = some
      ⟨object.scopes ++ [memory.scopes.length], object.level + 1, object.globals⟩ := by
  -- The table is changed at its own address.
  rw [enter, List.getElem?_modify_eq, found]
  rfl

/-- A table whose scope is closed has lost the last one, unless it counts no others. -/
theorem tables_exit (found : memory.tables[address]? = some object) :
    (memory.exit address).tables[address]? = some
      (if 0 < object.level then ⟨object.scopes.dropLast, object.level - 1, object.globals⟩
      else object) := by
  -- The table is changed at its own address.
  rw [exit, List.getElem?_modify_eq, found]
  rfl

namespace Holds

/-- Opening a scope in memory opens one in the symbol table. -/
theorem enter (holds : base.Holds address memory table) :
    base.Holds address (memory.enter address) table.enter := by
  obtain ⟨extension, new, object, found, backs⟩ := holds
  refine ⟨⟨extension.cells, extension.scopes.trans (List.prefix_append _ _),
    prefix_modify extension.tables new _⟩, new, _, tables_enter found, ?_⟩
  have old : ∀ scope ∈ object.scopes.reverse, scope < memory.scopes.length := by
    intro scope member
    obtain ⟨content, -, shown⟩ := exists_of_forall₂ backs.scopes member
    exact shown.inside
  -- The scopes that were open before are as they were.
  have kept : base.Backs (memory.enter address) object table := by
    refine backs.of_same (by simp [Memory.enter]) (fun scope member => ?_) fun _ _ _ => rfl
    simp [bindings, Memory.enter, List.getElem?_append_left (old scope member)]
  have named : (memory.enter address).bindings memory.scopes.length = [] := by
    simp [bindings, Memory.enter]
  have opened : base.Shows (memory.enter address) memory.scopes.length [] :=
    ⟨extension.scopes.length_le, by simp [Memory.enter], by rw [named]; exact .nil⟩
  have split : (object.scopes ++ [memory.scopes.length]).reverse =
      memory.scopes.length :: object.scopes.reverse := by simp
  -- The scope that is opened is a new object, which no name uses yet.
  refine ⟨by simp [kept.level], ?_, ?_, ?_, ?_, ?_⟩
  · -- The global scope stays at the bottom, since there is one already.
    rw [List.head?_append, kept.globals]
    rfl
  · rw [split]
    exact .cons opened kept.scopes
  · rw [split, List.nodup_cons]
    exact ⟨fun member => Nat.lt_irrefl _ (old _ member), kept.apart⟩
  · rw [split, List.flatMap_cons, cellsOf, named]
    exact kept.unshared
  · exact List.forall_mem_cons.mpr ⟨List.nodup_nil, kept.distinct⟩

/-- Closing a scope in memory closes one in the symbol table, or the global one stays in both. -/
theorem exit (holds : base.Holds address memory table) :
    base.Holds address (memory.exit address) table.exit := by
  obtain ⟨extension, new, object, found, backs⟩ := holds
  refine ⟨⟨extension.cells, extension.scopes, prefix_modify extension.tables new _⟩, new,
    _, tables_exit found, ?_⟩
  -- No scope and no variable is touched.
  have kept : base.Backs (memory.exit address) object table :=
    backs.of_same (Nat.le_refl _) (fun _ _ => rfl) fun _ _ _ => rfl
  obtain ⟨top, outers, reversed, whole, -, -, around⟩ := kept.exists_top
  obtain ⟨current, enclosing⟩ := table
  have size : object.level = outers.length := by
    have length := kept.level
    rw [whole, List.length_append, List.length_reverse, List.length_singleton] at length
    omega
  -- The counter says whether there is a scope around the current one.
  cases around with
  | nil =>
    rw [if_neg (by simp [size])]
    exact kept
  | @cons outer content others contents here further =>
    rw [if_pos (by simp [size])]
    have shorter : object.scopes.dropLast.reverse = outer :: others := by
      rw [whole, List.dropLast_concat, List.reverse_reverse]
    have apart := kept.apart
    have unshared := kept.unshared
    rw [reversed] at apart unshared
    -- The scopes that are left are those around the one that is closed.
    refine ⟨?_, ?_, ?_, ?_, ?_, (List.forall_mem_cons.mp kept.distinct).2⟩
    · rw [List.length_dropLast, kept.level, size]
      simp
    · -- There is a scope below the one that is closed, so the global one is among those left.
      have bottom := kept.globals
      rw [whole] at bottom ⊢
      rw [List.dropLast_concat]
      simpa [List.head?_append] using bottom
    · rw [shorter]
      exact .cons here further
    · rw [shorter]
      exact (List.nodup_cons.mp apart).2
    · rw [shorter]
      exact (List.nodup_append.mp unshared).2.1

/-- A name is free in memory exactly if it is free in the symbol table. -/
theorem isSome_lookupCurrent (holds : base.Holds address memory table) (name : Text) :
    (memory.lookupCurrent address name).isSome = (table.lookupCurrent name).isSome := by
  rw [← holds.map_lookupCurrent name, Option.isSome_map]

end Holds

/-- Memory after a name has been put into a scope. -/
def put (memory : Memory) (scope : Address) (binding : Binding) : Memory :=
  { memory with scopes := memory.scopes.modify scope (· ++ [binding]) }

/-- The scope that a name is put into has it behind the names it had. -/
theorem bindings_put_self (inside : scope < memory.scopes.length) (binding : Binding) :
    (memory.put scope binding).bindings scope = memory.bindings scope ++ [binding] := by
  simp [put, bindings, List.getElem?_eq_getElem inside]

/-- All other scopes have the names they had. -/
theorem bindings_put_of_ne {other : Address} (different : other ≠ scope) (binding : Binding) :
    (memory.put scope binding).bindings other = memory.bindings other := by
  rw [put, bindings, bindings, List.getElem?_modify_ne _ _ (Ne.symm different)]

/-- A name that is put into the current scope declares its variable, if no other leads to it. -/
theorem Backs.put (backs : base.Backs memory object table) {top : Address} {outers : List Address}
    (reversed : object.scopes.reverse = top :: outers) {binding : Binding} {symbol : Symbol}
    (leads : base.Leads memory binding symbol)
    (fresh : binding.cell ∉ object.scopes.reverse.flatMap memory.cellsOf)
    (free : table.current.lookup symbol.name = none) :
    base.Backs (memory.put top binding) object
      { table with current := table.current ++ [symbol] } := by
  have shown := backs.scopes
  have apart := backs.apart
  have unshared := backs.unshared
  rw [reversed, SymbolTable.stack] at shown
  rw [reversed] at apart unshared fresh
  cases shown with
  | cons here around =>
  have size : (memory.put top binding).scopes.length = memory.scopes.length := by simp [Memory.put]
  -- The other scopes are different objects, so the new name is not among theirs.
  have others : ∀ scope ∈ outers,
      (memory.put top binding).bindings scope = memory.bindings scope := by
    intro scope member
    refine bindings_put_of_ne ?_ binding
    rintro rfl
    exact (List.nodup_cons.mp apart).1 member
  have named := bindings_put_self here.inside binding
  have reached : outers.flatMap (memory.put top binding).cellsOf = outers.flatMap memory.cellsOf :=
    List.flatMap_congr fun scope member => by rw [cellsOf, cellsOf, others scope member]
  -- Only the scope at the top has another name than before.
  refine ⟨backs.level, backs.globals, ?_, backs.apart, ?_, ?_⟩
  · rw [reversed]
    refine .cons ⟨here.new, by rw [size]; exact here.inside, ?_⟩ ?_
    · rw [named]
      exact (List.rel_append here.leads (.cons leads .nil)).imp fun _ _ known => known.of_same rfl
    · refine List.forall₂_iff_zip.mpr ⟨around.length_eq, fun {scope content} paired => ?_⟩
      have kept := (List.forall₂_iff_zip.mp around).2 paired
      exact kept.of_same (by rw [size]; exact kept.inside)
        (others scope (List.of_mem_zip paired).1) fun _ _ => rfl
  · -- The new variable stands behind those of its scope, and is none of all that were reached.
    rw [List.flatMap_cons, cellsOf] at unshared fresh
    rw [reversed, List.flatMap_cons, reached, cellsOf, named, List.map_append, List.map_singleton,
      List.append_assoc, List.singleton_append, List.nodup_middle, List.nodup_cons]
    exact ⟨fresh, unshared⟩
  · obtain ⟨current, enclosing⟩ := List.forall_mem_cons.mp backs.distinct
    exact List.forall_mem_cons.mpr ⟨Scope.nodup_concat current free, enclosing⟩

namespace Holds

/-- A variable that has just been made can be declared, and no other name leads to it. -/
theorem bind_newCell (holds : base.Holds address memory table) (cell : Cell) (name : Text) :
    base.Holds address ((memory.newCell cell).1.bind address ⟨name, (memory.newCell cell).2⟩)
      (table.declare (cell.named name)) := by
  -- Making a variable changes no scope, so the name is free before iff it is free now.
  have made := holds.newCell cell
  have taken := made.isSome_lookupCurrent name
  obtain ⟨old, there, before⟩ := holds.object
  obtain ⟨extension, new, object, found, backs⟩ := made
  obtain rfl : old = object := Option.some.inj (there.symm.trans found)
  obtain ⟨top, outers, reversed, -, current, shown, -⟩ := backs.exists_top
  rw [Memory.bind, taken, SymbolTable.declare, Cell.named]
  split
  · -- A name that is taken stays with its variable, and the new cell is used by nobody.
    exact ⟨extension, new, old, found, backs⟩
  · rename_i free
    have pointed : (memory.newCell cell).1.currentScope? address = some top := by
      rw [currentScope?, found, Option.bind_some, current]
    rw [pointed]
    refine ⟨⟨extension.cells, prefix_modify extension.scopes shown.new _, extension.tables⟩, new,
      old, found, ?_⟩
    refine backs.put reversed ⟨?_, cell, ?_, rfl⟩ ?_ (Option.not_isSome_iff_eq_none.mp free)
    · exact holds.extension.cells.length_le
    · exact List.getElem?_concat_length
    · -- The variables that were reached before are older.
      intro member
      obtain ⟨scope, open_, listed⟩ := List.mem_flatMap.mp member
      obtain ⟨content, -, shown⟩ := exists_of_forall₂ before.scopes open_
      exact Nat.lt_irrefl _ (shown.cell_bounds listed).2

end Holds

/-- A variable at another address is left as it is. -/
theorem getElem?_setInitialized_of_ne {cell other : Address} (different : other ≠ cell) :
    (memory.setInitialized cell).cells[other]? = memory.cells[other]? :=
  List.getElem?_modify_ne _ _ (Ne.symm different)

/-- A scope that does not lead to a variable shows the same when this one gets a value. -/
theorem Shows.setInitialized_of_notMem (shown : base.Shows memory scope content) {cell : Address}
    (elsewhere : cell ∉ memory.cellsOf scope) :
    base.Shows (memory.setInitialized cell) scope content := by
  refine shown.of_same shown.inside rfl fun other member => getElem?_setInitialized_of_ne ?_
  -- The scope leads to other variables only.
  rintro rfl
  exact elsewhere member

/-- A variable that gets a value in memory gets it under its name in the scope that leads to it. -/
theorem Shows.setInitialized (shown : base.Shows memory scope content)
    (unshared : (memory.cellsOf scope).Nodup) (distinct : (content.map Symbol.name).Nodup)
    {binding : Binding} (member : binding ∈ memory.bindings scope) :
    base.Shows (memory.setInitialized binding.cell) scope
      (content.markInitialized binding.name) := by
  -- The names are those of the variables, so marking by cell and marking by name can be compared.
  refine ⟨shown.new, shown.inside, ?_⟩
  have names := shown.map_name
  obtain ⟨size, pairs⟩ := List.forall₂_iff_zip.mp shown.leads
  rw [Scope.markInitialized, List.forall₂_map_right_iff]
  -- Cell by cell, the variable is the one that is marked or another one.
  refine List.forall₂_iff_zip.mpr ⟨size, fun {other symbol} paired => ?_⟩
  have listed : other ∈ memory.bindings scope := (List.of_mem_zip paired).1
  obtain ⟨new, cell, found, rfl⟩ := pairs paired
  have named : (cell.named other.name).name = other.name := rfl
  rw [named]
  split
  · -- Only one name of the scope is the given one.
    rename_i same
    rw [← names] at distinct
    obtain rfl := List.inj_on_of_nodup_map distinct listed member (beq_iff_eq.mp same)
    refine ⟨new, { cell with initialized := true }, ?_, rfl⟩
    rw [Memory.setInitialized, List.getElem?_modify_eq, found]
    rfl
  · -- A different name leads to a different variable.
    rename_i differs
    refine ⟨new, cell, ?_, rfl⟩
    rw [getElem?_setInitialized_of_ne, found]
    intro shared
    exact differs (beq_iff_eq.mpr
      (congrArg Binding.name (List.inj_on_of_nodup_map unshared listed member shared)))

/-- A variable that is found by a name gets its value in the scope where the name is found. -/
theorem forall₂_setInitialized (shown : List.Forall₂ (base.Shows memory) stack contents)
    (unshared : (stack.flatMap memory.cellsOf).Nodup)
    (distinct : ∀ content ∈ contents, (content.map Symbol.name).Nodup) {cell : Address}
    {value : Cell}
    (found : (stack.findSome? fun scope => memory.lookupIn scope name) = some (cell, value)) :
    List.Forall₂ (base.Shows (memory.setInitialized cell)) stack
      (SymbolTable.markIn name contents) := by
  -- By induction on the scopes, from the innermost one outwards.
  induction shown with
  | nil => simp at found
  | @cons scope content outers _ here around ih =>
    rw [List.flatMap_cons, List.nodup_append] at unshared
    obtain ⟨own, others, apart⟩ := unshared
    obtain ⟨names, further⟩ := List.forall_mem_cons.mp distinct
    have known := here.map_lookupIn name
    rw [List.findSome?_cons] at found
    rw [SymbolTable.markIn, ← known, Option.isSome_map]
    -- Either this scope has the name, or it is looked for further out.
    cases looked : memory.lookupIn scope name with
    | some entry =>
      rw [looked] at found
      cases found
      obtain ⟨binding, member, rfl, rfl, -⟩ := Shows.exists_of_lookupIn looked
      rw [Option.isSome_some, if_pos rfl]
      refine .cons (here.setInitialized own names member) ?_
      -- No scope around this one leads to the variable.
      refine List.forall₂_iff_zip.mpr ⟨around.length_eq, fun {outer other} paired => ?_⟩
      refine ((List.forall₂_iff_zip.mp around).2 paired).setInitialized_of_notMem fun shared => ?_
      exact apart _ (List.mem_map_of_mem member) _
        (List.mem_flatMap.mpr ⟨outer, (List.of_mem_zip paired).1, shared⟩) rfl
    | none =>
      rw [looked] at found
      rw [Option.isSome_none, if_neg Bool.false_ne_true]
      refine .cons (here.setInitialized_of_notMem fun shared => ?_) (ih others further found)
      -- The variable is found further out, and this scope leads to none of those.
      obtain ⟨outer, listed, where_⟩ := List.exists_of_findSome?_eq_some found
      obtain ⟨binding, member, -, rfl, -⟩ := Shows.exists_of_lookupIn where_
      exact apart _ shared _
        (List.mem_flatMap.mpr ⟨outer, listed, List.mem_map_of_mem member⟩) rfl

namespace Holds

/-- A value that is written where a name was found is given to the variable of that name. -/
theorem setInitialized (holds : base.Holds address memory table) {cell : Address} {value : Cell}
    (found : memory.lookup address name = some (cell, value)) :
    base.Holds address (memory.setInitialized cell) (table.markInitialized name) := by
  obtain ⟨extension, new, object, there, backs⟩ := holds
  rw [lookup, there, Option.bind_some] at found
  have marked := forall₂_setInitialized backs.scopes backs.unshared backs.distinct found
  obtain ⟨scope, open_, looked⟩ := List.exists_of_findSome?_eq_some found
  obtain ⟨content, -, shown⟩ := exists_of_forall₂ backs.scopes open_
  obtain ⟨binding, member, -, rfl, -⟩ := Shows.exists_of_lookupIn looked
  -- The variable was made for this table, so the earlier memory does not have it.
  have later := (shown.cell_bounds (List.mem_map_of_mem member)).1
  refine ⟨⟨prefix_modify extension.cells later _, extension.scopes, extension.tables⟩, new, object,
    there, backs.level, backs.globals, ?_, backs.apart, backs.unshared, ?_⟩
  · -- The stack is marked where the name was found, and keeps its names.
    rw [SymbolTable.stack_markInitialized]
    exact marked
  · rw [SymbolTable.stack_markInitialized]
    exact SymbolTable.nodup_markIn backs.distinct name

/-- Marking a name in memory marks it in the symbol table. -/
theorem markInitialized (holds : base.Holds address memory table) (name : Text) :
    base.Holds address (memory.markInitialized address name) (table.markInitialized name) := by
  -- The name is found in memory iff the symbol table has it.
  have known := holds.map_lookup name
  rw [Memory.markInitialized]
  cases found : memory.lookup address name with
  | some entry => exact holds.setInitialized found
  | none =>
    -- A name that stands for nothing is marked nowhere.
    rw [found, Option.map_none] at known
    rw [SymbolTable.markInitialized_of_lookup known.symm]
    exact holds

/-- A variable that is declared in memory is declared in the symbol table. -/
theorem declare (holds : base.Holds address memory table) (symbol : Symbol) :
    base.Holds address (memory.declare address symbol) (table.declare symbol) :=
  holds.bind_newCell ⟨symbol.type, symbol.initialized, symbol.line⟩ symbol.name

end Holds

end SourceLint.Memory
