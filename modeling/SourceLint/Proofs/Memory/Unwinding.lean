import SourceLint.Proofs.Memory.Operation

/-!
A table in memory whose scopes are opened and closed.

Its counter and the global scope that it keeps are changed one by one, and yet they agree with the
list of scopes after any steps. A scope that is opened and closed again leaves the object of the
table as it was: the same scopes are open, and the counter stands where it stood.
-/

namespace SourceLint

open SymbolTable (Step)

namespace Memory

/-- Memory after a step on a table. -/
def apply (address : Address) (memory : Memory) : Step → Memory
  | .enter => memory.enter address
  | .exit => memory.exit address
  | .declare symbol => memory.declare address symbol
  | .mark name => memory.markInitialized address name

/-- Memory after several steps on a table. -/
def run (memory : Memory) (address : Address) (steps : List Step) : Memory :=
  steps.foldl (apply address) memory

variable {base memory : Memory} {address : Address} {table : SymbolTable} {object : TableObject}

/-- A step does to the reading of a table what it does to a symbol table. -/
theorem Holds.apply (holds : base.Holds address memory table) (step : Step) :
    base.Holds address (memory.apply address step) (table.apply step) := by
  -- Each step has a lemma that says what it does to the table.
  cases step with
  | enter => exact holds.enter
  | exit => exact holds.exit
  | declare symbol => exact holds.declare symbol
  | mark name => exact holds.markInitialized name

/-- Steps do to the reading of a table what they do to a symbol table. -/
theorem Holds.run (holds : base.Holds address memory table) (steps : List Step) :
    base.Holds address (memory.run address steps) (table.run steps) := by
  -- By induction on the steps.
  induction steps generalizing memory table with
  | nil => exact holds
  | cons first others ih => exact ih (holds.apply first)

/-- The counter of a table says how many scopes the symbol table has open inside the global one. -/
theorem Backs.level_eq (backs : base.Backs memory object table) : object.level = table.level := by
  -- Both have one scope more than their level says.
  have size := backs.scopes.length_eq
  rw [List.length_reverse, backs.level, SymbolTable.stack, List.length_cons] at size
  exact Nat.succ.inj size

/-- A declaration changes no table. -/
theorem tables_declare (memory : Memory) (address : Address) (symbol : Symbol) :
    (memory.declare address symbol).tables = memory.tables := by
  show ((memory.newCell _).1.bind address _).tables = _
  rw [Memory.bind]
  -- The name goes into a scope, if it goes anywhere.
  split
  · rfl
  · split <;> rfl

/-- A mark changes no table. -/
theorem tables_markInitialized (memory : Memory) (address : Address) (name : Text) :
    (memory.markInitialized address name).tables = memory.tables := by
  -- A mark goes to a cell, or nowhere.
  rw [markInitialized]
  split <;> rfl

/-- A step that closes none of the first scopes of a table leaves them where they are. -/
theorem exists_apply (there : memory.tables[address]? = some object) {first : List Address}
    (kept : first <+: object.scopes) (size : object.scopes.length = object.level + 1) {step : Step}
    (inner : step = .exit → 0 < object.level → first.length ≤ object.level) :
    ∃ later, (memory.apply address step).tables[address]? = some later ∧
      first <+: later.scopes ∧ later.globals = object.globals := by
  cases step with
  -- Opening a scope adds one at the end.
  | enter => exact ⟨_, tables_enter there, kept.trans (List.prefix_append _ _), rfl⟩
  | exit =>
    refine ⟨_, tables_exit there, ?_, ?_⟩
    · split
      · -- The scope that is closed is behind the first ones.
        rename_i open_
        have room := inner rfl open_
        rw [List.dropLast_eq_take]
        exact List.prefix_take_iff.mpr ⟨kept, by omega⟩
      · exact kept
    · split <;> rfl
  -- What declares or marks leaves the list of scopes alone.
  | declare symbol => exact ⟨object, by rw [apply, tables_declare, there], kept, rfl⟩
  | mark name => exact ⟨object, by rw [apply, tables_markInitialized, there], kept, rfl⟩

/-- Steps that close none of the scopes of a table leave these where they are. -/
theorem exists_run (holds : base.Holds address memory table)
    (there : memory.tables[address]? = some object) {steps : List Step}
    (inner : ∀ front, front <+: steps → table.level ≤ (table.run front).level) :
    ∃ later, (memory.run address steps).tables[address]? = some later ∧
      object.scopes <+: later.scopes ∧ later.globals = object.globals := by
  -- The last step finds what the steps before it have left.
  induction steps using List.reverseRecOn with
  | nil => exact ⟨object, there, List.prefix_rfl, rfl⟩
  | append_singleton steps last ih =>
    obtain ⟨between, found, kept, globals⟩ := ih fun front start =>
      inner front (start.trans (List.prefix_append steps [last]))
    -- The object is the one that is in step with the symbol table.
    obtain ⟨other, same, backs⟩ := (holds.run steps).object
    obtain rfl : between = other := Option.some.inj (found.symm.trans same)
    obtain ⟨before, first, started⟩ := holds.object
    obtain rfl : object = before := Option.some.inj (there.symm.trans first)
    -- A scope that is closed was opened by the steps.
    have room : last = .exit → 0 < between.level → object.scopes.length ≤ between.level := by
      rintro rfl open_
      have least := inner _ List.prefix_rfl
      rw [SymbolTable.run, List.foldl_concat, SymbolTable.apply, SymbolTable.level_exit,
        ← SymbolTable.run, ← backs.level_eq] at least
      rw [started.level, started.level_eq]
      omega
    obtain ⟨later, after, still, bottom⟩ := exists_apply found kept backs.level room
    refine ⟨later, ?_, still, bottom.trans globals⟩
    rw [run, List.foldl_concat]
    exact after

/-- A scope that is opened and closed again leaves the object of a table as it was. -/
theorem tables_enclosed (holds : base.Holds address memory table) {inside : List Step}
    (bracketed : Sections.Bracketed .enter .exit inside) :
    (memory.run address (.enter :: (inside ++ [.exit]))).tables[address]? =
      memory.tables[address]? := by
  -- The object before and the one after are compared field by field.
  obtain ⟨object, there, started⟩ := holds.object
  -- In between there are more scopes than at first, and in the end there are as many.
  have closed : (table.run (.enter :: (inside ++ [.exit]))).level = table.level := by
    have size := SymbolTable.length_scopes_closed bracketed table
    rw [SymbolTable.length_scopes, SymbolTable.length_scopes] at size
    rw [SymbolTable.run_enclosed]
    omega
  have inner : ∀ front, front <+: .enter :: (inside ++ [.exit]) →
      table.level ≤ (table.run front).level := by
    intro front start
    cases front with
    | nil => exact Nat.le_refl _
    | cons first others =>
      obtain ⟨rfl, further⟩ := List.cons_prefix_cons.mp start
      rcases List.prefix_concat_iff.mp further with rfl | within
      · exact closed.ge
      · -- A part of what is inside leaves the opened scope open.
        have above := SymbolTable.level_lt_of_prefix bracketed within table
        exact above.le
  obtain ⟨later, found, kept, globals⟩ := exists_run holds there inner
  obtain ⟨other, same, backs⟩ := (holds.run (.enter :: (inside ++ [.exit]))).object
  obtain rfl : later = other := Option.some.inj (found.symm.trans same)
  have level : later.level = object.level := by rw [backs.level_eq, closed, started.level_eq]
  -- No scope is lost and there are as many as before, so they are the same ones.
  have scopes : object.scopes = later.scopes :=
    kept.eq_of_length (by rw [started.level, backs.level, level])
  obtain ⟨laterScopes, laterLevel, laterGlobals⟩ := later
  obtain ⟨objectScopes, objectLevel, objectGlobals⟩ := object
  dsimp only at level scopes globals
  rw [found, there, level, scopes, globals]

end Memory

namespace SymbolTable

/--
What scopes hold after any steps, and what is left of them when a scope has been opened and closed.

A table in memory is read as a symbol table after any steps. There is one scope more than its
counter says, the global one that it has kept is at the bottom, and no two variables of a scope
share a name. Steps between the opening of a scope and its closing, nested properly, leave the
object of the table as it was, and all scopes as well, but that a variable has its value afterwards
if its name was marked while no scope further in held it.
-/
theorem scopes_unwind (before : List Step) :
    let address := ({} : Memory).newTable.2
    let memory := ({} : Memory).newTable.1.run address before
    let table := ({} : SymbolTable).run before
    (memory.read address = table ∧ ∃ object, memory.tables[address]? = some object ∧
        object.level + 1 = object.scopes.length ∧ object.level = table.level ∧
        object.scopes.head? = some object.globals ∧ memory.globals address = table.globals) ∧
      table.level + 1 = table.scopes.length ∧
      table.level = Sections.depth .enter .exit 0 before ∧
      table.scopes.head? = some table.globals ∧
      (∀ scope ∈ table.scopes, (scope.map Symbol.name).Nodup) ∧
      ∀ inside : List Step, Sections.Bracketed .enter .exit inside →
        let after := table.run (.enter :: (inside ++ [.exit]))
        let later := memory.run address (.enter :: (inside ++ [.exit]))
        (later.read address = after ∧ later.tables[address]? = memory.tables[address]?) ∧
          after.scopes.length = table.scopes.length ∧
          ∀ (index : Nat) (scope : Scope), table.scopes[index]? = some scope →
            ∃ other, after.scopes[index]? = some other ∧
              scope.Settles (table.enter.Reaches index inside) other := by
  intro address memory table
  have holds := (Memory.holds_newTable {}).run before
  obtain ⟨object, found, backs⟩ := holds.object
  refine ⟨⟨holds.read_eq, object, found, backs.level.symm, backs.level_eq, backs.globals,
    holds.globals_eq⟩, (length_scopes table).symm, level_run {} before, head?_scopes table, ?_, ?_⟩
  · -- The names in a scope are distinct from the start on.
    intro scope member
    exact nodup_run (by simp [stack]) before scope (List.mem_reverse.mp member)
  · intro inside bracketed after later
    refine ⟨⟨(holds.run _).read_eq, Memory.tables_enclosed holds bracketed⟩, ?_⟩
    -- What is between the opening and the closing happens in a scope of its own.
    have ended : after = (table.enter.run inside).exit := run_enclosed table inside
    rw [ended]
    exact ⟨length_scopes_closed bracketed table, fun _ _ => settles_closed bracketed⟩

/-- Behind a scope that has a variable of the same name, a variable gets no value by its name. -/
theorem scopes_unwind_shadowed :
    let outer : Symbol := { name := ['x'], type := .known .int, line := 1 }
    let inner : Symbol := { name := ['y'], type := .known .int, line := 2 }
    let before : List Step := [.declare outer, .enter, .declare inner]
    let inside : List Step := [.declare outer, .mark ['x'], .enter, .mark ['y'], .exit]
    let table := ({} : SymbolTable).run before
    let after := table.run (.enter :: (inside ++ [.exit]))
    Sections.Bracketed .enter .exit inside ∧ after.scopes.length = 2 ∧
      ∃ other, after.scopes[1]? = some other ∧ ∀ symbol ∈ other, symbol.initialized = true := by
  -- The inner scope has its own variable of the name, so only that one is marked at first.
  intro outer inner before inside table after
  have bracketed : Sections.Bracketed .enter .exit inside := by decide
  obtain ⟨-, -, -, -, -, unwind⟩ := scopes_unwind before
  obtain ⟨-, size, kept⟩ := unwind inside bracketed
  obtain ⟨other, found, settles⟩ := kept 1 [inner] rfl
  refine ⟨bracketed, size, other, found, ?_⟩
  -- Where the name is marked, no scope further in has it.
  have reached : table.enter.Reaches 1 inside ['y'] :=
    ⟨[.declare outer, .mark ['x'], .enter], [.exit], rfl, by unfold Uncovers; decide⟩
  -- The mark reaches the scope once the inner one is closed.
  cases settles with
  | cons here none =>
    cases none
    simpa using here.initialized.mpr (.inr reached)

end SymbolTable

end SourceLint
