import SourceLint.Proofs.Growth.Line
import SourceLint.Proofs.Rescan.Agreement

/-!
How variables get their values.

A statement gives a value to a variable by an assignment. A line that mixes types is not entered at
all, and in the body of the main function a step gives a value as well. A variable of the current
scope has a value from the first line on that assigns to it.
-/

namespace SourceLint

open Text

/-- A scope in which the variable with the given name has a value. -/
def Scope.Valued (scope : Scope) (name : Text) : Prop :=
  ∃ symbol ∈ scope, symbol.name = name ∧ symbol.initialized = true

/-- A variable that is given a value has one. -/
theorem Scope.valued_markInitialized {scope : Scope} {name : Text}
    (known : name ∈ scope.map Symbol.name) : (scope.markInitialized name).Valued name := by
  obtain ⟨symbol, member, rfl⟩ := List.mem_map.mp known
  refine ⟨{ symbol with initialized := true }, ?_, rfl, rfl⟩
  -- It stays in its place and is the one that changes.
  unfold Scope.markInitialized
  rw [List.mem_map]
  exact ⟨symbol, member, if_pos (beq_self_eq_true _)⟩

namespace SymbolTable.Grows

variable {marks : Text → Prop} {adds : Symbol → Prop} {before after : SymbolTable} {name : Text}

/-- A table that grows keeps its values. -/
theorem valued (grows : before.Grows marks adds after) (set : before.current.Valued name) :
    after.current.Valued name := by
  obtain ⟨symbol, member, named, filled⟩ := set
  -- The variable keeps its place, and it keeps its value with it.
  obtain ⟨kept, added, parts, same, -⟩ := grows.current
  obtain ⟨later, listed, stays⟩ := same.exists_kept member
  refine ⟨later, ?_, stays.name.trans named, stays.initialized filled⟩
  rw [parts]
  exact List.mem_append_left _ listed

end SymbolTable.Grows

namespace Assignment

/-- A statement that is read as an assignment to the given name, and not as a declaration. -/
def Sets (statement name : Text) : Prop :=
  Declaration.nameless? statement = none ∧ Declaration.parse? statement = none ∧
    ∃ assignment, parse? statement = some assignment ∧ assignment.name = name

/-- A line that does not mix types and has a finished statement that assigns to the given name. -/
def SetsOn (line name : Text) : Prop :=
  MixedTypes.check line = [] ∧ ∃ statement ∈ Statement.effective line false, Sets statement name

end Assignment

namespace Registration

variable (registration : Registration)

/-- Entering a statement gives a value to the name that it assigns to, if to any. -/
theorem enter_sets (table : SymbolTable) (statement : Text) :
    table.Grows (Assignment.Sets statement) (fun _ => True)
      (registration.enter table statement).1 := by
  unfold enter
  -- A statement without a name to enter is passed over.
  split
  · exact .refl table
  · rename_i named
    split
    · -- A declaration adds variables and gives no values to those that are there.
      refine .runAll (fun table item _ => ?_) table
      unfold declare
      split
      · exact .refl table
      · split
        · exact .refl table
        · -- A name that is taken, or a faulty one, adds nothing.
          split
          · exact .refl table
          · exact .declare table trivial
    · rename_i undeclared
      split
      · rename_i assignment read
        -- An assignment gives a value to its target only.
        exact assign_grows ⟨named, undeclared, assignment, read, rfl⟩ table
      · exact .refl table

/-- Entering a line gives values to the names that its finished statements assign to. -/
theorem enterLine_sets (table : SymbolTable) (line : Text) :
    table.Grows (fun name => ∃ statement ∈ Statement.effective line false,
      Assignment.Sets statement name) (fun _ => True) (registration.enterLine table line).1 := by
  -- The statements are entered one after another.
  refine .runAll (fun table statement entered => ?_) table
  exact (registration.enter_sets table statement).mono
    (fun name sets => ⟨statement, entered, sets⟩) fun _ added => added

/-- An assignment to a variable of the current scope gives it a value. -/
theorem enter_valued {statement name : Text} (sets : Assignment.Sets statement name)
    {table : SymbolTable} (known : name ∈ table.current.map Symbol.name) :
    (registration.enter table statement).1.current.Valued name := by
  obtain ⟨named, undeclared, assignment, read, rfl⟩ := sets
  have here : (table.lookupCurrent assignment.name).isSome = true :=
    Scope.isSome_lookup_iff.mpr known
  -- The current scope is the innermost one, so the name stands for its variable.
  have found : ∃ symbol, table.lookup assignment.name = some symbol := by
    obtain ⟨symbol, inside⟩ := Option.isSome_iff_exists.mp here
    refine ⟨symbol, ?_⟩
    unfold SymbolTable.lookup SymbolTable.stack
    rw [List.findSome?_cons]
    unfold SymbolTable.lookupCurrent at inside
    rw [inside]
  -- So the assignment finds its target and marks it.
  obtain ⟨symbol, found⟩ := found
  simp only [enter, named, undeclared, read, assign, found, SymbolTable.markInitialized, here,
    if_true]
  exact Scope.valued_markInitialized known

/-- A finished statement of a line that assigns to a variable of the current scope is entered. -/
theorem enterLine_valued {line statement name : Text}
    (entered : statement ∈ Statement.effective line false)
    (sets : Assignment.Sets statement name) {table : SymbolTable}
    (known : name ∈ table.current.map Symbol.name) :
    (registration.enterLine table line).1.current.Valued name := by
  unfold enterLine
  generalize Statement.effective line false = statements at entered
  -- The statements in front of it keep the name, and those behind it keep the value.
  induction statements generalizing table with
  | nil => cases entered
  | cons first others ih =>
    -- The statements behind it never take a value away.
    have later : ∀ table : SymbolTable, table.Grows (fun _ => True) (fun _ => True)
        (table.runAll registration.enter others).1 := by
      refine SymbolTable.Grows.runAll fun table statement _ => ?_
      exact (registration.enter_sets table statement).mono (fun _ _ => trivial) fun _ _ => trivial
    rcases List.mem_cons.mp entered with rfl | behind
    · exact (later _).valued (registration.enter_valued sets known)
    · exact ih ((registration.enter_sets table first).mem_names known) behind

end Registration

namespace Validator

/-- A line of the body gives values by assignments that are entered, and by steps. -/
theorem validateLine_sets (reportRedeclarations : Bool) (state : Rule.State)
    (line : NumberedLine) :
    state.table.Grows
      (fun name => Assignment.SetsOn line.text name ∨ name ∈ Operators.targetsIn (blank line.text))
      (fun _ => True)
      (validateLine ⟨state, selectRules true Rule.all, reportRedeclarations⟩ line).1.table := by
  by_cases unmixed : MixedTypes.check line.text = []
  · -- Of the rules only the one for declarations and the one for operators touch the table.
    have each : ∀ rule ∈ selectRules true Rule.all, ∀ state : Rule.State,
        state.table.Grows (fun name => Assignment.SetsOn line.text name ∨
          name ∈ Operators.targetsIn (blank line.text)) (fun _ => True)
          (rule.check ⟨reportRedeclarations, line.number⟩ state line.text).1.table := by
      intro rule _ state
      cases rule with
      | declarations =>
        exact (Registration.enterLine_sets _ state.table line.text).mono
          (fun name sets => .inl ⟨unmixed, sets⟩) fun _ added => added
      | operators =>
        exact (Operators.check_steps state.table line.text).mono (fun name stepped => .inr stepped)
          fun _ added => added
      | _ => exact .refl state.table
    exact runRules_growsBy each state
  · -- A line that mixes types changes nothing.
    rw [validateLine_of_mixedTypes true reportRedeclarations state unmixed]
    exact .refl state.table

/-- A line gives a value to a variable of the current scope that it assigns to. -/
theorem validateLine_valued (reportRedeclarations : Bool) {state : Rule.State}
    {line : NumberedLine} {name : Text} (sets : Assignment.SetsOn line.text name)
    (known : name ∈ state.table.current.map Symbol.name) :
    (validateLine ⟨state, selectRules false Rule.all, reportRedeclarations⟩
      line).1.table.current.Valued name := by
  obtain ⟨unmixed, statement, entered, assigns⟩ := sets
  -- The line mixes no types, so its statements are entered.
  have entry := Registration.enterLine_valued ⟨reportRedeclarations, line.number⟩ entered assigns
    known
  unfold validateLine
  dsimp only
  rw [runRules_everywhere unmixed]
  exact entry

/-- Checking lines changes what the rules share and nothing else. -/
theorem validateLines_fst (validator : Validator) (lines : List NumberedLine) :
    (validator.validateLines lines).1 =
      { validator with toState := (validator.validateLines lines).1.toState } := by
  -- Each line leaves the rules and the setting as they are.
  induction lines generalizing validator with
  | nil => rfl
  | cons line others ih =>
    unfold validateLines
    dsimp only
    rw [ih (validator.validateLine line).1]
    rfl

/--
A variable above a line that assigns to it has a value in the end.

The lines are checked with the rules for every line, and they are numbered upwards.
-/
theorem validate_valued {reportRedeclarations : Bool} {text : Text} {first : Int}
    {line : NumberedLine} (listed : line ∈ prepareLines text first) {symbol : Symbol}
    (sets : Assignment.SetsOn line.text symbol.name)
    (member : symbol ∈
      ((standard false reportRedeclarations {}).validate text first).1.table.current)
    (above : symbol.line < line.number) :
    ((standard false reportRedeclarations {}).validate text first).1.table.current.Valued
      symbol.name := by
  -- The line divides the others into those before it and those after it.
  obtain ⟨before, after, split⟩ := List.append_of_mem listed
  have ascending := ascending_prepareLines text first
  unfold validate at member ⊢
  rw [split] at ascending member ⊢
  rw [validateLines_append] at member ⊢
  dsimp only at member ⊢
  generalize reached : ((standard false reportRedeclarations {}).reset.validateLines before).1 =
    middle at member ⊢
  -- The variable is on none of the later lines, so it is known when the line is reached.
  obtain ⟨kept, added, parts, same, entered⟩ :=
    (middle.validateLines_grows (line :: after)).current
  have known : symbol.name ∈ middle.table.current.map Symbol.name := by
    rw [parts] at member
    rcases List.mem_append.mp member with old | new
    · rw [← same.map_name]
      exact List.mem_map_of_mem old
    · -- A variable that a later line adds stands on that line, which is not above.
      obtain ⟨origin, ⟨later, inside, declared⟩, stays⟩ := entered symbol new
      have number : symbol.line = later.number := (declared.kept stays).line
      have below : line.number ≤ later.number := by
        rcases List.mem_cons.mp inside with rfl | behind
        · exact Int.le_refl _
        · have ordered := (List.pairwise_append.mp ascending).2.1
          exact Int.le_of_lt ((List.pairwise_cons.mp ordered).1 later behind)
      omega
  -- From the line on the variable has a value.
  have fields : middle =
      ⟨middle.toState, selectRules false Rule.all, reportRedeclarations⟩ := by
    rw [← reached, validateLines_fst]
    rfl
  have set : (middle.validateLine line).1.table.current.Valued symbol.name := by
    rw [fields]
    exact validateLine_valued reportRedeclarations sets known
  -- Later lines keep the value.
  unfold validateLines
  exact ((middle.validateLine line).1.validateLines_grows after).valued set

end Validator

end SourceLint
