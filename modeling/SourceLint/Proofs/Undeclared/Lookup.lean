import SourceLint.Proofs.Rule
import SourceLint.Proofs.Unset.Value
import SourceLint.Proofs.Wording

/-!
The names that the rules look up.

Four rules report names that stand for nothing, each for the names that it looks up on the line. A
name that the line does not declare itself is reported by a rule exactly when the rule looks it up
and the table does not declare it.
-/

namespace SourceLint

open Text

/-- The name that a finding says to stand for nothing. -/
def Finding.unknown? : Finding → Option Text
  | undeclaredIdentifier name | assignedUndeclared name | steppedUndeclared name
  | conditionUndeclared _ name => some name
  | _ => none

/-- The name that a statement assigns to, unless the statement is read as a declaration. -/
def Assignment.target? (statement : Text) : Option Text :=
  if (Declaration.nameless? statement).isSome || (Declaration.parse? statement).isSome then none
  else (parse? statement).map Assignment.name

/-- The names that the condition of a line reads, if a branch header is in front of the line. -/
def BranchShape.conditionNames (line : Text) : List Text :=
  match Statement.condition? (trim line) with
  | some (condition, _) => namesIn (blank condition)
  | none => []

/-- The names of a line that a rule looks up, to report those that stand for nothing. -/
def Rule.lookedUp (rule : Rule) (line : Text) : List Text :=
  match rule with
  | undeclaredIdentifier =>
    if Undeclared.isExempt line then []
    else
      let known := "main".toList :: (Declaration.namesOn line ++ Assignment.targetsOn line)
      (Undeclared.namesIn line).filter fun name =>
        !(Vocabulary.isReserved name || known.contains name)
  | declarations => (Statement.effective line false).filterMap Assignment.target?
  | operators => Operators.targetsIn (blank line)
  | branchShape => BranchShape.conditionNames line
  | _ => []

namespace SymbolTable

/-- The names of the variables of all open scopes. -/
def names (table : SymbolTable) : List Text :=
  table.stack.flatMap fun scope => scope.map Symbol.name

/-- A name stands for a variable when one of the open scopes has it. -/
theorem declares_iff {table : SymbolTable} {name : Text} :
    table.declares name = true ↔ name ∈ table.names := by
  -- The names of a table are those of its open scopes, and a lookup goes through the same scopes.
  unfold declares lookup names
  rw [List.findSome?_isSome_iff, List.mem_flatMap]
  simp only [Scope.isSome_lookup_iff]

/-- Without a variable a lookup finds nothing. -/
theorem lookup_eq_none_iff {table : SymbolTable} {name : Text} :
    table.lookup name = none ↔ table.declares name = false := by
  -- A lookup either finds a variable or it finds none.
  unfold declares
  rw [Option.isSome_eq_false_iff, Option.isNone_iff_eq_none]

namespace Grows

variable {marks : Text → Prop} {adds : Symbol → Prop} {before after : SymbolTable} {name : Text}

/-- The scopes around the current one keep their names when a table grows. -/
theorem enclosing_names (grows : before.Grows marks adds after) :
    (after.enclosing.flatMap fun scope => scope.map Symbol.name) =
      before.enclosing.flatMap fun scope => scope.map Symbol.name := by
  have same := grows.enclosing
  generalize before.enclosing = scopes at same
  generalize after.enclosing = others at same
  -- Growing gives values to variables and keeps their names.
  induction same with
  | nil => rfl
  | cons here _ ih => rw [List.flatMap_cons, List.flatMap_cons, here.map_name, ih]

/-- A table that grows keeps what it declares. -/
theorem declares (grows : before.Grows marks adds after) (known : before.declares name = true) :
    after.declares name = true := by
  -- New names come to the current scope only, and those of the scopes around it stay.
  rw [declares_iff, names, stack, List.flatMap_cons, List.mem_append] at known ⊢
  rw [grows.enclosing_names]
  exact known.imp grows.mem_names id

/-- A table that grows declares nothing but what it has declared and what is added. -/
theorem declares_or_adds (grows : before.Grows marks adds after)
    (known : after.declares name = true) :
    before.declares name = true ∨ ∃ symbol, adds symbol ∧ symbol.name = name := by
  -- A name of a scope further out is an old one.
  rw [declares_iff, names, stack, List.flatMap_cons, List.mem_append] at known ⊢
  rw [grows.enclosing_names] at known
  rcases known with inner | outer
  · exact (grows.mem_names_or_adds inner).imp_left .inl
  · exact .inl (.inr outer)

/-- A name that is not added stands for nothing as long as it did. -/
theorem undeclared (grows : before.Grows marks adds after)
    (other : ∀ symbol, adds symbol → symbol.name ≠ name) (unknown : before.declares name = false) :
    after.declares name = false := by
  -- Otherwise the name would be an old one or one that was added.
  rw [← Bool.not_eq_true] at unknown ⊢
  intro known
  rcases grows.declares_or_adds known with old | ⟨symbol, allowed, named⟩
  · exact unknown old
  · exact other symbol allowed named

/-- A name that stands for nothing in a table that has grown did so before. -/
theorem undeclared_before (grows : before.Grows marks adds after)
    (unknown : after.declares name = false) : before.declares name = false := by
  -- What was declared before would still be declared.
  rw [← Bool.not_eq_true] at unknown ⊢
  exact fun known => unknown (grows.declares known)

end Grows

/-- What steps find together, one of them finds in a table that those before it have left. -/
theorem exists_step_of_mem_runAll {α β : Type} (kept : SymbolTable → Prop)
    {step : SymbolTable → α → SymbolTable × List β} {entries : List α}
    (keeps : ∀ table, kept table → ∀ entry ∈ entries, kept (step table entry).1)
    {table : SymbolTable} (holds : kept table) {find : β}
    (found : find ∈ (table.runAll step entries).2) :
    ∃ reached, kept reached ∧ ∃ entry ∈ entries, find ∈ (step reached entry).2 := by
  -- What the first step does not find is found in the table that it leaves.
  induction entries generalizing table with
  | nil => cases found
  | cons first others ih =>
    -- The findings are those of the first step, and behind them those of the others.
    unfold runAll at found
    rcases List.mem_append.mp found with here | later
    · exact ⟨table, holds, first, by simp, here⟩
    · obtain ⟨reached, stays, entry, member, shown⟩ :=
        ih (fun table stays entry member => keeps table stays entry (by simp [member]))
          (keeps table holds first (by simp)) later
      exact ⟨reached, stays, entry, by simp [member], shown⟩

/-- What a step finds in every table that steps before it may leave, the steps find together. -/
theorem exists_mem_runAll {α β : Type} (kept : SymbolTable → Prop)
    {step : SymbolTable → α → SymbolTable × List β} {entries : List α}
    (keeps : ∀ table, kept table → ∀ entry ∈ entries, kept (step table entry).1)
    {table : SymbolTable} (holds : kept table) {entry : α} (listed : entry ∈ entries)
    {wanted : β → Prop}
    (finds : ∀ reached, kept reached → ∃ find ∈ (step reached entry).2, wanted find) :
    ∃ find ∈ (table.runAll step entries).2, wanted find := by
  -- The entries in front of the one that finds something only keep the table as it is required.
  induction entries generalizing table with
  | nil => cases listed
  | cons first others ih =>
    unfold runAll
    dsimp only
    -- The findings of the entry stand behind those of the entries before it.
    rcases List.mem_cons.mp listed with rfl | later
    · obtain ⟨find, here, meets⟩ := finds table holds
      exact ⟨find, List.mem_append_left _ here, meets⟩
    · obtain ⟨find, there, meets⟩ :=
        ih (fun table stays entry member => keeps table stays entry (by simp [member]))
          (keeps table holds first (by simp)) later
      exact ⟨find, List.mem_append_right _ there, meets⟩

end SymbolTable

namespace Registration

variable (registration : Registration) {name : Text}

/-- A declaration does not say that a name stands for nothing. -/
theorem unknown?_of_mem_declare {type : DataType} {several : Bool} {table : SymbolTable}
    {item : Item} {finding : Finding}
    (found : finding ∈ (registration.declare type several table item).2) :
    finding.unknown? = none := by
  -- A declaration is left alone, turned away or made, and each way has findings of its own.
  unfold declare at found
  split at found
  · rename_i fault read
    rw [List.mem_singleton.mp found]
    -- A fault of the name is about its spelling.
    rcases Declaration.nameFault?_cases read with rfl | rfl | rfl <;> rfl
  · split at found
    · cases found
    -- A name that is taken in its scope is reported as such, if it is reported at all.
    split at found
    · dsimp only at found
      split at found
      · rw [List.mem_singleton.mp found]
        rfl
      · cases found
    · dsimp only at found
      -- What is said about a new variable is about its value.
      split at found
      · cases found
      · rw [List.mem_singleton.mp found]
        split <;> rfl

/-- A statement says that a name stands for nothing when it assigns to such a name. -/
theorem target?_of_mem_enter {table : SymbolTable} {statement : Text} {finding : Finding}
    (found : finding ∈ (registration.enter table statement).2)
    (about : finding.unknown? = some name) :
    Assignment.target? statement = some name ∧ table.declares name = false := by
  -- The statement is read as a declaration, as an assignment or not at all.
  unfold enter at found
  split at found
  · rw [List.mem_singleton.mp found] at about
    cases about
  rename_i named
  -- Neither a missing name nor what a declaration finds is about a name that stands for nothing.
  split at found
  · obtain ⟨_, -, item, -, raised⟩ := SymbolTable.exists_step_of_mem_runAll (fun _ => True)
      (fun _ _ _ _ => trivial) trivial found
    rw [registration.unknown?_of_mem_declare raised] at about
    cases about
  rename_i undeclared
  split at found
  · rename_i assignment read
    unfold assign at found
    -- Only an assignment without a variable to assign to is.
    split at found
    · rename_i missing
      rw [List.mem_singleton.mp found] at about
      cases about
      refine ⟨?_, SymbolTable.lookup_eq_none_iff.mp missing⟩
      unfold Assignment.target?
      rw [named, undeclared, read]
      rfl
    · -- What is said about a variable that is there is about its value.
      rcases List.mem_append.mp found with unset | unfit
      · split at unset
        · rw [List.mem_singleton.mp unset] at about
          cases about
        · cases unset
      · split at unfit
        · cases unfit
        · rw [List.mem_singleton.mp unfit] at about
          cases about
  · cases found

/-- An assignment to a name that stands for nothing is reported. -/
theorem mem_enter_of_target? {table : SymbolTable} {statement : Text}
    (assigns : Assignment.target? statement = some name) (unknown : table.declares name = false) :
    .assignedUndeclared name ∈ (registration.enter table statement).2 := by
  unfold Assignment.target? at assigns
  -- The statement is no declaration, so it is entered as the assignment that it is.
  split at assigns
  · cases assigns
  · rename_i plain
    rw [Bool.or_eq_true, not_or, Option.not_isSome_iff_eq_none,
      Option.not_isSome_iff_eq_none] at plain
    obtain ⟨assignment, read, rfl⟩ := Option.map_eq_some_iff.mp assigns
    -- The statement is read as the same assignment.
    unfold enter
    simp only [plain.1, plain.2, read]
    unfold assign
    rw [SymbolTable.lookup_eq_none_iff.mpr unknown]
    exact List.mem_singleton_self _

end Registration

/-- The operators of a line are said to step a name that stands for nothing if they do. -/
theorem Operators.targetsIn_of_mem_check {table : SymbolTable} {line name : Text}
    (found : .steppedUndeclared name ∈ (check table line).2) :
    name ∈ targetsIn (blank line) ∧ table.declares name = false := by
  -- Neither clusters of operators nor a lone step are reported in these words.
  have clusters : .steppedUndeclared name ∉ clusterFindings (blank line) := by
    unfold clusterFindings
    simp only [List.mem_append, not_or, and_assoc]
    refine ⟨?_, ?_, ?_, ?_, ?_⟩ <;> split <;> simp
  have lone : .steppedUndeclared name ∉ loneStepFindings (blank line) := by
    unfold loneStepFindings
    split
    · simp
    split
    · simp
    split <;> simp
  -- So the finding is one of the checks of the stepped names, one after another.
  unfold check at found
  simp only [List.mem_append] at found
  rcases found with ((cluster | stepped) | single) | dangling
  · exact absurd cluster clusters
  · -- What a table does not declare after some steps it has not declared before.
    have steps : ∀ reached target, (checkTarget reached target).1.declares name = false →
        reached.declares name = false := by
      intro reached target
      have grows : reached.Grows (fun _ => True) (fun _ => True) (checkTarget reached target).1 :=
        checkTarget_steps trivial reached
      exact grows.undeclared_before
    obtain ⟨reached, before, target, listed, raised⟩ := SymbolTable.exists_step_of_mem_runAll
      (fun reached => reached.declares name = false → table.declares name = false)
      (fun reached before target _ unknown => before (steps reached target unknown)) id stepped
    -- The name is looked up there, and only a name that is not found is reported so.
    unfold checkTarget at raised
    split at raised
    · rename_i missing
      obtain rfl := Finding.steppedUndeclared.inj (List.mem_singleton.mp raised)
      exact ⟨listed, before (SymbolTable.lookup_eq_none_iff.mp missing)⟩
    · dsimp only at raised
      split at raised
      · split at raised <;> simp at raised
      · split at raised <;> simp at raised
  · split at single
    · exact absurd single lone
    · cases single
  · cases operator : dangling? (blank line) <;> simp [operator] at dangling

/-- A step of a name that stands for nothing is reported. -/
theorem Operators.mem_check_of_targetsIn {table : SymbolTable} {line name : Text}
    (listed : name ∈ targetsIn (blank line)) (unknown : table.declares name = false) :
    ∃ finding ∈ (check table line).2, finding = .steppedUndeclared name := by
  -- The steps in front declare nothing, so the name still stands for nothing.
  obtain ⟨finding, found, rfl⟩ := SymbolTable.exists_mem_runAll
    (fun reached => reached.declares name = false)
    (fun reached unknown target _ => by
      have grows : reached.Grows (fun _ => True) (fun _ => False)
        (checkTarget reached target).1 := checkTarget_steps trivial reached
      exact grows.undeclared (fun _ added => added.elim) unknown)
    unknown listed (fun reached unknown => by
      unfold checkTarget
      rw [SymbolTable.lookup_eq_none_iff.mpr unknown]
      exact ⟨_, List.mem_singleton_self _, rfl⟩)
  -- The findings about the steps are among those of the line.
  refine ⟨_, ?_, rfl⟩
  unfold check
  simp only [List.mem_append]
  exact .inl (.inl (.inr found))

namespace BranchShape

/-- A condition is said to read a name that stands for nothing if it does. -/
theorem namesIn_of_mem_conditionFindings {table : SymbolTable} {condition name : Text}
    {usage : Usage} (found : .conditionUndeclared usage name ∈ conditionFindings table condition) :
    name ∈ namesIn (blank condition) ∧ table.declares name = false := by
  obtain ⟨word, listed, raised⟩ := List.mem_filterMap.mp found
  dsimp only at raised
  -- A name that is declared is only said to lack its value.
  split at raised
  · rename_i missing
    obtain ⟨-, rfl⟩ := Finding.conditionUndeclared.inj (Option.some.inj raised)
    exact ⟨listed, SymbolTable.lookup_eq_none_iff.mp missing⟩
  · split at raised <;> cases raised

/-- A line with a condition has a branch header. -/
theorem isBranchHeader_of_condition? {line condition after : Text}
    (read : Statement.condition? line = some (condition, after)) :
    LineShape.isBranchHeader line = true := by
  -- The condition is read behind such a header.
  obtain ⟨rest, opened, -⟩ := Option.bind_eq_some_iff.mp read
  unfold LineShape.isBranchHeader
  rw [opened]
  rfl

/-- The shape of a line is said to hold a name that stands for nothing if its condition does. -/
theorem conditionNames_of_mem_check {table : SymbolTable} {line name : Text} {usage : Usage}
    (found : .conditionUndeclared usage name ∈ check table line) :
    name ∈ conditionNames line ∧ table.declares name = false := by
  -- The words come from the check of a header, which looks at its condition.
  unfold check at found
  dsimp only at found
  split at found
  · unfold headerFindings at found
    unfold conditionNames
    dsimp only at found
    split at found
    · simp at found
    · rename_i condition after read
      rw [read]
      simp only [List.mem_append] at found
      -- What is found besides is about the shape of the header.
      rcases found with (inside | empty) | brace
      · exact namesIn_of_mem_conditionFindings inside
      · split at empty <;> simp at empty
      · split at brace <;> simp at brace
  · -- The other shapes of a line have words of their own.
    split at found
    · split at found <;> simp at found
    split at found
    · simp at found
    split at found <;> simp at found

/-- A condition that reads a name that stands for nothing is reported. -/
theorem mem_check_of_conditionNames {table : SymbolTable} {line name : Text}
    (listed : name ∈ conditionNames line) (unknown : table.declares name = false) :
    ∃ usage, .conditionUndeclared usage name ∈ check table line := by
  unfold conditionNames at listed
  split at listed
  · rename_i condition after read
    -- How the name is used decides the wording alone.
    refine ⟨if (objectsIn (blank condition)).contains name then .object else .plain, ?_⟩
    -- The line has a branch header, so its condition is checked.
    unfold check
    dsimp only
    rw [if_pos (isBranchHeader_of_condition? read)]
    unfold headerFindings
    dsimp only
    rw [read]
    simp only [List.mem_append]
    refine .inl (.inl ?_)
    -- The check goes through the same names and looks each of them up.
    unfold conditionFindings
    refine List.mem_filterMap.mpr ⟨name, listed, ?_⟩
    dsimp only
    rw [SymbolTable.lookup_eq_none_iff.mpr unknown]
  · cases listed

end BranchShape

namespace Rule

variable {rule : Rule} {registration : Registration} {state : State} {line name : Text}

/-- A rule says that a name stands for nothing when it looks the name up and finds nothing. -/
theorem lookedUp_of_mem_check {finding : Finding}
    (found : finding ∈ (rule.check registration state line).2)
    (about : finding.unknown? = some name) :
    name ∈ rule.lookedUp line ∧ state.table.declares name = false := by
  have own := rule.raises_check registration state line finding found
  -- Each of the four findings belongs to one rule.
  cases finding with
  | undeclaredIdentifier =>
    cases about
    cases own
    unfold check Undeclared.check at found
    unfold lookedUp
    dsimp only at found ⊢
    split at found
    · cases found
    · rename_i looks
      -- The finding carries one of the names that are left when the known ones are taken out.
      obtain ⟨other, listed, same⟩ := List.mem_map.mp found
      obtain rfl := Finding.undeclaredIdentifier.inj same
      rw [List.mem_filter, Bool.not_eq_true', Bool.or_eq_false_iff] at listed
      refine ⟨?_, listed.2.2⟩
      rw [if_neg looks, List.mem_filter, Bool.not_eq_true']
      exact ⟨listed.1, listed.2.1⟩
  | assignedUndeclared =>
    cases about
    cases own
    -- Some statement has raised it, with a table that knows what the table of the line knows.
    obtain ⟨reached, before, statement, entered, raised⟩ := SymbolTable.exists_step_of_mem_runAll
      (fun reached => reached.declares name = false → state.table.declares name = false)
      (fun reached before statement _ unknown =>
        before ((registration.enter_sets reached statement).undeclared_before unknown)) id found
    obtain ⟨assigns, unknown⟩ := registration.target?_of_mem_enter raised rfl
    exact ⟨List.mem_filterMap.mpr ⟨statement, entered, assigns⟩, before unknown⟩
  | steppedUndeclared =>
    cases about
    cases own
    exact Operators.targetsIn_of_mem_check found
  | conditionUndeclared =>
    -- The check of the shape reads the names of conditions alone.
    cases about
    cases own
    exact BranchShape.conditionNames_of_mem_check found
  | _ => cases about

/-- A rule reports a name that it looks up when the name stands for nothing, here and before. -/
theorem exists_mem_check (listed : name ∈ rule.lookedUp line)
    (other : name ∉ Declaration.namesOn line) (unknown : state.table.declares name = false) :
    ∃ finding ∈ (rule.check registration state line).2, finding.unknown? = some name := by
  -- Each rule goes through the names that it looks up, and reports those that it does not find.
  cases rule with
  | undeclaredIdentifier =>
    unfold lookedUp at listed
    unfold check Undeclared.check
    dsimp only at listed ⊢
    split at listed
    · cases listed
    · rename_i looks
      rw [List.mem_filter, Bool.not_eq_true'] at listed
      rw [if_neg looks]
      -- The name is one of those that are left when the known ones are taken out.
      refine ⟨_, List.mem_map_of_mem (List.mem_filter.mpr ⟨listed.1, ?_⟩), rfl⟩
      rw [Bool.not_eq_true', Bool.or_eq_false_iff]
      exact ⟨listed.2, unknown⟩
  | declarations =>
    obtain ⟨statement, entered, assigns⟩ := List.mem_filterMap.mp listed
    -- The statements in front declare other names.
    refine SymbolTable.exists_mem_runAll (fun reached => reached.declares name = false)
      (fun reached unknown statement entered => ?_) unknown entered fun reached unknown =>
        ⟨_, registration.mem_enter_of_target? assigns unknown, rfl⟩
    refine (registration.enter_grows reached (Statement.mem_effective entered)).undeclared
      (fun symbol declared same => other ?_) unknown
    exact same ▸ declared.listed
  | operators =>
    -- A step in front gives a value at most.
    obtain ⟨finding, found, rfl⟩ := Operators.mem_check_of_targetsIn listed unknown
    exact ⟨_, found, rfl⟩
  | branchShape =>
    obtain ⟨usage, found⟩ := BranchShape.mem_check_of_conditionNames listed unknown
    exact ⟨_, found, rfl⟩
  | _ => cases listed

end Rule

namespace Validator

variable {name : Text}

/-- What the rules say to stand for nothing one of them looks up, and the table does not know it. -/
theorem lookedUp_of_mem_runRules {registration : Registration} {line : Text} {state : Rule.State}
    {rules : List Rule} {finding : Finding}
    (found : finding ∈ (runRules registration line state rules).2)
    (about : finding.unknown? = some name) :
    (∃ rule ∈ rules, name ∈ rule.lookedUp line) ∧ state.table.declares name = false := by
  -- By induction on the rules. Each of them is asked for what it finds itself.
  induction rules generalizing state with
  | nil => cases found
  | cons rule others ih =>
    have here : finding ∈ (rule.check registration state line).2 →
        (∃ second ∈ rule :: others, name ∈ second.lookedUp line) ∧
          state.table.declares name = false := by
      intro raised
      obtain ⟨listed, unknown⟩ := Rule.lookedUp_of_mem_check raised about
      exact ⟨⟨rule, by simp, listed⟩, unknown⟩
    unfold runRules at found
    dsimp only at found
    -- Behind a rule that breaks the circuit nothing else is asked.
    split at found
    · exact here found
    · rcases List.mem_append.mp found with raised | later
      · exact here raised
      · -- The rule in front has left a table that knows no less.
        obtain ⟨⟨second, member, listed⟩, unknown⟩ := ih later
        exact ⟨⟨second, by simp [member], listed⟩,
          (rule.check_grows registration state line).undeclared_before unknown⟩

/-- What is said to stand for nothing while lines are checked the table does not know before. -/
theorem undeclared_of_mem_validateLines {validator : Validator} {lines : List NumberedLine}
    {finding : Finding} {number : Int} (own : finding.hasOwnWording = true)
    (found : finding.onLine number ∈ (validator.validateLines lines).2)
    (about : finding.unknown? = some name) : validator.table.declares name = false := by
  -- By induction on the lines, each of which finds the table that those before it have left.
  induction lines generalizing validator with
  | nil => cases found
  | cons line others ih =>
    unfold validateLines at found
    -- What a later line does not know was not declared before either, as tables only grow.
    rcases List.mem_append.mp found with here | later
    · obtain ⟨second, raised, same⟩ := List.mem_map.mp here
      obtain ⟨rfl, -⟩ := Finding.eq_of_onLine_eq own same
      exact (lookedUp_of_mem_runRules raised about).2
    · exact (validator.validateLine_grows line).undeclared_before (ih later)

/-- The rules of a line without mixed types report a name that one of them looks up in vain. -/
theorem exists_mem_runRules {registration : Registration} {line : Text}
    (unmixed : MixedTypes.check line = []) {rules : List Rule} {rule : Rule} (runs : rule ∈ rules)
    (listed : name ∈ rule.lookedUp line) (other : name ∉ Declaration.namesOn line)
    {state : Rule.State} (unknown : state.table.declares name = false) :
    ∃ finding ∈ (runRules registration line state rules).2, finding.unknown? = some name := by
  induction rules generalizing state with
  | nil => cases runs
  | cons first others ih =>
    -- No rule breaks the circuit on such a line.
    have goesOn : (first.breaksCircuit && !(first.check registration state line).2.isEmpty) =
        false := by
      cases first with
      | mixedTypes => simp [Rule.check, unmixed]
      | _ => rfl
    unfold runRules
    -- The rule is the first one, or it comes later and finds the table grown.
    dsimp only
    rw [goesOn]
    rcases List.mem_cons.mp runs with rfl | later
    · obtain ⟨finding, raised, about⟩ := Rule.exists_mem_check listed other unknown
      exact ⟨finding, List.mem_append_left _ raised, about⟩
    · have still : (first.check registration state line).1.table.declares name = false :=
        (first.check_grows registration state line).undeclared
          (fun symbol declared same => other (same ▸ declared.listed)) unknown
      obtain ⟨finding, raised, about⟩ := ih later still
      exact ⟨finding, List.mem_append_right _ raised, about⟩

end Validator

end SourceLint
