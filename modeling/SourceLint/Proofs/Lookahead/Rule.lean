import Mathlib.Data.List.Nodup
import SourceLint.Proofs.Growth.Table
import SourceLint.Proofs.Rescan.Rule
import SourceLint.Validator

/-!
Lines that are checked twice, on tables with the same scopes of which one knows more values.

Every rule finds at least as much on the table that knows less. So what is known about values is all
that a table can take away from the messages about a line.
-/

namespace SourceLint

/-- A scope catches up with one that knows the value already. -/
theorem Scope.markInitialized_catchUp {scope other : Scope}
    (same : List.Forall₂ Symbol.Behind scope other) (distinct : (other.map Symbol.name).Nodup)
    {name : Text} {symbol : Symbol} (found : other.lookup name = some symbol)
    (set : symbol.initialized = true) :
    List.Forall₂ Symbol.Behind (scope.markInitialized name) other := by
  -- The mark goes over both scopes place by place.
  unfold Scope.markInitialized
  rw [List.forall₂_map_left_iff, List.forall₂_iff_zip]
  obtain ⟨length, pairs⟩ := List.forall₂_iff_zip.mp same
  refine ⟨length, fun {old variant} paired => ?_⟩
  have behind := pairs paired
  split
  · -- Only one variable of the other scope has the name, and that one has its value.
    rename_i named
    have listed : variant ∈ other := (List.of_mem_zip paired).2
    have looked : symbol ∈ other := List.mem_of_find?_eq_some found
    have called : (symbol.name == name) = true := by simpa using List.find?_some found
    have names : variant.name = symbol.name := by
      rw [behind.name, beq_iff_eq.mp named, beq_iff_eq.mp called]
    obtain rfl := List.inj_on_of_nodup_map distinct listed looked names
    exact ⟨behind.name, behind.type, fun _ => set⟩
  · exact behind

namespace SymbolTable

/-- A table with the scopes and variables of another one, which knows at least as many values. -/
structure Trails (table other : SymbolTable) : Prop where
  scopes : List.Forall₂ (List.Forall₂ Symbol.Behind) table.stack other.stack
  distinct : ∀ scope ∈ other.stack, (scope.map Symbol.name).Nodup

/-- A name gets its value in the innermost of all scopes that has it. -/
theorem stack_markInitialized (table : SymbolTable) (name : Text) :
    (table.markInitialized name).stack = markIn name table.stack := by
  -- A name of the current scope is marked there, and any other one further out.
  unfold SymbolTable.markInitialized lookupCurrent stack
  rw [markIn]
  split <;> rfl

section Scopes

variable {scopes others : List Scope}

/-- Both stacks of scopes have a variable with a name in the same place, or neither has one. -/
theorem findSome?_behind (same : List.Forall₂ (List.Forall₂ Symbol.Behind) scopes others)
    (name : Text) :
    Option.Rel Symbol.Behind (scopes.findSome? fun scope => scope.lookup name)
      (others.findSome? fun scope => scope.lookup name) := by
  -- By induction on the stacks, from the innermost scope outwards.
  induction same with
  | nil => exact .none
  | cons here _ ih =>
    have found := Scope.lookup_behind here name
    rw [List.findSome?_cons, List.findSome?_cons]
    generalize Scope.lookup _ name = left at found
    generalize Scope.lookup _ name = right at found
    -- The search goes on in both stacks if it goes on in one.
    cases found with
    | some related => exact .some related
    | none => exact ih

/-- A name gets its value in the same scope of both stacks. -/
theorem markIn_behind (same : List.Forall₂ (List.Forall₂ Symbol.Behind) scopes others)
    (name : Text) :
    List.Forall₂ (List.Forall₂ Symbol.Behind) (markIn name scopes) (markIn name others) := by
  induction same with
  | nil => exact .nil
  | cons here outers ih =>
    rw [markIn, markIn, Scope.isSome_lookup_behind here]
    -- Both stacks have the name in the same scope.
    split
    · exact .cons (Scope.markInitialized_behind here name) outers
    · exact .cons here ih

/-- A stack of scopes catches up with one that knows the value already. -/
theorem markIn_catchUp (same : List.Forall₂ (List.Forall₂ Symbol.Behind) scopes others)
    (distinct : ∀ scope ∈ others, (scope.map Symbol.name).Nodup) {name : Text} {symbol : Symbol}
    (found : (others.findSome? fun scope => scope.lookup name) = some symbol)
    (set : symbol.initialized = true) :
    List.Forall₂ (List.Forall₂ Symbol.Behind) (markIn name scopes) others := by
  -- By induction on the stacks, up to the scope that has the name.
  induction same with
  | nil => exact .nil
  | @cons scope other _ _ here outers ih =>
    rw [markIn, Scope.isSome_lookup_behind here]
    rw [List.findSome?_cons] at found
    -- The first scope with the name is the one that is marked.
    cases looked : other.lookup name with
    | some variant =>
      rw [looked] at found
      cases found
      rw [Option.isSome_some, if_pos rfl]
      exact .cons (Scope.markInitialized_catchUp here (distinct other (by simp)) looked set) outers
    | none =>
      rw [looked] at found
      rw [Option.isSome_none, if_neg Bool.false_ne_true]
      exact .cons here (ih (fun outer member => distinct outer (by simp [member])) found)

/-- A name that gets a value leaves the names of all scopes as they are. -/
theorem nodup_markIn (distinct : ∀ scope ∈ scopes, (scope.map Symbol.name).Nodup) (name : Text) :
    ∀ scope ∈ markIn name scopes, (scope.map Symbol.name).Nodup := by
  -- The marked scopes are those of the table, with more of their variables set.
  have kept : List.Forall₂ (Scope.Kept fun _ => True) scopes (markIn name scopes) :=
    Grows.markIn trivial scopes
  generalize markIn name scopes = marked at kept
  -- A mark changes no name.
  induction kept with
  | nil => simp
  | cons here _ ih =>
    intro scope member
    rcases List.mem_cons.mp member with rfl | outer
    · rw [here.map_name]
      exact distinct _ (by simp)
    · exact ih (fun old listed => distinct old (by simp [listed])) scope outer

end Scopes

namespace Trails

variable {table other : SymbolTable}

/-- The same variable is declared in both current scopes. -/
theorem declare (same : table.Trails other) (symbol : Symbol) :
    (table.declare symbol).Trails (other.declare symbol) := by
  -- The current scopes have the same names.
  obtain ⟨scopes, distinct⟩ := same
  cases scopes with
  | cons here outers =>
    unfold SymbolTable.declare lookupCurrent
    rw [Scope.isSome_lookup_behind here]
    -- A name that is free is free in both current scopes.
    split
    · exact ⟨.cons here outers, distinct⟩
    · rename_i unknown
      refine ⟨.cons (List.rel_append here (.cons (.refl symbol) .nil)) outers, ?_⟩
      intro scope member
      rcases List.mem_cons.mp member with rfl | outer
      · exact Scope.nodup_concat (distinct other.current (by simp [stack]))
          (Option.not_isSome_iff_eq_none.mp unknown)
      · exact distinct scope (List.mem_cons_of_mem _ outer)

/-- A value is given in both tables. -/
theorem markInitialized (same : table.Trails other) (name : Text) :
    (table.markInitialized name).Trails (other.markInitialized name) := by
  -- Values are given by the place of a name, which is the same one in both.
  refine ⟨?_, ?_⟩
  · rw [stack_markInitialized, stack_markInitialized]
    exact markIn_behind same.scopes name
  · rw [stack_markInitialized]
    exact nodup_markIn same.distinct name

/-- A value is given in the table that lacks it. -/
theorem catchUp (same : table.Trails other) {name : Text} {symbol : Symbol}
    (found : other.lookup name = some symbol) (set : symbol.initialized = true) :
    (table.markInitialized name).Trails other := by
  -- Only values are added, and the other table has them already.
  refine ⟨?_, same.distinct⟩
  rw [stack_markInitialized]
  exact markIn_catchUp same.scopes same.distinct found set

end Trails

/-- Tables with the same scopes stay in step. -/
theorem following_trails : Following Trails where
  lookup same name := findSome?_behind same.scopes name
  -- What the current scope has is a question about the innermost one.
  isSome_lookupCurrent same name := by
    obtain ⟨scopes, -⟩ := same
    cases scopes with
    | cons here _ => exact Scope.isSome_lookup_behind here name
  declare same symbol _ := same.declare symbol
  markInitialized same name := same.markInitialized name

end SymbolTable

variable {table other : SymbolTable}

/-- A stepped variable is reported at least where less is known. -/
theorem Operators.checkTarget_findsMore (same : table.Trails other) (name : Text) :
    SymbolTable.FindsMore SymbolTable.Trails (checkTarget table name) (checkTarget other name) := by
  -- Both tables know the target, or neither does.
  have found := SymbolTable.following_trails.lookup same name
  unfold checkTarget
  generalize table.lookup name = left at found
  generalize right : other.lookup name = variant? at found
  cases found with
  | none => exact ⟨same, List.Subset.refl _⟩
  | @some symbol variant behind =>
    dsimp only
    rw [behind.type]
    cases known : symbol.initialized with
    -- A known value is known in both tables.
    | true =>
      rw [behind.initialized known]
      exact ⟨same, List.Subset.refl _⟩
    | false =>
      -- The table that lacks the value counts the variable as set from now on.
      cases set : variant.initialized with
      | true => exact ⟨same.catchUp right set, List.subset_cons_self _ _⟩
      | false => exact ⟨same.markInitialized name, List.Subset.refl _⟩

/-- The operators of a line are judged more strictly where less is known. -/
theorem Operators.check_findsMore (same : table.Trails other) (line : Text) :
    SymbolTable.FindsMore SymbolTable.Trails (check table line) (check other line) := by
  -- The targets are checked one after another, each with the table that the one before has left.
  obtain ⟨trails, found⟩ := SymbolTable.runAll_findsMore
    (fun same name => checkTarget_findsMore same name) same (targetsIn (Text.blank line))
  refine ⟨trails, fun finding member => ?_⟩
  -- Everything else that is found about operators does not depend on the table.
  unfold check at member ⊢
  simp only [List.mem_append] at member ⊢
  rcases member with ((cluster | stepped) | lone) | dangling
  · exact .inl (.inl (.inl cluster))
  · exact .inl (.inl (.inr (found stepped)))
  · exact .inl (.inr lone)
  · exact .inr dangling

/-- A condition is judged more strictly where less is known. -/
theorem BranchShape.conditionFindings_subset (same : table.Trails other) (condition : Text) :
    conditionFindings other condition ⊆ conditionFindings table condition := by
  intro finding member
  -- The finding is about a name of the condition.
  obtain ⟨name, listed, told⟩ := List.mem_filterMap.mp member
  refine List.mem_filterMap.mpr ⟨name, listed, ?_⟩
  have found := SymbolTable.following_trails.lookup same name
  dsimp only at told ⊢
  generalize table.lookup name = left at found
  generalize other.lookup name = right at found told
  -- Both tables know the name, or it is undeclared in both.
  cases found with
  | none => exact told
  | @some symbol variant behind =>
    dsimp only at told ⊢
    split at told
    · cases told
    · -- A variable without a value there has none here.
      rename_i unset
      rw [if_neg fun known => unset (behind.initialized known)]
      exact told

/-- A branch header is judged more strictly where less is known. -/
theorem BranchShape.check_subset (same : table.Trails other) (line : Text) :
    check other line ⊆ check table line := by
  -- Only the findings about a condition look variables up.
  have headers : ∀ text, headerFindings other text ⊆ headerFindings table text := by
    intro text finding member
    unfold headerFindings at member ⊢
    dsimp only at member ⊢
    split at member
    · exact member
    · rename_i condition after _
      rw [List.mem_append, List.mem_append] at member ⊢
      exact member.imp_left (Or.imp_left fun told => conditionFindings_subset same condition told)
  -- The shape is looked at in the header and in what follows it.
  unfold check
  dsimp only
  split
  · exact headers _
  · exact List.Subset.refl _

namespace Rule

variable {outer inner : State} {registration : Registration}

/-- A rule finds at least as much where less is known. -/
theorem check_trails (rule : Rule) (numbered : 0 < registration.line)
    (same : State.Follows SymbolTable.Trails outer inner) (line : Text) :
    State.Follows SymbolTable.Trails (rule.check registration outer line).1
        (rule.check registration inner line).1 ∧
      (rule.check registration inner line).2 ⊆ (rule.check registration outer line).2 := by
  -- Rules for every line and rules for bodies are treated apart.
  cases kind : rule.isMainOnly with
  | false => exact check_behind SymbolTable.following_trails kind numbered same line
  | true =>
    -- Of these rules only two look variables up.
    cases rule with
    | nestedAssignment => exact ⟨same, List.Subset.refl _⟩
    | operators =>
      obtain ⟨table, findings⟩ := Operators.check_findsMore same.table line
      exact ⟨⟨table, same.tracker⟩, findings⟩
    | strayCharacters => exact ⟨same, List.Subset.refl _⟩
    | branchShape => exact ⟨same, BranchShape.check_subset same.table line⟩
    | _ => cases kind

end Rule

namespace Validator

/-- The rules of a line find at least as much where less is known. -/
theorem runRules_trails {registration : Registration} (numbered : 0 < registration.line)
    {outer inner : Rule.State} (same : Rule.State.Follows SymbolTable.Trails outer inner)
    (line : Text) (rules : List Rule) :
    Rule.State.Follows SymbolTable.Trails (runRules registration line outer rules).1
        (runRules registration line inner rules).1 ∧
      (runRules registration line inner rules).2 ⊆ (runRules registration line outer rules).2 := by
  -- By induction on the rules, each of which leaves the states in step.
  induction rules generalizing outer inner with
  | nil => exact ⟨same, List.Subset.refl _⟩
  | cons rule others ih =>
    obtain ⟨states, findings⟩ := rule.check_trails numbered same line
    obtain ⟨later, found⟩ := ih states
    -- The circuit is broken by a rule that does not look at the table.
    have stops := rule.breaksCircuit_check registration outer inner line
    unfold runRules
    dsimp only
    rw [stops]
    split
    · exact ⟨states, findings⟩
    · refine ⟨later, List.append_subset.mpr ⟨fun finding here => ?_, fun finding there => ?_⟩⟩
      · exact List.mem_append_left _ (findings here)
      · exact List.mem_append_right _ (found there)

/-- Lines get at least the same messages where less is known. -/
theorem validateLines_trails {outer inner : Validator} (rules : outer.rules = inner.rules)
    (reports : outer.reportRedeclarations = inner.reportRedeclarations)
    (same : Rule.State.Follows SymbolTable.Trails outer.toState inner.toState)
    {lines : List NumberedLine} (numbered : ∀ line ∈ lines, 0 < line.number) :
    (inner.validateLines lines).2 ⊆ (outer.validateLines lines).2 := by
  -- By induction on the lines, which meet validators that are in step.
  induction lines generalizing outer inner with
  | nil => exact List.Subset.refl _
  | cons line others ih =>
    obtain ⟨states, findings⟩ := @runRules_trails ⟨inner.reportRedeclarations, line.number⟩
      (numbered line (by simp)) _ _ same line.text inner.rules
    -- Both validators have the same rules, so they are compared rule by rule.
    have here : (inner.validateLine line).2 ⊆ (outer.validateLine line).2 := by
      unfold validateLine
      dsimp only
      rw [rules, reports]
      exact List.map_subset _ findings
    have next : Rule.State.Follows SymbolTable.Trails (outer.validateLine line).1.toState
        (inner.validateLine line).1.toState := by
      unfold validateLine
      dsimp only
      rw [rules, reports]
      exact states
    have later := @ih (outer.validateLine line).1 (inner.validateLine line).1 rules reports next
      fun other member => numbered other (by simp [member])
    -- What is said about the first line is said by the other validator, and so are the later ones.
    unfold validateLines
    exact List.append_subset.mpr ⟨fun told first => List.mem_append_left _ (here first),
      fun told second => List.mem_append_right _ (later second)⟩

end Validator

end SourceLint
