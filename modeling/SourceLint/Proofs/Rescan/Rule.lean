import SourceLint.Proofs.Rescan.Table
import SourceLint.Proofs.Rescan.Tracker

/-!
The rules on two states of which one is inside one more block and knows fewer values.

A rule for every line finds at least as much on the state that knows less. A rule for the body of
the main function alone only adds values.
-/

namespace SourceLint

variable {table other : SymbolTable} {related : SymbolTable → SymbolTable → Prop}

/-- A value that fits where less is known also fits where more is known. -/
theorem Value.isValid_following (follows : SymbolTable.Following related)
    (same : related table other) {type : VarType} {value : Text}
    (valid : Value.isValid type value table = true) : Value.isValid type value other = true := by
  -- Only the question whether a variable has a value can be answered differently.
  have found := follows.lookup same (Text.trim value)
  simp only [Value.isValid] at valid ⊢
  generalize table.lookup (Text.trim value) = left at found valid
  generalize other.lookup (Text.trim value) = right at found
  cases found with
  | none => exact valid
  | some related =>
    split at valid
    · cases valid
    · rename_i filled
      rw [if_neg filled]
      rw [Bool.and_eq_true] at valid ⊢
      exact ⟨related.initialized valid.1, related.type ▸ valid.2⟩

/-- An outcome with at least as many findings, on a table that knows at most as many values. -/
def SymbolTable.FindsMore (related : SymbolTable → SymbolTable → Prop) {α : Type}
    (left right : SymbolTable × List α) : Prop :=
  related left.1 right.1 ∧ right.2 ⊆ left.2

/-- Steps that find more one by one find more together. -/
theorem SymbolTable.runAll_findsMore {α β : Type}
    {step : SymbolTable → α → SymbolTable × List β}
    (each : ∀ {table other : SymbolTable}, related table other → ∀ item,
      FindsMore related (step table item) (step other item)) (same : related table other)
    (items : List α) : FindsMore related (table.runAll step items) (other.runAll step items) := by
  -- By induction on the items.
  induction items generalizing table other with
  | nil => exact ⟨same, List.Subset.refl _⟩
  | cons item items ih =>
    -- The first step keeps the tables related for the others.
    obtain ⟨here, found⟩ := each same item
    obtain ⟨later, others⟩ := ih here
    exact ⟨later, List.append_subset.mpr
      ⟨fun finding member => List.mem_append_left _ (found member),
      fun finding member => List.mem_append_right _ (others member)⟩⟩

namespace Registration

variable {registration : Registration} (follows : SymbolTable.Following related)
include follows

/-- A variable is declared in both tables, and its value may fit only where more is known. -/
theorem declare_findsMore (numbered : 0 < registration.line) (type : DataType) (several : Bool)
    (same : related table other) (item : Item) :
    SymbolTable.FindsMore related (registration.declare type several table item)
      (registration.declare type several other item) := by
  rw [declare, declare, follows.isSome_lookupCurrent same]
  -- The name alone decides whether the variable is declared at all.
  split
  · exact ⟨same, List.Subset.refl _⟩
  · split
    · exact ⟨same, List.Subset.refl _⟩
    · split
      · exact ⟨same, List.Subset.refl _⟩
      · -- The value is judged at last, and that is where more may be known.
        refine ⟨follows.declare same numbered, ?_⟩
        by_cases fits : (item.value.all fun value =>
            Value.isValid (.known type) value table) = true
        · have also : (item.value.all fun value =>
              Value.isValid (.known type) value other) = true := by
            cases value : item.value with
            | none => rfl
            | some value =>
              rw [value] at fits
              exact Value.isValid_following follows same fits
          simp [fits, also]
        · simp only [fits]
          split
          · simp
          · exact List.Subset.refl _

/-- An assignment is judged more strictly where less is known. -/
theorem assign_findsMore (assignment : Assignment) (same : related table other) :
    SymbolTable.FindsMore related (assign assignment table) (assign assignment other) := by
  -- Both tables know the target, or neither does.
  have found := follows.lookup same assignment.name
  rw [assign, assign]
  generalize table.lookup assignment.name = left at found
  generalize other.lookup assignment.name = right at found
  cases found with
  | none => exact ⟨same, List.Subset.refl _⟩
  | @some symbol variant behind =>
    -- The target is marked before the value is judged.
    have marked := follows.markInitialized same assignment.name
    refine ⟨marked, List.append_subset.mpr ⟨?_, ?_⟩⟩
    · -- A variable without a value here has none there.
      intro finding member
      refine List.mem_append_left _ ?_
      split at member
      · rename_i unset
        have less : (assignment.isCompound && !symbol.initialized) = true := by
          rw [Bool.and_eq_true, Bool.not_eq_true'] at unset ⊢
          refine ⟨unset.1, ?_⟩
          rw [← Bool.not_eq_true]
          intro set
          rw [behind.initialized set] at unset
          exact absurd unset.2 (by simp)
        rw [if_pos less]
        exact member
      · simp at member
    · -- A value that fits here fits there as well.
      intro finding member
      refine List.mem_append_right _ ?_
      rw [behind.type] at member
      split at member
      · simp at member
      · rename_i unfit
        rw [if_neg fun fits => unfit (Value.isValid_following follows marked fits)]
        exact member

/-- A statement is judged more strictly where less is known. -/
theorem enter_findsMore (numbered : 0 < registration.line) (same : related table other)
    (statement : Text) :
    SymbolTable.FindsMore related (registration.enter table statement)
      (registration.enter other statement) := by
  rw [enter, enter]
  -- What kind of statement it is does not depend on the table.
  split
  · exact ⟨same, List.Subset.refl _⟩
  · split
    · exact SymbolTable.runAll_findsMore
        (fun same item => declare_findsMore follows numbered _ _ same item) same _
    · split
      · exact assign_findsMore follows _ same
      · exact ⟨same, List.Subset.refl _⟩

/-- A line is judged more strictly where less is known. -/
theorem enterLine_findsMore (numbered : 0 < registration.line) (same : related table other)
    (line : Text) :
    SymbolTable.FindsMore related (registration.enterLine table line)
      (registration.enterLine other line) :=
  -- The statements of a line are entered one after another.
  SymbolTable.runAll_findsMore
    (fun same statement => enter_findsMore follows numbered same statement) same _

end Registration

/-- A check of operators only gives values to variables. -/
theorem Operators.check_ahead (same : table.Behind other) (line : Text) :
    table.Behind (Operators.check other line).1 := by
  -- One operator gives a value to its variable, if it has none.
  have step : ∀ {other : SymbolTable}, table.Behind other → ∀ name,
      table.Behind (checkTarget other name).1 := by
    intro other same name
    rw [checkTarget]
    cases other.lookup name with
    | none => exact same
    | some symbol =>
      cases set : symbol.initialized with
      | true => simpa [set] using same
      | false => simpa [set] using same.markOther name
  -- By induction on the operators, each of which leaves the table ahead.
  have run : ∀ (names : List Text) {other : SymbolTable}, table.Behind other →
      table.Behind (other.runAll checkTarget names).1 := by
    intro names
    induction names with
    | nil => exact fun same => same
    | cons name names ih => exact fun same => ih (step same name)
  exact run _ same

namespace Rule

/-- A state inside at most one more block, on a table that knows at most as many values. -/
structure State.Follows (related : SymbolTable → SymbolTable → Prop) (outer inner : State) :
    Prop where
  table : related outer.table inner.table
  tracker : outer.tracker.Deeper inner.tracker

/-- A state inside at most one more block, both on flat tables. -/
abbrev State.Behind (outer inner : State) : Prop :=
  State.Follows SymbolTable.Behind outer inner

variable {outer inner : State} {registration : Registration}

/-- A rule for every line finds at least as much where less is known. -/
theorem check_behind (follows : SymbolTable.Following related) {rule : Rule}
    (everywhere : rule.isMainOnly = false) (numbered : 0 < registration.line)
    (same : State.Follows related outer inner) (line : Text) :
    State.Follows related (rule.check registration outer line).1
        (rule.check registration inner line).1 ∧
      (rule.check registration inner line).2 ⊆ (rule.check registration outer line).2 := by
  have kept : ∀ {left right : List Finding}, left = right →
      State.Follows related outer inner ∧ right ⊆ left :=
    fun equal => ⟨same, equal ▸ List.Subset.refl _⟩
  -- All that most rules ask of the table is the type of a name.
  have types := fun name => follows.typeOf? same.table name
  -- What looks into the table finds the types it would find, and the rules for bodies are left out.
  cases rule with
  | mixedTypes => exact kept rfl
  | stringArithmetic => exact kept (StringArithmetic.check_congr types line)
  | danglingElse =>
    obtain ⟨tracker, findings⟩ := same.tracker.check line
    exact ⟨⟨same.table, tracker⟩, findings ▸ List.Subset.refl _⟩
  | keywordCase => exact kept rfl
  | missingSemicolon => exact kept rfl
  | emptyInitializer => exact kept rfl
  | undeclaredIdentifier =>
    refine kept (Undeclared.check_congr (fun name => ?_) line)
    rw [← SymbolTable.isSome_typeOf?, types, SymbolTable.isSome_typeOf?]
  -- Declarations are entered, and the values may fit in the inner table only.
  | declarations =>
    obtain ⟨table, findings⟩ := Registration.enterLine_findsMore follows numbered same.table line
    exact ⟨⟨table, same.tracker⟩, findings⟩
  | nestedAssignment => cases everywhere
  | operators => cases everywhere
  | strayCharacters => cases everywhere
  | branchShape => cases everywhere

/-- A rule breaks the circuit whatever the state, since it finds the same for any. -/
theorem breaksCircuit_check (rule : Rule) (registration : Registration) (outer inner : State)
    (line : Text) :
    (rule.breaksCircuit && !(rule.check registration inner line).2.isEmpty) =
      (rule.breaksCircuit && !(rule.check registration outer line).2.isEmpty) := by
  -- Only one rule breaks the circuit, and it looks at the line alone.
  cases rule with
  | mixedTypes => rfl
  | _ => simp [breaksCircuit]

/-- A rule for the body of the main function only adds values. -/
theorem check_ahead {rule : Rule} (mainOnly : rule.isMainOnly = true)
    (same : outer.Behind inner) (line : Text) :
    outer.Behind (rule.check registration inner line).1 := by
  -- Of the rules for bodies only the one about operators gives values.
  cases rule with
  | nestedAssignment => exact same
  | operators => exact ⟨Operators.check_ahead same.table line, same.tracker⟩
  | strayCharacters => exact same
  | branchShape => exact same
  | mixedTypes => cases mainOnly
  | stringArithmetic => cases mainOnly
  | danglingElse => cases mainOnly
  | keywordCase => cases mainOnly
  | missingSemicolon => cases mainOnly
  | emptyInitializer => cases mainOnly
  | undeclaredIdentifier => cases mainOnly
  | declarations => cases mainOnly

end Rule

end SourceLint
