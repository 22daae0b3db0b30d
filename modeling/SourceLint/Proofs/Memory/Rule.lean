import SourceLint.Memory.Pass
import SourceLint.Proofs.Memory.Operation

/-!
Passes over lines with a table in memory and with a symbol table.

Every rule does to the reading of the table what it does to a symbol table, and finds the same. So
a pass in memory reports what the validator finds, and leaves everything alone that was made before
its table.
-/

namespace SourceLint

open Memory

variable {base memory : Memory} {address : Address} {table : SymbolTable}

/-- The same findings, and a table in memory that is read as the symbol table. -/
def Memory.Matches (base : Memory) (address : Address) {α : Type} (left : Memory × List α)
    (right : SymbolTable × List α) : Prop :=
  base.Holds address left.1 right.1 ∧ left.2 = right.2

/-- Steps that match one by one match together. -/
theorem Memory.runAll_matches {α β : Type} {step : Memory → α → Memory × List β}
    {plain : SymbolTable → α → SymbolTable × List β}
    (each : ∀ (memory : Memory) (table : SymbolTable), base.Holds address memory table →
      ∀ item, base.Matches address (step memory item) (plain table item))
    (holds : base.Holds address memory table) (items : List α) :
    base.Matches address (memory.runAll step items) (table.runAll plain items) := by
  -- The first step leaves a table that the others find as they expect it.
  induction items generalizing memory table with
  | nil => exact ⟨holds, rfl⟩
  | cons item items ih =>
    obtain ⟨here, found⟩ := each memory table holds item
    obtain ⟨later, others⟩ := ih here
    refine ⟨later, ?_⟩
    rw [Memory.runAll, SymbolTable.runAll]
    simp only [found, others]

namespace Registration

/-- A variable is declared in memory as it is in the symbol table. -/
theorem declareAt_matches (registration : Registration) (type : DataType) (several : Bool)
    (holds : base.Holds address memory table) (item : Item) :
    base.Matches address (registration.declareAt address type several memory item)
      (registration.declare type several table item) := by
  rw [declareAt, declare, holds.isSome_lookupCurrent, holds.read_eq]
  -- The same questions are asked in the same order.
  cases Declaration.nameFault? item.name with
  | some fault => exact ⟨holds, rfl⟩
  | none =>
    dsimp only
    -- A value that does not fit is reported in the same words, and nothing is declared.
    split
    · exact ⟨holds, rfl⟩
    · split
      · exact ⟨holds, rfl⟩
      · exact ⟨holds.declare _, rfl⟩

/-- A value is given in memory where the name was found, and in the symbol table by the name. -/
theorem assignAt_matches (holds : base.Holds address memory table) (assignment : Assignment) :
    base.Matches address (assignAt address assignment memory) (assign assignment table) := by
  -- The name is looked up on both sides before anything is written.
  have known := holds.map_lookup assignment.name
  rw [assignAt, assign, ← known]
  cases found : memory.lookup address assignment.name with
  | none => exact ⟨holds, rfl⟩
  | some entry =>
    have marked := holds.setInitialized found
    refine ⟨marked, ?_⟩
    -- The new value is looked at when the variable counts as set already.
    simp only [marked.read_eq, Option.map_some]
    rfl

/-- A statement is entered in memory as it is into the symbol table. -/
theorem enterAt_matches (registration : Registration) (holds : base.Holds address memory table)
    (statement : Text) :
    base.Matches address (registration.enterAt address memory statement)
      (registration.enter table statement) := by
  rw [enterAt, enter]
  -- What kind of statement it is does not depend on the table.
  cases Declaration.nameless? statement with
  | some type => exact ⟨holds, rfl⟩
  | none =>
    cases Declaration.parse? statement with
    | some declaration =>
      exact runAll_matches (fun _ _ => registration.declareAt_matches _ _) holds _
    | none =>
      cases Assignment.parse? statement with
      | some assignment => exact assignAt_matches holds assignment
      | none => exact ⟨holds, rfl⟩

/-- A line is entered in memory as it is into the symbol table. -/
theorem enterLineAt_matches (registration : Registration) (holds : base.Holds address memory table)
    (line : Text) :
    base.Matches address (registration.enterLineAt address memory line)
      (registration.enterLine table line) :=
  runAll_matches (fun _ _ => registration.enterAt_matches) holds _

end Registration

namespace Operators

/-- A stepped variable gets its value in memory as it does in the symbol table. -/
theorem checkTargetAt_matches (holds : base.Holds address memory table) (name : Text) :
    base.Matches address (checkTargetAt address memory name) (checkTarget table name) := by
  -- The name leads to the same variable on both sides.
  have known := holds.map_lookup name
  rw [checkTargetAt, checkTarget, ← known]
  cases memory.lookup address name with
  | none => exact ⟨holds, rfl⟩
  | some entry =>
    obtain ⟨cell, value⟩ := entry
    have same : (value.named name).initialized = value.initialized := rfl
    simp only [Option.map_some, same]
    -- Only a variable without a value is marked.
    split
    · exact ⟨holds, rfl⟩
    · exact ⟨holds.markInitialized name, rfl⟩

/-- The operators of a line are checked in memory as they are with the symbol table. -/
theorem checkAt_matches (holds : base.Holds address memory table) (line : Text) :
    base.Matches address (checkAt address memory line) (check table line) := by
  -- Only the stepped variables are written to the table.
  obtain ⟨stepped, found⟩ :=
    runAll_matches (fun _ _ => checkTargetAt_matches) holds (targetsIn (Text.blank line))
  refine ⟨stepped, ?_⟩
  rw [checkAt, check]
  simp only [found]

end Operators

namespace Rule

/-- The same branches are remembered, and the table in memory is read as the symbol table. -/
structure Stored.Follows (base : Memory) (address : Address) (stored : Stored) (state : State) :
    Prop where
  holds : base.Holds address stored.memory state.table
  tracker : stored.tracker = state.tracker

variable {stored : Stored} {state : State}

/-- A rule finds the same and leaves the same, whether its table is in memory or not. -/
theorem checkAt_follows (rule : Rule) (registration : Registration)
    (follows : stored.Follows base address state) (line : Text) :
    let left := rule.checkAt registration address stored line
    let right := rule.check registration state line
    left.1.Follows base address right.1 ∧ left.2 = right.2 := by
  -- What a rule reads is the same table and the same tracker.
  obtain ⟨holds, tracked⟩ := follows
  have view : stored.view address = state := by
    rw [Stored.view, holds.read_eq, tracked]
  -- Two rules write to memory, one remembers branches, and the others read the table at most.
  cases rule with
  | declarations =>
    obtain ⟨entered, found⟩ := registration.enterLineAt_matches holds line
    exact ⟨⟨entered, tracked⟩, found⟩
  | operators =>
    obtain ⟨stepped, found⟩ := Operators.checkAt_matches holds line
    exact ⟨⟨stepped, tracked⟩, found⟩
  | _ =>
    simp only [checkAt, view]
    exact ⟨⟨holds, rfl⟩, trivial⟩

/-- Rules that run one after another find the same and leave the same. -/
theorem runAllAt_follows (registration : Registration)
    (follows : stored.Follows base address state) (line : Text) (rules : List Rule) :
    let left := runAllAt registration address line stored rules
    let right := Validator.runRules registration line state rules
    left.1.Follows base address right.1 ∧ left.2 = right.2 := by
  -- By induction on the rules, each of which finds a state that is in step.
  induction rules generalizing stored state with
  | nil => exact ⟨follows, rfl⟩
  | cons rule others ih =>
    obtain ⟨here, found⟩ := rule.checkAt_follows registration follows line
    obtain ⟨later, more⟩ := ih here
    simp only [runAllAt, Validator.runRules, found]
    -- A rule that breaks the circuit does so in both.
    split
    · exact ⟨here, rfl⟩
    · exact ⟨later, by rw [more]⟩

end Rule

namespace Pass

/-- A pass that is where a validator is which has found the given messages since some log. -/
structure Follows (base : Memory) (address : Address) (start : Log) (pass : Pass)
    (outcome : Validator × List Diagnostic) : Prop where
  stored : pass.toStored.Follows base address outcome.1.toState
  table : pass.table = address
  rules : pass.rules = outcome.1.rules
  reportRedeclarations : pass.reportRedeclarations = outcome.1.reportRedeclarations
  log : pass.log = start.extend outcome.2

variable {pass : Pass} {validator : Validator} {start : Log} {found : List Diagnostic}

/-- A line leaves a pass where it leaves the validator, and its messages are reported. -/
theorem validateLine_follows (follows : pass.Follows base address start (validator, found))
    (line : NumberedLine) :
    (pass.validateLine line).Follows base address start
      ((validator.validateLine line).1, found ++ (validator.validateLine line).2) := by
  -- The rules of a line start with the state that the pass is in.
  obtain ⟨stored, table, rules, reports, log⟩ := follows
  have checked := Rule.runAllAt_follows ⟨validator.reportRedeclarations, line.number⟩ stored
    line.text validator.rules
  refine ⟨?_, table, rules, reports, ?_⟩
  · simp only [validateLine, table, rules, reports]
    exact checked.1
  · -- What was reported before stays in front.
    simp only [validateLine, table, rules, reports, log, checked.2, Validator.validateLine,
      Log.extend, List.foldl_append]

/-- Lines leave a pass where they leave the validator, and their messages are reported. -/
theorem validateLines_follows (follows : pass.Follows base address start (validator, found))
    (lines : List NumberedLine) :
    (pass.validateLines lines).Follows base address start
      ((validator.validateLines lines).1, found ++ (validator.validateLines lines).2) := by
  -- The log has the messages of the lines that are behind, and the validator those to come.
  induction lines generalizing pass validator found with
  | nil =>
    rw [Validator.validateLines, List.append_nil]
    exact follows
  | cons line others ih =>
    -- The first line leaves the pass in step with the validator.
    have whole := ih (validateLine_follows follows line)
    rw [List.append_assoc] at whole
    exact whole

/-- A text leaves a pass over a table where it leaves the validator with the symbol table. -/
theorem validate_follows (holds : base.Holds address memory table)
    (mainBody reportRedeclarations : Bool) (log : Log) (text : Text) (first : Int) :
    ((Pass.standard mainBody reportRedeclarations memory address log).validate text first).Follows
      base address log
      ((Validator.standard mainBody reportRedeclarations table).validate text first) := by
  -- Before the first line nothing is remembered and nothing has been found.
  have started : Follows base address log
      { standard mainBody reportRedeclarations memory address log with tracker := {} }
      ((Validator.standard mainBody reportRedeclarations table).reset, []) :=
    ⟨⟨holds, rfl⟩, rfl, rfl, rfl, rfl⟩
  exact validateLines_follows started (prepareLines text first)

end Pass

end SourceLint
