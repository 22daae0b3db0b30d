import SourceLint.Validator

/-!
The rules that findings come from.

Every rule has findings of its own, and a validator raises no others.
-/

namespace SourceLint

/-- The rule that raises a finding, if it is about a line of a program. -/
def Finding.rule? : Finding → Option Rule
  | mixedTypes _ => some .mixedTypes
  | stringWithNumber _ | numberWithString _ => some .stringArithmetic
  | danglingElse => some .danglingElse
  | keywordCase _ _ => some .keywordCase
  | missingSemicolon => some .missingSemicolon
  | emptyInitializer => some .emptyInitializer
  | undeclaredIdentifier _ => some .undeclaredIdentifier
  | namelessDeclaration _ | reservedName _ | badNameStart _ | badNameCharacters _
  | alreadyDeclared _ | badInitializer _ | badInitializerOf _ _ | assignedUndeclared _
  | assignedUninitialized _ _ | badValue _ => some .declarations
  | nestedAssignment _ => some .nestedAssignment
  | tripleStep | mixedStep | minusChain | pointerPair | doubledArithmetic | steppedUndeclared _
  | steppedUninitialized _ | steppedNonNumeric _ | stepWithoutVariable | doubtfulStep
  | danglingOperator _ => some .operators
  | unexpectedCharacter _ | strayPunctuation _ | repeatedSpecial _ => some .strayCharacters
  | unclosedCondition _ | emptyCondition _ | missingBrace _ | singleLineElse
  | ifWithoutParentheses | conditionUndeclared _ _ | conditionUninitialized _ _ =>
    some .branchShape
  -- These are about comments, the main function or the program.
  | nestedComment | unclosedComment _ | severalMains | mainWithoutOpening | mainWithoutClosing
  | malformedMain | mainNoFunction | noMain | neverInitialized _ | neverInitializedInMain _ => none

/-- Findings that all come from a rule. -/
def Rule.Raises (rule : Rule) (findings : List Finding) : Prop :=
  ∀ finding ∈ findings, finding.rule? = some rule

namespace Rule.Raises

variable {rule : Rule}

/-- A rule may find nothing. -/
@[simp] theorem nil : rule.Raises [] := by
  simp [Raises]

/-- Findings come from a rule one by one. -/
@[simp] theorem cons_iff (first : Finding) (others : List Finding) :
    rule.Raises (first :: others) ↔ first.rule? = some rule ∧ rule.Raises others := by
  simp [Raises]

/-- Findings of two parts come from a rule if those of both parts do. -/
@[simp] theorem append_iff (first second : List Finding) :
    rule.Raises (first ++ second) ↔ rule.Raises first ∧ rule.Raises second := by
  simp [Raises, or_imp, forall_and]

variable {α : Type}

/-- A rule that raises one finding for each entry of a list. -/
theorem map {raise : α → Finding} (own : ∀ entry, (raise entry).rule? = some rule)
    (entries : List α) : rule.Raises (entries.map raise) := by
  -- The finding is raised for an entry.
  intro finding found
  obtain ⟨entry, -, rfl⟩ := List.mem_map.mp found
  exact own entry

/-- A rule that raises a finding for some of the entries of a list. -/
theorem filterMap {raise? : α → Option Finding}
    (own : ∀ entry, ∀ finding ∈ raise? entry, finding.rule? = some rule) (entries : List α) :
    rule.Raises (entries.filterMap raise?) := by
  -- The finding is raised for one of the entries that are kept.
  intro finding found
  obtain ⟨entry, -, raised⟩ := List.mem_filterMap.mp found
  exact own entry finding raised

/-- A rule that raises several findings for each entry of a list. -/
theorem flatMap {raise : α → List Finding} (own : ∀ entry, rule.Raises (raise entry))
    (entries : List α) : rule.Raises (entries.flatMap raise) := by
  -- The finding is among those of an entry.
  intro finding found
  obtain ⟨entry, -, raised⟩ := List.mem_flatMap.mp found
  exact own entry finding raised

/-- A rule that raises a finding for an entry, if there is one. -/
theorem toList {raise : α → Finding} (own : ∀ entry, (raise entry).rule? = some rule)
    (found : Option α) : rule.Raises (found.map raise).toList := by
  -- There is a finding at most.
  cases found with
  | none => simp
  | some entry => simp [own entry]

end Rule.Raises

/-- Steps that find nothing but findings of a rule find nothing else together. -/
theorem SymbolTable.raises_runAll {α : Type} {rule : Rule}
    {step : SymbolTable → α → SymbolTable × List Finding}
    (raised : ∀ table entry, rule.Raises (step table entry).2) (table : SymbolTable)
    (entries : List α) : rule.Raises (table.runAll step entries).2 := by
  -- Every step leaves another table for the next one, of which nothing is asked.
  induction entries generalizing table with
  | nil => simp [runAll]
  | cons first others ih => simp [runAll, raised, ih]

/-- A fault of a declared name is about its spelling. -/
theorem Declaration.nameFault?_cases {name : Text} {fault : Finding}
    (found : nameFault? name = some fault) :
    fault = .reservedName name ∨ fault = .badNameStart name ∨ fault = .badNameCharacters name := by
  unfold nameFault? at found
  -- A reserved word comes first, then a bad start, then bad characters.
  split at found
  · cases found
    exact .inl rfl
  split at found
  · split at found
    · cases found
      exact .inr (.inl rfl)
    dsimp only at found
    split at found
    · cases found
    · cases found
      exact .inr (.inr rfl)
  · cases found
    exact .inr (.inl rfl)

/-- A name is only faulty as a declared one. -/
theorem Declaration.rule?_of_nameFault? {name : Text} {fault : Finding}
    (found : nameFault? name = some fault) : fault.rule? = some .declarations := by
  rcases nameFault?_cases found with rfl | rfl | rfl <;> rfl

namespace Registration

/-- What is found about a declared variable. -/
theorem raises_declare (registration : Registration) (type : DataType) (several : Bool)
    (table : SymbolTable) (item : Item) :
    Rule.declarations.Raises (registration.declare type several table item).2 := by
  -- A fault of the name comes before anything else.
  unfold declare
  split
  case h_1 fault found => simp [Declaration.rule?_of_nameFault? found]
  case h_2 =>
    -- The name is fine: nothing is assigned, it is taken, or it is entered with its value.
    split
    · simp
    split
    · split <;> simp [Finding.rule?]
    · dsimp only
      split
      · simp
      · split <;> simp [Finding.rule?]

/-- What is found about an assignment. -/
theorem raises_assign (assignment : Assignment) (table : SymbolTable) :
    Rule.declarations.Raises (assign assignment table).2 := by
  -- An assignment to an unknown name is a finding by itself.
  unfold assign
  split
  · simp [Finding.rule?]
  · dsimp only
    rw [Rule.Raises.append_iff]
    -- The variable that is read and the value that is written are two findings.
    constructor
    · split <;> simp [Finding.rule?]
    · split <;> simp [Finding.rule?]

/-- What is found about a statement. -/
theorem raises_enter (registration : Registration) (table : SymbolTable) (statement : Text) :
    Rule.declarations.Raises (registration.enter table statement).2 := by
  unfold enter
  -- A statement is a type alone, a declaration, an assignment or none of these.
  split
  · simp [Finding.rule?]
  split
  · exact SymbolTable.raises_runAll (registration.raises_declare _ _) table _
  split
  · exact raises_assign _ table
  · simp

end Registration

/-- What is found about operators. -/
theorem Operators.raises_check (table : SymbolTable) (line : Text) :
    Rule.operators.Raises (check table line).2 := by
  -- A stepped variable, a cluster and a lone step are findings of the rule each.
  have target : ∀ table name, Rule.operators.Raises (checkTarget table name).2 := by
    intro table name
    unfold checkTarget
    split
    · simp [Finding.rule?]
    · dsimp only
      split
      · split <;> simp [Finding.rule?]
      · split <;> simp [Finding.rule?]
  have clusters : ∀ text, Rule.operators.Raises (clusterFindings text) := by
    intro text
    unfold clusterFindings
    simp only [Rule.Raises.append_iff, and_assoc]
    refine ⟨?_, ?_, ?_, ?_, ?_⟩ <;> split <;> simp [Finding.rule?]
  -- A step that stands alone is looked for in the whole statement.
  have lone : ∀ text, Rule.operators.Raises (loneStepFindings text) := by
    intro text
    unfold loneStepFindings
    split
    · simp
    split
    · simp [Finding.rule?]
    split <;> simp [Finding.rule?]
  -- What is found about the line as a whole stands around what is found about its variables.
  unfold check
  simp only [Rule.Raises.append_iff, clusters, true_and]
  refine ⟨⟨SymbolTable.raises_runAll target _ _, ?_⟩, ?_⟩
  · split
    · exact lone _
    · simp
  · cases dangling? (Text.blank line) <;> simp [Finding.rule?]

/-- What is found about the shape of branches. -/
theorem BranchShape.raises_check (table : SymbolTable) (line : Text) :
    Rule.branchShape.Raises (check table line) := by
  -- The condition and the header have findings of their own.
  have condition : ∀ text, Rule.branchShape.Raises (conditionFindings table text) := by
    intro text finding found
    obtain ⟨name, -, raised⟩ := List.mem_filterMap.mp found
    dsimp only at raised
    split at raised
    · cases raised
      rfl
    · split at raised <;> cases raised
      rfl
  -- A header without a condition is reported, and the others are looked into.
  have header : ∀ text, Rule.branchShape.Raises (headerFindings table text) := by
    intro text
    unfold headerFindings
    dsimp only
    split
    · simp [Finding.rule?]
    · simp only [Rule.Raises.append_iff, condition, true_and]
      constructor
      · split <;> simp [Finding.rule?]
      · split <;> simp [Finding.rule?]
  -- Only a line with a branch header is looked at any closer.
  unfold check
  dsimp only
  split
  · exact header _
  split
  · split <;> simp [Finding.rule?]
  split
  · simp [Finding.rule?]
  split <;> simp [Finding.rule?]

/-- A rule raises its own findings. -/
theorem Rule.raises_check (rule : Rule) (registration : Registration) (state : State)
    (line : Text) : rule.Raises (rule.check registration state line).2 := by
  -- Each rule builds its findings in its own way, and of its own kinds alone.
  cases rule with
  | mixedTypes =>
    simp only [check, MixedTypes.check]
    split
    · simp
    · exact .toList (fun _ => rfl) _
  | stringArithmetic =>
    refine .flatMap (fun pair => ?_) _
    rw [StringArithmetic.pairFindings, Raises.append_iff]
    constructor <;> split <;> simp [Finding.rule?]
  -- Behind these are rules with a finding at most.
  | danglingElse =>
    simp only [check, ElseTracker.check]
    split <;> simp [Finding.rule?]
  | keywordCase =>
    refine .filterMap (fun word finding raised => ?_) _
    split at raised
    · obtain ⟨canonical, -, differs⟩ := Option.bind_eq_some_iff.mp raised
      split at differs <;> cases differs
      rfl
    · cases raised
  | missingSemicolon =>
    simp only [check, Semicolon.check]
    split <;> simp [Finding.rule?]
  | emptyInitializer =>
    simp only [check, RightHandSide.checkEmpty]
    split <;> simp [Finding.rule?]
  | undeclaredIdentifier =>
    simp only [check, Undeclared.check]
    split
    · simp
    · exact .map (fun _ => rfl) _
  | declarations => exact SymbolTable.raises_runAll registration.raises_enter _ _
  -- Assignments in assignments and stray characters are found entry by entry.
  | nestedAssignment =>
    refine .filterMap (fun statement finding raised => ?_) _
    obtain ⟨assignment, -, nested⟩ := Option.bind_eq_some_iff.mp raised
    split at nested <;> cases nested
    rfl
  | operators => exact Operators.raises_check _ _
  | strayCharacters =>
    simp only [check, StrayCharacter.check, Raises.append_iff]
    exact ⟨⟨.map (fun _ => rfl) _, .toList (fun _ => rfl) _⟩, .toList (fun _ => rfl) _⟩
  | branchShape => exact BranchShape.raises_check _ _

namespace Validator

/-- Everything that the rules find about a line comes from one of them. -/
theorem exists_rule_of_mem_runRules {registration : Registration} {line : Text}
    {state : Rule.State} {rules : List Rule} {finding : Finding}
    (found : finding ∈ (runRules registration line state rules).2) :
    ∃ rule ∈ rules, finding.rule? = some rule := by
  -- By induction on the rules.
  induction rules generalizing state with
  | nil => simp [runRules] at found
  | cons rule others ih =>
    have own := rule.raises_check registration state line
    simp only [runRules] at found
    -- A rule that breaks the circuit has the last word.
    split at found
    · exact ⟨rule, by simp, own finding found⟩
    · rcases List.mem_append.mp found with here | later
      · exact ⟨rule, by simp, own finding here⟩
      · obtain ⟨other, member, raised⟩ := ih later
        exact ⟨other, by simp [member], raised⟩

/-- Lines are checked one part after the other. -/
theorem validateLines_append (validator : Validator) (first second : List NumberedLine) :
    validator.validateLines (first ++ second) =
      (((validator.validateLines first).1.validateLines second).1,
        (validator.validateLines first).2 ++
          ((validator.validateLines first).1.validateLines second).2) := by
  -- By induction on the first part.
  induction first generalizing validator with
  | nil => rfl
  | cons line others ih =>
    simp only [List.cons_append, validateLines, ih, List.append_assoc]

/-- A message about lines tells what the rules find on one of them, behind the earlier ones. -/
theorem exists_split_of_mem_validateLines {validator : Validator} {lines : List NumberedLine}
    {diagnostic : Diagnostic} (found : diagnostic ∈ (validator.validateLines lines).2) :
    ∃ earlier line later, lines = earlier ++ line :: later ∧
      ∃ finding ∈ (runRules ⟨validator.reportRedeclarations, line.number⟩ line.text
          (validator.validateLines earlier).1.toState validator.rules).2,
        diagnostic = finding.onLine line.number := by
  -- By induction on the lines.
  induction lines generalizing validator with
  | nil => cases found
  | cons line others ih =>
    simp only [validateLines] at found
    -- The first line with the message is found by going down the list.
    rcases List.mem_append.mp found with here | later
    · obtain ⟨finding, raised, rfl⟩ := List.mem_map.mp here
      exact ⟨[], line, others, rfl, finding, raised, rfl⟩
    · obtain ⟨earlier, second, rest, rfl, finding, raised, same⟩ := ih later
      exact ⟨line :: earlier, second, rest, rfl, finding, raised, same⟩

/-- Every message about lines tells a finding of a rule on one of them. -/
theorem exists_finding_of_mem_validateLines {validator : Validator} {lines : List NumberedLine}
    {diagnostic : Diagnostic} (found : diagnostic ∈ (validator.validateLines lines).2) :
    ∃ (finding : Finding) (rule : Rule), finding.rule? = some rule ∧ rule ∈ validator.rules ∧
      ∃ line ∈ lines, diagnostic = finding.onLine line.number := by
  -- The message is raised on a line, by a rule whose finding it is.
  obtain ⟨earlier, line, later, rfl, finding, raised, same⟩ :=
    exists_split_of_mem_validateLines found
  obtain ⟨rule, member, own⟩ := exists_rule_of_mem_runRules raised
  exact ⟨finding, rule, own, member, line, by simp, same⟩

end Validator

end SourceLint
