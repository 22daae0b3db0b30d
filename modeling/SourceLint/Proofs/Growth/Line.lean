import SourceLint.Proofs.Growth.Table
import SourceLint.Proofs.Text.Scanning
import SourceLint.Token
import SourceLint.Validator

/-!
What a line does to a table.

Two rules touch it. One enters the declarations and assignments of the line, and the other, which
runs in the body of the main function only, gives values to variables that are stepped. Neither
moves or removes anything.
-/

namespace SourceLint

open Text

/-- A statement that is entered is one of those that the line shows. -/
theorem Statement.mem_effective {line statement : Text}
    (entered : statement ∈ effective line false) : statement ∈ effective line true := by
  unfold effective at entered ⊢
  -- The clause of a loop is entered in any case.
  rcases List.mem_append.mp entered with loop | finished
  · exact List.mem_append_left _ loop
  · apply List.mem_append_right
    obtain ⟨piece, listed, kept⟩ := List.mem_filterMap.mp finished
    refine List.mem_filterMap.mpr ⟨piece, listed, ?_⟩
    -- A statement without its semicolon was left out, so this one is kept either way.
    dsimp only at kept ⊢
    split at kept
    · cases kept
    · rename_i complete
      rw [Bool.or_false, Bool.or_eq_true, not_or] at complete
      rw [Bool.or_true, Bool.not_true, Bool.or_false, if_neg complete.1]
      exact kept

namespace Declaration

/-- The name of a declared variable is a trimmed part of the statement. -/
theorem getLast?_name_itemOf (part : Text) : (itemOf part).name.getLast?.any isSpace = false := by
  -- A part is read with or without a value, and its name is trimmed either way.
  unfold itemOf
  split <;> exact getLast?_trim _

/-- The variables of a declaration on a line are named by the line, without white space behind. -/
theorem mem_namesOn {line statement : Text} (shown : statement ∈ Statement.effective line true)
    {declaration : Declaration} (read : parse? statement = some declaration) {item : Item}
    (listed : item ∈ declaration.items) :
    item.name ∈ namesOn line ∧ item.name.getLast?.any isSpace = false := by
  constructor
  · -- The names of a line are those of all items of its statements.
    unfold namesOn
    rw [mem_distinct, List.mem_flatMap]
    refine ⟨statement, shown, ?_⟩
    rw [read]
    exact List.mem_map_of_mem listed
  · -- The items of a declaration are its parts between commas.
    obtain ⟨⟨type, declared⟩, -, parsed⟩ := Option.bind_eq_some_iff.mp read
    dsimp only at parsed
    split at parsed
    · cases parsed
    · cases parsed
      obtain ⟨part, -, rfl⟩ := List.mem_map.mp listed
      exact getLast?_name_itemOf part

/-- A name without fault and without white space behind it is an identifier that is not reserved. -/
theorem isIdentifier_of_nameFault? {name : Text} (fine : nameFault? name = none)
    (trimmed : name.getLast?.any isSpace = false) :
    Token.isIdentifier name = true ∧ Vocabulary.isReserved name = false := by
  -- Each fault that is excluded says something about the characters of the name.
  unfold nameFault? at fine
  split at fine
  · cases fine
  · rename_i unreserved
    refine ⟨?_, Bool.not_eq_true _ ▸ unreserved⟩
    cases name with
    | nil => cases fine
    | cons c rest =>
      dsimp only at fine
      split at fine
      · cases fine
      · rename_i starts
        have first : isNameStart c = true := by simpa using starts
        -- The characters behind the start end the name, or a line break does.
        split at fine
        · rename_i tail
          rw [Bool.or_eq_true] at tail
          rcases tail with empty | broken
          · -- All characters behind the first one are those of names.
            have inside : ∀ d ∈ rest, isNameChar d = true :=
              List.dropWhile_eq_nil_iff.mp (by simpa using empty)
            simp only [Token.isIdentifier, first, Bool.true_and, List.all_eq_true]
            exact inside
          · -- A line break is white space, and the name does not end with any.
            obtain ⟨front, split⟩ := List.dropWhile_suffix (l := rest) isNameChar
            rw [beq_iff_eq.mp broken] at split
            have space : isSpace '\n' = true := by decide
            rw [← split, ← List.cons_append, List.getLast?_concat, Option.any_some,
              space] at trimmed
            cases trimmed
        · cases fine

end Declaration

/-- A variable as a line declares it. -/
structure Symbol.DeclaredOn (numbered : NumberedLine) (symbol : Symbol) : Prop where
  line : symbol.line = numbered.number
  listed : symbol.name ∈ Declaration.namesOn numbered.text
  identifier : Token.isIdentifier symbol.name = true
  unreserved : Vocabulary.isReserved symbol.name = false
  type : ∃ type, symbol.type = .known type

/-- A variable is declared on a line whether or not it has a value. -/
theorem Symbol.DeclaredOn.kept {marks : Text → Prop} {line : NumberedLine} {symbol other : Symbol}
    (declared : symbol.DeclaredOn line) (kept : symbol.Kept marks other) :
    other.DeclaredOn line := by
  -- A declared variable is known by its line, its name and its type, which are all kept.
  refine ⟨?_, ?_, ?_, ?_, ?_⟩
  · rw [kept.line, declared.line]
  · rw [kept.name]
    exact declared.listed
  · rw [kept.name]
    -- The name is the same, so it is spelled as before.
    exact declared.identifier
  · rw [kept.name]
    exact declared.unreserved
  · rw [kept.type]
    exact declared.type

namespace Registration

variable {marks : Text → Prop} (registration : Registration)

/-- Entering a variable of a line adds it at most. -/
theorem declare_grows (type : DataType) (several : Bool) (table : SymbolTable) {item : Item}
    {line : Text} (listed : item.name ∈ Declaration.namesOn line)
    (trimmed : item.name.getLast?.any isSpace = false) :
    table.Grows marks (Symbol.DeclaredOn ⟨registration.line, line⟩)
      (registration.declare type several table item).1 := by
  unfold declare
  split
  · exact .refl table
  · -- The name has no fault, so what is added is an identifier that is not reserved.
    rename_i fine
    obtain ⟨identifier, unreserved⟩ := Declaration.isIdentifier_of_nameFault? fine trimmed
    -- A missing value and a name that is taken leave the table as it is.
    split
    · exact .refl table
    · split
      · exact .refl table
      · exact .declare table ⟨rfl, listed, identifier, unreserved, type, rfl⟩

/-- Entering an assignment gives a value at most. -/
theorem assign_grows {adds : Symbol → Prop} {assignment : Assignment}
    (allowed : marks assignment.name) (table : SymbolTable) :
    table.Grows marks adds (assign assignment table).1 := by
  -- Without a variable of that name nothing happens.
  unfold assign
  split
  · exact .refl table
  · exact .markInitialized table allowed

/-- Entering a statement of a line adds what it declares or gives a value to what it assigns. -/
theorem enter_grows (table : SymbolTable) {line statement : Text}
    (shown : statement ∈ Statement.effective line true) :
    table.Grows (· ∈ Assignment.targetsOn line) (Symbol.DeclaredOn ⟨registration.line, line⟩)
      (registration.enter table statement).1 := by
  unfold enter
  split
  · exact .refl table
  · -- A statement is a declaration or an assignment, and any other one is passed over.
    split
    · rename_i declaration read
      refine .runAll (fun table item listed => ?_) table
      obtain ⟨named, trimmed⟩ := Declaration.mem_namesOn shown read listed
      exact registration.declare_grows _ _ table named trimmed
    · split
      · rename_i assignment read
        refine assign_grows ?_ table
        -- The variable is among those that the line assigns to.
        unfold Assignment.targetsOn
        rw [mem_distinct, List.mem_filterMap]
        exact ⟨statement, shown, by rw [read, Option.map_some]⟩
      · exact .refl table

/-- Entering a line adds what it declares and gives values to what it assigns. -/
theorem enterLine_grows (table : SymbolTable) (line : Text) :
    table.Grows (· ∈ Assignment.targetsOn line) (Symbol.DeclaredOn ⟨registration.line, line⟩)
      (registration.enterLine table line).1 :=
  -- Each of the statements that are entered is one of those that the line shows.
  .runAll (fun table _ entered =>
    registration.enter_grows table (Statement.mem_effective entered)) table

end Registration

namespace Operators

/-- One of the two operators that step a variable up or down. -/
def IsStep (operator : Text) : Prop :=
  operator = "++".toList ∨ operator = "--".toList

/-- A text that is read as a name: an ASCII start and any word characters. -/
def IsName (name : Text) : Prop :=
  ∃ c rest, name = c :: rest ∧ isNameStart c = true ∧ ∀ d ∈ rest, isWord d = true

/-- A name next to a step operator, from which only white space may separate it. -/
inductive Operand (text name : Text) : Prop
  /-- The operator is behind the name, which starts where its word first can. -/
  | stepBehind {front gap operator back : Text}
      (split : text = front ++ (name ++ (gap ++ (operator ++ back)))) (named : IsName name)
      (first : ∀ c ∈ front.reverse.takeWhile isWord, isNameStart c = false)
      (blank : ∀ c ∈ gap, isSpace c = true) (step : IsStep operator)
  /-- The operator is in front of the name, which ends where its word does. -/
  | stepInFront {front gap operator back : Text}
      (split : text = front ++ (operator ++ (gap ++ (name ++ back)))) (named : IsName name)
      (last : back.head?.any isWord = false)
      (blank : ∀ c ∈ gap, isSpace c = true) (step : IsStep operator)

/-- What follows a step operator is the rest of the text. -/
theorem exists_step_of_afterStep? {text rest : Text} (found : afterStep? text = some rest) :
    ∃ operator, IsStep operator ∧ text = operator ++ rest := by
  -- There are two such operators.
  unfold afterStep? at found
  rcases Option.or_eq_some_iff.mp found with up | ⟨-, down⟩
  · exact ⟨_, .inl rfl, eq_append_of_after? up⟩
  · exact ⟨_, .inr rfl, eq_append_of_after? down⟩

/-- What is left of a word from its first start of a name on is a name. -/
theorem isName_dropWhile {word : Text} (inWord : ∀ c ∈ word, isWord c = true)
    (left : (word.dropWhile fun c => !isNameStart c) ≠ []) :
    IsName (word.dropWhile fun c => !isNameStart c) := by
  -- The word is cut off in front of a character that starts a name.
  obtain ⟨c, rest, parts⟩ := List.exists_cons_of_ne_nil left
  refine ⟨c, rest, parts, ?_, fun d member => inWord d ?_⟩
  · have stops := List.head?_dropWhile_not (fun c => !isNameStart c) word
    simpa [parts] using stops
  · exact (List.dropWhile_suffix _).subset (parts ▸ List.mem_cons_of_mem c member)

/-- A variable with a step operator behind it is an operand. -/
theorem operand_of_steppedBefore? {text name : Text} {word : Word} (found : word ∈ words text)
    (stepped : steppedBefore? word = some name) : Operand text name := by
  -- The word and what follows it are cut out of the text.
  obtain ⟨whole, outside, inWord⟩ := split_of_mem_words found
  unfold steppedBefore? at stepped
  dsimp only at stepped
  split at stepped
  · cases stepped
  · rename_i operated
    cases stepped
    -- There is a name in the word, and a step follows it behind optional white space.
    rw [Bool.or_eq_true, not_or, List.isEmpty_iff, Option.isNone_iff_eq_none] at operated
    obtain ⟨left, isStep⟩ := operated
    obtain ⟨back, after⟩ := Option.ne_none_iff_exists'.mp isStep
    obtain ⟨operator, step, split⟩ := exists_step_of_afterStep? after
    obtain ⟨gap, gaps, blank⟩ := exists_gap_of_skipSpace word.rest
    -- The word is cut where a name can first start.
    have cut : (word.text.takeWhile fun c => !isNameStart c) ++
        (word.text.dropWhile fun c => !isNameStart c) = word.text :=
      List.takeWhile_append_dropWhile
    refine @Operand.stepBehind text _
      (word.place.before.reverse ++ word.text.takeWhile fun c => !isNameStart c) gap operator back
      ?_ (isName_dropWhile inWord left) ?_ blank step
    · -- Put together again the parts are the whole text.
      rw [← split, ← gaps, List.append_assoc, ← List.append_assoc (word.text.takeWhile _), cut]
      exact whole
    · -- Nothing in front of the name could start it, since the word ends in front of it.
      intro c member
      rw [List.reverse_append, List.reverse_reverse, List.takeWhile_append] at member
      have inFront : c ∈ word.text.takeWhile fun c => !isNameStart c := by
        split at member
        · rw [outside, List.append_nil] at member
          exact List.mem_reverse.mp member
        · exact List.mem_reverse.mp ((List.takeWhile_prefix _).subset member)
      simpa using List.mem_takeWhile_imp inFront

/-- A variable with a step operator in front of it is an operand. -/
theorem operand_of_steppedAfter? {text name : Text} {place : Position}
    (listed : place ∈ positions text) (stepped : steppedAfter? place = some name) :
    Operand text name := by
  -- The parts are read one behind the other: the operator, the gap and the name.
  have whole := split_of_mem_positions listed
  obtain ⟨rest, after, named⟩ := Option.bind_eq_some_iff.mp stepped
  obtain ⟨⟨found, back⟩, read, rfl⟩ := Option.map_eq_some_iff.mp named
  obtain ⟨operator, step, split⟩ := exists_step_of_afterStep? after
  obtain ⟨gap, gaps, blank⟩ := exists_gap_of_skipSpace rest
  cases inner : skipSpace rest with
  | nil =>
    rw [inner] at read
    cases read
  -- What follows the gap starts a name, or nothing would have been read.
  | cons c tail =>
    rw [inner, name?] at read
    split at read
    · rename_i starts
      cases read
      refine @Operand.stepInFront text _ place.before.reverse gap operator (tail.dropWhile isWord)
        ?_ ⟨c, _, rfl, starts, fun _ => List.mem_takeWhile_imp⟩ ?_ blank step
      · rw [List.cons_append, List.takeWhile_append_dropWhile, ← inner, ← gaps, ← split]
        exact whole
      · -- The name takes all word characters that follow.
        have stops := List.head?_dropWhile_not isWord tail
        cases next : (tail.dropWhile isWord).head? with
        | none => rfl
        | some d => simpa [next] using stops
    · cases read

/-- The variables that a text steps are operands of its step operators. -/
theorem operand_of_mem_targetsIn {text name : Text} (stepped : name ∈ targetsIn text) :
    Operand text name := by
  unfold targetsIn at stepped
  rw [mem_distinct] at stepped
  -- The operator stands behind the name or in front of it.
  rcases List.mem_append.mp stepped with behind | inFront
  · obtain ⟨word, found, read⟩ := List.mem_filterMap.mp behind
    exact operand_of_steppedBefore? found read
  · obtain ⟨place, listed, read⟩ := List.mem_filterMap.mp inFront
    exact operand_of_steppedAfter? listed read

/-- A step gives its variable a value at most. -/
theorem checkTarget_steps {marks : Text → Prop} {adds : Symbol → Prop} {name : Text}
    (allowed : marks name) (table : SymbolTable) :
    table.Grows marks adds (checkTarget table name).1 := by
  unfold checkTarget
  split
  · exact .refl table
  · dsimp only
    -- A variable that has a value already is left alone.
    split
    · exact .refl table
    · exact .markInitialized table allowed

/-- A check of operators gives values to the variables that are stepped at most. -/
theorem check_steps {adds : Symbol → Prop} (table : SymbolTable) (line : Text) :
    table.Grows (· ∈ targetsIn (blank line)) adds (check table line).1 :=
  .runAll (fun table _ stepped => checkTarget_steps stepped table) table

/-- A check of operators gives values to their operands at most. -/
theorem check_grows {adds : Symbol → Prop} (table : SymbolTable) (line : Text) :
    table.Grows (Operand (blank line)) adds (check table line).1 :=
  -- What is stepped stands next to a step operator.
  (check_steps table line).mono (fun _ stepped => operand_of_mem_targetsIn stepped)
    fun _ added => added

end Operators

/-- The names to which a rule may give a value on a line. -/
def Rule.Marks (rule : Rule) (line name : Text) : Prop :=
  match rule with
  | .declarations => name ∈ Assignment.targetsOn line
  | .operators => Operators.Operand (blank line) name
  | _ => False

/-- A rule gives values to its own names and adds what the line declares. -/
theorem Rule.check_grows (rule : Rule) (registration : Registration) (state : State)
    (line : Text) :
    state.table.Grows (rule.Marks line) (Symbol.DeclaredOn ⟨registration.line, line⟩)
      (rule.check registration state line).1.table := by
  -- Two rules change the table, and all others read it.
  cases rule with
  | declarations => exact registration.enterLine_grows state.table line
  | operators => exact Operators.check_grows state.table line
  | _ => exact .refl state.table

namespace Validator

/-- Rules that let a table grow one by one let it grow together. -/
theorem runRules_growsBy {marks : Text → Prop} {adds : Symbol → Prop} {registration : Registration}
    {line : Text} {rules : List Rule}
    (each : ∀ rule ∈ rules, ∀ state : Rule.State,
      state.table.Grows marks adds (rule.check registration state line).1.table)
    (state : Rule.State) :
    state.table.Grows marks adds (runRules registration line state rules).1.table := by
  -- By induction on the rules, each of them working on the table that it finds.
  induction rules generalizing state with
  | nil => exact .refl state.table
  | cons rule others ih =>
    have here := each rule (by simp) state
    unfold runRules
    dsimp only
    -- The rules behind one that breaks the circuit do not run.
    split
    · exact here
    · exact here.trans (ih (fun other member => each other (by simp [member])) _)

/-- The rules of a line give values to their own names and add what the line declares. -/
theorem runRules_grows (registration : Registration) (line : Text) (state : Rule.State)
    (rules : List Rule) :
    state.table.Grows (fun name => ∃ rule ∈ rules, rule.Marks line name)
      (Symbol.DeclaredOn ⟨registration.line, line⟩)
      (runRules registration line state rules).1.table := by
  -- What one of the rules marks is marked by the rules together.
  refine runRules_growsBy (fun rule member state => ?_) state
  exact (rule.check_grows registration state line).mono
    (fun name marked => ⟨rule, member, marked⟩) fun _ declared => declared

/-- A line gives values to the names of its rules and adds what it declares. -/
theorem validateLine_grows (validator : Validator) (line : NumberedLine) :
    validator.table.Grows (fun name => ∃ rule ∈ validator.rules, rule.Marks line.text name)
      (Symbol.DeclaredOn line) (validator.validateLine line).1.table :=
  -- The rules that run on the line are all of the validator.
  runRules_grows ⟨validator.reportRedeclarations, line.number⟩ line.text validator.toState
    validator.rules

/-- Lines that let a table grow one by one let it grow together. -/
theorem validateLines_growsBy {marks : Text → Prop} {adds : Symbol → Prop} {validator : Validator}
    {lines : List NumberedLine}
    (each : ∀ line ∈ lines, ∀ state : Rule.State,
      state.table.Grows marks adds
        ({ validator with toState := state }.validateLine line).1.table) :
    validator.table.Grows marks adds (validator.validateLines lines).1.table := by
  -- By induction on the lines, which find the table as those before them have left it.
  induction lines generalizing validator with
  | nil => exact .refl validator.table
  | cons line others ih =>
    unfold validateLines
    -- The rules are the same for the line at the front and for the lines behind it.
    have here := each line (by simp) validator.toState
    refine here.trans (@ih (validator.validateLine line).1 fun other member state => ?_)
    exact each other (by simp [member]) state

/-- Lines give values to the names of their rules and add what they declare. -/
theorem validateLines_grows (validator : Validator) (lines : List NumberedLine) :
    validator.table.Grows
      (fun name => ∃ line ∈ lines, ∃ rule ∈ validator.rules, rule.Marks line.text name)
      (fun symbol => ∃ line ∈ lines, symbol.DeclaredOn line)
      (validator.validateLines lines).1.table := by
  -- What a line marks or declares is marked or declared by the lines together.
  refine validateLines_growsBy fun line member state => ?_
  exact (validateLine_grows { validator with toState := state } line).mono
    (fun name marked => ⟨line, member, marked⟩) fun symbol declared => ⟨line, member, declared⟩

/-- A line that mixes types is not looked at any further. -/
theorem validateLine_of_mixedTypes (mainBody reportRedeclarations : Bool) (state : Rule.State)
    {line : NumberedLine} (mixed : MixedTypes.check line.text ≠ []) :
    (validateLine ⟨state, selectRules mainBody Rule.all, reportRedeclarations⟩ line).1.table =
      state.table := by
  -- The rule that looks for mixed types is the first one, and it breaks the circuit.
  have first : ∃ others, selectRules mainBody Rule.all = .mixedTypes :: others := by
    cases mainBody
    · exact ⟨_, rfl⟩
    · exact ⟨_, rfl⟩
  obtain ⟨others, selected⟩ := first
  have reported : (MixedTypes.check line.text).isEmpty = false := by
    rw [List.isEmpty_eq_false_iff]
    exact mixed
  -- So what the other rules would do does not matter.
  unfold validateLine
  simp [selected, runRules, Rule.check, Rule.breaksCircuit, reported]

/--
A line only lets the table grow and gives values.

The scopes stay, and every variable keeps its name, type, line and place. It may get a value if the
line assigns to its name, or if it is in the body of the main function and steps it. What is new is
put at the end of the current scope, carries the number of the line and is declared there. A line
that mixes types changes nothing.
-/
theorem validateLine_only_grows (mainBody reportRedeclarations : Bool) (state : Rule.State)
    (line : NumberedLine) :
    let after :=
      (validateLine ⟨state, selectRules mainBody Rule.all, reportRedeclarations⟩ line).1.table
    let marks := fun name => name ∈ Assignment.targetsOn line.text ∨
      mainBody = true ∧ Operators.Operand (blank line.text) name
    after.level = state.table.level ∧
      List.Forall₂ (Scope.Kept marks) state.table.enclosing after.enclosing ∧
      (∃ kept added, after.current = kept ++ added ∧
        Scope.Kept marks state.table.current kept ∧ ∀ symbol ∈ added,
          symbol.line = line.number ∧ symbol.name ∈ Declaration.namesOn line.text) ∧
      (MixedTypes.check line.text ≠ [] → after = state.table) := by
  intro after marks
  -- The names that rules may mark are read off the two rules that mark any.
  have narrow : ∀ name, (∃ rule ∈ selectRules mainBody Rule.all, rule.Marks line.text name) →
      marks name := by
    rintro name ⟨rule, selected, marked⟩
    cases rule with
    | declarations => exact .inl marked
    | operators =>
      -- Outside the body of the main function the rule is not among those that run.
      refine .inr ⟨?_, marked⟩
      have kind := (List.mem_filter.mp selected).2
      simpa [Rule.isMainOnly] using kind
    | _ => cases marked
  -- The rules of a line let the table grow, and the claim says in what way.
  have grows := (validateLine_grows ⟨state, selectRules mainBody Rule.all, reportRedeclarations⟩
    line).mono narrow fun _ declared => declared
  obtain ⟨kept, added, parts, same, entered⟩ := grows.current
  refine ⟨grows.enclosing.length_eq.symm, grows.enclosing, ⟨kept, added, parts, same, ?_⟩,
    fun mixed => validateLine_of_mixedTypes mainBody reportRedeclarations state mixed⟩
  -- What is new was declared on the line, whatever value it has now.
  intro symbol member
  obtain ⟨source, declared, started⟩ := entered symbol member
  exact ⟨(declared.kept started).line, (declared.kept started).listed⟩

end Validator

end SourceLint
