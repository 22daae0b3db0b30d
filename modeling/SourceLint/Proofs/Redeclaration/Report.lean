import SourceLint.Proofs.MainLines
import SourceLint.Proofs.Redeclaration.Item
import SourceLint.Proofs.Stages
import SourceLint.Proofs.Wording

/-!
Variables that are reported as declared already.

A line reports a name when the current scope has it, or when the line has entered it itself. In a
scope of its own, the body of the main function meets only names that it has entered, so two items
declare the name. In the scope of the program it meets its own variables again.
-/

namespace SourceLint

open Text

/--
A step that enters variables of a line, and what it reports.

It enters one variable for each of the names at most, and what it reports as declared already is one
of the names, which the current scope has or which the step comes to twice.
-/
structure Enters (number : Int) (names : List Text) (before : SymbolTable)
    (outcome : SymbolTable × List Finding) : Prop where
  grows : before.Grows (fun _ => True) (fun symbol => symbol.line = number ∧ symbol.name ∈ names)
    outcome.1
  again : ∀ name, .alreadyDeclared name ∈ outcome.2 →
    name ∈ names ∧ (name ∈ before.current.map Symbol.name ∨ 2 ≤ names.count name)

namespace Enters

variable {number : Int} {names more : List Text} {before : SymbolTable}

/-- A step may leave the table as it is and report nothing as declared already. -/
theorem rest {findings : List Finding} (silent : ∀ name, .alreadyDeclared name ∉ findings) :
    Enters number names before (before, findings) :=
  ⟨.refl before, fun name told => absurd told (silent name)⟩

/-- A step may come to fewer names than it might. -/
theorem mono {outcome : SymbolTable × List Finding} (fewer : names.Sublist more)
    (enters : Enters number names before outcome) : Enters number more before outcome := by
  -- What is entered or reported is among the fewer names, so it is among the others.
  refine ⟨enters.grows.mono (fun _ marked => marked) fun symbol added =>
    ⟨added.1, fewer.subset added.2⟩, fun name told => ?_⟩
  obtain ⟨listed, twice⟩ := enters.again name told
  exact ⟨fewer.subset listed, twice.imp_right fun two => two.trans (fewer.count_le name)⟩

/-- Two steps enter what each of them enters. -/
theorem trans {between after : SymbolTable} {found later : List Finding}
    (first : Enters number names before (between, found))
    (second : Enters number more between (after, later)) :
    Enters number (names ++ more) before (after, found ++ later) := by
  -- Both steps may come to the names of either.
  have left := first.mono (List.sublist_append_left names more)
  have right := second.mono (List.sublist_append_right names more)
  refine ⟨left.grows.trans right.grows, fun name told => ?_⟩
  rcases List.mem_append.mp told with here | there
  · exact left.again name here
  · -- The second step reports a name that it finds in the table between the steps.
    obtain ⟨listed, taken | twice⟩ := second.again name there
    · refine ⟨List.mem_append_right names listed, ?_⟩
      -- The name was there before, or the first step has entered it and the second comes to it.
      rcases first.grows.mem_names_or_adds taken with old | ⟨symbol, ⟨-, entered⟩, rfl⟩
      · exact .inl old
      · have one := List.count_pos_iff.mpr entered
        have two := List.count_pos_iff.mpr listed
        rw [List.count_append]
        exact .inr (by omega)
    · refine ⟨List.mem_append_right names listed, .inr ?_⟩
      exact twice.trans ((List.sublist_append_right names more).count_le name)

/-- Steps that enter variables one by one enter them together. -/
theorem runAll {α : Type} {step : SymbolTable → α → SymbolTable × List Finding}
    {namesOf : α → List Text} {entries : List α}
    (each : ∀ (table : SymbolTable), ∀ entry ∈ entries,
      Enters number (namesOf entry) table (step table entry)) (table : SymbolTable) :
    Enters number (entries.flatMap namesOf) table (table.runAll step entries) := by
  induction entries generalizing table with
  | nil => exact .rest (by simp)
  | cons first others ih =>
    -- What the first step enters is there for the others.
    have here := each table first (by simp)
    exact here.trans (ih (fun table entry member => each table entry (by simp [member])) _)

end Enters

namespace Registration

variable (registration : Registration)

/-- An item is entered, unless its name is taken. -/
theorem declare_enters (type : DataType) (several : Bool) (table : SymbolTable) (item : Item) :
    Enters registration.line [item.name] table
      (registration.declare type several table item) := by
  unfold declare
  split
  · rename_i fault read
    -- A fault of the name is about its spelling.
    rcases Declaration.nameFault?_cases read with rfl | rfl | rfl <;> exact .rest (by simp)
  · split
    · exact .rest (by simp)
    · split
      · -- The name is taken, which is the one thing that is reported here.
        rename_i taken
        refine ⟨.refl table, fun name told => ?_⟩
        have same : name = item.name := by
          dsimp only at told
          split at told
          · exact Finding.alreadyDeclared.inj (List.mem_singleton.mp told)
          · cases told
        rw [same]
        exact ⟨List.mem_singleton_self _, .inl (Scope.isSome_lookup_iff.mp taken)⟩
      · -- The item is entered, and what is reported is about its value.
        refine ⟨.declare table ⟨rfl, List.mem_singleton_self _⟩, fun name told => ?_⟩
        dsimp only at told
        split at told
        · cases told
        · split at told <;> simp at told

/-- A statement enters the names of its items. -/
theorem enter_enters (table : SymbolTable) (statement : Text) :
    Enters registration.line ((Declaration.partsOf statement).map fun part =>
      (Declaration.itemOf part).name) table (registration.enter table statement) := by
  unfold enter
  split
  · -- Only a declaration enters names.
    exact .rest (by simp)
  · split
    · rename_i declaration read
      have names : ((Declaration.partsOf statement).map fun part =>
          (Declaration.itemOf part).name) = declaration.items.map Item.name := by
        rw [Declaration.items_eq read, List.map_map]
        rfl
      rw [names, List.map_eq_flatMap]
      exact .runAll (fun table item _ => registration.declare_enters _ _ table item) table
    · split
      · rename_i assignment read
        -- An assignment enters nothing, and what is reported is about a value.
        refine ⟨?_, fun name told => ?_⟩
        · exact assign_grows trivial table
        · unfold assign at told
          split at told
          · simp at told
          · dsimp only at told
            rcases List.mem_append.mp told with unset | unfit
            · split at unset <;> simp at unset
            · split at unfit <;> simp at unfit
      · exact .rest (by simp)

/-- A line enters the names of its items. -/
theorem enterLine_enters (table : SymbolTable) (line : Text) :
    Enters registration.line (Declaration.enteredOn line) table
      (registration.enterLine table line) := by
  -- The statements of the line are entered one after another.
  unfold Declaration.enteredOn Declaration.partsOn
  rw [List.map_flatMap]
  exact .runAll (fun table statement _ => registration.enter_enters table statement) table

end Registration

/-- The names that a rule enters on a line. -/
def Rule.entered (rule : Rule) (line : Text) : List Text :=
  match rule with
  | declarations => Declaration.enteredOn line
  | _ => []

/-- A rule enters its names. -/
theorem Rule.check_enters (rule : Rule) (registration : Registration) (state : State)
    (line : Text) : Enters registration.line (rule.entered line) state.table
      ((rule.check registration state line).1.table, (rule.check registration state line).2) := by
  have own := rule.raises_check registration state line
  cases rule with
  | declarations => exact registration.enterLine_enters state.table line
  | operators =>
    -- The steps of a line give values and enter nothing.
    refine ⟨(Operators.check_steps state.table line).mono (fun _ _ => trivial)
      fun _ added => added, fun name told => ?_⟩
    cases own _ told
  | _ =>
    -- The other rules leave the table alone, and have other findings.
    refine .rest fun name told => ?_
    cases own _ told

namespace Validator

variable (mainBody reportRedeclarations : Bool)

/-- Rules enter the names of each of them. -/
theorem runRules_enters (registration : Registration) (line : Text) (rules : List Rule)
    (state : Rule.State) :
    Enters registration.line (rules.flatMap fun rule => rule.entered line) state.table
      ((runRules registration line state rules).1.table,
        (runRules registration line state rules).2) := by
  -- By induction on the rules, each of which finds the table of those before it.
  induction rules generalizing state with
  | nil => exact .rest (by simp [runRules])
  | cons rule others ih =>
    have here := rule.check_enters registration state line
    rw [List.flatMap_cons]
    unfold runRules
    dsimp only
    -- The names of the rules behind one that breaks the circuit are not entered.
    split
    · exact here.mono (List.sublist_append_left _ _)
    · exact here.trans (ih _)

/-- The rules that are run on a line enter the names of its items. -/
theorem selectRules_enters (registration : Registration) (line : Text) (state : Rule.State) :
    Enters registration.line (Declaration.enteredOn line) state.table
      ((runRules registration line state (selectRules mainBody Rule.all)).1.table,
        (runRules registration line state (selectRules mainBody Rule.all)).2) := by
  -- One of the rules enters names, in the body of the main function and elsewhere.
  have names : ((selectRules mainBody Rule.all).flatMap fun rule => rule.entered line) =
      Declaration.enteredOn line := by
    cases mainBody <;> simp [selectRules, Rule.all, Rule.isMainOnly, Rule.entered]
  have whole := runRules_enters registration line (selectRules mainBody Rule.all) state
  rw [names] at whole
  exact whole

/-- The lines of a text enter the names of their items. -/
theorem validateLines_enters (state : Rule.State) (lines : List NumberedLine) :
    state.table.Grows (fun _ => True)
      (fun symbol => ∃ line ∈ lines, symbol.line = line.number ∧
        symbol.name ∈ Declaration.enteredOn line.text)
      (validateLines ⟨state, selectRules mainBody Rule.all, reportRedeclarations⟩
        lines).1.table := by
  -- It is shown line by line for whatever state a line meets.
  refine @validateLines_growsBy _ _
    ⟨state, selectRules mainBody Rule.all, reportRedeclarations⟩ lines fun line member state => ?_
  exact (selectRules_enters mainBody ⟨reportRedeclarations, line.number⟩ line.text state).grows.mono
    (fun _ marked => marked) fun symbol added => ⟨line, member, added⟩

variable {mainBody reportRedeclarations} {text : Text} {first : Int}

/-- A variable that a text leaves in an empty table is an item of one of its lines. -/
theorem exists_enteredOn_of_mem_validate {symbol : Symbol} (member : symbol ∈
      ((standard mainBody reportRedeclarations {}).validate text first).1.table.current) :
    ∃ line ∈ prepareLines text first, symbol.line = line.number ∧
      symbol.name ∈ Declaration.enteredOn line.text := by
  -- Nothing was there before, so all that is there has been entered.
  obtain ⟨kept, added, parts, same, entered⟩ :=
    (validateLines_enters mainBody reportRedeclarations ⟨{}, {}⟩ (prepareLines text first)).current
  rw [List.forall₂_nil_left_iff.mp same, List.nil_append] at parts
  obtain ⟨origin, ⟨line, listed, number, named⟩, stays⟩ := entered symbol (parts ▸ member)
  exact ⟨line, listed, stays.line.trans number, stays.name ▸ named⟩

/--
What is reported as declared already is an item of the line.

The line has it twice, or an earlier line has it, or the table with which the text is entered.
-/
theorem exists_enteredOn_of_alreadyDeclared {table : SymbolTable} {diagnostic : Diagnostic}
    {name : Text}
    (told : diagnostic ∈ ((standard mainBody reportRedeclarations table).validate text first).2)
    (worded : diagnostic.message = (Finding.alreadyDeclared name).message) :
    ∃ line ∈ prepareLines text first, diagnostic.line = some line.number ∧
      name ∈ Declaration.enteredOn line.text ∧
      (2 ≤ (Declaration.enteredOn line.text).count name ∨
        (∃ other ∈ prepareLines text first, other.number < line.number ∧
          name ∈ Declaration.enteredOn other.text) ∨
        name ∈ table.current.map Symbol.name) := by
  -- The message is raised by a line, with the table that the lines before it have left.
  obtain ⟨earlier, line, later, split, finding, raised, rfl⟩ :=
    exists_split_of_mem_validateLines told
  obtain rfl : finding = .alreadyDeclared name := Finding.eq_of_message_eq rfl worded
  obtain ⟨listed, taken | twice⟩ :=
    (selectRules_enters mainBody ⟨reportRedeclarations, line.number⟩ line.text _).again name raised
  · refine ⟨line, by simp [split], rfl, listed, .inr ?_⟩
    -- The lines before it have entered the name, or it was there before them.
    rcases (validateLines_enters mainBody reportRedeclarations ⟨table, {}⟩
      earlier).mem_names_or_adds taken with old | ⟨symbol, ⟨other, member, -, named⟩, rfl⟩
    · exact .inr old
    · have ascending := ascending_prepareLines text first
      rw [split] at ascending
      have before := (List.pairwise_append.mp ascending).2.2 other member line (by simp)
      exact .inl ⟨other, by simp [split, member], before, named⟩
  · exact ⟨line, by simp [split], rfl, listed, .inl twice⟩

end Validator

/-- A text with a number that stands in the line of a whole with that number. -/
def NumberedLine.PartOf (whole : Text) (line : NumberedLine) : Prop :=
  ∃ (index : Nat) (raw : Text), (lines whole)[index]? = some raw ∧ line.number = index + 1 ∧
    Holds raw [line.text]

namespace Analysis

open MainFunction Declaration

/-- The messages of the two looks are the only ones with the wording of a finding of their own. -/
theorem Stages.Of.mem_look {config : Config} {source : Text} {stages : Stages}
    (of : stages.Of config source) {diagnostic : Diagnostic} (told : diagnostic ∈ stages.all)
    {finding : Finding} (own : finding.hasOwnWording = true)
    (worded : diagnostic.message = finding.message) :
    diagnostic ∈ stages.first ∨ diagnostic ∈ stages.second := by
  -- No other finding has this wording.
  have other : ∀ second : Finding, second.hasOwnWording = false →
      second.message ≠ finding.message := by
    intro second plain same
    rw [Finding.eq_of_message_eq own same, own] at plain
    cases plain
  -- Each stage is asked for messages of this wording.
  unfold Stages.all at told
  simp only [List.mem_append] at told
  rcases told with ((((spoken | looked) | faulty) | again) | unset) | swept
  · rw [of.comments] at spoken
    obtain ⟨line, -, rfl⟩ := List.mem_map.mp spoken
    exact absurd worded (other .nestedComment rfl)
  · exact .inl looked
  · rcases of.fault with none | ⟨reason, found, single⟩
    · rw [none] at faulty
      cases faulty
    · have plain : ∀ fault ∈ faults, fault.hasOwnWording = false := by decide
      rw [single, List.mem_singleton] at faulty
      rw [faulty] at worded
      exact absurd worded (other reason (plain reason (mem_faults_of_locate found)))
  · exact .inr again
  · -- A warning about a variable is worded otherwise.
    obtain ⟨name, line, rfl, -⟩ := of.warned diagnostic unset
    exact absurd worded (other (.neverInitializedInMain name) rfl)
  · obtain ⟨name, rfl⟩ := of.swept diagnostic swept
    exact absurd worded (other (.neverInitialized name) rfl)

/-- The lines that a run checks: those of the source, and those of the body of the main function. -/
inductive Checks (config : Config) (source : Text) (line : NumberedLine) : Prop
  | first (listed : line ∈ prepareLines (Comment.strip source).text 1)
  | second {main : MainFunction}
      (found : locate config.requireMain (Comment.strip source).text = .found main)
      (listed : line ∈ prepareLines (main.body (Comment.strip source).text) main.bodyLine)

/-- A line that is checked is a part of the line of the source with its number. -/
theorem Checks.placed {config : Config} {source : Text} {line : NumberedLine}
    (checked : Checks config source line) : line.PartOf (Comment.strip source).text := by
  -- The line is checked in the first look or in the second one.
  cases checked with
  | first listed =>
    obtain ⟨index, raw, found, trimmed, number⟩ := exists_of_mem_prepareLines listed
    exact ⟨index, raw, found, by omega, trimmed ▸ .trim raw⟩
  | second found listed =>
    obtain ⟨start, header, gap, inside, tail, outlined⟩ := exists_outlined found
    obtain ⟨index, raw, shown, trimmed, number⟩ := exists_of_mem_prepareLines listed
    obtain ⟨lead, rest, whole⟩ := outlined.exists_line shown
    have numbered := outlined.split_source.2.2
    -- The lines of the body are counted on from the line of the opening brace.
    refine ⟨_, _, whole, by omega, ?_⟩
    rw [trimmed]
    exact ((Holds.trim raw).before rest).behind lead

/-- A line that is checked, as a part of the source, with an item that declares the name. -/
structure Declares (config : Config) (source name : Text) (line : NumberedLine) : Prop where
  checked : Checks config source line
  placed : line.PartOf (Comment.strip source).text
  item : name ∈ enteredOn line.text

/-- A line that is checked declares the names of its items. -/
theorem Checks.declares {config : Config} {source name : Text} {line : NumberedLine}
    (checked : Checks config source line) (item : name ∈ enteredOn line.text) :
    Declares config source name line :=
  ⟨checked, checked.placed, item⟩

/--
An item of the body whose variable the table has from the first look at its own line.

The body has no scope of its own, so the second look meets the variable in the current scope.
-/
structure Revisits (config : Config) (source name : Text) (number : Int) : Prop where
  shared : config.scopedMain = false
  item : ∃ main, locate config.requireMain (Comment.strip source).text = .found main ∧
    ∃ line ∈ prepareLines (main.body (Comment.strip source).text) main.bodyLine,
      line.number = number ∧ name ∈ enteredOn line.text
  entered : ∃ symbol ∈ (analyze config source).symbols.globals,
    symbol.name = name ∧ symbol.line = number

/--
What is reported as declared already is declared twice.

The report stands on a line that declares the name, and the name is declared at a second place of
that line or on another one. This is so unless the line is one of the body of the main function
that is met again in the scope of the program, or has a loop header whose first clause runs on.
-/
theorem alreadyDeclared_twice {config : Config} {source name : Text} {diagnostic : Diagnostic}
    (told : diagnostic ∈ (analyze config source).diagnostics)
    (worded : diagnostic.message = (Finding.alreadyDeclared name).message)
    (ended : ∀ line, Checks config source line → diagnostic.line = some line.number →
      Statement.loopRunsOn line.text = false)
    (once : ∀ number, diagnostic.line = some number → ¬Revisits config source name number) :
    ∃ line, Declares config source name line ∧ diagnostic.line = some line.number ∧
      (TwiceOn line.text name ∨
        ∃ other, Declares config source name other ∧ other.number ≠ line.number) := by
  -- A run that is not aborted has its messages from the stages.
  cases closed : (Comment.strip source).unclosed with
  | some start =>
    -- A run that ends early has one message, which is about a comment.
    rw [analyze_of_unclosed config closed] at told
    rw [List.mem_singleton.mp told] at worded
    cases @Finding.eq_of_message_eq (.unclosedComment start) (.alreadyDeclared name) rfl worded
  | none =>
    obtain ⟨stages, diagnostics, of⟩ := exists_stages config closed
    rw [diagnostics] at told
    rcases of.mem_look told rfl worded with looked | again
    · -- The first look starts without variables.
      rw [of.first] at looked
      obtain ⟨line, listed, number, item, twice | ⟨other, member, before, second⟩ | none⟩ :=
        Validator.exists_enteredOn_of_alreadyDeclared looked worded
      · have checked : Checks config source line := .first listed
        exact ⟨line, checked.declares item, number,
          .inl (twiceOn_of_count (ended line checked number) twice)⟩
      · have checked : Checks config source other := .first member
        exact ⟨line, (Checks.first listed).declares item, number,
          .inr ⟨other, checked.declares second, Int.ne_of_lt before⟩⟩
      · cases none
    · rcases of.raised with none | ⟨main, found, part⟩
      · rw [none] at again
        cases again
      · -- In the second look a name is twice in the body, or it is known at the start.
        obtain ⟨line, listed, number, item, twice | ⟨other, member, before, second⟩ | taken⟩ :=
          Validator.exists_enteredOn_of_alreadyDeclared (part.subset again) worded
        · have checked : Checks config source line := .second found listed
          exact ⟨line, checked.declares item, number,
            .inl (twiceOn_of_count (ended line checked number) twice)⟩
        · have checked : Checks config source other := .second found member
          exact ⟨line, (Checks.second found listed).declares item, number,
            .inr ⟨other, checked.declares second, Int.ne_of_lt before⟩⟩
        · -- The body is entered with variables of the program, which are items of other lines.
          refine ⟨line, (Checks.second found listed).declares item, number, .inr ?_⟩
          obtain ⟨symbol, member, rfl⟩ := List.mem_map.mp taken
          have shared : config.scopedMain = false := by
            cases own : config.scopedMain with
            | false => rfl
            | true => simp [Scan.startTable, own, SymbolTable.enter] at member
          have global := Scan.mem_current_startTable member
          have row := global
          rw [symbols_analyze config closed, Validator.validate_globals] at row
          obtain ⟨other, first, same, second⟩ := Validator.exists_enteredOn_of_mem_validate row
          refine ⟨other, (Checks.first first).declares second, fun equal => ?_⟩
          exact once line.number number ⟨shared, ⟨main, found, line, listed, rfl, item⟩, symbol,
            global, rfl, same.trans equal⟩

/-- A variable of the program that the body declares again is reported in the same scope. -/
theorem alreadyDeclared_twice_global :
    let config : Config := { scopedMain := false, reportRedeclarations := true }
    let source := "int x = 1;\nint main() \x7b\nint x = 2;\n\x7d".toList
    (Finding.alreadyDeclared "x".toList).onLine 3 ∈ (analyze config source).diagnostics ∧
      ∃ line, Declares config source "x".toList line ∧ some 3 = some line.number ∧
        (TwiceOn line.text "x".toList ∨
          ∃ other, Declares config source "x".toList other ∧ other.number ≠ line.number) := by
  -- The report, the main function and the lines are all evaluated.
  intro config source
  have told : (Finding.alreadyDeclared "x".toList).onLine 3 ∈
      (analyze config source).diagnostics := by decide +kernel
  have located : locate config.requireMain (Comment.strip source).text =
      .found ⟨"int".toList, 2, 23, 35, 2⟩ := by decide +kernel
  have lines : ∀ line ∈ prepareLines (Comment.strip source).text 1,
      Statement.loopRunsOn line.text = false := by decide +kernel
  refine ⟨told, alreadyDeclared_twice told rfl (fun line checked number => ?_)
    fun number same revisited => ?_⟩
  · -- No line that is checked has a header that runs on.
    cases checked with
    | first listed => exact lines line listed
    | second found listed =>
      obtain rfl := Search.found.inj (located.symm.trans found)
      clear number
      revert line
      decide +kernel
  · -- The variable of the program is on another line.
    obtain ⟨symbol, row, -, equal⟩ := revisited.entered
    have rows : ∀ symbol ∈ (analyze config source).symbols.globals, symbol.line = 1 := by
      decide +kernel
    rw [rows symbol row] at equal
    rw [← equal] at same
    cases same

/--
A name that stands once in a source is reported as declared already.

The body of the main function is met twice in the scope of the program. A loop header whose first
clause runs on makes the statement behind it be read twice.
-/
theorem alreadyDeclared_once :
    let body := "int main() \x7b\nint x = 1;\n\x7d".toList
    let loop := "for (int a, b) int c, x = 3;".toList
    (Comment.strip body).text.count 'x' = 1 ∧ (Comment.strip loop).text.count 'x' = 1 ∧
      (Finding.alreadyDeclared "x".toList).onLine 2 ∈
        (analyze { scopedMain := false, reportRedeclarations := true } body).diagnostics ∧
      (Finding.alreadyDeclared "x".toList).onLine 1 ∈
        (analyze { reportRedeclarations := true } loop).diagnostics := by
  -- Both sources can be evaluated.
  decide +kernel

end Analysis

end SourceLint
