import SourceLint.Analysis
import SourceLint.Proofs.Log
import SourceLint.Proofs.Table

/-!
Runs on lines with other numbers.

No rule looks at the number of a line, so that a run on renumbered lines finds the same things on
the renumbered lines.
-/

namespace SourceLint

/-- A token on a line with another number. -/
def Token.renumber (number : Int → Int) (token : Token) : Token :=
  { token with line := number token.line }

/-- A variable that a line with another number declares. -/
def Symbol.renumber (number : Int → Int) (symbol : Symbol) : Symbol :=
  { symbol with line := number symbol.line }

/-- A message about a line with another number. -/
def Diagnostic.renumber (number : Int → Int) (diagnostic : Diagnostic) : Diagnostic :=
  { diagnostic with line := diagnostic.line.map number }

/-- A line with another number. -/
def NumberedLine.renumber (number : Int → Int) (line : NumberedLine) : NumberedLine :=
  { line with number := number line.number }

/-- The variables of a scope on lines with other numbers. -/
def Scope.renumber (number : Int → Int) (scope : Scope) : Scope :=
  scope.map (Symbol.renumber number)

/-- The variables of a table on lines with other numbers. -/
def SymbolTable.renumber (number : Int → Int) (table : SymbolTable) : SymbolTable :=
  { current := Scope.renumber number table.current
    enclosing := table.enclosing.map (Scope.renumber number) }

/-- The shared state of the rules on lines with other numbers. -/
def Rule.State.renumber (number : Int → Int) (state : Rule.State) : Rule.State :=
  { state with table := state.table.renumber number }

/-- A validator that has read lines with other numbers. -/
def Validator.renumber (number : Int → Int) (validator : Validator) : Validator :=
  { validator with toState := validator.toState.renumber number }

/-- The result of a run on lines with other numbers. -/
def Analysis.renumber (number : Int → Int) (analysis : Analysis) : Analysis :=
  { analysis with
    tokens := analysis.tokens.map (Token.renumber number)
    symbols := analysis.symbols.renumber number
    diagnostics := analysis.diagnostics.map (Diagnostic.renumber number) }

variable {number : Int → Int}

/-- A variable is found under its name, whatever the number of its line. -/
theorem Scope.lookup_renumber (scope : Scope) (name : Text) :
    (scope.renumber number).lookup name = (scope.lookup name).map (Symbol.renumber number) := by
  -- The name of a variable is kept.
  rw [Scope.renumber, Scope.lookup, List.find?_map]
  rfl

/-- The marked variable of a scope keeps its line. -/
theorem Scope.markInitialized_renumber (scope : Scope) (name : Text) :
    (scope.renumber number).markInitialized name =
      (scope.markInitialized name).renumber number := by
  simp only [Scope.renumber, Scope.markInitialized, List.map_map]
  -- Variables are compared by name and marked without a look at their line.
  refine List.map_congr_left fun symbol _ => ?_
  simp only [Function.comp_apply]
  split <;> simp_all [Symbol.renumber]

namespace SymbolTable

variable (table : SymbolTable)

/-- The current scope is searched by name alone. -/
theorem lookupCurrent_renumber (name : Text) :
    (table.renumber number).lookupCurrent name =
      (table.lookupCurrent name).map (Symbol.renumber number) :=
  Scope.lookup_renumber _ name

/-- Open scopes are searched by name alone. -/
theorem lookup_renumber (name : Text) :
    (table.renumber number).lookup name = (table.lookup name).map (Symbol.renumber number) := by
  have stacked : (table.renumber number).stack = table.stack.map (Scope.renumber number) := rfl
  rw [lookup, lookup, stacked]
  -- The first scope that has the name has it under either numbering.
  induction table.stack with
  | nil => rfl
  | cons scope outers ih =>
    rw [List.map_cons, List.findSome?_cons, List.findSome?_cons, Scope.lookup_renumber, ih]
    cases scope.lookup name <;> rfl

/-- The types of variables do not depend on their lines. -/
theorem typeOf?_renumber (name : Text) :
    (table.renumber number).typeOf? name = table.typeOf? name := by
  -- The type of a variable is kept.
  rw [typeOf?, typeOf?, lookup_renumber, Option.map_map]
  rfl

/-- The declared names do not depend on their lines. -/
theorem declares_renumber (name : Text) :
    (table.renumber number).declares name = table.declares name := by
  rw [declares, declares, lookup_renumber, Option.isSome_map]

/-- The same variables have no value. -/
theorem uninitialized_renumber :
    (table.renumber number).uninitialized = Scope.renumber number table.uninitialized := by
  -- A number says nothing about values.
  rw [uninitialized, renumber, Scope.renumber, List.filter_map]
  rfl

/-- A variable is declared on the line with the other number. -/
theorem declare_renumber (symbol : Symbol) :
    (table.renumber number).declare (symbol.renumber number) =
      (table.declare symbol).renumber number := by
  -- The name decides whether the variable is new.
  have named : (symbol.renumber number).name = symbol.name := rfl
  rw [declare, declare, named, lookupCurrent_renumber, Option.isSome_map]
  split
  · rfl
  · simp [renumber, Scope.renumber]

/-- Marking a name in the innermost scope that has it leaves all lines alone. -/
theorem markIn_renumber (name : Text) (scopes : List Scope) :
    markIn name (scopes.map (Scope.renumber number)) =
      (markIn name scopes).map (Scope.renumber number) := by
  induction scopes with
  | nil => rfl
  | cons scope outers ih =>
    -- The same scope is the first one to have the name.
    rw [List.map_cons, markIn, markIn, Scope.lookup_renumber, Option.isSome_map]
    split
    · simp [Scope.markInitialized_renumber]
    · simp [ih]

/-- A marked variable keeps its line. -/
theorem markInitialized_renumber (name : Text) :
    (table.renumber number).markInitialized name =
      (table.markInitialized name).renumber number := by
  -- The current scope or an outer one takes the mark, under either numbering.
  rw [markInitialized, markInitialized, lookupCurrent_renumber, Option.isSome_map]
  split
  · simp [renumber, Scope.markInitialized_renumber]
  · simp [renumber, markIn_renumber]

/-- Steps that do the same on renumbered tables do the same one after another. -/
theorem runAll_renumber {α β : Type} {step other : SymbolTable → α → SymbolTable × List β}
    (same : ∀ table entry, other (table.renumber number) entry =
      ((step table entry).1.renumber number, (step table entry).2)) (entries : List α) :
    (table.renumber number).runAll other entries =
      ((table.runAll step entries).1.renumber number, (table.runAll step entries).2) := by
  -- By induction on the entries.
  induction entries generalizing table with
  | nil => rfl
  | cons first others ih => simp only [runAll, same, ih]

end SymbolTable

/-- Whether a value fits does not depend on lines. -/
theorem Value.isValid_renumber (type : VarType) (value : Text) (table : SymbolTable) :
    Value.isValid type value (table.renumber number) = Value.isValid type value table := by
  -- A variable is judged by its type and its value, whatever its line.
  simp only [Value.isValid, SymbolTable.lookup_renumber]
  cases table.lookup (Text.trim value) <;> rfl

namespace Registration

variable (registration : Registration) (table : SymbolTable)

/-- Declarations of a line with another number. -/
def renumber (number : Int → Int) (registration : Registration) : Registration :=
  { registration with line := number registration.line }

/-- A variable is declared on the renumbered line. -/
theorem declare_renumber (type : DataType) (several : Bool) (item : Item) :
    (registration.renumber number).declare type several (table.renumber number) item =
      ((registration.declare type several table item).1.renumber number,
        (registration.declare type several table item).2) := by
  -- Whether the name is free and the value fits does not depend on lines.
  simp only [declare, SymbolTable.lookupCurrent_renumber, Option.isSome_map,
    Value.isValid_renumber]
  split
  · rfl
  · split
    · rfl
    · split
      · rfl
      · -- Only a variable that is declared has a line.
        rw [← SymbolTable.declare_renumber]
        rfl

/-- An assignment does not depend on lines. -/
theorem assign_renumber (assignment : Assignment) :
    assign assignment (table.renumber number) =
      ((assign assignment table).1.renumber number, (assign assignment table).2) := by
  -- The variable is found, marked and judged by its type.
  simp only [assign, SymbolTable.lookup_renumber, SymbolTable.markInitialized_renumber,
    Value.isValid_renumber]
  cases table.lookup assignment.name <;> rfl

/-- A statement of a renumbered line is entered like that of the line. -/
theorem enter_renumber (statement : Text) :
    (registration.renumber number).enter (table.renumber number) statement =
      ((registration.enter table statement).1.renumber number,
        (registration.enter table statement).2) := by
  -- The text of a statement alone says what kind of statement it is.
  simp only [enter]
  split
  · rfl
  · split
    · exact table.runAll_renumber (fun table item => registration.declare_renumber table _ _ item) _
    · split
      · exact assign_renumber table _
      · rfl

/-- The statements of a renumbered line are entered like those of the line. -/
theorem enterLine_renumber (line : Text) :
    (registration.renumber number).enterLine (table.renumber number) line =
      ((registration.enterLine table line).1.renumber number,
        (registration.enterLine table line).2) :=
  table.runAll_renumber (fun table statement => registration.enter_renumber table statement) _

end Registration

/-- Stepped variables are checked without their lines. -/
theorem Operators.check_renumber (table : SymbolTable) (line : Text) :
    Operators.check (table.renumber number) line =
      ((Operators.check table line).1.renumber number, (Operators.check table line).2) := by
  -- A stepped variable is judged by its type and marked.
  have target : ∀ (table : SymbolTable) (name : Text),
      checkTarget (table.renumber number) name =
        ((checkTarget table name).1.renumber number, (checkTarget table name).2) := by
    intro table name
    simp only [checkTarget, SymbolTable.lookup_renumber]
    cases table.lookup name with
    | none => rfl
    | some symbol =>
      -- A mark keeps the line of the variable.
      cases set : symbol.initialized <;>
        simp [Symbol.renumber, set, SymbolTable.markInitialized_renumber]
  simp only [check, table.runAll_renumber target]

/-- The conditions of branches are checked without lines. -/
theorem BranchShape.check_renumber (table : SymbolTable) (line : Text) :
    BranchShape.check (table.renumber number) line = BranchShape.check table line := by
  -- Only the conditions of a branch are looked up.
  have conditions : conditionFindings (table.renumber number) = conditionFindings table := by
    funext condition
    simp only [conditionFindings, SymbolTable.lookup_renumber]
    congr 1
    funext name
    cases table.lookup name <;> rfl
  simp only [check, headerFindings, conditions]

/-- A rule finds the same things on a renumbered line. -/
theorem Rule.check_renumber (rule : Rule) (registration : Registration) (state : State)
    (line : Text) :
    rule.check (registration.renumber number) (state.renumber number) line =
      ((rule.check registration state line).1.renumber number,
        (rule.check registration state line).2) := by
  -- Five rules read the table, and the others read the line alone.
  cases rule with
  | stringArithmetic =>
    have findings := StringArithmetic.check_congr (@SymbolTable.typeOf?_renumber number state.table)
    simp only [check, State.renumber, findings line]
  | undeclaredIdentifier =>
    have findings := Undeclared.check_congr (@SymbolTable.declares_renumber number state.table)
    simp only [check, State.renumber, findings line]
  | declarations => simp only [check, State.renumber, Registration.enterLine_renumber]
  | operators => simp only [check, State.renumber, Operators.check_renumber]
  | branchShape => simp only [check, State.renumber, BranchShape.check_renumber]
  | _ => rfl

namespace Validator

/-- The rules find the same things on a renumbered line, one after another. -/
theorem runRules_renumber (registration : Registration) (line : Text) (state : Rule.State)
    (rules : List Rule) :
    runRules (registration.renumber number) line (state.renumber number) rules =
      ((runRules registration line state rules).1.renumber number,
        (runRules registration line state rules).2) := by
  induction rules generalizing state with
  | nil => rfl
  | cons rule others ih =>
    -- The same findings break the circuit at the same rule.
    simp only [runRules, Rule.check_renumber, ih]
    split <;> rfl

/-- A renumbered line is checked like the line. -/
theorem validateLine_renumber (validator : Validator) (line : NumberedLine) :
    (validator.renumber number).validateLine (line.renumber number) =
      ((validator.validateLine line).1.renumber number,
        (validator.validateLine line).2.map (Diagnostic.renumber number)) := by
  have ruled := @runRules_renumber number
    ⟨validator.reportRedeclarations, line.number⟩ line.text validator.toState validator.rules
  -- A message gets the number of its line at the very end.
  simp only [Registration.renumber] at ruled
  simp only [validateLine, renumber, NumberedLine.renumber, ruled, List.map_map]
  rfl

/-- Renumbered lines are checked like the lines. -/
theorem validateLines_renumber (validator : Validator) (lines : List NumberedLine) :
    (validator.renumber number).validateLines (lines.map (NumberedLine.renumber number)) =
      ((validator.validateLines lines).1.renumber number,
        (validator.validateLines lines).2.map (Diagnostic.renumber number)) := by
  -- By induction on the lines.
  induction lines generalizing validator with
  | nil => rfl
  | cons line others ih =>
    simp only [List.map_cons, validateLines, validateLine_renumber, ih, List.map_append]

/-- A text with the same lines under other numbers is checked like the text. -/
theorem validate_renumber {text other : Text} {first start : Int}
    (same : prepareLines other start =
      (prepareLines text first).map (NumberedLine.renumber number)) (validator : Validator) :
    (validator.renumber number).validate other start =
      ((validator.validate text first).1.renumber number,
        (validator.validate text first).2.map (Diagnostic.renumber number)) := by
  -- The lines are all that a validator sees of a text.
  rw [validate, validate, same, ← validateLines_renumber]
  rfl

end Validator

/-- A numbering that keeps the order of lines. -/
def KeepsOrder (number : Int → Int) : Prop :=
  ∀ first second, number first < number second ↔ first < second

/-- A numbering that keeps the order of lines gives different lines different numbers. -/
theorem KeepsOrder.injective (ordered : KeepsOrder number) {first second : Int}
    (same : number first = number second) : first = second := by
  -- Neither line can come before the other.
  have below := ordered first second
  have above := ordered second first
  omega

/-- A numbering that keeps the order of lines keeps messages apart. -/
theorem Diagnostic.keepsApart_renumber (ordered : KeepsOrder number) :
    Log.KeepsApart (some ∘ Diagnostic.renumber number) := by
  rintro ⟨level, origin, line, message⟩ ⟨otherLevel, otherOrigin, otherLine, otherMessage⟩ image
    first second
  -- Apart from the line all parts are kept as they are.
  have same := Option.some.inj (first.trans second.symm)
  simp only [renumber, mk.injEq] at same ⊢
  obtain ⟨levels, origins, lines, messages⟩ := same
  refine ⟨levels, origins, ?_, messages⟩
  exact Option.map_injective (fun _ _ => ordered.injective) lines

/-- A log that has received the same messages about renumbered lines. -/
abbrev Log.Renumbered (number : Int → Int) (log other : Log) : Prop :=
  log.Follows (some ∘ Diagnostic.renumber number) other

/-- The same messages about renumbered lines are accepted by both logs. -/
theorem Log.Follows.extend_renumber (ordered : KeepsOrder number) {log other : Log}
    (same : log.Renumbered number other) (diagnostics : List Diagnostic) :
    (log.extend diagnostics).Renumbered number
      (other.extend (diagnostics.map (Diagnostic.renumber number))) := by
  -- Renumbering keeps different messages apart.
  rw [← List.filterMap_eq_map]
  exact same.extend (Diagnostic.keepsApart_renumber ordered) diagnostics

/-- The global scope of a renumbered table. -/
theorem SymbolTable.globals_renumber (table : SymbolTable) :
    (table.renumber number).globals = table.globals.renumber number := by
  -- The outermost scope is renumbered like the others.
  simp only [globals, renumber, List.getLast?_map]
  cases table.enclosing.getLast? <;> rfl

/-- A table of renumbered variables. -/
theorem SymbolTable.ofSymbols_renumber (symbols : List Symbol) :
    ofSymbols (symbols.map (Symbol.renumber number)) = (ofSymbols symbols).renumber number := by
  -- The variables are declared one after another in a growing table.
  have general : ∀ table : SymbolTable,
      (symbols.map (Symbol.renumber number)).foldl declare (table.renumber number) =
        (symbols.foldl declare table).renumber number := by
    induction symbols with
    | nil => exact fun _ => rfl
    | cons first others ih =>
      intro table
      rw [List.map_cons, List.foldl_cons, List.foldl_cons, declare_renumber, ih]
  exact general {}

namespace MainFunction

/-- A main function whose body has the same lines with other numbers. -/
structure Renumbered (number : Int → Int) (source other : Text) (main moved : MainFunction) :
    Prop where
  headerLine : moved.headerLine = number main.headerLine
  bodyLine : moved.bodyLine = number main.bodyLine
  lines : prepareLines (moved.body other) moved.bodyLine =
    (prepareLines (main.body source) main.bodyLine).map (NumberedLine.renumber number)

/-- A search with the same outcome on lines with other numbers. -/
inductive Search.Renumbered (number : Int → Int) (source other : Text) : Search → Search → Prop
  | found {main moved : MainFunction} (same : main.Renumbered number source other moved) :
      Renumbered number source other (.found main) (.found moved)
  | faulty (reason : Finding) : Renumbered number source other (.faulty reason) (.faulty reason)
  | absent : Renumbered number source other .absent .absent

variable {source other : Text} {main moved : MainFunction}

/-- The table with which the body is entered holds the same variables. -/
theorem startTable_renumber (ordered : KeepsOrder number)
    (header : moved.headerLine = number main.headerLine) (scan : Scan) (globals : SymbolTable) :
    scan.startTable moved (globals.renumber number) =
      (scan.startTable main globals).renumber number := by
  -- A variable stands before the header under one numbering when it does under the other.
  have visible : ((globals.renumber number).globals.filter fun symbol =>
      !scan.ownScope || symbol.line < moved.headerLine) =
        (globals.globals.filter fun symbol =>
          !scan.ownScope || symbol.line < main.headerLine).map (Symbol.renumber number) := by
    rw [SymbolTable.globals_renumber, Scope.renumber, List.filter_map]
    congr 1
    refine List.filter_congr fun symbol _ => ?_
    simp [Symbol.renumber, header, ordered symbol.line main.headerLine]
  -- A scope of its own has no variables to renumber.
  simp only [Scan.startTable, visible, SymbolTable.ofSymbols_renumber]
  split <;> rfl

/-- The body declares the same variables. -/
theorem declaredIn_renumber (ordered : KeepsOrder number)
    (body : moved.bodyLine = number main.bodyLine) (table : SymbolTable) :
    moved.declaredIn (table.renumber number) = (main.declaredIn table).renumber number := by
  simp only [declaredIn, SymbolTable.renumber, Scope.renumber, List.filter_map]
  congr 1
  -- Being no line before the body means the same under either numbering.
  refine List.filter_congr fun symbol _ => ?_
  have order := ordered symbol.line main.bodyLine
  refine decide_eq_decide.mpr ?_
  simp only [Symbol.renumber, body]
  omega

/-- Variables without a value are warned about at their renumbered lines. -/
theorem warnUnset_renumber (unset declared : Scope) :
    warnUnset (unset.renumber number) (declared.renumber number) =
      (warnUnset unset declared).map (Diagnostic.renumber number) := by
  -- A number says nothing about names, so the same variables are found.
  have listed : unset.renumber number = unset.map (Symbol.renumber number) := rfl
  rw [warnUnset, warnUnset, listed, List.filterMap_map, List.map_filterMap]
  congr 1
  funext symbol
  rw [Function.comp_apply, Scope.lookup_renumber, Option.map_map, Option.map_map]
  rfl

/-- The second look at a renumbered body finds the same. -/
theorem run_renumber (ordered : KeepsOrder number)
    (same : main.Renumbered number source other moved) (scan : Scan) (globals : SymbolTable)
    {log record : Log} (logged : log.Renumbered number record) :
    (scan.run source main globals log).1.Renumbered number
        (scan.run other moved (globals.renumber number) record).1 ∧
      (scan.run other moved (globals.renumber number) record).2 =
        (scan.run source main globals log).2.renumber number := by
  -- The validator for the body starts with the renumbered table.
  have started : Validator.standard true scan.reportRedeclarations
      (scan.startTable moved (globals.renumber number)) =
        (Validator.standard true scan.reportRedeclarations (scan.startTable main globals)).renumber
          number := by
    rw [startTable_renumber ordered same.headerLine]
    rfl
  have validated := Validator.validate_renumber same.lines
    (Validator.standard true scan.reportRedeclarations (scan.startTable main globals))
  simp only [Scan.run, started, validated]
  generalize (Validator.standard true scan.reportRedeclarations
    (scan.startTable main globals)).validate (main.body source) main.bodyLine = outcome
  obtain ⟨after, found⟩ := outcome
  -- The variables that the body declares are told by their lines.
  have kept := declaredIn_renumber ordered same.bodyLine after.table
  have tables : (after.renumber number).table = after.table.renumber number := rfl
  -- Both logs collapse the messages of the body and then open up again.
  have looked := (logged.collapse.extend_renumber ordered found).uncollapse
  simp only [tables, kept, SymbolTable.uninitialized_renumber, warnUnset_renumber]
  exact ⟨looked.extend_renumber ordered _, trivial⟩

/-- The main function is examined in the same way on renumbered lines. -/
theorem examine_renumber (ordered : KeepsOrder number) {required : Bool}
    (same : Search.Renumbered number source other (locate required source)
      (locate required other)) (scan : Scan) (globals : SymbolTable)
    {log record : Log} (logged : log.Renumbered number record) :
    (examine scan required source globals log).1.Renumbered number
        (examine scan required other (globals.renumber number) record).1 ∧
      (examine scan required other (globals.renumber number) record).2 =
        (examine scan required source globals log).2.renumber number := by
  generalize before : locate required source = here at same
  generalize after : locate required other = there at same
  simp only [examine, before, after]
  -- Both searches end in the same way.
  cases same with
  | found same => exact run_renumber ordered same scan globals logged
  | faulty reason => exact ⟨logged.report (Diagnostic.keepsApart_renumber ordered) rfl, rfl⟩
  | absent => exact ⟨logged, rfl⟩

end MainFunction

/-- Variables without a value are reported without their lines. -/
theorem Analysis.sweep_renumber (table : SymbolTable) (settled : Scope) :
    sweep (table.renumber number) (settled.renumber number) =
      (sweep table settled).map (Diagnostic.renumber number) := by
  -- The warnings name the variables without saying where they are.
  simp only [sweep, SymbolTable.globals_renumber, Scope.lookup_renumber, Option.isNone_map]
  rw [Scope.renumber, List.filter_map, List.map_map, List.map_map]
  rfl

/-- The run on a text with the same lines and tokens under other numbers finds the same. -/
theorem Analysis.runStripped_renumber (ordered : KeepsOrder number) (config : Config)
    (nested : List Int) {text other : Text}
    (tokens : Token.tokenize other = (Token.tokenize text).map (Token.renumber number))
    (lines : prepareLines other 1 = (prepareLines text 1).map (NumberedLine.renumber number))
    (search : MainFunction.Search.Renumbered number text other
      (MainFunction.locate config.requireMain text)
      (MainFunction.locate config.requireMain other)) :
    (runStripped config (nested.map number) other).result =
      (runStripped config nested text).result.renumber number := by
  -- The messages about comments come first.
  have comments : (nested.map number).map Finding.nestedComment.onLine =
      (nested.map Finding.nestedComment.onLine).map (Diagnostic.renumber number) := by
    rw [List.map_map, List.map_map]
    rfl
  have started : (startLog config).Renumbered number (startLog config) :=
    ⟨rfl, rfl, rfl, rfl⟩
  -- Then come those about the lines.
  have validated := Validator.validate_renumber lines
    (Validator.standard false config.reportRedeclarations {})
  have fresh : (Validator.standard false config.reportRedeclarations {}).renumber number =
      Validator.standard false config.reportRedeclarations {} := rfl
  rw [fresh] at validated
  simp only [runStripped, validated, comments, tokens]
  generalize (Validator.standard false config.reportRedeclarations {}).validate text 1 = outcome
  obtain ⟨after, found⟩ := outcome
  -- The main function is examined with the log and the table that this leaves.
  have logged := (started.extend_renumber ordered
    (nested.map Finding.nestedComment.onLine)).extend_renumber ordered found
  obtain ⟨examined, settled⟩ := MainFunction.examine_renumber ordered search
    ⟨config.scopedMain, config.reportRedeclarations⟩ after.table logged
  -- What is left are the variables that never got a value.
  have swept := examined.extend_renumber ordered (sweep after.table (MainFunction.examine
    ⟨config.scopedMain, config.reportRedeclarations⟩ config.requireMain text after.table
      (((startLog config).extend (nested.map Finding.nestedComment.onLine)).extend found)).2)
  rw [← sweep_renumber, ← settled] at swept
  have tables : (after.renumber number).table = after.table.renumber number := rfl
  simp only [renumber, tables, swept.entries, swept.strict, List.filterMap_eq_map]

end SourceLint
