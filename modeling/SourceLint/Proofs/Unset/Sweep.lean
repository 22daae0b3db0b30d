import SourceLint.Proofs.LineFront
import SourceLint.Proofs.Lookahead.Run
import SourceLint.Proofs.Unset.Place
import SourceLint.Proofs.Unset.Value

/-!
The warnings about variables of the program, and what the body of the main function does to them.

Under the default settings the second look at the body works on copies of the variables above the
main function. At the end of a run the variables themselves are judged by the values that the first
look has seen. A value that only the second look sees is given on the line of the opening brace, by
a step, or on a line of the closing brace that the first look passes over.
-/

namespace SourceLint

open Text

namespace MainFunction

/-- A name that a line of the body gives a value to, by an assignment or by a step. -/
def GivesValue (main : MainFunction) (source name : Text) : Prop :=
  ∃ line ∈ prepareLines (main.body source) main.bodyLine,
    Assignment.SetsOn line.text name ∨ name ∈ Operators.targetsIn (blank line.text)

/--
The copies of the variables above the main function stay in their places to the end of the body.

Those that get a value there get it from a line of the body.
-/
theorem Scan.kept_globals_endTable (source : Text) (main : MainFunction) {table : SymbolTable}
    (distinct : (table.globals.map Symbol.name).Nodup) :
    Scope.Kept (main.GivesValue source)
      (table.globals.filter fun symbol => symbol.line < main.headerLine)
      (Scan.endTable {} source main table).globals := by
  -- The lines of the body make the table grow, and each of them gives values of its own.
  have grows : (Scan.startTable {} main table).Grows (main.GivesValue source) (fun _ => True)
      (Scan.endTable {} source main table) := by
    refine @Validator.validateLines_growsBy _ _
      (Validator.standard true false (Scan.startTable {} main table)).reset _ ?_
    intro line listed state
    exact (Validator.validateLine_sets false state line).mono
      (fun name sets => ⟨line, listed, sets⟩) fun _ added => added
  rw [startTable_default main distinct] at grows
  -- The body has its scope inside a single other one.
  obtain ⟨outer, others, kept, none, enclosing⟩ := List.forall₂_cons_left_iff.mp grows.enclosing
  -- The enclosing scope is the list of copies, kept variable by variable.
  rw [List.forall₂_nil_left_iff.mp none] at enclosing
  unfold SymbolTable.globals
  rw [enclosing]
  exact kept

/-- Under the default settings the body declares every variable of its scope. -/
theorem Scan.declaredIn_endTable {source : Text} {main : MainFunction} {required : Bool}
    (found : locate required source = .found main) (table : SymbolTable) :
    main.declaredIn (Scan.endTable {} source main table) =
      (Scan.endTable {} source main table).current := by
  obtain ⟨start, header, gap, inside, tail, outlined⟩ := exists_outlined found
  refine List.filter_eq_self.mpr fun symbol member => decide_eq_true ?_
  -- The scope starts out empty, so a line of the body has declared the variable.
  rcases mem_current_endTable member with ⟨line, listed, number, -⟩ | ⟨shared, -⟩
  · rw [← number]
    exact (outlined.number_bounds listed).1
  · cases shared

/--
An assignment below the line of the opening brace is read in the first look as well.

On the line of the closing brace this takes a line that does not mix types, since the first look
reads what follows the brace with it.
-/
theorem Outlined.exists_setsOn {source start header gap inside tail : Text} {main : MainFunction}
    (outlined : Outlined (maskSource source) main start header gap inside tail)
    {line : NumberedLine} (listed : line ∈ prepareLines (main.body source) main.bodyLine)
    {name : Text} (sets : Assignment.SetsOn line.text name) (below : main.bodyLine < line.number)
    (closing : ∀ whole ∈ prepareLines source 1, whole.number = lineOf source main.bodyEnd →
      MixedTypes.check whole.text = []) :
    ∃ whole ∈ prepareLines source 1, whole.number = line.number ∧
      Assignment.SetsOn whole.text name := by
  by_cases last : line.number < lineOf source main.bodyEnd
  · -- Between the braces both looks have the same lines.
    exact ⟨line, (outlined.mem_prepareLines_body_iff below last).mp listed, rfl, sets⟩
  · -- The line ends the body, and a longer line of the source starts with it.
    have ending := outlined.lineOf_bodyEnd_eq
    have first := outlined.split_source.2.2
    have bound := (outlined.number_bounds listed).2
    obtain ⟨index, raw, found, rfl, filled⟩ := mem_prepareLines_iff.mp listed
    dsimp only at sets below last bound ⊢
    obtain rfl : index = breaks (main.body source) := by omega
    obtain ⟨front, back, final, whole, brace⟩ := outlined.exists_closing_line (by omega)
    obtain rfl : raw = front := Option.some.inj (found.symm.trans final)
    -- It is checked in the first look, and what the body's part of it does is done there.
    have longer : trim (raw ++ back) ≠ [] := by
      obtain ⟨more, trimmed⟩ := exists_trim_append filled back
      rw [trimmed]
      exact List.append_ne_nil_of_left_ne_nil filled more
    have member := (@mem_prepareLines_iff source 1 _).mpr ⟨_, _, whole, rfl, longer⟩
    obtain ⟨-, statement, entered, assigns⟩ := sets
    refine ⟨_, member, ?_, closing _ member ?_, statement,
      Statement.mem_effective_trim brace entered, assigns⟩
    · dsimp only
      omega
    · dsimp only
      omega

end MainFunction

namespace Analysis

/-- A variable of the program is warned about if it has no value and the body has no such name. -/
theorem mem_diagnostics_inProgram_iff (config : Config) {source : Text}
    (closed : (Comment.strip source).unclosed = none) (name : Text) :
    (Finding.neverInitialized name).inProgram ∈ (analyze config source).diagnostics ↔
      (∃ symbol ∈ (analyze config source).symbols.globals,
        symbol.name = name ∧ symbol.initialized = false) ∧
      (settledIn config source).lookup name = none := by
  obtain ⟨told, diagnostics, others⟩ := exists_diagnostics_eq config closed
  rw [diagnostics, List.mem_append, List.mem_append]
  constructor
  · rintro ((other | unset) | swept)
    · -- Nothing that is told before the warnings is one of them.
      have none := (others _ other).isUnsetWarning_eq_false name
      rw [Diagnostic.isUnsetWarning_inProgram, beq_self_eq_true] at none
      cases none
    · -- The warnings about the main function have another origin.
      obtain ⟨symbol, -, same⟩ := List.mem_map.mp unset
      cases congrArg Diagnostic.origin same
    · -- A warning of the sweep shows the name, so it is about that variable.
      obtain ⟨symbol, free, same⟩ := List.mem_map.mp swept
      obtain ⟨listed, kind⟩ := List.mem_filter.mp free
      obtain rfl : symbol.name = name :=
        Finding.quoted_between_inj (congrArg Diagnostic.message same)
      simp only [Bool.and_eq_true, Bool.not_eq_true', Option.isNone_iff_eq_none] at kind
      exact ⟨⟨symbol, listed, rfl, kind.1⟩, kind.2⟩
  · -- Such a variable passes both tests of the sweep.
    rintro ⟨⟨symbol, listed, rfl, unset⟩, free⟩
    refine .inr (List.mem_map.mpr ⟨symbol, List.mem_filter.mpr ⟨listed, ?_⟩, rfl⟩)
    rw [unset, free]
    rfl

/-- A variable that the body declares and that never got a value is warned about. -/
theorem mem_diagnostics_inMain {config : Config} {source : Text}
    (closed : (Comment.strip source).unclosed = none) {own : Symbol}
    (declared : own ∈ settledIn config source) (unset : own.initialized = false) :
    (Finding.neverInitializedInMain own.name).inMain own.line ∈
      (analyze config source).diagnostics := by
  obtain ⟨told, diagnostics, -⟩ := exists_diagnostics_eq config closed
  -- It is one of the warnings of the second look.
  rw [diagnostics, List.mem_append, List.mem_append]
  refine .inl (.inr (List.mem_map.mpr ⟨own, List.mem_filter.mpr ⟨declared, ?_⟩, rfl⟩))
  rw [unset]
  rfl

/-- Only a run that goes to its end lists variables. -/
theorem closed_of_mem_globals {config : Config} {source : Text} {symbol : Symbol}
    (listed : symbol ∈ (analyze config source).symbols.globals) :
    (Comment.strip source).unclosed = none := by
  -- A run that stops in an open comment has no table to list them from.
  cases closed : (Comment.strip source).unclosed with
  | none => rfl
  | some start =>
    rw [analyze_of_unclosed config closed] at listed
    cases listed

/-- The table of a run under the default settings, at the end of the body of its main function. -/
def bodyTable (source : Text) (main : MainFunction) : SymbolTable :=
  MainFunction.Scan.endTable {} (Comment.strip source).text main (analyze {} source).symbols

/-- The variables of the body's scope are those that the body declares. -/
theorem settledIn_default {source : Text} {main : MainFunction}
    (found : MainFunction.locate false (Comment.strip source).text = .found main) :
    settledIn {} source = (bodyTable source main).current := by
  -- The filter by lines keeps what the body declares.
  unfold settledIn
  rw [MainFunction.Scan.settled_of_found _ found]
  exact MainFunction.Scan.declaredIn_endTable found _

/-- The outer scope of the table has a copy of each variable above the main function. -/
theorem kept_globals_bodyTable (source : Text) (main : MainFunction) :
    Scope.Kept (main.GivesValue (Comment.strip source).text)
      ((analyze {} source).symbols.globals.filter fun symbol => symbol.line < main.headerLine)
      (bodyTable source main).globals :=
  MainFunction.Scan.kept_globals_endTable _ main (distinct_globals {} source)

/--
A variable of the program that gets its value in the main function is not warned about.

This holds when the body neither steps the variable nor assigns to it on the line of the opening
brace. The line of the closing brace must not mix types, or the first look does not enter it.
-/
theorem value_from_main_unwarned {source : Text} {main : MainFunction}
    (found : MainFunction.locate false (Comment.strip source).text = .found main) {copy : Symbol}
    (listed : copy ∈ (bodyTable source main).globals) (set : copy.initialized = true)
    (unstepped : ∀ line ∈ prepareLines (main.body (Comment.strip source).text) main.bodyLine,
      copy.name ∉ Operators.targetsIn (blank line.text))
    (opening : ∀ line ∈ prepareLines (main.body (Comment.strip source).text) main.bodyLine,
      line.number = main.bodyLine → ¬ Assignment.SetsOn line.text copy.name)
    (closing : ∀ line ∈ prepareLines (Comment.strip source).text 1,
      line.number = lineOf (Comment.strip source).text main.bodyEnd →
        MixedTypes.check line.text = []) :
    (Finding.neverInitialized copy.name).inProgram ∉ (analyze {} source).diagnostics := by
  intro warned
  have distinct := distinct_globals {} source
  -- The copy stands for a variable above the main function, which is the one without a value.
  obtain ⟨origin, inside, stays⟩ := (kept_globals_bodyTable source main).exists_of_mem listed
  obtain ⟨row, above⟩ := List.mem_filter.mp inside
  have closed := closed_of_mem_globals row
  obtain ⟨⟨symbol, member, same, unset⟩, -⟩ :=
    (mem_diagnostics_inProgram_iff {} closed copy.name).mp warned
  obtain rfl : symbol = origin :=
    List.inj_on_of_nodup_map distinct member row (same.trans stays.name)
  -- So its copy has got the value from a line of the body.
  obtain ⟨line, body, sets | stepped⟩ := stays.marked unset set
  · obtain ⟨start, header, gap, inside, tail, outlined⟩ := MainFunction.exists_outlined found
    have below : main.bodyLine < line.number := by
      have low := (outlined.number_bounds body).1
      have other : line.number ≠ main.bodyLine := fun first =>
        opening line body first (stays.name ▸ sets)
      omega
    -- The first look reads the assignment too, below the variable.
    obtain ⟨whole, prepared, number, again⟩ := outlined.exists_setsOn body sets below closing
    have early : symbol.line < whole.number := by
      have header := outlined.headerLine_le
      have ahead : symbol.line < main.headerLine := of_decide_eq_true above
      omega
    rw [symbols_analyze {} closed, Validator.validate_globals] at distinct member
    obtain ⟨other, known, named, filled⟩ :=
      Validator.validate_valued prepared again member early
    -- The variable would have a value, since no other one has its name.
    obtain rfl := List.inj_on_of_nodup_map distinct known member named
    rw [unset] at filled
    cases filled
  · exact unstepped line body (stays.name ▸ stepped)

/-- An assignment on the line of the closing brace counts. -/
theorem value_from_main_unwarned_closing :
    let source := "int g;\nint main() \x7b\ng = 1; \x7d".toList
    let main : MainFunction := ⟨"int".toList, 2, 19, 27, 2⟩
    MainFunction.locate false (Comment.strip source).text = .found main ∧
      (∃ copy ∈ (bodyTable source main).globals,
        copy.name = "g".toList ∧ copy.initialized = true) ∧
      (Finding.neverInitialized "g".toList).inProgram ∉ (analyze {} source).diagnostics := by
  intro source main
  -- The main function is found, and the copy of the variable gets its value there.
  have found : MainFunction.locate false (Comment.strip source).text = .found main := by
    decide +kernel
  have valued : ∃ copy ∈ (bodyTable source main).globals,
      copy.name = "g".toList ∧ copy.initialized = true := by
    decide +kernel
  refine ⟨found, valued, ?_⟩
  obtain ⟨copy, listed, named, set⟩ := valued
  -- The body has one line, and it is not that of the opening brace.
  have later : ∀ line ∈ prepareLines (main.body (Comment.strip source).text) main.bodyLine,
      line.number ≠ main.bodyLine ∧ "g".toList ∉ Operators.targetsIn (blank line.text) := by
    decide +kernel
  -- The name of the copy is the name of the variable.
  rw [← named] at later ⊢
  exact value_from_main_unwarned found listed set (fun line body => (later line body).2)
    (fun line body first => absurd first (later line body).1) (by decide +kernel)

/-- A value that a step gives in the body is not seen, so the variable is warned about. -/
theorem stepped_in_main_warned :
    let source := "int g;\nint main() \x7b\ng++;\n\x7d".toList
    let main : MainFunction := ⟨"int".toList, 2, 19, 25, 2⟩
    MainFunction.locate false (Comment.strip source).text = .found main ∧
      (∃ copy ∈ (bodyTable source main).globals,
        copy.name = "g".toList ∧ copy.initialized = true) ∧
      (Finding.neverInitialized "g".toList).inProgram ∈ (analyze {} source).diagnostics := by
  decide +kernel

/--
A variable above the main function whose copy never gets a value is warned about.

When the body has a variable of the same name, its name is left to the second look. A warning about
the variable of the body then takes the place of the other one.
-/
theorem unset_above_main_warned {source : Text} {main : MainFunction}
    (found : MainFunction.locate false (Comment.strip source).text = .found main) {symbol : Symbol}
    (listed : symbol ∈ (analyze {} source).symbols.globals)
    (above : symbol.line < main.headerLine)
    (unset : ∀ copy ∈ (bodyTable source main).globals,
      copy.name = symbol.name → copy.initialized = false) :
    ((bodyTable source main).current.lookup symbol.name = none →
      (Finding.neverInitialized symbol.name).inProgram ∈ (analyze {} source).diagnostics) ∧
    ∀ own, (bodyTable source main).current.lookup symbol.name = some own →
      own.initialized = false →
        (Finding.neverInitializedInMain symbol.name).inMain own.line ∈
          (analyze {} source).diagnostics ∧
        (Finding.neverInitialized symbol.name).inProgram ∉ (analyze {} source).diagnostics := by
  have closed := closed_of_mem_globals listed
  -- There is one exact condition for the warning.
  have warned := mem_diagnostics_inProgram_iff {} closed symbol.name
  rw [← settledIn_default found]
  constructor
  · -- With no variable of this name in the body the sweep warns.
    intro free
    obtain ⟨copy, copied, stays⟩ := (kept_globals_bodyTable source main).exists_kept
      (List.mem_filter.mpr ⟨listed, decide_eq_true above⟩)
    -- The copy would have kept a value.
    have without : symbol.initialized = false := by
      rw [← Bool.not_eq_true]
      intro filled
      have kept := stays.initialized filled
      rw [unset copy copied stays.name] at kept
      cases kept
    exact warned.mpr ⟨⟨symbol, listed, rfl, without⟩, free⟩
  · intro own inner without
    -- The name is among those that the body settles, so the end of the run leaves it out.
    have named : own.name = symbol.name := by simpa using List.find?_some inner
    refine ⟨named ▸ mem_diagnostics_inMain closed (List.mem_of_find?_eq_some inner) without,
      fun both => ?_⟩
    rw [inner] at warned
    cases (warned.mp both).2

/-- Of two variables above the main function one is hidden by a variable of the body. -/
theorem unset_above_main_warned_hidden :
    let source := "int g;\nint h;\nint main() \x7b\nint h;\n\x7d".toList
    let main : MainFunction := ⟨"int".toList, 3, 26, 34, 3⟩
    let plain : Symbol := ⟨"g".toList, .known .int, false, 1⟩
    let hidden : Symbol := ⟨"h".toList, .known .int, false, 2⟩
    MainFunction.locate false (Comment.strip source).text = .found main ∧
      (analyze {} source).symbols.globals = [plain, hidden] ∧
      (bodyTable source main).globals = [plain, hidden] ∧
      (Finding.neverInitialized plain.name).inProgram ∈ (analyze {} source).diagnostics ∧
      (Finding.neverInitializedInMain hidden.name).inMain 4 ∈ (analyze {} source).diagnostics ∧
      (Finding.neverInitialized hidden.name).inProgram ∉ (analyze {} source).diagnostics := by
  intro source main plain hidden
  have found : MainFunction.locate false (Comment.strip source).text = .found main := by
    decide +kernel
  have rows : (analyze {} source).symbols.globals = [plain, hidden] := by decide +kernel
  have copies : (bodyTable source main).globals = [plain, hidden] := by decide +kernel
  -- Neither copy has got a value.
  have unset : ∀ copy ∈ (bodyTable source main).globals, copy.initialized = false := by
    rw [copies]
    decide
  have first := @unset_above_main_warned source main found plain
    (by rw [rows]; exact List.mem_cons_self) (by decide) fun copy listed _ => unset copy listed
  have second := @unset_above_main_warned source main found hidden
    (by rw [rows]; exact List.mem_cons_of_mem _ List.mem_cons_self) (by decide)
    fun copy listed _ => unset copy listed
  -- The first has no namesake in the body, and the second one has.
  refine ⟨found, rows, copies, first.1 (by decide +kernel), ?_⟩
  exact second.2 ⟨"h".toList, .known .int, false, 4⟩ (by decide +kernel) rfl

/-- A variable without a value goes without its warning when the body has one of the same name. -/
theorem hidden_above_main_unwarned :
    let source := "int g;\nint main() \x7b\nint g;\n\x7d".toList
    let main : MainFunction := ⟨"int".toList, 2, 19, 27, 2⟩
    MainFunction.locate false (Comment.strip source).text = .found main ∧
      (∃ symbol ∈ (analyze {} source).symbols.globals, symbol.name = "g".toList ∧
        symbol.line < main.headerLine ∧ symbol.initialized = false) ∧
      (∀ copy ∈ (bodyTable source main).globals, copy.initialized = false) ∧
      (Finding.neverInitialized "g".toList).inProgram ∉ (analyze {} source).diagnostics := by
  decide +kernel

end Analysis

end SourceLint
