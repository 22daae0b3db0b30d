import SourceLint.Proofs.MainLines
import SourceLint.Proofs.Unset.Warning

/-!
Where the warnings about variables of the main function point.

With a scope of its own, the body is entered without variables, so every one of them is declared on
one of its lines. Without such a scope it is entered with all variables of the program, of which
those from the line of the opening brace on count as declared in the body.
-/

namespace SourceLint

open Text

/-- A name that the given line of the body of the main function declares. -/
def MainFunction.DeclaresOn (main : MainFunction) (source name : Text) (line : Int) : Prop :=
  ∃ numbered ∈ prepareLines (main.body source) main.bodyLine,
    numbered.number = line ∧ name ∈ Declaration.namesOn numbered.text

instance (main : MainFunction) (source name : Text) (line : Int) :
    Decidable (main.DeclaresOn source name line) :=
  inferInstanceAs (Decidable (∃ numbered ∈ prepareLines (main.body source) main.bodyLine,
    numbered.number = line ∧ name ∈ Declaration.namesOn numbered.text))

namespace MainFunction

/-- A variable at the end of the second look is declared by the body or known at its start. -/
theorem Scan.mem_current_endTable {scan : Scan} {source : Text} {main : MainFunction}
    {globals : SymbolTable} {symbol : Symbol}
    (member : symbol ∈ (scan.endTable source main globals).current) :
    main.DeclaresOn source symbol.name symbol.line ∨
      scan.ownScope = false ∧
        ∃ origin ∈ globals.globals, origin.name = symbol.name ∧ origin.line = symbol.line := by
  obtain ⟨kept, added, parts, same, entered⟩ := (Validator.validateLines_grows
    (Validator.standard true scan.reportRedeclarations (scan.startTable main globals)).reset
    (prepareLines (main.body source) main.bodyLine)).current
  unfold endTable Validator.validate at member
  -- Old variables come from the start table, and new ones from lines of the body.
  rw [parts] at member
  rcases List.mem_append.mp member with old | new
  · right
    obtain ⟨origin, known, stays⟩ := same.exists_of_mem old
    have start : origin ∈ (scan.startTable main globals).current := known
    refine ⟨?_, origin, mem_current_startTable start, stays.name.symm, stays.line.symm⟩
    -- A scope of its own would have been empty.
    cases own : scan.ownScope with
    | false => rfl
    | true =>
      unfold startTable at start
      rw [own] at start
      cases start
  · -- A new variable is declared on some line of the body.
    left
    obtain ⟨origin, ⟨line, listed, declared⟩, stays⟩ := entered symbol new
    have here := declared.kept stays
    exact ⟨line, listed, here.line.symm, here.listed⟩

end MainFunction

namespace Analysis

/-- A warning about the main function tells of a variable that counts as declared in its body. -/
theorem exists_settled_of_origin {config : Config} {source : Text} {diagnostic : Diagnostic}
    (told : diagnostic ∈ (analyze config source).diagnostics) (origin : diagnostic.origin = .main) :
    (Comment.strip source).unclosed = none ∧
      ∃ symbol ∈ settledIn config source, symbol.initialized = false ∧
        diagnostic = (Finding.neverInitializedInMain symbol.name).inMain symbol.line := by
  cases closed : (Comment.strip source).unclosed with
  | some start =>
    -- The only message of a run that ends early is about the program.
    rw [analyze_of_unclosed config closed] at told
    rw [List.mem_singleton.mp told] at origin
    cases origin
  | none =>
    refine ⟨rfl, ?_⟩
    -- The messages come in three groups, and only the second one has this origin.
    obtain ⟨early, diagnostics, others⟩ := exists_diagnostics_eq config closed
    rw [diagnostics, List.mem_append, List.mem_append] at told
    rcases told with (other | unset) | swept
    · -- Nothing in front of the warnings has this origin.
      rcases others diagnostic other with onLine | ⟨program, -⟩
      · rw [origin] at onLine
        cases onLine
      · rw [origin] at program
        cases program
    · obtain ⟨symbol, member, rfl⟩ := List.mem_map.mp unset
      obtain ⟨listed, without⟩ := List.mem_filter.mp member
      exact ⟨symbol, listed, by simpa using without, rfl⟩
    · -- The sweep at the end speaks for the program.
      obtain ⟨symbol, -, rfl⟩ := List.mem_map.mp swept
      cases origin

/--
A warning about the main function points into its body, as long as the body has its own scope.

The warning is never above the line of the opening brace. It is between the lines of the two braces
and names a variable that a line of the body declares. Without a scope of its own it may also be
about a variable of the program, which is then declared on the line of the opening brace, on that of
the closing one, or below.
-/
theorem main_warning_placed (config : Config) {source : Text} {diagnostic : Diagnostic}
    (told : diagnostic ∈ (analyze config source).diagnostics) (origin : diagnostic.origin = .main) :
    ∃ (main : MainFunction) (name : Text) (line : Int),
      MainFunction.locate config.requireMain (Comment.strip source).text = .found main ∧
      diagnostic = (Finding.neverInitializedInMain name).inMain line ∧ main.bodyLine ≤ line ∧
      (line ≤ lineOf (Comment.strip source).text main.bodyEnd ∧
          main.DeclaresOn (Comment.strip source).text name line ∨
        config.scopedMain = false ∧
          (line = main.bodyLine ∨ lineOf (Comment.strip source).text main.bodyEnd ≤ line) ∧
          ∃ symbol ∈ (analyze config source).symbols.globals,
            symbol.name = name ∧ symbol.line = line) := by
  obtain ⟨closed, symbol, settled, -, rfl⟩ := exists_settled_of_origin told origin
  -- The warning comes from a variable that was settled, so the main function was found.
  unfold settledIn at settled
  cases found : MainFunction.locate config.requireMain (Comment.strip source).text with
  | faulty reason => simp [MainFunction.Scan.settled, found] at settled
  | absent => simp [MainFunction.Scan.settled, found] at settled
  | found main =>
    rw [MainFunction.Scan.settled_of_found _ found] at settled
    obtain ⟨member, below⟩ := List.mem_filter.mp settled
    obtain ⟨start, header, gap, inside, tail, outlined⟩ := MainFunction.exists_outlined found
    refine ⟨main, symbol.name, symbol.line, rfl, rfl, by simpa using below, ?_⟩
    -- The variable is declared by the body, or it is a shared one of the program.
    rcases MainFunction.Scan.mem_current_endTable member with declared | ⟨shared, row, listed, name,
      line⟩
    · left
      refine ⟨?_, declared⟩
      obtain ⟨numbered, member, number, -⟩ := declared
      rw [← number]
      exact (outlined.number_bounds member).2
    · -- A variable of the program stands on a line of the source, which may be one of the body.
      by_cases between : main.bodyLine < symbol.line ∧
          symbol.line < lineOf (Comment.strip source).text main.bodyEnd
      · left
        -- A variable between the braces is declared on a line that the body contains.
        rw [symbols_analyze config closed, Validator.validate_globals] at listed
        obtain ⟨numbered, prepared, here⟩ := Validator.exists_declaredOn_of_mem_validate listed
        have number : numbered.number = symbol.line := by rw [← here.line, line]
        have inBody := (outlined.mem_prepareLines_body_iff (number ▸ between.1)
          (number ▸ between.2)).mpr prepared
        exact ⟨Int.le_of_lt between.2, numbered, inBody, number, name ▸ here.listed⟩
      · -- Otherwise its line is not strictly between the two braces.
        right
        refine ⟨shared, ?_, row, listed, name, line⟩
        have low : main.bodyLine ≤ symbol.line := by simpa using below
        omega

/-- A variable on the line of the closing brace is still one of the body. -/
theorem main_warning_placed_closing :
    let source := "int main() \x7b /* \x7d */\nint x; \x7d\nint g;".toList
    let warning := (Finding.neverInitializedInMain "x".toList).inMain 2
    warning ∈ (analyze {} source).diagnostics ∧ warning.origin = .main ∧
      ∃ (main : MainFunction) (name : Text) (line : Int),
        MainFunction.locate false (Comment.strip source).text = .found main ∧
        warning = (Finding.neverInitializedInMain name).inMain line ∧ main.bodyLine ≤ line ∧
        line ≤ lineOf (Comment.strip source).text main.bodyEnd ∧
        main.DeclaresOn (Comment.strip source).text name line := by
  intro source warning
  have told : warning ∈ (analyze {} source).diagnostics := by decide +kernel
  refine ⟨told, rfl, ?_⟩
  -- With a scope of its own the body has the variable.
  obtain ⟨main, name, line, found, same, low, placed | ⟨shared, -⟩⟩ :=
    main_warning_placed {} told rfl
  · exact ⟨main, name, line, found, same, low, placed⟩
  · cases shared

/-- Without a scope of its own, the body is blamed for a variable declared below it. -/
theorem main_warning_below_main :
    let source := "int main() \x7b\n\x7d\nint g;".toList
    let main : MainFunction := ⟨"int".toList, 1, 12, 13, 1⟩
    (Finding.neverInitializedInMain "g".toList).inMain 3 ∈
        (analyze { scopedMain := false } source).diagnostics ∧
      MainFunction.locate false (Comment.strip source).text = .found main ∧
      lineOf (Comment.strip source).text main.bodyEnd = 2 ∧
      ∀ line, ¬ main.DeclaresOn (Comment.strip source).text "g".toList line := by
  intro source main
  -- Three of the four parts are evaluated.
  refine ⟨by decide +kernel, by decide +kernel, by decide +kernel, ?_⟩
  -- The body has no line that is not blank.
  rintro line ⟨numbered, member, -⟩
  have none : prepareLines (main.body (Comment.strip source).text) main.bodyLine = [] := by
    decide +kernel
  rw [none] at member
  cases member

end Analysis

end SourceLint
