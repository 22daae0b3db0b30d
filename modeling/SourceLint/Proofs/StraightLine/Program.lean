import SourceLint.Analysis
import SourceLint.Proofs.Comment
import SourceLint.Proofs.Log
import SourceLint.Proofs.MainFunction
import SourceLint.Proofs.StraightLine.Silence

/-! The whole run on a program that does nothing but define variables. -/

namespace SourceLint

open Text

/-- The program that defines one variable after another, each on a line of its own. -/
def program (definitions : List Definition) : Text :=
  join ['\n'] (definitions.map Definition.line)

/-- A literal holds no comment. -/
theorem Written.stripFrom {value : Text} (written : Written value) (line : Int) (rest : Text) :
    Comment.stripFrom .code line (value ++ rest) =
      (Comment.stripFrom .code line rest).keepAll value := by
  -- Without quotes there is no slash either, and in quotes a slash is no comment.
  rcases written.plain_or_quoted with ⟨-, plain⟩ | ⟨quote, content, opens, rfl, inner⟩
  · refine Comment.stripFrom_append_plain (fun c member => ?_) line rest
    have here := plain c member
    exact ⟨ne_of_class here (by decide), (outside_of_isPlain here).2,
      ne_of_class here (by decide)⟩
  · simpa using Comment.stripFrom_append_literal opens inner line rest

namespace Definition

variable (definition : Definition)

/-- A line holds no comment. -/
theorem stripFrom_line (number : Int) (rest : Text) :
    Comment.stripFrom .code number (definition.line ++ rest) =
      (Comment.stripFrom .code number rest).keepAll definition.line := by
  -- In front of the value there are no slashes, no quotes and no line breaks.
  have front : ∀ c ∈ definition.type.spelling ++ ' ' :: definition.name,
      c ≠ '/' ∧ isQuote c = false ∧ c ≠ '\n' := by
    intro c member
    rcases definition.plain_front c member with plain | rfl
    · exact ⟨ne_of_class plain (by decide), (outside_of_isPlain plain).2,
        ne_of_class plain (by decide)⟩
    · decide
  have ending := fun rest => @Comment.stripFrom_append_plain [';'] (by decide) number rest
  cases valued : definition.value with
  | none =>
    have shown : definition.line = definition.type.spelling ++ ' ' :: definition.name ++ [';'] := by
      simp [line, statement, statementIn, declaredIn, valued]
    rw [shown, List.append_assoc, Comment.stripFrom_append_plain front, ending]
    simp [Comment.Stripped.keepAll]
  -- The value comes between two plain parts.
  | some literal =>
    have shown : definition.line = definition.type.spelling ++ ' ' :: definition.name ++
        ([' ', '=', ' '] ++ (literal ++ [';'])) := by
      simp [line, statement, statementIn, declaredIn, valued]
    have gap := fun rest =>
      @Comment.stripFrom_append_plain [' ', '=', ' '] (by decide) number rest
    rw [shown]
    simp only [List.append_assoc _ _ rest]
    rw [Comment.stripFrom_append_plain front, gap, (definition.written valued).stripFrom, ending]
    simp [Comment.Stripped.keepAll]

/-- A definition takes one line. -/
theorem unbroken_line : '\n' ∉ definition.line := by
  -- Neither the parts in front of the value nor the value hold a line break.
  have front := definition.notMem_front (show isPlain '\n' = false by decide) (by decide)
  simp only [List.mem_append, List.mem_cons, not_or] at front
  obtain ⟨typed, -, named⟩ := front
  rw [line, statement, statementIn, declaredIn]
  cases valued : definition.value with
  | none => simp [typed, named]
  | some literal => simp [typed, named, (definition.written valued).unbroken]

/-- The word for the main function is not on the line. -/
theorem main_notMem_line : "main".toList ∉ wordTexts (mask definition.line) := by
  have ending : wordTexts [] = [] := rfl
  rw [mask, definition.maskWith_line, wordTexts_append_cons (by decide), ending, List.append_nil,
    wordTexts_statementIn, List.mem_append, List.mem_cons]
  -- No type is called so, no variable may be, and no literal shows the word.
  rintro (inType | named | inValue)
  · have other : "main".toList ∉ definition.type.words := by cases definition.type <;> decide
    exact other inType
  · exact definition.nameable.notMain named.symm
  · cases valued : definition.value with
    | none => simp [valued] at inValue
    | some literal =>
      rw [valued] at inValue
      exact (definition.written valued).main_notMem_mask inValue

/-- No line opens a parenthesis outside its literal. -/
theorem paren_notMem_line : '(' ∉ mask definition.line := by
  intro member
  -- A parenthesis is none of the characters that a line shows.
  exact absurd (definition.mem_mask_line member) (by decide)

end Definition

/-- A literal is no name of a variable. -/
theorem Written.not_isVariable {value : Text} (written : Written value) : ¬IsVariable value := by
  intro usable
  have start := usable.named.2.1
  cases written with
  | numeral number =>
    -- The words of a number start with digits, and a name is one word.
    have word := number.head_wordTexts value (by simp [wordTexts_run usable.named.1 usable.words])
    obtain ⟨c, first, digit⟩ := (Option.any_eq_true _ _).mp word
    rw [first, Option.any_some, isNameStart_of_isDigit digit] at start
    cases start
  -- The truth values are reserved words.
  | truth listed =>
    have reserved := usable.isReserved
    rcases listed with rfl | rfl <;> exact absurd reserved (by decide)
  -- No name starts with a quote.
  | @quoted quote content opens inner =>
    have unnamed : isNameStart quote = false := forall_isQuote opens (by decide) (by decide)
    simp [unnamed] at start

/-- A program on more lines starts with its first line. -/
theorem program_cons (first : Definition) {others : List Definition} (some : others ≠ []) :
    program (first :: others) = first.line ++ '\n' :: program others := by
  -- With a second line there is a separator behind the first one.
  have lines : others.map Definition.line ≠ [] := by simpa using some
  rw [program, List.map_cons, join_cons _ _ lines, List.append_assoc]
  rfl

/-- A program of definitions holds no comment. -/
theorem strip_program (definitions : List Definition) :
    Comment.strip (program definitions) = { text := program definitions } := by
  -- The line number changes from line to line, so that it stays arbitrary.
  have general : ∀ number, Comment.stripFrom .code number (program definitions) =
      { text := program definitions } := by
    induction definitions with
    | nil => exact fun _ => rfl
    | cons first others ih =>
      intro number
      by_cases last : others = []
      · subst last
        have only := first.stripFrom_line number []
        simpa [program, join, Comment.stripFrom, Comment.Stripped.keepAll] using only
      · -- The first line is kept, then its line break, then the rest of the program.
        rw [program_cons first last, first.stripFrom_line, Comment.stripFrom_code (by decide),
          if_neg (by decide), ih]
        rfl
  exact general 1

/-- The lines of a program are those of its definitions, none of which is blank. -/
theorem prepareLines_program (definitions : List Definition) (first : Int) :
    prepareLines (program definitions) first =
      numberLines first (definitions.map Definition.line) := by
  -- Without definitions there is one empty line, and it is dropped.
  by_cases empty : definitions = []
  · subst empty
    rfl
  · have split : lines (program definitions) = definitions.map Definition.line := by
      refine lines_join (by simpa using empty) fun line member => ?_
      -- The line of a definition holds no line break.
      obtain ⟨definition, -, rfl⟩ := List.mem_map.mp member
      exact definition.unbroken_line
    have trimmed : (definitions.map Definition.line).map trim =
        definitions.map Definition.line := by
      simp [Definition.trim_line]
    -- No line of the program is dropped.
    have kept : ∀ (first : Int) (definitions : List Definition),
        ((numberLines first (definitions.map Definition.line)).filter fun line =>
          !line.text.isEmpty) = numberLines first (definitions.map Definition.line) := by
      intro first definitions
      induction definitions generalizing first with
      | nil => rfl
      | cons definition others ih =>
        have some : definition.line ≠ [] := by simp [Definition.line]
        simp [numberLines, some, ih]
    rw [prepareLines, split, trimmed, kept]

/-- A table of one scope finds nothing under a text that is no name of a variable. -/
theorem lookup_eq_none {rows : Scope} (usable : ∀ symbol ∈ rows, IsVariable symbol.name)
    {text : Text} (other : ¬IsVariable text) :
    SymbolTable.lookup ⟨rows, []⟩ text = none := by
  have unfound : Scope.lookup rows text = none := by
    rw [Scope.lookup, List.find?_eq_none]
    -- A row under that text would make it the name of a variable.
    intro symbol member same
    exact other (by simpa [← eq_of_beq same] using usable symbol member)
  simp [SymbolTable.lookup, SymbolTable.stack, unfound]

/-- Line after line the definitions of a program are entered, and nothing is found. -/
theorem validateLines_definitions (report : Bool) {definitions : List Definition} {rows : Scope}
    (usable : ∀ symbol ∈ rows, IsVariable symbol.name)
    (fresh : (rows.map Symbol.name ++ definitions.map Definition.name).Nodup) (first : Int) :
    Validator.validateLines (Validator.standard false report ⟨rows, []⟩)
        (numberLines first (definitions.map Definition.line)) =
      (Validator.standard false report
        ⟨rows ++ definitions.mapIdx fun index definition => definition.symbol (first + index), []⟩,
        []) := by
  -- The rows grow by one variable with every line.
  induction definitions generalizing rows first with
  | nil => simp [numberLines, Validator.validateLines]
  | cons definition others ih =>
    -- The name is new to the table, since all names are distinct.
    have unknown : Scope.lookup rows definition.name = none := by
      rw [Scope.lookup, List.find?_eq_none]
      intro symbol member same
      have listed : symbol.name ∈ rows.map Symbol.name := List.mem_map_of_mem member
      exact (List.nodup_append.mp fresh).2.2 _ listed _ (by simp) (eq_of_beq same)
    have entered : SymbolTable.declare ⟨rows, []⟩ (definition.symbol first) =
        ⟨rows ++ [definition.symbol first], []⟩ := by
      have named : (definition.symbol first).name = definition.name := rfl
      simp [SymbolTable.declare, SymbolTable.lookupCurrent, named, unknown]
    -- No value is the name of a row, so that the rules stay silent on the line.
    have step : Validator.validateLine (Validator.standard false report ⟨rows, []⟩)
        ⟨first, definition.line⟩ =
          (Validator.standard false report ⟨rows ++ [definition.symbol first], []⟩, []) := by
      have silent := @Definition.runRules_line definition ⟨report, first⟩ ⟨rows, []⟩ unknown
        fun literal valued => lookup_eq_none usable (definition.written valued).not_isVariable
      rw [entered] at silent
      simp only [Validator.validateLine, Validator.standard, silent]
      rfl
    -- The new name is a variable's name too, so the hypotheses hold for the lines behind.
    have grown : ∀ symbol ∈ rows ++ [definition.symbol first], IsVariable symbol.name := by
      intro symbol member
      rcases List.mem_append.mp member with old | new
      · exact usable symbol old
      · rw [List.mem_singleton.mp new]
        exact definition.nameable
    have later := ih grown (by simpa [Definition.symbol] using fresh) (first + 1)
    -- Numbering goes on by one, as the positions in the rest of the program do.
    simp only [List.map_cons, numberLines, Validator.validateLines, step, later, List.nil_append,
      List.mapIdx_cons]
    simp [Int.add_assoc, Int.add_comm 1]

/-- A program shows no parenthesis and no word for the main function. -/
theorem maskSource_program (definitions : List Definition) :
    '(' ∉ maskSource (program definitions) ∧
      "main".toList ∉ wordTexts (maskSource (program definitions)) := by
  -- Masking works line by line, and no word goes across a line break.
  induction definitions with
  | nil => decide
  | cons first others ih =>
    have single := maskSource_single first.unbroken_line
    -- The last line has no line break behind it, and every other line has one.
    by_cases last : others = []
    · subst last
      have whole : program [first] = first.line := rfl
      rw [whole, single]
      exact ⟨first.paren_notMem_line, first.main_notMem_line⟩
    · rw [program_cons first last, maskSource_append_break, single,
        wordTexts_append_cons (by decide)]
      simp only [List.mem_append, List.mem_cons, not_or]
      exact ⟨⟨first.paren_notMem_line, by decide, ih.1⟩, first.main_notMem_line, ih.2⟩

/-- A program has no main function, and nothing in it looks like one. -/
theorem locate_program (definitions : List Definition) :
    MainFunction.locate false (program definitions) = .absent := by
  obtain ⟨unopened, unnamed⟩ := maskSource_program definitions
  have wordless : MainFunction.hasMainWord (maskSource (program definitions)) = false := by
    rw [← Bool.not_eq_true, MainFunction.hasMainWord_iff]
    exact unnamed
  -- Every header and every malformed one has a parenthesis.
  simp [MainFunction.locate, MainHeader.all_eq_nil unopened, MainFunction.missing,
    MainFunction.anywhere_malformedAt unopened, wordless]

/-- The warning about a variable that never gets a value. -/
def Definition.warning (definition : Definition) : Diagnostic :=
  ⟨.warning, .program, none,
    "Variable '" ++ String.ofList definition.name ++ "' is declared but never initialized."⟩

/-- The warning is what the end of a run says about the variable. -/
theorem Definition.inProgram_neverInitialized (definition : Definition) :
    (Finding.neverInitialized definition.name).inProgram = definition.warning := by
  have worded : (Finding.neverInitialized definition.name).inProgram =
      ⟨.warning, .program, none, "Variable " ++ Finding.quoted definition.name ++
        " is declared but never initialized."⟩ := rfl
  -- The quotes around the name belong to the text on either side.
  have front : "Variable '" = "Variable " ++ "'" := by decide
  have back : "' is declared but never initialized." =
      "'" ++ " is declared but never initialized." := by decide
  rw [worded, Definition.warning, Finding.quoted, front, back]
  simp only [String.append_assoc]

/--
The run on a program of definitions with distinct names finds nothing wrong.

Its table has one row for each definition, and there is one warning for each variable without a
value, both in the order of the program.
-/
theorem analyze_program {definitions : List Definition}
    (distinct : (definitions.map Definition.name).Nodup) :
    (Analysis.analyze {} (program definitions)).aborted = false ∧
    (Analysis.analyze {} (program definitions)).symbols.globals =
      (definitions.mapIdx fun index definition => definition.symbol (index + 1)) ∧
    (Analysis.analyze {} (program definitions)).diagnostics =
      (definitions.filter fun definition => definition.value.isNone).map Definition.warning := by
  have validated : Validator.validate (Validator.standard false false {}) (program definitions) 1 =
      (Validator.standard false false ⟨definitions.mapIdx fun index definition =>
        definition.symbol (1 + index), []⟩, []) := by
    rw [Validator.validate, prepareLines_program]
    exact @validateLines_definitions false definitions [] (by simp) (by simpa using distinct) 1
  -- What is left to report are the rows without a value.
  have swept : ∀ first : Int, ((definitions.mapIdx fun index definition =>
      definition.symbol (first + index)).filter fun symbol =>
        !symbol.initialized && (Scope.lookup [] symbol.name).isNone).map
          (fun symbol => (Finding.neverInitialized symbol.name).inProgram) =
      (definitions.filter fun definition => definition.value.isNone).map Definition.warning := by
    clear distinct validated
    -- The lines are numbered from any start, since the rest of the program starts one line below.
    induction definitions with
    | nil => exact fun _ => rfl
    | cons definition others ih =>
      intro first
      have later := ih (first + 1)
      have told := definition.inProgram_neverInitialized
      simp only [List.mapIdx_cons, List.filter_cons, Definition.symbol, Scope.lookup,
        List.find?_nil, Option.isNone_none, Bool.and_true, Option.not_isSome] at later ⊢
      cases valued : definition.value <;>
        simpa [told, Int.add_assoc, Int.add_comm 1] using later
  -- The run numbers its lines from one.
  have shifted : (fun (index : Nat) (definition : Definition) => definition.symbol (1 + index)) =
      fun index definition => definition.symbol (index + 1) := by
    funext index definition
    rw [Int.add_comm]
  simp only [Analysis.analyze, Analysis.run, strip_program, Analysis.runStripped, validated,
    MainFunction.examine, locate_program, Analysis.sweep]
  refine ⟨trivial, ?_, ?_⟩
  · simp [SymbolTable.globals, Validator.standard, shifted]
  · -- The log is empty until then and takes the warnings as they come.
    rw [Log.entries_extend (by simp [Analysis.startLog]), ← swept 1]
    rfl

/-- Comment markers, brackets and keywords in a literal and a sign in an exponent are harmless. -/
theorem analyze_program_literals :
    (Analysis.analyze {} (join ['\n'] (["unsigned long n;", "string s = \"int main( /* ; \x7d\";",
      "float _x = -1.5e-3f;"].map String.toList))).diagnostics =
        [⟨.warning, .program, none, "Variable 'n' is declared but never initialized."⟩] := by
  -- The number has a sign, a fraction, an exponent and a suffix.
  have number : LiteralOf .float "-1.5e-3f".toList :=
    @LiteralOf.real .float ['-'] ['1'] ['.', '5'] ['e', '-', '3'] ['f'] (.inl rfl) (.inr rfl)
      (by simp [IsDigits]) (.inr ⟨['5'], by simp [IsDigits], rfl⟩)
      (.inr ⟨'e', ['-'], ['3'], .inl rfl, .inr (.inr rfl), by simp [IsDigits], rfl⟩)
      (.inr ⟨'f', by simp, rfl⟩)
  -- The sentence holds comment markers and brackets.
  have sentence : LiteralOf .string "\"int main( /* ; \x7d\"".toList :=
    @LiteralOf.string "int main( /* ; \x7d".toList (by decide)
  have run := @analyze_program
    [⟨.unsignedLong, "n".toList, none, by constructor <;> decide, by simp⟩,
      ⟨.string, "s".toList, some "\"int main( /* ; \x7d\"".toList, by constructor <;> decide,
        fun _ same => Option.some.inj same ▸ sentence⟩,
      ⟨.float, "_x".toList, some "-1.5e-3f".toList, by constructor <;> decide,
        fun _ same => Option.some.inj same ▸ number⟩] (by simp)
  exact run.2.2

end SourceLint
