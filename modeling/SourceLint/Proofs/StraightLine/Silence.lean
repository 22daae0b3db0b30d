import Mathlib.Data.List.Basic
import SourceLint.Proofs.Nesting.Line
import SourceLint.Proofs.StraightLine.Arithmetic
import SourceLint.Validator

/-! No rule finds anything on a line that defines a variable. -/

namespace SourceLint

open Text

/-- A word that starts with a digit is no name. -/
theorem Word.isNamed_of_isDigit {word : Word} (digit : word.text.head?.any Char.isDigit = true) :
    word.isNamed = false := by
  -- The class of digits and that of the first characters of names are disjoint.
  rw [Word.isNamed, Option.any_eq_false]
  intro c first
  rw [first] at digit
  exact isNameStart_of_isDigit (by simpa using digit)

/-- The words that a definition can have besides its name: those of the types and of truth. -/
def meaningfulWords : List Text :=
  DataType.all.flatMap DataType.words ++ ["true", "false"].map String.toList

namespace Definition

variable (definition : Definition)

/-- A word of a line outside its literal is the name, a word with a meaning or part of a number. -/
theorem mem_words_line {word : Word} (found : word ∈ words (blank definition.line)) :
    word.text ∈ meaningfulWords ∨ word.text = definition.name ∨
      word.text.head?.any Char.isDigit = true := by
  have member : word.text ∈ wordTexts (blank definition.line) := by
    rw [← map_text_words]
    exact List.mem_map_of_mem found
  -- The semicolon ends the last word.
  have ending : wordTexts [] = [] := rfl
  rw [blank, definition.maskWith_line, wordTexts_append_cons (by decide), ending, List.append_nil,
    wordTexts_statementIn, List.mem_append, List.mem_cons] at member
  -- A word is one of the type, the name itself or one of the value.
  rcases member with inType | named | inValue
  · have listed : word.text ∈ DataType.all.flatMap DataType.words :=
      List.mem_flatMap.mpr ⟨definition.type, definition.type.mem_all, inType⟩
    exact .inl (List.mem_append_left _ listed)
  · exact .inr (.inl named)
  · -- A value shows a truth word or the words of a number, and a quoted one shows nothing.
    cases valued : definition.value with
    | none => simp [valued] at inValue
    | some literal =>
      rw [valued] at inValue
      rcases (definition.written valued).mem_wordTexts_blank inValue with same | same | digit
      · exact .inl (List.mem_append_right _ (by simp [same]))
      · exact .inl (List.mem_append_right _ (by simp [same]))
      · exact .inr (.inr digit)

/-- A line names one type. -/
theorem mixedTypes_line : MixedTypes.check definition.line = [] := by
  -- The semicolon cuts the line into the statement and nothing.
  have cut : splitTop (· == ';') (blank definition.line) =
      [definition.statementIn (maskWith [' ']), []] := by
    have flat : Flat (· == ';') (definition.statementIn (maskWith [' '])) :=
      definition.flat_statementIn fun _ valued => (definition.written valued).blanked
    rw [blank, definition.maskWith_line, splitTop, cutTop_semicolon flat.settled []]
    rfl
  -- Neither the name nor the words of the value are type words.
  have types : MixedTypes.typesIn (definition.statementIn (maskWith [' '])) =
      distinct definition.type.words := by
    have typed : definition.type.words.filter Vocabulary.isTypeWord = definition.type.words := by
      cases definition.type <;> decide
    have untyped : (definition.value.elim [] fun literal =>
        wordTexts (maskWith [' '] literal)).filter Vocabulary.isTypeWord = [] := by
      rw [List.filter_eq_nil_iff]
      intro word member
      -- The words of a number start with a digit, as no type word does.
      cases valued : definition.value with
      | none => simp [valued] at member
      | some literal =>
        rw [valued] at member
        have digits : ∀ word ∈ Vocabulary.typeWords, word.head?.any Char.isDigit = false := by
          decide
        rcases (definition.written valued).mem_wordTexts_blank member with rfl | rfl | digit
        · decide
        · decide
        · intro listed
          rw [digits word (by simpa [Vocabulary.isTypeWord] using listed)] at digit
          cases digit
    rw [MixedTypes.typesIn, map_text_words, wordTexts_statementIn, List.filter_append, typed,
      List.filter_cons, definition.nameable.untyped, untyped]
    simp
  -- The words of one type may stand together, and nothing stands behind the semicolon.
  have allowed : MixedTypes.isAllowed (distinct definition.type.words) = true := by
    cases definition.type <;> decide
  have nothing : MixedTypes.typesIn [] = [] := by decide
  have fine : MixedTypes.isAllowed [] = true := rfl
  simp [MixedTypes.check, cut, types, allowed, nothing, fine]

/-- Every reserved word of a line is in lower case. -/
theorem keywordCase_line : KeywordCase.check definition.line = [] := by
  rw [KeywordCase.check, List.filterMap_eq_nil_iff]
  intro word found
  have lower : ∀ word ∈ meaningfulWords, Vocabulary.reservedForm? word = some word := by decide
  -- A word that means something is in lower case, and the other words are not reserved.
  rcases definition.mem_words_line found with listed | named | digit
  · simp [lower word.text listed]
  · simp [named, definition.nameable.reservedForm?]
  · simp [Word.isNamed_of_isDigit digit]

/-- A line neither starts nor ends with white space. -/
theorem trim_line : trim definition.line = definition.line := by
  -- The line starts like its statement and ends with the semicolon.
  refine trim_of_ends ?_ ?_
  · have first := definition.ends_statement.1
    have some : definition.statement ≠ [] := by simp [statement, statementIn]
    obtain ⟨c, rest, shown⟩ := List.exists_cons_of_ne_nil some
    simpa [line, shown] using first
  · have last : definition.line.getLast? = some ';' := by simp [line]
    rw [last]
    decide

/-- A line ends with its semicolon. -/
theorem semicolon_line : Semicolon.check definition.line = [] := by
  -- The semicolon is one of the characters that end a complete line.
  have last : definition.line.getLast? = some ';' := by simp [line]
  have ending : (some ';').any "{};)".toList.contains = true := by decide
  have complete : Semicolon.isComplete definition.line = true := by
    simp only [Semicolon.isComplete, last, ending, Bool.or_true, Bool.true_or]
  rw [Semicolon.check, definition.trim_line, if_pos complete]

/-- The characters of a line outside its literal. -/
theorem mem_mask_line {c : Char} (member : c ∈ mask definition.line) :
    isPlain c = true ∨ isQuote c = true ∨ c = ' ' ∨ c = '=' ∨ c = ';' := by
  rw [mask, definition.maskWith_line, statementIn, declaredIn] at member
  simp only [List.append_assoc, List.cons_append, List.mem_append, List.mem_cons,
    List.not_mem_nil, or_false] at member
  -- From left to right: the type, a blank, the name, the value and the semicolon.
  rcases member with inType | rfl | inName | inValue | rfl
  · rcases definition.type.plain_spelling c inType with plain | rfl
    · exact .inl plain
    · decide
  · decide
  · exact .inl (definition.nameable.plain c inName)
  · cases valued : definition.value with
    | none => simp [valued] at inValue
    | some literal =>
      rw [valued] at inValue
      -- The masked literal is all that is not known character by character.
      simp only [Option.elim_some, List.mem_cons] at inValue
      rcases inValue with rfl | rfl | rfl | inLiteral
      · decide
      · decide
      · decide
      · rcases (definition.written valued).mem_maskWith inLiteral with plain | quote | rfl
        · exact .inl plain
        · exact .inr (.inl quote)
        · exact .inl (by decide)
  · decide

/-- A line is no branch, and it opens and closes no block. -/
theorem danglingElse_line : ElseTracker.check {} definition.line = ({}, []) := by
  -- What shows of the line starts with the spelling of the type.
  have shown : mask definition.line = definition.type.spelling ++
      ' ' :: (definition.declaredIn (maskWith ['s']) ++ [';']) := by
    rw [mask, definition.maskWith_line, statementIn, List.append_assoc]
    rfl
  -- Braces can stand in the literal only, where they are masked.
  have unbraced : ∀ c ∈ mask definition.line, c ≠ '{' ∧ c ≠ '}' := by
    intro c member
    have tested : ∀ d ∈ ['{', '}'], ¬(isPlain d = true ∨ isQuote d = true ∨ d = ' ' ∨ d = '=' ∨
        d = ';') := by decide
    refine ⟨?_, ?_⟩
    · rintro rfl
      exact tested _ (by decide) (definition.mem_mask_line member)
    · rintro rfl
      exact tested _ (by decide) (definition.mem_mask_line member)
  have unread : ∀ word ∈ leadingWords, after? word (mask definition.line) = none := by
    intro word listed
    rw [shown]
    exact after?_spelling _ listed _
  -- The line starts with its type, which is no control word.
  have headless : LineShape.isBranchHeader (mask definition.line) = false := by
    have absent : ∀ keyword ∈ ["if".toList], after? keyword (mask definition.line) = none := by
      intro keyword listed
      rw [List.mem_singleton.mp listed]
      exact unread _ (by decide)
    rw [LineShape.isBranchHeader, afterBranch?_eq_none (unread _ (by decide)) absent]
    rfl
  -- Neither an else nor a header is at the start, so the tracker has nothing to judge.
  have unstarted : LineShape.startsWithElse (mask definition.line) = false :=
    startsWithWord_eq_false (unread _ (by decide))
  rw [ElseTracker.check_statement (trim_mask definition.trim_line) unbraced headless]
  simp [ElseTracker.ready, ElseTracker.verdict, unstarted]

/-- The literal of a line stands between its only equals sign and its semicolon. -/
theorem skipSpace_of_mask_line {before rest : Text}
    (split : mask definition.line = before ++ '=' :: rest) :
    (skipSpace rest).head? ≠ some ';' := by
  -- In front of the literal there is no equals sign.
  have front : '=' ∉ definition.type.spelling ++ ' ' :: definition.name ++ [' '] := by
    intro member
    rcases List.mem_append.mp member with inFront | gap
    · exact definition.notMem_front (by decide) (by decide) inFront
    · exact absurd gap (by decide)
  -- The value decides whether there is an equals sign at all.
  rw [mask, definition.maskWith_line, statementIn, declaredIn] at split
  cases valued : definition.value with
  | none =>
    -- Without a value the line has no equals sign.
    have member : '=' ∈ definition.type.spelling ++ ' ' :: definition.name ++ [';'] := by
      rw [valued] at split
      simp only [Option.elim_none, List.append_nil] at split
      simp [split]
    rcases List.mem_append.mp member with inFront | inEnd
    · exact absurd (List.mem_append_left _ inFront) front
    · exact absurd inEnd (by decide)
  | some literal =>
    have written := definition.written valued
    have shown : definition.type.spelling ++ ' ' :: definition.name ++ [' '] ++
        '=' :: ' ' :: (maskWith ['s'] literal ++ [';']) = before ++ '=' :: rest := by
      simpa [valued] using split
    -- The masked literal has no equals sign, no white space and no semicolon.
    have characters : ∀ c ∈ maskWith ['s'] literal, c ≠ '=' ∧ isSpace c = false ∧ c ≠ ';' := by
      intro c member
      rcases written.mem_maskWith member with plain | quote | rfl
      · exact ⟨ne_of_class plain (by decide), (outside_of_isPlain plain).1,
          ne_of_class plain (by decide)⟩
      · exact forall_isQuote quote (by decide) (by decide)
      · decide
    have behind : '=' ∉ ' ' :: (maskWith ['s'] literal ++ [';']) := by
      simp only [List.mem_cons, List.mem_append, List.not_mem_nil, or_false]
      rintro (gap | inside | ending)
      · exact absurd gap (by decide)
      · exact (characters _ inside).1 rfl
      · exact absurd ending (by decide)
    -- So the equals sign that was found is the one in front of the literal.
    obtain ⟨-, -, same⟩ := (List.append_cons_inj_of_notMem front behind).mp shown
    -- The literal is not empty, and masking keeps its length.
    have some : maskWith ['s'] literal ≠ [] := by
      have length := length_mask literal
      intro empty
      rw [mask, empty] at length
      exact written.ends.1 (List.length_eq_zero_iff.mp length.symm)
    obtain ⟨c, more, masked⟩ := List.exists_cons_of_ne_nil some
    obtain ⟨-, unspaced, other⟩ := characters c (by simp [masked])
    rw [← same, masked]
    simpa [skipSpace, unspaced, show isSpace ' ' = true by decide] using other

/-- Something stands right of the equals sign of a line. -/
theorem emptyInitializer_line : RightHandSide.checkEmpty definition.line = [] := by
  have nowhere : anywhere (mask definition.line) RightHandSide.emptyAt = false := by
    -- The rule fires at an equals sign with a semicolon behind it.
    refine anywhere_eq_false fun before after split => ?_
    -- Behind the equals sign the literal comes first, which is no semicolon.
    have read : (after? ['='] after).any (fun rest => (skipSpace rest).head? == some ';') =
        false := by
      rw [Option.any_eq_false]
      intro rest found
      rw [eq_append_of_after? found] at split
      simpa using definition.skipSpace_of_mask_line split
    simp [RightHandSide.emptyAt, read]
  simp [RightHandSide.checkEmpty, nowhere]

/-- Every name of a line is reserved or declared by the line. -/
theorem undeclared_line (table : SymbolTable) : Undeclared.check table definition.line = [] := by
  rw [Undeclared.check]
  split
  · rfl
  · simp only [List.map_eq_nil_iff, List.filter_eq_nil_iff]
    -- Every name comes from a word of the line.
    intro name listed
    obtain ⟨word, found, rfl⟩ := List.mem_map.mp (mem_distinct.mp listed)
    obtain ⟨spelled, bare⟩ := List.mem_filter.mp found
    have reserved : ∀ word ∈ meaningfulWords, Vocabulary.isReserved word = true := by decide
    rcases definition.mem_words_line spelled with listed | named | digit
    · simp [reserved word.text listed]
    · simp [named, definition.namesOn_line]
    · -- A number is not spelled like a name.
      simp [Word.isBareName, Word.isNamed_of_isDigit digit] at bare

/-- The name of a definition may be declared. -/
theorem nameFault?_name : Declaration.nameFault? definition.name = none := by
  obtain ⟨some, start, run⟩ := definition.nameable.named
  obtain ⟨c, rest, named⟩ := List.exists_cons_of_ne_nil some
  have first : isNameStart c = true := by simpa [named] using start
  -- All characters may stand in a name, so that there is no first one that may not.
  have others : rest.dropWhile isNameChar = [] :=
    List.dropWhile_eq_nil_iff.mpr fun d member => run d (by simp [named, member])
  -- No reserved word is a variable's name.
  have unreserved := definition.nameable.isReserved
  rw [named] at unreserved
  simp [named, Declaration.nameFault?, unreserved, first, others]

/-- The value of a definition fits its type, unless it is the name of something else. -/
theorem isValid_value {literal : Text} (valued : definition.value = some literal)
    {table : SymbolTable} (nameless : table.lookup literal = none) :
    Value.isValid (.known definition.type) literal table = true := by
  -- The table does not know the text as a name, so that it is judged as a literal.
  obtain ⟨some, first, last⟩ := (definition.written valued).ends
  have fits := (definition.fitting literal valued).isLiteralOf
  simp [Value.isValid, trim_of_ends first last, some, nameless, fits]

/-- A line enters its variable into the table. -/
theorem enterLine_line (registration : Registration) {table : SymbolTable}
    (fresh : table.lookupCurrent definition.name = none)
    (nameless : ∀ literal, definition.value = some literal → table.lookup literal = none) :
    registration.enterLine table definition.line =
      (table.declare (definition.symbol registration.line), []) := by
  -- The value is not empty, and it fits the type.
  have given : (definition.value == some []) = false := by
    rw [beq_eq_false_iff_ne]
    intro empty
    exact (definition.written empty).ends.1 rfl
  have fits : (definition.value.all fun value =>
      Value.isValid (.known definition.type) value table) = true := by
    rw [Option.all_eq_true]
    exact fun literal valued => definition.isValid_value valued (nameless literal valued)
  -- Every test of a declaration is decided by now.
  simp only [Registration.enterLine, definition.effective_line, SymbolTable.runAll,
    Registration.enter, definition.nameless?_statement, definition.parse?_statement,
    Registration.declare, definition.nameFault?_name, given, fresh, fits, Option.isSome_none,
    Bool.false_eq_true, if_false, if_true, List.append_nil]
  rfl

/-- On a line that defines a new variable no rule finds anything, and the variable is entered. -/
theorem runRules_line (registration : Registration) {table : SymbolTable}
    (fresh : table.lookupCurrent definition.name = none)
    (nameless : ∀ literal, definition.value = some literal → table.lookup literal = none) :
    Validator.runRules registration definition.line ⟨table, {}⟩
        (Validator.selectRules false Rule.all) =
      (⟨table.declare (definition.symbol registration.line), {}⟩, []) := by
  -- These are the rules for a line outside the main function, in their order.
  have selected : Validator.selectRules false Rule.all =
      [.mixedTypes, .stringArithmetic, .danglingElse, .keywordCase, .missingSemicolon,
        .emptyInitializer, .undeclaredIdentifier, .declarations] := rfl
  -- Each of them is silent, and only the last one touches the table.
  simp only [selected, Validator.runRules, Rule.check, Rule.breaksCircuit,
    definition.mixedTypes_line, definition.stringArithmetic_line, definition.danglingElse_line,
    definition.keywordCase_line, definition.semicolon_line, definition.emptyInitializer_line,
    definition.undeclared_line, definition.enterLine_line registration fresh nameless,
    List.isEmpty_nil, Bool.not_true, Bool.and_false, Bool.false_eq_true, if_false,
    List.append_nil]

end Definition

end SourceLint
