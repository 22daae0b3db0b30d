import SourceLint.Proofs.Locating.Header

/-!
Sources without the word for the main function.

No main function is found in them. They are still said to have a malformed one when a longer word
starts with the same letters and a parenthesis opens behind it on the same line.
-/

namespace SourceLint

open Text

/-- A word stands in a text, and no character of a word stands on either side of it. -/
def Text.HasWord (word text : Text) : Prop :=
  ∃ front back, text = front ++ (word ++ back) ∧ front.getLast?.any isWord = false ∧
    back.head?.any isWord = false

/-- The word for the main function is found where it stands. -/
theorem MainFunction.hasMainWord_iff_hasWord (masked : Text) :
    hasMainWord masked = true ↔ HasWord "main".toList masked := by
  rw [hasMainWord_eq, anywhere_iff]
  constructor
  · rintro ⟨front, after, split, met⟩
    rw [wordTest, Bool.and_eq_true, Bool.not_eq_true', Position.follows, List.head?_reverse,
      Option.any_eq_true] at met
    obtain ⟨outside, back, read, ends⟩ := met
    -- The test reads the word and looks at the characters around it.
    have parts : after = "main".toList ++ back := eq_append_of_after? read
    exact ⟨front, back, by rw [split, parts], outside, by simpa using ends⟩
  · -- Where the word stands, the test reads it and finds no word around it.
    rintro ⟨front, back, split, outside, ends⟩
    refine ⟨front, "main".toList ++ back, split, ?_⟩
    rw [wordTest, Position.follows, List.head?_reverse, outside, after?_append, Option.any_some,
      ends]
    rfl

/-- A header holds the word for the main function. -/
theorem MainHeader.Occurs.hasWord {masked : Text} {header : MainHeader}
    (occurs : header.Occurs masked) : HasWord "main".toList masked := by
  obtain ⟨front, text, back, rfl, -, -, complete, -⟩ := occurs
  obtain ⟨space, gap, parameters, rfl, some, spaces, blank, -⟩ := complete
  refine ⟨front ++ (header.returnType ++ space), gap ++ '(' :: (parameters ++ [')'] ++ back),
    by simp, ?_, ?_⟩
  · -- White space stands in front of the word.
    obtain ⟨lead, c, rfl⟩ := List.eq_nil_or_concat space |>.resolve_left some
    rw [List.concat_eq_append, ← List.append_assoc, ← List.append_assoc, List.getLast?_concat]
    exact isWord_of_isSpace (spaces c (by simp))
  · -- White space or the parenthesis stands behind it.
    cases gap with
    | nil => rfl
    | cons c gap => exact isWord_of_isSpace (blank c (by simp))

namespace MainFunction

/--
A longer word starts like the one for the main function, and a parenthesis opens behind it.

Both stand on one line of the text.
-/
def OpensLonger (masked : Text) : Prop :=
  ∃ front c middle back, masked = front ++ ("main".toList ++ c :: (middle ++ '(' :: back)) ∧
    front.getLast?.any isWord = false ∧ isWord c = true ∧ '\n' ∉ middle

/-- A parenthesis is met on a line exactly when there is one. -/
theorem head?_dropWhile_iff (text : Text) :
    ((text.dropWhile fun c => c != '(' && c != '\n').head? == some '(') = true ↔
      ∃ middle back, text = middle ++ '(' :: back ∧ '\n' ∉ middle := by
  -- By induction on the text: the run ends at a parenthesis or at the end of the line.
  induction text with
  | nil => simp
  | cons c text ih =>
    by_cases paren : c = '('
    · subst paren
      exact iff_of_true rfl ⟨[], text, rfl, by simp⟩
    · by_cases broken : c = '\n'
      · -- The line ends in front of any parenthesis.
        subst broken
        refine iff_of_false (by simp) ?_
        rintro ⟨middle, back, split, unbroken⟩
        cases middle with
        | nil => cases split
        | cons d middle => exact unbroken ((List.cons_eq_cons.mp split).1 ▸ List.mem_cons_self)
      · -- Any other character stands in front of the parenthesis on the same line.
        rw [List.dropWhile_cons_of_pos (by simp [paren, broken]), ih]
        constructor
        · rintro ⟨middle, back, rfl, unbroken⟩
          exact ⟨c :: middle, back, rfl, by simpa [Ne.symm broken] using unbroken⟩
        · rintro ⟨middle, back, split, unbroken⟩
          cases middle with
          | nil => exact absurd (List.cons_eq_cons.mp split).1 paren
          | cons d middle =>
            exact ⟨middle, back, (List.cons_eq_cons.mp split).2, fun member =>
              unbroken (List.mem_cons_of_mem d member)⟩

/-- Where a word goes on, neither white space nor a closing parenthesis is skipped. -/
theorem opened_behind_word {c : Char} (word : isWord c = true) (more : Text) :
    (let rest := skipSpace (c :: more)
     (rest.dropWhile fun c => c != '(' && c != '\n').head? == some '(' ||
        (after? [')'] rest).any fun rest => (skipSpace rest).head? == some '(') = true ↔
      ∃ middle back, more = middle ++ '(' :: back ∧ '\n' ∉ middle := by
  have paren : c ≠ '(' := ne_of_class word (by decide)
  have broken : c ≠ '\n' := ne_of_class word (by decide)
  have closing : c ≠ ')' := ne_of_class word (by decide)
  -- The parenthesis can only be found further on in the line.
  rw [skipSpace_of_head (by simpa using isSpace_of_isWord word), ← head?_dropWhile_iff]
  simp [after?, paren, broken, Ne.symm closing]

/-- Without the word a header counts as malformed when a longer word starts like it. -/
theorem anywhere_malformedAt_iff {masked : Text} (wordless : ¬ HasWord "main".toList masked) :
    anywhere masked malformedAt = true ↔ OpensLonger masked := by
  rw [anywhere_iff]
  constructor
  · -- The test finds the letters, with a parenthesis behind them on the line.
    rintro ⟨front, after, split, met⟩
    rw [malformedAt, Bool.and_eq_true, Bool.not_eq_true', Position.follows, List.head?_reverse,
      Option.any_eq_true] at met
    obtain ⟨outside, rest, read, opened⟩ := met
    have parts : after = "main".toList ++ rest := eq_append_of_after? read
    have whole : masked = front ++ ("main".toList ++ rest) := by rw [split, parts]
    cases rest with
    | nil => exact absurd ⟨front, [], whole, outside, rfl⟩ wordless
    | cons c more =>
      -- Only a longer word goes on behind the letters.
      by_cases word : isWord c = true
      · obtain ⟨middle, back, rfl, unbroken⟩ := (opened_behind_word word more).mp opened
        exact ⟨front, c, middle, back, whole, outside, word, unbroken⟩
      · exact absurd ⟨front, c :: more, whole, outside, by simpa using word⟩ wordless
  · -- A longer word has the letters at its start, and the test goes on behind them.
    rintro ⟨front, c, middle, back, split, outside, word, unbroken⟩
    refine ⟨front, _, split, ?_⟩
    rw [malformedAt, Bool.and_eq_true, Bool.not_eq_true', Position.follows, List.head?_reverse,
      after?_append, Option.any_some, opened_behind_word word]
    exact ⟨outside, middle, back, rfl, unbroken⟩

/-- Without the word no main function is found, and only a longer word looks like a header. -/
theorem locate_wordless (required : Bool) {source : Text}
    (wordless : ¬ HasWord "main".toList (maskSource source)) :
    (OpensLonger (maskSource source) → locate required source = .faulty .malformedMain) ∧
      (¬ OpensLonger (maskSource source) →
        locate required source = if required then .faulty .noMain else .absent) := by
  -- A header would hold the word, so the search meets none.
  have headless : MainHeader.all (maskSource source) = [] := by
    rw [MainHeader.all_eq, List.map_eq_nil_iff, MainHeader.sites_eq_nil_iff]
    exact fun header occurs => wordless occurs.hasWord
  have named : hasMainWord (maskSource source) = false := by
    rw [← Bool.not_eq_true, hasMainWord_iff_hasWord]
    exact wordless
  have located : locate required source = missing required (maskSource source) := by
    unfold locate
    simp only [headless]
  -- What is left are the two messages about a missing function.
  rw [located, missing, named, ← anywhere_malformedAt_iff wordless]
  constructor
  · intro malformed
    rw [if_pos malformed]
  · intro sound
    rw [if_neg sound, if_neg (by simp)]

/--
A source without the word for the main function has none, which is an error if one is required.

Nothing else is said about its outline, unless a longer word starts with the same letters and a
parenthesis opens behind it on the same line. Then the header is called malformed.
-/
theorem examine_wordless (scan : Scan) (required : Bool) {source : Text}
    (wordless : ¬ HasWord "main".toList (maskSource source)) (globals : SymbolTable) (log : Log) :
    (∀ main, locate required source ≠ .found main) ∧
      (¬ OpensLonger (maskSource source) → examine scan required source globals log =
        (if required then log.report ⟨.error, .program, none, "No main() function found."⟩ else log,
          [])) ∧
      (OpensLonger (maskSource source) → examine scan required source globals log =
        (log.report Finding.malformedMain.inProgram, [])) := by
  obtain ⟨malformed, sound⟩ := locate_wordless required wordless
  -- The search has the same two outcomes.
  refine ⟨fun main found => ?_, fun short => ?_, fun longer => ?_⟩
  · by_cases longer : OpensLonger (maskSource source)
    · rw [malformed longer] at found
      cases found
    · rw [sound longer] at found
      cases required <;> cases found
  · rw [examine, sound short]
    cases required <;> rfl
  · rw [examine, malformed longer]

/-- Words that hold the same letters elsewhere do not matter, and neither does a literal. -/
theorem examine_wordless_inside :
    let source := "int domain = remains(2);\nstring s = \"main()\";".toList
    ¬ HasWord "main".toList (maskSource source) ∧ ¬ OpensLonger (maskSource source) ∧
      examine {} true source {} {} =
        (({} : Log).report ⟨.error, .program, none, "No main() function found."⟩, []) := by
  -- Both questions can be evaluated on the view of the source.
  intro source
  have wordless : ¬ HasWord "main".toList (maskSource source) := by
    rw [← hasMainWord_iff_hasWord]
    decide
  have short : ¬ OpensLonger (maskSource source) := by
    rw [← anywhere_malformedAt_iff wordless]
    decide
  exact ⟨wordless, short, (examine_wordless {} true wordless {} {}).2.1 short⟩

/-- The prototype of a function with a longer name is called a malformed main function. -/
theorem longer_word_reported :
    let source := "void mainLoop();".toList
    ¬ HasWord "main".toList (maskSource source) ∧
      (examine {} false source {} {}).1.entries = [Finding.malformedMain.inProgram] := by
  -- The letters are followed by a letter, so they are not the word.
  intro source
  have wordless : ¬ HasWord "main".toList (maskSource source) := by
    rw [← hasMainWord_iff_hasWord]
    decide
  exact ⟨wordless, by decide⟩

end MainFunction

end SourceLint
