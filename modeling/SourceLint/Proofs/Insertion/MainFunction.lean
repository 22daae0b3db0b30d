import SourceLint.Proofs.Insertion.MainHeader

/-! The search for the main function with and without one more character at the edge of a line. -/

namespace SourceLint

open Text

/-- Whether a word that may be tested further starts at a place. -/
def wordTest (word : Text) (test : Text → Bool) (place : Position) : Bool :=
  !place.follows isWord && (after? word place.after).any test

/-- The word for the main function is looked for at every place. -/
theorem hasMainWord_eq (masked : Text) : MainFunction.hasMainWord masked =
    anywhere masked (wordTest "main".toList fun rest => !rest.head?.any isWord) := by
  -- Both ask at every place for a word that starts there.
  have letters : ∀ c ∈ "main".toList, isWord c = true := by decide
  rw [MainFunction.hasMainWord, words, anywhere, List.any_filterMap]
  refine congrArg (List.any _) (funext fun place => ?_)
  -- Being the word and being read up to a character that ends it is the same.
  rw [wordTest, ← takeWhile_isWord_beq letters, wordAt?]
  -- Behind a character of a word no word starts, and otherwise it ends where its characters do.
  cases place.follows isWord with
  | true => simp
  | false =>
    cases head : place.after with
    | nil => rfl
    | cons c rest => by_cases inside : isWord c = true <;> simp [inside]

section Anywhere

variable {front back : Text} {shown : Char} {word : Text} {test : Text → Bool}

/-- Of what stands before a text only the question matters whether a word continues there. -/
theorem any_wordTest_congr {before other : Text}
    (same : before.head?.any isWord = other.head?.any isWord) (text : Text) :
    (positionsFrom before text).any (wordTest word test) =
      (positionsFrom other text).any (wordTest word test) := by
  have here : wordTest word test ⟨before, text⟩ = wordTest word test ⟨other, text⟩ := by
    rw [wordTest, wordTest, Position.follows, Position.follows, same]
  -- From the second place on both texts are preceded by the same character.
  induction text generalizing before other with
  | nil => simp [positionsFrom, here]
  | cons c rest ih =>
    have later := @ih (c :: before) (c :: other) rfl rfl
    simp [positionsFrom, here, later]

/-- Where the character stands, no solid word starts on one side alone. -/
theorem any_wordTest_gap (gap : Gap front back shown) (solid : Solid word) :
    (positionsFrom front.reverse back).any (wordTest word test) =
      (positionsFrom front.reverse (shown :: back)).any (wordTest word test) := by
  -- The inserted character is white space or fills a literal, so it starts no such word.
  obtain ⟨c, tail, rfl⟩ := List.exists_cons_of_ne_nil solid.1
  have unread : wordTest (c :: tail) test ⟨front.reverse, shown :: back⟩ = false := by
    rw [wordTest, after?, if_neg (gap.ne_of_solid solid (by simp))]
    simp
  rw [positionsFrom, List.any_cons, unread, Bool.false_or]
  -- The character ends a line, where no solid word starts, or it stands at the start of one.
  rcases gap.sides with ends | ⟨space, starts⟩
  · have absent : ∀ before, wordTest (c :: tail) test ⟨before, back⟩ = false := by
      intro before
      rw [wordTest, after?_of_ends (solid.2 c (by simp)).1 tail ends]
      simp
    rcases ends with rfl | ⟨more, rfl⟩
    · simp [positionsFrom, absent]
    · rw [positionsFrom, positionsFrom, List.any_cons, List.any_cons, absent, absent]
      exact congrArg _ (any_wordTest_congr (by rfl) more)
  · -- At the start of a line both sides have white space in front, so a word may start there.
    refine any_wordTest_congr ?_ back
    have broken : isWord '\n' = false := by decide
    have spaced : isWord shown = false := isWord_of_isSpace space
    rcases starts with rfl | ⟨more, rfl⟩ <;> simp [broken, spaced]

/-- A test of what follows a solid word succeeds on both sides or on neither. -/
theorem anywhere_insert (gap : Gap front back shown) (solid : Solid word)
    (same : ∀ {text other}, Rest front back shown text other → test text = test other) :
    anywhere (front ++ back) (wordTest word test) =
      anywhere (front ++ shown :: back) (wordTest word test) := by
  -- The places in front of the character are compared one by one.
  have general : ∀ before part : Text, front = before ++ part →
      (positionsFrom before.reverse (part ++ back)).any (wordTest word test) =
        (positionsFrom before.reverse (part ++ shown :: back)).any (wordTest word test) := by
    intro before part whole
    -- By induction on the part of the front that is still to be passed.
    induction part generalizing before with
    | nil =>
      rw [List.append_nil] at whole
      exact whole ▸ any_wordTest_gap gap solid
    | cons c part ih =>
      have later := ih (before ++ [c]) (by simp [whole])
      rw [List.reverse_append, List.reverse_singleton, List.singleton_append] at later
      -- At a place in front of the character the word is read on both sides or on neither.
      have here : (after? word (c :: part ++ back)).any test =
          (after? word (c :: part ++ shown :: back)).any test := by
        have rest := @Rest.inside front back shown before (c :: part) whole (by simp)
        have read := rest.after? gap solid
        generalize after? word (c :: part ++ back) = left at read
        generalize after? word (c :: part ++ shown :: back) = right at read
        cases read with
        | none => rfl
        | some related => exact same related
      rw [List.cons_append, List.cons_append] at here
      simp only [List.cons_append, positionsFrom, List.any_cons, later, wordTest, here]
      rfl
  exact general [] front rfl

end Anywhere

namespace Rest

variable {front back : Text} {shown : Char} {text other : Text}

/-- What is left starts with the same character on both sides, or one side is at a line end. -/
theorem head (rest : Rest front back shown text other) :
    text.head? = other.head? ∨ (text = [] ∨ text.head? = some '\n') ∧
      ∃ c, other.head? = some c ∧ isSpace c = true := by
  -- What is left on both sides starts in front of the character, at it or behind it.
  cases rest with
  | @inside _ part _ nonempty =>
    obtain ⟨c, more, rfl⟩ := List.exists_cons_of_ne_nil nonempty
    exact .inl rfl
  -- The inserted character is what one side starts with, and the other one is at a line end.
  | next space ends =>
    refine .inr ⟨ends.imp id ?_, shown, rfl, space⟩
    rintro ⟨more, rfl⟩
    rfl
  | behind => exact .inl rfl

/-- Both sides start with a given character or neither does, unless it is white space. -/
theorem head_beq (rest : Rest front back shown text other) {c : Char}
    (solid : isSpace c = false) : (text.head? == some c) = (other.head? == some c) := by
  rcases rest.head with same | ⟨ends, d, head, space⟩
  · rw [same]
  · -- Both sides start with white space, if with anything.
    -- The side at the end of a line starts with its break.
    have left : (text.head? == some c) = false := by
      have broken : isSpace '\n' = true := by decide
      rcases ends with rfl | first
      · rfl
      · rw [first]
        simp only [Option.some_beq_some, beq_eq_false_iff_ne]
        rintro rfl
        simp_all
    -- The other side starts with the inserted white space.
    have right : (other.head? == some c) = false := by
      rw [head]
      simp only [Option.some_beq_some, beq_eq_false_iff_ne]
      rintro rfl
      simp_all
    rw [left, right]

/-- A word continues on both sides or on neither. -/
theorem head_isWord (rest : Rest front back shown text other) :
    text.head?.any isWord = other.head?.any isWord := by
  rcases rest.head with same | ⟨ends, d, head, space⟩
  · rw [same]
  · -- White space continues no word.
    have broken : isWord '\n' = false := by decide
    rw [head]
    rcases ends with rfl | first
    · simp [isWord_of_isSpace space]
    · simp [first, isWord_of_isSpace space, broken]

/-- Behind the rest of a line both sides start with a given character or neither does. -/
theorem line_head (gap : Gap front back shown) (rest : Rest front back shown text other) {c : Char}
    (solid : Solid [c]) :
    ((text.dropWhile fun d => d != c && d != '\n').head? == some c) =
      ((other.dropWhile fun d => d != c && d != '\n').head? == some c) := by
  have differs : shown ≠ c := Ne.symm (gap.ne_of_solid solid (by simp))
  have unbroken : '\n' ≠ c := by
    rintro rfl
    exact absurd (solid.2 '\n' (by simp)).1 (by decide)
  -- At the end of a line the character is not what is looked for, and nothing follows it.
  have ended : (back = [] ∨ ∃ more, back = '\n' :: more) →
      ((back.dropWhile fun d => d != c && d != '\n').head? == some c) =
        (((shown :: back).dropWhile fun d => d != c && d != '\n').head? == some c) := by
    -- At the end of the text in front only the inserted character could be what is looked for.
    rintro (rfl | ⟨more, rfl⟩)
    · by_cases broken : shown = '\n' <;> simp [differs, broken, unbroken]
    · by_cases broken : shown = '\n' <;> simp [differs, broken]
  cases rest with
  | @inside before part split nonempty =>
    -- If the run stops inside the front text, both sides stop there.
    by_cases left : (part.dropWhile fun d => d != c && d != '\n') = []
    · rw [List.dropWhile_append, List.dropWhile_append, left]
      refine ended (gap.sides.resolve_right ?_)
      rintro ⟨-, starts⟩
      obtain ⟨init, d, rfl⟩ := List.eq_nil_or_concat part |>.resolve_left nonempty
      have passes := List.dropWhile_eq_nil_iff.mp left d (by simp)
      rcases starts with rfl | ⟨more, rfl⟩
      · simp at split
      · rw [List.concat_eq_append, ← List.append_assoc] at split
        obtain rfl : '\n' = d := by simpa using (List.append_inj' split rfl).2
        simp at passes
    · rw [(takeWhile_append_ended left back).2, (takeWhile_append_ended left _).2]
      -- The run stops inside the front text, at the same character on both sides.
      obtain ⟨d, more, first⟩ := List.exists_cons_of_ne_nil left
      rw [first]
      rfl
  | next space ends => exact ended ends
  | behind => rfl

end Rest

namespace MainFunction

variable {front back : Text} {shown : Char}

/-- What is said about a source without a header is the same on both sides. -/
theorem missing_insert (gap : Gap front back shown) (required : Bool) :
    missing required (front ++ back) = missing required (front ++ shown :: back) := by
  have word : Solid "main".toList := ⟨by decide, by decide⟩
  -- Either test looks at what follows the word, up to a bracket or the end of the line.
  have malformed : anywhere (front ++ back) malformedAt =
      anywhere (front ++ shown :: back) malformedAt := by
    refine anywhere_insert gap word fun {text other} rest => ?_
    have skipped := rest.skipSpace gap
    have closed : (after? [')'] (skipSpace text)).any (fun rest =>
        (skipSpace rest).head? == some '(') = (after? [')'] (skipSpace other)).any fun rest =>
          (skipSpace rest).head? == some '(' := by
      -- Each reading step keeps the two sides related.
      have read := skipped.after? gap (show Solid [')'] from ⟨by decide, by decide⟩)
      generalize after? [')'] (skipSpace text) = left at read
      generalize after? [')'] (skipSpace other) = right at read
      cases read with
      | none => rfl
      | some related => exact (related.skipSpace gap).head_beq (by decide)
    have opened := skipped.line_head gap (show Solid ['('] from ⟨by decide, by decide⟩)
    exact congrArg₂ or opened closed
  have named : hasMainWord (front ++ back) = hasMainWord (front ++ shown :: back) := by
    rw [hasMainWord_eq, hasMainWord_eq]
    exact anywhere_insert gap word fun rest => congrArg _ rest.head_isWord
  -- The view has the word on one side iff it has it on the other one.
  rw [missing, missing, malformed, named]

end MainFunction

end SourceLint
