import SourceLint.Proofs.Masked.Places
import SourceLint.Proofs.Text.Scanning
import SourceLint.Rule.Semicolon

/-!
Missing semicolons beside literals.

What starts a line shows in its masked view. How a line ends and whether it has a call and a body is
looked up in the line itself, so a literal that is left open, or that holds brackets, may pass for
the end of a statement.
-/

namespace SourceLint.Semicolon

open Text

/-- Whether the start of a line, or the lack of one, says that no semicolon is needed. -/
def isSettled (line : Text) : Bool :=
  line.isEmpty || LineShape.isDirective line || headerWords.any (startsWithWord · line) ||
    (afterName? line).any fun rest => skipSpace rest == [':']

/-- Whether a line looks like a definition with a body, like a case or like a finished line. -/
def looksComplete (line : Text) : Bool :=
  (hasBody line && hasCall line) || line.getLast?.any "{};)".toList.contains ||
    (startsWithWord "case".toList line && endsWith ':' line &&
      (line.drop 4).dropLast.all sameLine)

/-- A trimmed line may end as it does by its start or by what it looks like. -/
theorem isComplete_eq {line : Text} (trimmed : trim line = line) :
    isComplete line = (isSettled line || looksComplete line) := by
  -- The same tests in another order.
  rw [isComplete, LineShape.isLabel, trimmed, isSettled, looksComplete]
  ac_rfl

/-- What the start of a line says shows. -/
theorem isSettled_mask (line : Text) : isSettled (mask line) = isSettled line := by
  -- All four tests show: the empty line, the directive, the header word and the label.
  have empty : (mask line).isEmpty = line.isEmpty := by
    rw [Bool.eq_iff_iff, List.isEmpty_iff_length_eq_zero, List.isEmpty_iff_length_eq_zero,
      length_mask]
  have header : headerWords.any (startsWithWord · (mask line)) =
      headerWords.any (startsWithWord · line) := by
    have plain : ∀ word ∈ headerWords, ∀ c ∈ word, isQuote c = false := by decide
    rw [Bool.eq_iff_iff, List.any_eq_true, List.any_eq_true]
    exact exists_congr fun word => and_congr_right fun listed => by
      rw [startsWithWord_mask (plain word listed)]
  -- A colon alone is all there is in both, or in neither.
  have single : ∀ text : Text, (mask text == [':']) = (text == [':']) := by
    intro text
    rw [Bool.eq_iff_iff, beq_iff_eq, beq_iff_eq]
    constructor
    · intro view
      have size := congrArg List.length view
      rw [length_mask] at size
      obtain ⟨c, rfl⟩ := List.length_eq_one_iff.mp size
      have first := head?_mask [c]
      rw [view] at first
      rw [Option.some.inj first]
    · rintro rfl
      rfl
  -- A label is a name with a colon behind it.
  have label : ((afterName? (mask line)).any fun rest => skipSpace rest == [':']) =
      (afterName? line).any fun rest => skipSpace rest == [':'] := by
    rw [afterName?_mask, Option.any_map]
    congr 1
    exact funext fun rest => (congrArg (· == [':']) (skipSpace_mask rest)).trans (single _)
  rw [isSettled, isSettled, empty, LineShape.isDirective_mask, header, label]

/-- A body is a closing parenthesis of the first line, white space and an opening brace. -/
theorem hasBody_iff {line : Text} : hasBody line = true ↔
    ∃ front rest, line = front ++ ')' :: rest ∧ (skipSpace rest).head? = some '{' ∧
      front.all sameLine = true := by
  -- The parenthesis is looked for at every place of the first line.
  rw [hasBody, anywhere_iff]
  constructor
  · rintro ⟨front, after, rfl, met⟩
    dsimp only at met
    rw [Bool.and_eq_true, Option.any_eq_true, List.all_reverse] at met
    obtain ⟨⟨rest, closed, opened⟩, flat⟩ := met
    exact ⟨front, rest, by rw [eq_append_of_after? closed]; rfl, by simpa using opened, flat⟩
  · -- Where such a parenthesis stands, the search meets it.
    rintro ⟨front, rest, rfl, opened, flat⟩
    refine ⟨front, ')' :: rest, rfl, ?_⟩
    simp [after?, opened, flat]

/-- A call is a name of the first line, white space and an opening parenthesis. -/
theorem hasCall_iff {line : Text} : hasCall line = true ↔
    ∃ front word gap back, line = front ++ (word ++ gap ++ '(' :: back) ∧
      front.getLast?.any isWord = false ∧ word.head?.any isNameStart = true ∧
      (∀ c ∈ word, isWord c = true) ∧ (∀ c ∈ gap, isSpace c = true) ∧
      front.all sameLine = true := by
  rw [hasCall, List.any_eq_true]
  constructor
  · rintro ⟨word, listed, met⟩
    rw [Bool.and_eq_true, Bool.and_eq_true, Word.isCalled, beq_iff_eq] at met
    obtain ⟨⟨named, called⟩, flat⟩ := met
    obtain ⟨whole, stops, inside⟩ := split_of_mem_words listed
    obtain ⟨gap, split, blank⟩ := exists_gap_of_skipSpace word.rest
    obtain ⟨back, opened⟩ := List.head?_eq_some_iff.mp called
    -- The word is one of the line, and what is called is its name.
    refine ⟨word.place.before.reverse, word.text, gap, back, ?_, ?_, named, inside, blank, ?_⟩
    · rw [opened] at split
      rw [List.append_assoc, ← split]
      exact whole
    · rw [List.getLast?_reverse]
      cases before : word.place.before with
      | nil => rfl
      | cons c rest =>
        rw [before, List.takeWhile_cons] at stops
        simpa using stops
    · rwa [List.all_reverse]
  · rintro ⟨front, word, gap, back, rfl, stops, named, inside, blank, flat⟩
    -- White space or the parenthesis ends the run of word characters.
    have ended : (gap ++ '(' :: back).head?.any isWord = false := by
      cases gap with
      | nil => rfl
      | cons c gap => simpa using isWord_of_isSpace (blank c (by simp))
    have run : (word ++ gap ++ '(' :: back).takeWhile isWord = word := by
      rw [List.append_assoc, takeWhile_append_stop ended, List.takeWhile_eq_self_iff.mpr inside]
    have left : (word ++ gap ++ '(' :: back).dropWhile isWord = gap ++ '(' :: back := by
      rw [List.append_assoc, dropWhile_append_stop ended, List.dropWhile_eq_nil_iff.mpr inside,
        List.nil_append]
    obtain ⟨c, others, rfl⟩ : ∃ c others, word = c :: others := by
      cases word with
      | nil => cases named
      | cons c others => exact ⟨c, others, rfl⟩
    have starts : wordAt? ⟨front.reverse, (c :: others) ++ gap ++ '(' :: back⟩ =
        some ⟨⟨front.reverse, (c :: others) ++ gap ++ '(' :: back⟩, c :: others,
          gap ++ '(' :: back⟩ := by
      rw [wordAt?, run, left, Position.follows, List.head?_reverse, stops]
      simp [inside c (by simp)]
    -- The word is found at its place, since no word goes on in front of it.
    refine ⟨_, List.mem_filterMap.mpr ⟨_, mem_positions front _, starts⟩, ?_⟩
    have called : skipSpace (gap ++ '(' :: back) = '(' :: back := skipSpace_append blank _
    rw [Bool.and_eq_true, Bool.and_eq_true, Word.isCalled, called]
    exact ⟨⟨named, rfl⟩, by rwa [List.all_reverse]⟩

/-- The characters by which a line is found to be complete. -/
def marks : Text :=
  ['(', ')', '{', '}', ';', ':', '\n']

section Shown

variable {line : Text} (shows : ∀ c ∈ marks, hides line c = false)
include shows

/-- A front of the line is on the first line where its view is. -/
theorem all_sameLine_mask {front rest : Text} (closed : Closed front)
    (whole : line = front ++ rest) : (mask front).all sameLine = front.all sameLine := by
  -- In front of the rest the breaks of the view are those of the line.
  have unbroken := shows '\n' (by decide)
  rw [whole, hides_append closed, Bool.or_eq_false_iff] at unbroken
  have breaks : (mask front).any (· == '\n') = front.any (· == '\n') :=
    any_mask (by decide) fun c same => by rw [eq_of_beq same]; exact unbroken.1
  simp only [List.any_eq_not_all_not, Bool.not_inj_iff] at breaks
  exact breaks

/-- A body shows. -/
theorem hasBody_mask : hasBody (mask line) = hasBody line := by
  rw [Bool.eq_iff_iff, hasBody_iff, hasBody_iff]
  constructor
  · rintro ⟨shown, more, view, opened, flat⟩
    -- White space and the brace are the first that is masked behind the parenthesis.
    obtain ⟨front, back, whole, closed, rfl, rfl⟩ := exists_of_mask (by decide) (by decide) view
    rw [skipSpace_mask, head?_mask] at opened
    exact ⟨front, back, whole, opened, (all_sameLine_mask shows closed whole).symm.trans flat⟩
  · -- Conversely the parenthesis shows, and the same stands behind it.
    rintro ⟨front, back, whole, opened, flat⟩
    obtain ⟨closed, view⟩ := @mask_of_shown ')' (by decide) (by decide) front [] back (by simp)
      (by rw [List.nil_append, ← whole]; exact shows ')' (by decide))
    rw [List.nil_append, ← whole] at view
    refine ⟨mask front, mask back, view, ?_, (all_sameLine_mask shows closed whole).trans flat⟩
    rw [skipSpace_mask, head?_mask, opened]

/-- A call shows. -/
theorem hasCall_mask : hasCall (mask line) = hasCall line := by
  -- A name and white space hold no quotes.
  have plain : ∀ {word gap : Text}, (∀ c ∈ word, isWord c = true) → (∀ c ∈ gap, isSpace c = true) →
      ∀ c ∈ word ++ gap, isQuote c = false := fun inside blank c member =>
    (List.mem_append.mp member).elim (fun here => isQuote_of_isWord (inside c here))
      fun here => isQuote_of_isSpace (blank c here)
  rw [Bool.eq_iff_iff, hasCall_iff, hasCall_iff]
  constructor
  · rintro ⟨shown, word, gap, more, view, stops, named, inside, blank, flat⟩
    -- The line has the parenthesis, and in front of it the same name, not a part of a literal.
    rw [← List.append_assoc] at view
    obtain ⟨before, back, whole, outside, own, -⟩ := exists_of_mask (by decide) (by decide) view
    obtain ⟨front, rfl, closed, rfl⟩ := outside.exists_front own (plain inside blank)
    rw [List.append_assoc] at whole
    rw [closed.getLast?_mask] at stops
    exact ⟨front, word, gap, back, whole, stops, named, inside, blank,
      (all_sameLine_mask shows closed whole).symm.trans flat⟩
  · -- Conversely the parenthesis of the line shows behind the same name.
    rintro ⟨front, word, gap, back, whole, stops, named, inside, blank, flat⟩
    obtain ⟨closed, view⟩ := @mask_of_shown '(' (by decide) (by decide) front (word ++ gap) back
      (plain inside blank) (by rw [← whole]; exact shows '(' (by decide))
    rw [← whole] at view
    rw [← closed.getLast?_mask] at stops
    exact ⟨mask front, word, gap, mask back, view, stops, named, inside, blank,
      (all_sameLine_mask shows closed whole).trans flat⟩

/-- A line without hidden marks looks complete where its view does. -/
theorem looksComplete_mask : looksComplete (mask line) = looksComplete line := by
  -- The last character and the line breaks are found at the same places of both.
  have places : ∀ c ∈ marks, (mask line).map (· == c) = line.map (· == c) := by
    intro c listed
    have unfilled : ∀ mark ∈ marks, ('s' == mark) = false := by decide
    exact map_mask (unfilled c listed) fun d same => by rw [eq_of_beq same]; exact shows c listed
  have ends : ∀ c ∈ marks, endsWith c (mask line) = endsWith c line := by
    intro c listed
    have own : ∀ text : Text, endsWith c text = (text.map (· == c)).getLast?.any id := by
      intro text
      rw [endsWith, List.getLast?_map, Option.any_map]
      cases text.getLast? <;> rfl
    rw [own, own, places c listed]
  have ending : ∀ text : Text, text.getLast?.any "{};)".toList.contains =
      (endsWith '{' text || (endsWith '}' text || (endsWith ';' text || endsWith ')' text))) := by
    intro text
    unfold endsWith
    cases text.getLast? with
    | none => rfl
    | some c => simp [beq_eq_decide]
  -- What is left in the middle is on one line if there is no break between its ends.
  have flat : ∀ text : Text, (text.drop 4).dropLast.all sameLine =
      !((text.map (· == '\n')).drop 4).dropLast.any id := by
    intro text
    rw [← List.map_drop, ← List.map_dropLast, List.any_map, List.all_eq_not_any_not]
    simp only [sameLine, bne, Bool.not_not, Function.id_comp]
  -- The test is put together from these questions, each of which has the same answer.
  rw [looksComplete, looksComplete, hasBody_mask shows, hasCall_mask shows,
    startsWithWord_mask (by decide), ends ':' (by decide), ending, ending, ends '{' (by decide),
    ends '}' (by decide), ends ';' (by decide), ends ')' (by decide), flat, flat,
    places '\n' (by decide)]

end Shown

/-- Apart from what a line looks like the check reads its masked view. -/
theorem check_eq {line : Text} (trimmed : trim line = line) :
    check line =
      if isSettled (mask line) || looksComplete line then [] else [.missingSemicolon] := by
  rw [check, trimmed, isComplete_eq trimmed, isSettled_mask]

/--
Trimmed lines that differ in the contents of their literals only are reported alike if and only if
their common start settles it or both or neither of them look complete.
-/
theorem check_eq_iff {first second : Text} (same : mask first = mask second)
    (left : trim first = first) (right : trim second = second) (number : Int) :
    (check first).map (·.onLine number) = (check second).map (·.onLine number) ↔
      isSettled (mask first) = true ∨ looksComplete first = looksComplete second := by
  rw [check_eq left, check_eq right, ← same]
  -- There is one finding or none, so both sides are about truth values.
  cases isSettled (mask first) <;> cases looksComplete first <;> cases looksComplete second <;> simp

end SourceLint.Semicolon
