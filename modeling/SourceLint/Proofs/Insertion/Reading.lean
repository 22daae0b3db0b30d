import SourceLint.Proofs.Insertion.Mask
import SourceLint.Proofs.Reading

/-!
Reading a masked source with and without one more character at the edge of a line.

The two readings differ in nothing but this character.
-/

namespace SourceLint

open Text

/-- The place of a character at the edge of a line of a masked source. -/
structure Gap (front back : Text) (shown : Char) : Prop where
  /-- The character is white space, or the end of the text in front of it is hidden. -/
  quiet : isSpace shown = true ∨ shown = 's' ∧ EndsHidden front
  /-- A line ends behind it, or it is white space and a line starts behind it. -/
  sides : (back = [] ∨ ∃ more, back = '\n' :: more) ∨
    isSpace shown = true ∧ (front = [] ∨ ∃ more, front = more ++ ['\n'])

/-- White space at the edge of a line leaves a gap in the masked view. -/
theorem Edge.gap {front back : Text} {kept : Nat} (edge : Edge front back kept) {c shown : Char}
    (space : isSpace c = true) (kind : Shown c front back shown) : Gap front back shown := by
  cases kind with
  | plain =>
    refine ⟨.inl space, ?_⟩
    -- The character ends a line, where a break or nothing follows, or it starts one.
    cases edge with
    | front => exact .inr ⟨space, .inl rfl⟩
    | start more => exact .inr ⟨space, .inr ⟨more, rfl⟩⟩
    | stop _ more => exact .inl (.inr ⟨more, rfl⟩)
    | last => exact .inl (.inl rfl)
  -- A hidden character stands inside a literal, at the end of its line.
  | hidden unbroken inside ends => exact ⟨.inr ⟨rfl, inside⟩, .inl ends⟩

/-- What is left to read on either side, with and without the character. -/
inductive Rest (front back : Text) (shown : Char) : Text → Text → Prop
  /-- The character is still to come. -/
  | inside {before part : Text} (split : front = before ++ part) (some : part ≠ []) :
      Rest front back shown (part ++ back) (part ++ shown :: back)
  /-- The character comes next, at the end of a line. -/
  | next (space : isSpace shown = true) (ends : back = [] ∨ ∃ more, back = '\n' :: more) :
      Rest front back shown back (shown :: back)
  /-- The character has been passed. -/
  | behind {part : Text} (ends : part <:+ back) : Rest front back shown part part

/-- Words that neither white space nor the view of a literal can be part of. -/
def Solid (word : Text) : Prop :=
  word ≠ [] ∧ ∀ c ∈ word, isSpace c = false ∧ isQuote c = false ∧ c ≠ 's'

variable {front back : Text} {shown : Char} {text other : Text}

namespace Gap

variable (gap : Gap front back shown)

include gap

/-- The character is no part of a solid word. -/
theorem ne_of_solid {word : Text} (solid : Solid word) {c : Char} (member : c ∈ word) :
    c ≠ shown := by
  -- A solid word has neither white space nor what stands for a hidden character.
  rintro rfl
  obtain ⟨unspaced, -, other⟩ := solid.2 c member
  rcases gap.quiet with space | ⟨rfl, -⟩
  · rw [unspaced] at space
    cases space
  · exact other rfl

/-- The character is no first letter of a return type. -/
theorem ne_letters : shown ≠ 'i' ∧ shown ≠ 'v' := by
  -- Both letters are solid words of their own.
  have letters : Solid ['i', 'v'] := ⟨by simp, by decide⟩
  exact ⟨Ne.symm (gap.ne_of_solid letters (by simp)), Ne.symm (gap.ne_of_solid letters (by simp))⟩

/-- Behind a solid character of the text in front, the gap is white space at the end of a line. -/
theorem ends_of_last {c : Char} (last : front.getLast? = some c) (unspaced : isSpace c = false)
    (unquoted : isQuote c = false) (other : c ≠ 's') :
    isSpace shown = true ∧ (back = [] ∨ ∃ more, back = '\n' :: more) := by
  -- A gap that shows something else stands behind a quote or a hidden character.
  have space : isSpace shown = true := by
    rcases gap.quiet with space | ⟨-, d, hidden, kind⟩
    · exact space
    · rw [last] at hidden
      cases hidden
      rcases kind with quote | same
      · rw [unquoted] at quote
        cases quote
      · exact absurd same other
  refine ⟨space, ?_⟩
  -- Where a gap starts a line, what stands in front is nothing or a break, and neither is solid.
  rcases gap.sides with ends | ⟨-, rfl | ⟨more, rfl⟩⟩
  · exact ends
  · cases last
  · rw [List.getLast?_concat] at last
    cases last
    exact absurd unspaced (by decide)

end Gap

/-- A solid word does not start at the end of a line. -/
theorem after?_of_ends {c : Char} (unspaced : isSpace c = false) (rest : Text)
    (ends : back = [] ∨ ∃ more, back = '\n' :: more) : after? (c :: rest) back = none := by
  -- What stands there is nothing or a line break, and the word starts with neither.
  have unbroken : c ≠ '\n' := (ne_of_class (by decide) unspaced).symm
  rcases ends with rfl | ⟨more, rfl⟩
  · rfl
  · simp [after?, unbroken]

/-- A solid word is read on both sides or on neither. -/
theorem Rest.after? (gap : Gap front back shown) {word : Text} (solid : Solid word)
    (rest : Rest front back shown text other) :
    Option.Rel (Rest front back shown) (Text.after? word text) (Text.after? word other) := by
  -- A word that ends at the character is read, and one that would go across it is not.
  cases rest with
  | @inside before part split nonempty =>
    cases found : Text.after? word part with
    | some left =>
      rw [after?_append_of_some found, after?_append_of_some found]
      -- The word is inside the part in front of the character, at its end or before.
      refine .some ?_
      have whole : front = (before ++ word) ++ left := by
        rw [split, eq_append_of_after? found, List.append_assoc]
      by_cases last : left = []
      · -- The word ends where the character is.
        subst last
        obtain ⟨init, c, rfl⟩ := List.eq_nil_or_concat word |>.resolve_left solid.1
        obtain ⟨unspaced, unquoted, differs⟩ := solid.2 c (by simp)
        obtain ⟨space, ends⟩ := gap.ends_of_last (by simp [whole]) unspaced unquoted differs
        exact .next space ends
      · exact .inside whole last
    | none =>
      -- The word would go across the character, which is no part of it.
      have later : Text.after? word (part ++ shown :: back) = none := by
        rcases after?_append_of_none found (shown :: back) with none | ⟨c, tail, rfl, read⟩
        · exact none
        · rw [read, Text.after?, if_neg (gap.ne_of_solid solid (by simp))]
      -- Without the character it would go on into the line break or past the end.
      have sooner : Text.after? word (part ++ back) = none := by
        rcases after?_append_of_none found back with none | ⟨c, tail, rfl, read⟩
        · exact none
        · obtain ⟨init, d, rfl⟩ := List.eq_nil_or_concat part |>.resolve_left nonempty
          obtain ⟨unspaced, unquoted, differs⟩ := solid.2 d (by simp)
          obtain ⟨-, ends⟩ := gap.ends_of_last (by simp [split]) unspaced unquoted differs
          rw [read, after?_of_ends (solid.2 c (by simp)).1 tail ends]
      rw [later, sooner]
      exact .none
  -- At the character itself no solid word starts, and none starts at a line end.
  | next space ends =>
    obtain ⟨c, tail, rfl⟩ := List.exists_cons_of_ne_nil solid.1
    rw [after?_of_ends (solid.2 c (by simp)).1 tail ends, Text.after?,
      if_neg (gap.ne_of_solid solid (by simp))]
    exact .none
  | behind ends =>
    cases found : Text.after? word text with
    | none => exact .none
    | some left =>
      exact .some (.behind (List.IsSuffix.trans ⟨word, (eq_append_of_after? found).symm⟩ ends))

/-- A run that ends in front of the character is passed on both sides. -/
theorem Rest.dropWhile_ended {p : Char → Bool} {before part : Text} (split : front = before ++ part)
    (ended : part.dropWhile p ≠ []) :
    Rest front back shown ((part ++ back).dropWhile p) ((part ++ shown :: back).dropWhile p) := by
  -- The run stops at a character of the part, and what is left of the part is kept.
  rw [(takeWhile_append_ended ended back).2, (takeWhile_append_ended ended (shown :: back)).2]
  refine @Rest.inside _ _ _ (before ++ part.takeWhile p) _ ?_ ended
  rw [split, List.append_assoc, List.takeWhile_append_dropWhile]

/-- A run of characters that may hold the character is passed on both sides. -/
theorem Rest.dropWhile {p : Char → Bool} (passes : p shown = true)
    (rest : Rest front back shown text other) :
    Rest front back shown (text.dropWhile p) (other.dropWhile p) := by
  cases rest with
  | @inside before part split nonempty =>
    -- If the run goes up to the character, it goes on behind it.
    by_cases left : part.dropWhile p = []
    · rw [List.dropWhile_append, List.dropWhile_append, left]
      simp only [List.isEmpty_nil, if_true, List.dropWhile_cons, passes]
      exact .behind (List.dropWhile_suffix p)
    · exact .dropWhile_ended split left
  -- The character is passed, and what follows lies behind it.
  | next space ends =>
    rw [List.dropWhile_cons, if_pos passes]
    exact .behind (List.dropWhile_suffix p)
  | behind ends => exact .behind ((List.dropWhile_suffix p).trans ends)

/-- White space is skipped on both sides. -/
theorem Rest.skipSpace (gap : Gap front back shown) (rest : Rest front back shown text other) :
    Rest front back shown (Text.skipSpace text) (Text.skipSpace other) := by
  -- Either the character is white space and is passed, or the run ends in front of it.
  rcases gap.quiet with space | ⟨rfl, c, last, kind⟩
  · exact rest.dropWhile space
  · -- Something that is no white space stands in front of a hidden character.
    cases rest with
    | @inside before part split nonempty =>
      refine .dropWhile_ended split fun blank => ?_
      have solid : isSpace c = false := by
        rcases kind with quote | rfl
        · simp only [isQuote, Bool.or_eq_true, beq_iff_eq] at quote
          rcases quote with rfl | rfl <;> decide
        · decide
      -- The last character of the part is the last one in front of the gap.
      have final : part.getLast? = some c := by
        obtain ⟨d, ending⟩ := List.getLast?_isSome.mpr nonempty |> Option.isSome_iff_exists.mp
        rwa [split, List.getLast?_append, ending, Option.some_or, ← ending] at last
      have space := List.dropWhile_eq_nil_iff.mp blank c (List.mem_of_getLast? final)
      rw [solid] at space
      cases space
    | next space => exact absurd space (by decide)
    | behind ends => exact .behind ((List.dropWhile_suffix _).trans ends)

/-- What is left to read is the end of the source on either side. -/
theorem Rest.suffix (rest : Rest front back shown text other) :
    text <:+ front ++ back ∧ other <:+ front ++ shown :: back := by
  -- In front of the character both sides have the same beginning, and behind it they are the same.
  cases rest with
  | @inside before part split =>
    exact ⟨⟨before, by rw [split, List.append_assoc]⟩,
      ⟨before, by rw [split, List.append_assoc]⟩⟩
  | next => exact ⟨List.suffix_append _ _, List.suffix_append _ _⟩
  | behind ends =>
    exact ⟨ends.trans (List.suffix_append _ _),
      (ends.trans (List.suffix_cons _ _)).trans (List.suffix_append _ _)⟩

/-- In front of what is no white space the character is still to come or has been passed. -/
theorem Rest.solid {c : Char} (unspaced : isSpace c = false)
    (rest : Rest front back shown (c :: text) other) :
    (∃ before part, front = before ++ c :: part ∧ text = part ++ back ∧
      other = c :: (part ++ shown :: back)) ∨ other = c :: text ∧ c :: text <:+ back := by
  generalize whole : c :: text = first at rest
  cases rest with
  | @inside before part split nonempty =>
    -- The part starts with the character that the text starts with.
    obtain ⟨d, more, rfl⟩ := List.exists_cons_of_ne_nil nonempty
    cases whole
    exact .inl ⟨before, more, split, rfl, rfl⟩
  | next space ends =>
    rcases ends with rfl | ⟨more, rfl⟩
    · -- A line end in front of the character is no such text.
      cases whole
    · cases whole
      exact absurd unspaced (by decide)
  -- Behind the inserted character both sides are the same.
  | behind ends => exact .inr ⟨rfl, ends⟩

/-- Readers that agree on what is left agree one after another. -/
theorem rel_bind {α β γ δ : Type} {r : α → β → Prop} {s : γ → δ → Prop} {first : Option α}
    {second : Option β} (same : Option.Rel r first second) {f : α → Option γ} {g : β → Option δ}
    (next : ∀ a b, r a b → Option.Rel s (f a) (g b)) :
    Option.Rel s (first.bind f) (second.bind g) := by
  -- Both give nothing, or both give what the next readers take over.
  cases same with
  | some related => exact next _ _ related
  | none => exact .none

end SourceLint
