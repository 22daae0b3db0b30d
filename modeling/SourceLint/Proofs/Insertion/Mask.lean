import SourceLint.Proofs.Insertion.Token
import SourceLint.Proofs.Text.Masking

/-! The masked view of a source to which white space is added at the edge of a line. -/

namespace SourceLint

open Text

/-- A text that ends inside a literal in its masked view. -/
def EndsHidden (shown : Text) : Prop :=
  ∃ c, shown.getLast? = some c ∧ (isQuote c = true ∨ c = 's')

/-- A text that ends inside a literal does so behind any other text. -/
theorem EndsHidden.append {shown : Text} (hidden : EndsHidden shown) (front : Text) :
    EndsHidden (front ++ shown) := by
  -- The last character of the whole text is that of its end.
  obtain ⟨c, last, kind⟩ := hidden
  exact ⟨c, by simp [List.getLast?_append, last], kind⟩

/-- White space behind a text shows, unless the text ends inside a literal. -/
theorem maskFrom_concat {c : Char} (space : isSpace c = true) {inside : Option Char}
    (quoted : ∀ quote ∈ inside, isQuote quote = true) (text : Text) :
    ∃ shown, maskFrom ['s'] inside (text ++ [c]) = maskFrom ['s'] inside text ++ [shown] ∧
      (shown = c ∨ shown = 's' ∧ (text = [] ∧ inside ≠ none ∨
        EndsHidden (maskFrom ['s'] inside text))) := by
  have solid : ∀ {d : Char}, isQuote d = true → c ≠ d := by
    rintro d quote rfl
    rw [isQuote_of_isSpace space] at quote
    cases quote
  have filled : EndsHidden ['s'] := ⟨'s', rfl, .inr rfl⟩
  -- The last character decides, except where an escape or a literal ends with the text.
  induction masking quoted text with
  -- In an open literal the space hides, since it is no quote.
  | ended inside =>
    cases inside with
    | none => exact ⟨c, by simp [maskFrom], .inl rfl⟩
    | some quote =>
      have other : c ≠ quote := solid (quoted quote rfl)
      exact ⟨'s', by simp [maskFrom, other], .inr ⟨rfl, .inl (by simp)⟩⟩
  | outside d _ ih =>
    obtain ⟨shown, masked, kind⟩ := ih (quoted_opened d)
    rw [List.cons_append, maskFrom_outside, maskFrom_outside, masked]
    refine ⟨shown, rfl, ?_⟩
    rcases kind with same | ⟨rfl, ⟨rfl, open_⟩ | hidden⟩
    · exact .inl same
    · -- The text ends with the quote that opens a literal.
      have quote : isQuote d = true := by
        by_contra other
        simp [other] at open_
      exact .inr ⟨rfl, .inr ⟨d, by simp [maskFrom], .inl quote⟩⟩
    · exact .inr ⟨rfl, .inr (hidden.append [d])⟩
  | escape hidden _ ih =>
    obtain ⟨shown, masked, kind⟩ := ih quoted
    rw [List.cons_append, List.cons_append, maskFrom_escape, maskFrom_escape, masked]
    refine ⟨shown, by simp, ?_⟩
    rcases kind with same | ⟨rfl, ⟨rfl, -⟩ | hidden⟩
    · exact .inl same
    · -- The text ends with the character that the escape hides.
      exact .inr ⟨rfl, .inr (by simpa [maskFrom] using filled.append ['s'])⟩
    · exact .inr ⟨rfl, .inr (hidden.append ['s', 's'])⟩
  | @delimiter quote opens rest _ ih =>
    obtain ⟨shown, masked, kind⟩ := ih quoted_none
    rw [List.cons_append, maskFrom_delimiter _ opens, maskFrom_delimiter _ opens, masked]
    refine ⟨shown, rfl, ?_⟩
    rcases kind with same | ⟨rfl, ⟨-, outside⟩ | hidden⟩
    · exact .inl same
    · exact absurd rfl outside
    · exact .inr ⟨rfl, .inr (hidden.append [quote])⟩
  | @content quote d other rest last _ ih =>
    rw [maskFrom_content _ other last]
    by_cases ended : rest = []
    · -- The literal goes on behind its last character, also if this is an escape.
      subst ended
      have differs : c ≠ quote := solid (quoted quote rfl)
      refine ⟨'s', ?_, .inr ⟨rfl, .inr filled⟩⟩
      by_cases escape : d = backslash <;> simp [maskFrom, escape, other, differs]
    · have unescaped : d ≠ backslash := fun escape => ended (last escape)
      obtain ⟨shown, masked, kind⟩ := ih quoted
      rw [List.cons_append, maskFrom_inside _ _ _ unescaped, if_neg other, masked]
      refine ⟨shown, rfl, ?_⟩
      rcases kind with same | ⟨rfl, ⟨empty, -⟩ | hidden⟩
      · exact .inl same
      · exact absurd empty ended
      · exact .inr ⟨rfl, .inr (hidden.append ['s'])⟩

/-- White space behind a source shows, unless the source ends inside a literal. -/
theorem maskSource_concat {c : Char} (space : isSpace c = true) (unbroken : c ≠ '\n')
    (source : Text) :
    ∃ shown, maskSource (source ++ [c]) = maskSource source ++ [shown] ∧
      (shown = c ∨ shown = 's' ∧ EndsHidden (maskSource source)) := by
  -- Only the last line matters, since each line is masked on its own.
  have single : ∀ line : Text, '\n' ∉ line → ∃ shown,
      maskSource (line ++ [c]) = maskSource line ++ [shown] ∧
        (shown = c ∨ shown = 's' ∧ EndsHidden (maskSource line)) := by
    intro line whole
    have longer : '\n' ∉ line ++ [c] := by simp [whole, Ne.symm unbroken]
    obtain ⟨shown, masked, kind⟩ := @maskFrom_concat c space none (by simp) line
    rw [maskSource_single longer, maskSource_single whole]
    refine ⟨shown, masked, kind.imp id fun ⟨filled, hidden⟩ => ⟨filled, ?_⟩⟩
    exact hidden.resolve_left fun outside => outside.2 rfl
  -- A source without breaks is a single line, and another one has a last line behind a break.
  rcases exists_last_line source with whole | ⟨before, line, rfl, whole⟩
  · exact single source whole
  · obtain ⟨shown, masked, kind⟩ := single line whole
    refine ⟨shown, ?_, kind.imp id fun ⟨filled, hidden⟩ => ⟨filled, ?_⟩⟩
    · rw [List.append_assoc, List.cons_append, maskSource_append_break, masked,
        maskSource_append_break]
      simp
    · rw [maskSource_append_break]
      simpa using hidden.append (maskSource before ++ ['\n'])

/-- A character that opens no literal shows in front of the view of a source. -/
theorem maskSource_cons {c : Char} (unbroken : c ≠ '\n') (unquoted : isQuote c = false)
    (source : Text) : maskSource (c :: source) = c :: maskSource source := by
  -- The character is shown, and the first line goes on as it was.
  have shown := mask_cons unquoted
  cases others : (cutWhere (· == '\n') source).2 with
  | nil => simp [maskSource, lines, splitWhere, cutWhere, unbroken, others, shown, join]
  | cons next rest => simp [maskSource, lines, splitWhere, cutWhere, unbroken, others, shown, join]

/-- White space in front of a source shows. -/
theorem maskSource_cons_space {c : Char} (space : isSpace c = true) (source : Text) :
    maskSource (c :: source) = c :: maskSource source := by
  -- A line break closes an empty line, and other white space opens no literal.
  by_cases broken : c = '\n'
  · subst broken
    exact maskSource_append_break [] source
  · exact maskSource_cons broken (isQuote_of_isSpace space) source

/--
What the masked view of a source shows for white space at the edge of a line.

It shows as it is, or it is part of a literal that reaches the end of its line.
-/
inductive Shown (c : Char) (before after : Text) : (shown : Char) → Prop
  | plain : Shown c before after c
  | hidden (unbroken : c ≠ '\n') (inside : EndsHidden before)
      (ends : after = [] ∨ ∃ more, after = '\n' :: more) : Shown c before after 's'

/-- The masked view of a line holds its own characters and the fill. -/
theorem mem_mask {c : Char} {line : Text} (member : c ∈ mask line) : c = 's' ∨ c ∈ line := by
  -- What shows at a place is the fill or what stands there.
  obtain ⟨index, shown⟩ := List.mem_iff_getElem?.mp member
  exact (getElem?_mask shown).imp_right List.mem_of_getElem?

/-- The line breaks of a source are where they are in its masked view. -/
theorem map_maskSource (source : Text) :
    (maskSource source).map (· == '\n') = source.map (· == '\n') := by
  -- A line and its view have no breaks and are equally long.
  have line : ∀ line : Text, '\n' ∉ line →
      (mask line).map (· == '\n') = line.map (· == '\n') := by
    intro line whole
    have shown : '\n' ∉ mask line := fun member =>
      (mem_mask member).elim (by decide) whole
    -- A text without breaks has none at any place.
    have flat : ∀ text : Text, '\n' ∉ text →
        text.map (· == '\n') = List.replicate text.length false := by
      intro text unbroken
      rw [List.eq_replicate_iff]
      refine ⟨by simp, fun b member => ?_⟩
      obtain ⟨c, inside, rfl⟩ := List.mem_map.mp member
      rw [beq_eq_false_iff_ne]
      rintro rfl
      exact unbroken inside
    rw [flat _ shown, flat _ whole, length_mask]
  -- The breaks between the lines are kept.
  have joined : ∀ pieces : List Text, (∀ piece ∈ pieces, '\n' ∉ piece) →
      (join ['\n'] (pieces.map mask)).map (· == '\n') =
        (join ['\n'] pieces).map (· == '\n') := by
    intro pieces whole
    induction pieces with
    | nil => rfl
    | cons piece pieces ih =>
      -- The separator is a break on both sides, and the pieces have none.
      have others := ih fun other member => whole other (by simp [member])
      cases pieces with
      | nil => exact line piece (whole piece (by simp))
      | cons next rest =>
        rw [List.map_cons, join_cons _ _ (by simp), join_cons _ _ (by simp)]
        simp only [List.map_append, others, line piece (whole piece (by simp))]
  have whole := joined (lines source) fun line member => unbroken_of_mem_lines member
  rw [join_lines] at whole
  exact whole

/-- The masked view of a source is as long as the source. -/
@[simp] theorem length_maskSource (source : Text) : (maskSource source).length = source.length := by
  simpa using congrArg List.length (map_maskSource source)

/-- Texts with line breaks in the same places have as many of them. -/
theorem breaks_congr {first second : Text}
    (same : first.map (· == '\n') = second.map (· == '\n')) : breaks first = breaks second := by
  -- The breaks are counted by the places where they are.
  have counted : ∀ text : Text, breaks text = (text.map (· == '\n')).count true := by
    intro text
    rw [breaks, List.count, List.count, List.countP_map]
    refine List.countP_congr fun c _ => ?_
    simp
  rw [counted, counted, same]

/-- Masking keeps the number of line breaks. -/
theorem breaks_maskSource (source : Text) : breaks (maskSource source) = breaks source :=
  breaks_congr (map_maskSource source)

/-- White space at the edge of a line adds one character to the masked view, at an edge as well. -/
theorem maskSource_insert {before after : Text} {kept : Nat} (edge : Edge before after kept)
    {c : Char} (space : isSpace c = true) :
    ∃ front back shown, maskSource (before ++ after) = front ++ back ∧
      maskSource (before ++ c :: after) = front ++ shown :: back ∧
      front.length = before.length ∧ Edge front back kept ∧ Shown c front back shown := by
  have counted := breaks_maskSource before
  -- Lines are masked one by one, so the character shows or hides by the line it ends.
  cases edge with
  | front =>
    exact ⟨[], maskSource after, c, rfl, maskSource_cons_space space after, rfl, .front _, .plain⟩
  | start before =>
    have count := breaks_maskSource before
    -- Behind a break the character starts a line, where it is shown as it is.
    refine ⟨maskSource before ++ ['\n'], maskSource after, c, ?_, ?_, by simp,
      count ▸ Edge.start _ _, .plain⟩
    · rw [List.append_assoc, List.singleton_append, maskSource_append_break]
      simp
    · rw [List.append_assoc, List.singleton_append, maskSource_append_break,
        maskSource_cons_space space]
      simp
  | stop _ after =>
    -- In front of a break it ends a line, and hides if that line ends inside a literal.
    have view : maskSource (before ++ '\n' :: after) =
        maskSource before ++ '\n' :: maskSource after := maskSource_append_break before after
    by_cases broken : c = '\n'
    · subst broken
      refine ⟨_, _, '\n', view, ?_, length_maskSource before, counted ▸ Edge.stop _ _, .plain⟩
      rw [maskSource_append_break, maskSource_cons_space space]
    · obtain ⟨shown, masked, kind⟩ := maskSource_concat space broken before
      refine ⟨_, _, shown, view, ?_, length_maskSource before, counted ▸ Edge.stop _ _, ?_⟩
      · have split : before ++ c :: '\n' :: after = (before ++ [c]) ++ '\n' :: after := by simp
        rw [split, maskSource_append_break, masked]
        simp
      · rcases kind with rfl | ⟨rfl, inside⟩
        · exact .plain
        · exact .hidden broken inside (.inr ⟨_, rfl⟩)
  | last =>
    -- At the end of the source it ends the last line.
    have view : maskSource (before ++ []) = maskSource before ++ [] := by simp
    by_cases broken : c = '\n'
    · subst broken
      refine ⟨_, _, '\n', view, ?_, length_maskSource before, counted ▸ Edge.last _, .plain⟩
      rw [maskSource_append_break]
      rfl
    · obtain ⟨shown, masked, kind⟩ := maskSource_concat space broken before
      refine ⟨_, _, shown, view, masked, length_maskSource before, counted ▸ Edge.last _, ?_⟩
      rcases kind with rfl | ⟨rfl, inside⟩
      · exact .plain
      · exact .hidden broken inside (.inl rfl)

end SourceLint
