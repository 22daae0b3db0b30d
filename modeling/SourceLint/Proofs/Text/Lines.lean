import SourceLint.Text.Literal

/-! The lines of texts that are put together at a line break. -/

namespace SourceLint.Text

/-- A separating character divides the pieces before it from those after it. -/
theorem splitWhere_append_cons {separates : Char → Bool} {c : Char} (cut : separates c = true)
    (first second : Text) :
    splitWhere separates (first ++ c :: second) =
      splitWhere separates first ++ splitWhere separates second := by
  -- Every character in front only makes the first piece longer or starts a new one.
  have general : cutWhere separates (first ++ c :: second) =
      ((cutWhere separates first).1,
        (cutWhere separates first).2 ++ splitWhere separates second) := by
    induction first with
    | nil => simp [cutWhere, cut, splitWhere]
    | cons d first ih =>
      simp only [List.cons_append, cutWhere, ih]
      split <;> rfl
  simp [splitWhere, general]

/-- A text without separating characters is one piece. -/
theorem splitWhere_single {separates : Char → Bool} {text : Text}
    (uncut : ∀ c ∈ text, separates c = false) : splitWhere separates text = [text] := by
  -- Every character makes the first piece longer.
  have general : cutWhere separates text = (text, []) := by
    induction text with
    | nil => rfl
    | cons c text ih =>
      simp [cutWhere, uncut c (by simp), ih fun d member => uncut d (by simp [member])]
  simp [splitWhere, general]

/-- A line break divides the lines before it from those after it. -/
theorem lines_append_break (first second : Text) :
    lines (first ++ '\n' :: second) = lines first ++ lines second :=
  splitWhere_append_cons (by rfl) first second

/-- A text without line breaks is one line. -/
theorem lines_single {text : Text} (unbroken : '\n' ∉ text) : lines text = [text] := by
  -- Lines are cut at line breaks and nowhere else.
  refine splitWhere_single fun c member => ?_
  simp only [beq_eq_false_iff_ne]
  rintro rfl
  exact unbroken member

/-- A text has at least one line. -/
theorem lines_ne_nil (text : Text) : lines text ≠ [] := by
  simp [lines, splitWhere]

/-- A piece is joined to the ones after it by one separator. -/
theorem join_cons (separator piece : Text) {pieces : List Text} (others : pieces ≠ []) :
    join separator (piece :: pieces) = piece ++ separator ++ join separator pieces := by
  -- The others have a first piece, so that the equation for two pieces applies.
  obtain ⟨next, rest, rfl⟩ := List.exists_cons_of_ne_nil others
  rfl

/-- What stands in front of the first piece stands in front of all of them. -/
theorem join_append_cons (separator front piece : Text) (pieces : List Text) :
    join separator ((front ++ piece) :: pieces) = front ++ join separator (piece :: pieces) := by
  cases pieces <;> simp [join]

/-- Two groups of pieces are joined by one more separator. -/
theorem join_append (separator : Text) {first second : List Text} (left : first ≠ [])
    (right : second ≠ []) :
    join separator (first ++ second) =
      join separator first ++ separator ++ join separator second := by
  -- The last piece of the first group is followed by the first one of the second.
  induction first with
  | nil => exact absurd rfl left
  | cons piece pieces ih =>
    -- The induction takes pieces off the first group, down to its last one.
    cases pieces with
    | nil => exact join_cons separator piece right
    | cons next others =>
      rw [List.cons_append, join_cons separator piece (by simp), ih (by simp),
        join_cons separator piece (by simp)]
      simp only [List.append_assoc]

/-- Pieces that are joined end like the last one of them. -/
theorem getLast?_join {gap : Text} {pieces : List Text} (listed : pieces ≠ [])
    (ends : ∀ piece ∈ pieces, ∃ c, piece.getLast? = some c ∧ isSpace c = false) :
    ∃ c, (join gap pieces).getLast? = some c ∧ isSpace c = false := by
  -- The last piece stays at the end while pieces are put in front.
  induction pieces with
  | nil => exact absurd rfl listed
  | cons piece pieces ih =>
    -- The gap is never at the end, as a piece follows it.
    cases pieces with
    | nil => exact ends piece (by simp)
    | cons next others =>
      obtain ⟨c, last, solid⟩ := ih (by simp) fun piece member => ends piece (by simp [member])
      exact ⟨c, by rw [join_cons _ _ (by simp), List.getLast?_append, last, Option.some_or], solid⟩

/-- Lines that are put together around line breaks are the lines of the text. -/
theorem lines_join {pieces : List Text} (some : pieces ≠ [])
    (unbroken : ∀ piece ∈ pieces, '\n' ∉ piece) : lines (join ['\n'] pieces) = pieces := by
  -- The pieces are put in front one at a time.
  induction pieces with
  | nil => exact absurd rfl some
  | cons piece pieces ih =>
    -- A piece is one line, and the others follow behind a line break.
    have single := lines_single (unbroken piece (by simp))
    cases pieces with
    | nil => simpa [join] using single
    | cons next others =>
      rw [join_cons _ _ (by simp), List.append_assoc, List.singleton_append, lines_append_break,
        single, ih (by simp) fun line member => unbroken line (by simp [member])]
      rfl

/-- The lines of a text put together around line breaks are the text. -/
theorem join_lines (text : Text) : join ['\n'] (lines text) = text := by
  -- A line break starts a new line, and any other character makes the first line longer.
  induction text with
  | nil => rfl
  | cons c text ih =>
    by_cases newline : c = '\n'
    · subst newline
      have split := lines_append_break [] text
      have single : lines [] = [[]] := rfl
      rw [single, List.nil_append] at split
      rw [split, join_append ['\n'] (by simp) (lines_ne_nil text), ih]
      rfl
    · -- The rest of the text keeps its lines in either case.
      simp only [lines, splitWhere, cutWhere, beq_iff_eq, newline, if_false] at ih ⊢
      cases others : (cutWhere (· == '\n') text).2 with
      | nil => simpa [others, join] using ih
      | cons next rest => simpa [others, join] using ih

/-- A text has one line more than it has line breaks. -/
theorem length_lines (text : Text) : (lines text).length = breaks text + 1 := by
  -- A line break starts a line, and no other character does.
  induction text with
  | nil => rfl
  | cons c text ih =>
    by_cases newline : c = '\n'
    · simp_all [lines, splitWhere, cutWhere, breaks]
    · simp_all [lines, splitWhere, cutWhere, breaks]

/-- A line break counts as one. -/
@[simp] theorem breaks_cons_break (text : Text) : breaks ('\n' :: text) = breaks text + 1 := by
  simp [breaks]

/-- No other character counts. -/
theorem breaks_cons {c : Char} (unbroken : c ≠ '\n') (text : Text) :
    breaks (c :: text) = breaks text := by
  simp [breaks, unbroken]

/-- The line breaks of both parts of a text count. -/
@[simp] theorem breaks_append (first second : Text) :
    breaks (first ++ second) = breaks first + breaks second := by
  simp [breaks]

/-- A text without line breaks counts none. -/
theorem breaks_eq_zero {text : Text} (unbroken : '\n' ∉ text) : breaks text = 0 :=
  List.count_eq_zero.mpr unbroken

/-- A source is masked on either side of a line break on its own. -/
theorem maskSource_append_break (first second : Text) :
    maskSource (first ++ '\n' :: second) = maskSource first ++ '\n' :: maskSource second := by
  -- Lines are masked one by one, and a text has at least one.
  have left : (lines first).map mask ≠ [] := by simpa using lines_ne_nil first
  have right : (lines second).map mask ≠ [] := by simpa using lines_ne_nil second
  rw [maskSource, lines_append_break, List.map_append, join_append _ left right]
  simp [maskSource]

/-- No line holds a line break. -/
theorem unbroken_of_mem_lines {text line : Text} (member : line ∈ lines text) : '\n' ∉ line := by
  induction text generalizing line with
  | nil => simp_all [lines, splitWhere, cutWhere]
  | cons c text ih =>
    -- The lines of the rest hold none by assumption.
    have inner : ∀ line ∈ (cutWhere (· == '\n') text).1 :: (cutWhere (· == '\n') text).2,
        '\n' ∉ line := fun line member => ih member
    by_cases broken : c = '\n'
    · simp only [lines, splitWhere, cutWhere, broken, BEq.rfl, if_true, List.mem_cons] at member
      -- A line break in front adds an empty line, and the others stay.
      rcases member with rfl | rest
      · simp
      · exact inner line (List.mem_cons.mpr rest)
    · simp only [lines, splitWhere, cutWhere, beq_iff_eq, broken, if_false, List.mem_cons] at member
      -- Any other character only makes the first line longer.
      rcases member with rfl | rest
      · simpa [Ne.symm broken] using inner _ List.mem_cons_self
      · exact inner line (List.mem_cons_of_mem _ rest)

/-- A source of one line is masked as that line. -/
theorem maskSource_single {line : Text} (unbroken : '\n' ∉ line) : maskSource line = mask line := by
  simp [maskSource, lines_single unbroken, join]

end SourceLint.Text
