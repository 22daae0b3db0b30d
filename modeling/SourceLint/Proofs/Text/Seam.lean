import SourceLint.Proofs.Insertion.Edge
import SourceLint.Proofs.Insertion.Mask
import SourceLint.Proofs.Lines

/-!
The lines of texts that are put together in the middle of a line.

The last line of the first text and the first line of the second one become one line, and all other
lines stay as they are.
-/

namespace SourceLint.Text

/-- A line break in front of a text starts with an empty line. -/
theorem lines_cons_break (text : Text) : lines ('\n' :: text) = [] :: lines text :=
  lines_append_break [] text

/-- Any other character in front of a text makes its first line longer. -/
theorem lines_cons {c : Char} (unbroken : c ≠ '\n') {text line : Text} {others : List Text}
    (split : lines text = line :: others) : lines (c :: text) = (c :: line) :: others := by
  -- Both sides are cut where the text is.
  simp only [lines, splitWhere] at split
  obtain ⟨rfl, rfl⟩ := List.cons_eq_cons.mp split
  simp [lines, splitWhere, cutWhere, unbroken]

/-- Where two texts meet, the last line of the first goes on with the first line of the second. -/
theorem lines_append (first second : Text) :
    ∃ front last next later, lines first = front ++ [last] ∧ lines second = next :: later ∧
      lines (first ++ second) = front ++ (last ++ next) :: later := by
  induction first with
  -- An empty first text has one line, which is empty.
  | nil => exact ⟨[], [], _, _, rfl, rfl, rfl⟩
  | cons c first ih =>
    obtain ⟨front, last, next, later, left, right, whole⟩ := ih
    -- The first character breaks a line, or it makes the first line longer.
    by_cases broken : c = '\n'
    · -- The line break puts an empty line in front of both.
      subst broken
      refine ⟨[] :: front, last, next, later, ?_, right, ?_⟩
      · rw [lines_cons_break, left]
        rfl
      · rw [List.cons_append, lines_cons_break, whole]
        rfl
    · -- The character goes to the first line, which may be the last one as well.
      cases front with
      | nil => exact ⟨[], c :: last, next, later, lines_cons broken left, right,
          lines_cons broken whole⟩
      | cons line front => exact ⟨(c :: line) :: front, last, next, later,
          lines_cons broken left, right, lines_cons broken whole⟩

/-- The lines in front of the last one have an index below the number of line breaks. -/
theorem length_front {text last : Text} {front : List Text} (split : lines text = front ++ [last]) :
    front.length = breaks text := by
  -- A text has one line more than it has line breaks.
  have count := congrArg List.length split
  rw [length_lines, List.length_append, List.length_singleton] at count
  omega

/-- The lines of the first text but its last one stay in their places. -/
theorem getElem?_lines_append_left {first : Text} {index : Nat} (low : index < breaks first)
    (second : Text) : (lines (first ++ second))[index]? = (lines first)[index]? := by
  -- They are in the part in front of the seam, which both lists share.
  obtain ⟨front, last, next, later, left, -, whole⟩ := lines_append first second
  have count := length_front left
  rw [whole, left, List.getElem?_append_left (by omega), List.getElem?_append_left (by omega)]

/-- The lines of the second text but its first one follow. -/
theorem getElem?_lines_append_right (first : Text) {second : Text} {index : Nat}
    (high : 0 < index) :
    (lines (first ++ second))[breaks first + index]? = (lines second)[index]? := by
  -- They are in the part behind the seam, since the index is not that of the seam.
  obtain ⟨front, last, next, later, left, right, whole⟩ := lines_append first second
  have count := length_front left
  rw [whole, right, List.getElem?_append_right (by omega), count, Nat.add_sub_cancel_left]
  obtain ⟨before, rfl⟩ := Nat.exists_eq_succ_of_ne_zero (Nat.ne_of_gt high)
  rfl

/-- Where the texts meet, the line is made of two parts. -/
theorem exists_seam (first second : Text) :
    ∃ last next, (lines first)[breaks first]? = some last ∧ (lines second).head? = some next ∧
      (lines (first ++ second))[breaks first]? = some (last ++ next) := by
  obtain ⟨front, last, next, later, left, right, whole⟩ := lines_append first second
  -- As many lines are in front of the seam as the first text has line breaks.
  have count := length_front left
  refine ⟨last, next, ?_, ?_, ?_⟩
  · -- The last line of the first text is found behind the others.
    rw [left, List.getElem?_append_right (by omega), count, Nat.sub_self]
    rfl
  · rw [right]
    rfl
  · rw [whole, List.getElem?_append_right (by omega), count, Nat.sub_self]
    rfl

/-- A line of the first text is the front of a line of both. -/
theorem exists_line_append_left {first raw : Text} {index : Nat}
    (found : (lines first)[index]? = some raw) (second : Text) :
    ∃ tail, (lines (first ++ second))[index]? = some (raw ++ tail) := by
  have bound := (List.getElem?_eq_some_iff.mp found).1
  rw [length_lines] at bound
  -- Every line but the last one stays as it is.
  by_cases low : index < breaks first
  · exact ⟨[], by rw [getElem?_lines_append_left low, found, List.append_nil]⟩
  · -- The last line goes on with the first line of the second text.
    obtain rfl : index = breaks first := by omega
    obtain ⟨last, next, left, -, whole⟩ := exists_seam first second
    rw [left] at found
    exact ⟨next, by rw [whole, Option.some.inj found]⟩

/-- A line of the second text is the end of a line of both. -/
theorem exists_line_append_right (first : Text) {second raw : Text} {index : Nat}
    (found : (lines second)[index]? = some raw) :
    ∃ lead, (lines (first ++ second))[breaks first + index]? = some (lead ++ raw) := by
  -- Only the first line of the second text may have something in front of it.
  by_cases high : 0 < index
  · exact ⟨[], by rw [getElem?_lines_append_right first high, found, List.nil_append]⟩
  · obtain rfl : index = 0 := by omega
    obtain ⟨last, next, -, right, whole⟩ := exists_seam first second
    rw [List.head?_eq_getElem?, found] at right
    exact ⟨last, by rw [Nat.add_zero, whole, Option.some.inj right]⟩

/-- The lines of a masked source are the masked lines. -/
theorem lines_maskSource (source : Text) : lines (maskSource source) = (lines source).map mask := by
  refine lines_join (by simpa using lines_ne_nil source) fun shown member => ?_
  -- No line break is shown in place of another character.
  obtain ⟨line, listed, rfl⟩ := List.mem_map.mp member
  intro broken
  rcases mem_mask broken with fill | inside
  · cases fill
  · exact unbroken_of_mem_lines listed inside

/-- Texts with line breaks in the same places have lines of the same lengths. -/
theorem map_length_lines {first second : Text}
    (same : first.map (· == '\n') = second.map (· == '\n')) :
    (lines first).map List.length = (lines second).map List.length := by
  -- The texts are read together, one character of each at a time.
  induction first generalizing second with
  | nil =>
    rw [List.map_nil, eq_comm, List.map_eq_nil_iff] at same
    rw [same]
  | cons c first ih =>
    cases second with
    | nil => cases same
    | cons d second =>
      rw [List.map_cons, List.map_cons, List.cons_eq_cons] at same
      have others := ih same.2
      by_cases broken : c = '\n'
      · -- A line break is met by a line break.
        have again : d = '\n' := by simpa [broken] using same.1
        rw [broken, again, lines_cons_break, lines_cons_break, List.map_cons, others]
        rfl
      · have other : d ≠ '\n' := by simpa [broken] using same.1
        -- Any other character makes the first line of either text longer by one.
        rw [lines_cons broken rfl, lines_cons other rfl]
        simpa [lines, splitWhere] using others

/--
Where two texts meet in the middle of a line, the view of that line shows what that of both does.

The character that shows there has to be no line break, so that the second text starts with it.
-/
theorem exists_shown_seam {first second : Text} {c : Char} (unbroken : c ≠ '\n')
    (shown : (maskSource (first ++ second))[first.length]? = some c) :
    ∃ front last next later, lines first = front ++ [last] ∧ lines second = next :: later ∧
      lines (first ++ second) = front ++ (last ++ next) :: later ∧
      (mask (last ++ next))[last.length]? = some c := by
  obtain ⟨front, last, next, later, left, right, whole⟩ := lines_append first second
  -- The view is cut where the texts meet, and both sides are cut into lines of the same lengths.
  obtain ⟨before, behind, view, size⟩ : ∃ before behind,
      maskSource (first ++ second) = before ++ behind ∧
        before = (maskSource (first ++ second)).take first.length :=
    ⟨_, _, (List.take_append_drop first.length _).symm, rfl⟩
  have same : before.map (· == '\n') = first.map (· == '\n') := by
    rw [size, List.map_take, map_maskSource, List.map_append,
      ← List.length_map (f := (· == '\n')), List.take_left]
  have length : before.length = first.length := by simpa using congrArg List.length same
  obtain ⟨frontShown, lastShown, nextShown, laterShown, leftShown, rightShown, wholeShown⟩ :=
    lines_append before behind
  -- So the lines in front of the seam have the same lengths on both sides.
  have sizes := map_length_lines same
  rw [leftShown, left, List.map_append, List.map_append] at sizes
  obtain ⟨fronts, lasts⟩ := List.append_inj' sizes rfl
  rw [← view, lines_maskSource, whole, List.map_append, List.map_cons] at wholeShown
  obtain ⟨-, rest⟩ := List.append_inj wholeShown (by simpa using (congrArg List.length fronts).symm)
  have line : mask (last ++ next) = lastShown ++ nextShown := (List.cons_eq_cons.mp rest).1
  -- The character that shows is the first one behind the cut.
  have starts : behind.head? = some c := by
    rwa [view, ← length, List.getElem?_append_right (Nat.le_refl _), Nat.sub_self,
      ← List.head?_eq_getElem?] at shown
  obtain ⟨more, rfl⟩ := List.head?_eq_some_iff.mp starts
  rw [lines_cons unbroken rfl] at rightShown
  obtain ⟨rfl, -⟩ := List.cons_eq_cons.mp rightShown
  refine ⟨front, last, next, later, left, right, whole, ?_⟩
  -- The part of the line that comes from the first text is as long as its view.
  have same : lastShown.length = last.length := by simpa using lasts
  rw [line, ← same, List.getElem?_append_right (Nat.le_refl _), Nat.sub_self]
  rfl

/-- Lines that meet are put together where they meet. -/
theorem join_seam (separator : Text) (front : List Text) (last next : Text) (later : List Text) :
    join separator (front ++ (last ++ next) :: later) =
      join separator (front ++ [last]) ++ join separator (next :: later) := by
  -- The induction is on the lines in front of those that meet.
  induction front with
  | nil => exact join_append_cons separator last next later
  | cons line front ih =>
    have whole : join separator (line :: (front ++ (last ++ next) :: later)) =
        line ++ separator ++ join separator (front ++ (last ++ next) :: later) :=
      join_cons separator line (by simp)
    have first : join separator (line :: (front ++ [last])) =
        line ++ separator ++ join separator (front ++ [last]) :=
      join_cons separator line (by simp)
    -- Both sides start with the same line and its separator.
    rw [List.cons_append, List.cons_append, whole, first, ih, List.append_assoc _ _ (join _ _)]

end SourceLint.Text

namespace SourceLint

open Text

/-- The lines that are checked are the trimmed lines of a text that are not blank. -/
theorem mem_prepareLines_iff {text : Text} {first : Int} {line : NumberedLine} :
    line ∈ prepareLines text first ↔
      ∃ (index : Nat) (raw : Text), (lines text)[index]? = some raw ∧
        line = ⟨first + index, trim raw⟩ ∧ trim raw ≠ [] := by
  -- A line that is checked is known by its index.
  constructor
  · intro member
    obtain ⟨index, raw, found, trimmed, number⟩ := exists_of_mem_prepareLines member
    have filled := (List.mem_filter.mp member).2
    -- Only lines that are not blank are kept.
    refine ⟨index, raw, found, ?_, ?_⟩
    · rw [← trimmed, ← number]
    · rw [← trimmed]
      simpa using filled
  · rintro ⟨index, raw, found, rfl, filled⟩
    -- The text is cut at the line, and numbering goes on behind the lines in front of it.
    obtain ⟨inside, taken⟩ := List.getElem?_eq_some_iff.mp found
    have cut : lines text = (lines text).take index ++ raw :: (lines text).drop (index + 1) := by
      rw [← taken, List.getElem_cons_drop, List.take_append_drop]
    unfold prepareLines
    rw [cut, List.map_append, numberLines_append, List.filter_append, List.map_cons, numberLines,
      List.length_map, List.length_take, Nat.min_eq_left (Nat.le_of_lt inside)]
    refine List.mem_append_right _ (List.mem_filter.mpr ⟨List.mem_cons_self, ?_⟩)
    simpa using filled

end SourceLint
