import SourceLint.Proofs.Lookahead.Front
import SourceLint.Proofs.Text.Seam

/-!
The lines of the body of the main function as lines of the source.

Between the lines of its two braces they are the same lines with the same numbers. The line of the
closing brace starts with the last line of the body, unless the body is on one line, and no literal
is open where the brace stands.
-/

namespace SourceLint

open Text

namespace MainFunction.Outlined

variable {source : Text} {main : MainFunction} {start header gap inside tail : Text}

/-- The masked view is cut at the opening brace. -/
theorem whole_eq (outlined : Outlined (maskSource source) main start header gap inside tail) :
    maskSource source = (start ++ (header ++ gap) ++ ['{']) ++ (inside ++ '}' :: tail) ∧
      main.bodyStart = (start ++ (header ++ gap) ++ ['{']).length := by
  -- The body starts behind the opening brace.
  constructor
  · rw [outlined.whole]
    simp
  · simp only [outlined.bodyStart, List.length_append, List.length_singleton]

/-- The body stands between what is in front of it and what follows, and counts its lines on. -/
theorem split_source
    (outlined : Outlined (maskSource source) main start header gap inside tail) :
    source = source.take main.bodyStart ++ (main.body source ++ source.drop main.bodyEnd) ∧
      breaks (source.take main.bodyStart) = breaks (start ++ (header ++ gap) ++ ['{']) ∧
      ((breaks (source.take main.bodyStart) + 1 : Nat) : Int) = main.bodyLine := by
  obtain ⟨whole, size⟩ := outlined.whole_eq
  have stop : main.bodyEnd = main.bodyStart + (main.bodyEnd - main.bodyStart) := by
    rw [outlined.bodyEnd, outlined.bodyStart]
    omega
  -- The masked view has as many line breaks in front of the body.
  have front : breaks (source.take main.bodyStart) =
      breaks (start ++ (header ++ gap) ++ ['{']) := by
    have slice := breaks_slice (map_maskSource source).symm 0 main.bodyStart
    rw [List.drop_zero, List.drop_zero] at slice
    rw [slice, whole, size, List.take_left]
  refine ⟨?_, front, ?_⟩
  · -- What follows the body is what is left of the rest behind the opening brace.
    have rest : source.drop main.bodyEnd =
        (source.drop main.bodyStart).drop (main.bodyEnd - main.bodyStart) := by
      rw [List.drop_drop, ← stop]
    unfold body
    rw [rest, List.take_append_drop, List.take_append_drop]
  · -- The line of the opening brace is counted up to the brace itself.
    rw [front, breaks_append _ ['{'], breaks_cons (by decide), outlined.bodyLine]
    rfl

/-- The closing brace is as many lines below the opening one as the body has line breaks. -/
theorem lineOf_bodyEnd_eq
    (outlined : Outlined (maskSource source) main start header gap inside tail) :
    lineOf source main.bodyEnd = main.bodyLine + breaks (main.body source) := by
  -- The body starts on the line of the opening brace.
  rw [outlined.lineOf_bodyEnd, outlined.breaks_body, outlined.bodyLine]
  omega

/-- The main function starts at or above the line of its opening brace. -/
theorem headerLine_le
    (outlined : Outlined (maskSource source) main start header gap inside tail) :
    main.headerLine ≤ main.bodyLine := by
  -- The gap between them may have line breaks.
  rw [outlined.headerLine, outlined.bodyLine, breaks_append]
  omega

/-- A line of the body stands between the lines of the two braces. -/
theorem number_bounds
    (outlined : Outlined (maskSource source) main start header gap inside tail)
    {line : NumberedLine} (member : line ∈ prepareLines (main.body source) main.bodyLine) :
    main.bodyLine ≤ line.number ∧ line.number ≤ lineOf source main.bodyEnd := by
  -- The lines of the body are counted from the opening brace on.
  obtain ⟨index, raw, found, -, number⟩ := exists_of_mem_prepareLines member
  have bound := (List.getElem?_eq_some_iff.mp found).1
  rw [length_lines] at bound
  rw [outlined.lineOf_bodyEnd_eq]
  omega

/-- Between the lines of the two braces the lines of the source are those of the body. -/
theorem getElem?_lines
    (outlined : Outlined (maskSource source) main start header gap inside tail) {index : Nat}
    (low : 0 < index) (high : index < breaks (main.body source)) :
    (lines source)[breaks (source.take main.bodyStart) + index]? =
      (lines (main.body source))[index]? := by
  -- The lines of the braces are the first and the last one of the body and are left out.
  calc (lines source)[breaks (source.take main.bodyStart) + index]?
      = (lines (source.take main.bodyStart ++
          (main.body source ++ source.drop main.bodyEnd)))[
            breaks (source.take main.bodyStart) + index]? := by
        rw [← outlined.split_source.1]
    _ = (lines (main.body source ++ source.drop main.bodyEnd))[index]? :=
        getElem?_lines_append_right _ low
    _ = (lines (main.body source))[index]? := getElem?_lines_append_left high _

/-- Between the lines of the two braces a line is checked in both looks or in neither. -/
theorem mem_prepareLines_body_iff
    (outlined : Outlined (maskSource source) main start header gap inside tail)
    {line : NumberedLine} (low : main.bodyLine < line.number)
    (high : line.number < lineOf source main.bodyEnd) :
    line ∈ prepareLines (main.body source) main.bodyLine ↔ line ∈ prepareLines source 1 := by
  rw [outlined.lineOf_bodyEnd_eq] at high
  have first := outlined.split_source.2.2
  rw [mem_prepareLines_iff, mem_prepareLines_iff]
  constructor
  · -- The index in the body is moved by the lines in front of the opening brace.
    rintro ⟨index, raw, found, rfl, filled⟩
    dsimp only at low high
    refine ⟨breaks (source.take main.bodyStart) + index, raw, ?_, ?_, filled⟩
    · rw [outlined.getElem?_lines (by omega) (by omega)]
      exact found
    · congr 1
      omega
  · rintro ⟨index, raw, found, rfl, filled⟩
    dsimp only at low high
    -- The index counts from the line of the opening brace.
    obtain ⟨offset, rfl⟩ := Nat.exists_eq_add_of_le
      (show breaks (source.take main.bodyStart) ≤ index by omega)
    rw [outlined.getElem?_lines (by omega) (by omega)] at found
    refine ⟨offset, raw, found, ?_, filled⟩
    congr 1
    omega

/-- A line of the body is a part of the line of the source with its number. -/
theorem exists_line
    (outlined : Outlined (maskSource source) main start header gap inside tail) {index : Nat}
    {raw : Text} (found : (lines (main.body source))[index]? = some raw) :
    ∃ lead rest, (lines source)[breaks (source.take main.bodyStart) + index]? =
      some (lead ++ (raw ++ rest)) := by
  -- Its end may go on behind the body, and its start may be in front of it.
  obtain ⟨rest, left⟩ := exists_line_append_left found (source.drop main.bodyEnd)
  obtain ⟨lead, whole⟩ := exists_line_append_right (source.take main.bodyStart) left
  rw [← outlined.split_source.1] at whole
  exact ⟨lead, rest, whole⟩

/--
The line of the closing brace starts with the last line of a body that has several.

In its masked view the brace shows where that line ends.
-/
theorem exists_closing_line
    (outlined : Outlined (maskSource source) main start header gap inside tail)
    (several : 0 < breaks (main.body source)) :
    ∃ last next, (lines (main.body source))[breaks (main.body source)]? = some last ∧
      (lines source)[breaks (source.take main.bodyStart) + breaks (main.body source)]? =
        some (last ++ next) ∧
      (mask (last ++ next))[last.length]? = some '}' := by
  -- The brace shows behind the opening one and the body.
  have view : (maskSource (source.take main.bodyStart ++ main.body source ++
      source.drop main.bodyEnd))[(source.take main.bodyStart ++ main.body source).length]? =
        some '}' := by
    have size : (source.take main.bodyStart ++ main.body source).length =
        (start ++ (header ++ gap) ++ ['{'] ++ inside).length := by
      have lengths := congrArg List.length outlined.split_source.1
      have shown := congrArg List.length outlined.whole_eq.1
      have front := outlined.whole_eq.2
      rw [length_maskSource] at shown
      simp only [List.length_append, List.length_cons, List.length_drop, outlined.bodyEnd,
        outlined.bodyStart] at lengths shown front ⊢
      omega
    rw [List.append_assoc, ← outlined.split_source.1, size, outlined.whole_eq.1,
      ← List.append_assoc, List.getElem?_append_right (Nat.le_refl _), Nat.sub_self]
    rfl
  -- The seam runs through the line of the closing brace.
  obtain ⟨front, last, next, later, left, -, whole, shown⟩ :=
    exists_shown_seam (by decide) view
  have count := length_front left
  rw [breaks_append] at count
  rw [List.append_assoc, ← outlined.split_source.1] at whole
  refine ⟨last, next, ?_, ?_, shown⟩
  · -- In the body it is the last line, and in the source the line that many breaks further down.
    have found := @getElem?_lines_append_right (source.take main.bodyStart) (main.body source) _
      several
    rw [← found, left, ← count, List.getElem?_append_right (Nat.le_refl _), Nat.sub_self]
    rfl
  · rw [whole, ← count, List.getElem?_append_right (Nat.le_refl _), Nat.sub_self]
    rfl

end MainFunction.Outlined

end SourceLint
