import SourceLint.Proofs.Renumber
import SourceLint.Proofs.Text.Lines
import SourceLint.Proofs.Text.Span

/-!
White space at the edge of a line.

A line break there adds a line and moves the lines behind it. Any other white space is trimmed.
-/

namespace SourceLint

open Text

/-- A place at the start or the end of a line, and how many lines stand entirely in front of it. -/
inductive Edge : (before after : Text) → (kept : Nat) → Prop
  | front (after : Text) : Edge [] after 0
  | start (before after : Text) : Edge (before ++ ['\n']) after (breaks before + 1)
  | stop (before after : Text) : Edge before ('\n' :: after) (breaks before + 1)
  | last (before : Text) : Edge before [] (breaks before + 1)

/-- The number of a line after a character has been inserted behind the given line. -/
def shiftBy (c : Char) (kept line : Int) : Int :=
  if c = '\n' ∧ kept < line then line + 1 else line

/-- An inserted character keeps the order of lines. -/
theorem keepsOrder_shiftBy (c : Char) (kept : Int) : KeepsOrder (shiftBy c kept) := by
  -- Lines that move go on by one together, and they stand behind those that stay.
  intro first second
  by_cases broken : c = '\n'
  · simp only [shiftBy, broken, true_and]
    split <;> split <;> omega
  · simp [shiftBy, broken]

/-- Only a line break moves lines. -/
theorem shiftBy_of_ne {c : Char} (unbroken : c ≠ '\n') (kept : Int) : shiftBy c kept = id := by
  -- Every line keeps its number.
  funext line
  simp [shiftBy, unbroken]

/-- Lines up to the inserted character keep their numbers. -/
theorem shiftBy_of_le (c : Char) {kept line : Int} (small : line ≤ kept) :
    shiftBy c kept line = line := by
  rw [shiftBy, if_neg (by omega)]

/-- Lines behind an inserted line break move by one. -/
theorem shiftBy_of_lt {kept line : Int} (large : kept < line) :
    shiftBy '\n' kept line = line + 1 := by
  rw [shiftBy, if_pos ⟨rfl, large⟩]

/-- A reader that takes line after line and ignores white space around a line. -/
structure LineReader (α : Type) where
  /-- What a text holds whose first line has the given number. -/
  read : Text → (first : Int) → List α
  /-- A find on a line with another number. -/
  renumber : (Int → Int) → α → α
  renumber_id : renumber id = id
  read_nil (first : Int) : read [] first = []
  read_break (before after : Text) (first : Int) : read (before ++ '\n' :: after) first =
    read before first ++ read after (first + (breaks before + 1))
  read_cons {c : Char} (space : isSpace c = true) (unbroken : c ≠ '\n') (text : Text)
    (first : Int) : read (c :: text) first = read text first
  read_concat {c : Char} (space : isSpace c = true) (unbroken : c ≠ '\n') (text : Text)
    (first : Int) : read (text ++ [c]) first = read text first
  read_renumber {number : Int → Int} (text : Text) {first start : Int}
    (same : ∀ index : Nat, index ≤ breaks text → number (first + index) = start + index) :
    read text start = (read text first).map (renumber number)

namespace LineReader

variable {α : Type} (reader : LineReader α)

/-- What stands in front of a place keeps its lines. -/
theorem map_kept (c : Char) {text : Text} {first kept : Int}
    (small : first + breaks text ≤ kept) :
    (reader.read text first).map (reader.renumber (shiftBy c kept)) = reader.read text first :=
  (reader.read_renumber text fun _ inside => shiftBy_of_le c (by omega)).symm

/-- What stands behind a place moves by one when a line break is inserted there. -/
theorem map_moved {text : Text} {first kept : Int} (large : kept < first) :
    (reader.read text first).map (reader.renumber (shiftBy '\n' kept)) =
      reader.read text (first + 1) := by
  -- Every line of the text stands behind the place.
  refine (reader.read_renumber text fun index _ => ?_).symm
  rw [shiftBy_of_lt (by omega)]
  omega

/-- A line break in front of a text moves it by one line. -/
theorem read_cons_break (text : Text) (first : Int) :
    reader.read ('\n' :: text) first = reader.read text (first + 1) := by
  -- The empty line in front of the break is read as nothing.
  have split := reader.read_break [] text first
  rw [List.nil_append, reader.read_nil, List.nil_append] at split
  rw [split]
  rfl

/-- White space at the edge of a line moves what stands behind it and changes nothing else. -/
theorem read_insert {before after : Text} {kept : Nat} (edge : Edge before after kept)
    {c : Char} (space : isSpace c = true) (first : Int) :
    reader.read (before ++ c :: after) first =
      (reader.read (before ++ after) first).map
        (reader.renumber (shiftBy c (first - 1 + kept))) := by
  -- A break makes an empty line, and other white space is trimmed off the line that it joins.
  by_cases broken : c = '\n'
  · -- The break is read together with the text on one side of it, and the other side moves.
    subst broken
    cases edge with
    | front =>
      rw [List.nil_append, List.nil_append, read_cons_break, map_moved reader (by omega)]
    | start front =>
      rw [List.append_assoc, List.singleton_append, read_break, read_cons_break,
        List.append_assoc, List.singleton_append, read_break, List.map_append,
        map_kept reader _ (by omega), map_moved reader (by omega)]
    | stop _ after =>
      rw [read_break, read_break, List.map_append, map_kept reader _ (by omega),
        map_moved reader (by omega), read_cons_break]
    | last =>
      rw [read_break, reader.read_nil, List.append_nil, List.append_nil,
        map_kept reader _ (by omega)]
  · -- No line moves, and the line at the edge is read as without the white space.
    rw [shiftBy_of_ne broken, reader.renumber_id, List.map_id]
    cases edge with
    | front => exact reader.read_cons space broken _ first
    | start front =>
      rw [List.append_assoc, List.singleton_append, read_break, reader.read_cons space broken,
        List.append_assoc, List.singleton_append, read_break]
    | stop _ after =>
      -- The white space stands behind the last line of the text in front.
      have count : breaks (before ++ [c]) = breaks before := by simp [breaks, broken]
      have split : before ++ c :: '\n' :: after = (before ++ [c]) ++ '\n' :: after := by simp
      rw [split, read_break, reader.read_concat space broken, count, read_break]
    | last =>
      rw [List.append_nil]
      exact reader.read_concat space broken before first

end LineReader

/-- Lines are renumbered one by one. -/
theorem numberLines_renumber {number : Int → Int} (lines : List Text) {first start : Int}
    (same : ∀ index : Nat, index < lines.length → number (first + index) = start + index) :
    numberLines start lines = (numberLines first lines).map (NumberedLine.renumber number) := by
  -- By induction on the lines, of which the first keeps the number that it is given.
  induction lines generalizing first start with
  | nil => rfl
  | cons line others ih =>
    have here : number first = start := by simpa using same 0 (by simp)
    -- The other lines start one further on in both numberings.
    have later := @ih (first + 1) (start + 1) fun index small => by
      have moved := same (index + 1) (by simpa using small)
      rw [show first + 1 + (index : Int) = first + ((index + 1 : Nat) : Int) by omega, moved]
      omega
    simp [numberLines, later, NumberedLine.renumber, here]

/-- A text whose lines have other numbers is prepared line by line. -/
theorem prepareLines_renumber {number : Int → Int} (text : Text) {first start : Int}
    (same : ∀ index : Nat, index ≤ breaks text → number (first + index) = start + index) :
    prepareLines text start = (prepareLines text first).map (NumberedLine.renumber number) := by
  -- Numbering comes first, and lines are left out afterwards, whatever their numbers are.
  have numbered := @numberLines_renumber number ((lines text).map trim) first start
    fun index small => same index (by
      rw [List.length_map, length_lines] at small
      omega)
  rw [prepareLines, prepareLines, numbered, List.filter_map]
  rfl

/-- Numbering goes on behind the lines in front. -/
theorem numberLines_append (first : Int) (before after : List Text) :
    numberLines first (before ++ after) =
      numberLines first before ++ numberLines (first + before.length) after := by
  -- By induction on the lines in front, each of which moves the start by one.
  induction before generalizing first with
  | nil => simp [numberLines]
  | cons line others ih =>
    simp only [List.cons_append, numberLines, ih, List.length_cons]
    rw [show first + 1 + (others.length : Int) = first + ((others.length + 1 : Nat) : Int) by
      omega]

/-- The lines on either side of a line break are prepared on their own. -/
theorem prepareLines_append_break (before after : Text) (first : Int) :
    prepareLines (before ++ '\n' :: after) first =
      prepareLines before first ++ prepareLines after (first + (breaks before + 1)) := by
  -- The break separates the lines, and each side is trimmed and filtered on its own.
  rw [prepareLines, lines_append_break, List.map_append, numberLines_append, List.filter_append,
    List.length_map, length_lines]
  rfl

/-- A text is one line, or its last line stands behind a line break. -/
theorem exists_last_line (text : Text) :
    '\n' ∉ text ∨ ∃ before line, text = before ++ '\n' :: line ∧ '\n' ∉ line := by
  -- The last line starts behind the last break.
  by_cases broken : '\n' ∈ text
  · obtain ⟨line, before, split, unbroken⟩ :=
      List.eq_append_cons_of_mem (List.mem_reverse.mpr broken)
    refine .inr ⟨before.reverse, line.reverse, ?_, by simpa using unbroken⟩
    simpa using congrArg List.reverse split
  · exact .inl broken

/-- White space in front of a text is trimmed from its first line. -/
theorem prepareLines_cons_space {c : Char} (space : isSpace c = true) (unbroken : c ≠ '\n')
    (text : Text) (first : Int) : prepareLines (c :: text) first = prepareLines text first := by
  -- Only the first line has a new character, which is trimmed.
  have trimmed : (lines (c :: text)).map trim = (lines text).map trim := by
    have blank : ∀ d ∈ [c], isSpace d = true := by simpa using space
    have front := trim_append_left blank (cutWhere (· == '\n') text).1
    simpa [lines, splitWhere, cutWhere, unbroken] using front
  rw [prepareLines, prepareLines, trimmed]

/-- White space behind a text is trimmed from its last line. -/
theorem prepareLines_append_space {c : Char} (space : isSpace c = true) (unbroken : c ≠ '\n')
    (text : Text) (first : Int) : prepareLines (text ++ [c]) first = prepareLines text first := by
  have blank : ∀ d ∈ [c], isSpace d = true := by simpa using space
  -- On a single line the white space is trimmed, and only the last line gets it.
  have single : ∀ (line : Text) (first : Int), '\n' ∉ line →
      prepareLines (line ++ [c]) first = prepareLines line first := by
    intro line first whole
    have longer : '\n' ∉ line ++ [c] := by simp [whole, Ne.symm unbroken]
    rw [prepareLines, prepareLines, lines_single longer, lines_single whole]
    simp [trim_append_right blank]
  -- A longer text ends with its last line, and the lines in front of that stay.
  rcases exists_last_line text with whole | ⟨before, line, rfl, whole⟩
  · exact single text first whole
  · rw [List.append_assoc, List.cons_append, prepareLines_append_break, single line _ whole,
      prepareLines_append_break]

/-- The lines of a text are prepared one after another. -/
def preparedLines : LineReader NumberedLine where
  read := prepareLines
  renumber := NumberedLine.renumber
  renumber_id := rfl
  read_nil := fun _ => rfl
  read_break := prepareLines_append_break
  read_cons := prepareLines_cons_space
  read_concat := prepareLines_append_space
  read_renumber := prepareLines_renumber

end SourceLint
