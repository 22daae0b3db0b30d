import Mathlib.Data.List.TakeWhile
import SourceLint.Text.Basic

/-! Leading and trailing runs of characters in texts that are put together from parts. -/

namespace SourceLint.Text

/-- A run ends with the first part of a text when the second part starts with something else. -/
theorem takeWhile_append_stop {p : Char → Bool} {second : Text}
    (stops : second.head?.any p = false) (first : Text) :
    (first ++ second).takeWhile p = first.takeWhile p := by
  -- Even if the run takes the whole first part, it takes nothing of the second one.
  have none : second.takeWhile p = [] := by cases second <;> simp_all
  rw [List.takeWhile_append, none, List.append_nil]
  split
  · rename_i whole
    exact ((List.takeWhile_prefix p).eq_of_length whole).symm
  · rfl

/-- What a run leaves of a first part is followed by a second part that does not go on with it. -/
theorem dropWhile_append_stop {p : Char → Bool} {second : Text}
    (stops : second.head?.any p = false) (first : Text) :
    (first ++ second).dropWhile p = first.dropWhile p ++ second := by
  -- The run takes nothing of the second part.
  have all : second.dropWhile p = second := by cases second <;> simp_all
  rw [List.dropWhile_append, all]
  split
  · rename_i whole
    rw [List.isEmpty_iff.mp whole, List.nil_append]
  · rfl

/-- A run that ends inside the first part of a text does not see the second part. -/
theorem takeWhile_append_ended {p : Char → Bool} {first : Text} (ended : first.dropWhile p ≠ [])
    (second : Text) : (first ++ second).takeWhile p = first.takeWhile p ∧
      (first ++ second).dropWhile p = first.dropWhile p ++ second := by
  -- A run that leaves something is shorter than the part.
  have shorter : (first.takeWhile p).length ≠ first.length := by
    intro whole
    have split := congrArg List.length (List.takeWhile_append_dropWhile (p := p) (l := first))
    rw [List.length_append, whole] at split
    exact ended (List.length_eq_zero_iff.mp (by omega))
  -- So the run ends inside the part, with and without the second one.
  rw [List.takeWhile_append, List.dropWhile_append, if_neg shorter,
    if_neg (fun empty => ended (List.isEmpty_iff.mp empty))]
  exact ⟨rfl, rfl⟩

/-- What is left behind a run is what the run leaves. -/
theorem drop_length_takeWhile (p : Char → Bool) (text : Text) :
    text.drop (text.takeWhile p).length = text.dropWhile p := by
  -- The run and what it leaves make up the text.
  calc text.drop (text.takeWhile p).length
      = (text.takeWhile p ++ text.dropWhile p).drop (text.takeWhile p).length := by
        rw [List.takeWhile_append_dropWhile]
    _ = text.dropWhile p := List.drop_left

/-- White space in front of a text is skipped together with the white space it starts with. -/
theorem skipSpace_append {space : Text} (blank : ∀ c ∈ space, isSpace c = true) (text : Text) :
    skipSpace (space ++ text) = skipSpace text :=
  List.dropWhile_append_of_pos blank

/-- The white space at the front of a text is all that is skipped. -/
theorem exists_gap_of_skipSpace (text : Text) :
    ∃ gap, text = gap ++ skipSpace text ∧ ∀ c ∈ gap, isSpace c = true :=
  ⟨text.takeWhile isSpace, List.takeWhile_append_dropWhile.symm, fun _ => List.mem_takeWhile_imp⟩

/-- Nothing is skipped of a text that starts with something else than white space. -/
theorem skipSpace_of_head {text : Text} (starts : text.head?.any isSpace = false) :
    skipSpace text = text := by
  simpa [skipSpace] using dropWhile_append_stop starts []

/-- What is left when white space is skipped does not go on with it. -/
theorem head?_skipSpace (text : Text) : (skipSpace text).head?.any isSpace = false := by
  -- The first character that is left is the one that ended the run.
  have first := List.head?_dropWhile_not isSpace text
  unfold skipSpace
  cases left : (text.dropWhile isSpace).head? with
  | none => rfl
  | some c => simpa [left] using first

/-- Nothing is trimmed behind a text that ends with something else than white space. -/
theorem trimRight_of_last {text : Text} (ends : text.getLast?.any isSpace = false) :
    trimRight text = text := by
  -- Seen from behind, the last character is the first one.
  have starts : text.reverse.head?.any isSpace = false := by simpa using ends
  have kept : text.reverse.dropWhile isSpace = text.reverse := skipSpace_of_head starts
  rw [trimRight, kept, List.reverse_reverse]

/-- A text with something else than white space at both ends is left as it is. -/
theorem trim_of_ends {text : Text} (starts : text.head?.any isSpace = false)
    (ends : text.getLast?.any isSpace = false) : trim text = text := by
  rw [trim, skipSpace_of_head starts, trimRight_of_last ends]

/-- A trimmed text does not end with white space. -/
theorem getLast?_trim (text : Text) : (trim text).getLast?.any isSpace = false := by
  -- Seen from behind, the text starts with the first character that is no white space.
  rw [trim, trimRight, List.getLast?_reverse]
  exact head?_skipSpace (skipSpace text).reverse

/-- A trimmed text does not start with white space. -/
theorem head?_trim (text : Text) : (trim text).head?.any isSpace = false := by
  -- What is trimmed behind the text leaves its front as it is.
  have front : trim text <+: skipSpace text := by
    rw [trim, trimRight, ← List.reverse_suffix, List.reverse_reverse]
    exact List.dropWhile_suffix isSpace
  -- If anything is left, its first character is the one that is not skipped.
  cases left : trim text with
  | nil => rfl
  | cons c rest =>
    obtain ⟨more, split⟩ := left ▸ front
    have first := head?_skipSpace text
    rw [← split] at first
    exact first

/-- White space behind a text is trimmed together with the white space it ends with. -/
theorem trimRight_append {space : Text} (blank : ∀ c ∈ space, isSpace c = true) (text : Text) :
    trimRight (text ++ space) = trimRight text := by
  -- Seen from behind, the white space comes first.
  have reversed : ∀ c ∈ space.reverse, isSpace c = true := by simpa using blank
  simp only [trimRight, List.reverse_append]
  rw [List.dropWhile_append_of_pos reversed]

/-- White space in front of a text is trimmed. -/
theorem trim_append_left {space : Text} (blank : ∀ c ∈ space, isSpace c = true) (text : Text) :
    trim (space ++ text) = trim text := by
  rw [trim, skipSpace_append blank, trim]

/-- White space behind a text is trimmed. -/
theorem trim_append_right {space : Text} (blank : ∀ c ∈ space, isSpace c = true) (text : Text) :
    trim (text ++ space) = trim text := by
  -- Either something of the text is left in front of the white space, or nothing is.
  simp only [trim, skipSpace]
  rw [List.dropWhile_append]
  split
  case isTrue empty =>
    have nothing : text.dropWhile isSpace = [] := by simpa using empty
    have skipped : space.dropWhile isSpace = [] := List.dropWhile_eq_nil_iff.mpr blank
    rw [nothing, skipped]
  -- What is left ends with the gap, which is trimmed from the right.
  case isFalse => exact trimRight_append blank _

/-- A text with characters ends with one. -/
theorem exists_getLast? {text : Text} (filled : text ≠ [])
    (ends : text.getLast?.any isSpace = false) :
    ∃ c, text.getLast? = some c ∧ isSpace c = false := by
  -- A last character exists, and the hypothesis is about it.
  have last := List.getLast?_eq_some_getLast filled
  exact ⟨text.getLast filled, last, by simpa [last] using ends⟩

/-- The white space at the end of a text is all that is trimmed there. -/
theorem exists_gap_of_trimRight (text : Text) :
    ∃ gap, text = trimRight text ++ gap ∧ ∀ c ∈ gap, isSpace c = true := by
  refine ⟨(text.reverse.takeWhile isSpace).reverse, ?_,
    fun c member => List.mem_takeWhile_imp (List.mem_reverse.mp member)⟩
  -- The trailing white space is the leading one seen from behind.
  rw [trimRight, ← List.reverse_append, List.takeWhile_append_dropWhile, List.reverse_reverse]

/-- What is left when the end of a text is trimmed starts like the text. -/
theorem head?_trimRight {p : Char → Bool} {text : Text} (starts : text.head?.any p = false) :
    (trimRight text).head?.any p = false := by
  -- The gap is trimmed from the end, so the first character stays while any is left.
  obtain ⟨gap, split, -⟩ := exists_gap_of_trimRight text
  cases left : trimRight text with
  | nil => rfl
  | cons c rest =>
    rw [split, left] at starts
    exact starts

/-- White space that is trimmed behind a text is trimmed once. -/
theorem trim_trimRight (text : Text) : trim (trimRight text) = trim text := by
  -- The gap that was trimmed once can be put back.
  obtain ⟨gap, split, blank⟩ := exists_gap_of_trimRight text
  calc trim (trimRight text)
      = trim (trimRight text ++ gap) := (trim_append_right blank _).symm
    _ = trim text := by rw [← split]

/-- What ends with something else than white space stays in front of what is trimmed. -/
theorem trimRight_append_stop {first : Text} (ends : first.getLast?.any isSpace = false)
    (second : Text) : trimRight (first ++ second) = first ++ trimRight second := by
  -- Seen from behind, the white space ends in front of the first part.
  have stops : first.reverse.head?.any isSpace = false := by simpa using ends
  rw [trimRight, List.reverse_append, dropWhile_append_stop stops, List.reverse_append,
    List.reverse_reverse, trimRight]

/-- A text is its trimmed part between white space. -/
theorem exists_eq_trim (text : Text) : ∃ lead gap, text = lead ++ (trim text ++ gap) ∧
    (∀ c ∈ lead, isSpace c = true) ∧ ∀ c ∈ gap, isSpace c = true := by
  -- White space is trimmed in front first, and behind afterwards.
  obtain ⟨lead, split, blank⟩ := exists_gap_of_skipSpace text
  obtain ⟨gap, inner, white⟩ := exists_gap_of_trimRight (skipSpace text)
  exact ⟨lead, gap, by rw [trim, ← inner, ← split], blank, white⟩

end SourceLint.Text
