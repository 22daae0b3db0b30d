import SourceLint.Validator

/-! The numbers of the lines that are checked. -/

namespace SourceLint

open Text

/-- A numbered line stands where its number says. -/
theorem exists_of_mem_numberLines {first : Int} {texts : List Text} {line : NumberedLine}
    (member : line ∈ numberLines first texts) :
    ∃ index : Nat, texts[index]? = some line.text ∧ line.number = first + index := by
  -- By induction on the texts.
  induction texts generalizing first with
  | nil => cases member
  | cons text others ih =>
    rcases List.mem_cons.mp member with rfl | later
    · exact ⟨0, rfl, by simp⟩
    · -- The lines behind the first one are numbered from the next number on.
      obtain ⟨index, found, number⟩ := ih later
      refine ⟨index + 1, by simpa using found, ?_⟩
      rw [number]
      omega

/-- A line that is checked is a trimmed line of the text and stands where its number says. -/
theorem exists_of_mem_prepareLines {text : Text} {first : Int} {line : NumberedLine}
    (member : line ∈ prepareLines text first) :
    ∃ (index : Nat) (raw : Text), (lines text)[index]? = some raw ∧ line.text = trim raw ∧
      line.number = first + index := by
  -- Trimming keeps the number of lines, and the filter keeps the numbers.
  obtain ⟨index, found, number⟩ := exists_of_mem_numberLines (List.mem_filter.mp member).1
  rw [List.getElem?_map, Option.map_eq_some_iff] at found
  obtain ⟨raw, listed, trimmed⟩ := found
  exact ⟨index, raw, listed, trimmed.symm, number⟩

/-- Lines are numbered upwards. -/
theorem ascending_numberLines (first : Int) (texts : List Text) :
    (numberLines first texts).Pairwise fun line later => line.number < later.number := by
  -- Every later number is the next one at least.
  induction texts generalizing first with
  | nil => exact .nil
  | cons text others ih =>
    refine .cons (fun later member => ?_) (ih (first + 1))
    obtain ⟨index, -, number⟩ := exists_of_mem_numberLines member
    show first < later.number
    omega

/-- The lines that are checked are numbered upwards. -/
theorem ascending_prepareLines (text : Text) (first : Int) :
    (prepareLines text first).Pairwise fun line later => line.number < later.number :=
  (ascending_numberLines first _).filter _

end SourceLint
