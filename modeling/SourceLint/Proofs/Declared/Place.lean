import SourceLint.Proofs.Redeclaration.Item
import SourceLint.Proofs.Text.Scanning

/-!
Where a line writes the names that it declares.

Whatever headers, types and other variables come before it, a declared name stands outside the
literals of its line, behind white space or a comma, and no word goes on behind it.
-/

namespace SourceLint

open Text

namespace Statement

/-- The first clause of a loop header stands in its line. -/
theorem stands_loopStart? {line clause : Text} (found : loopStart? line = some clause) :
    ∃ front, Stands line front clause := by
  obtain ⟨whole, rest, split, front, trails⟩ := trails_loopStart? found
  obtain ⟨gap, parts, blank⟩ := trails.placed
  refine ⟨front, trails.closed, gap ++ ';' :: rest, by simp [split, parts], ?_⟩
  -- Behind the clause is white space, or the semicolon.
  cases gap with
  | nil => rfl
  | cons c gap => exact isWord_of_isSpace (blank c (by simp))

/-- The statements of a line stand in it. -/
theorem stands_of_mem_effective {line statement : Text} {withUnterminated : Bool}
    (listed : statement ∈ effective line withUnterminated) (filled : statement ≠ []) :
    ∃ front, Stands line front statement := by
  -- The statements of a line are the first clause of a loop, and what pieces of the line leave.
  obtain ⟨bodies, parts, fewer⟩ := exists_effective line withUnterminated
  rw [parts] at listed
  rcases List.mem_append.mp listed with loop | member
  · exact stands_loopStart? (Option.mem_toList.mp loop)
  · -- Any other statement is what a piece between semicolons leaves.
    obtain ⟨piece, cut, rfl⟩ := List.mem_map.mp (fewer.subset member)
    obtain ⟨front, outer, -⟩ := stands_of_mem_splitTop (by simp; decide) cut
    obtain ⟨lead, trimmed, -⟩ := trails_trim piece
    obtain ⟨inner, left⟩ := trails_body filled
    exact ⟨_, outer.trans (trimmed.trans left).stands⟩

end Statement

namespace Declaration

/-- A character that separates a declared name from what comes before it. -/
def isGap (c : Char) : Bool :=
  isSpace c || c == ','

/-- The name of a variable stands in the text of the variable, behind white space at most. -/
theorem stands_itemOf (part : Text) :
    ∃ lead, Stands part lead (itemOf part).name ∧ ∀ c ∈ lead, isSpace c = true := by
  -- With or without a value, the name is what comes before the first equals sign.
  have named : (itemOf part).name = trim (cutTop (· == '=') part).1 := by
    unfold itemOf
    split <;> simp_all
  have first : Stands part [] (cutTop (· == '=') part).1 := stands_cutTop (by simp; decide) part
  obtain ⟨lead, trimmed, blank⟩ := trails_trim (cutTop (· == '=') part).1
  rw [named]
  exact ⟨lead, first.trans trimmed.stands, blank⟩

/-- The names of a declaration stand in its statement, behind white space or a comma. -/
theorem stands_of_parse? {statement : Text} {declaration : Declaration} {item : Item}
    (read : parse? statement = some declaration) (listed : item ∈ declaration.items) :
    ∃ front, Stands statement front item.name ∧ front.getLast?.any isGap = true := by
  -- The statement has been cut into its type and the list of its variables.
  obtain ⟨⟨type, declared⟩, cut, parsed⟩ := Option.bind_eq_some_iff.mp read
  dsimp only at parsed
  split at parsed
  · cases parsed
  cases parsed
  obtain ⟨part, member, rfl⟩ := List.mem_map.mp listed
  -- The name stands in its part, the part in the list of variables, and the list behind the type.
  obtain ⟨outer, behind, spaced⟩ := trails_of_split? cut
  obtain ⟨middle, piece, commas⟩ := stands_of_mem_splitTop (by simp; decide) member
  obtain ⟨lead, named, blank⟩ := stands_itemOf part
  refine ⟨_, behind.stands.trans (piece.trans named), ?_⟩
  -- In front of the name is white space of its own, the comma before it, or what ends the type.
  rw [List.getLast?_append, List.getLast?_append]
  cases last : lead.getLast? with
  | some c => simp [isGap, blank c (List.mem_of_getLast? last)]
  | none =>
    cases before : middle.getLast? with
    | some c =>
      rw [before] at commas
      simp_all [isGap]
    | none =>
      obtain ⟨c, ends, space⟩ := (Option.any_eq_true ..).mp spaced
      simp [ends, isGap, space]

/-- The names that a line declares stand in it, behind white space or a comma. -/
theorem stands_of_mem_namesOn {line name : Text} (listed : name ∈ namesOn line) :
    ∃ front, Stands line front name ∧ front.getLast?.any isGap = true := by
  -- The name was read in one of the statements of the line.
  unfold namesOn at listed
  rw [mem_distinct, List.mem_flatMap] at listed
  obtain ⟨statement, shown, member⟩ := listed
  split at member
  · rename_i declaration read
    obtain ⟨item, items, rfl⟩ := List.mem_map.mp member
    obtain ⟨inner, named, gap⟩ := stands_of_parse? read items
    -- Something stands in front of the name, so the statement is not empty.
    have filled : statement ≠ [] := by
      rintro rfl
      obtain ⟨back, whole, -⟩ := named.placed
      rw [(List.append_eq_nil_iff.mp whole.symm).1] at gap
      cases gap
    obtain ⟨front, outer⟩ := Statement.stands_of_mem_effective shown filled
    -- What stands in front of it ends with a gap, in the statement and in the line.
    refine ⟨_, outer.trans named, ?_⟩
    obtain ⟨c, ends, gap⟩ := (Option.any_eq_true ..).mp gap
    rw [List.getLast?_append, ends]
    exact gap
  · cases member

end Declaration

end SourceLint
