import SourceLint.Proofs.Insertion.Comment

/-!
Removing comments on either side of a line break.

Of all that can be open at the end of a line, only a block comment goes on behind the line break. A
text that leaves none open is therefore read to its end, and what follows is read as a source of its
own whose lines have other numbers.
-/

namespace SourceLint.Comment

open Text

/-- Without an open block comment, nothing is left to say at the end of a source. -/
theorem stripFrom_nil_of_closed {place : Place} {line : Int}
    (closed : (stripFrom place line []).unclosed = none) :
    stripFrom place line [] = {} ∧ place.next = .code := by
  cases place with
  | blockComment start =>
    -- The comment would be reported as open.
    simp [stripFrom] at closed
  | code => exact ⟨rfl, rfl⟩
  | literal quote => exact ⟨rfl, rfl⟩
  | lineComment => exact ⟨rfl, rfl⟩

/--
A source whose comments all end lets the next line start outside of comments.

What is left of the source, and what is found in it, does not depend on what follows.
-/
theorem strip_append_break_eq_behind {first : Text} (closed : (strip first).unclosed = none)
    (second : Text) :
    strip (first ++ '\n' :: second) =
      (stripFrom .code (breaks first + 2) second).behind ((strip first).text ++ ['\n'])
        (strip first).nested := by
  obtain ⟨front, nested, place, -, -, -, read⟩ := strip_append first
  -- Read to its own end, the first text shows where it leaves the reader.
  have own : strip first =
      (stripFrom place ((breaks first + 1 : Nat) : Int) []).behind front nested := by
    have whole := read [] (by simp [Spaced])
    rwa [List.append_nil] at whole
  -- No comment is open at the end of the first text.
  rw [own] at closed
  obtain ⟨ended, outside⟩ := stripFrom_nil_of_closed closed
  have kept : (strip first).text = front := by
    rw [own, ended]
    simp [Stripped.behind]
  have found : (strip first).nested = nested := by
    rw [own, ended]
    simp [Stripped.behind]
  -- The second text starts behind as many breaks as the first one has, and one more.
  have number : ((breaks first + 1 : Nat) : Int) + 1 = breaks first + 2 := by omega
  rw [read ('\n' :: second) (by simp [Spaced]; decide), stripFrom_break, outside, number, kept,
    found]
  simp [Stripped.behind, Stripped.keep]

/--
Comments are removed from the two sides of a line break one by one.

This holds whenever no comment is left open in front of the line break. The lines of the second
text are counted on from those of the first, and a comment that it leaves open is left open by both
together.
-/
theorem strip_append_break {first : Text} (closed : (strip first).unclosed = none)
    (second : Text) :
    strip (first ++ '\n' :: second) =
      { text := (strip first).text ++ '\n' :: (strip second).text
        nested := (strip first).nested ++ (strip second).nested.map (· + (breaks first + 1 : Int))
        unclosed := (strip second).unclosed.map (· + (breaks first + 1 : Int)) } := by
  -- Behind the line break the second text is read as a source with other line numbers.
  have moved : stripFrom .code (breaks first + 2) second =
      (strip second).renumber (· + (breaks first + 1)) := by
    refine stripFrom_renumber .code second fun index _ => ?_
    omega
  -- What is left of both sides is put together around the line break.
  rw [strip_append_break_eq_behind closed, moved]
  simp [Stripped.behind, Stripped.renumber]

/-- A literal that ends in a backslash is cut off by the line break, and the next line is code. -/
theorem strip_append_break_escape :
    (strip "\x22//\\".toList).unclosed = none ∧
      (strip "/* /* */ /* a\n".toList).unclosed = some 1 ∧
      strip "\x22//\\\n/* /* */ /* a\n".toList =
        { text := "\x22//\\\n \n".toList, nested := [2], unclosed := some 2 } := by
  -- The first text closes its comments, so the two are read one by one.
  have closed : (strip "\x22//\\".toList).unclosed = none := by decide
  have parts : "\x22//\\\n/* /* */ /* a\n".toList =
      "\x22//\\".toList ++ '\n' :: "/* /* */ /* a\n".toList := by decide
  refine ⟨closed, by decide, ?_⟩
  rw [parts, strip_append_break closed]
  decide

end SourceLint.Comment
