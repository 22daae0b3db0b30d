import SourceLint.Proofs.Standing

/-!
The first clause of a loop header and the parenthesis of the header.

The clause is read up to the first semicolon behind the opening of the parenthesis. Where the
parenthesis closes is found by counting brackets outside literals. The two readings fit together
when a semicolon stands in the parenthesis and no literal in front of it holds another one.
-/

namespace SourceLint

open Text

/-- A run that ends at a character of a text ends at the same place of every longer text. -/
theorem Text.takeWhile_append_of_mem {c : Char} {text : Text} (member : c ∈ text) (more : Text) :
    (text ++ more).takeWhile (· != c) = text.takeWhile (· != c) := by
  -- The run ends inside the text, so it does not reach what follows.
  have ended : text.dropWhile (· != c) ≠ [] := by
    intro nothing
    have passed := List.dropWhile_eq_nil_iff.mp nothing c member
    simp at passed
  exact (takeWhile_append_ended ended more).1

/-- Trimming adds no characters. -/
theorem Text.mem_of_mem_trim {c : Char} {text : Text} (member : c ∈ trim text) : c ∈ text := by
  -- What is trimmed off stands around what is left.
  obtain ⟨lead, gap, whole, -, -⟩ := exists_eq_trim text
  rw [whole]
  simp [member]

/-- A character that trimming takes off nowhere is in a text when it is in what is left. -/
theorem Text.not_mem_of_trim {c : Char} (solid : isSpace c = false) {text : Text}
    (absent : c ∉ trim text) : c ∉ text := by
  obtain ⟨lead, gap, whole, leads, gaps⟩ := exists_eq_trim text
  rw [whole, List.mem_append, List.mem_append]
  -- What is trimmed off is white space.
  rintro (space | inner | space)
  · rw [leads c space] at solid
    cases solid
  · exact absent inner
  · rw [gaps c space] at solid
    cases solid

/-- In front of the first occurrence of a character there is none. -/
theorem Text.not_mem_takeWhile (c : Char) (text : Text) : c ∉ text.takeWhile (· != c) := by
  -- Every character of the run has passed the test.
  intro member
  have passed := List.mem_takeWhile_imp member
  simp at passed

/-- What holds no such character is what stands in front of the first one. -/
theorem Text.takeWhile_of_not_mem {c : Char} {front : Text} (absent : c ∉ front) (rest : Text) :
    (front ++ c :: rest).takeWhile (· != c) = front := by
  -- The run passes what holds none, and stops at the character.
  rw [takeWhile_append_stop (by simp), List.takeWhile_eq_self_iff]
  intro d member
  rw [bne_iff_ne]
  rintro rfl
  exact absent member

/-- A text with a character is split at the first one. -/
theorem Text.exists_split_first {c : Char} {text : Text} (member : c ∈ text) :
    ∃ rest, text = text.takeWhile (· != c) ++ c :: rest := by
  -- The text is passed over up to the first such character.
  cases left : text.dropWhile (· != c) with
  | nil =>
    have passed := List.dropWhile_eq_nil_iff.mp left c member
    simp at passed
  | cons d rest =>
    have stops := List.head?_dropWhile_not (· != c) text
    have same : d = c := by simpa [left] using stops
    refine ⟨rest, ?_⟩
    rw [← same, ← left, same, List.takeWhile_append_dropWhile]

namespace Statement

variable {line clauses inside after clause : Text}

/-- A loop header in front of a clause holds no quotes. -/
theorem behind_loopHeader
    (opened : afterOpening? ["for".toList] (skipSpace line) = some clauses) :
    Behind (isQuote · = false) line clauses := by
  -- What is read in front of the clauses is white space, the word and the parenthesis.
  have spaces : ∀ c, isSpace c = true → isQuote c = false := fun c => isQuote_of_isSpace
  exact (behind_skipSpace spaces line).trans
    (behind_of_afterOpening? spaces (by decide) (by decide) opened)

/-- The first clause ends at the first semicolon behind the opening. -/
theorem eq_trim_of_loopStart?
    (opened : afterOpening? ["for".toList] (skipSpace line) = some clauses)
    (found : loopStart? line = some clause) :
    clause = trim (clauses.takeWhile (· != ';')) ∧ ';' ∈ clauses := by
  -- The reader takes the clause only with a semicolon behind it.
  unfold loopStart? at found
  rw [opened, Option.bind_some] at found
  simp only [Option.ite_none_right_eq_some, Bool.and_eq_true, List.contains_iff_mem] at found
  exact ⟨(Option.some.inj found.2).symm, found.1.1⟩

/-- The first clause of a loop header ends in front of a semicolon. -/
theorem trails_loopStart? (found : loopStart? line = some clause) :
    ∃ whole rest, line = whole ++ ';' :: rest ∧ ∃ front, Trails whole front clause := by
  -- The clause is what stands in front of the first semicolon.
  obtain ⟨clauses, opened, -⟩ := Option.bind_eq_some_iff.mp found
  obtain ⟨clauseText, semicolon⟩ := eq_trim_of_loopStart? opened found
  obtain ⟨head, split, plain⟩ := behind_loopHeader opened
  obtain ⟨rest, parts⟩ := exists_split_first semicolon
  obtain ⟨lead, trimmed, -⟩ := trails_trim (clauses.takeWhile (· != ';'))
  -- The word, the white space and the parenthesis in front hold no literal.
  have header : Trails (head ++ clauses.takeWhile (· != ';')) head
      (clauses.takeWhile (· != ';')) :=
    ⟨closed_of_plain plain, [], by simp, by simp⟩
  refine ⟨head ++ clauses.takeWhile (· != ';'), rest, ?_, _, clauseText ▸ header.trans trimmed⟩
  rw [List.append_assoc, ← parts, split]

/-- Between the parentheses of its header a line shows what the enclosed text shows on its own. -/
theorem getElem?_mask_inside
    (opened : afterOpening? ["for".toList] (skipSpace line) = some clauses)
    (closed : closeParen? clauses = some (inside, after)) {head part : Text}
    (split : line = head ++ clauses) (within : part.length < inside.length) :
    (mask line)[(head ++ part).length]? = (mask inside)[part.length]? := by
  -- The header in front has no quotes, and the text inside closes its literals.
  obtain ⟨whole, balanced⟩ := closed_of_closeParen? closed
  obtain ⟨front, same, plain⟩ := behind_loopHeader opened
  obtain rfl : front = head := List.append_cancel_right (same.symm.trans split)
  -- The header in front shows as it is, and no literal is open behind the enclosed text.
  have header : mask line = front ++ mask clauses := by
    rw [split]
    exact maskWith_append_plain ['s'] plain clauses
  have view : mask clauses = mask inside ++ mask (')' :: after) := whole ▸ balanced 's' _
  rw [header, List.length_append, List.getElem?_append_right (Nat.le_add_right _ _),
    Nat.add_sub_cancel_left, view, List.getElem?_append_left (by rwa [length_mask])]

/--
The first clause of a loop header ends inside the parenthesis and outside literals exactly when the
first semicolon of the parenthesis shows in its masked view.

Without a semicolon inside, the clause goes on behind the parenthesis. If a literal holds the first
semicolon, the clause ends in that literal.
-/
theorem loopStart?_within_iff
    (opened : afterOpening? ["for".toList] (skipSpace line) = some clauses)
    (closed : closeParen? clauses = some (inside, after))
    (found : loopStart? line = some clause) :
    (∃ head part rest, line = head ++ clauses ∧ clauses = part ++ ';' :: rest ∧
        clause = trim part ∧ part.length < inside.length ∧
        (mask line)[(head ++ part).length]? = some ';') ↔
      (mask inside)[(inside.takeWhile (· != ';')).length]? = some ';' := by
  obtain ⟨whole, -⟩ := closed_of_closeParen? closed
  obtain ⟨clauseText, semicolon⟩ := eq_trim_of_loopStart? opened found
  constructor
  · rintro ⟨head, part, rest, split, cut, trimmed, within, shows⟩
    -- The part holds no semicolon, since the clause holds none.
    have absent : ';' ∉ part := by
      refine not_mem_of_trim (by decide) fun member => not_mem_takeWhile ';' clauses ?_
      rw [← trimmed, clauseText] at member
      exact mem_of_mem_trim member
    -- So it is what the parenthesis has in front of its first semicolon.
    have held : inside.takeWhile (· != ';') = part := by
      rcases List.append_eq_append_iff.mp (cut.symm.trans whole) with
        ⟨tail, split, behind⟩ | ⟨tail, split, -⟩
      · cases tail with
        | nil => cases behind
        | cons c tail =>
          obtain rfl : ';' = c := (List.cons.inj behind).1
          rw [split, takeWhile_of_not_mem absent]
      · rw [split, List.length_append] at within
        omega
    rw [held, ← getElem?_mask_inside opened closed split within, shows]
  · -- The semicolon that shows is one of the text inside, so the clause ends there.
    intro shows
    have member : ';' ∈ inside := by
      rcases getElem?_mask shows with fill | own
      · cases fill
      · exact List.mem_of_getElem? own
    obtain ⟨rest, split⟩ := exists_split_first member
    have within : (inside.takeWhile (· != ';')).length < inside.length := by
      have length := congrArg List.length split
      simp only [List.length_append, List.length_cons] at length
      omega
    obtain ⟨head, line, -⟩ := behind_loopHeader opened
    -- The parts in front of the semicolon and behind it make up the line.
    refine ⟨head, inside.takeWhile (· != ';'), rest ++ ')' :: after, line, ?_, ?_, within, ?_⟩
    · rw [← List.cons_append, ← List.append_assoc, ← split, whole]
    · rw [clauseText, whole, takeWhile_append_of_mem member]
    · rw [getElem?_mask_inside opened closed line within, shows]

/-- A header with a parenthesis in a literal, in front of a body with a semicolon in another one. -/
theorem loopStart?_within_iff_literal :
    let line := "  for (int i = f(')', 0); i < 3; i++) s = \";\";".toList
    let clauses := "int i = f(')', 0); i < 3; i++) s = \";\";".toList
    let inside := "int i = f(')', 0); i < 3; i++".toList
    let clause := "int i = f(')', 0)".toList
    afterOpening? ["for".toList] (skipSpace line) = some clauses ∧
      closeParen? clauses = some (inside, " s = \";\";".toList) ∧
      loopStart? line = some clause ∧
      ∃ head part rest, line = head ++ clauses ∧ clauses = part ++ ';' :: rest ∧
        clause = trim part ∧ part.length < inside.length ∧
        (mask line)[(head ++ part).length]? = some ';' := by
  -- The header, the clause and the place of the semicolon can be evaluated.
  refine ⟨by decide, by decide, by decide, ?_⟩
  exact (@loopStart?_within_iff _ _ _ " s = \";\";".toList _ (by decide) (by decide)
    (by decide)).mpr (by decide)

/--
A loop without semicolons in its header takes its body for a clause.

The second loop has a literal with a semicolon, and its clause ends in that literal.
-/
theorem loopClause_leaves_header :
    loopStart? "for (x) y = 1;".toList = some "x) y = 1".toList ∧
      closeParen? "x) y = 1;".toList = some ("x".toList, " y = 1;".toList) ∧
      effective "for (x) y = 1;".toList false = ["x) y = 1".toList, "y = 1".toList] ∧
      loopStart? "for (s = \";\"; s; ) s++;".toList = some "s = \"".toList ∧
      mask "for (s = \";\"; s; ) s++;".toList = "for (s = \"s\"; s; ) s++;".toList := by
  decide +kernel

end Statement

end SourceLint
