import SourceLint.Proofs.Statements.Beside
import SourceLint.Proofs.StraightLine.Statement
import SourceLint.Proofs.Text.Pieces

/-!
The statements of a line, written again.

A line has statements that are trimmed and not empty, and none of them is cut once more. All but the
last one close their brackets and literals in front of the semicolon. Lists of this kind are read
back from what they are written as, so writing the statements of a line loses nothing but white
space and empty statements.
-/

namespace SourceLint

open Text

namespace Statement

/-- Statements on one line, with a semicolon and a space behind every one that is terminated. -/
def written (statements : List Statement) : Text :=
  statements.flatMap fun statement =>
    statement.text ++ if statement.terminated then [';', ' '] else []

/-- What a statement is made of: something that starts and ends with other than white space. -/
structure Solid (text : Text) : Prop where
  filled : text ≠ []
  trimmed : trim text = text

/-- What is left of a text that is not blank is solid. -/
theorem solid_trim {text : Text} (filled : trim text ≠ []) : Solid (trim text) :=
  ⟨filled, trim_of_ends (head?_trim text) (getLast?_trim text)⟩

/-- Lists of statements as lines have them. -/
inductive Normal : (statements : List Statement) → Prop
  | nil : Normal []
  /-- The last statement may lack its semicolon, and it may leave brackets and literals open. -/
  | unterminated {text : Text} (solid : Solid text) (uncut : (cutTop (· == ';') text).2 = []) :
      Normal [⟨text, false⟩]
  /-- A statement in front of a semicolon closes all it opens. -/
  | terminated {text : Text} {others : List Statement} (solid : Solid text)
      (settled : Settled (· == ';') text) (behind : Normal others) :
      Normal (⟨text, true⟩ :: others)

/-- A text that no semicolon cuts is a statement without one, unless it is blank. -/
theorem split_uncut {text : Text} (uncut : (cutTop (· == ';') text).2 = []) :
    split text = if trim text = [] then [] else [⟨trim text, false⟩] := by
  -- There is one piece, which is dropped if it is blank.
  rw [split, cutTop_eq_of_uncut uncut]
  by_cases blank : trim text = [] <;> simp [ofPieces, blank]

/-- A solid text that no semicolon cuts is its own statement. -/
theorem Solid.split_uncut {text : Text} (solid : Solid text)
    (uncut : (cutTop (· == ';') text).2 = []) : split text = [⟨text, false⟩] := by
  rw [Statement.split_uncut uncut, solid.trimmed, if_neg solid.filled]

/-- No semicolon is white space. -/
theorem semicolon_of_isSpace {c : Char} (space : isSpace c = true) : (c == ';') = false :=
  beq_eq_false_iff_ne.mpr (ne_of_class space (by decide))

/-- The statements of a line are such a list. -/
theorem normal_split (line : Text) : Normal (split line) := by
  rcases cut : cutTop (· == ';') line with ⟨first, others⟩
  -- The pieces are cut off one after the other, and blank ones are left out.
  induction others generalizing line first with
  | nil =>
    have uncut : (cutTop (· == ';') line).2 = [] := congrArg Prod.snd cut
    -- Trimming may end inside a literal, but it uncovers no semicolon there.
    rw [split_uncut uncut]
    split
    · exact .nil
    · rename_i filled
      exact .unterminated (solid_trim filled)
        (uncut_trim (fun _ => semicolon_of_isSpace) uncut)
  | cons next later ih =>
    -- The first piece ends at a semicolon that cuts, and what follows is cut anew.
    obtain ⟨c, rest, rfl, semicolon, settled, behind⟩ := exists_of_cutTop (by simp; decide) cut
    obtain rfl := beq_iff_eq.mp semicolon
    rw [split_settled settled]
    have others := ih rest next behind
    split
    · exact others
    · rename_i filled
      exact .terminated (solid_trim filled) (settled.trim fun _ => semicolon_of_isSpace) others

namespace Normal

variable {statements : List Statement}

/-- Such a list is read back from what it is written as. -/
theorem split_written (normal : Normal statements) : split (written statements) = statements := by
  -- By induction on the list, which is written statement by statement.
  induction normal with
  | nil => rfl
  | @unterminated text solid uncut =>
    have whole : written [⟨text, false⟩] = text := by simp [written]
    rw [whole, solid.split_uncut uncut]
  | @terminated text others solid settled _ ih =>
    -- The space behind the semicolon goes to the next piece, which is trimmed.
    have whole : written (⟨text, true⟩ :: others) = text ++ ';' :: ' ' :: written others := by
      simp [written]
    rw [whole, split_settled settled, solid.trimmed, if_neg solid.filled, split_space, ih]
    rfl

/-- These lists are the only ones that lines have. -/
theorem exists_split_iff : (∃ line, split line = statements) ↔ Normal statements := by
  -- A list of this kind is written as a line that has it.
  constructor
  · rintro ⟨line, rfl⟩
    exact normal_split line
  · exact fun normal => ⟨written statements, normal.split_written⟩

/-- No statement of the list is cut once more. -/
theorem split_text (normal : Normal statements) {statement : Statement}
    (listed : statement ∈ statements) :
    Solid statement.text ∧ split statement.text = [⟨statement.text, false⟩] := by
  -- Each statement is solid and holds no semicolon that cuts it.
  induction normal with
  | nil => cases listed
  | unterminated solid uncut =>
    obtain rfl := List.mem_singleton.mp listed
    exact ⟨solid, solid.split_uncut uncut⟩
  | terminated solid settled _ ih =>
    rcases List.mem_cons.mp listed with rfl | behind
    · exact ⟨solid, solid.split_uncut settled.uncut⟩
    · exact ih behind

/-- Only the last statement of the list lacks its semicolon. -/
theorem terminated_of_mem_dropLast (normal : Normal statements) {statement : Statement}
    (listed : statement ∈ statements.dropLast) : statement.terminated = true := by
  -- By induction on the list.
  induction normal with
  | nil | unterminated => cases listed
  | @terminated text others _ _ _ ih =>
    cases others with
    | nil => cases listed
    | cons next later =>
      -- A statement with another one behind it has its semicolon.
      rcases List.mem_cons.mp listed with rfl | behind
      · rfl
      · exact ih behind

end Normal

/--
The statements of a line are in a normal form.

They are trimmed and not empty, only the last one may lack its semicolon, and they are read back
from what they are written as. Each of them read on its own is the same statement, unterminated.
-/
theorem split_normalizes (line : Text) :
    (∀ statement ∈ split line,
        statement.text ≠ [] ∧ trim statement.text = statement.text) ∧
      (∀ statement ∈ (split line).dropLast, statement.terminated = true) ∧
      split (written (split line)) = split line ∧
      ∀ statement ∈ split line, split statement.text = [⟨statement.text, false⟩] := by
  -- All of it holds of every list in normal form.
  have normal := normal_split line
  refine ⟨fun statement listed => ?_, fun _ => normal.terminated_of_mem_dropLast,
    normal.split_written, fun _ listed => (normal.split_text listed).2⟩
  obtain ⟨⟨filled, trimmed⟩, -⟩ := normal.split_text listed
  exact ⟨filled, trimmed⟩

/-- Empty pieces are left out, and a literal that is left open is trimmed behind its last escape. -/
theorem split_normalizes_open :
    let line := " f(a; b) ;; s = \";\" ; t = \"x; \\  ".toList
    let statements : List Statement :=
      [⟨"f(a; b)".toList, true⟩, ⟨"s = \";\"".toList, true⟩, ⟨"t = \"x; \\".toList, false⟩]
    split line = statements ∧
      split "f(a; b); s = \";\"; t = \"x; \\".toList = statements ∧
      ∀ statement ∈ statements, split statement.text = [⟨statement.text, false⟩] := by
  -- The statements of the line are evaluated once.
  intro line statements
  have cut : split line = statements := by decide +kernel
  -- The theorem says that they are read back, all together and one by one.
  obtain ⟨-, -, again, alone⟩ := split_normalizes line
  rw [cut] at again alone
  exact ⟨cut, again, alone⟩

end Statement

end SourceLint
