import SourceLint.Text.Literal

/-! Brackets outside literals: where an open one closes, and splitting where none is open. -/

namespace SourceLint.Text

/-- The three kinds of opening bracket. -/
def isOpening (c : Char) : Bool :=
  c == '(' || c == '[' || c == '{'

/-- The three kinds of closing bracket. -/
def isClosing (c : Char) : Bool :=
  c == ')' || c == ']' || c == '}'

/--
What lies before and after the bracket that closes `depth` inner ones and then the current one.

Only the masked characters count as brackets. There is no answer when the bracket stays open.
-/
def closeFrom? (opening closing : Char) : (depth : Nat) → List (Char × Char) → Option (Text × Text)
  | _, [] => none
  | depth, (c, shown) :: rest =>
    if shown = opening then
      (closeFrom? opening closing (depth + 1) rest).map fun (inside, after) => (c :: inside, after)
    else if shown = closing then
      match depth with
      | 0 => some ([], rest.map Prod.fst)
      | depth + 1 =>
        (closeFrom? opening closing depth rest).map fun (inside, after) => (c :: inside, after)
    else
      (closeFrom? opening closing depth rest).map fun (inside, after) => (c :: inside, after)

/-- A closed bracket splits the marks at one that shows the bracket that closes it. -/
theorem exists_mark_of_closeFrom? {opening closing : Char} {depth : Nat}
    {pairs : List (Char × Char)} {inside after : Text}
    (found : closeFrom? opening closing depth pairs = some (inside, after)) :
    ∃ before mark rest, pairs = before ++ mark :: rest ∧ inside = before.map Prod.fst ∧
      after = rest.map Prod.fst ∧ mark.2 = closing := by
  -- By induction on the marks, up to the bracket that closes.
  induction pairs generalizing depth inside with
  | nil => cases found
  | cons mark pairs ih =>
    -- Any other character than that bracket goes to the inside.
    have later : ∀ {next : Nat}, (closeFrom? opening closing next pairs).map
        (Prod.map (mark.1 :: ·) id) = some (inside, after) →
        ∃ before closed rest, mark :: pairs = before ++ closed :: rest ∧
          inside = before.map Prod.fst ∧ after = rest.map Prod.fst ∧ closed.2 = closing := by
      intro next longer
      obtain ⟨⟨inner, tail⟩, read, same⟩ := Option.map_eq_some_iff.mp longer
      cases same
      obtain ⟨before, closed, rest, whole, held, left, closes⟩ := ih read
      exact ⟨mark :: before, closed, rest, by rw [whole, List.cons_append],
        by rw [held, List.map_cons], left, closes⟩
    -- A mark opens a bracket, closes one, or is any other character.
    simp only [closeFrom?] at found
    split at found
    · exact later found
    · split at found
      · split at found
        · cases found
          exact ⟨[], mark, pairs, rfl, rfl, rfl, by assumption⟩
        · exact later found
      · exact later found

/-- Cuts the text after an opening parenthesis into what it encloses and what follows. -/
def closeParen? (text : Text) : Option (Text × Text) :=
  closeFrom? '(' ')' 0 (marked text)

/-- Nothing outside the text follows a closed parenthesis. -/
theorem length_lt_of_closeParen? {text inside after : Text}
    (found : closeParen? text = some (inside, after)) : after.length < text.length := by
  -- The marked characters are at most those of the text.
  obtain ⟨before, mark, rest, split, -, rfl, -⟩ := exists_mark_of_closeFrom? found
  have lengths := congrArg List.length split
  simp only [marked, List.length_zip, List.length_append, List.length_cons] at lengths
  rw [List.length_map]
  omega

/--
The pieces between separators that stand outside brackets and literals.

Brackets of all kinds share one depth, and a closing bracket with nothing open is ignored.
-/
def cutTopFrom (separates : Char → Bool) : (depth : Nat) → List (Char × Char) → Text × List Text
  | _, [] => ([], [])
  | depth, (c, shown) :: rest =>
    if isOpening shown then
      let (first, others) := cutTopFrom separates (depth + 1) rest
      (c :: first, others)
    else if isClosing shown then
      let (first, others) := cutTopFrom separates (depth - 1) rest
      (c :: first, others)
    else if separates shown && depth == 0 then
      let (first, others) := cutTopFrom separates depth rest
      ([], first :: others)
    else
      let (first, others) := cutTopFrom separates depth rest
      (c :: first, others)

/-- The first piece of a text outside brackets and literals, and the pieces after it. -/
def cutTop (separates : Char → Bool) (text : Text) : Text × List Text :=
  cutTopFrom separates 0 (marked text)

/-- All pieces of a text outside brackets and literals, in order. -/
def splitTop (separates : Char → Bool) (text : Text) : List Text :=
  let (first, others) := cutTop separates text
  first :: others

end SourceLint.Text
