import SourceLint.Proofs.Text.Lines
import SourceLint.Proofs.Text.Masking

/-! Cutting texts outside brackets and literals when they are put together from parts. -/

namespace SourceLint.Text

/-- A text that opens and closes no bracket and holds no separator outside its literals. -/
structure Flat (separates : Char → Bool) (text : Text) : Prop where
  closed : Closed text
  plain : ∀ c ∈ mask text, isOpening c = false ∧ isClosing c = false ∧ separates c = false

/-- Flat texts stay flat when they are put together. -/
theorem Flat.append {separates : Char → Bool} {first second : Text}
    (left : Flat separates first) (right : Flat separates second) :
    Flat separates (first ++ second) := by
  refine ⟨left.closed.append right.closed, fun c member => ?_⟩
  -- The masked view splits where the texts meet.
  rw [mask, left.closed] at member
  rcases List.mem_append.mp member with here | there
  · exact left.plain c here
  · exact right.plain c there

/-- How many brackets are open behind a text, given how many are open in front of it. -/
def depthAfter : (depth : Nat) → Text → Nat
  | depth, [] => depth
  | depth, c :: rest =>
    depthAfter (if isOpening c then depth + 1 else if isClosing c then depth - 1 else depth) rest

/-- Brackets are counted on from one text to the next. -/
theorem depthAfter_append (depth : Nat) (first second : Text) :
    depthAfter depth (first ++ second) = depthAfter (depthAfter depth first) second := by
  -- Each character changes the depth on its own.
  induction first generalizing depth with
  | nil => rfl
  | cons c first ih => exact ih _

/-- Without brackets the depth stays as it is. -/
theorem depthAfter_plain {text : Text}
    (plain : ∀ c ∈ text, isOpening c = false ∧ isClosing c = false) (depth : Nat) :
    depthAfter depth text = depth := by
  -- No character changes it.
  induction text with
  | nil => rfl
  | cons c text ih =>
    obtain ⟨unopened, unclosed⟩ := plain c (by simp)
    rw [depthAfter, unopened, unclosed]
    exact ih fun d member => plain d (by simp [member])

/-- A separator where no bracket is open. -/
structure EndsPiece (separates : Char → Bool) (depth : Nat) (c : Char) : Prop where
  separates : separates c = true
  unopened : isOpening c = false
  unclosed : isClosing c = false
  outside : depth = 0

/-- No bracket is open behind such a separator either. -/
theorem EndsPiece.depthAfter_eq {separates : Char → Bool} {depth : Nat} {c : Char}
    (ends : EndsPiece separates depth c) : depthAfter depth [c] = 0 := by
  -- The separator is no bracket, and no bracket is open in front of it.
  rw [depthAfter, ends.unopened, ends.unclosed]
  exact ends.outside

section Steps

variable {separates : Char → Bool} {depth : Nat} {mark : Char × Char}

/-- A character that ends a piece belongs to none, and what follows it is cut from anew. -/
theorem cutTopFrom_of_ends (ends : EndsPiece separates depth mark.2)
    (pairs : List (Char × Char)) :
    cutTopFrom separates depth (mark :: pairs) =
      ([], (cutTopFrom separates 0 pairs).1 :: (cutTopFrom separates 0 pairs).2) := by
  -- Of the four cases of the definition this one is the cut.
  obtain ⟨c, shown⟩ := mark
  obtain ⟨cuts, unopened, unclosed, rfl⟩ := ends
  simp_all [cutTopFrom]

/-- Every other character goes to the first piece, and brackets among them change the depth. -/
theorem cutTopFrom_of_not_ends (kept : ¬EndsPiece separates depth mark.2)
    (pairs : List (Char × Char)) :
    cutTopFrom separates depth (mark :: pairs) =
      (mark.1 :: (cutTopFrom separates (depthAfter depth [mark.2]) pairs).1,
        (cutTopFrom separates (depthAfter depth [mark.2]) pairs).2) := by
  obtain ⟨c, shown⟩ := mark
  rw [cutTopFrom, depthAfter, depthAfter]
  -- A bracket changes the depth, and a separator that does not cut is inside of one.
  split
  · rfl
  split
  · rfl
  split
  · rename_i unopened unclosed cuts
    -- The last case would make the character a separator that cuts.
    rw [Bool.and_eq_true, beq_iff_eq] at cuts
    exact absurd ⟨cuts.1, by simpa using unopened, by simpa using unclosed, cuts.2⟩ kept
  · rfl

end Steps

/-- Characters of which none cuts go to the piece that they start, and the depth is counted on. -/
theorem cutTopFrom_append {separates : Char → Bool} {depth : Nat} {pairs : List (Char × Char)}
    (uncut : (cutTopFrom separates depth pairs).2 = []) (rest : List (Char × Char)) :
    cutTopFrom separates depth (pairs ++ rest) =
      (pairs.map Prod.fst ++
          (cutTopFrom separates (depthAfter depth (pairs.map Prod.snd)) rest).1,
        (cutTopFrom separates (depthAfter depth (pairs.map Prod.snd)) rest).2) := by
  induction pairs generalizing depth with
  | nil => rfl
  | cons mark pairs ih =>
    -- A mark that ends a piece would have cut.
    by_cases ends : EndsPiece separates depth mark.2
    · rw [cutTopFrom_of_ends ends] at uncut
      cases uncut
    · -- The depth is changed for the characters behind in the same way as it is counted.
      rw [cutTopFrom_of_not_ends ends] at uncut
      rw [List.cons_append, cutTopFrom_of_not_ends ends, ih uncut]
      rfl

/-- A separator where no bracket is open ends the last piece of the characters in front of it. -/
theorem cutTopFrom_append_cut {separates : Char → Bool} {depth : Nat} {pairs : List (Char × Char)}
    {mark : Char × Char}
    (ends : EndsPiece separates (depthAfter depth (pairs.map Prod.snd)) mark.2)
    (rest : List (Char × Char)) :
    cutTopFrom separates depth (pairs ++ mark :: rest) =
      ((cutTopFrom separates depth pairs).1, (cutTopFrom separates depth pairs).2 ++
        (cutTopFrom separates 0 rest).1 :: (cutTopFrom separates 0 rest).2) := by
  -- The depth is generalised, since every bracket in front changes it.
  induction pairs generalizing depth with
  | nil => exact cutTopFrom_of_ends ends rest
  | cons pair pairs ih =>
    have later := @ih (depthAfter depth [pair.2]) ends
    -- A separator resets the depth to zero, and any other character carries it on.
    by_cases earlier : EndsPiece separates depth pair.2
    · rw [earlier.depthAfter_eq] at later
      rw [List.cons_append, cutTopFrom_of_ends earlier, cutTopFrom_of_ends earlier, later]
      rfl
    · rw [List.cons_append, cutTopFrom_of_not_ends earlier, cutTopFrom_of_not_ends earlier, later]

/-- A separator behind a text that leaves nothing open ends the last piece of that text. -/
theorem cutTop_append_separator {separates : Char → Bool} {c : Char} (outside : isQuote c = false)
    (unopened : isOpening c = false) (unclosed : isClosing c = false) (cut : separates c = true)
    {first : Text} (closed : Closed first) (balanced : depthAfter 0 (mask first) = 0)
    (rest : Text) :
    cutTop separates (first ++ c :: rest) =
      ((cutTop separates first).1, (cutTop separates first).2 ++
        (cutTop separates rest).1 :: (cutTop separates rest).2) := by
  have ends : EndsPiece separates (depthAfter 0 ((marked first).map Prod.snd)) c :=
    ⟨cut, unopened, unclosed, by rw [marked_snd, balanced]⟩
  -- The separator shows itself, and what follows is masked on its own.
  rw [cutTop, marked_append closed, marked_cons outside, cutTopFrom_append_cut ends]
  rfl

/-- A text with no separator outside brackets and literals that leaves none of these open. -/
structure Settled (separates : Char → Bool) (text : Text) : Prop where
  closed : Closed text
  uncut : (cutTop separates text).2 = []
  depth : depthAfter 0 (mask text) = 0

namespace Settled

variable {separates : Char → Bool} {first second text : Text}

/-- A settled text goes to the first piece of what it is put in front of. -/
theorem cutTop_append (settled : Settled separates text) (rest : Text) :
    cutTop separates (text ++ rest) =
      (text ++ (cutTop separates rest).1, (cutTop separates rest).2) := by
  -- The masked view splits behind the text, where no bracket is open.
  rw [cutTop, marked_append settled.closed, cutTopFrom_append settled.uncut, marked_fst, marked_snd,
    settled.depth]
  rfl

/-- A settled text is one piece. -/
theorem cutTop (settled : Settled separates text) : cutTop separates text = (text, []) := by
  -- This is the case in which nothing follows.
  have alone := settled.cutTop_append []
  have nothing : Text.cutTop separates [] = ([], []) := rfl
  simpa [nothing] using alone

/-- Settled texts stay settled when they are put together. -/
theorem append (left : Settled separates first) (right : Settled separates second) :
    Settled separates (first ++ second) where
  closed := left.closed.append right.closed
  -- What the first text leaves, the second one starts with: no bracket and no literal is open.
  uncut := by rw [left.cutTop_append, right.uncut]
  depth := by
    rw [mask, left.closed, ← mask, ← mask, depthAfter_append, left.depth, right.depth]

/-- Settled texts stay settled when they are joined. -/
theorem join {gap : Text} (between : Settled separates gap) {pieces : List Text}
    (settled : ∀ piece ∈ pieces, Settled separates piece) :
    Settled separates (Text.join gap pieces) := by
  induction pieces with
  | nil =>
    -- The empty text leaves nothing open.
    have nothing : Closed [] := closed_of_plain (by simp)
    exact ⟨nothing, rfl, rfl⟩
  | cons piece pieces ih =>
    have others := ih fun piece member => settled piece (by simp [member])
    -- The first piece and the gap are settled in front of all others.
    cases pieces with
    | nil => exact settled piece (by simp)
    | cons next rest => exact ((settled piece (by simp)).append between).append others

end Settled

/-- A flat text is settled. -/
theorem Flat.settled {separates : Char → Bool} {text : Text} (flat : Flat separates text) :
    Settled separates text where
  closed := flat.closed
  -- Without brackets the depth does not change.
  depth := depthAfter_plain
    (fun c member => ⟨(flat.plain c member).1, (flat.plain c member).2.1⟩) 0
  uncut := by
    -- No mark ends a piece.
    have kept : ∀ pair ∈ marked text, ∀ depth, ¬EndsPiece separates depth pair.2 := by
      intro pair member depth ends
      have uncut := (flat.plain pair.2 (List.of_mem_zip member).2).2.2
      rw [ends.separates] at uncut
      cases uncut
    -- So every mark is put in front of the only piece, at whatever depth.
    rw [Text.cutTop]
    generalize marked text = pairs at kept
    generalize 0 = depth
    induction pairs generalizing depth with
    | nil => rfl
    | cons pair pairs ih =>
      rw [cutTopFrom_of_not_ends (kept pair (by simp) depth)]
      exact ih (fun other member => kept other (by simp [member])) _

/-- A flat text goes to the first piece of what it is put in front of. -/
theorem cutTop_append_flat {separates : Char → Bool} {text : Text} (flat : Flat separates text)
    (rest : Text) :
    cutTop separates (text ++ rest) =
      (text ++ (cutTop separates rest).1, (cutTop separates rest).2) :=
  flat.settled.cutTop_append rest

/-- A separator outside brackets and literals ends a piece. -/
theorem cutTop_cons_separator {separates : Char → Bool} {c : Char} (outside : isQuote c = false)
    (unopened : isOpening c = false) (unclosed : isClosing c = false) (cut : separates c = true)
    (rest : Text) :
    cutTop separates (c :: rest) =
      ([], (cutTop separates rest).1 :: (cutTop separates rest).2) :=
  -- The separator is cut off behind an empty text.
  @cutTop_append_separator separates c outside unopened unclosed cut []
    (closed_of_plain (by simp)) rfl rest

/-- A flat text is one piece. -/
theorem cutTop_flat {separates : Char → Bool} {text : Text} (flat : Flat separates text) :
    cutTop separates text = (text, []) :=
  flat.settled.cutTop

/-- Settled texts that are joined by separators are the pieces, with what the separators bring. -/
theorem cutTop_join {separator : Char} (outside : isQuote separator = false)
    (unopened : isOpening separator = false) (unclosed : isClosing separator = false) {gap : Text}
    (flat : Flat (· == separator) gap) {first : Text} {others : List Text}
    (settled : ∀ piece ∈ first :: others, Settled (· == separator) piece) :
    cutTop (· == separator) (join (separator :: gap) (first :: others)) =
      (first, others.map (gap ++ ·)) := by
  induction others generalizing first with
  | nil => exact (settled first (by simp)).cutTop
  | cons next others ih =>
    -- The others are cut among themselves.
    have later := ih fun piece member => settled piece (List.mem_cons_of_mem _ member)
    -- The first text reaches up to the separator, and the gap goes to the text after it.
    rw [join_cons _ _ (by simp), List.append_assoc, (settled first (by simp)).cutTop_append,
      List.cons_append, cutTop_cons_separator outside unopened unclosed (by simp),
      cutTop_append_flat flat, later]
    simp

/-- The pieces between separators and the separators make up the text. -/
theorem join_cutTopFrom {separator : Char} {pairs : List (Char × Char)}
    (own : ∀ pair ∈ pairs, pair.2 = separator → pair.1 = separator) (depth : Nat) :
    join [separator] ((cutTopFrom (· == separator) depth pairs).1 ::
      (cutTopFrom (· == separator) depth pairs).2) = pairs.map Prod.fst := by
  induction pairs generalizing depth with
  | nil => rfl
  | cons mark pairs ih =>
    have others := ih fun pair member => own pair (by simp [member])
    by_cases ends : EndsPiece (· == separator) depth mark.2
    · -- A separator that shows is one.
      have same : mark.1 = separator := own mark (by simp) (beq_iff_eq.mp ends.separates)
      rw [cutTopFrom_of_ends ends, List.map_cons, ← others 0, same]
      rfl
    · -- A character that is kept stands in front of the first piece.
      rw [cutTopFrom_of_not_ends ends, List.map_cons, ← others (depthAfter depth [mark.2])]
      exact join_append_cons [separator] [mark.1] _ _

/-- A text is put back together from its pieces. -/
theorem join_splitTop {separator : Char} (unfilled : separator ≠ 's') (text : Text) :
    join [separator] (splitTop (· == separator) text) = text := by
  -- A mark that shows a separator is one, since the fill is none.
  have own : ∀ pair ∈ marked text, pair.2 = separator → pair.1 = separator := by
    intro pair member shown
    rcases shown_of_mem_marked member with same | fill
    · rw [← same, shown]
    · exact absurd (shown.symm.trans fill) unfilled
  have joined := join_cutTopFrom own 0
  rwa [marked_fst] at joined

end SourceLint.Text
