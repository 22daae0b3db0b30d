import SourceLint.Proofs.Masked.Places
import SourceLint.Proofs.Standing

/-!
The pieces of a text outside brackets and literals.

The places where a text is cut are those where its masked view shows the separator and no bracket is
open. The pieces put together around the separator are the text, and none of them can be cut again.
White space is trimmed from pieces without opening or cutting anything.
-/

namespace SourceLint.Text

/-- A place where pieces meet: some of them end there, and a separator and others follow. -/
def CutAt (separator : Char) (pieces : List Text) (index : Nat) : Prop :=
  ∃ earlier later, pieces = earlier ++ later ∧ earlier ≠ [] ∧ later ≠ [] ∧
    (join [separator] earlier).length = index

section Places

variable {separator : Char} {index : Nat}

/-- One piece meets no other. -/
theorem not_cutAt_single (piece : Text) : ¬CutAt separator [piece] index := by
  -- Two non-empty groups of pieces would have at least two members.
  rintro ⟨earlier, later, pieces, first, last, -⟩
  rcases List.singleton_eq_append_iff.mp pieces with ⟨nothing, -⟩ | ⟨-, nothing⟩
  · exact first nothing
  · exact last nothing

/-- A character in front of the pieces moves the places where they meet. -/
theorem cutAt_cons_piece {c : Char} {piece : Text} {others : List Text} :
    CutAt separator ((c :: piece) :: others) index ↔
      ∃ inner, index = inner + 1 ∧ CutAt separator (piece :: others) inner := by
  -- The first piece is one of the earlier ones, with the character and without it.
  have longer : ∀ earlier : List Text, (join [separator] ((c :: piece) :: earlier)).length =
      (join [separator] (piece :: earlier)).length + 1 := fun earlier =>
    congrArg List.length (join_append_cons [separator] [c] piece earlier)
  constructor
  · -- The first group loses the character, or gets it back.
    rintro ⟨earlier, later, pieces, first, last, rfl⟩
    obtain ⟨own, more, rfl⟩ := List.exists_cons_of_ne_nil first
    obtain ⟨rfl, rfl⟩ := List.cons.inj pieces
    exact ⟨_, longer more, piece :: more, later, rfl, by simp, last, rfl⟩
  · -- In the other direction the character is put in front of the group again.
    rintro ⟨inner, rfl, earlier, later, pieces, first, last, rfl⟩
    obtain ⟨own, more, rfl⟩ := List.exists_cons_of_ne_nil first
    obtain ⟨rfl, rfl⟩ := List.cons.inj pieces
    exact ⟨(c :: piece) :: more, later, rfl, by simp, last, longer more⟩

/-- An empty piece meets the next one at the front, and the separator moves the other places. -/
theorem cutAt_nil_cons {next : Text} {others : List Text} :
    CutAt separator ([] :: next :: others) index ↔
      index = 0 ∨ ∃ inner, index = inner + 1 ∧ CutAt separator (next :: others) inner := by
  have longer : ∀ {earlier : List Text}, earlier ≠ [] → (join [separator] ([] :: earlier)).length =
      (join [separator] earlier).length + 1 := fun some => by
    simp [join_cons _ _ some]
  -- Either the empty piece is all that stands in front of the place, or others stand there too.
  constructor
  · -- A group that starts with the empty piece is that piece alone, or it goes on.
    rintro ⟨earlier, later, pieces, first, last, rfl⟩
    obtain ⟨own, more, rfl⟩ := List.exists_cons_of_ne_nil first
    obtain ⟨rfl, behind⟩ := List.cons.inj pieces
    by_cases alone : more = []
    · exact .inl (by simp [alone, join])
    · exact .inr ⟨_, longer alone, more, later, behind, alone, last, rfl⟩
  · rintro (rfl | ⟨inner, rfl, earlier, later, pieces, first, last, rfl⟩)
    · exact ⟨[[]], next :: others, rfl, by simp, by simp, rfl⟩
    · exact ⟨[] :: earlier, later, by rw [pieces, List.cons_append], by simp, last, longer first⟩

/-- Pieces meet where a separator stands with no bracket open in front of it. -/
theorem cutAt_cutTopFrom {separates : Char → Bool} {depth : Nat} {pairs : List (Char × Char)} :
    CutAt separator
        ((cutTopFrom separates depth pairs).1 :: (cutTopFrom separates depth pairs).2) index ↔
      ∃ mark, pairs[index]? = some mark ∧
        EndsPiece separates (depthAfter depth ((pairs.map Prod.snd).take index)) mark.2 := by
  induction pairs generalizing depth index with
  | nil => simp [cutTopFrom, not_cutAt_single]
  | cons first pairs ih =>
    -- Behind the first character the depth is counted on from what it leaves open.
    have counted : ∀ index, depthAfter depth (((first :: pairs).map Prod.snd).take (index + 1)) =
        depthAfter (depthAfter depth [first.2]) ((pairs.map Prod.snd).take index) := fun _ => rfl
    by_cases ends : EndsPiece separates depth first.2
    · -- The separator is the place itself, and the others are counted from behind it.
      rw [cutTopFrom_of_ends ends, cutAt_nil_cons]
      cases index with
      | zero => simpa [depthAfter] using ends
      | succ index =>
        rw [counted, ends.depthAfter_eq, List.getElem?_cons_succ, ← ih]
        simp
    · -- A character of a piece is never such a place.
      rw [cutTopFrom_of_not_ends ends, cutAt_cons_piece]
      cases index with
      | zero => simpa [depthAfter] using ends
      | succ index =>
        rw [counted, List.getElem?_cons_succ, ← ih]
        simp

end Places

section Separators

variable {separates : Char → Bool} {text piece : Text}

/-- A text that nothing cuts is its first piece, and no other follows. -/
theorem cutTop_eq_of_uncut (uncut : (cutTop separates text).2 = []) :
    cutTop separates text = (text, []) :=
  Prod.ext (cutTop_of_uncut (Prod.ext rfl uncut)) uncut

/-- So it is its only piece. -/
theorem splitTop_of_uncut (uncut : (cutTop separates text).2 = []) :
    splitTop separates text = [text] := by
  rw [splitTop, cutTop_eq_of_uncut uncut]

/-- Nothing cuts the pieces of a text once more. -/
theorem uncut_of_mem_splitTop
    (apart : ∀ c, separates c = true → isQuote c = false ∧ c ≠ 's')
    (member : piece ∈ splitTop separates text) : (cutTop separates piece).2 = [] := by
  rcases cut : cutTop separates text with ⟨first, others⟩
  have listed : piece ∈ first :: others := by rwa [splitTop, cut] at member
  clear member
  -- The pieces are cut off one after the other, and the rest is cut like a text of its own.
  induction others generalizing text first with
  | nil =>
    rw [List.mem_singleton.mp listed, cutTop_of_uncut cut, cut]
  | cons next later ih =>
    obtain ⟨c, rest, -, -, settled, behind⟩ := exists_of_cutTop apart cut
    rcases List.mem_cons.mp listed with rfl | other
    · -- What stands in front of a separator that cuts is settled.
      exact settled.uncut
    · exact ih next behind other

end Separators

section Trimming

variable {separates : Char → Bool} (solid : ∀ c, isSpace c = true → separates c = false)
  {text front back : Text}

/-- The front of a text that nothing cuts is not cut either. -/
theorem uncut_of_append (uncut : (cutTop separates (front ++ back)).2 = []) :
    (cutTop separates front).2 = [] := by
  -- The marks of the front come first, and what follows them only goes on with the piece.
  obtain ⟨more, marks⟩ := marked_prefix front back
  have continues := Statement.continues_cutTopFrom separates 0 (marked front) more
  rw [cutTop, ← marks] at uncut
  rw [uncut] at continues
  exact continues.uncut

include solid

/-- White space is flat. -/
theorem flat_of_blank (blank : ∀ c ∈ text, isSpace c = true) : Flat separates text := by
  have plain : ∀ c ∈ text, isQuote c = false := fun c member => isQuote_of_isSpace (blank c member)
  refine ⟨closed_of_plain plain, fun c member => ?_⟩
  rw [mask, maskWith_plain ['s'] plain] at member
  have space := blank c member
  -- White space is a finite class, and it holds no bracket.
  have bracket : (!isOpening c && !isClosing c) = true :=
    forall_isSpace (fun c => !isOpening c && !isClosing c) (by decide +kernel) space
  simp_all

/-- Nothing cuts a trimmed text that does not cut the text. -/
theorem uncut_trim (uncut : (cutTop separates text).2 = []) :
    (cutTop separates (trim text)).2 = [] := by
  -- White space in front cuts nothing, so that the cuts are those of the trimmed text.
  obtain ⟨lead, gap, split, leads, -⟩ := exists_eq_trim text
  rw [split, cutTop_append_flat (flat_of_blank solid leads)] at uncut
  exact uncut_of_append uncut

/-- A settled text is settled without the white space at its ends. -/
theorem Settled.trim (settled : Settled separates text) : Settled separates (trim text) := by
  obtain ⟨lead, gap, split, leads, gaps⟩ := exists_eq_trim text
  -- No quote is lost with the white space, so what is left closes its own literals.
  have plain : ∀ {space : Text}, (∀ c ∈ space, isSpace c = true) →
      ∀ c ∈ space, isQuote c = false := fun blank c member => isQuote_of_isSpace (blank c member)
  have inner : Closed (Text.trim text ++ gap) := (split ▸ settled.closed).back (plain leads)
  have closed : Closed (Text.trim text) := inner.front (plain gaps)
  refine ⟨closed, uncut_trim solid settled.uncut, ?_⟩
  -- No bracket is lost either, so the depth behind what is left is that behind the text.
  have leading := (flat_of_blank solid leads).settled
  have trailing := flat_of_blank solid gaps
  have depth := settled.depth
  rw [split, mask, leading.closed, closed, ← mask, ← mask, ← mask, depthAfter_append,
    depthAfter_append, leading.depth] at depth
  rwa [depthAfter_plain fun c member =>
    ⟨(trailing.plain c member).1, (trailing.plain c member).2.1⟩] at depth

end Trimming

section Cutting

variable {separator : Char} (unfilled : separator ≠ 's') (unquoted : isQuote separator = false)
include unfilled unquoted

/--
How a text is cut by a separator that is no quote and not what literals are masked with.

Nothing is lost, since the pieces around the separator are the text. A text is cut in exactly the
places where its view shows the separator and no bracket is open, and every piece is cut nowhere.
-/
theorem splitTop_complete (text : Text) :
    join [separator] (splitTop (· == separator) text) = text ∧
      (∀ index, CutAt separator (splitTop (· == separator) text) index ↔
        (mask text)[index]? = some separator ∧ isOpening separator = false ∧
          isClosing separator = false ∧ depthAfter 0 ((mask text).take index) = 0) ∧
      ∀ piece ∈ splitTop (· == separator) text, splitTop (· == separator) piece = [piece] := by
  refine ⟨join_splitTop unfilled text, fun index => ?_, fun piece member => ?_⟩
  · -- The view shows what the characters of the text are paired with.
    rw [splitTop, cutTop, cutAt_cutTopFrom, ← marked_snd, List.getElem?_map]
    constructor
    · rintro ⟨mark, found, cuts, unopened, unclosed, outside⟩
      obtain rfl : mark.2 = separator := beq_iff_eq.mp cuts
      exact ⟨by rw [found, Option.map_some], unopened, unclosed, outside⟩
    · rintro ⟨shown, unopened, unclosed, outside⟩
      obtain ⟨mark, found, rfl⟩ := Option.map_eq_some_iff.mp shown
      exact ⟨mark, found, beq_self_eq_true _, unopened, unclosed, outside⟩
  · -- A piece starts outside literals and brackets, as a text of its own does.
    have apart : ∀ c, (c == separator) = true → isQuote c = false ∧ c ≠ 's' := fun c cuts => by
      rw [beq_iff_eq.mp cuts]
      exact ⟨unquoted, unfilled⟩
    exact splitTop_of_uncut (uncut_of_mem_splitTop apart member)

end Cutting

/-- Neither a stray closing bracket nor a literal that is left open hides where a text is cut. -/
theorem splitTop_complete_unbalanced :
    let text := "f(a,\"b,\"),),c,',".toList
    let pieces := ["f(a,\"b,\")", ")", "c", "',"].map String.toList
    ',' ≠ 's' ∧ isQuote ',' = false ∧ splitTop (· == ',') text = pieces ∧
      join [','] pieces = text ∧ CutAt ',' pieces 11 ∧ ¬CutAt ',' pieces 3 ∧
        ¬CutAt ',' pieces 15 ∧ ∀ piece ∈ pieces, splitTop (· == ',') piece = [piece] := by
  intro text pieces
  -- The second closing bracket is a piece, and the quote at the end hides nothing.
  have cut : splitTop (· == ',') text = pieces := by decide +kernel
  obtain ⟨joined, places, alone⟩ := @splitTop_complete ',' (by decide) (by decide) text
  rw [cut] at joined places alone
  exact ⟨by decide, by decide, cut, joined, (places 11).mpr (by decide), by rw [places]; decide,
    by rw [places]; decide, alone⟩

end SourceLint.Text
