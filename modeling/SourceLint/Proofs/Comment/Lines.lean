import Mathlib.Data.List.Forall2
import SourceLint.Proofs.Comment.Block

/-!
The lines of a source without its comments.

Every line loses characters and stays where it is. What is reported carries the number of the line
on which the reported opener stands.
-/

namespace SourceLint.Comment

open Text

/-- What is left of a text when characters other than line breaks are dropped. -/
inductive Thinned : (kept text : Text) → Prop
  | nil : Thinned [] []
  | keep (c : Char) {kept text : Text} : Thinned kept text → Thinned (c :: kept) (c :: text)
  | drop {c : Char} {kept text : Text} (unbroken : c ≠ '\n') :
      Thinned kept text → Thinned kept (c :: text)

namespace Thinned

variable {kept text : Text}

/-- Nothing has to be dropped. -/
theorem refl (text : Text) : Thinned text text := by
  -- Every character is kept.
  induction text with
  | nil => exact .nil
  | cons c text ih => exact .keep c ih

/-- Two parts of a text can be thinned out one by one. -/
theorem append {more rest : Text} (front : Thinned kept text) (back : Thinned more rest) :
    Thinned (kept ++ more) (text ++ rest) := by
  -- The first part is gone through, and then the second one is thinned out.
  induction front with
  | nil => exact back
  | keep c _ ih => exact .keep c ih
  | drop unbroken _ ih => exact .drop unbroken ih

/-- No line break is dropped. -/
theorem breaks_eq (thinned : Thinned kept text) : breaks kept = breaks text := by
  -- Only other characters are dropped.
  induction thinned with
  | nil => rfl
  | keep c _ ih =>
    by_cases broken : c = '\n'
    · rw [broken, breaks_cons_break, breaks_cons_break, ih]
    · rw [breaks_cons broken, breaks_cons broken, ih]
  | drop unbroken _ ih => rw [breaks_cons unbroken, ih]

/-- Every line keeps some of its own characters, in their order. -/
theorem lines_sublist (thinned : Thinned kept text) :
    List.Forall₂ List.Sublist (lines kept) (lines text) := by
  -- The first line grows in front, so it is compared apart from the others.
  have general : (cutWhere (· == '\n') kept).1.Sublist (cutWhere (· == '\n') text).1 ∧
      List.Forall₂ List.Sublist (cutWhere (· == '\n') kept).2 (cutWhere (· == '\n') text).2 := by
    induction thinned with
    | nil => exact ⟨List.Sublist.refl _, .nil⟩
    | keep c _ ih =>
      obtain ⟨first, others⟩ := ih
      -- A kept line break starts a line in both texts.
      by_cases broken : c = '\n'
      · simp only [cutWhere, broken, BEq.rfl, if_true]
        exact ⟨List.Sublist.refl _, .cons first others⟩
      · simp only [cutWhere, beq_iff_eq, broken, if_false]
        exact ⟨first.cons_cons c, others⟩
    -- A character that is dropped leaves the first line one shorter.
    | @drop c _ _ unbroken _ ih =>
      obtain ⟨first, others⟩ := ih
      simp only [cutWhere, beq_iff_eq, unbroken, if_false]
      exact ⟨first.cons c, others⟩
  exact .cons general.1 general.2

end Thinned

/-- A move keeps what it takes, less characters other than line breaks. -/
theorem Moved.thinned {line : Int} {place : Place} {text : Text} {move : Move}
    (moved : Moved line place text move) : Thinned move.kept move.taken := by
  -- The markers of comments hold no line break.
  have pair : ∀ {c d : Char}, c ≠ '\n' → d ≠ '\n' → Thinned [] [c, d] :=
    fun first second => .drop first (.drop second .nil)
  cases moved with
  | opener => exact pair (by decide) (by decide)
  | lineOpener => exact pair (by decide) (by decide)
  | closer => exact pair (by decide) (by decide)
  | nestedOpener => exact pair (by decide) (by decide)
  -- Neither do the characters of a comment, since a line break is a move of its own.
  | remark unbroken => exact .drop unbroken .nil
  | blocked _ unbroken => exact .drop unbroken .nil
  | _ => exact .refl _

/-- What has been kept is what has been read, less characters other than line breaks. -/
theorem thinned_reader (source : Text) (moves : Nat) :
    Thinned (reader source moves).kept (reader source moves).read := by
  -- By induction on the moves.
  induction moves with
  | zero => exact .nil
  | succ moves ih =>
    rw [reader]
    -- Nothing is left to read, or a move thins out what it takes.
    rcases (reader source moves).next_cases with ⟨-, same⟩ | ⟨move, moved, step⟩
    · rw [same]
      exact ih
    · rw [step]
      exact ih.append moved.thinned

/-- What is left of a source is the source, less characters other than line breaks. -/
theorem thinned_strip (source : Text) : Thinned (strip source).text source := by
  -- In the end the whole source has been read.
  have whole := read_append_rest source source.length
  rw [rest_eq_nil (Nat.le_refl _), List.append_nil] at whole
  have thinned := thinned_reader source source.length
  rw [whole] at thinned
  rw [strip_eq]
  exact thinned

/-- A move reports its own line, if it reports anything, and then it stays on it. -/
theorem Moved.nested_cases {line : Int} {place : Place} {text : Text} {move : Move}
    (moved : Moved line place text move) : move.nested = [] ∨ move.nested = [line] := by
  -- The only one is the opener of a comment inside a block comment.
  cases moved with
  | nestedOpener => exact .inr rfl
  | _ => exact .inl rfl

/-- The reports about a text carry numbers of its lines and come in the order of lines. -/
theorem nested_stripFrom (place : Place) (line : Int) (text : Text) :
    (stripFrom place line text).nested.Pairwise (· ≤ ·) ∧
      ∀ number ∈ (stripFrom place line text).nested,
        line ≤ number ∧ number ≤ line + breaks text := by
  -- By induction along the moves, each of which reports in front of what is read later.
  induction place, line, text using induction_on_moves with
  | ended place line =>
    have nothing : (stripFrom place line []).nested = [] := by cases place <;> simp [stripFrom]
    rw [nothing]
    simp
  | @step place line text move moved ih =>
    obtain ⟨ordered, within⟩ := ih
    have parts := moved.breaks_eq
    rw [moved.stripFrom_eq]
    generalize stripFrom move.next (line + breaks move.taken) (text.drop move.taken.length) =
      later at ordered within
    show (move.nested ++ later.nested).Pairwise (· ≤ ·) ∧
      ∀ number ∈ move.nested ++ later.nested, line ≤ number ∧ number ≤ line + breaks text
    -- What is read later stands on the same line or behind it.
    have behind : ∀ number ∈ later.nested, line ≤ number ∧ number ≤ line + breaks text := by
      intro number member
      have bounds := within number member
      omega
    -- A move reports nothing or its own line, which is not behind those of later reports.
    rcases moved.nested_cases with silent | reported
    · rw [silent, List.nil_append]
      exact ⟨ordered, behind⟩
    · rw [reported, List.singleton_append]
      refine ⟨List.pairwise_cons.mpr ⟨fun number member => (behind number member).1, ordered⟩, ?_⟩
      intro number member
      rcases List.mem_cons.mp member with rfl | later
      · omega
      · exact behind number later

/-- Whether the next move of the reader reports an opener inside a block comment. -/
def Reader.nests (reader : Reader) : Bool :=
  reader.place.open?.isSome && startsWith ['/', '*'] reader.rest

/-- A move reports the line of the reader, if it reports anything. -/
theorem Reader.nested_next (reader : Reader) :
    reader.next.nested = reader.nested ++ if reader.nests then [reader.line] else [] := by
  -- A reader that stands still stands at the end, where nothing opens.
  rcases reader.next_cases with ⟨ended, same⟩ | ⟨move, moved, step⟩
  · simp [same, nests, ended, startsWith, after?]
  · -- Of all moves only the one on an opener in a block comment reports something.
    rw [step, nests]
    simp only [advance, List.append_cancel_left_eq]
    generalize reader.place = place at moved ⊢
    generalize reader.rest = rest at moved ⊢
    cases moved with
    | lineBreak => simp [startsWith, after?]
    | nestedOpener => rfl
    | closer => rfl
    -- Neither half of such a character is that of an opener, so nothing is reported.
    | @blocked _ c rest _ _ unopened =>
      -- Neither does the character start an opener.
      have plain : startsWith ['/', '*'] (c :: rest) = false := by
        cases rest with
        | nil => simp [startsWith, after?]
        | cons d rest =>
          by_cases slash : c = '/'
          · have other : d ≠ '*' := fun star => unopened slash (by rw [star]; rfl)
            simp [startsWith, after?, Ne.symm other]
          · simp [startsWith, after?, Ne.symm slash]
      simp [plain]
    | _ => rfl

/-- What has been reported are the lines of the openers inside block comments, in order. -/
theorem nested_reader (source : Text) (moves : Nat) :
    (reader source moves).nested =
      ((List.range moves).filter fun earlier => (reader source earlier).nests).map
        fun earlier => (reader source earlier).line := by
  induction moves with
  | zero => rfl
  | succ moves ih =>
    rw [reader, Reader.nested_next, ih, List.range_succ, List.filter_append, List.map_append]
    -- A move reports its line or nothing.
    cases nests : (reader source moves).nests <;> simp [nests]

/-- The reader does not go back to an earlier line. -/
theorem line_reader_le (source : Text) {earlier later : Nat} (ordered : earlier ≤ later) :
    (reader source earlier).line ≤ (reader source later).line := by
  -- By induction on the moves that are made in between.
  induction ordered with
  | refl => exact Int.le_refl _
  | @step later _ ih =>
    refine Int.le_trans ih ?_
    rw [reader]
    -- A move goes on by the line breaks that it takes.
    rcases (reader source later).next_cases with ⟨-, same⟩ | ⟨move, -, step⟩
    · exact Int.le_of_eq (congrArg Reader.line same.symm)
    · rw [step, Reader.line_advance]
      omega

/--
Removing the comments of a source keeps its lines.

Every line of the result holds some of the characters of the line with the same number. The reports
about openers inside comments carry the lines of these openers and come in the order of lines, and
the failure for a comment that is left open carries the line of the opener of that comment.
-/
theorem strip_keeps_lines (source : Text) :
    breaks (strip source).text = breaks source ∧
      List.Forall₂ List.Sublist (lines (strip source).text) (lines source) ∧
      (strip source).nested =
        ((List.range source.length).filter fun moves => (reader source moves).nests).map
          (fun moves => lineOf source (reader source moves).index) ∧
      (strip source).nested.Pairwise (· ≤ ·) ∧
      ∀ start, (strip source).unclosed = some start ↔
        ∃ opening, LeftOpen source opening ∧
          start = lineOf source (reader source opening).index := by
  -- The reports are known by the moves that make them.
  have nested : (strip source).nested =
      ((List.range source.length).filter fun moves => (reader source moves).nests).map
        fun moves => (reader source moves).line := by
    rw [strip_eq]
    exact nested_reader source source.length
  -- The two texts are compared line by line, and each report by the move that makes it.
  refine ⟨(thinned_strip source).breaks_eq, (thinned_strip source).lines_sublist, ?_, ?_, ?_⟩
  · rw [nested]
    exact List.map_congr_left fun moves _ => (lineOf_index source moves).symm
  · rw [nested, List.pairwise_map]
    exact (List.pairwise_lt_range.filter _).imp fun ordered =>
      line_reader_le source (Nat.le_of_lt ordered)
  · intro start
    simp only [unclosed_strip, lineOf_index]

end SourceLint.Comment
