import SourceLint.Proofs.Comment.Reader

/-!
Where a block comment ends.

It ends at the first close marker that does not share its star with an opener inside the comment.
Without such a marker it is left open.
-/

namespace SourceLint.Comment

open Text

/-- The next move of the reader opens a block comment. -/
def Reader.Opens (reader : Reader) : Prop :=
  reader.place = .code ∧ ['/', '*'] <+: reader.rest

/-- A close marker at an index, behind the index at which the content of a block comment starts. -/
structure MarkerAt (source : Text) (first index : Nat) : Prop where
  behind : first ≤ index
  marker : ['*', '/'] <+: source.drop index

/-- A close marker whose star is not the one of an opener inside the comment. -/
structure EndsAt (source : Text) (first index : Nat) : Prop
    extends MarkerAt source first index where
  unshared : ∀ opener, first ≤ opener → opener + 1 = index → ¬ ['/', '*'] <+: source.drop opener

/-- The block comment that a move opens is left at an index, and not before. -/
def LeftAt (source : Text) (opening index : Nat) : Prop :=
  ∃ leaving, opening < leaving ∧ (reader source leaving).place = .code ∧
    (reader source leaving).index = index ∧
    ∀ moves, opening < moves → moves < leaving →
      (reader source moves).place = .blockComment (reader source opening).line

/-- A move opens a block comment that is never left. -/
def LeftOpen (source : Text) (opening : Nat) : Prop :=
  (reader source opening).Opens ∧
    ∀ moves, opening < moves →
      (reader source moves).place = .blockComment (reader source opening).line

namespace Reader

variable {reader : Reader} {start : Int}

/-- An opener leads into a block comment that starts on its line. -/
theorem Opens.next (opens : reader.Opens) :
    reader.next.place = .blockComment reader.line ∧ reader.next.index = reader.index + 2 := by
  -- Outside of comments the two markers are read together.
  obtain ⟨outside, rest, ahead⟩ := opens
  unfold Reader.next
  rw [← ahead, outside]
  exact ⟨rfl, by simp [index, advance, Place.move]⟩

/-- A reader that is in a block comment was there already or has just opened it. -/
theorem opens_of_next_place (inside : reader.next.place = .blockComment start) :
    reader.place = .blockComment start ∨ reader.Opens ∧ start = reader.line := by
  -- The reader has stood still, or it has made a move.
  rcases reader.next_cases with ⟨-, same⟩ | ⟨move, moved, step⟩
  · exact .inl (same ▸ inside)
  · rw [step, advance] at inside
    -- Of the moves outside of block comments only an opener leads into one.
    generalize here : reader.place = place at moved ⊢
    generalize ahead : reader.rest = rest at moved
    cases moved with
    | lineBreak _ rest =>
      -- Behind a line break the comment goes on, and nothing else does.
      cases place with
      | blockComment other => exact .inl inside
      | _ => cases inside
    | opener rest =>
      cases inside
      exact .inr ⟨⟨here, by simp [ahead]⟩, rfl⟩
    | plain =>
      -- Behind any other character outside comments a literal is open, or code follows.
      dsimp only at inside
      split at inside <;> cases inside
    | content =>
      dsimp only at inside
      split at inside <;> cases inside
    | nestedOpener => exact .inl inside
    | blocked => exact .inl inside
    | _ => cases inside

/-- In a block comment a close marker leads out of it. Everything else is passed over. -/
theorem next_of_blockComment (inside : reader.place = .blockComment start) :
    ['*', '/'] <+: reader.rest ∧ reader.next.place = .code ∧
        reader.next.index = reader.index + 2 ∨
      ¬ ['*', '/'] <+: reader.rest ∧ reader.next.place = .blockComment start ∧
        (reader.rest = [] ∧ reader.next = reader ∨
          ['/', '*'] <+: reader.rest ∧ reader.next.index = reader.index + 2 ∨
          ¬ ['/', '*'] <+: reader.rest ∧ reader.next.index = reader.index + 1) := by
  -- The reader has stood still, or it has made one of the moves of a block comment.
  rcases reader.next_cases with ⟨ended, same⟩ | ⟨move, moved, step⟩
  · exact .inr ⟨by simp [ended], by rw [same, inside], .inl ⟨ended, same⟩⟩
  · rw [inside] at moved
    rw [step]
    generalize reader.rest = rest at moved ⊢
    cases moved with
    -- The two pairs are taken as a whole, and a line break alone.
    | closer => exact .inl ⟨by simp, rfl, by simp [index, advance]⟩
    | nestedOpener => exact .inr ⟨by simp, rfl, .inr (.inl ⟨by simp, by simp [index, advance]⟩)⟩
    | lineBreak => exact .inr ⟨by simp, rfl, .inr (.inr ⟨by simp, by simp [index, advance]⟩)⟩
    | @blocked _ c rest _ unclosed unopened =>
      -- A character that starts neither pair is passed over alone.
      refine .inr ⟨?_, rfl, .inr (.inr ⟨?_, by simp [index, advance]⟩)⟩
      · rintro ⟨more, split⟩
        cases split
        exact unclosed rfl rfl
      · rintro ⟨more, split⟩
        cases split
        exact unopened rfl rfl

end Reader

variable {source : Text} {start : Int}

/-- A comment is opened before the moves that may be needed for the source are made. -/
theorem Reader.Opens.lt_length {moves : Nat} (opens : (reader source moves).Opens) :
    moves < source.length := by
  -- The opener itself is still to be read.
  have ahead := opens.2.length_le
  have bounded := length_rest_le source moves
  simp only [List.length_cons, List.length_nil] at ahead
  omega

/-- A comment that is open was opened by an earlier move and has not been left since. -/
theorem exists_opening {moves : Nat} (inside : (reader source moves).place = .blockComment start) :
    ∃ opening, opening < moves ∧ (reader source opening).Opens ∧
      start = (reader source opening).line ∧ ∀ between, opening < between → between ≤ moves →
        (reader source between).place = .blockComment start := by
  -- By induction on the moves.
  induction moves with
  | zero => cases inside
  | succ moves ih =>
    -- Either the last move opened the comment, or the one that did lies further back.
    rcases Reader.opens_of_next_place inside with already | ⟨opens, line⟩
    · obtain ⟨opening, before, opens, line, between⟩ := ih already
      refine ⟨opening, by omega, opens, line, fun other after bounded => ?_⟩
      rcases Nat.lt_or_ge moves other with last | earlier
      · rw [show other = moves + 1 by omega]
        exact inside
      · exact between other after earlier
    · refine ⟨moves, by omega, opens, line, fun other after bounded => ?_⟩
      rw [show other = moves + 1 by omega]
      exact inside

/-- As long as a comment is not left, a move passes over nothing that ends it. -/
theorem endsAt_next {moves : Nat} (inside : (reader source moves).place = .blockComment start)
    (stays : (reader source (moves + 1)).place = .blockComment start) (index : Nat) :
    EndsAt source (reader source (moves + 1)).index index ↔
      EndsAt source (reader source moves).index index := by
  -- The move is read off the reader, which stands in the comment before and behind it.
  have ahead := drop_index source moves
  rw [reader] at stays ⊢
  generalize reader source moves = state at *
  rcases Reader.next_of_blockComment inside with ⟨-, left, -⟩ | ⟨unclosed, -, step⟩
  · rw [left] at stays
    cases stays
  rw [← ahead] at unclosed step
  -- The reader does not stand in front of an end, since it would leave the comment there.
  have first : EndsAt source state.index index → index ≠ state.index := by
    rintro ⟨⟨-, marker⟩, -⟩ rfl
    exact unclosed marker
  rcases step with ⟨-, same⟩ | ⟨opens, moved⟩ | ⟨unopened, moved⟩
  · rw [same]
  · -- The opener takes two characters, and neither a close marker nor an opener starts with a star.
    obtain ⟨more, split⟩ := opens
    have second : source.drop (state.index + 1) = '*' :: more := by
      rw [← List.drop_drop, ← split]
      rfl
    rw [moved]
    constructor
    · rintro ⟨⟨behind, marker⟩, unshared⟩
      refine ⟨⟨by omega, marker⟩, fun opener inside next shared => ?_⟩
      rcases Nat.lt_or_ge opener (state.index + 2) with near | far
      · rw [show opener = state.index + 1 by omega, second] at shared
        simp at shared
      · exact unshared opener far next shared
    · intro ends
      have other := first ends
      obtain ⟨⟨behind, marker⟩, unshared⟩ := ends
      -- An end right behind the slash of the opener would share its star.
      have next : index ≠ state.index + 1 := by
        rintro rfl
        exact unshared state.index (Nat.le_refl _) rfl ⟨more, split⟩
      exact ⟨⟨by omega, marker⟩, fun opener inside => unshared opener (by omega)⟩
  · -- Any other character is neither the first one of a close marker nor that of an opener.
    rw [moved]
    constructor
    · rintro ⟨⟨behind, marker⟩, unshared⟩
      refine ⟨⟨by omega, marker⟩, fun opener inside next shared => ?_⟩
      rcases Nat.eq_or_lt_of_le inside with rfl | far
      · exact unopened shared
      · exact unshared opener far next shared
    · intro ends
      have other := first ends
      obtain ⟨⟨behind, marker⟩, unshared⟩ := ends
      exact ⟨⟨by omega, marker⟩, fun opener inside => unshared opener (by omega)⟩

/-- As long as a comment is not left, nothing that ends it has been passed over. -/
theorem endsAt_run {first last : Nat} (ordered : first ≤ last)
    (inside : ∀ moves, first ≤ moves → moves ≤ last →
      (reader source moves).place = .blockComment start) (index : Nat) :
    EndsAt source (reader source last).index index ↔
      EndsAt source (reader source first).index index := by
  -- The reader takes one move after the other, and none of them leaves the comment.
  induction ordered with
  | refl => rfl
  | @step last ordered ih =>
    have next := inside (last + 1) (Nat.le_succ_of_le ordered) (Nat.le_refl _)
    rw [endsAt_next (inside last ordered (Nat.le_succ _)) next,
      ih fun moves after before => inside moves after (by omega)]

/-- In front of a close marker that the reader comes to, a comment ends. -/
theorem endsAt_index {moves : Nat} (closed : ['*', '/'] <+: (reader source moves).rest) :
    EndsAt source (reader source moves).index (reader source moves).index :=
  ⟨⟨Nat.le_refl _, by rwa [drop_index]⟩, fun opener inside next => by omega⟩

/-- When nothing is left to read, no end lies ahead. -/
theorem not_endsAt_of_rest {moves : Nat} (ended : (reader source moves).rest = []) (index : Nat) :
    ¬ EndsAt source (reader source moves).index index := by
  -- At the end of the source there is no room for the marker.
  rintro ⟨⟨behind, marker⟩, -⟩
  rw [← Nat.add_sub_cancel' behind, ← List.drop_drop, drop_index, ended] at marker
  simp at marker

/-- A comment without an end is not left. -/
theorem stays_of_not_endsAt {first : Nat}
    (inside : (reader source first).place = .blockComment start)
    (endless : ∀ index, ¬ EndsAt source (reader source first).index index) {moves : Nat}
    (later : first ≤ moves) : (reader source moves).place = .blockComment start := by
  -- That no end lies ahead is carried along, so that the next move cannot find one.
  have general : (reader source moves).place = .blockComment start ∧
      ∀ index, ¬ EndsAt source (reader source moves).index index := by
    induction later with
    | refl => exact ⟨inside, endless⟩
    | @step moves later ih =>
      obtain ⟨here, ahead⟩ := ih
      -- A move that left the comment would have stood in front of an end.
      rcases Reader.next_of_blockComment here with ⟨closed, -, -⟩ | ⟨-, stays, -⟩
      · exact absurd (endsAt_index closed) (ahead _)
      · exact ⟨stays, fun index ends => ahead index ((endsAt_next here stays index).mp ends)⟩
  exact general.1

/-- A comment is left at its first end. -/
theorem leaves_of_endsAt {first index : Nat}
    (inside : (reader source first).place = .blockComment start)
    (ends : EndsAt source (reader source first).index index)
    (least : ∀ earlier < index, ¬ EndsAt source (reader source first).index earlier) :
    ∃ leaving, first < leaving ∧ (reader source leaving).place = .code ∧
      (reader source leaving).index = index + 2 ∧ ∀ moves, first ≤ moves → moves < leaving →
        (reader source moves).place = .blockComment start := by
  -- Every move brings the reader closer to the marker.
  induction gap : index - (reader source first).index using Nat.strongRecOn generalizing first with
  | ind gap ih =>
    have behind := ends.behind
    rcases Reader.next_of_blockComment inside with ⟨closed, left, moved⟩ | ⟨-, stays, step⟩
    · -- The reader stands in front of the marker, for no other one ends the comment before.
      have here : index = (reader source first).index :=
        Nat.le_antisymm (Nat.le_of_not_lt fun before => least _ before (endsAt_index closed)) behind
      refine ⟨first + 1, by omega, left, by rw [here]; exact moved, fun moves after before => ?_⟩
      rw [show moves = first by omega]
      exact inside
    · -- The ends ahead are the same after the move, so the argument can be repeated there.
      have same := endsAt_next inside stays
      have nearer := ((same index).mpr ends).behind
      have moved : (reader source first).index < (reader source (first + 1)).index := by
        rcases step with ⟨ended, -⟩ | ⟨-, moved⟩ | ⟨-, moved⟩
        · exact absurd ends (not_endsAt_of_rest ended index)
        · rw [reader]
          omega
        · rw [reader]
          omega
      obtain ⟨leaving, later, left, stop, between⟩ := @ih _ (by omega) (first + 1) stays
        ((same index).mpr ends)
        (fun earlier before ahead => least earlier before ((same earlier).mp ahead)) rfl
      refine ⟨leaving, by omega, left, stop, fun moves after before => ?_⟩
      rcases Nat.eq_or_lt_of_le after with rfl | further
      · exact inside
      · exact between moves further before

variable {opening : Nat}

/-- The block comment that a move opens is left at its first end. -/
theorem leftAt_iff (opens : (reader source opening).Opens) (index : Nat) :
    LeftAt source opening (index + 2) ↔
      EndsAt source ((reader source opening).index + 2) index ∧
        ∀ earlier < index, ¬ EndsAt source ((reader source opening).index + 2) earlier := by
  obtain ⟨inside, content⟩ := opens.next
  rw [← content]
  constructor
  · rintro ⟨leaving, after, left, stop, between⟩
    -- The comment is open after the opening move, so at least one more leads out of it.
    obtain ⟨last, rfl⟩ : ∃ last, leaving = last + 1 := ⟨leaving - 1, by omega⟩
    have later : opening + 1 ≤ last := by
      refine Nat.lt_of_le_of_ne (Nat.le_of_lt_succ after) ?_
      rintro rfl
      rw [reader, inside] at left
      cases left
    have run := endsAt_run later fun moves after before => between moves after (by omega)
    rcases Reader.next_of_blockComment (between last later (Nat.lt_succ_self _)) with
      ⟨closed, -, moved⟩ | ⟨-, stays, -⟩
    · -- The last move takes the marker, and no end lies between the opener and that marker.
      have here : (reader source last).index = index := by
        rw [reader] at stop
        omega
      refine ⟨(run index).mp (here ▸ endsAt_index closed), fun earlier before ends => ?_⟩
      have := ((run earlier).mpr ends).behind
      omega
    · rw [reader, stays] at left
      cases left
  · -- The reader enters the comment with all of its ends ahead.
    rintro ⟨ends, least⟩
    obtain ⟨leaving, after, left, stop, between⟩ :=
      @leaves_of_endsAt source _ (opening + 1) index inside ends least
    exact ⟨leaving, by omega, left, stop, fun moves later => between moves later⟩

/-- A block comment is left open when it has no end. -/
theorem leftOpen_iff (opens : (reader source opening).Opens) :
    LeftOpen source opening ↔
      ∀ index, ¬ EndsAt source ((reader source opening).index + 2) index := by
  obtain ⟨inside, content⟩ := opens.next
  -- Behind the opener the search for an end starts.
  rw [← content]
  constructor
  · rintro ⟨-, open_⟩ index ends
    -- The end would still be ahead when nothing is left to read.
    have run := endsAt_run opens.lt_length fun moves after _ => open_ moves after
    have last := (run index).mpr ends
    exact not_endsAt_of_rest (rest_eq_nil (Nat.le_refl _)) index last
  · -- Without an end ahead no move leaves the comment.
    exact fun endless => ⟨opens, fun moves after =>
      @stays_of_not_endsAt source _ (opening + 1) inside endless moves after⟩

/-- The removal of comments fails on the line of a block comment that is left open. -/
theorem unclosed_strip (source : Text) (start : Int) :
    (strip source).unclosed = some start ↔
      ∃ opening, LeftOpen source opening ∧ start = (reader source opening).line := by
  rw [strip_eq]
  constructor
  · intro found
    -- The reader has come to the end of the source inside the comment.
    have inside : (reader source source.length).place = .blockComment start := by
      generalize (reader source source.length).place = place at found ⊢
      cases place <;> cases found
      rfl
    obtain ⟨opening, before, opens, rfl, between⟩ := exists_opening inside
    refine ⟨opening, ⟨opens, fun moves after => ?_⟩, rfl⟩
    -- Past the end of the source the reader stands still.
    rcases Nat.lt_or_ge source.length moves with past | within
    · rw [reader_eq_last (by omega)]
      exact inside
    · exact between moves after within
  · -- A comment that is never left holds the reader at the end as well.
    rintro ⟨opening, ⟨opens, open_⟩, rfl⟩
    simp only [open_ source.length opens.lt_length, Place.open?]

/-- Where a comment is left, the rest of the source is read as code. -/
theorem strip_of_leftAt {index : Nat} (left : LeftAt source opening index) :
    ∃ kept nested, strip source =
      (stripFrom .code (lineOf source index) (source.drop index)).behind kept nested := by
  -- Behind its end the reader stands in code, with the rest of the source in front of it.
  obtain ⟨leaving, -, outside, rfl, -⟩ := left
  refine ⟨(reader source leaving).kept, (reader source leaving).nested, ?_⟩
  rw [strip_eq_outcome source leaving, Reader.outcome, outside, lineOf_index, drop_index]

/--
A block comment ends at its first close marker that shares its star with no opener inside of it.

So the first close marker of all ends it exactly when that one shares its star with none. The
removal of comments fails exactly when it enters a comment without such a marker, and it names the
line of the opener.
-/
theorem blockComment_ends (source : Text) :
    (∀ opening, (reader source opening).Opens → ∀ index,
      LeftAt source opening (index + 2) ↔
        EndsAt source ((reader source opening).index + 2) index ∧
          ∀ earlier < index, ¬ EndsAt source ((reader source opening).index + 2) earlier) ∧
      (∀ opening, (reader source opening).Opens → ∀ index,
        MarkerAt source ((reader source opening).index + 2) index →
        (∀ earlier < index, ¬ MarkerAt source ((reader source opening).index + 2) earlier) →
          (LeftAt source opening (index + 2) ↔
            EndsAt source ((reader source opening).index + 2) index)) ∧
      (∀ opening index, LeftAt source opening index → ∃ kept nested, strip source =
        (stripFrom .code (lineOf source index) (source.drop index)).behind kept nested) ∧
      ∀ start, (strip source).unclosed = some start ↔
        ∃ opening, (reader source opening).Opens ∧
          (∀ index, ¬ EndsAt source ((reader source opening).index + 2) index) ∧
          start = lineOf source (reader source opening).index := by
  -- Among all markers the first one decides, since every end is a marker.
  refine ⟨fun opening opens index => leftAt_iff opens index,
    fun opening opens index _ least => ?_, fun opening index left => strip_of_leftAt left,
    fun start => ?_⟩
  · rw [leftAt_iff opens]
    exact and_iff_left fun earlier before ends => least earlier before ends.toMarkerAt
  · -- A comment without an end is left open, and its opener stands on the line that is named.
    rw [unclosed_strip]
    constructor
    · rintro ⟨opening, open_, rfl⟩
      exact ⟨opening, open_.1, (leftOpen_iff open_.1).mp open_, (lineOf_index source opening).symm⟩
    · rintro ⟨opening, opens, endless, rfl⟩
      exact ⟨opening, (leftOpen_iff opens).mpr endless, lineOf_index source opening⟩

/-- An opener inside a comment does not keep the close marker behind it from ending the comment. -/
theorem blockComment_ends_nested :
    (reader "/*/**/x".toList 0).Opens ∧ EndsAt "/*/**/x".toList 2 4 ∧
      LeftAt "/*/**/x".toList 0 6 := by
  have opens : (reader "/*/**/x".toList 0).Opens := ⟨rfl, by decide⟩
  -- The star of the marker is behind the opener inside, which does not share it.
  have ends : EndsAt "/*/**/x".toList 2 4 := by
    refine ⟨⟨by decide, by decide⟩, fun opener inside next => ?_⟩
    rw [show opener = 3 by omega]
    decide
  -- Of the places in front of it the one is no star and the other no slash follows.
  have least : ∀ earlier < 4, ¬ EndsAt "/*/**/x".toList 2 earlier := by
    rintro earlier before ⟨⟨behind, marker⟩, -⟩
    obtain rfl | rfl : earlier = 2 ∨ earlier = 3 := by omega
    · exact absurd marker (by decide)
    · exact absurd marker (by decide)
  exact ⟨opens, ends, ((blockComment_ends _).1 0 opens 4).mpr ⟨ends, least⟩⟩

/--
A comment goes on behind its first close marker when that shares its star with an opener.

It is left open here, although the marker stands behind its opener.
-/
theorem blockComment_not_ended_by_shared_marker :
    (reader "/*/*/".toList 0).Opens ∧ MarkerAt "/*/*/".toList 2 3 ∧
      (∀ earlier < 3, ¬ MarkerAt "/*/*/".toList 2 earlier) ∧ ¬ LeftAt "/*/*/".toList 0 5 ∧
      (strip "/*/*/".toList).unclosed = some 1 := by
  -- The only marker behind the opener is the one that ends the source.
  have opens : (reader "/*/*/".toList 0).Opens := ⟨rfl, by decide⟩
  refine ⟨opens, ⟨by decide, by decide⟩, ?_, ?_, by decide⟩
  · rintro earlier before ⟨behind, marker⟩
    rw [show earlier = 2 by omega] at marker
    exact absurd marker (by decide)
  · -- The opener inside has taken the star of the marker.
    intro left
    have ends := ((leftAt_iff opens 3).mp left).1
    exact ends.unshared 2 (by decide) rfl (by decide)

end SourceLint.Comment
