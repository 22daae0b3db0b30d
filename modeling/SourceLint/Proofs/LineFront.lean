import SourceLint.Proofs.Comment.Literal
import SourceLint.Proofs.Insertion.Reading
import SourceLint.Proofs.Insertion.Token
import SourceLint.Proofs.Text.Splitting
import SourceLint.Statement

/-!
The front of a line, read on its own.

When no literal is open at its end, every finished statement of the front is a finished statement of
the whole line.
-/

namespace SourceLint

open Text

namespace Text

/-- The first character that shows inside a literal is the fill or the delimiter. -/
theorem head?_maskFrom_inside {quote c : Char} {text : Text}
    (shown : (maskFrom ['s'] (some quote) text).head? = some c) : c = 's' ∨ c = quote := by
  -- Without a text nothing shows.
  cases text with
  | nil => cases shown
  | cons d rest =>
    by_cases escape : d = backslash
    · -- An escape is hidden with the character behind it, if there is one.
      subst escape
      cases rest with
      | nil =>
        rw [maskFrom] at shown
        split at shown
        · rename_i same
          rw [same] at shown
          exact .inr (Option.some.inj shown).symm
        · exact .inl (Option.some.inj shown).symm
      | cons hidden rest =>
        rw [maskFrom, if_pos rfl] at shown
        exact .inl (Option.some.inj shown).symm
    · -- Any other character shows as the fill, unless it is the delimiter.
      rw [maskFrom_inside _ _ _ escape] at shown
      split at shown
      · rename_i same
        rw [same] at shown
        exact .inr (Option.some.inj shown).symm
      · exact .inl (Option.some.inj shown).symm

section Shown

variable {d : Char} (unfilled : d ≠ 's') (unquoted : isQuote d = false)
include unfilled unquoted

/--
Inside a literal nothing but the fill and the delimiter shows behind characters other than quotes.

Nor does it show when an escape stands in front of them.
-/
theorem getElem?_maskFrom_inside {quote : Char} (opens : isQuote quote = true) {gap : Text}
    (plain : ∀ c ∈ gap, isQuote c = false) (next : Text) :
    (maskFrom ['s'] (some quote) (gap ++ next))[gap.length]? ≠ some d ∧
      (maskFrom ['s'] (some quote) (backslash :: (gap ++ next)))[gap.length + 1]? ≠ some d := by
  -- By induction on the gap, with and without an escape in front of it.
  induction gap with
  | nil =>
    refine ⟨fun shown => ?_, fun shown => ?_⟩
    · -- The character is neither the fill nor a quote.
      rw [List.nil_append, List.length_nil, ← List.head?_eq_getElem?] at shown
      rcases head?_maskFrom_inside shown with fill | delimiter
      · exact unfilled fill
      · rw [← delimiter, unquoted] at opens
        cases opens
    · cases next with
      | nil =>
        -- There is only one character to show.
        have short : (maskFrom ['s'] (some quote) [backslash]).length ≤ 0 + 1 :=
          Nat.le_of_eq (length_maskFrom 's' (some quote) [backslash])
        rw [List.nil_append, List.length_nil, List.getElem?_eq_none short] at shown
        cases shown
      | cons hidden next =>
        rw [List.nil_append, maskFrom, if_pos rfl] at shown
        exact unfilled (Option.some.inj shown).symm
  | cons c gap ih =>
    obtain ⟨later, escaped⟩ := ih fun d member => plain d (by simp [member])
    refine ⟨fun shown => ?_, fun shown => ?_⟩
    · -- The first character is an escape, or it is hidden alone.
      by_cases escape : c = backslash
      · subst escape
        exact escaped shown
      · have other : c ≠ quote := by
          rintro rfl
          have outside := plain c (by simp)
          rw [opens] at outside
          cases outside
        rw [List.cons_append, maskFrom_inside _ _ _ escape, if_neg other] at shown
        exact later shown
    · -- Behind an escape the first character is hidden, and the others follow.
      rw [List.cons_append, maskFrom, if_pos rfl] at shown
      exact later shown

/--
A text is read to the end of its literals if a character shows behind others than quotes.

It may start inside a literal, as the rest of a longer text does.
-/
theorem maskFrom_append_of_shown {gap next : Text} (bare : ∀ c ∈ gap, isQuote c = false)
    {inside : Option Char} {text : Text} (quoted : Quoted inside)
    (shown : (maskFrom ['s'] inside (text ++ (gap ++ next)))[text.length + gap.length]? = some d)
    (fill : Char) (rest : Text) :
    maskFrom [fill] inside (text ++ rest) =
      maskFrom [fill] inside text ++ maskFrom [fill] none rest := by
  -- Where the text ends inside a literal, nothing shows.
  induction masking quoted text with
  | ended inside =>
    cases inside with
    | none => rfl
    | some quote =>
      rw [List.nil_append, List.length_nil, Nat.zero_add] at shown
      exact absurd shown
        (getElem?_maskFrom_inside unfilled unquoted (quoted quote rfl) bare next).1
  | outside c _ ih =>
    rw [List.length_cons, Nat.add_right_comm] at shown
    rw [List.cons_append, maskFrom_outside, maskFrom_outside, ih (quoted_opened c) shown]
    rfl
  | @escape quote hidden text _ ih =>
    -- An escape takes two characters of the text.
    have place : text.length + 1 + 1 + gap.length = text.length + gap.length + 1 + 1 := by omega
    rw [List.length_cons, List.length_cons, place, List.cons_append, List.cons_append,
      maskFrom_escape] at shown
    rw [List.cons_append, List.cons_append, maskFrom_escape, maskFrom_escape, ih quoted shown]
    rfl
  | delimiter opens _ ih =>
    -- The delimiter ends the literal.
    rw [List.length_cons, Nat.add_right_comm, List.cons_append, maskFrom_delimiter _ opens]
      at shown
    rw [List.cons_append, maskFrom_delimiter _ opens, maskFrom_delimiter _ opens,
      ih quoted_none shown]
    rfl
  | @content quote c other text last _ ih =>
    rw [List.length_cons, Nat.add_right_comm, List.cons_append] at shown
    by_cases escape : c = backslash
    · -- The literal goes on behind an escape at the end, so the character would not show.
      subst escape
      rw [last rfl] at shown
      simp only [List.length_nil, Nat.zero_add, List.nil_append] at shown
      exact absurd shown
        (getElem?_maskFrom_inside unfilled unquoted (quoted quote rfl) bare next).2
    · rw [maskFrom_inside _ _ _ escape, if_neg other] at shown
      rw [List.cons_append, maskFrom_inside _ _ _ escape, maskFrom_inside _ _ _ escape,
        if_neg other, if_neg other, ih quoted shown, List.append_assoc]

/-- No literal is open at the end of a text if a character shows behind others than quotes. -/
theorem closed_of_shown {text gap next : Text} (bare : ∀ c ∈ gap, isQuote c = false)
    (shown : (mask (text ++ (gap ++ next)))[text.length + gap.length]? = some d) :
    Closed text :=
  maskFrom_append_of_shown unfilled unquoted bare quoted_none shown

end Shown

/-- White space is skipped in front of a text that is not blank, whatever follows the text. -/
theorem skipSpace_append_of_ne_nil {text : Text} (started : skipSpace text ≠ []) (rest : Text) :
    skipSpace (text ++ rest) = skipSpace text ++ rest :=
  (takeWhile_append_ended started rest).2

/-- What follows a text that is not blank is trimmed behind the trimmed text. -/
theorem exists_trim_append {text : Text} (filled : trim text ≠ []) (rest : Text) :
    ∃ more, trim (text ++ rest) = trim text ++ more := by
  have started : skipSpace text ≠ [] := by
    intro nothing
    unfold trim at filled
    rw [nothing] at filled
    exact filled rfl
  -- What follows is blank, or it ends the trimmed text.
  unfold trim trimRight
  rw [skipSpace_append_of_ne_nil started, List.reverse_append, List.dropWhile_append]
  split
  · exact ⟨[], (List.append_nil _).symm⟩
  · -- Something of what follows is left, and so is the white space in front of it.
    refine ⟨((skipSpace text).reverse.takeWhile isSpace).reverse ++
      (rest.reverse.dropWhile isSpace).reverse, ?_⟩
    rw [← List.append_assoc, ← List.reverse_append, List.takeWhile_append_dropWhile,
      ← List.reverse_append]

end Text

namespace Statement

/-- The pieces of a text, and those of a longer text that starts with it. -/
inductive Continues : (first : Text) → (others : List Text) → (longer : Text) →
    (more : List Text) → Prop
  /-- The last piece goes on, and other pieces may follow it. -/
  | last (piece next : Text) (more : List Text) : Continues piece [] (piece ++ next) more
  /-- A piece that a separator ends stays as it is. -/
  | ended (piece : Text) {first longer : Text} {others more : List Text}
      (rest : Continues first others longer more) :
      Continues piece (first :: others) piece (longer :: more)

/-- A character in front goes to the first piece of both. -/
theorem Continues.cons {first longer : Text} {others more : List Text}
    (rest : Continues first others longer more) (c : Char) :
    Continues (c :: first) others (c :: longer) more := by
  -- The character joins the first piece, whether that goes on or has been ended.
  cases rest with
  | last piece next more => exact .last (c :: first) next more
  | ended piece rest => exact .ended (c :: first) rest

/-- A statement that a semicolon ends is the same in the longer text. -/
theorem Continues.mem_ofPieces {first longer : Text} {others more : List Text}
    (continues : Continues first others longer more) {statement : Statement}
    (listed : statement ∈ ofPieces first others) (terminated : statement.terminated = true) :
    statement ∈ ofPieces longer more := by
  -- Only the last piece of the first text goes on, and it lacks its semicolon.
  induction continues with
  | last piece next more =>
    rw [ofPieces, List.mem_singleton] at listed
    rw [listed] at terminated
    cases terminated
  | ended piece rest ih =>
    rw [ofPieces] at listed ⊢
    rcases List.mem_cons.mp listed with rfl | behind
    · exact List.mem_cons_self
    · exact List.mem_cons_of_mem _ (ih behind)

/-- What goes on in one piece is one piece. -/
theorem Continues.uncut {first longer : Text} {others : List Text}
    (continues : Continues first others longer []) : others = [] := by
  -- Only a piece that goes on to the end has no others.
  cases continues
  rfl

/-- Cutting a text whose pairs are followed by others goes on where it ends. -/
theorem continues_cutTopFrom (separates : Char → Bool) (depth : Nat)
    (pairs others : List (Char × Char)) :
    Continues (cutTopFrom separates depth pairs).1 (cutTopFrom separates depth pairs).2
      (cutTopFrom separates depth (pairs ++ others)).1
      (cutTopFrom separates depth (pairs ++ others)).2 := by
  induction pairs generalizing depth with
  | nil => exact .last [] _ _
  | cons mark pairs ih =>
    -- A character ends a piece in both texts, or it goes to the first piece of both.
    rw [List.cons_append]
    by_cases ends : EndsPiece separates depth mark.2
    · rw [cutTopFrom_of_ends ends, cutTopFrom_of_ends ends]
      exact .ended [] (ih 0)
    · rw [cutTopFrom_of_not_ends ends, cutTopFrom_of_not_ends ends]
      exact (ih _).cons mark.1

/-- A finished statement of a text that closes its literals is one of every longer text. -/
theorem mem_split_append {text : Text} (closed : Closed text) (rest : Text) {statement : Statement}
    (listed : statement ∈ split text) (terminated : statement.terminated = true) :
    statement ∈ split (text ++ rest) := by
  obtain ⟨piece, filled⟩ := List.mem_filter.mp listed
  -- The longer text shows what the two parts show one after the other.
  have continues := continues_cutTopFrom (· == ';') 0 (marked text) (marked rest)
  rw [← marked_append closed] at continues
  exact List.mem_filter.mpr ⟨continues.mem_ofPieces piece terminated, filled⟩

/-- An opening after a keyword is found in front of any text. -/
theorem afterOpening?_append {keyword text behind : Text}
    (found : afterOpening? [keyword] text = some behind) (rest : Text) :
    afterOpening? [keyword] (text ++ rest) = some (behind ++ rest) := by
  simp only [afterOpening?, List.findSome?_singleton] at found ⊢
  obtain ⟨tail, word, opening⟩ := Option.bind_eq_some_iff.mp found
  -- The white space behind the keyword ends at the parenthesis, so nothing joins it.
  have started : skipSpace tail ≠ [] := by
    intro nothing
    rw [nothing] at opening
    cases opening
  rw [after?_append_of_some word, Option.bind_some, skipSpace_append_of_ne_nil started]
  exact after?_append_of_some opening rest

/-- A loop header whose first clause is finished is the same in front of any text. -/
theorem loopStart?_append {text clause : Text} (found : loopStart? text = some clause)
    (rest : Text) : loopStart? (text ++ rest) = some clause := by
  unfold loopStart? at found ⊢
  obtain ⟨clauses, opening, finished⟩ := Option.bind_eq_some_iff.mp found
  have started : skipSpace text ≠ [] := by
    intro nothing
    rw [nothing] at opening
    cases opening
  rw [skipSpace_append_of_ne_nil started, afterOpening?_append opening, Option.bind_some]
  simp only [Option.ite_none_right_eq_some, Bool.and_eq_true, List.contains_iff_mem] at finished ⊢
  obtain ⟨⟨semicolon, filled⟩, same⟩ := finished
  -- The clause ends in front of what follows.
  have ended : clauses.dropWhile (· != ';') ≠ [] := by
    intro nothing
    exact absurd (List.dropWhile_eq_nil_iff.mp nothing ';' semicolon) (by decide)
  rw [(takeWhile_append_ended ended rest).1]
  exact ⟨⟨List.mem_append_left _ semicolon, filled⟩, same⟩

/-- What the finished statements of a text do is done by those of every longer text. -/
theorem mem_effective_append {text : Text} (closed : Closed text) (rest : Text) {statement : Text}
    (entered : statement ∈ effective text false) : statement ∈ effective (text ++ rest) false := by
  unfold effective at entered ⊢
  rcases List.mem_append.mp entered with start | whole
  · refine List.mem_append_left _ (Option.mem_toList.mpr ?_)
    exact loopStart?_append (Option.mem_toList.mp start) rest
  · refine List.mem_append_right _ ?_
    obtain ⟨piece, listed, kept⟩ := List.mem_filterMap.mp whole
    refine List.mem_filterMap.mpr ⟨piece, ?_, kept⟩
    refine mem_split_append closed rest listed ?_
    -- A statement without its semicolon would have been left out.
    by_contra unterminated
    simp [unterminated] at kept

/--
The finished statements in front of a brace that shows are those of the whole line.

Both texts are trimmed, as the lines that are checked are.
-/
theorem mem_effective_trim {front back : Text}
    (shown : (mask (front ++ back))[front.length]? = some '}') {statement : Text}
    (entered : statement ∈ effective (trim front) false) :
    statement ∈ effective (trim (front ++ back)) false := by
  -- A blank front has no statements.
  have filled : trim front ≠ [] := by
    intro nothing
    rw [nothing] at entered
    cases entered
  obtain ⟨lead, gap, split, indented, spaced⟩ := exists_eq_trim front
  obtain ⟨more, whole⟩ := exists_trim_append filled back
  rw [whole]
  refine mem_effective_append
    (@closed_of_shown '}' (by decide) (by decide) _ gap back
      (fun _ member => isQuote_of_isSpace (spaced _ member)) ?_) more entered
  -- White space in front of the line shows as it is.
  have plain : ∀ c ∈ lead, isQuote c = false := fun c member =>
    isQuote_of_isSpace (indented c member)
  have place : front.length = lead.length + ((trim front).length + gap.length) := by
    rw [← List.length_append, ← List.length_append, ← split]
  have view : mask (front ++ back) = lead ++ mask (trim front ++ (gap ++ back)) := by
    calc mask (front ++ back)
        = mask (lead ++ (trim front ++ gap) ++ back) := by rw [← split]
      _ = mask (lead ++ (trim front ++ (gap ++ back))) := by
          rw [List.append_assoc, List.append_assoc]
      _ = lead ++ mask (trim front ++ (gap ++ back)) := maskWith_append_plain ['s'] plain _
  -- The place in the whole line is the same place counted from the trimmed front.
  rw [view, place, List.getElem?_append_right (Nat.le_add_right _ _), Nat.add_sub_cancel_left]
    at shown
  exact shown

end Statement

end SourceLint
