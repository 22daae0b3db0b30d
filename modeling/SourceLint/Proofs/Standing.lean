import SourceLint.Proofs.Text.Parts

/-!
Parts that stand outside the literals of a text.

In front of such a part no literal is open, and behind it no word goes on. Separators and closing
parentheses count only where they show in the masked view, so what they cut off stands in this way.
What is left of a statement behind its headers, and what is left of it behind a type, even has
nothing but white space behind it.
-/

namespace SourceLint

open Text

namespace Text

/-- A part of a text behind a front that leaves no literal open, where no word goes on. -/
structure Stands (text front part : Text) : Prop where
  closed : Closed front
  placed : ∃ back, text = front ++ (part ++ back) ∧ back.head?.any isWord = false

namespace Stands

variable {text front part inner name : Text}

/-- A text stands in itself. -/
theorem refl (text : Text) : Stands text [] text :=
  ⟨closed_of_plain (by simp), [], by simp, rfl⟩

/-- A part of a part stands behind both fronts. -/
theorem trans (outer : Stands text front part) (within : Stands part inner name) :
    Stands text (front ++ inner) name := by
  obtain ⟨back, whole, stops⟩ := outer.placed
  obtain ⟨tail, split, ends⟩ := within.placed
  refine ⟨outer.closed.append within.closed, tail ++ back, by simp [whole, split], ?_⟩
  -- Behind the inner part the rest of the outer one goes on, if there is any.
  cases tail with
  | nil => exact stops
  | cons c tail => exact ends

/-- What stands in a text is a part of it. -/
theorem holds (stands : Stands text front part) : Holds text [part] := by
  -- The part is in the text at its place.
  obtain ⟨back, whole, -⟩ := stands.placed
  exact ⟨front, back, whole, trivial⟩

end Stands

/-- A part of a text that stands in it with white space at most behind it. -/
structure Trails (text front part : Text) : Prop where
  closed : Closed front
  placed : ∃ gap, text = front ++ (part ++ gap) ∧ ∀ c ∈ gap, isSpace c = true

namespace Trails

variable {text front part inner name : Text}

/-- A text is the end of itself. -/
theorem refl (text : Text) : Trails text [] text :=
  ⟨closed_of_plain (by simp), [], by simp, by simp⟩

/-- The end of the end of a text is behind both fronts. -/
theorem trans (outer : Trails text front part) (within : Trails part inner name) :
    Trails text (front ++ inner) name := by
  -- The two fronts are put together, and so are the two gaps.
  obtain ⟨gap, whole, blank⟩ := outer.placed
  obtain ⟨space, split, spaces⟩ := within.placed
  refine ⟨outer.closed.append within.closed, space ++ gap, by simp [whole, split], ?_⟩
  intro c member
  exact (List.mem_append.mp member).elim (spaces c) (blank c)

/-- No word goes on with white space. -/
theorem stands (trails : Trails text front part) : Stands text front part := by
  -- Behind the part there is white space or nothing.
  obtain ⟨gap, whole, blank⟩ := trails.placed
  refine ⟨trails.closed, gap, whole, ?_⟩
  rw [Option.any_eq_false]
  intro c first
  simp [isWord_of_isSpace (blank c (List.mem_of_mem_head? first))]

end Trails

/-- What is left behind characters other than quotes ends the text. -/
theorem Behind.trails {text rest : Text} (behind : Behind (isQuote · = false) text rest) :
    ∃ front, Trails text front rest := by
  -- What has been read has no quotes, so no literal is open behind it.
  obtain ⟨front, whole, plain⟩ := behind
  exact ⟨front, closed_of_plain plain, [], by rw [whole, List.append_nil], by simp⟩

/-- The trimmed text stands behind white space. -/
theorem trails_trim (text : Text) :
    ∃ lead, Trails text lead (trim text) ∧ ∀ c ∈ lead, isSpace c = true := by
  -- White space opens no literal.
  obtain ⟨lead, gap, whole, leads, gaps⟩ := exists_eq_trim text
  have plain : ∀ c ∈ lead, isQuote c = false := fun c member =>
    isQuote_of_isSpace (leads c member)
  exact ⟨lead, ⟨closed_of_plain plain, gap, whole, gaps⟩, leads⟩

section Marks

variable {text : Text} {before after : List (Char × Char)} {mark : Char × Char}

/-- A mark that shows neither the fill nor a quote shows its own character, outside all literals. -/
theorem closed_of_marked (split : marked text = before ++ mark :: after)
    (unquoted : isQuote mark.2 = false) (unfilled : mark.2 ≠ 's') :
    mark.1 = mark.2 ∧ Closed (before.map Prod.fst) ∧
      Closed (before.map Prod.fst ++ [mark.1]) := by
  -- The mark shows what stands at its place, or the fill, which it does not.
  have member : mark ∈ text.zip (mask text) := by
    have listed : mark ∈ marked text := by simp [split]
    exact listed
  have own : mark.1 = mark.2 := by
    rcases shown_of_mem_marked member with same | fill
    · exact same.symm
    · exact absurd fill unfilled
  -- The masked view shows the mark at its place, which it does not inside a literal.
  have texts : text = before.map Prod.fst ++ ([] ++ mark.1 :: after.map Prod.fst) := by
    rw [← marked_fst text, split]
    simp
  have shown : (mask (before.map Prod.fst ++ ([] ++ mark.1 :: after.map Prod.fst)))[
      (before.map Prod.fst).length + ([] : Text).length]? = some mark.2 := by
    rw [← texts, ← marked_snd, split]
    simp
  have front : Closed (before.map Prod.fst) :=
    closed_of_shown unfilled unquoted (by simp) shown
  exact ⟨own, front, front.append (closed_of_plain (by simpa [own] using unquoted))⟩

end Marks

section Separators

variable {separates : Char → Bool}

/-- A text that nothing cuts is its own first piece. -/
theorem cutTop_of_uncut {text first : Text} (cut : cutTop separates text = (first, [])) :
    first = text := by
  -- Without a cut all characters of the text go to the piece.
  have whole := cutTopFrom_append (congrArg Prod.snd cut) []
  rw [List.append_nil, marked_fst] at whole
  have same := congrArg Prod.fst (cut.symm.trans whole)
  rwa [cutTopFrom, List.append_nil] at same

/-- The first separator that cuts ends the first piece, and what follows it is cut from anew. -/
theorem exists_of_cutTopFrom {depth : Nat} {pairs : List (Char × Char)} {first next : Text}
    {later : List Text} (cut : cutTopFrom separates depth pairs = (first, next :: later)) :
    ∃ own mark rest, pairs = own ++ mark :: rest ∧
      cutTopFrom separates depth own = (first, []) ∧
      EndsPiece separates (depthAfter depth (own.map Prod.snd)) mark.2 ∧
      cutTopFrom separates 0 rest = (next, later) := by
  -- By induction on the marks, up to the separator that ends the piece.
  induction pairs generalizing depth first with
  | nil => cases cut
  | cons mark pairs ih =>
    by_cases ends : EndsPiece separates depth mark.2
    · rw [cutTopFrom_of_ends ends] at cut
      obtain ⟨rfl, others⟩ := Prod.mk.inj cut
      obtain ⟨rfl, rfl⟩ := List.cons.inj others
      exact ⟨[], mark, pairs, rfl, rfl, ends, rfl⟩
    · -- The character goes to the first piece, and so it does when no separator follows.
      rw [cutTopFrom_of_not_ends ends] at cut
      obtain ⟨rfl, others⟩ := Prod.mk.inj cut
      obtain ⟨own, last, rest, whole, piece, cuts, behind⟩ := ih (Prod.ext rfl others)
      refine ⟨mark :: own, last, rest, by rw [whole, List.cons_append], ?_, cuts, behind⟩
      rw [cutTopFrom_of_not_ends ends, piece]

/--
Behind the separator that ends its first piece a text is cut like a text of its own.

The separator has to be told from quotes and from what literals are masked with.
-/
theorem exists_of_cutTop (apart : ∀ c, separates c = true → isQuote c = false ∧ c ≠ 's')
    {text first next : Text} {later : List Text}
    (cut : cutTop separates text = (first, next :: later)) :
    ∃ c rest, text = first ++ c :: rest ∧ separates c = true ∧ Settled separates first ∧
      cutTop separates rest = (next, later) := by
  obtain ⟨own, mark, rest, split, piece, ends, behind⟩ := exists_of_cutTopFrom cut
  obtain ⟨unquoted, unfilled⟩ := apart mark.2 ends.separates
  -- The separator shows itself, outside all literals, so the masked view splits there.
  obtain ⟨same, closed, -⟩ := closed_of_marked split unquoted unfilled
  have whole : text = own.map Prod.fst ++ mark.1 :: rest.map Prod.fst := by
    rw [← marked_fst text, split, List.map_append, List.map_cons]
  have shown : own ++ mark :: rest =
      marked (own.map Prod.fst) ++ (mark.1, mark.1) :: marked (rest.map Prod.fst) := by
    rw [← marked_cons (same ▸ unquoted), ← marked_append closed, ← whole, split]
  obtain ⟨front, back⟩ := List.append_inj shown (by simp [marked])
  -- The marks on both sides of it are those of the two parts.
  have marks : rest = marked (rest.map Prod.fst) := (List.cons.inj back).2
  have view : own.map Prod.snd = mask (own.map Prod.fst) := by
    rw [← marked_snd, ← front]
  have alone : cutTop separates (own.map Prod.fst) = (first, []) := by
    rw [cutTop, ← front, piece]
  obtain rfl : first = own.map Prod.fst := cutTop_of_uncut alone
  -- So the piece is closed and uncut, and the rest is cut like a text of its own.
  refine ⟨mark.1, rest.map Prod.fst, whole, same ▸ ends.separates,
    ⟨closed, congrArg Prod.snd alone, view ▸ ends.outside⟩, ?_⟩
  rw [cutTop, ← marks, behind]

variable (apart : ∀ c, separates c = true → isQuote c = false ∧ isWord c = false)
include apart

/-- Separators that are part of no word are told from what literals are masked with. -/
theorem unfilled_of_separates (c : Char) (cuts : separates c = true) :
    isQuote c = false ∧ c ≠ 's' := by
  -- The fill is a letter, and a letter is part of a word.
  obtain ⟨unquoted, unworded⟩ := apart c cuts
  refine ⟨unquoted, ?_⟩
  rintro rfl
  exact absurd unworded (by decide)

/-- The first piece of a text stands at its front. -/
theorem stands_cutTop (text : Text) : Stands text [] (cutTop separates text).1 := by
  -- There is a cut behind the first piece, or the piece is the whole text.
  rcases cut : cutTop separates text with ⟨first, others⟩
  cases others with
  | nil => exact cutTop_of_uncut cut ▸ .refl text
  | cons next later =>
    obtain ⟨c, rest, whole, cuts, -, -⟩ := exists_of_cutTop (unfilled_of_separates apart) cut
    exact ⟨closed_of_plain (by simp), c :: rest, whole, (apart c cuts).2⟩

/-- A piece of a text is behind a separator, or first, and in front of one, or last. -/
theorem exists_of_splitTop {text piece : Text} {earlier later : List Text}
    (pieces : splitTop separates text = earlier ++ piece :: later) :
    ∃ front rest, text = front ++ (piece ++ rest) ∧ Closed front ∧
      front.getLast?.all separates = true ∧ (later = [] → rest = []) ∧
        (later ≠ [] → rest.head?.any separates = true) := by
  -- The pieces are cut off one after the other.
  induction earlier generalizing text with
  | nil =>
    have cut : cutTop separates text = (piece, later) :=
      Prod.ext (List.cons.inj pieces).1 (List.cons.inj pieces).2
    cases later with
    | nil =>
      exact ⟨[], [], by simp [cutTop_of_uncut cut], closed_of_plain (by simp), rfl, by simp,
        by simp⟩
    | cons next later =>
      obtain ⟨c, rest, whole, cuts, -, -⟩ := exists_of_cutTop (unfilled_of_separates apart) cut
      exact ⟨[], c :: rest, whole, closed_of_plain (by simp), rfl, by simp, by simp [cuts]⟩
  | cons first earlier ih =>
    obtain ⟨next, others, left⟩ := List.exists_cons_of_ne_nil
      (List.append_ne_nil_of_right_ne_nil earlier (List.cons_ne_nil piece later))
    have cut : cutTop separates text = (first, next :: others) :=
      Prod.ext (List.cons.inj pieces).1 ((List.cons.inj pieces).2.trans left)
    obtain ⟨c, rest, whole, cuts, settled, behind⟩ :=
      exists_of_cutTop (unfilled_of_separates apart) cut
    obtain ⟨front, back, split, plain, ends, last, stops⟩ := ih (by rw [splitTop, behind, left])
    have separator : Closed [c] := closed_of_plain (by simp [(apart c cuts).1])
    refine ⟨first ++ ([c] ++ front), back, by simp [whole, split],
      settled.closed.append (separator.append plain), ?_, last, stops⟩
    -- The front ends with the separator or with the last character of what stands behind it.
    rw [List.getLast?_append, List.getLast?_append]
    cases final : front.getLast? with
    | none => simpa using cuts
    | some d => simpa [final] using ends

/-- Every piece of a text stands in it, at its front or behind a separator. -/
theorem stands_of_mem_splitTop {text piece : Text} (member : piece ∈ splitTop separates text) :
    ∃ front, Stands text front piece ∧ front.getLast?.all separates = true := by
  -- The piece is one of the list, with others in front of it and behind.
  obtain ⟨earlier, later, pieces⟩ := List.append_of_mem member
  obtain ⟨front, rest, whole, closed, ends, last, stops⟩ := exists_of_splitTop apart pieces
  refine ⟨front, ⟨closed, rest, whole, ?_⟩, ends⟩
  -- Nothing follows the last piece, and a separator follows the others.
  by_cases final : later = []
  · rw [last final]
    rfl
  · obtain ⟨c, first, cuts⟩ := (Option.any_eq_true ..).mp (stops final)
    rw [first]
    exact (apart c cuts).2

end Separators

/-- A closed parenthesis splits a text where no literal is open. -/
theorem closed_of_closeParen? {text inside after : Text}
    (found : closeParen? text = some (inside, after)) :
    text = inside ++ ')' :: after ∧ Closed inside := by
  obtain ⟨before, mark, rest, split, rfl, rfl, closes⟩ := exists_mark_of_closeFrom? found
  -- The mark shows what it is, so it stands outside of literals.
  obtain ⟨same, closed, -⟩ :=
    closed_of_marked split (by rw [closes]; decide) (by rw [closes]; decide)
  rw [closes] at same
  refine ⟨?_, closed⟩
  rw [← marked_fst text, split, List.map_append, List.map_cons, same]

/-- What follows a closed parenthesis ends the text. -/
theorem trails_of_closeParen? {text inside after : Text}
    (found : closeParen? text = some (inside, after)) : ∃ front, Trails text front after := by
  -- The closed text and its parenthesis are the front.
  obtain ⟨whole, closed⟩ := closed_of_closeParen? found
  exact ⟨inside ++ [')'], closed.append (closed_of_plain (by decide)), [], by simp [whole], by simp⟩

end Text

namespace Statement

variable {text rest : Text}

/-- What follows a bare header ends the statement. -/
theorem trails_of_header?_bare (found : header? text = some (.bare rest)) :
    ∃ front, Trails text front rest := by
  -- A bare header is an `else` that nothing but a word boundary follows.
  unfold header? at found
  split at found
  · cases found
  · split at found
    · rename_i starts
      cases found
      unfold startsWithWord at starts
      split at starts
      · rename_i tail read
        -- The four letters of the keyword are what is dropped.
        have dropped : text.drop 4 = tail := by
          rw [eq_append_of_after? read]
          rfl
        rw [dropped]
        exact (behind_of_after? (by decide) read).trails
      · -- Any other word makes no bare header.
        cases starts
    · cases found

/-- What follows a header with a parenthesis ends the statement. -/
theorem trails_of_header?_paren (found : header? text = some (.paren rest)) :
    ∃ front, Trails text front rest := by
  unfold header? at found
  split at found
  · rename_i read
    cases found
    -- Neither the keywords nor the parenthesis hold a quote.
    exact (behind_of_afterBranch? (fun c => isQuote_of_isSpace) (by decide) (by decide) read).trails
  · split at found <;> cases found

/-- What is left of a statement after its headers ends it, if anything is left. -/
theorem trails_body (filled : body text ≠ []) : ∃ front, Trails text front (body text) := by
  -- By induction on the headers of the text, each of which is taken off its front.
  induction text using induction_on_headers with
  | headless text absent =>
    rw [body_of_header?_eq_none absent]
    exact ⟨[], .refl text⟩
  | bare text rest found ih =>
    rw [body_of_header?_bare found] at filled ⊢
    obtain ⟨front, behind⟩ := trails_of_header?_bare found
    obtain ⟨lead, trimmed, -⟩ := trails_trim rest
    obtain ⟨inner, left⟩ := ih filled
    exact ⟨_, behind.trans (trimmed.trans left)⟩
  | paren text rest inside after found closed ih =>
    rw [body_of_header?_paren found closed] at filled ⊢
    obtain ⟨front, behind⟩ := trails_of_header?_paren found
    obtain ⟨parenthesis, later⟩ := trails_of_closeParen? closed
    obtain ⟨lead, trimmed, -⟩ := trails_trim after
    obtain ⟨inner, left⟩ := ih filled
    exact ⟨_, behind.trans (later.trans (trimmed.trans left))⟩
  | unclosed text rest found unread =>
    -- A parenthesis that stays open leaves nothing.
    exact absurd (body_of_header?_unclosed found unread) filled

end Statement

namespace Declaration

/-- The content of a text ends it, behind white space. -/
theorem trails_contentOf? {text content : Text} (found : contentOf? text = some content) :
    ∃ lead, Trails text lead content ∧ ∀ c ∈ lead, isSpace c = true := by
  unfold contentOf? at found
  split at found
  · rename_i blank
    -- White space alone stands for its last character.
    obtain ⟨c, last, rfl⟩ := Option.map_eq_some_iff.mp found
    obtain ⟨lead, rfl⟩ := List.getLast?_eq_some_iff.mp last
    have spaces : ∀ d ∈ lead, isSpace d = true := fun d member =>
      List.dropWhile_eq_nil_iff.mp blank d (by simp [member])
    exact ⟨lead, ⟨closed_of_plain fun d member => isQuote_of_isSpace (spaces d member), [],
      by simp, by simp⟩, spaces⟩
  · cases found
    exact trails_trim text

/-- The declared variables end a statement, behind white space. -/
theorem trails_of_split? {statement declared : Text} {type : DataType}
    (read : split? statement = some (type, declared)) :
    ∃ front, Trails statement front declared ∧ front.getLast?.any isSpace = true := by
  -- The type is one of those that are tried.
  obtain ⟨found, -, taken⟩ := List.exists_of_findSome?_eq_some read
  obtain ⟨content, filled, same⟩ := Option.map_eq_some_iff.mp taken
  cases same
  unfold variablesOf? at filled
  split at filled
  · rename_i c rest words
    split at filled
    · rename_i space
      -- The qualifiers and the type hold no quote.
      have spelled : ∀ word ∈ type.words, ∀ c ∈ word, isQuote c = false := by
        cases type <;> decide
      have spaces : ∀ c, isSpace c = true → isQuote c = false := fun c => isQuote_of_isSpace
      obtain ⟨front, whole, plain⟩ := (behind_skipSpace spaces statement).trans
        ((behind_skipQualifiers spaces (by decide) _).trans
          (behind_of_afterWords? spaces spelled words))
      have typed : Trails statement (front ++ [c]) rest := by
        refine ⟨closed_of_plain ?_, [], by simp [whole], by simp⟩
        simpa [or_imp, forall_and] using ⟨plain, spaces c space⟩
      obtain ⟨lead, inner, blank⟩ := trails_contentOf? filled
      refine ⟨_, typed.trans inner, ?_⟩
      -- The last character in front is the one behind the type, or one of the lead.
      rw [List.getLast?_append]
      cases last : lead.getLast? with
      | none => simpa using space
      | some d => simpa using blank d (List.mem_of_getLast? last)
    · -- Behind a type something other than white space declares nothing.
      cases filled
  · cases filled

end Declaration

end SourceLint
