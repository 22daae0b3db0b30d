import SourceLint.Proofs.Text.Masking

/-!
What the literals of a line hold.

A line is characters outside literals and literals, of which the last one may be left open. Masking
replaces what the literals hold and nothing else, and it leaves the literals where they are.
-/

namespace SourceLint.Text

/-- What stands behind the content of a literal left open: nothing, or an escape of nothing. -/
def EndsOpen (last : Text) : Prop :=
  last = [] ∨ last = [backslash]

/--
How a line reads as text and literals.

The marks say of each character whether a literal holds it. The delimiters of a literal belong to
the line and not to its content.
-/
inductive ReadsAs : (text : Text) → (marks : List Bool) → Prop
  | nil : ReadsAs [] []
  /-- A character outside literals. -/
  | outside {c : Char} {text : Text} {marks : List Bool} (unquoted : isQuote c = false)
      (behind : ReadsAs text marks) : ReadsAs (c :: text) (false :: marks)
  /-- A literal, and what stands behind its second delimiter. -/
  | literal {quote : Char} {content text : Text} {marks : List Bool} (opens : isQuote quote = true)
      (inside : Content quote content) (behind : ReadsAs text marks) :
      ReadsAs (quote :: (content ++ quote :: text))
        (false :: (List.replicate content.length true ++ false :: marks))
  /-- A literal that is still open at the end of the line. -/
  | unclosed {quote : Char} {content last : Text} (opens : isQuote quote = true)
      (inside : Content quote content) (ends : EndsOpen last) :
      ReadsAs (quote :: (content ++ last))
        (false :: List.replicate (content ++ last).length true)

variable {quote fill : Char}

/-- A text that starts inside a literal ends it somewhere or leaves it open. -/
theorem exists_content (opens : isQuote quote = true) (text : Text) :
    (∃ content rest, text = content ++ quote :: rest ∧ Content quote content) ∨
      ∃ content last, text = content ++ last ∧ Content quote content ∧ EndsOpen last := by
  -- Whatever the rest is read as, more content may stand in front of it.
  have longer : ∀ {front rest : Text},
      (∀ content, Content quote content → Content quote (front ++ content)) →
      ((∃ content more, rest = content ++ quote :: more ∧ Content quote content) ∨
        ∃ content last, rest = content ++ last ∧ Content quote content ∧ EndsOpen last) →
      (∃ content more, front ++ rest = content ++ quote :: more ∧ Content quote content) ∨
        ∃ content last, front ++ rest = content ++ last ∧ Content quote content ∧
          EndsOpen last := by
    rintro front rest grows (⟨content, more, rfl, inside⟩ | ⟨content, last, rfl, inside, ends⟩)
    · exact .inl ⟨front ++ content, more, by simp, grows content inside⟩
    · exact .inr ⟨front ++ content, last, by simp, grows content inside, ends⟩
  -- An escape takes two characters, so the induction is on the length.
  induction size : text.length using Nat.strong_induction_on generalizing text with
  | _ size ih =>
    subst size
    cases text with
    | nil => exact .inr ⟨[], [], rfl, .nil, .inl rfl⟩
    | cons c rest =>
      by_cases escape : c = backslash
      · subst escape
        cases rest with
        | nil => exact .inr ⟨[], [backslash], rfl, .nil, .inr rfl⟩
        | cons hidden rest =>
          have shorter : rest.length < (backslash :: hidden :: rest).length :=
            Nat.lt_add_right 1 (Nat.lt_add_one rest.length)
          have behind := ih rest.length shorter rest rfl
          exact @longer [backslash, hidden] rest (fun _ inside => inside.escape) behind
      · -- An escape takes its character with it, and any other character is content by itself.
        by_cases ends : c = quote
        · subst ends
          exact .inl ⟨[], rest, rfl, .nil⟩
        · have behind := ih rest.length (by simp) rest rfl
          exact @longer [c] rest (fun _ inside => inside.plain ends escape) behind

/-- Every line reads as text and literals. -/
theorem exists_readsAs (text : Text) : ∃ marks, ReadsAs text marks := by
  -- A literal takes any number of characters, so the induction is on the length.
  induction size : text.length using Nat.strong_induction_on generalizing text with
  | _ size ih =>
    subst size
    cases text with
    | nil => exact ⟨[], .nil⟩
    | cons c rest =>
      cases quoted : isQuote c with
      | false =>
        obtain ⟨marks, behind⟩ := ih rest.length (by simp) rest rfl
        exact ⟨_, behind.outside quoted⟩
      -- A quote opens a literal, which is closed somewhere or left open.
      | true =>
        rcases exists_content quoted rest with
          ⟨content, text, rfl, inside⟩ | ⟨content, last, rfl, inside, ends⟩
        · have shorter : text.length < (c :: (content ++ c :: text)).length := by
            rw [List.length_cons, List.length_append, List.length_cons]
            omega
          obtain ⟨marks, behind⟩ := ih text.length shorter text rfl
          exact ⟨_, .literal quoted inside behind⟩
        · exact ⟨_, .unclosed quoted inside ends⟩

/-- What stands at the end of a line behind the content of an open literal is replaced as well. -/
theorem EndsOpen.maskFrom_eq {last : Text} (ends : EndsOpen last) (opens : isQuote quote = true)
    (fill : Char) : maskFrom [fill] (some quote) last = List.replicate last.length fill := by
  rcases ends with rfl | rfl
  · rfl
  · -- The backslash is the last character, so it is no delimiter and hides nothing.
    rw [maskFrom, if_neg (unescaped_of_isQuote opens).symm]
    rfl

/-- A literal that is left open shows its first delimiter only. -/
theorem maskWith_unclosed (opens : isQuote quote = true) {content last : Text}
    (inside : Content quote content) (ends : EndsOpen last) (fill : Char) :
    maskWith [fill] (quote :: (content ++ last)) =
      quote :: List.replicate (content ++ last).length fill := by
  -- The delimiter shows, and everything behind it is filled.
  rw [maskWith, maskFrom_outside, if_pos opens, inside.maskFrom_append, ends.maskFrom_eq opens,
    List.replicate_append_replicate, List.length_append]

/-- A character is replaced if it is marked. -/
def shownAs (fill c : Char) (marked : Bool) : Char :=
  if marked then fill else c

/-- Where everything is marked, everything is replaced. -/
theorem zipWith_shownAs_append (fill : Char) (content text : Text) (marks : List Bool) :
    List.zipWith (shownAs fill) (content ++ text) (List.replicate content.length true ++ marks) =
      List.replicate content.length fill ++ List.zipWith (shownAs fill) text marks := by
  -- By induction on the content.
  induction content with
  | nil => rfl
  | cons c content ih =>
    rw [List.length_cons, List.replicate_succ, List.replicate_succ, List.cons_append,
      List.cons_append, List.zipWith_cons_cons, ih]
    rfl

namespace ReadsAs

variable {text : Text} {marks : List Bool}

/-- The view of a line replaces what its literals hold. -/
theorem maskWith_eq (reads : ReadsAs text marks) (fill : Char) :
    maskWith [fill] text = List.zipWith (shownAs fill) text marks := by
  -- By induction on the reading, with the content of a literal filled at once.
  induction reads with
  | nil => rfl
  | outside unquoted _ ih =>
    rw [maskWith_cons [fill] unquoted, ih, List.zipWith_cons_cons]
    rfl
  | literal opens inside _ ih =>
    rw [maskWith_literal opens inside, ih, List.zipWith_cons_cons, zipWith_shownAs_append]
    rfl
  | @unclosed quote content last opens inside ends =>
    -- There is nothing behind the content and what stands at the end.
    have filled := zipWith_shownAs_append fill (content ++ last) [] []
    rw [List.append_nil, List.append_nil, List.zipWith_nil_left, List.append_nil] at filled
    rw [maskWith_unclosed opens inside ends, List.zipWith_cons_cons, filled]
    rfl

/-- A line has one mark for each character. -/
theorem length_marks (reads : ReadsAs text marks) : marks.length = text.length := by
  induction reads <;> simp_all

/-- What the view of a line shows at a position: the fill if marked, or the character there. -/
theorem getElem?_maskWith (reads : ReadsAs text marks) (fill : Char) (index : Nat) :
    (maskWith [fill] text)[index]? =
      if marks[index]? = some true then some fill else text[index]? := by
  rw [reads.maskWith_eq, List.getElem?_zipWith]
  rcases Nat.lt_or_ge index text.length with within | beyond
  · -- There is a character and a mark for it.
    have marked : index < marks.length := reads.length_marks.symm ▸ within
    rw [List.getElem?_eq_getElem within, List.getElem?_eq_getElem marked]
    cases marks[index] <;> rfl
  · rw [List.getElem?_eq_none beyond, List.getElem?_eq_none (reads.length_marks ▸ beyond)]
    rfl

/-- A position is marked if the view shows the fill there, whatever the fill is. -/
theorem getElem?_marks_iff (reads : ReadsAs text marks) (index : Nat) :
    marks[index]? = some true ↔ ∀ fill : Char, (maskWith [fill] text)[index]? = some fill := by
  refine ⟨fun marked fill => by rw [reads.getElem?_maskWith, if_pos marked], fun filled => ?_⟩
  by_contra unmarked
  -- The character of the line would have to be every fill at once.
  have shown : ∀ fill : Char, text[index]? = some fill := fun fill => by
    rw [← filled fill, reads.getElem?_maskWith, if_neg unmarked]
  exact absurd ((shown 'a').symm.trans (shown 'b')) (by decide)

/-- A line reads as text and literals in one way only. -/
theorem unique {others : List Bool} (reads : ReadsAs text marks) (again : ReadsAs text others) :
    others = marks := by
  have same : others.length = marks.length := again.length_marks.trans reads.length_marks.symm
  refine List.ext_getElem same fun index here there => ?_
  -- The same positions are marked, since the view decides which.
  have both := (again.getElem?_marks_iff index).trans (reads.getElem?_marks_iff index).symm
  rw [List.getElem?_eq_getElem here, List.getElem?_eq_getElem there, Option.some.injEq,
    Option.some.injEq] at both
  exact Bool.eq_iff_iff.mpr both

end ReadsAs

/-- A character that neither ends a literal nor escapes another one may fill it. -/
theorem content_replicate (other : fill ≠ quote) (unescaping : fill ≠ backslash) (count : Nat) :
    Content quote (List.replicate count fill) :=
  -- Every character of the content is the fill.
  content_of_plain fun c member => by
    rw [List.eq_of_mem_replicate member]
    exact ⟨other, unescaping⟩

section Fills

variable (unquoted : isQuote fill = false) (unescaping : fill ≠ backslash)
include unquoted unescaping

/-- The view of a line has its literals where the line has them. -/
theorem ReadsAs.masked {text : Text} {marks : List Bool} (reads : ReadsAs text marks) :
    ReadsAs (maskWith [fill] text) marks := by
  -- A delimiter is a quote, so the fill is another character.
  have other : ∀ {quote : Char}, isQuote quote = true → fill ≠ quote := fun opens =>
    (ne_of_class opens unquoted).symm
  induction reads with
  | nil => exact .nil
  | outside plain _ ih =>
    rw [maskWith_cons [fill] plain]
    exact ih.outside plain
  -- The content of a literal is filled, and the fill ends nothing.
  | @literal quote content text marks opens inside _ ih =>
    rw [maskWith_literal opens inside]
    have filled := ih.literal opens (content_replicate (other opens) unescaping content.length)
    rwa [List.length_replicate] at filled
  | @unclosed quote content last opens inside ends =>
    rw [maskWith_unclosed opens inside ends]
    -- What stands at the end is filled as well, so nothing is escaped there any more.
    have filled := unclosed opens
      (content_replicate (other opens) unescaping (content ++ last).length) (.inl rfl)
    rwa [List.append_nil, List.length_replicate] at filled

/--
What masking does to a line, whatever it is masked with that is no quote and no backslash.

A line reads as text and literals in exactly one way. Its view is as long as the line, it shows the
fill for what the literals hold and the line itself everywhere else, delimiters included. So the
view reads as the line does, and masking it again is masking the line.
-/
theorem maskWith_fills (text : Text) :
    ∃ marks, ReadsAs text marks ∧ (∀ others, ReadsAs text others → others = marks) ∧
      (maskWith [fill] text).length = text.length ∧
      (∀ index : Nat, (maskWith [fill] text)[index]? =
        if marks[index]? = some true then some fill else text[index]?) ∧
      ReadsAs (maskWith [fill] text) marks ∧
      ∀ other : Char, maskWith [other] (maskWith [fill] text) = maskWith [other] text := by
  -- A reading exists for every text, and all else follows from one.
  obtain ⟨marks, reads⟩ := exists_readsAs text
  exact ⟨marks, reads, fun _ again => reads.unique again, length_maskFrom fill none text,
    reads.getElem?_maskWith fill, reads.masked unquoted unescaping,
    fun other => maskFrom_maskFrom unquoted unescaping other (by simp) text⟩

end Fills

/-- A literal goes on behind an escaped delimiter, and one left open may end in a backslash. -/
theorem maskWith_fills_open :
    let text := [doubleQuote, backslash, doubleQuote, doubleQuote, ';', singleQuote, backslash]
    let marks := [false, true, true, false, false, false, true]
    isQuote ' ' = false ∧ ' ' ≠ backslash ∧ ReadsAs text marks ∧
      blank text = [doubleQuote, ' ', ' ', doubleQuote, ';', singleQuote, ' '] ∧
      mask (blank text) = mask text := by
  -- The marks are read off the text, and by uniqueness they are those of the theorem.
  intro text marks
  have reads : ReadsAs text marks :=
    .literal rfl (.escape .nil) (.outside rfl (.unclosed rfl .nil (.inr rfl)))
  obtain ⟨others, -, unique, -, shown, -, absorbs⟩ :=
    @maskWith_fills ' ' (by decide) (by decide) text
  refine ⟨by decide, by decide, reads, ?_, absorbs 's'⟩
  -- Every position shows what the marks say.
  refine List.ext_getElem? fun index => ?_
  rw [blank, shown, ← unique marks reads]
  match index with
  | 0 | 1 | 2 | 3 | 4 | 5 | 6 => rfl
  | index + 7 => rfl

end SourceLint.Text
