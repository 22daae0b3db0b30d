import SourceLint.Declaration
import SourceLint.LineShape
import SourceLint.Proofs.Text.Span

/-! Words and headers at the front of a text: what follows them, and when there are none. -/

namespace SourceLint

open Text

variable {text : Text}

/-- A text that neither starts with another one nor is the start of it cannot be read as it. -/
theorem after?_append_eq_none {front : Text} (longer : after? front text = none)
    (shorter : after? text front = none) (rest : Text) : after? front (text ++ rest) = none := by
  -- The two texts differ at a character that both have.
  induction front generalizing text with
  | nil => simp [after?] at longer
  | cons f front ih =>
    cases text with
    | nil => simp [after?] at shorter
    | cons c text =>
      -- Behind a character that both have the question is the same for what is left.
      by_cases same : f = c
      · subst same
        simp only [after?, if_true] at longer shorter
        simpa [after?] using ih longer shorter
      · simp [after?, same]

/-- A text starts with what it is put together from. -/
theorem after?_append (front rest : Text) : after? front (front ++ rest) = some rest := by
  -- Every character is read against itself.
  induction front with
  | nil => rfl
  | cons f front ih => simpa [after?] using ih

/-- A word that is read in front of a text is read whatever follows the text. -/
theorem after?_append_of_some {word part rest : Text} (found : after? word part = some rest)
    (more : Text) : after? word (part ++ more) = some (rest ++ more) := by
  rw [eq_append_of_after? found, List.append_assoc, after?_append]

/-- A word that is not read in front of a text is started by it, or it is not read at all. -/
theorem after?_append_of_none {word part : Text} (absent : after? word part = none) (more : Text) :
    after? word (part ++ more) = none ∨
      ∃ c rest, word = part ++ c :: rest ∧
        after? word (part ++ more) = after? (c :: rest) more := by
  -- The first difference decides, or the text ends before the word does.
  induction part generalizing word with
  | nil =>
    -- The part is over first, and what is left of the word is still to be read.
    cases word with
    | nil => simp [after?] at absent
    | cons c rest => exact .inr ⟨c, rest, rfl, rfl⟩
  | cons d part ih =>
    cases word with
    | nil => simp [after?] at absent
    | cons c rest =>
      -- The same first character is read off both, and another one ends the reading.
      by_cases same : c = d
      · subst same
        simp only [after?, if_true] at absent
        rcases ih absent with none | ⟨e, tail, split, read⟩
        · exact .inl (by simpa [after?] using none)
        · exact .inr ⟨e, tail, by simp [split], by simpa [after?] using read⟩
      · exact .inl (by simp [after?, same])

/-- A word is read in front of a character that it does not hold, or it is not read at all. -/
theorem after?_append_stop {word : Text} {c : Char} (absent : c ∉ word) (text rest : Text) :
    after? word (text ++ c :: rest) = (after? word text).map (· ++ c :: rest) := by
  -- Either the word ends inside the text, or it would go on behind it.
  cases found : after? word text with
  | some left => exact after?_append_of_some found _
  | none =>
    rcases after?_append_of_none found (c :: rest) with none | ⟨d, tail, split, read⟩
    · exact none
    · -- The word would have to go on with the character.
      have other : d ≠ c := by
        rintro rfl
        exact absent (by simp [split])
      rw [read, after?, if_neg other]
      rfl

/-- A word without white space is read in front of white space or not at all. -/
theorem after?_append_space {word : Text} (solid : ∀ c ∈ word, isSpace c = false) {space : Char}
    (blank : isSpace space = true) (text rest : Text) :
    after? word (text ++ space :: rest) = (after? word text).map (· ++ space :: rest) := by
  -- White space is a character that the word does not hold.
  refine after?_append_stop (fun member => ?_) text rest
  rw [solid space member] at blank
  cases blank

/-- A word that white space ends is read with all of that white space. -/
theorem afterSpaced?_eq_some_iff {word rest : Text} :
    afterSpaced? word text = some rest ↔
      ∃ space, space ≠ [] ∧ (∀ c ∈ space, isSpace c = true) ∧ text = word ++ (space ++ rest) ∧
        rest.head?.any isSpace = false := by
  -- The reading is followed in both directions.
  constructor
  · intro read
    unfold afterSpaced? at read
    split at read
    · rename_i c tail found
      split at read
      · rename_i space
        cases read
        -- One character of white space ends the word, and then more is skipped.
        obtain ⟨gap, split, blank⟩ := exists_gap_of_skipSpace tail
        refine ⟨c :: gap, List.cons_ne_nil c gap, List.forall_mem_cons.mpr ⟨space, blank⟩, ?_,
          head?_skipSpace tail⟩
        rw [eq_append_of_after? found, List.cons_append, ← split]
      · cases read
    · cases read
  · -- The other way round, the first character of the white space ends the word.
    rintro ⟨space, spaced, spaces, rfl, starts⟩
    obtain ⟨c, more, rfl⟩ := List.exists_cons_of_ne_nil spaced
    obtain ⟨first, others⟩ := List.forall_mem_cons.mp spaces
    rw [afterSpaced?, after?_append]
    show (if isSpace c then some (skipSpace (more ++ rest)) else none) = some rest
    rw [if_pos first, skipSpace_append others, skipSpace_of_head starts]

/-- What is read as an opening is one: a keyword, white space and a parenthesis. -/
theorem Statement.exists_of_afterOpening? {keywords : List Text} {rest : Text}
    (read : afterOpening? keywords text = some rest) :
    ∃ keyword ∈ keywords, ∃ gap, (∀ c ∈ gap, isSpace c = true) ∧
      text = keyword ++ (gap ++ '(' :: rest) := by
  -- The keyword comes first, then the gap, then the parenthesis.
  obtain ⟨keyword, listed, opened⟩ := List.exists_of_findSome?_eq_some read
  obtain ⟨tail, word, opening⟩ := Option.bind_eq_some_iff.mp opened
  obtain ⟨gap, split, blank⟩ := exists_gap_of_skipSpace tail
  refine ⟨keyword, listed, gap, blank, ?_⟩
  -- The three parts are put together in the order in which they were read.
  calc text
      = keyword ++ tail := eq_append_of_after? word
    _ = keyword ++ (gap ++ skipSpace tail) := by rw [← split]
    _ = keyword ++ (gap ++ '(' :: rest) := by rw [eq_append_of_after? opening]; rfl

/-- What is left of a text behind characters that all have a property. -/
def Text.Behind (p : Char → Prop) (text rest : Text) : Prop :=
  ∃ front, text = front ++ rest ∧ ∀ c ∈ front, p c

/-- Without a qualifier at the front none is skipped. -/
theorem skipQualifiers_eq_self (absent : Vocabulary.afterQualifier? text = none) :
    Vocabulary.skipQualifiers text = text := by
  -- The text is only left as it is where nothing can be taken off.
  rw [Vocabulary.skipQualifiers]
  split
  · simp_all
  · rfl

/-- A qualifier at the front is skipped, and those behind it after it. -/
theorem skipQualifiers_of_qualifier {rest : Text}
    (found : Vocabulary.afterQualifier? text = some rest) :
    Vocabulary.skipQualifiers text = Vocabulary.skipQualifiers rest := by
  -- What is taken off is the given qualifier, since the reading has one answer.
  rw [Vocabulary.skipQualifiers]
  split <;> simp_all

/-- Induction over the qualifiers at the front of a text, which are skipped one after another. -/
theorem induction_on_qualifiers {motive : Text → Prop}
    (qualified : ∀ text rest, Vocabulary.afterQualifier? text = some rest → motive rest →
      motive text)
    (plain : ∀ text, Vocabulary.afterQualifier? text = none → motive text)
    (text : Text) : motive text :=
  Vocabulary.skipQualifiers.induct motive qualified plain text

section Behind

variable {p : Char → Prop} {middle rest word : Text} {words : List Text}

/-- A text is behind nothing. -/
theorem Text.Behind.refl (text : Text) : Behind p text text :=
  ⟨[], rfl, by simp⟩

/-- The fronts of two steps stand one behind the other. -/
theorem Text.Behind.trans (outer : Behind p text middle) (inner : Behind p middle rest) :
    Behind p text rest := by
  -- The front of the whole is made of the two fronts.
  obtain ⟨first, whole, all⟩ := outer
  obtain ⟨second, part, more⟩ := inner
  refine ⟨first ++ second, by rw [whole, part, List.append_assoc], fun c member => ?_⟩
  exact (List.mem_append.mp member).elim (all c) (more c)

/-- What is behind something is the end of the text. -/
theorem Text.Behind.suffix (behind : Behind p text rest) : rest <:+ text := by
  -- The front is what the text has before it.
  obtain ⟨front, split, -⟩ := behind
  exact ⟨front, split.symm⟩

/-- What follows a word is behind its characters. -/
theorem behind_of_after? (spelled : ∀ c ∈ word, p c) (read : after? word text = some rest) :
    Behind p text rest :=
  ⟨word, eq_append_of_after? read, spelled⟩

variable (spaces : ∀ c, isSpace c = true → p c)
include spaces

/-- What is left when white space is skipped is behind it. -/
theorem behind_skipSpace (text : Text) : Behind p text (skipSpace text) := by
  -- All that was passed is white space.
  obtain ⟨gap, split, blank⟩ := exists_gap_of_skipSpace text
  exact ⟨gap, split, fun c member => spaces c (blank c member)⟩

/-- What follows a word that white space ends is behind both. -/
theorem behind_of_afterSpaced? (spelled : ∀ c ∈ word, p c)
    (read : afterSpaced? word text = some rest) : Behind p text rest := by
  -- What is passed is the word and its white space.
  obtain ⟨space, -, blank, rfl, -⟩ := afterSpaced?_eq_some_iff.mp read
  refine ⟨word ++ space, (List.append_assoc word space rest).symm, ?_⟩
  exact List.forall_mem_append.mpr ⟨spelled, fun c member => spaces c (blank c member)⟩

/-- What follows words at the front of a text is behind them. -/
theorem behind_of_afterWords? (spelled : ∀ word ∈ words, ∀ c ∈ word, p c)
    (read : Declaration.afterWords? words text = some rest) : Behind p text rest := by
  -- Every word that is read is cut off at the front.
  induction words generalizing text with
  | nil => exact (Option.some.inj read) ▸ Behind.refl text
  | cons first others ih =>
    have here : ∀ c ∈ first, p c := spelled first (by simp)
    -- A last word may end the text, and any other one ends with white space.
    cases others with
    | nil => exact behind_of_after? here read
    | cons next more =>
      obtain ⟨left, spaced, later⟩ := Option.bind_eq_some_iff.mp read
      have behind := ih (fun word member => spelled word (by simp [member])) later
      exact (behind_of_afterSpaced? spaces here spaced).trans behind

/-- What follows an opening is behind the keyword and the parenthesis. -/
theorem behind_of_afterOpening? (spelled : ∀ word ∈ words, ∀ c ∈ word, p c) (paren : p '(')
    (read : Statement.afterOpening? words text = some rest) : Behind p text rest := by
  obtain ⟨keyword, listed, gap, blank, rfl⟩ := Statement.exists_of_afterOpening? read
  -- The keyword, white space and the parenthesis are cut off at the front.
  refine ⟨keyword ++ (gap ++ ['(']), by simp, ?_⟩
  refine List.forall_mem_append.mpr ⟨spelled keyword listed, List.forall_mem_append.mpr ⟨?_, ?_⟩⟩
  · exact fun c member => spaces c (blank c member)
  · exact List.forall_mem_singleton.mpr paren

/-- What follows the opening of a branch is behind the words and the parenthesis. -/
theorem behind_of_afterBranch? (spelled : ∀ word ∈ "else".toList :: words, ∀ c ∈ word, p c)
    (paren : p '(') (read : Statement.afterBranch? words text = some rest) :
    Behind p text rest := by
  have keywords : ∀ word ∈ words, ∀ c ∈ word, p c := fun word member =>
    spelled word (by simp [member])
  -- The branch is opened by a keyword, with or without an `else` in front.
  rcases Option.or_eq_some_iff.mp read with first | ⟨-, second⟩
  · obtain ⟨tail, spaced, opening⟩ := Option.bind_eq_some_iff.mp first
    exact (behind_of_afterSpaced? spaces (spelled _ (by simp)) spaced).trans
      (behind_of_afterOpening? spaces keywords paren opening)
  · exact behind_of_afterOpening? spaces keywords paren second

/-- What is left of a statement behind its qualifiers is behind their words. -/
theorem behind_skipQualifiers
    (spelled : ∀ word ∈ ["const".toList, "static".toList], ∀ c ∈ word, p c) (text : Text) :
    Behind p text (Vocabulary.skipQualifiers text) := by
  -- Each qualifier leaves a shorter text to the next round.
  induction text using induction_on_qualifiers with
  | qualified text rest found ih =>
    rw [skipQualifiers_of_qualifier found]
    -- The qualifier was one of the two words, and white space ended it.
    rcases Option.or_eq_some_iff.mp found with first | ⟨-, second⟩
    · exact (behind_of_afterSpaced? spaces (spelled _ (by simp)) first).trans ih
    · exact (behind_of_afterSpaced? spaces (spelled _ (by simp)) second).trans ih
  | plain text absent =>
    rw [skipQualifiers_eq_self absent]
    exact .refl text

end Behind

/-- What follows a word that white space ends is the end of the text. -/
theorem suffix_of_afterSpaced? {word rest : Text} (read : afterSpaced? word text = some rest) :
    rest <:+ text :=
  (@behind_of_afterSpaced? _ (fun _ => True) _ _ (by simp) (by simp) read).suffix

/-- What follows words at the front of a text is the end of the text. -/
theorem suffix_of_afterWords? {words : List Text} {rest : Text}
    (read : Declaration.afterWords? words text = some rest) : rest <:+ text :=
  (@behind_of_afterWords? _ (fun _ => True) _ _ (by simp) (by simp) read).suffix

/-- A word that is not at the front has no white space behind it. -/
theorem afterSpaced?_eq_none {word : Text} (absent : after? word text = none) :
    afterSpaced? word text = none := by
  rw [afterSpaced?, absent]

/-- A word that is not at the front is not the first word. -/
theorem startsWithWord_eq_false {word : Text} (absent : after? word text = none) :
    startsWithWord word text = false := by
  rw [startsWithWord, absent]

/-- Without a keyword at the front there is no opening. -/
theorem afterOpening?_eq_none {keywords : List Text}
    (absent : ∀ keyword ∈ keywords, after? keyword text = none) :
    Statement.afterOpening? keywords text = none := by
  -- None of the keywords is found, so no parenthesis is looked for.
  rw [Statement.afterOpening?, List.findSome?_eq_none_iff]
  intro keyword listed
  rw [absent keyword listed]
  rfl

/-- Without a keyword or an `else` at the front there is no branch. -/
theorem afterBranch?_eq_none {keywords : List Text} (otherwise : after? "else".toList text = none)
    (absent : ∀ keyword ∈ keywords, after? keyword text = none) :
    Statement.afterBranch? keywords text = none := by
  -- A branch is opened with or without an else, and neither can be read.
  rw [Statement.afterBranch?, afterSpaced?_eq_none otherwise, afterOpening?_eq_none absent]
  rfl

/-- Without a control word at the front there is no header. -/
theorem header?_eq_none (otherwise : after? "else".toList text = none)
    (absent : ∀ keyword ∈ Statement.controlKeywords, after? keyword text = none) :
    Statement.header? text = none := by
  -- There is no opening, and no else that could stand alone.
  rw [Statement.header?, afterBranch?_eq_none otherwise absent,
    startsWithWord_eq_false otherwise]
  rfl

/-- A statement without a header is left as it is. -/
theorem body_of_header?_eq_none (headless : Statement.header? text = none) :
    Statement.body text = text := by
  rw [Statement.body]
  -- Only a header could make the statement shorter.
  split
  · rfl
  all_goals simp_all

namespace Statement

variable {rest inside after : Text}

/-- Behind a bare header the rest of the statement is left, trimmed. -/
theorem body_of_header?_bare (read : header? text = some (.bare rest)) :
    body text = body (trim rest) := by
  -- The header has one reading, which is the bare one.
  rw [body]
  split <;> simp_all

/-- What is left behind a header with a parenthesis depends on where that closes. -/
theorem body_of_header?_opened (read : header? text = some (.paren rest)) :
    body text = (closeParen? rest).elim [] fun (_, after) => body (trim after) := by
  rw [body]
  -- Of the three ways a header can be read only this one is left.
  split
  · simp_all
  · simp_all
  · rename_i other found
    rw [read] at found
    cases found
    -- Where the parenthesis closes decides what is left.
    split <;> simp_all

/-- Behind a header with a parenthesis what follows its closing is left, trimmed. -/
theorem body_of_header?_paren (read : header? text = some (.paren rest))
    (closed : closeParen? rest = some (inside, after)) : body text = body (trim after) := by
  rw [body_of_header?_opened read, closed, Option.elim_some]

/-- Nothing is left behind a header with a parenthesis that never closes. -/
theorem body_of_header?_unclosed (read : header? text = some (.paren rest))
    (unclosed : closeParen? rest = none) : body text = [] := by
  rw [body_of_header?_opened read, unclosed, Option.elim_none]

/-- Induction over the headers of a statement, which are taken off its front one after another. -/
theorem induction_on_headers {motive : Text → Prop}
    (headless : ∀ text, header? text = none → motive text)
    (bare : ∀ text rest, header? text = some (.bare rest) → motive (trim rest) → motive text)
    (paren : ∀ text rest inside after, header? text = some (.paren rest) →
      closeParen? rest = some (inside, after) → motive (trim after) → motive text)
    (unclosed : ∀ text rest, header? text = some (.paren rest) → closeParen? rest = none →
      motive text)
    (text : Text) : motive text :=
  -- These are the ways in which a header is read.
  body.induct motive headless bare
    (fun text rest found inside after closed => paren text rest inside after found closed)
    unclosed text

end Statement

/-- Neither of the two qualifiers can be taken off a text that starts with none. -/
theorem afterQualifier?_eq_none (constant : after? "const".toList text = none)
    (static : after? "static".toList text = none) : Vocabulary.afterQualifier? text = none := by
  -- Each of the two words is missing at the front.
  rw [Vocabulary.afterQualifier?, afterSpaced?_eq_none constant, afterSpaced?_eq_none static]
  rfl

end SourceLint
