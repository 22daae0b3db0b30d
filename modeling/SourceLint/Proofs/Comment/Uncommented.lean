import SourceLint.Proofs.Comment.Reader

/-!
Texts that hold no comment.

What is left of a source is such a text, and nothing is removed from such a text. So removing
comments once more changes nothing.
-/

namespace SourceLint.Comment

open Text

/-- The delimiter of the literal around a place, if there is one. -/
def Place.inside : Place → Option Char
  | .literal quote => some quote
  | _ => none

/-- The place inside a literal with the given delimiter, or outside of literals and comments. -/
def Place.ofInside : Option Char → Place
  | some quote => .literal quote
  | none => .code

/-- A text without comments that is read inside a literal or outside of literals. -/
inductive Uncommented : (inside : Option Char) → Text → Prop
  | nil (inside : Option Char) : Uncommented inside []
  | plain {c : Char} {rest : Text}
      (uncommented : c = '/' → rest.head? ≠ some '*' ∧ rest.head? ≠ some '/') :
      Uncommented (if isQuote c then some c else none) rest → Uncommented none (c :: rest)
  | lineBreak (quote : Char) {rest : Text} :
      Uncommented none rest → Uncommented (some quote) ('\n' :: rest)
  | escape {quote hidden : Char} {rest : Text} (unbroken : hidden ≠ '\n') :
      Uncommented (some quote) rest → Uncommented (some quote) (backslash :: hidden :: rest)
  | lastBackslash {quote : Char} {rest : Text} (ends : ∀ c ∈ rest.head?, c = '\n') :
      Uncommented (some quote) rest → Uncommented (some quote) (backslash :: rest)
  | content {quote c : Char} {rest : Text} (unbroken : c ≠ '\n') (unescaped : c ≠ backslash) :
      Uncommented (if c = quote then none else some quote) rest →
        Uncommented (some quote) (c :: rest)

/-- Behind a line break no literal is open. -/
theorem Place.inside_next (place : Place) : place.next.inside = none := by
  cases place <;> rfl

/-- A line break can stand anywhere in a text without comments. -/
theorem Uncommented.cons_break (inside : Option Char) {rest : Text}
    (behind : Uncommented none rest) : Uncommented inside ('\n' :: rest) := by
  -- A line break is plain outside literals, and inside of one it ends the literal.
  cases inside with
  | none => exact .plain (by simp) behind
  | some quote => exact .lineBreak quote behind

/-- Outside of comments and literals the first character is kept, unless it is a slash. -/
theorem head?_stripFrom_code {text : Text} (line : Int) (plain : text.head? ≠ some '/') :
    (stripFrom .code line text).text.head? = text.head? := by
  -- Only a slash may open a comment.
  cases text with
  | nil => rfl
  | cons c rest =>
    rw [stripFrom_code fun slash => plain (by rw [slash]; rfl)]
    rfl

/-- At the end of a line inside a literal the line break is kept. -/
theorem head?_stripFrom_ends {text : Text} (place : Place) (line : Int)
    (ends : ∀ c ∈ text.head?, c = '\n') :
    ∀ c ∈ (stripFrom place line text).text.head?, c = '\n' := by
  -- A line break is kept at every place.
  cases text with
  | nil => cases place <;> simp [stripFrom]
  | cons c rest =>
    rw [ends c rfl, stripFrom_break]
    simp [Stripped.keep]

/-- What is left of a text holds no comment. -/
theorem uncommented_stripFrom (place : Place) (line : Int) (text : Text) :
    Uncommented place.inside (stripFrom place line text).text := by
  -- By induction along the moves, looking at what each of them keeps.
  induction place, line, text using induction_on_moves with
  | ended place line => cases place <;> exact .nil _
  | @step place line text move moved behind =>
    rw [moved.stripFrom_eq]
    generalize stripped : stripFrom move.next (line + breaks move.taken)
      (text.drop move.taken.length) = left at behind
    cases moved with
    | lineBreak =>
      rw [Place.inside_next] at behind
      exact behind.cons_break _
    -- Nothing is kept of a comment, and its places are outside of literals.
    | opener | lineOpener | remark | closer | nestedOpener | blocked => exact behind
    | @plain c rest unbroken uncommented =>
      refine .plain (fun slash => ?_) ?_
      · -- A slash in front of another character is followed by that character.
        obtain ⟨unstarred, unslashed⟩ := uncommented slash
        have outside : isQuote c = false := by rw [slash]; rfl
        have next : left.text.head? = rest.head? := by
          rw [← stripped, outside]
          exact head?_stripFrom_code _ unslashed
        exact ⟨next ▸ unstarred, next ▸ unslashed⟩
      · cases quote : isQuote c <;> simpa [quote, Place.inside] using behind
    | escape quote unbroken => exact .escape unbroken behind
    | lastBackslash quote ends =>
      -- The end of the line is still there.
      have next : ∀ c ∈ left.text.head?, c = '\n' := by
        rw [← stripped]
        exact head?_stripFrom_ends _ _ ends
      exact .lastBackslash next behind
    -- A delimiter leads out of the literal, and any other character stays in it.
    | @content quote c unbroken unescaped =>
      refine .content unbroken unescaped ?_
      by_cases closes : c = quote <;> simpa [closes, Place.inside] using behind

/-- What is left of a source holds no comment. -/
theorem uncommented_strip (source : Text) : Uncommented none (strip source).text :=
  uncommented_stripFrom .code 1 source

/-- Nothing is removed from a text without comments. -/
theorem Uncommented.stripFrom_eq {inside : Option Char} {text : Text}
    (uncommented : Uncommented inside text) (line : Int) :
    stripFrom (.ofInside inside) line text = { text } := by
  -- Each kind of character is read by the move that is made for it.
  induction uncommented generalizing line with
  | nil inside => cases inside <;> rfl
  | @plain c rest plain _ ih =>
    rw [Place.ofInside, stripFrom_code_of_head plain]
    -- The character opens a literal or it does not, and what follows is uncommented there.
    cases quote : isQuote c with
    | true =>
      rw [quote] at ih
      exact congrArg (Stripped.keep c) (ih _)
    | false =>
      rw [quote] at ih
      exact congrArg (Stripped.keep c) (ih _)
  | lineBreak quote _ ih =>
    rw [stripFrom_break]
    exact congrArg (Stripped.keep '\n') (ih _)
  -- An escape on one line is a single move.
  | @escape quote hidden rest unbroken _ ih =>
    have escaped := (@Moved.escape line quote _ unbroken rest).stripFrom_eq
    rw [Place.ofInside, escaped]
    exact congrArg (Stripped.behind [backslash, hidden] []) (ih _)
  | @lastBackslash quote rest ends _ ih =>
    have alone := (@Moved.lastBackslash line quote _ ends).stripFrom_eq
    rw [Place.ofInside, alone]
    exact congrArg (Stripped.behind [backslash] []) (ih _)
  -- The literal goes on unless the character is its delimiter.
  | @content quote c rest unbroken unescaped _ ih =>
    rw [Place.ofInside, stripFrom_literal unbroken unescaped]
    by_cases closes : c = quote
    · rw [if_pos closes] at ih ⊢
      exact congrArg (Stripped.keep c) (ih _)
    · rw [if_neg closes] at ih ⊢
      exact congrArg (Stripped.keep c) (ih _)

/-- Removing comments once more changes nothing and reports nothing. -/
theorem strip_text_strip (source : Text) :
    strip (strip source).text = { text := (strip source).text } :=
  (uncommented_strip source).stripFrom_eq 1

end SourceLint.Comment
