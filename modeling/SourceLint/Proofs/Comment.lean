import SourceLint.Comment
import SourceLint.Proofs.Text.Class
import SourceLint.Text.Basic

/-! Removing comments from texts that are put together from parts. -/

namespace SourceLint.Comment

open Text

/-- The outcome for a text with more characters kept in front. -/
def Stripped.keepAll (front : Text) (stripped : Stripped) : Stripped :=
  { stripped with text := front ++ stripped.text }

/-- The outcome for a text behind one of which the given characters and lines are kept. -/
def Stripped.behind (kept : Text) (nested : List Int) (stripped : Stripped) : Stripped :=
  { stripped with text := kept ++ stripped.text, nested := nested ++ stripped.nested }

/-- Outside comments and literals a character is kept, unless it starts a comment. -/
theorem stripFrom_code_of_head {c : Char} {rest : Text}
    (plain : c = '/' → rest.head? ≠ some '*' ∧ rest.head? ≠ some '/') (line : Int) :
    stripFrom .code line (c :: rest) =
      (stripFrom (if isQuote c then .literal c else .code) (if c = '\n' then line + 1 else line)
        rest).keep c := by
  -- The two comment openers are the only pairs that are read otherwise.
  rw [stripFrom]
  · split
    case isTrue quote =>
      -- A quote is no line break, so the line number stays.
      have unbroken : c ≠ '\n' := ne_of_class quote (by decide)
      rw [if_neg unbroken]
    case isFalse => rfl
  · rintro more slash rfl
    exact (plain slash).1 rfl
  · rintro more slash rfl
    exact (plain slash).2 rfl

/-- Outside comments and literals a character is kept, and a quote opens a literal. -/
theorem stripFrom_code {c : Char} (plain : c ≠ '/') (line : Int) (rest : Text) :
    stripFrom .code line (c :: rest) =
      (stripFrom (if isQuote c then .literal c else .code) (if c = '\n' then line + 1 else line)
        rest).keep c :=
  stripFrom_code_of_head (fun slash => absurd slash plain) line

/-- Inside a block comment only line breaks are kept. -/
theorem stripFrom_block {c : Char} {rest : Text} (unclosed : c = '*' → rest.head? ≠ some '/')
    (unopened : c = '/' → rest.head? ≠ some '*') (start line : Int) :
    stripFrom (.blockComment start) line (c :: rest) =
      if c = '\n' then (stripFrom (.blockComment start) (line + 1) rest).keep c
      else stripFrom (.blockComment start) line rest := by
  -- Both pairs of characters that mean something here are ruled out.
  rw [stripFrom]
  · rintro more star rfl
    exact unclosed star rfl
  · rintro more slash rfl
    exact unopened slash rfl

/-- Inside a literal a character is kept, and the delimiter ends the literal. -/
theorem stripFrom_literal {quote c : Char} (unbroken : c ≠ '\n') (unescaped : c ≠ backslash)
    (line : Int) (rest : Text) :
    stripFrom (.literal quote) line (c :: rest) =
      (stripFrom (if c = quote then .code else .literal quote) line rest).keep c := by
  -- The reader asks for a line break, an escape and the delimiter, in this order.
  conv => lhs; unfold stripFrom
  simp only [unbroken, unescaped, if_false]
  split <;> rfl

/-- The place behind a line break: only block comments go on. -/
def Place.next : Place → Place
  | .blockComment start => .blockComment start
  | _ => .code

/-- A line break is kept wherever it stands. -/
theorem stripFrom_break (place : Place) (line : Int) (rest : Text) :
    stripFrom place line ('\n' :: rest) = (stripFrom place.next (line + 1) rest).keep '\n' := by
  cases place with
  | code => exact stripFrom_code (by decide) line rest
  -- A line break ends a literal that is still open.
  | literal quote =>
    conv => lhs; unfold stripFrom
    rw [if_pos rfl]
    rfl
  | lineComment =>
    rw [stripFrom, if_pos rfl]
    rfl
  -- A line break is neither of the characters that matter in a block comment.
  | blockComment start =>
    rw [stripFrom_block (by simp) (by simp), if_pos rfl]
    rfl

/-- Characters outside comments and literals are kept. -/
theorem stripFrom_append_plain {text : Text}
    (plain : ∀ c ∈ text, c ≠ '/' ∧ isQuote c = false ∧ c ≠ '\n') (line : Int) (rest : Text) :
    stripFrom .code line (text ++ rest) = (stripFrom .code line rest).keepAll text := by
  induction text with
  | nil => rfl
  | cons c text ih =>
    -- None of the characters opens anything, so the reader stays where it is.
    obtain ⟨uncommented, unquoted, unbroken⟩ := plain c (by simp)
    rw [List.cons_append, stripFrom_code uncommented, unquoted, if_neg unbroken]
    simp only [Bool.false_eq_true, if_false, ih fun d member => plain d (by simp [member])]
    rfl

/-- A literal without escapes is kept, whatever it holds. -/
theorem stripFrom_append_literal {quote : Char} (opens : isQuote quote = true) {content : Text}
    (inner : ∀ c ∈ content, c ≠ quote ∧ c ≠ backslash ∧ c ≠ '\n') (line : Int) (rest : Text) :
    stripFrom .code line (quote :: (content ++ quote :: rest)) =
      (stripFrom .code line rest).keepAll (quote :: (content ++ [quote])) := by
  -- A quote starts no comment, breaks no line and escapes nothing.
  have unslashed : quote ≠ '/' := ne_of_class opens (by decide)
  have unbroken : quote ≠ '\n' := ne_of_class opens (by decide)
  have unescaped : quote ≠ backslash := ne_of_class opens (by decide)
  -- The content is read inside the literal, one character after another.
  have inside : stripFrom (.literal quote) line (content ++ quote :: rest) =
      (stripFrom .code line rest).keepAll (content ++ [quote]) := by
    induction content with
    -- The delimiter ends the literal.
    | nil =>
      rw [List.nil_append, stripFrom_literal unbroken unescaped, if_pos rfl]
      rfl
    | cons c content ih =>
      obtain ⟨other, plain, sameLine⟩ := inner c (by simp)
      rw [List.cons_append, stripFrom_literal sameLine plain, if_neg other,
        ih fun d member => inner d (by simp [member])]
      rfl
  -- Outside, the first delimiter opens the literal.
  rw [stripFrom_code unslashed, if_pos opens, if_neg unbroken, inside]
  rfl

end SourceLint.Comment
