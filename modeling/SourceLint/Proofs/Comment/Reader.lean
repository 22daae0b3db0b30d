import SourceLint.Proofs.Comment
import SourceLint.Proofs.Text.Lines

/-!
The removal of comments as a reader that goes through a source move by move.

A move takes one or two characters. The outcome for the whole source is what the reader has kept and
reported when nothing is left to read.
-/

namespace SourceLint.Comment

open Text

/-- What is read at once, and what becomes of it. -/
structure Move where
  /-- The characters that are read. -/
  taken : Text
  /-- The place behind them. -/
  next : Place
  /-- Those of them that are kept. -/
  kept : Text := []
  /-- The line of an opener that is reported, if there is one. -/
  nested : List Int := []
deriving DecidableEq

/-- The move on a line in front of a character and what follows it. -/
def Place.move (place : Place) (line : Int) (c : Char) (rest : Text) : Move :=
  if c = '\n' then { taken := [c], next := place.next, kept := [c] }
  else
    match place with
    | .code =>
      if c = '/' ∧ rest.head? = some '*' then { taken := ['/', '*'], next := .blockComment line }
      else if c = '/' ∧ rest.head? = some '/' then { taken := ['/', '/'], next := .lineComment }
      else { taken := [c], next := if isQuote c then .literal c else .code, kept := [c] }
    | .lineComment => { taken := [c], next := .lineComment }
    | .blockComment start =>
      if c = '*' ∧ rest.head? = some '/' then { taken := ['*', '/'], next := .code }
      else if c = '/' ∧ rest.head? = some '*' then
        { taken := ['/', '*'], next := .blockComment start, nested := [line] }
      else { taken := [c], next := .blockComment start }
    | .literal quote =>
      if c = backslash then
        -- An escape takes the character that it hides, unless the line ends there.
        let escaped := c :: (rest.take 1).filter (· != '\n')
        { taken := escaped, next := .literal quote, kept := escaped }
      else { taken := [c], next := if c = quote then .code else .literal quote, kept := [c] }

/-- The moves that are possible at a place on a line in front of a text. -/
inductive Moved (line : Int) : Place → Text → Move → Prop
  /-- A line break is kept everywhere. -/
  | lineBreak (place : Place) (rest : Text) :
      Moved line place ('\n' :: rest) { taken := ['\n'], next := place.next, kept := ['\n'] }
  | opener (rest : Text) :
      Moved line .code ('/' :: '*' :: rest) { taken := ['/', '*'], next := .blockComment line }
  | lineOpener (rest : Text) :
      Moved line .code ('/' :: '/' :: rest) { taken := ['/', '/'], next := .lineComment }
  | plain {c : Char} {rest : Text} (unbroken : c ≠ '\n')
      (uncommented : c = '/' → rest.head? ≠ some '*' ∧ rest.head? ≠ some '/') :
      Moved line .code (c :: rest)
        { taken := [c], next := if isQuote c then .literal c else .code, kept := [c] }
  | remark {c : Char} (unbroken : c ≠ '\n') (rest : Text) :
      Moved line .lineComment (c :: rest) { taken := [c], next := .lineComment }
  | closer (start : Int) (rest : Text) :
      Moved line (.blockComment start) ('*' :: '/' :: rest) { taken := ['*', '/'], next := .code }
  | nestedOpener (start : Int) (rest : Text) :
      Moved line (.blockComment start) ('/' :: '*' :: rest)
        { taken := ['/', '*'], next := .blockComment start, nested := [line] }
  | blocked (start : Int) {c : Char} {rest : Text} (unbroken : c ≠ '\n')
      (unclosed : c = '*' → rest.head? ≠ some '/') (unopened : c = '/' → rest.head? ≠ some '*') :
      Moved line (.blockComment start) (c :: rest) { taken := [c], next := .blockComment start }
  | escape (quote : Char) {hidden : Char} (unbroken : hidden ≠ '\n') (rest : Text) :
      Moved line (.literal quote) (backslash :: hidden :: rest)
        { taken := [backslash, hidden], next := .literal quote, kept := [backslash, hidden] }
  /-- A backslash at the end of a line hides nothing. -/
  | lastBackslash (quote : Char) {rest : Text} (ends : ∀ c ∈ rest.head?, c = '\n') :
      Moved line (.literal quote) (backslash :: rest)
        { taken := [backslash], next := .literal quote, kept := [backslash] }
  | content (quote : Char) {c : Char} (unbroken : c ≠ '\n') (unescaped : c ≠ backslash)
      (rest : Text) :
      Moved line (.literal quote) (c :: rest)
        { taken := [c], next := if c = quote then .code else .literal quote, kept := [c] }

section Places

variable {line : Int} {c : Char} (unbroken : c ≠ '\n') (rest : Text)

include unbroken

/-- In code a slash may start a comment of either kind, and any other character is kept. -/
theorem moved_code : Moved line .code (c :: rest) (Place.code.move line c rest) := by
  simp only [Place.move, if_neg unbroken]
  -- The character behind the slash decides.
  split
  · rename_i opened
    obtain ⟨rfl, star⟩ := opened
    obtain ⟨more, rfl⟩ := List.head?_eq_some_iff.mp star
    exact .opener more
  · rename_i unopened
    split
    · rename_i remarked
      obtain ⟨rfl, slash⟩ := remarked
      obtain ⟨more, rfl⟩ := List.head?_eq_some_iff.mp slash
      exact .lineOpener more
    · rename_i unremarked
      exact .plain unbroken fun slash =>
        ⟨fun star => unopened ⟨slash, star⟩, fun other => unremarked ⟨slash, other⟩⟩

/-- In a block comment the close marker is looked for before another opener. -/
theorem moved_blockComment (start : Int) :
    Moved line (.blockComment start) (c :: rest)
      ((Place.blockComment start).move line c rest) := by
  simp only [Place.move, if_neg unbroken]
  split
  · rename_i closed
    obtain ⟨rfl, slash⟩ := closed
    obtain ⟨more, rfl⟩ := List.head?_eq_some_iff.mp slash
    exact .closer start more
  · rename_i unclosed
    -- An opener inside takes two characters as well.
    split
    · rename_i opened
      obtain ⟨rfl, star⟩ := opened
      obtain ⟨more, rfl⟩ := List.head?_eq_some_iff.mp star
      exact .nestedOpener start more
    · rename_i unopened
      exact .blocked start unbroken (fun star slash => unclosed ⟨star, slash⟩)
        fun slash star => unopened ⟨slash, star⟩

/-- Inside a literal only a backslash is told apart from the content. -/
theorem moved_literal (quote : Char) :
    Moved line (.literal quote) (c :: rest) ((Place.literal quote).move line c rest) := by
  simp only [Place.move, if_neg unbroken]
  split
  · rename_i escaped
    subst escaped
    -- An escape needs a character on its own line to hide.
    cases rest with
    | nil => exact .lastBackslash quote (by simp)
    | cons hidden rest =>
      by_cases ends : hidden = '\n'
      · subst ends
        exact .lastBackslash quote (by simp)
      · simpa [ends] using Moved.escape quote ends rest
  · rename_i unescaped
    exact .content quote unbroken unescaped rest

end Places

/-- Every move is one of those that are possible. -/
theorem Place.moved (place : Place) (line : Int) (c : Char) (rest : Text) :
    Moved line place (c :: rest) (place.move line c rest) := by
  by_cases broken : c = '\n'
  · -- A line break is looked at first, whatever the place is.
    subst broken
    simp only [Place.move, if_true]
    exact .lineBreak place rest
  cases place with
  | code => exact moved_code broken rest
  | lineComment =>
    simp only [Place.move, if_neg broken]
    exact .remark broken rest
  | blockComment start => exact moved_blockComment broken rest start
  | literal quote => exact moved_literal broken rest quote

namespace Moved

variable {line : Int} {place : Place} {text : Text} {move : Move}

/-- A move takes characters from the front of the text. -/
theorem taken_starts (moved : Moved line place text move) : move.taken <+: text := by
  cases moved <;> simp

/-- A move takes at least one character. -/
theorem taken_ne_nil (moved : Moved line place text move) : move.taken ≠ [] := by
  cases moved <;> simp

/-- What a move takes and what it leaves make up the text. -/
theorem taken_append_drop (moved : Moved line place text move) :
    move.taken ++ text.drop move.taken.length = text := by
  -- The text starts with what is taken.
  obtain ⟨rest, rfl⟩ := moved.taken_starts
  rw [List.drop_left]

/-- The line breaks of a text are those that a move takes and those that it leaves. -/
theorem breaks_eq (moved : Moved line place text move) :
    breaks text = breaks move.taken + breaks (text.drop move.taken.length) := by
  rw [← breaks_append, moved.taken_append_drop]

/-- A move leaves less to read. -/
theorem length_drop_lt (moved : Moved line place text move) :
    (text.drop move.taken.length).length < text.length := by
  -- The two parts add up to the text, and the first one is not empty.
  have parts := congrArg List.length moved.taken_append_drop
  have some := List.length_pos_iff.mpr moved.taken_ne_nil
  rw [List.length_append] at parts
  omega

/-- The outcome for a text is that for what the first move leaves, behind what it keeps. -/
theorem stripFrom_eq (moved : Moved line place text move) :
    stripFrom place line text =
      (stripFrom move.next (line + breaks move.taken) (text.drop move.taken.length)).behind
        move.kept move.nested := by
  -- Only a line break changes the line number.
  have unbroken : ∀ {c : Char}, c ≠ '\n' → line + (breaks [c] : Int) = line := by
    intro c other
    simp [breaks, other]
  cases moved with
  | lineBreak _ rest => exact stripFrom_break place line rest
  | opener rest => simp [stripFrom, breaks, Stripped.behind]
  | lineOpener rest => simp [stripFrom, breaks, Stripped.behind]
  -- A character is read on its own where it starts no comment.
  | @plain c rest other uncommented =>
    rw [stripFrom_code_of_head uncommented, if_neg other, unbroken other]
    rfl
  | @remark c other rest =>
    rw [stripFrom, if_neg other, unbroken other]
    rfl
  | closer start rest => simp [stripFrom, breaks, Stripped.behind]
  | nestedOpener start rest => simp [stripFrom, breaks, Stripped.behind]
  | @blocked start c rest other unclosed unopened =>
    rw [stripFrom_block unclosed unopened, if_neg other, unbroken other]
    rfl
  -- Neither half of an escape breaks the line.
  | @escape quote hidden other rest =>
    have counted : breaks [backslash, hidden] = 0 := by simp [breaks, backslash, other]
    rw [counted]
    simp [stripFrom, other, backslash, Stripped.behind, Stripped.keep]
  | @lastBackslash quote rest ends =>
    rw [unbroken (by decide)]
    cases rest with
    | nil => simp [stripFrom, backslash, Stripped.behind, Stripped.keep]
    | cons c rest =>
      -- The line break that follows is read on its own.
      have broken : c = '\n' := ends c rfl
      subst broken
      simp [stripFrom, backslash, Stripped.behind, Stripped.keep]
  -- In a literal any other character is kept alone.
  | @content quote c other unescaped rest =>
    rw [stripFrom_literal other unescaped, unbroken other]
    rfl

end Moved

/--
Induction along the moves through a text.

What holds where nothing is left, and in front of a move if it holds behind it, holds everywhere.
-/
theorem induction_on_moves {motive : Place → Int → Text → Prop}
    (ended : ∀ place line, motive place line [])
    (step : ∀ {place line text move}, Moved line place text move →
      motive move.next (line + breaks move.taken) (text.drop move.taken.length) →
      motive place line text) (place : Place) (line : Int) (text : Text) :
    motive place line text := by
  -- Every move leaves less to read.
  generalize size : text.length = length
  induction length using Nat.strongRecOn generalizing place line text with
  | ind length ih =>
    -- A text with a first character has a first move.
    cases text with
    | nil => exact ended place line
    | cons c rest =>
      have moved := place.moved line c rest
      exact step moved (ih _ (size ▸ moved.length_drop_lt) _ _ _ rfl)

/-- The state of the reader that removes comments. -/
structure Reader where
  place : Place := .code
  /-- What has been read of the source. -/
  read : Text := []
  /-- What is left of the source. -/
  rest : Text
  /-- What is kept of the text that has been read. -/
  kept : Text := []
  /-- The lines that are reported for the text that has been read. -/
  nested : List Int := []
deriving DecidableEq

namespace Reader

/-- How many characters have been read. -/
def index (reader : Reader) : Nat :=
  reader.read.length

/-- The line on which the reader stands. -/
def line (reader : Reader) : Int :=
  breaks reader.read + 1

/-- The state after a move. -/
def advance (reader : Reader) (move : Move) : Reader where
  place := move.next
  read := reader.read ++ move.taken
  rest := reader.rest.drop move.taken.length
  kept := reader.kept ++ move.kept
  nested := reader.nested ++ move.nested

/-- The state after the next move, if there is one. -/
def next (reader : Reader) : Reader :=
  match reader.rest with
  | [] => reader
  | c :: rest => reader.advance (reader.place.move reader.line c rest)

/-- The reader stops at the end of the source, and everywhere else it makes a possible move. -/
theorem next_cases (reader : Reader) :
    reader.rest = [] ∧ reader.next = reader ∨
      ∃ move, Moved reader.line reader.place reader.rest move ∧
        reader.next = reader.advance move := by
  -- There is a character to read, or there is none.
  unfold next
  cases ahead : reader.rest with
  | nil => exact .inl ⟨rfl, rfl⟩
  | cons c rest => exact .inr ⟨_, reader.place.moved reader.line c rest, rfl⟩

/-- What has been read is a longer front of the source after a move, and the rest is shorter. -/
theorem read_append_rest_next (reader : Reader) :
    reader.next.read ++ reader.next.rest = reader.read ++ reader.rest := by
  -- What the move takes goes from what is left to what has been read.
  rcases reader.next_cases with ⟨-, same⟩ | ⟨move, moved, step⟩
  · rw [same]
  · rw [step]
    simp only [advance, List.append_assoc, moved.taken_append_drop]

/-- The outcome for a source whose reader has come to the given state. -/
def outcome (reader : Reader) : Stripped :=
  (stripFrom reader.place reader.line reader.rest).behind reader.kept reader.nested

/-- A move moves the reader by the line breaks that it takes. -/
theorem line_advance (reader : Reader) (move : Move) :
    (reader.advance move).line = reader.line + breaks move.taken := by
  -- The line is counted in what has been read.
  simp only [line, advance, breaks_append]
  omega

/-- A move does not change the outcome. -/
theorem outcome_next (reader : Reader) : reader.next.outcome = reader.outcome := by
  rcases reader.next_cases with ⟨-, same⟩ | ⟨move, moved, step⟩
  · rw [same]
  · -- What the move keeps goes from the rest to what has been kept.
    rw [step, outcome, outcome, line_advance, moved.stripFrom_eq]
    simp [advance, Stripped.behind]

end Reader

/-- The reader of a source after the given number of moves. -/
def reader (source : Text) : Nat → Reader
  | 0 => { rest := source }
  | moves + 1 => (reader source moves).next

/-- What has been read and what is left make up the source. -/
theorem read_append_rest (source : Text) (moves : Nat) :
    (reader source moves).read ++ (reader source moves).rest = source := by
  -- By induction on the moves, none of which loses a character.
  induction moves with
  | zero => rfl
  | succ moves ih => rw [reader, Reader.read_append_rest_next, ih]

/-- What is left starts at the index of the reader. -/
theorem drop_index (source : Text) (moves : Nat) :
    source.drop (reader source moves).index = (reader source moves).rest := by
  -- The index is the length of what has been read.
  have parts := read_append_rest source moves
  generalize reader source moves = state at parts ⊢
  rw [← parts, Reader.index, List.drop_left]

/-- The line of the reader is the line of its index. -/
theorem lineOf_index (source : Text) (moves : Nat) :
    lineOf source (reader source moves).index = (reader source moves).line := by
  -- The breaks in front of the index are those of what has been read.
  have parts := read_append_rest source moves
  generalize reader source moves = state at parts ⊢
  rw [← parts, lineOf, if_pos (Int.natCast_nonneg _), Int.toNat_natCast, Reader.index,
    List.take_left]
  rfl

/-- The outcome for a source is known in every state of its reader. -/
theorem strip_eq_outcome (source : Text) (moves : Nat) :
    strip source = (reader source moves).outcome := by
  -- By induction on the moves, none of which changes what comes out in the end.
  induction moves with
  | zero => simp [strip, reader, Reader.outcome, Reader.line, breaks, Stripped.behind]
  | succ moves ih => rw [ih, reader, Reader.outcome_next]

/-- Every move leaves less to read, so no more moves are needed than there are characters. -/
theorem length_rest_le (source : Text) (moves : Nat) :
    (reader source moves).rest.length ≤ source.length - moves := by
  -- By induction on the moves, of which the first has the whole source ahead.
  induction moves with
  | zero => simp [reader]
  | succ moves ih =>
    rw [reader]
    -- A reader at the end stays there, and any other move takes a character.
    rcases (reader source moves).next_cases with ⟨ended, same⟩ | ⟨move, moved, step⟩
    · simp [same, ended]
    · have shorter := moved.length_drop_lt
      rw [step]
      simp only [Reader.advance]
      omega

/-- After as many moves as there are characters nothing is left. -/
theorem rest_eq_nil {source : Text} {moves : Nat} (enough : source.length ≤ moves) :
    (reader source moves).rest = [] := by
  -- There is room for no further move.
  have bounded := length_rest_le source moves
  rw [← List.length_eq_zero_iff]
  omega

/-- After as many moves as there are characters the reader stands still. -/
theorem reader_eq_last {source : Text} {moves : Nat} (enough : source.length ≤ moves) :
    reader source moves = reader source source.length := by
  induction enough with
  | refl => rfl
  | @step moves enough ih =>
    rcases (reader source moves).next_cases with ⟨-, same⟩ | ⟨move, moved, -⟩
    · rw [reader, same, ih]
    · -- There is nothing left that a move could take.
      rw [rest_eq_nil enough] at moved
      exact absurd (List.prefix_nil.mp moved.taken_starts) moved.taken_ne_nil

/-- The line on which a comment was opened that is still open at a place. -/
def Place.open? : Place → Option Int
  | .blockComment start => some start
  | _ => none

/-- The outcome for a source is what its reader has kept and reported in the end. -/
theorem strip_eq (source : Text) :
    strip source =
      { text := (reader source source.length).kept
        nested := (reader source source.length).nested
        unclosed := (reader source source.length).place.open? } := by
  -- Of the rest nothing is left, so only the place decides what is still to be said.
  rw [strip_eq_outcome source source.length, Reader.outcome, rest_eq_nil (Nat.le_refl _)]
  cases (reader source source.length).place <;>
    simp [stripFrom, Stripped.behind, Place.open?]

end SourceLint.Comment
