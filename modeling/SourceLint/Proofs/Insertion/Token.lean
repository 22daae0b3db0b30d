import SourceLint.Proofs.Insertion.Edge
import SourceLint.Proofs.Text.Class

/-! The tokens of a text to which white space is added at the edge of a line. -/

namespace SourceLint.Token

open Text

/-- The rest of the line at the front of a text is blank. -/
def BlankLine (text : Text) : Prop :=
  ∀ c ∈ text.takeWhile sameLine, isSpace c = true

/-- White space is no part of a lexeme. -/
theorem outside_of_isSpace {c : Char} (space : isSpace c = true) :
    isWord c = false ∧ isNameChar c = false ∧ isDecimal c = false ∧ isOperatorChar c = false ∧
      isQuote c = false ∧ c ≠ '.' ∧ isForeign c = false := by
  -- There are few characters of white space, so they are tested one by one.
  have tested : (!isNameChar c && !isDecimal c && !isOperatorChar c && !isQuote c && c != '.') =
      true :=
    forall_isSpace (fun c => !isNameChar c && !isDecimal c && !isOperatorChar c && !isQuote c &&
      c != '.') (by decide +kernel) space
  -- Each class is the negation of one test.
  simp only [Bool.and_eq_true, Bool.not_eq_true', bne_iff_ne] at tested
  obtain ⟨⟨⟨⟨unnamed, undigital⟩, inoperative⟩, unquoted⟩, pointless⟩ := tested
  exact ⟨isWord_of_isSpace space, unnamed, undigital, inoperative, unquoted, pointless,
    by simp [isForeign, space]⟩

/-- A blank line starts with white space, if it starts with anything. -/
theorem BlankLine.head {text : Text} (blank : BlankLine text) {c : Char}
    (first : text.head? = some c) : isSpace c = true := by
  obtain ⟨rest, rfl⟩ := List.head?_eq_some_iff.mp first
  -- A line break is white space, and every other character belongs to the blank line.
  by_cases broken : c = '\n'
  · rw [broken]
    decide
  · have inside : c ∈ (c :: rest).takeWhile sameLine := by
      simp [List.takeWhile_cons, sameLine, broken]
    exact blank c inside

/-- No run of characters other than white space goes on into a blank line. -/
theorem BlankLine.stops {text : Text} (blank : BlankLine text) {p : Char → Bool}
    (outside : ∀ c, isSpace c = true → p c = false) : text.head?.any p = false := by
  -- The line has nothing left, or it starts with white space.
  rw [Option.any_eq_false]
  exact fun c first => outside c (blank.head first)

variable {text : Text}

/-- A number does not go on into a blank line. -/
theorem numberTail_append (blank : BlankLine text) (rest : Text) :
    numberTail (rest ++ text) = numberTail rest := by
  have stops : text.head?.any isDecimal = false :=
    blank.stops fun c space => (outside_of_isSpace space).2.2.1
  -- Digits stop at the blank line, in the whole part and in the fraction.
  simp only [numberTail, takeWhile_append_stop stops, dropWhile_append_stop stops]
  -- A number that goes to the end would need a point next, and no blank line starts with one.
  cases left : rest.dropWhile isDecimal with
  | nil =>
    rw [List.nil_append]
    split
    case h_1 fraction =>
      have pointless := (outside_of_isSpace (blank.head rfl)).2.2.2.2.2.1
      exact absurd rfl pointless
    case h_2 => rfl
  -- A point that is there already starts the fraction in both.
  | cons c more =>
    by_cases point : c = '.'
    · subst point
      simp only [List.cons_append, takeWhile_append_stop stops]
    · simp [point]

/-- A character literal does not go on into a blank line. -/
theorem charTail?_append (blank : BlankLine text) (rest : Text) :
    charTail? (rest ++ text) = charTail? rest := by
  -- White space is no quote.
  have unquoted : ∀ {c : Char}, isSpace c = true → c ≠ singleQuote := by
    rintro c space rfl
    exact absurd space (by decide)
  -- Only the end of the text could be completed by what follows, which has no quote.
  match rest with
  | [] =>
    match text with
    | [] => rfl
    | [_] => rfl
    | c :: closing :: more =>
      by_cases broken : c = '\n'
      · simp [charTail?, broken]
      · -- On the same line the closing quote would have to be white space.
        have shut : closing ≠ singleQuote := by
          by_cases ended : closing = '\n'
          · rw [ended]
            decide
          · have inside : closing ∈ (c :: closing :: more).takeWhile sameLine := by
              simp [List.takeWhile_cons, sameLine, broken, ended]
            exact unquoted (blank closing inside)
        simp [charTail?, shut]
  -- A literal that has its character would need its quote on the blank line.
  | [c] =>
    match text with
    | [] => rfl
    | closing :: more => simp [charTail?, unquoted (blank.head rfl)]
  | c :: closing :: more => rfl

/-- A blank line has no closing quote. -/
theorem dropWhile_blankLine (blank : BlankLine text) :
    (text.dropWhile fun c => c != doubleQuote && c != '\n').head? ≠ some doubleQuote := by
  -- On the line itself everything is white space, which is no quote.
  have inside : ∀ c ∈ text.takeWhile sameLine, (c != doubleQuote && c != '\n') = true := by
    intro c member
    have unquoted : c ≠ doubleQuote := by
      rintro rfl
      exact absurd (blank _ member) (by decide)
    simpa [unquoted, sameLine] using (List.mem_takeWhile_imp member)
  have split : text = text.takeWhile sameLine ++ text.dropWhile sameLine :=
    List.takeWhile_append_dropWhile.symm
  -- What is left of the text starts with a line break.
  rw [split, List.dropWhile_append_of_pos inside]
  cases left : text.dropWhile sameLine with
  | nil => simp
  | cons c more =>
    have broken : c = '\n' := by
      have ended := List.head_dropWhile_not sameLine (l := text) (by simp [left])
      simpa [left, sameLine] using ended
    subst broken
    simp [doubleQuote]

/-- A string literal does not go on into a blank line. -/
theorem stringTail?_append (blank : BlankLine text) (rest : Text) :
    stringTail? (rest ++ text) = stringTail? rest := by
  simp only [stringTail?]
  -- An open string would need its quote on the blank line.
  cases left : rest.dropWhile fun c => c != doubleQuote && c != '\n' with
  | nil =>
    rw [List.dropWhile_append, left, List.isEmpty_nil, if_pos rfl]
    split
    case h_1 c more found =>
      have other := dropWhile_blankLine blank
      rw [found] at other
      rw [if_neg (by simpa using other)]
    case h_2 => rfl
  -- A quote or a break in the text itself decides before the blank line is reached.
  | cons c more =>
    have ended : (rest.dropWhile fun c => c != doubleQuote && c != '\n') ≠ [] := by simp [left]
    obtain ⟨taken, dropped⟩ := takeWhile_append_ended ended text
    rw [taken, dropped, left]
    rfl

/-- A lexeme ends in front of a blank line. -/
theorem lexemeTail_append (blank : BlankLine text) (before : Option Char) (c : Char)
    (rest : Text) : lexemeTail before c (rest ++ text) = lexemeTail before c rest := by
  -- Every run that is read stops at the white space, if there is any.
  have words : ∀ rest : Text, (rest ++ text).takeWhile isWord = rest.takeWhile isWord :=
    takeWhile_append_stop (blank.stops fun c space => (outside_of_isSpace space).1)
  have names : ∀ rest : Text, (rest ++ text).takeWhile isNameChar = rest.takeWhile isNameChar :=
    takeWhile_append_stop (blank.stops fun c space => (outside_of_isSpace space).2.1)
  have foreign : ∀ rest : Text, (rest ++ text).takeWhile isForeign = rest.takeWhile isForeign :=
    takeWhile_append_stop (blank.stops fun c space => (outside_of_isSpace space).2.2.2.2.2.2)
  have operators : ((rest ++ text).take 1).filter isOperatorChar =
      (rest.take 1).filter isOperatorChar := by
    -- An operator is completed by one character at most, which is in the text or no operator.
    cases rest with
    | nil =>
      cases text with
      | nil => rfl
      | cons d more => simp [(outside_of_isSpace (blank.head rfl)).2.2.2.1]
    | cons d more => simp
  -- Every kind of lexeme stops in front of white space.
  rw [lexemeTail, lexemeTail, startsKeyword, startsKeyword, words, names, foreign, operators,
    numberTail_append blank, charTail?_append blank, stringTail?_append blank]

/-- The tail of a number is read off the front of the text. -/
theorem numberTail_starts (rest : Text) : numberTail rest <+: rest := by
  -- The digits and what follows them are the text.
  have split : rest.takeWhile isDecimal ++ rest.dropWhile isDecimal = rest :=
    List.takeWhile_append_dropWhile
  rw [numberTail]
  split
  case h_1 fraction left =>
    rw [left] at split
    simp only
    -- Behind a point the tail holds its digits as well.
    split
    · exact ⟨_, split⟩
    · refine ⟨fraction.dropWhile isDecimal, ?_⟩
      rw [List.append_assoc, List.cons_append, List.takeWhile_append_dropWhile, split]
  case h_2 => exact ⟨_, split⟩

/-- The tail of a character literal is read off the front of the text. -/
theorem charTail?_starts (rest : Text) : (charTail? rest).getD [] <+: rest := by
  unfold charTail?
  -- The literal needs two characters, the second of which is the quote.
  split
  · split <;> simp
  · simp

/-- The tail of a string literal is read off the front of the text. -/
theorem stringTail?_starts (rest : Text) : (stringTail? rest).getD [] <+: rest := by
  simp only [stringTail?]
  -- The string goes up to its quote, if that comes before the end of the line.
  split
  case h_1 c more left =>
    have split := @List.takeWhile_append_dropWhile _ (fun c => c != doubleQuote && c != '\n') rest
    rw [left] at split
    -- The character that ended the run is the quote, or there is no literal.
    split
    · exact ⟨more, by simpa using split⟩
    · simp
  · simp

/-- A lexeme is read off the front of the text. -/
theorem lexemeTail_starts (before : Option Char) (c : Char) (rest : Text) :
    lexemeTail before c rest <+: rest := by
  rw [lexemeTail]
  -- One branch for each kind of lexeme, from keywords to foreign letters.
  split
  · exact List.takeWhile_prefix _
  · split
    · cases rest with
      | nil => simp
      | cons d more => by_cases operator : isOperatorChar d = true <;> simp [operator]
    · split
      · exact numberTail_starts rest
      · split
        · exact charTail?_starts rest
        · split
          · exact stringTail?_starts rest
          · split
            · exact List.takeWhile_prefix _
            · split
              · exact List.takeWhile_prefix _
              · exact List.nil_prefix

/-- A lexeme ends with its line. -/
theorem unbroken_lexemeTail (before : Option Char) (c : Char) (rest : Text) :
    '\n' ∉ lexemeTail before c rest := by
  -- The next line stands behind a blank one.
  have blank : BlankLine (rest.dropWhile sameLine) := by
    intro d member
    cases left : rest.dropWhile sameLine with
    | nil => simp [left] at member
    | cons e more =>
      have ended := List.head_dropWhile_not sameLine (l := rest) (by simp [left])
      simp only [left, List.head_cons] at ended
      simp [left, ended] at member
  have read := lexemeTail_append blank before c (rest.takeWhile sameLine)
  rw [List.takeWhile_append_dropWhile] at read
  -- A break in the lexeme would be in the rest of the line, which has none.
  intro member
  rw [read] at member
  have inside := (lexemeTail_starts before c (rest.takeWhile sameLine)).subset member
  exact absurd (List.mem_takeWhile_imp inside) (by decide)

/-- What follows a lexeme has the line breaks of the text. -/
theorem breaks_drop_lexemeTail (before : Option Char) (c : Char) (rest : Text) :
    breaks (rest.drop (lexemeTail before c rest).length) = breaks rest := by
  -- The lexeme and what follows are the text, and the lexeme has no break.
  obtain ⟨more, split⟩ := lexemeTail_starts before c rest
  have whole := breaks_append (lexemeTail before c rest) more
  rw [split, breaks_eq_zero (unbroken_lexemeTail before c rest), Nat.zero_add] at whole
  rw [whole, ← @List.drop_left _ (lexemeTail before c rest) more, split]

/-- A text ends with its lexeme or with what follows it. -/
theorem getLast?_drop_lexemeTail (before : Option Char) (c : Char) (rest : Text) :
    (rest.drop (lexemeTail before c rest).length).getLast?.or
        (some ((lexemeTail before c rest).getLast?.getD c)) = (c :: rest).getLast? := by
  -- The text is the lexeme and what follows it.
  generalize found : lexemeTail before c rest = tail
  obtain ⟨more, rfl⟩ := found ▸ lexemeTail_starts before c rest
  rw [List.drop_left, List.getLast?_cons, List.getLast?_append]
  cases more.getLast? <;> rfl

/-- A line break is passed, and what follows it stands on the next line. -/
theorem tokenizeFrom_break (before : Option Char) (line : Int) (rest : Text) :
    tokenizeFrom before line ('\n' :: rest) = tokenizeFrom (some '\n') (line + 1) rest := by
  rw [tokenizeFrom, if_pos rfl]

/-- Other white space is passed on its line. -/
theorem tokenizeFrom_space (before : Option Char) (line : Int) {c : Char} (unbroken : c ≠ '\n')
    (space : isSpace c = true) (rest : Text) :
    tokenizeFrom before line (c :: rest) = tokenizeFrom (some c) line rest := by
  rw [tokenizeFrom, if_neg unbroken, if_pos space]

/-- Any other character starts a lexeme, which is passed as a whole. -/
theorem tokenizeFrom_lexeme (before : Option Char) (line : Int) {c : Char} (unbroken : c ≠ '\n')
    (solid : isSpace c = false) (rest : Text) :
    tokenizeFrom before line (c :: rest) =
      ⟨c :: lexemeTail before c rest, line, categorize (c :: lexemeTail before c rest)⟩ ::
        tokenizeFrom (some ((lexemeTail before c rest).getLast?.getD c)) line
          (rest.drop (lexemeTail before c rest).length) := by
  -- White space is no lexeme, and a line break is white space.
  rw [tokenizeFrom, if_neg unbroken, if_neg (by simp [solid])]

/-- Induction over a text as it is cut into tokens, from the character before it and its line. -/
theorem induction_on_lexemes {motive : Option Char → Int → Text → Prop}
    (ended : ∀ before line, motive before line [])
    (lineBreak : ∀ before line rest, motive (some '\n') (line + 1) rest →
      motive before line ('\n' :: rest))
    (space : ∀ before line c rest, c ≠ '\n' → isSpace c = true → motive (some c) line rest →
      motive before line (c :: rest))
    (lexeme : ∀ before line c rest, c ≠ '\n' → isSpace c = false →
      motive (some ((lexemeTail before c rest).getLast?.getD c)) line
        (rest.drop (lexemeTail before c rest).length) →
      motive before line (c :: rest))
    (before : Option Char) (line : Int) (text : Text) : motive before line text :=
  -- These are the steps of the reader itself.
  tokenizeFrom.induct motive ended lineBreak
    (fun before line c rest unbroken white => space before line c rest unbroken white)
    (fun before line c rest unbroken solid =>
      lexeme before line c rest unbroken (by simpa using solid)) before line text

/-- Only whether a word goes on matters of what stands before a text. -/
theorem tokenizeFrom_before {before other : Option Char}
    (same : before.any isWord = other.any isWord) (line : Int) (text : Text) :
    tokenizeFrom before line text = tokenizeFrom other line text := by
  cases text with
  | nil => simp [tokenizeFrom]
  | cons c rest =>
    -- The character before is asked for at the start of a keyword only.
    have tail : lexemeTail before c rest = lexemeTail other c rest := by
      rw [lexemeTail, lexemeTail, startsKeyword, startsKeyword, same]
    rw [tokenizeFrom, tokenizeFrom, tail]

/-- A text whose lines have other numbers has the same tokens on them. -/
theorem tokenizeFrom_renumber {number : Int → Int} (before : Option Char) (text : Text)
    {first start : Int}
    (same : ∀ index : Nat, index ≤ breaks text → number (first + index) = start + index) :
    tokenizeFrom before start text =
      (tokenizeFrom before first text).map (Token.renumber number) := by
  -- A line break moves on in both numberings, and a token has the number of its first line.
  induction before, first, text using induction_on_lexemes generalizing start with
  | ended => simp [tokenizeFrom]
  | lineBreak before first rest ih =>
    rw [tokenizeFrom_break, tokenizeFrom_break]
    refine ih fun index inside => ?_
    have moved := same (index + 1) (by simpa using inside)
    rw [show first + 1 + (index : Int) = first + ((index + 1 : Nat) : Int) by omega, moved]
    omega
  -- White space gives no token, and leaves the number of the line.
  | space before first c rest unbroken space ih =>
    rw [tokenizeFrom_space _ _ unbroken space, tokenizeFrom_space _ _ unbroken space]
    exact ih fun index inside => same index (by rwa [breaks_cons unbroken])
  | lexeme before first c rest unbroken solid ih =>
    have here : number first = start := by simpa using same 0 (by simp)
    -- A lexeme breaks no line, so what follows it has the same breaks.
    have later := ih fun index inside => same index (by
      rwa [breaks_cons unbroken, ← breaks_drop_lexemeTail before c rest])
    rw [tokenizeFrom_lexeme _ _ unbroken solid, tokenizeFrom_lexeme _ _ unbroken solid,
      List.map_cons, ← later, Token.renumber, here]

/-- The tokens in front of a blank line are those of the text before it. -/
theorem tokenizeFrom_append {after : Text} (blank : BlankLine after) (before : Option Char)
    (line : Int) (text : Text) :
    tokenizeFrom before line (text ++ after) = tokenizeFrom before line text ++
      tokenizeFrom (text.getLast?.or before) (line + breaks text) after := by
  -- The steps of the text are taken in both, and what is left then is read from its last character.
  induction before, line, text using induction_on_lexemes with
  | ended => simp [tokenizeFrom, breaks]
  | lineBreak before line rest ih =>
    have last : rest.getLast?.or (some '\n') = ('\n' :: rest).getLast?.or before := by
      cases rest <;> simp [List.getLast?_cons]
    have count : line + 1 + (breaks rest : Int) = line + (breaks ('\n' :: rest) : Nat) := by
      rw [breaks_cons_break]
      omega
    rw [List.cons_append, tokenizeFrom_break, tokenizeFrom_break, ih, last, count]
  -- White space gives no token and no line break.
  | space before line c rest unbroken space ih =>
    have last : rest.getLast?.or (some c) = (c :: rest).getLast?.or before := by
      cases rest <;> simp [List.getLast?_cons]
    rw [List.cons_append, tokenizeFrom_space _ _ unbroken space,
      tokenizeFrom_space _ _ unbroken space, ih, last, breaks_cons unbroken]
  | lexeme before line c rest unbroken solid ih =>
    -- The lexeme ends in front of the blank line.
    have dropped : (rest ++ after).drop (lexemeTail before c rest).length =
        rest.drop (lexemeTail before c rest).length ++ after :=
      List.drop_append_of_le_length (lexemeTail_starts before c rest).length_le
    have last := getLast?_drop_lexemeTail before c rest
    have ended : (c :: rest).getLast?.or before = (c :: rest).getLast? := by
      simp [List.getLast?_cons]
    rw [List.cons_append, tokenizeFrom_lexeme _ _ unbroken solid,
      tokenizeFrom_lexeme _ _ unbroken solid, lexemeTail_append blank before c rest, dropped, ih,
      breaks_drop_lexemeTail, last, ended, breaks_cons unbroken, List.cons_append]

/-- A line break separates the tokens on either side of it. -/
theorem tokenizeFrom_append_break (text after : Text) (line : Int) :
    tokenizeFrom none line (text ++ '\n' :: after) = tokenizeFrom none line text ++
      tokenizeFrom none (line + (breaks text + 1)) after := by
  -- The line that the break ends is blank from there.
  have blank : BlankLine ('\n' :: after) := by simp [BlankLine, sameLine]
  have count : line + (breaks text : Int) + 1 = line + (breaks text + 1) := by omega
  have outside : (some '\n').any isWord = none.any isWord := rfl
  rw [tokenizeFrom_append blank, tokenizeFrom_break, count, tokenizeFrom_before outside]

/-- White space that ends no line adds no token in front of a text. -/
theorem tokenizeFrom_cons_space {c : Char} (space : isSpace c = true) (unbroken : c ≠ '\n')
    (text : Text) (line : Int) :
    tokenizeFrom none line (c :: text) = tokenizeFrom none line text := by
  -- White space is no part of a word, just like the start of a text.
  have outside : (some c).any isWord = none.any isWord := by simp [isWord_of_isSpace space]
  rw [tokenizeFrom_space _ _ unbroken space, tokenizeFrom_before outside]

/-- White space that ends no line adds no token behind a text. -/
theorem tokenizeFrom_append_space {c : Char} (space : isSpace c = true) (unbroken : c ≠ '\n')
    (text : Text) (line : Int) :
    tokenizeFrom none line (text ++ [c]) = tokenizeFrom none line text := by
  -- The rest of the line is the white space alone.
  have blank : BlankLine [c] := by simp [BlankLine, List.takeWhile_cons, sameLine, unbroken, space]
  rw [tokenizeFrom_append blank, tokenizeFrom_space _ _ unbroken space]
  simp [tokenizeFrom]

/-- The tokens of a text are read line by line. -/
def tokenized : LineReader Token where
  read := fun text first => tokenizeFrom none first text
  renumber := Token.renumber
  renumber_id := rfl
  read_nil := fun _ => by simp [tokenizeFrom]
  read_break := tokenizeFrom_append_break
  read_cons := tokenizeFrom_cons_space
  read_concat := tokenizeFrom_append_space
  read_renumber := tokenizeFrom_renumber none

end SourceLint.Token
