import SourceLint.Proofs.Insertion.Token

/-!
The shapes of lexemes.

A lexeme is cut out of what stands around it, but its shape says all that there is to know about it:
it is what the same reader takes when the lexeme stands alone.
-/

namespace SourceLint

open Text

namespace Text

/-- A name starts with no digit. -/
theorem isDecimal_of_isNameStart {c : Char} (start : isNameStart c = true) :
    isDecimal c = false := by
  -- A name character is an ASCII one.
  have small : c.toNat < 0x80 := by
    have := toNat_of_isNameChar (isNameChar_of_isNameStart start)
    omega
  -- Among the first characters the digits are the decimal ones.
  unfold isDecimal
  rw [if_pos small, ← Bool.not_eq_true]
  intro digit
  rw [isNameStart_of_isDigit digit] at start
  cases start

end Text

namespace Token

/-- The text of a lexeme, by its shape. -/
inductive Lexeme : Text → Prop
  /-- A keyword or another name. -/
  | word {c : Char} {tail : Text} (start : isNameStart c = true)
      (named : ∀ d ∈ tail, isNameChar d = true) : Lexeme (c :: tail)
  /-- One or two operator characters. -/
  | operator {c : Char} {tail : Text} (start : isOperatorChar c = true)
      (more : ∀ d ∈ tail, isOperatorChar d = true) (short : tail.length ≤ 1) : Lexeme (c :: tail)
  /-- Digits, and a point with digits behind it or nothing. -/
  | number {c : Char} {whole fraction : Text} (start : isDecimal c = true)
      (digits : ∀ d ∈ whole, isDecimal d = true)
      (point : fraction = [] ∨ ∃ places, places ≠ [] ∧ (∀ d ∈ places, isDecimal d = true) ∧
        fraction = '.' :: places) : Lexeme (c :: (whole ++ fraction))
  /-- One character between single quotes. -/
  | charLiteral {c : Char} (inner : c ≠ singleQuote) (unbroken : c ≠ '\n') :
      Lexeme [singleQuote, c, singleQuote]
  /-- Any characters of the line between the nearest double quotes. -/
  | stringLiteral {content : Text} (inner : ∀ c ∈ content, c ≠ doubleQuote ∧ c ≠ '\n') :
      Lexeme (doubleQuote :: (content ++ [doubleQuote]))
  /-- A run of characters that stand in no other lexeme. -/
  | foreign {c : Char} {tail : Text} (start : isForeign c = true) (undigital : isDecimal c = false)
      (more : ∀ d ∈ tail, isForeign d = true) : Lexeme (c :: tail)
  /-- A character on its own. -/
  | single (c : Char) : Lexeme [c]

/-- A name starts with a letter or an underscore, and characters of names follow. -/
theorem exists_of_isIdentifier {name : Text} (identifier : isIdentifier name = true) :
    ∃ c tail, name = c :: tail ∧ isNameStart c = true ∧ ∀ d ∈ tail, isNameChar d = true := by
  -- An empty text is no name.
  cases name with
  | nil => cases identifier
  | cons c tail => exact ⟨c, tail, rfl, by simpa [isIdentifier] using identifier⟩

/-- All characters of a name may stand in one. -/
theorem forall_isNameChar_of_isIdentifier {name : Text} (identifier : isIdentifier name = true) :
    ∀ d ∈ name, isNameChar d = true := by
  -- The start of a name may stand anywhere in it.
  obtain ⟨d, more, rfl, start, named⟩ := exists_of_isIdentifier identifier
  exact List.forall_mem_cons.mpr ⟨isNameChar_of_isNameStart start, named⟩

/-- A keyword is spelled like a name. -/
theorem named_of_keyword? {c : Char} {tail : Text} (known : (keyword? (c :: tail)).isSome = true) :
    isNameStart c = true ∧ ∀ d ∈ tail, isNameChar d = true := by
  have spelled : (keywords.all fun entry => isIdentifier entry.1) = true := by decide +kernel
  -- The word is found among the keywords, and all of them are names.
  obtain ⟨category, found⟩ := Option.isSome_iff_exists.mp known
  obtain ⟨front, back, listed, -⟩ := List.lookup_eq_some_iff.mp found
  have member : (c :: tail, category) ∈ keywords := by simp [listed]
  have name := List.all_eq_true.mp spelled _ member
  simpa [isIdentifier] using name

/-- The tail of a number is digits, and perhaps a point with digits behind it. -/
theorem exists_numberTail_eq (rest : Text) :
    ∃ whole fraction, numberTail rest = whole ++ fraction ∧ (∀ d ∈ whole, isDecimal d = true) ∧
      (fraction = [] ∨ ∃ places, places ≠ [] ∧ (∀ d ∈ places, isDecimal d = true) ∧
        fraction = '.' :: places) := by
  -- The digits in front of the point are the run that is read first.
  have digits : ∀ d ∈ rest.takeWhile isDecimal, isDecimal d = true :=
    fun d member => List.mem_takeWhile_imp member
  unfold numberTail
  dsimp only
  -- A point counts only with digits behind it.
  split
  · rename_i fraction left
    split
    · exact ⟨_, [], (List.append_nil _).symm, digits, .inl rfl⟩
    · rename_i filled
      refine ⟨_, _, rfl, digits, .inr ⟨_, ?_, ?_, rfl⟩⟩
      · simpa using filled
      · exact fun d member => List.mem_takeWhile_imp member
  · exact ⟨_, [], (List.append_nil _).symm, digits, .inl rfl⟩

/-- A single quote starts a character literal or stands alone. -/
theorem Lexeme.ofCharTail (rest : Text) :
    Lexeme (singleQuote :: (charTail? rest).getD []) := by
  unfold charTail?
  -- Without one character and a closing quote behind it the opening one is alone.
  split
  · split
    · rename_i d closing _ shut
      simp only [Bool.and_eq_true, bne_iff_ne, beq_iff_eq] at shut
      obtain ⟨⟨inner, unbroken⟩, rfl⟩ := shut
      exact .charLiteral inner unbroken
    · exact .single _
  · exact .single _

/-- A double quote starts a string or stands alone. -/
theorem Lexeme.ofStringTail (rest : Text) :
    Lexeme (doubleQuote :: (stringTail? rest).getD []) := by
  unfold stringTail?
  dsimp only
  -- A string has its closing quote on the line, or the quote is alone.
  split
  · split
    · rename_i d _ _ shut
      rw [beq_iff_eq.mp shut]
      refine .stringLiteral fun d member => ?_
      simpa using List.mem_takeWhile_imp member
    · exact .single _
  · exact .single _

/-- What is read from any place of a text is a lexeme. -/
theorem lexeme_lexemeTail (before : Option Char) (c : Char) (rest : Text) :
    Lexeme (c :: lexemeTail before c rest) := by
  -- The branches of the reader are the shapes, apart from keywords, which are names.
  unfold lexemeTail
  split
  · rename_i keyword
    unfold startsKeyword at keyword
    rw [Bool.and_eq_true] at keyword
    obtain ⟨start, named⟩ := named_of_keyword? keyword.2
    exact .word start named
  split
  · -- Two characters at most make an operator.
    rename_i operator
    refine .operator operator (fun d member => (List.mem_filter.mp member).2) ?_
    calc ((rest.take 1).filter isOperatorChar).length
        ≤ (rest.take 1).length := List.length_filter_le _ _
      _ ≤ 1 := by rw [List.length_take]; omega
  split
  · -- A number is digits, with a fraction or without.
    rename_i decimal
    obtain ⟨whole, fraction, parts, digits, point⟩ := exists_numberTail_eq rest
    rw [parts]
    exact .number decimal digits point
  rename_i undigital
  split
  · rename_i quote
    rw [beq_iff_eq.mp quote]
    exact .ofCharTail rest
  split
  · rename_i quote
    rw [beq_iff_eq.mp quote]
    exact .ofStringTail rest
  -- What is left starts a name or a foreign word, or stands alone.
  split
  · rename_i start
    exact .word start fun d member => List.mem_takeWhile_imp member
  split
  · rename_i start
    exact .foreign start (by simpa using undigital) fun d member => List.mem_takeWhile_imp member
  · exact .single c

/-- The tail of a number takes nothing but the digits, the point and the digits behind it. -/
theorem numberTail_eq_self {whole fraction : Text} (digits : ∀ d ∈ whole, isDecimal d = true)
    (point : fraction = [] ∨ ∃ places, places ≠ [] ∧ (∀ d ∈ places, isDecimal d = true) ∧
      fraction = '.' :: places) : numberTail (whole ++ fraction) = whole ++ fraction := by
  -- The fraction starts with the point, which is no digit.
  have stops : fraction.head?.any isDecimal = false := by
    rcases point with rfl | ⟨places, -, -, rfl⟩
    · rfl
    · have other : isDecimal '.' = false := by decide
      simp [other]
  have taken : (whole ++ fraction).takeWhile isDecimal = whole := by
    rw [takeWhile_append_stop stops, List.takeWhile_eq_self_iff.mpr digits]
  have left : (whole ++ fraction).dropWhile isDecimal = fraction := by
    rw [dropWhile_append_stop stops, List.dropWhile_eq_nil_iff.mpr digits, List.nil_append]
  unfold numberTail
  rw [taken, left]
  rcases point with rfl | ⟨places, filled, decimal, rfl⟩
  · simp
  · -- The digits behind the point are read to their end.
    simp [List.takeWhile_eq_self_iff.mpr decimal, filled]

/-- What starts no name starts no keyword. -/
theorem startsKeyword_eq_false {c : Char} (other : isNameStart c = false) (before : Option Char)
    (rest : Text) : startsKeyword before c rest = false := by
  -- Every keyword starts like a name.
  rw [← Bool.not_eq_true]
  intro keyword
  unfold startsKeyword at keyword
  rw [Bool.and_eq_true] at keyword
  rw [(named_of_keyword? keyword.2).1] at other
  cases other

/-- A property of operator characters is decided by going through them. -/
theorem forall_isOperatorChar (test : Char → Bool)
    (tested : ("+-*/%<>=!&|".toList.all test) = true) {c : Char}
    (operator : isOperatorChar c = true) : test c = true :=
  List.all_eq_true.mp tested c (by simpa [isOperatorChar] using operator)

/-- An operator is neither a digit nor the start of a name. -/
theorem outside_of_isOperatorChar {c : Char} (operator : isOperatorChar c = true) :
    isNameStart c = false ∧ isDecimal c = false := by
  -- The operators are listed, and each of them is looked at.
  constructor
  · simpa using forall_isOperatorChar (fun c => !isNameStart c) (by decide) operator
  · simpa using forall_isOperatorChar (fun c => !isDecimal c) (by decide) operator

/-- The start of a name starts no other lexeme. -/
theorem outside_of_isNameStart {c : Char} (start : isNameStart c = true) :
    isOperatorChar c = false ∧ isDecimal c = false ∧ c ≠ singleQuote ∧ c ≠ doubleQuote := by
  refine ⟨?_, isDecimal_of_isNameStart start, ?_, ?_⟩
  · rw [← Bool.not_eq_true]
    intro operator
    rw [(outside_of_isOperatorChar operator).1] at start
    cases start
  · -- Neither quote is a character that starts a name.
    exact ne_of_class start (by decide)
  · exact ne_of_class start (by decide)

/-- A digit is neither an operator nor the start of a name. -/
theorem outside_of_isDecimal {c : Char} (decimal : isDecimal c = true) :
    isNameStart c = false ∧ isOperatorChar c = false := by
  -- Both classes were seen to hold no digits.
  constructor
  · rw [← Bool.not_eq_true]
    intro start
    rw [isDecimal_of_isNameStart start] at decimal
    cases decimal
  · rw [← Bool.not_eq_true]
    intro operator
    rw [(outside_of_isOperatorChar operator).2] at decimal
    cases decimal

/-- A foreign character is what the other classes leave. -/
theorem outside_of_isForeign {c : Char} (foreign : isForeign c = true) :
    isNameStart c = false ∧ isOperatorChar c = false ∧ c ≠ singleQuote ∧ c ≠ doubleQuote := by
  unfold isForeign at foreign
  simp only [Bool.not_eq_true', Bool.or_eq_false_iff] at foreign
  obtain ⟨⟨⟨⟨-, unworded⟩, inoperative⟩, -⟩, unquoted⟩ := foreign
  simp only [isQuote, Bool.or_eq_false_iff, beq_eq_false_iff_ne] at unquoted
  refine ⟨?_, inoperative, unquoted⟩
  -- The start of a name would be part of a word.
  rw [← Bool.not_eq_true]
  intro named
  rw [isWord_of_isNameChar (isNameChar_of_isNameStart named)] at unworded
  cases unworded

section LexemeTail

variable {c : Char} (before : Option Char)

/-- Behind an operator one more operator character is taken. -/
theorem lexemeTail_operator (operator : isOperatorChar c = true) (rest : Text) :
    lexemeTail before c rest = (rest.take 1).filter isOperatorChar := by
  -- Only the test for keywords comes before.
  rw [lexemeTail, startsKeyword_eq_false (outside_of_isOperatorChar operator).1,
    if_neg Bool.false_ne_true, if_pos operator]

/-- Behind a digit the tail of a number is taken. -/
theorem lexemeTail_decimal (decimal : isDecimal c = true) (rest : Text) :
    lexemeTail before c rest = numberTail rest := by
  -- The kinds that are tried earlier do not start with a digit.
  obtain ⟨unnamed, inoperative⟩ := outside_of_isDecimal decimal
  simp [lexemeTail, startsKeyword_eq_false unnamed, inoperative, decimal]

/-- Behind a single quote a character literal is taken, if there is one. -/
theorem lexemeTail_singleQuote (rest : Text) :
    lexemeTail before singleQuote rest = (charTail? rest).getD [] := by
  -- The quote is no name, no operator and no digit.
  rw [lexemeTail, startsKeyword_eq_false (by decide), if_neg (by decide), if_neg (by decide),
    if_neg (by decide), if_pos (by decide)]

/-- Behind a double quote a string is taken, if there is one. -/
theorem lexemeTail_doubleQuote (rest : Text) :
    lexemeTail before doubleQuote rest = (stringTail? rest).getD [] := by
  -- The quote is no name, no operator, no digit and no single quote.
  rw [lexemeTail, startsKeyword_eq_false (by decide), if_neg (by decide), if_neg (by decide),
    if_neg (by decide), if_neg (by decide), if_pos (by decide)]

/-- Behind a foreign character that is no digit, more of them are taken. -/
theorem lexemeTail_foreign (foreign : isForeign c = true) (undigital : isDecimal c = false)
    (rest : Text) : lexemeTail before c rest = rest.takeWhile isForeign := by
  -- All other kinds are tried earlier, and none of them starts so.
  obtain ⟨unnamed, inoperative, uncharted, unstrung⟩ := outside_of_isForeign foreign
  simp [lexemeTail, startsKeyword_eq_false unnamed, inoperative, undigital, uncharted, unstrung,
    unnamed, foreign]

end LexemeTail

/-- A string is read up to its closing quote. -/
theorem stringTail?_content {content : Text}
    (inner : ∀ c ∈ content, c ≠ doubleQuote ∧ c ≠ '\n') :
    stringTail? (content ++ [doubleQuote]) = some (content ++ [doubleQuote]) := by
  -- The run stops at the closing quote, which is the last character.
  have ended : (content ++ [doubleQuote]).takeWhile
      (fun c => c != doubleQuote && c != '\n') = content := by
    rw [takeWhile_append_stop (by decide)]
    exact List.takeWhile_eq_self_iff.mpr fun d member => by simpa using inner d member
  have left : (content ++ [doubleQuote]).dropWhile
      (fun c => c != doubleQuote && c != '\n') = [doubleQuote] := by
    rw [dropWhile_append_stop (by decide), List.dropWhile_eq_nil_iff.mpr, List.nil_append]
    exact fun d member => by simpa using inner d member
  simp [stringTail?, ended, left]

/-- A lexeme that stands alone is read to its end. -/
theorem Lexeme.lexemeTail_eq {c : Char} {tail : Text} (lexeme : Lexeme (c :: tail)) :
    lexemeTail none c tail = tail := by
  cases lexeme with
  | word start named =>
    obtain ⟨inoperative, undigital, unquoted, unstrung⟩ := outside_of_isNameStart start
    have words : tail.takeWhile isWord = tail :=
      List.takeWhile_eq_self_iff.mpr fun d member => isWord_of_isNameChar (named d member)
    have names : tail.takeWhile isNameChar = tail := List.takeWhile_eq_self_iff.mpr named
    -- Whether the word is a keyword or not, all of it is read.
    unfold lexemeTail
    split
    · exact words
    · simp [inoperative, undigital, unquoted, unstrung, names]
  | operator start more short =>
    -- One character at most follows, and it is an operator as well.
    rw [lexemeTail_operator none start, List.take_of_length_le short]
    exact List.filter_eq_self.mpr more
  | number start digits point =>
    rw [lexemeTail_decimal none start, numberTail_eq_self digits point]
  | charLiteral inner unbroken =>
    rw [lexemeTail_singleQuote]
    simp [charTail?, inner, unbroken]
  | stringLiteral inner =>
    rw [lexemeTail_doubleQuote, stringTail?_content inner, Option.getD_some]
  | foreign start undigital more =>
    rw [lexemeTail_foreign none start undigital]
    exact List.takeWhile_eq_self_iff.mpr more
  | single =>
    -- No branch of the reader takes anything from an empty text.
    simp [lexemeTail, numberTail, charTail?, stringTail?]

/-- The tokens of a text are lexemes of one line, and their text decides their category. -/
structure Read (token : Token) : Prop where
  shape : ∃ c tail, token.lexeme = c :: tail ∧ isSpace c = false ∧ Lexeme (c :: tail)
  unbroken : '\n' ∉ token.lexeme
  kind : token.category = categorize token.lexeme

/-- Every token of a text is read in this way. -/
theorem read_of_mem_tokenizeFrom {before : Option Char} {line : Int} {text : Text} {token : Token}
    (member : token ∈ tokenizeFrom before line text) : token.Read := by
  -- By induction on the lexemes, each of which is read at its place.
  induction before, line, text using induction_on_lexemes with
  | ended => simp [tokenizeFrom] at member
  | lineBreak before line rest ih => exact ih (tokenizeFrom_break before line rest ▸ member)
  | space before line c rest unbroken space ih =>
    exact ih (tokenizeFrom_space before line unbroken space rest ▸ member)
  | lexeme before line c rest unbroken solid ih =>
    rw [tokenizeFrom_lexeme _ _ unbroken solid] at member
    rcases List.mem_cons.mp member with rfl | later
    · refine ⟨⟨c, _, rfl, solid, lexeme_lexemeTail before c rest⟩, ?_, rfl⟩
      -- Neither the first character nor those behind it break the line.
      simp only [List.mem_cons, not_or]
      exact ⟨Ne.symm unbroken, unbroken_lexemeTail before c rest⟩
    · exact ih later

/-- A lexeme that stands alone is read as one token, which has the same category. -/
theorem Read.tokenizeFrom_lexeme {token : Token} (read : token.Read) (line : Int) :
    tokenizeFrom none line token.lexeme = [{ token with line }] := by
  obtain ⟨c, tail, parts, solid, lexeme⟩ := read.shape
  have unbroken : c ≠ '\n' := (ne_of_class (by decide) solid).symm
  have kind := read.kind
  rw [parts] at kind
  rw [parts, Token.tokenizeFrom_lexeme _ _ unbroken solid]
  -- Behind the lexeme nothing is left.
  rw [lexeme.lexemeTail_eq, List.drop_length, tokenizeFrom, ← kind, ← parts]

/-- Lexemes that are written one on each line are read as their tokens, line by line. -/
theorem tokenizeFrom_join {tokens : List Token} (read : ∀ token ∈ tokens, token.Read)
    (line : Int) :
    tokenizeFrom none line (join ['\n'] (tokens.map Token.lexeme)) =
      tokens.mapIdx fun index token => { token with line := line + index } := by
  -- By induction on the tokens, one line further for each of them.
  induction tokens generalizing line with
  | nil => simp [join, tokenizeFrom]
  | cons first others ih =>
    have here := (read first (by simp)).tokenizeFrom_lexeme line
    cases others with
    | nil =>
      -- The last lexeme ends the text.
      simpa [join] using here
    | cons next rest =>
      have later := ih (fun token member => read token (by simp [member])) (line + 1)
      have count : breaks first.lexeme = 0 := breaks_eq_zero (read first (by simp)).unbroken
      have number : ∀ index : Nat, line + 1 + (index : Int) = line + ((index + 1 : Nat) : Int) := by
        intro index
        omega
      -- The line break separates the first lexeme from the others, and the lines are counted on.
      rw [List.map_cons, join_cons _ _ (by simp), List.append_assoc, List.singleton_append,
        tokenizeFrom_append_break, here, count, Int.natCast_zero, Int.zero_add, later,
        List.mapIdx_cons (l := next :: rest)]
      simp only [number]
      simp

/--
Tokens that are written out are read back.

The lexemes of any text, written one on each line, give a token for each of them, which has the
lexeme, the category and the number of its line.
-/
theorem tokenize_join_lexemes (text : Text) :
    tokenize (join ['\n'] ((tokenize text).map Token.lexeme)) =
      (tokenize text).mapIdx fun index token => { token with line := index + 1 } := by
  -- The tokens of a text have been read, so the lemma about lines applies to them.
  have relexed := @tokenizeFrom_join (tokenize text)
    (fun _ member => read_of_mem_tokenizeFrom member) 1
  simp only [Int.add_comm 1] at relexed
  exact relexed

end Token

end SourceLint
