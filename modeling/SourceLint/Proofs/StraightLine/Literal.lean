import SourceLint.Proofs.Text.Number
import SourceLint.Proofs.Text.Scanning
import SourceLint.Proofs.Text.Splitting
import SourceLint.Value

/-!
The literals of every type, as they are written.

A literal is either plain, made of letters, digits, points and signs, or it stands between quotes.
-/

namespace SourceLint

open Text

/-- A mark, at most one sign and digits, or nothing. -/
def IsExponent (text : Text) : Prop :=
  text = [] ∨ ∃ mark sign digits, (mark = 'e' ∨ mark = 'E') ∧
    (sign = [] ∨ sign = ['+'] ∨ sign = ['-']) ∧ IsDigits digits ∧ text = mark :: (sign ++ digits)

/-- A minus sign, or nothing. -/
def IsMinus (text : Text) : Prop :=
  text = [] ∨ text = ['-']

/-- At most one of the given characters. -/
def IsSuffix (suffixes : List Char) (text : Text) : Prop :=
  text = [] ∨ ∃ c ∈ suffixes, text = [c]

/-- The literals of a type. -/
inductive LiteralOf : DataType → Text → Prop
  | whole {type : DataType} {minus digits : Text} (integral : type.isIntegral = true)
      (sign : IsMinus minus) (number : IsDigits digits) : LiteralOf type (minus ++ digits)
  /-- Only the longest whole numbers take a suffix. -/
  | long {minus digits suffix : Text} (sign : IsMinus minus) (number : IsDigits digits)
      (ending : IsSuffix ['l', 'L'] suffix) : LiteralOf .longLong (minus ++ digits ++ suffix)
  | real {type : DataType} {minus digits fraction exponent suffix : Text}
      (real : type = .float ∨ type = .double) (sign : IsMinus minus) (number : IsDigits digits)
      (fractional : IsFraction fraction) (scaled : IsExponent exponent)
      (ending : IsSuffix ['f', 'F'] suffix) :
      LiteralOf type (minus ++ digits ++ fraction ++ exponent ++ suffix)
  | truth {word : Text} (listed : word ∈ ["true", "false", "0", "1"].map String.toList) :
      LiteralOf .bool word
  | character {c : Char} (inner : c ≠ singleQuote ∧ c ≠ doubleQuote ∧ c ≠ backslash ∧ c ≠ '\n') :
      LiteralOf .char [singleQuote, c, singleQuote]
  | string {content : Text}
      (inner : ∀ c ∈ content, c ≠ doubleQuote ∧ c ≠ backslash ∧ c ≠ '\n') :
      LiteralOf .string (doubleQuote :: (content ++ [doubleQuote]))

/-- The characters of names and numbers. -/
def isPlain (c : Char) : Bool :=
  isNameChar c || c == '+' || c == '-' || c == '.'

/-- A character of a name is plain. -/
theorem isPlain_of_isNameChar {c : Char} (named : isNameChar c = true) : isPlain c = true := by
  simp [isPlain, named]

/-- A plain character is neither white space nor a quote. -/
theorem outside_of_isPlain {c : Char} (plain : isPlain c = true) :
    isSpace c = false ∧ isQuote c = false := by
  -- Neither quote is plain.
  have unquoted : isQuote c = false := by
    have single : c ≠ singleQuote := ne_of_class plain (by decide)
    have double : c ≠ doubleQuote := ne_of_class plain (by decide)
    simp [isQuote, single, double]
  refine ⟨?_, unquoted⟩
  simp only [isPlain, Bool.or_eq_true, beq_iff_eq] at plain
  -- White space is neither part of a name nor one of the three other characters.
  rcases plain with ((named | rfl) | rfl) | rfl
  · exact isSpace_of_isNameChar named
  all_goals decide

/-- Numbers of all types: a sign, digits, a fraction, an exponent and a suffix, if present. -/
inductive Numeral : Text → Prop
  | of {minus digits fraction exponent suffix : Text} (sign : IsMinus minus)
      (number : IsDigits digits) (fractional : IsFraction fraction) (scaled : IsExponent exponent)
      (ending : IsSuffix ['l', 'L', 'f', 'F'] suffix) :
      Numeral (minus ++ (digits ++ (fraction ++ (exponent ++ suffix))))

/-- The forms in which literals are written, whatever their type. -/
inductive Written : Text → Prop
  | numeral {text : Text} (number : Numeral text) : Written text
  | truth {text : Text} (listed : text = "true".toList ∨ text = "false".toList) : Written text
  | quoted {quote : Char} {content : Text} (opens : isQuote quote = true)
      (inner : ∀ c ∈ content, c ≠ quote ∧ c ≠ backslash ∧ c ≠ '\n') :
      Written (quote :: (content ++ [quote]))

/-- A number without a fraction and an exponent. -/
theorem Numeral.ofWhole {minus digits suffix : Text} (sign : IsMinus minus)
    (number : IsDigits digits) (ending : IsSuffix ['l', 'L', 'f', 'F'] suffix) :
    Numeral (minus ++ (digits ++ suffix)) := by
  simpa using Numeral.of sign number (.inl rfl) (.inl rfl) ending

/-- Every literal is written in one of these forms. -/
theorem LiteralOf.written {type : DataType} {value : Text} (literal : LiteralOf type value) :
    Written value := by
  -- A suffix of one type is one of all suffixes.
  have widen : ∀ {suffixes : List Char} {suffix : Text}, suffixes ⊆ ['l', 'L', 'f', 'F'] →
      IsSuffix suffixes suffix → IsSuffix ['l', 'L', 'f', 'F'] suffix := by
    rintro suffixes suffix sub (rfl | ⟨c, member, rfl⟩)
    · exact .inl rfl
    · exact .inr ⟨c, sub member, rfl⟩
  -- Each kind of literal has its form.
  cases literal with
  | whole integral sign number =>
    exact .numeral (by simpa using Numeral.ofWhole sign number (.inl rfl))
  | long sign number ending =>
    exact .numeral (by simpa using Numeral.ofWhole sign number (widen (by simp) ending))
  | real type sign number fractional scaled ending =>
    have number := Numeral.of sign number fractional scaled (widen (by simp) ending)
    exact .numeral (by simpa using number)
  | truth listed =>
    -- Two of the truth values are digits.
    have digit : ∀ c ∈ ['0', '1'], IsDigits [c] := by
      intro c member
      refine ⟨by simp, ?_⟩
      simp only [List.mem_cons, List.not_mem_nil, or_false] at member
      rcases member with rfl | rfl <;> decide
    simp only [List.map_cons, List.map_nil, List.mem_cons, List.not_mem_nil, or_false] at listed
    rcases listed with rfl | rfl | rfl | rfl
    · exact .truth (.inl rfl)
    · exact .truth (.inr rfl)
    · exact .numeral (Numeral.ofWhole (.inl rfl) (digit '0' (by simp)) (.inl rfl))
    · exact .numeral (Numeral.ofWhole (.inl rfl) (digit '1' (by simp)) (.inl rfl))
  -- Characters and strings stand between quotes.
  | character inner =>
    refine @Written.quoted singleQuote [_] (by decide) ?_
    simpa using ⟨inner.1, inner.2.2⟩
  | string inner => exact .quoted (by decide) inner

/-- The characters of a number are plain. -/
theorem Numeral.plain {text : Text} (numeral : Numeral text) : ∀ c ∈ text, isPlain c = true := by
  obtain ⟨sign, number, fractional, scaled, ending⟩ := numeral
  -- Digits may stand in names, so they are plain wherever they are.
  have digitsPlain : ∀ {digits : Text}, IsDigits digits → ∀ c ∈ digits, isPlain c = true :=
    fun digits c member => isPlain_of_isNameChar (isNameChar_of_isDigit (digits.2 c member))
  intro c member
  simp only [List.mem_append] at member
  -- A character of the number belongs to one of its five parts.
  rcases member with inMinus | inDigits | inFraction | inExponent | inSuffix
  · -- A sign is a minus at most.
    rcases sign with rfl | rfl
    · simp at inMinus
    · simp_all [isPlain]
  · exact digitsPlain number c inDigits
  · rcases fractional with rfl | ⟨digits, number, rfl⟩
    · simp at inFraction
    · rcases List.mem_cons.mp inFraction with rfl | inner
      · decide
      · exact digitsPlain number c inner
  · -- An exponent is its mark, its sign and its digits.
    rcases scaled with rfl | ⟨mark, sign, digits, marks, signs, number, rfl⟩
    · simp at inExponent
    · simp only [List.mem_cons, List.mem_append] at inExponent
      rcases inExponent with rfl | inner | inner
      · rcases marks with rfl | rfl <;> decide
      · rcases signs with rfl | rfl | rfl <;> simp_all [isPlain]
      · exact digitsPlain number c inner
  · -- A suffix is one of four letters.
    rcases ending with rfl | ⟨d, listed, rfl⟩
    · simp at inSuffix
    · have tested : ∀ d ∈ ['l', 'L', 'f', 'F'], isPlain d = true := by decide
      rw [List.mem_singleton.mp inSuffix]
      exact tested d listed

/-- A run of word characters that starts with digits is one word, which no name starts. -/
theorem head_wordTexts_run {digits rest : Text} (number : IsDigits digits)
    (others : ∀ c ∈ rest, isWord c = true) :
    ∀ word ∈ wordTexts (digits ++ rest), word.head?.any Char.isDigit = true := by
  obtain ⟨some, digit⟩ := number
  obtain ⟨c, more, rfl⟩ := List.exists_cons_of_ne_nil some
  -- All of it is one run of word characters.
  have words : ∀ d ∈ c :: more ++ rest, isWord d = true := by
    intro d member
    rcases List.mem_append.mp member with inDigits | inRest
    · exact isWord_of_isNameChar (isNameChar_of_isDigit (digit d inDigits))
    · exact others d inRest
  -- So there is one word, which starts with the first digit.
  rw [wordTexts_run (by simp) words]
  simpa using digit c (by simp)

/-- The words of digits with an exponent and a suffix start with digits. -/
theorem head_wordTexts_scaled {digits exponent suffix : Text} (number : IsDigits digits)
    (scaled : IsExponent exponent) (ended : ∀ c ∈ suffix, isWord c = true) :
    ∀ word ∈ wordTexts (digits ++ (exponent ++ suffix)), word.head?.any Char.isDigit = true := by
  -- Without an exponent only the suffix follows the digits.
  rcases scaled with rfl | ⟨mark, sign, power, marks, signs, raised, rfl⟩
  · exact head_wordTexts_run number ended
  · have markWord : isWord mark = true := by rcases marks with rfl | rfl <;> decide
    have powerWords : ∀ c ∈ power ++ suffix, isWord c = true := by
      intro c member
      rcases List.mem_append.mp member with inPower | inSuffix
      · exact isWord_of_isNameChar (isNameChar_of_isDigit (raised.2 c inPower))
      · exact ended c inSuffix
    -- A sign ends the word of the mark and starts another one with the power.
    have signed : ∀ {c : Char}, isWord c = false →
        ∀ word ∈ wordTexts (digits ++ (mark :: ([c] ++ power) ++ suffix)),
          word.head?.any Char.isDigit = true := by
      intro c separates word member
      have split : digits ++ (mark :: ([c] ++ power) ++ suffix) =
          digits ++ [mark] ++ c :: (power ++ suffix) := by simp
      rw [split, wordTexts_append_cons separates, List.mem_append] at member
      rcases member with before | after
      · exact head_wordTexts_run number (by simpa using markWord) word before
      · exact head_wordTexts_run raised ended word after
    rcases signs with rfl | rfl | rfl
    · -- Without a sign everything is one word.
      have all : ∀ c ∈ mark :: (power ++ suffix), isWord c = true := by
        simpa [markWord] using powerWords
      simpa using head_wordTexts_run number all
    · -- Either sign is no word character.
      exact signed (by decide)
    · exact signed (by decide)

/-- The words of a number start with digits. -/
theorem Numeral.head_wordTexts {text : Text} (numeral : Numeral text) :
    ∀ word ∈ wordTexts text, word.head?.any Char.isDigit = true := by
  obtain @⟨minus, digits, fraction, exponent, suffix, sign, number, fractional, scaled, ending⟩ :=
    numeral
  -- A suffix is a letter, so it joins the word in front of it.
  have ended : ∀ c ∈ suffix, isWord c = true := by
    have tested : ∀ d ∈ ['l', 'L', 'f', 'F'], isWord d = true := by decide
    rcases ending with rfl | ⟨d, listed, rfl⟩
    · simp
    · simpa using tested d listed
  -- A point separates the digits on either side of it.
  have fractionWords : ∀ word ∈ wordTexts (digits ++ (fraction ++ (exponent ++ suffix))),
      word.head?.any Char.isDigit = true := by
    rcases fractional with rfl | ⟨decimals, places, rfl⟩
    · rw [List.nil_append]
      exact head_wordTexts_scaled number scaled ended
    · intro word member
      rw [List.cons_append, wordTexts_append_cons (by decide), List.mem_append] at member
      rcases member with whole | part
      · exact @head_wordTexts_run digits [] number (by simp) word (by simpa using whole)
      · exact head_wordTexts_scaled places scaled ended word part
  -- The sign in front belongs to no word.
  rcases sign with rfl | rfl
  · exact fractionWords
  · rwa [List.singleton_append, wordTexts_cons (by decide)]

/-- A number has at least one character. -/
theorem Numeral.ne_nil {text : Text} (numeral : Numeral text) : text ≠ [] := by
  -- Its digits are some.
  obtain ⟨-, number, -, -, -⟩ := numeral
  simp [number.1]

/-- What is written without quotes is made of plain characters. -/
theorem Written.plain_or_quoted {value : Text} (written : Written value) :
    (value ≠ [] ∧ ∀ c ∈ value, isPlain c = true) ∨
      ∃ quote content, isQuote quote = true ∧ value = quote :: (content ++ [quote]) ∧
        ∀ c ∈ content, c ≠ quote ∧ c ≠ backslash ∧ c ≠ '\n' := by
  -- A number and a truth value have no quotes.
  cases written with
  | numeral number => exact .inl ⟨number.ne_nil, number.plain⟩
  | truth listed => rcases listed with rfl | rfl <;> exact .inl (by decide)
  | quoted opens inner => exact .inr ⟨_, _, opens, rfl, inner⟩

/-- What is written between quotes is the content of a literal. -/
theorem content_of_written {quote : Char} {content : Text}
    (inner : ∀ c ∈ content, c ≠ quote ∧ c ≠ backslash ∧ c ≠ '\n') : Content quote content :=
  content_of_plain fun c member => ⟨(inner c member).1, (inner c member).2.1⟩

/-- The masked view of a literal between quotes shows the quotes alone. -/
theorem maskWith_quoted (fill : Char) {quote : Char} (opens : isQuote quote = true)
    {content : Text} (inner : ∀ c ∈ content, c ≠ quote ∧ c ≠ backslash ∧ c ≠ '\n') :
    maskWith [fill] (quote :: (content ++ [quote])) =
      quote :: (List.replicate content.length fill ++ [quote]) := by
  -- The content ends no literal, so the closing quote shows.
  have masked := maskWith_literal opens (content_of_written inner) fill []
  simpa [maskWith, maskFrom] using masked

/-- What follows a literal is masked on its own. -/
theorem Written.closed {value : Text} (written : Written value) : Closed value := by
  rcases written.plain_or_quoted with ⟨-, plain⟩ | ⟨quote, content, opens, rfl, inner⟩
  · exact closed_of_plain fun c member => (outside_of_isPlain (plain c member)).2
  · -- The closing quote ends the literal before anything follows.
    intro fill rest
    have masked := maskWith_literal opens (content_of_written inner) fill rest
    rw [maskWith_quoted fill opens inner]
    simpa using masked

/-- The masked view of a literal holds plain characters, quotes and the fill. -/
theorem Written.mem_maskWith {value : Text} (written : Written value) {fill c : Char}
    (member : c ∈ maskWith [fill] value) : isPlain c = true ∨ isQuote c = true ∨ c = fill := by
  -- A number shows as it is, and a quoted literal shows its quotes and the fill.
  rcases written.plain_or_quoted with ⟨-, plain⟩ | ⟨quote, content, opens, rfl, inner⟩
  · rw [maskWith_plain _ fun d inside => (outside_of_isPlain (plain d inside)).2] at member
    exact .inl (plain c member)
  · rw [maskWith_quoted fill opens inner] at member
    simp only [List.mem_cons, List.mem_append, List.mem_replicate, List.not_mem_nil,
      or_false] at member
    rcases member with rfl | ⟨-, rfl⟩ | rfl
    · exact .inr (.inl opens)
    · exact .inr (.inr rfl)
    · exact .inr (.inl opens)

/-- A literal holds no bracket and no special character outside its quotes. -/
theorem Written.flat {value : Text} (written : Written value) {special : Char}
    (unplain : isPlain special = false) (unquoted : isQuote special = false) :
    Flat (· == special) value := by
  refine ⟨written.closed, fun c member => ?_⟩
  -- The masked view shows plain characters, quotes and the fill.
  have differs : ∀ {other : Char}, isPlain other = false → isQuote other = false → c ≠ other := by
    rintro other unplain unquoted rfl
    rcases written.mem_maskWith member with plain | quote | fill
    · simp [plain] at unplain
    · simp [quote] at unquoted
    · exact absurd (fill ▸ unplain) (by decide)
  -- No bracket is one of these.
  have brackets : ∀ other ∈ ['(', '[', '{', ')', ']', '}'], c ≠ other := by
    have tested : ∀ other ∈ ['(', '[', '{', ')', ']', '}'],
        isPlain other = false ∧ isQuote other = false := by decide
    exact fun other listed => differs (tested other listed).1 (tested other listed).2
  simp only [List.mem_cons, List.not_mem_nil, or_false, forall_eq_or_imp, forall_eq] at brackets
  simp [isOpening, isClosing, brackets, differs unplain unquoted]

/-- A literal neither starts nor ends with white space. -/
theorem Written.ends {value : Text} (written : Written value) :
    value ≠ [] ∧ value.head?.any isSpace = false ∧ value.getLast?.any isSpace = false := by
  rcases written.plain_or_quoted with ⟨some, plain⟩ | ⟨quote, content, opens, rfl, inner⟩
  · -- A plain literal has no white space anywhere.
    refine ⟨some, ?_, ?_⟩
    · rw [Option.any_eq_false]
      intro c first
      exact (outside_of_isPlain (plain c (List.mem_of_head? first))).1
    · rw [Option.any_eq_false]
      intro c last
      exact (outside_of_isPlain (plain c (List.mem_of_getLast? last))).1
  · have outside : isSpace quote = false :=
      forall_isQuote opens (by decide) (by decide)
    -- A quoted literal starts and ends with its quote.
    have last : (quote :: (content ++ [quote])).getLast? = some quote := by
      rw [← List.cons_append, List.getLast?_append]
      rfl
    simp [last, outside]

/-- A literal does not run over the end of its line. -/
theorem Written.unbroken {value : Text} (written : Written value) : '\n' ∉ value := by
  rcases written.plain_or_quoted with ⟨-, plain⟩ | ⟨quote, content, opens, rfl, inner⟩
  · exact fun member => absurd (plain _ member) (by decide)
  · -- A line break is no quote, and the content of a literal has none.
    have other : '\n' ≠ quote := (ne_of_class opens (by decide)).symm
    simp only [List.mem_cons, List.mem_append, List.not_mem_nil, or_false, other, or_false,
      false_or]
    exact fun member => (inner _ member).2.2 rfl

/-- The blanked view of a literal is a literal. -/
theorem Written.blanked {value : Text} (written : Written value) : Written (blank value) := by
  -- Without quotes there is nothing to blank.
  have unchanged : (∀ c ∈ value, isPlain c = true) → blank value = value := fun plain =>
    maskWith_plain _ fun c member => (outside_of_isPlain (plain c member)).2
  cases written with
  | numeral number =>
    rw [unchanged number.plain]
    exact .numeral number
  | truth listed =>
    rw [unchanged (by rcases listed with rfl | rfl <;> decide)]
    exact .truth listed
  | quoted opens inner =>
    -- A quoted literal becomes a quoted literal of spaces.
    rw [blank, maskWith_quoted ' ' opens inner]
    refine .quoted opens fun c member => ?_
    obtain ⟨-, rfl⟩ := List.mem_replicate.mp member
    exact ⟨forall_isQuote opens (by decide) (by decide), by decide, by decide⟩

/-- The words of a literal are a truth value, or they start with a digit, or they are its fill. -/
theorem Written.mem_wordTexts {value : Text} (written : Written value) {fill : Char} {word : Text}
    (member : word ∈ wordTexts (maskWith [fill] value)) :
    word = "true".toList ∨ word = "false".toList ∨ word.head?.any Char.isDigit = true ∨
      ∃ count, word ∈ wordTexts (List.replicate count fill) := by
  -- Without quotes the literal shows as it is.
  have unchanged : (∀ c ∈ value, isPlain c = true) → maskWith [fill] value = value := fun plain =>
    maskWith_plain _ fun c member => (outside_of_isPlain (plain c member)).2
  -- Each form shows something else.
  cases written with
  | numeral number =>
    rw [unchanged number.plain] at member
    exact .inr (.inr (.inl (number.head_wordTexts word member)))
  | truth listed =>
    rw [unchanged (by rcases listed with rfl | rfl <;> decide)] at member
    rcases listed with rfl | rfl
    · exact .inl (List.mem_singleton.mp member)
    · exact .inr (.inl (List.mem_singleton.mp member))
  | @quoted quote content opens inner =>
    -- A quote belongs to no word, so only the fill can.
    have outside : isWord quote = false :=
      forall_isQuote opens (by decide) (by decide)
    rw [maskWith_quoted fill opens inner, wordTexts_cons outside,
      wordTexts_append_cons outside] at member
    exact .inr (.inr (.inr ⟨content.length, by simpa [wordTexts, wordTextsFrom] using member⟩))

/-- The words of a blanked literal are a truth value, or they start with a digit. -/
theorem Written.mem_wordTexts_blank {value : Text} (written : Written value) {word : Text}
    (member : word ∈ wordTexts (blank value)) :
    word = "true".toList ∨ word = "false".toList ∨ word.head?.any Char.isDigit = true := by
  -- Of the four kinds of words only the fill is blank.
  rcases written.mem_wordTexts member with yes | no | digit | ⟨count, blanks⟩
  · exact .inl yes
  · exact .inr (.inl no)
  · exact .inr (.inr digit)
  · -- Spaces hold no words.
    rw [wordTexts_eq_nil] at blanks
    · simp at blanks
    · intro c space
      rw [(List.mem_replicate.mp space).2]
      decide

/-- No literal shows the word for the main function. -/
theorem Written.main_notMem_mask {value : Text} (written : Written value) :
    "main".toList ∉ wordTexts (mask value) := by
  -- The name is none of the words that a literal can show.
  intro member
  rcases written.mem_wordTexts member with yes | no | digit | ⟨count, fill⟩
  · exact absurd yes (by decide)
  · exact absurd no (by decide)
  · exact absurd digit (by decide)
  · cases count with
    | zero => simp [wordTexts, wordTextsFrom] at fill
    | succ count =>
      -- The fill is one word of equal letters, and the name has different ones.
      have letters : ∀ c ∈ List.replicate (count + 1) 's', isWord c = true := by
        intro c inside
        rw [(List.mem_replicate.mp inside).2]
        decide
      rw [wordTexts_run (by simp) letters, List.mem_singleton] at fill
      have listed : 'm' ∈ List.replicate (count + 1) 's' := fill ▸ by decide
      exact absurd (List.mem_replicate.mp listed).2 (by decide)

/-- Digits with a sign and a suffix are read as a whole number. -/
theorem isWhole_append {suffixes : List Char} {minus digits suffix : Text} (sign : IsMinus minus)
    (number : IsDigits digits) (ending : IsSuffix suffixes suffix)
    (marks : ∀ c ∈ suffixes, isDecimal c = false) :
    Value.isWhole suffixes (minus ++ (digits ++ suffix)) = true := by
  -- A suffix is no digit, so the digits end in front of it.
  have stops : suffix.head?.any isDecimal = false := by
    rcases ending with rfl | ⟨c, listed, rfl⟩
    · rfl
    · simpa using marks c listed
  -- Behind the digits there is the suffix or nothing.
  rw [Value.isWhole, skipMinus_append sign number, afterDigits?_append number stops]
  rcases ending with rfl | ⟨c, listed, rfl⟩
  · rfl
  · simpa using listed

/-- An exponent is skipped together with its sign. -/
theorem skipExponent_append {exponent suffix : Text} (scaled : IsExponent exponent)
    (undigital : suffix.head?.any isDecimal = false)
    (unscaled : Value.skipExponent suffix = suffix) :
    Value.skipExponent (exponent ++ suffix) = suffix := by
  rcases scaled with rfl | ⟨mark, sign, power, marks, signs, raised, rfl⟩
  · exact unscaled
  · -- The mark is read, and then the sign and the digits of the power.
    have read := afterDigits?_append raised undigital
    have isMark : (mark == 'e' || mark == 'E') = true := by rcases marks with rfl | rfl <;> rfl
    rcases signs with rfl | rfl | rfl
    · -- The first digit is not taken for a sign.
      obtain ⟨c, more, rfl⟩ := List.exists_cons_of_ne_nil raised.1
      have plus : c ≠ '+' := by rintro rfl; exact absurd (raised.2 '+' (by simp)) (by decide)
      have minus : c ≠ '-' := by rintro rfl; exact absurd (raised.2 '-' (by simp)) (by decide)
      simp only [List.cons_append, List.nil_append] at read ⊢
      simp [Value.skipExponent, isMark, read, plus, minus]
    · simp [Value.skipExponent, isMark, read]
    · simp [Value.skipExponent, isMark, read]

/-- A number with a fraction, an exponent and a suffix is read as a real number. -/
theorem isReal_append {minus digits fraction exponent suffix : Text} (sign : IsMinus minus)
    (number : IsDigits digits) (fractional : IsFraction fraction) (scaled : IsExponent exponent)
    (ending : IsSuffix ['f', 'F'] suffix) :
    Value.isReal (minus ++ (digits ++ (fraction ++ (exponent ++ suffix)))) = true := by
  -- A suffix neither adds digits nor starts an exponent.
  have stops : suffix.head?.any isDecimal = false ∧ suffix.head? ≠ some '.' ∧
      Value.skipExponent suffix = suffix ∧
      (suffix = [] ∨ ∃ c, suffix = [c] ∧ (c == 'f' || c == 'F') = true) := by
    rcases ending with rfl | ⟨c, listed, rfl⟩
    · simp [Value.skipExponent]
    · simp only [List.mem_cons, List.not_mem_nil, or_false] at listed
      rcases listed with rfl | rfl <;> exact ⟨by decide, by decide, by decide, .inr ⟨_, rfl, rfl⟩⟩
  obtain ⟨undigital, pointless, unscaled, marked⟩ := stops
  -- Neither an exponent nor a suffix makes the digits longer.
  have follows : (exponent ++ suffix).head?.any isDecimal = false ∧
      (exponent ++ suffix).head? ≠ some '.' := by
    rcases scaled with rfl | ⟨mark, sign, power, marks, signs, raised, rfl⟩
    · exact ⟨undigital, pointless⟩
    · rcases marks with rfl | rfl <;> exact ⟨rfl, by simp⟩
  -- Number, exponent and suffix are skipped one after the other.
  rw [Value.isReal, skipMinus_append sign number,
    number?_append number fractional follows.1 follows.2]
  simp only [skipExponent_append scaled undigital unscaled]
  rcases marked with rfl | ⟨c, rfl, mark⟩
  · rfl
  · exact mark

/-- A literal of a type is accepted as one. -/
theorem LiteralOf.isLiteralOf {type : DataType} {value : Text} (literal : LiteralOf type value) :
    Value.isLiteralOf type value = true := by
  cases literal with
  | @whole type minus digits integral sign number =>
    -- A whole number is accepted by types with and without a suffix.
    have plain := @isWhole_append [] minus digits [] sign number (.inl rfl) (by simp)
    have long := @isWhole_append ['l', 'L'] minus digits [] sign number (.inl rfl) (by decide)
    rw [List.append_nil] at plain long
    cases type <;> first | exact plain | exact long | cases integral
  | long sign number ending =>
    simpa [Value.isLiteralOf] using isWhole_append sign number ending (by decide)
  -- Real numbers are read alike for both types.
  | real type sign number fractional scaled ending =>
    have accepted := isReal_append sign number fractional scaled ending
    rcases type with rfl | rfl <;> simpa [Value.isLiteralOf] using accepted
  | truth listed => simpa [Value.isLiteralOf, Value.isOneOf] using listed
  | character inner => simp [Value.isLiteralOf, Value.isCharacter, sameLine, inner]
  -- A string has no quote of its own inside.
  | string inner =>
    simp only [Value.isLiteralOf, Value.isString, endsWith, List.getLast?_concat,
      List.dropLast_concat, BEq.rfl, Bool.true_and, List.all_eq_true]
    intro c member
    simp [sameLine, inner c member]

end SourceLint
