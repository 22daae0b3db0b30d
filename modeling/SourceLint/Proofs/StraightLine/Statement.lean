import SourceLint.Declaration
import SourceLint.Proofs.Lexeme
import SourceLint.Proofs.Reading
import SourceLint.Proofs.StraightLine.Literal

/-!
Statements that start with a type, whatever they declare.

The type is read as it was written, and everything behind it is declared. The name that comes first
is not reserved, so it cannot be taken for a part of the type, and the statement is not mistaken for
a control header, a loop or a type alone.
-/

namespace SourceLint

open Text

/-- A text of plain characters, blanks and equals signs is flat for every other character. -/
theorem flat_of_plain {special : Char} (unplain : isPlain special = false) {text : Text}
    (plain : ∀ c ∈ text, isPlain c = true ∨ (c = ' ' ∨ c = '=') ∧ c ≠ special) :
    Flat (· == special) text := by
  -- No character is a quote, so that the text is its own masked view.
  have unquoted : ∀ c ∈ text, isQuote c = false := by
    intro c member
    rcases plain c member with plain | ⟨rfl | rfl, -⟩
    · exact (outside_of_isPlain plain).2
    · decide
    · decide
  refine ⟨closed_of_plain unquoted, fun c member => ?_⟩
  rw [mask, maskWith_plain _ unquoted] at member
  -- No bracket is among the characters of the text either, whatever the special character is.
  have unbracketed : ∀ d ∈ ['(', '[', '{', ')', ']', '}'], c ≠ d := by
    rintro d listed rfl
    have tested : ∀ d ∈ ['(', '[', '{', ')', ']', '}'], isPlain d = false ∧ d ≠ ' ' ∧ d ≠ '=' := by
      decide
    obtain ⟨unread, unspaced, unequal⟩ := tested c listed
    rcases plain c member with plain | ⟨rfl | rfl, -⟩
    · rw [plain] at unread
      cases unread
    · exact unspaced rfl
    · exact unequal rfl
  -- The last thing to exclude is the separator itself.
  have other : c ≠ special := by
    rcases plain c member with plain | ⟨-, other⟩
    · exact ne_of_class plain unplain
    · exact other
  simp only [List.mem_cons, List.not_mem_nil, or_false, forall_eq_or_imp, forall_eq] at unbracketed
  simp [isOpening, isClosing, unbracketed, other]

/-- The characters of a name are plain. -/
theorem Token.plain_of_isIdentifier {name : Text} (identifier : Token.isIdentifier name = true) :
    ∀ c ∈ name, isPlain c = true :=
  fun c member =>
    isPlain_of_isNameChar (Token.forall_isNameChar_of_isIdentifier identifier c member)

/-- A name neither starts nor ends with white space. -/
theorem Token.ends_of_isIdentifier {name : Text} (identifier : Token.isIdentifier name = true) :
    name.head?.any isSpace = false ∧ name.getLast?.any isSpace = false := by
  have plain := Token.plain_of_isIdentifier identifier
  -- White space is not plain, wherever it stands.
  refine ⟨?_, ?_⟩
  · rw [Option.any_eq_false]
    exact fun c first => (outside_of_isPlain (plain c (List.mem_of_head? first))).1
  · rw [Option.any_eq_false]
    exact fun c last => (outside_of_isPlain (plain c (List.mem_of_getLast? last))).1

/-- A text that is settled for semicolons is what stands in front of the semicolon that ends it. -/
theorem cutTop_semicolon {text : Text} (settled : Settled (· == ';') text) (rest : Text) :
    cutTop (· == ';') (text ++ ';' :: rest) =
      (text, (cutTop (· == ';') rest).1 :: (cutTop (· == ';') rest).2) := by
  -- The text is one piece, and the semicolon ends it.
  rw [settled.cutTop_append,
    cutTop_cons_separator (by decide) (by decide) (by decide) (by decide), List.append_nil]

namespace Statement

/-- A text that leaves nothing open is a statement in front of a semicolon, unless it is blank. -/
theorem split_settled {text : Text} (settled : Settled (· == ';') text) (rest : Text) :
    split (text ++ ';' :: rest) =
      (if trim text = [] then [] else [⟨trim text, true⟩]) ++ split rest := by
  -- The piece in front of the semicolon is kept, unless nothing of it is left when it is trimmed.
  rw [split, cutTop_semicolon settled]
  by_cases blank : trim text = [] <;> simp [ofPieces, blank, split]

variable {statement : Text} (settled : Settled (· == ';') statement)
  (trimmed : trim statement = statement) (filled : statement ≠ [])
include settled trimmed filled

/-- A statement that leaves nothing open is the only one of the line that it ends. -/
theorem split_finished : split (statement ++ [';']) = [⟨statement, true⟩] := by
  -- Behind the semicolon the line ends.
  rw [split_settled settled, trimmed, if_neg filled]
  rfl

/-- Without a header the only statement of a line acts as it is. -/
theorem effective_finished (unlooped : loopStart? (statement ++ [';']) = none)
    (headless : body statement = statement) (withUnterminated : Bool) :
    effective (statement ++ [';']) withUnterminated = [statement] := by
  -- What is not a loop is taken statement by statement.
  rw [effective, split_finished settled trimmed filled, unlooped]
  simp [headless, filled]

end Statement

/-- The content behind white space is a text that is trimmed. -/
theorem contentOf?_append {gap : Text} (blank : ∀ c ∈ gap, isSpace c = true) {text : Text}
    (trimmed : trim text = text) (filled : text ≠ []) : contentOf? (gap ++ text) = some text := by
  -- A trimmed text has no white space at its ends.
  have starts := head?_trim text
  have ends := getLast?_trim text
  rw [trimmed] at starts ends
  rw [contentOf?, skipSpace_append blank, skipSpace_of_head starts]
  split
  · contradiction
  · rw [trimRight_of_last ends]

namespace DataType

/-- Every type is tried. -/
theorem mem_all (type : DataType) : type ∈ DataType.all := by
  cases type <;> decide

/-- The spelling of a type is made of letters and blanks. -/
theorem plain_spelling (type : DataType) : ∀ c ∈ type.spelling, isPlain c = true ∨ c = ' ' := by
  cases type <;> decide

/-- The spelling of a type starts with a letter. -/
theorem exists_spelling (type : DataType) :
    ∃ c rest, type.spelling = c :: rest ∧ isNameChar c = true := by
  cases type <;> exact ⟨_, _, rfl, by decide⟩

/-- The spelling of a type has the words of the type. -/
theorem wordTexts_spelling (type : DataType) : wordTexts type.spelling = type.words := by
  cases type <;> decide

/-- A type and the blank behind it hold neither brackets nor literals. -/
theorem flat_spelling (type : DataType) {special : Char} (unplain : isPlain special = false)
    (unspaced : special ≠ ' ') : Flat (· == special) (type.spelling ++ [' ']) := by
  refine flat_of_plain unplain fun c member => ?_
  have blank : ∀ c, c = ' ' → (c = ' ' ∨ c = '=') ∧ c ≠ special := by
    rintro _ rfl
    exact ⟨.inl rfl, unspaced.symm⟩
  -- Types are spelled with letters and blanks.
  rcases List.mem_append.mp member with inType | inGap
  · exact (type.plain_spelling c inType).imp id (blank c)
  · exact .inr (blank c (List.mem_singleton.mp inGap))

end DataType

/-- The control words and qualifiers that a statement can start with. -/
def leadingWords : List Text :=
  ["if", "else", "for", "while", "const", "static"].map String.toList

/-- No control word and no qualifier starts like a type. -/
theorem after?_spelling (type : DataType) {word : Text} (listed : word ∈ leadingWords)
    (rest : Text) : after? word (type.spelling ++ rest) = none := by
  have tested : ∀ word ∈ leadingWords, ∀ type ∈ DataType.all,
      after? word type.spelling = none ∧ after? type.spelling word = none := by decide
  -- Neither text starts the other, so that what follows the type does not matter.
  obtain ⟨longer, shorter⟩ := tested word listed type type.mem_all
  exact after?_append_eq_none longer shorter rest

/-- A statement that starts with a type has no control header. -/
theorem body_spelling (type : DataType) (rest : Text) :
    Statement.body (type.spelling ++ rest) = type.spelling ++ rest := by
  have control : ∀ keyword ∈ Statement.controlKeywords, keyword ∈ leadingWords := by decide
  -- A header would start with one of the control words.
  exact body_of_header?_eq_none (header?_eq_none (after?_spelling type (by decide) _)
    fun keyword listed => after?_spelling type (control keyword listed) _)

/-- A statement that starts with a type has no qualifiers in front of it. -/
theorem skipQualifiers_spelling (type : DataType) (rest : Text) :
    Vocabulary.skipQualifiers (type.spelling ++ rest) = type.spelling ++ rest :=
  -- No type is spelled like the start of a qualifier.
  skipQualifiers_eq_self (afterQualifier?_eq_none (after?_spelling type (by decide) rest)
    (after?_spelling type (by decide) rest))

/-- A line that starts with a type is no loop. -/
theorem loopStart?_spelling (type : DataType) (rest : Text) :
    Statement.loopStart? (type.spelling ++ rest) = none := by
  obtain ⟨d, more, spelled, letter⟩ := type.exists_spelling
  have first : (type.spelling ++ rest).head?.any isSpace = false := by
    simpa [spelled] using isSpace_of_isNameChar letter
  -- No type starts with the word for a loop.
  have unread : after? "for".toList (type.spelling ++ rest) = none :=
    after?_spelling type (by decide) rest
  -- So no header of a loop is found.
  rw [Statement.loopStart?, skipSpace_of_head first,
    afterOpening?_eq_none (by simpa using unread)]
  rfl

/-- The types that are tried before the one that was written do not fit. -/
theorem variablesOf?_earlier {type other : DataType}
    (earlier : other ∈ DataType.all.takeWhile (· != type)) (rest : Text)
    (single : Declaration.variablesOf? .longLong (DataType.long.spelling ++ ' ' :: rest) = none) :
    Declaration.variablesOf? other (type.spelling ++ ' ' :: rest) = none := by
  -- Only the name after a single `long` could be taken for the second word of a type.
  by_cases pair : type = .long ∧ other = .longLong
  · obtain ⟨rfl, rfl⟩ := pair
    exact single
  · revert earlier pair
    cases type <;> cases other <;> intro earlier pair <;>
      first | rfl | exact absurd earlier (by decide) | exact absurd ⟨rfl, rfl⟩ pair

/-- A text that is nothing but words has these words. -/
theorem mem_of_afterWords?_eq_nil {words : List Text}
    (runs : ∀ word ∈ words, word ≠ [] ∧ ∀ c ∈ word, isWord c = true) {text : Text}
    (read : Declaration.afterWords? words text = some []) :
    ∀ word ∈ wordTexts text, word ∈ words := by
  -- The words are read from the front, with white space between them.
  induction words generalizing text with
  | nil =>
    cases read
    simp [wordTexts, wordTextsFrom]
  | cons first others ih =>
    obtain ⟨some, run⟩ := runs first (by simp)
    have single := wordTexts_run some run
    cases others with
    | nil =>
      -- The last word is all that is left of the text.
      have whole := eq_append_of_after? read
      rw [List.append_nil] at whole
      simp [whole, single]
    | cons next rest =>
      obtain ⟨left, spaced, later⟩ := Option.bind_eq_some_iff.mp read
      obtain ⟨space, filled, spaces, whole, -⟩ := afterSpaced?_eq_some_iff.mp spaced
      obtain ⟨c, gap, rfl⟩ := List.exists_cons_of_ne_nil filled
      obtain ⟨ends, blank⟩ := List.forall_mem_cons.mp spaces
      -- The words behind the gap are read in the same way.
      have inner := ih (fun word member => runs word (by simp [member])) later
      -- White space ends the first word, and the others stand behind it.
      have parts : wordTexts text = first :: wordTexts left := by
        rw [whole, List.cons_append, wordTexts_append_cons (isWord_of_isSpace ends), single,
          wordTexts_append_left blank]
        rfl
      intro word member
      rw [parts] at member
      rcases List.mem_cons.mp member with here | there
      · simp [here]
      · exact List.mem_cons_of_mem _ (inner word there)

/-- An item as it is written, with its value behind an equals sign. -/
def Item.written (item : Item) : Text :=
  item.name ++ item.value.elim [] fun value => ' ' :: '=' :: ' ' :: value

/-- An item is read back from what is written, whatever stands in its value. -/
theorem Declaration.itemOf_written {item : Item}
    (identifier : Token.isIdentifier item.name = true)
    (trimmed : ∀ value ∈ item.value, trim value = value) {gap : Text}
    (spaces : ∀ c ∈ gap, c = ' ') :
    Declaration.itemOf (gap ++ item.written) = item := by
  -- The gap is white space, which is trimmed away.
  have blank : ∀ c ∈ gap, isSpace c = true := by
    intro c member
    rw [spaces c member]
    decide
  obtain ⟨first, last⟩ := Token.ends_of_isIdentifier identifier
  have named : trim (gap ++ item.name) = item.name := by
    rw [trim_append_left blank, trim_of_ends first last]
  -- No equals sign stands in front of the one that is written.
  have front : ∀ c ∈ gap ++ item.name, isPlain c = true ∨ (c = ' ' ∨ c = '=') ∧ c ≠ '=' := by
    intro c member
    rcases List.mem_append.mp member with inGap | inName
    · exact .inr (by rw [spaces c inGap]; decide)
    · exact .inl (Token.plain_of_isIdentifier identifier c inName)
  -- Whether there is an equals sign depends on the value.
  obtain ⟨name, value⟩ := item
  rw [Item.written]
  cases value with
  | none =>
    -- Without an equals sign the whole text is the name.
    simp only [Option.elim_none, List.append_nil] at *
    simp [Declaration.itemOf, cutTop_flat (flat_of_plain (by decide) front), named]
  | some value =>
    have equals : Flat (· == '=') (gap ++ name ++ [' ']) := by
      refine (flat_of_plain (by decide) front).append (flat_of_plain (by decide) ?_)
      decide
    have split : gap ++ (name ++ ' ' :: '=' :: ' ' :: value) =
        (gap ++ name ++ [' ']) ++ '=' :: (' ' :: value) := by simp
    have cut : cutTop (· == '=') (gap ++ (name ++ ' ' :: '=' :: ' ' :: value)) =
        (gap ++ name ++ [' '], splitTop (· == '=') (' ' :: value)) := by
      rw [split, cutTop_append_flat equals,
        cutTop_cons_separator (by decide) (by decide) (by decide) (by decide)]
      simp [splitTop]
    have single : ∀ c ∈ [' '], isSpace c = true := by decide
    -- Further equals signs cut the value, and it is put back together.
    have whole : trim (join ['='] (splitTop (· == '=') (' ' :: value))) = value := by
      rw [join_splitTop (by decide), ← List.singleton_append, trim_append_left single]
      exact trimmed value rfl
    have front : trim (gap ++ name ++ [' ']) = name := by rw [trim_append_right single, named]
    rw [Option.elim_some, Declaration.itemOf, cut]
    simp only [splitTop] at whole ⊢
    rw [front, whole]

/-- What a statement declares: it starts with a name that is not reserved. -/
structure Declares (declared name : Text) : Prop where
  identifier : Token.isIdentifier name = true
  unreserved : Vocabulary.isReserved name = false
  first : declared.takeWhile isWord = name
  ends : declared.getLast?.any isSpace = false

namespace Declares

variable {declared name : Text}

/-- The name is at the front, and no word goes on behind it. -/
theorem exists_rest (declares : Declares declared name) :
    ∃ rest, declared = name ++ rest ∧ rest.head?.any isWord = false := by
  -- What stands behind the first run of word characters is the rest.
  refine ⟨declared.dropWhile isWord, ?_, ?_⟩
  · rw [← declares.first, List.takeWhile_append_dropWhile]
  · rw [Option.any_eq_false]
    intro c first
    have stops := List.head?_dropWhile_not isWord declared
    rw [first] at stops
    simpa using stops

/-- What is declared starts with the first character of the name. -/
theorem exists_cons (declares : Declares declared name) :
    ∃ c rest, declared = c :: rest ∧ isNameStart c = true := by
  -- A name has a first character, and the name stands at the front.
  obtain ⟨rest, split, -⟩ := declares.exists_rest
  obtain ⟨c, tail, rfl, start, -⟩ := Token.exists_of_isIdentifier declares.identifier
  exact ⟨c, tail ++ rest, split, start⟩

/-- What is declared does not start with white space. -/
theorem starts (declares : Declares declared name) : declared.head?.any isSpace = false := by
  obtain ⟨c, rest, split, start⟩ := declares.exists_cons
  rw [split]
  exact isSpace_of_isNameChar (isNameChar_of_isNameStart start)

/-- The name is the first word of what is declared. -/
theorem mem_wordTexts (declares : Declares declared name) : name ∈ wordTexts declared := by
  -- The first character starts the first word, and the name is that word.
  obtain ⟨c, rest, split, start⟩ := declares.exists_cons
  have word : isWord c = true := isWord_of_isNameChar (isNameChar_of_isNameStart start)
  have first := declares.first
  rw [split] at first
  simp [split, wordTexts, wordTextsFrom, word, ← first]

variable (declares : Declares declared name) (type : DataType)
include declares

/-- A statement neither starts nor ends with white space. -/
theorem ends_typed : (type.spelling ++ ' ' :: declared).head?.any isSpace = false ∧
    (type.spelling ++ ' ' :: declared).getLast?.any isSpace = false := by
  obtain ⟨c, rest, split, -⟩ := declares.exists_cons
  obtain ⟨d, more, spelled, letter⟩ := type.exists_spelling
  refine ⟨by simpa [spelled] using isSpace_of_isNameChar letter, ?_⟩
  -- The last character is the last one of what is declared.
  have ends := declares.ends
  rw [split] at ends ⊢
  simpa [List.getLast?_append, List.getLast?_cons] using ends

/-- The only statement of the line acts with and without its semicolon. -/
theorem effective_typed (settled : Settled (· == ';') (type.spelling ++ ' ' :: declared))
    (withUnterminated : Bool) :
    Statement.effective (type.spelling ++ ' ' :: declared ++ [';']) withUnterminated =
      [type.spelling ++ ' ' :: declared] := by
  -- The statement is trimmed already, and it has neither a loop nor a header in front.
  obtain ⟨first, last⟩ := declares.ends_typed type
  refine Statement.effective_finished settled (trim_of_ends first last) (by simp) ?_
    (body_spelling type _) withUnterminated
  rw [List.append_assoc, loopStart?_spelling]

/-- A single `long` and what is declared after it are not read as one type. -/
theorem variablesOf?_longLong : Declaration.variablesOf? .longLong
    (DataType.long.spelling ++ ' ' :: declared) = none := by
  -- The second word would have to follow the first one at once.
  have read : Declaration.afterWords? DataType.longLong.words
      (DataType.long.spelling ++ ' ' :: declared) =
        after? "long".toList (skipSpace declared) := rfl
  rw [Declaration.variablesOf?, read, skipSpace_of_head declares.starts]
  split
  case h_2 => rfl
  case h_1 c rest found =>
    -- White space after the second word would make it the name, which is reserved.
    have word : isSpace c = false := by
      rw [← Bool.not_eq_true]
      intro space
      have named := declares.first
      have stops : (c :: rest).head?.any isWord = false := by simpa using isWord_of_isSpace space
      rw [eq_append_of_after? found, takeWhile_append_stop stops] at named
      have reserved := declares.unreserved
      rw [← named] at reserved
      exact absurd reserved (by decide)
    simp [word]

/-- A statement is split into its type and what is declared. -/
theorem split?_typed :
    Declaration.split? (type.spelling ++ ' ' :: declared) = some (type, declared) := by
  -- What is declared counts as it is: it is not blank, and it starts and ends solidly.
  have content : contentOf? declared = some declared := by
    obtain ⟨c, rest, split, -⟩ := declares.exists_cons
    exact @contentOf?_append [] (by simp) _ (trim_of_ends declares.starts declares.ends)
      (by simp [split])
  -- What the type leaves of the statement is what is declared.
  have read : Declaration.variablesOf? type (type.spelling ++ ' ' :: declared) =
      some declared := by
    cases type <;> exact content
  -- There are no qualifiers to pass over, so that the types are tried at once.
  rw [Declaration.split?, skipSpace_of_head (declares.ends_typed type).1,
    skipQualifiers_spelling type]
  -- The first type that fits is the one that was written.
  refine List.findSome?_eq_some_iff.mpr ⟨DataType.all.takeWhile (· != type), type,
    (DataType.all.dropWhile (· != type)).tail, ?_, ?_, ?_⟩
  · cases type <;> rfl
  · rw [read]
    rfl
  · intro other earlier
    rw [variablesOf?_earlier earlier declared declares.variablesOf?_longLong]
    rfl

/-- A name without a parenthesis behind it calls nothing. -/
theorem startsWithCall_eq_false
    (uncalled : (skipSpace (declared.dropWhile isWord)).head? ≠ some '(') :
    startsWithCall declared = false := by
  -- A call needs a parenthesis behind the word, which is missing.
  obtain ⟨c, rest, split, start⟩ := declares.exists_cons
  have word : isWord c = true := isWord_of_isNameChar (isNameChar_of_isNameStart start)
  rw [split, List.dropWhile_cons_of_pos word] at uncalled
  rw [startsWithCall, split, afterName?, name?, if_pos start, Option.map_some]
  simpa using uncalled

/-- A statement names what it declares. -/
theorem nameless?_typed :
    Declaration.nameless? (type.spelling ++ ' ' :: declared) = none := by
  rw [Declaration.nameless?, skipSpace_of_head (declares.ends_typed type).1,
    skipQualifiers_spelling type, List.find?_eq_none]
  -- A type without a name would be a type with nothing but white space behind it.
  intro other every
  rw [Option.any_eq_true]
  rintro ⟨rest, read, blank⟩
  -- What follows the words of a type either is nothing or ends like the statement.
  cases last : rest.getLast? with
  | none =>
    rw [List.getLast?_eq_none_iff.mp last] at read
    have runs : ∀ type ∈ DataType.all, ∀ word ∈ type.words,
        word ≠ [] ∧ (∀ c ∈ word, isWord c = true) ∧ Vocabulary.isReserved word = true := by decide
    -- If nothing follows, the name is a word of the type, and these are reserved.
    have named : name ∈ wordTexts (type.spelling ++ ' ' :: declared) := by
      rw [wordTexts_append_cons (by decide)]
      exact List.mem_append_right _ declares.mem_wordTexts
    have listed := mem_of_afterWords?_eq_nil
      (fun word member => ⟨(runs other every word member).1, (runs other every word member).2.1⟩)
      read _ named
    have reserved := (runs other every _ listed).2.2
    rw [declares.unreserved] at reserved
    cases reserved
  | some c =>
    -- If something follows, the statement ends with white space, which it does not.
    have space : isSpace c = true := List.all_eq_true.mp blank c (List.mem_of_getLast? last)
    obtain ⟨front, split⟩ := suffix_of_afterWords? read
    have ends := (declares.ends_typed type).2
    rw [← split, List.getLast?_append, last] at ends
    simp [space] at ends

end Declares

namespace Item

variable {item : Item} {tail : Text}

/-- An item that is written ends with its name or with its value. -/
theorem ends_written (identifier : Token.isIdentifier item.name = true)
    (solid : ∀ value ∈ item.value, value ≠ [] ∧ value.getLast?.any isSpace = false) :
    ∃ c, item.written.getLast? = some c ∧ isSpace c = false := by
  -- Without a value the name ends the item.
  rw [written]
  cases valued : item.value with
  | none =>
    obtain ⟨c, more, split, -⟩ := Token.exists_of_isIdentifier identifier
    simpa using exists_getLast? (by simp [split]) (Token.ends_of_isIdentifier identifier).2
  | some value =>
    -- The last character of the value is the last one that is written.
    obtain ⟨filled, ends⟩ := solid value valued
    obtain ⟨c, last, solid⟩ := exists_getLast? filled ends
    exact ⟨c, by simp [List.getLast?_append, List.getLast?_cons, last], solid⟩

/-- Behind the name comes its value, or a comma, or nothing at all. -/
theorem exists_rest (item : Item) (comma : tail = [] ∨ ∃ more, tail = ',' :: more) :
    ∃ rest, item.written ++ tail = item.name ++ rest ∧ rest.head?.any isWord = false ∧
      (skipSpace rest).head? ≠ some '(' := by
  -- The rest is the value, if there is one, and what follows the item.
  refine ⟨(item.value.elim [] fun value => ' ' :: '=' :: ' ' :: value) ++ tail, ?_, ?_⟩
  · rw [written, List.append_assoc]
  · have gap : isWord ' ' = false ∧ isSpace ' ' = true ∧ isSpace '=' = false := by decide
    have stop : isWord ',' = false ∧ isSpace ',' = false := by decide
    rcases comma with rfl | ⟨more, rfl⟩ <;> cases item.value <;> simp [skipSpace, gap, stop]

variable (identifier : Token.isIdentifier item.name = true)
include identifier

/-- All characters of the name belong to its word. -/
theorem forall_isWord_name : ∀ c ∈ item.name, isWord c = true := fun c member =>
  isWord_of_isNameChar (Token.forall_isNameChar_of_isIdentifier identifier c member)

/-- What is declared starts with the name of its first item. -/
theorem declares (unreserved : Vocabulary.isReserved item.name = false)
    (comma : tail = [] ∨ ∃ more, tail = ',' :: more)
    (ends : (item.written ++ tail).getLast?.any isSpace = false) :
    Declares (item.written ++ tail) item.name where
  identifier := identifier
  -- The other parts are known of the item.
  unreserved := unreserved
  ends := ends
  first := by
    obtain ⟨rest, split, stops, -⟩ := item.exists_rest comma
    rw [split, takeWhile_append_stop stops,
      List.takeWhile_eq_self_iff.mpr (forall_isWord_name identifier)]

/-- Nothing in what is declared looks like the signature of a function. -/
theorem startsWithCall_eq_false (declares : Declares (item.written ++ tail) item.name)
    (comma : tail = [] ∨ ∃ more, tail = ',' :: more) :
    startsWithCall (item.written ++ tail) = false := by
  -- What follows the name is no parenthesis.
  refine declares.startsWithCall_eq_false ?_
  obtain ⟨rest, split, stops, uncalled⟩ := item.exists_rest comma
  have named := List.dropWhile_eq_nil_iff.mpr (forall_isWord_name identifier)
  rwa [split, dropWhile_append_stop stops, named]

end Item

end SourceLint
