import SourceLint.Proofs.Lexeme

/-!
Keywords and the words they stand in.

A lexeme that spells a keyword has its category wherever it was cut out. Names are cut out in ASCII,
and words are not: behind a digit, or next to a letter of another script, a keyword can be a part of
a longer word. It is a word of its own exactly when the word around it is an ASCII name.
-/

namespace SourceLint

open Text

/-- Whether the lexemes of a category are keywords. -/
def Category.isKeyword : Category → Bool
  | declaration | conditional | loop | control => true
  | _ => false

namespace Token

/-- A token with the text in front of its lexeme and the text behind it. -/
structure Place where
  front : Text
  token : Token
  back : Text
deriving DecidableEq

/-- The places of the tokens of a text that stands on the given line behind another text. -/
def placesFrom (front : Text) (line : Int) : Text → List Place
  | [] => []
  | c :: rest =>
    if c = '\n' then placesFrom (front ++ [c]) (line + 1) rest
    else if isSpace c then placesFrom (front ++ [c]) line rest
    else
      let tail := lexemeTail front.getLast? c rest
      ⟨front, ⟨c :: tail, line, categorize (c :: tail)⟩, rest.drop tail.length⟩ ::
        placesFrom (front ++ c :: tail) line (rest.drop tail.length)
termination_by text => text.length

/-- The places of the tokens of a text. -/
def places (text : Text) : List Place :=
  placesFrom [] 1 text

namespace Place

/-- The word characters around the lexeme, together with the lexeme. -/
def word (place : Place) : Text :=
  (place.front.reverse.takeWhile isWord).reverse ++
    (place.token.lexeme ++ place.back.takeWhile isWord)

/-- The lexeme is made of word characters, and no word character stands next to it. -/
def IsWhole (place : Place) : Prop :=
  (∀ c ∈ place.token.lexeme, isWord c = true) ∧ place.front.getLast?.any isWord = false ∧
    place.back.head?.any isWord = false

instance (place : Place) : Decidable place.IsWhole :=
  inferInstanceAs (Decidable (_ ∧ _ ∧ _))

end Place

/-- The places of the tokens are those of the tokens that are read. -/
theorem map_token_placesFrom (front : Text) (line : Int) (text : Text) :
    (placesFrom front line text).map Place.token = tokenizeFrom front.getLast? line text := by
  generalize last : front.getLast? = before
  -- Each step adds what it takes to the front, whose last character is kept.
  induction before, line, text using induction_on_lexemes generalizing front with
  | ended => simp [placesFrom, tokenizeFrom]
  | lineBreak before line rest ih =>
    rw [placesFrom, if_pos rfl, tokenizeFrom_break]
    exact ih _ List.getLast?_concat
  | space before line c rest unbroken space ih =>
    rw [placesFrom, if_neg unbroken, if_pos space, tokenizeFrom_space _ _ unbroken space]
    exact ih _ List.getLast?_concat
  | lexeme before line c rest unbroken solid ih =>
    rw [placesFrom, if_neg unbroken, if_neg (by simp [solid]), last,
      tokenizeFrom_lexeme _ _ unbroken solid, List.map_cons]
    -- Behind the lexeme the last character is the one that the lexer looks at.
    refine congrArg _ (ih _ ?_)
    rw [List.getLast?_append, List.getLast?_cons, Option.some_or]

/-- An ASCII name at the end of a front does not go on behind the front. -/
def Finished (front rest : Text) : Prop :=
  ∀ lead name, front = lead ++ name → isIdentifier name = true → rest.head?.any isNameChar = false

section Finished

variable {front rest tail : Text} {c : Char}

/-- What a name starts with is a name, unless it is empty. -/
theorem isIdentifier_of_append {first second : Text} (filled : first ≠ [])
    (identifier : isIdentifier (first ++ second) = true) : isIdentifier first = true := by
  -- All characters of the whole are name characters, so those of the beginning are.
  obtain ⟨d, more, rfl⟩ := List.exists_cons_of_ne_nil filled
  simp only [List.cons_append, isIdentifier, List.all_append, Bool.and_eq_true] at identifier ⊢
  exact ⟨identifier.1, identifier.2.1⟩

/-- No name ends with a character that stands in no name. -/
theorem finished_of_last (unnamed : isNameChar c = false) (front rest : Text) :
    Finished (front ++ [c]) rest := by
  intro lead name split identifier
  have named := forall_isNameChar_of_isIdentifier identifier
  obtain ⟨d, more, rfl, -⟩ := exists_of_isIdentifier identifier
  -- The last character of the front is that of the name.
  have last := congrArg List.getLast? split
  rw [List.getLast?_concat, List.getLast?_append, List.getLast?_cons, Option.some_or] at last
  -- So it would be a character of a name, which it is not.
  have ends := named c (List.mem_of_getLast? (by rw [List.getLast?_cons]; exact last.symm))
  rw [unnamed] at ends
  cases ends

/-- A lexeme in which no name starts ends no name. -/
theorem Finished.append (finished : Finished front (c :: rest))
    (unstarted : ∀ d ∈ c :: tail, isNameStart d = false) (more : Text) :
    Finished (front ++ c :: tail) more := by
  intro lead name split identifier
  have named := forall_isNameChar_of_isIdentifier identifier
  obtain ⟨d, others, rfl, start, -⟩ := exists_of_isIdentifier identifier
  have starts : d ∉ c :: tail := fun member => by
    rw [unstarted d member] at start
    cases start
  rcases List.append_eq_append_iff.mp split with ⟨inner, -, within⟩ | ⟨first, ends, whole⟩
  · -- The name would start in the lexeme.
    exact absurd (within ▸ by simp) starts
  · by_cases empty : first = []
    · rw [empty, List.nil_append] at whole
      exact absurd (whole ▸ by simp) starts
    · -- Its part in the front was finished, so it does not go on with the lexeme.
      have apart := finished lead first ends (isIdentifier_of_append empty (whole ▸ identifier))
      rw [List.head?_cons, Option.any_some, named c (whole ▸ by simp)] at apart
      cases apart

/-- A name is read to its end. -/
theorem head?_drop_lexemeTail (start : isNameStart c = true) (before : Option Char) (rest : Text) :
    (rest.drop (lexemeTail before c rest).length).head?.any isNameChar = false := by
  obtain ⟨inoperative, undigital, unquoted, unstrung⟩ := outside_of_isNameStart start
  -- What is left behind a run starts with a character that is not in the class of the run.
  have stops : ∀ p : Char → Bool, (∀ d, isNameChar d = true → p d = true) →
      (rest.drop (rest.takeWhile p).length).head?.any isNameChar = false := by
    intro p wider
    rw [drop_length_takeWhile, Option.any_eq_false]
    intro d first
    have other := List.head?_dropWhile_not p rest
    rw [first] at other
    simp only at other
    rw [← Bool.not_eq_true]
    intro named
    rw [wider d named] at other
    cases other
  -- The reader of a name and that of a keyword both take such a run.
  unfold lexemeTail
  split
  · exact stops isWord fun d => isWord_of_isNameChar
  · simpa [inoperative, undigital, unquoted, unstrung, start] using stops isNameChar fun _ => id

/-- Behind each lexeme the names in front are finished, if they were so in front of it. -/
theorem Finished.lexeme (finished : Finished front (c :: rest)) :
    Finished (front ++ c :: lexemeTail front.getLast? c rest)
      (rest.drop (lexemeTail front.getLast? c rest).length) := by
  -- A name that starts the lexeme is read to its end.
  by_cases start : isNameStart c = true
  · exact fun _ _ _ _ => head?_drop_lexemeTail start _ rest
  rw [Bool.not_eq_true] at start
  have shape := lexeme_lexemeTail front.getLast? c rest
  generalize lexemeTail front.getLast? c rest = tail at shape ⊢
  -- Only in a literal can a name start, and a literal ends with its delimiter.
  cases shape with
  | word started => rw [start] at started; cases started
  | operator _ more short =>
    refine finished.append (List.forall_mem_cons.mpr ⟨start, fun d member => ?_⟩) _
    exact (outside_of_isOperatorChar (more d member)).1
  | number decimal digits point =>
    have undigital : ∀ d, isDecimal d = true → isNameStart d = false :=
      fun d digit => (outside_of_isDecimal digit).1
    refine finished.append (List.forall_mem_cons.mpr ⟨start, ?_⟩) _
    refine List.forall_mem_append.mpr ⟨fun d member => undigital d (digits d member), ?_⟩
    rcases point with rfl | ⟨places, -, decimals, rfl⟩
    · simp
    · exact List.forall_mem_cons.mpr
        ⟨by decide, fun d member => undigital d (decimals d member)⟩
  -- A closing quote is the last character, and it is in no name.
  | @charLiteral d =>
    have ends := finished_of_last (c := singleQuote) (by decide) (front ++ [singleQuote, d])
    simpa using ends _
  | @stringLiteral content =>
    have ends := finished_of_last (c := doubleQuote) (by decide) (front ++ doubleQuote :: content)
    simpa using ends _
  | foreign _ _ more =>
    refine finished.append (List.forall_mem_cons.mpr ⟨start, fun d member => ?_⟩) _
    rw [← Bool.not_eq_true]
    intro named
    have known := more d member
    simp [isForeign, isWord_of_isNameChar (isNameChar_of_isNameStart named)] at known
  | single => exact finished.append (by simpa using start) _

end Finished

/-- A place of a text, at which the lexeme is read behind finished names. -/
structure Place.Of (place : Place) (text : Text) : Prop where
  whole : text = place.front ++ (place.token.lexeme ++ place.back)
  finished : Finished place.front (place.token.lexeme ++ place.back)
  read : ∃ c rest, place.token.lexeme = c :: lexemeTail place.front.getLast? c rest ∧
    place.back = rest.drop (lexemeTail place.front.getLast? c rest).length
  kind : place.token.category = categorize place.token.lexeme

/-- Every token stands at such a place. -/
theorem of_mem_placesFrom {front text : Text} {line : Int} {place : Place}
    (finished : Finished front text) (member : place ∈ placesFrom front line text) :
    place.Of (front ++ text) := by
  -- By induction on the lexemes, with the front growing by what is read.
  generalize last : front.getLast? = before
  induction before, line, text using induction_on_lexemes generalizing front with
  | ended => simp [placesFrom] at member
  | lineBreak before line rest ih =>
    rw [placesFrom, if_pos rfl] at member
    rw [← List.singleton_append, ← List.append_assoc]
    exact ih (finished_of_last (by decide) front rest) member List.getLast?_concat
  | space before line c rest unbroken space ih =>
    rw [placesFrom, if_neg unbroken, if_pos space] at member
    rw [← List.singleton_append, ← List.append_assoc]
    exact ih (finished_of_last (outside_of_isSpace space).2.1 front rest) member
      List.getLast?_concat
  | lexeme before line c rest unbroken solid ih =>
    subst last
    rw [placesFrom, if_neg unbroken, if_neg (by simp [solid])] at member
    -- The lexeme is what the text starts with.
    obtain ⟨more, split⟩ := lexemeTail_starts front.getLast? c rest
    have parts : lexemeTail front.getLast? c rest ++
        rest.drop (lexemeTail front.getLast? c rest).length = rest :=
      List.prefix_iff_eq_append.mp ⟨more, split⟩
    -- The token is the lexeme itself, or it comes later, where the front is longer.
    rcases List.mem_cons.mp member with rfl | later
    · exact ⟨by rw [List.cons_append, parts], by rwa [List.cons_append, parts],
        ⟨c, rest, rfl, rfl⟩, rfl⟩
    · have ended : (front ++ c :: lexemeTail front.getLast? c rest).getLast? =
          some ((lexemeTail front.getLast? c rest).getLast?.getD c) := by
        rw [List.getLast?_append, List.getLast?_cons, Option.some_or]
      have here := ih finished.lexeme later ended
      rwa [List.append_assoc, List.cons_append, parts] at here

/-- Only keywords have the category of one. -/
theorem isSome_keyword?_of_isKeyword {lexeme : Text}
    (keyword : (categorize lexeme).isKeyword = true) : (keyword? lexeme).isSome = true := by
  unfold categorize at keyword
  -- What is no keyword by its spelling gets its category from the tests behind.
  split at keyword
  · rename_i found
    rw [found]
    rfl
  · -- No category that is decided after the keywords is one of theirs.
    have operators : ∀ lexeme, (operatorCategory lexeme).isKeyword = false := by
      intro lexeme
      unfold operatorCategory
      repeat' split
      all_goals rfl
    exfalso
    split at keyword
    · rw [operators] at keyword
      cases keyword
    · repeat' split at keyword
      all_goals cases keyword

section Keyword

variable {place : Place} {text : Text}

/-- A keyword is cut out like a name: no part of it is left in front of it or behind it. -/
theorem Place.Of.edges (of : place.Of text) (keyword : place.token.category.isKeyword = true) :
    (∀ c ∈ place.token.lexeme, isNameChar c = true) ∧
      place.front.getLast?.any isNameStart = false ∧ place.back.head?.any isNameChar = false := by
  -- A keyword is spelled like a name, so the name rules apply to it.
  obtain ⟨c, rest, lexeme, back⟩ := of.read
  rw [of.kind] at keyword
  have known := isSome_keyword?_of_isKeyword keyword
  rw [lexeme] at known
  obtain ⟨start, named⟩ := named_of_keyword? known
  have first := isNameChar_of_isNameStart start
  refine ⟨by rw [lexeme]; exact List.forall_mem_cons.mpr ⟨first, named⟩, ?_, ?_⟩
  · -- A letter in front of the keyword would be a name that goes on with it.
    rw [Option.any_eq_false]
    intro d last
    rw [← Bool.not_eq_true]
    intro letter
    obtain ⟨lead, split⟩ := List.getLast?_eq_some_iff.mp last
    have apart := of.finished lead [d] split (by simp [isIdentifier, letter])
    rw [lexeme, List.cons_append, List.head?_cons, Option.any_some, first] at apart
    cases apart
  · -- Behind the keyword the reader has stopped, so no character of a name follows.
    rw [back]
    exact head?_drop_lexemeTail start _ rest

/-- A keyword is a word of its own exactly when the word around it is an ASCII name. -/
theorem Place.Of.isWhole_iff (of : place.Of text)
    (keyword : place.token.category.isKeyword = true) :
    place.IsWhole ↔ isIdentifier place.word = true := by
  obtain ⟨named, -, behind⟩ := of.edges keyword
  obtain ⟨c, rest, lexeme, -⟩ := of.read
  constructor
  · rintro ⟨-, before, after⟩
    -- Nothing is around the keyword, which is spelled like a name.
    have left : place.front.reverse.takeWhile isWord = [] := by
      rw [← List.head?_reverse] at before
      exact takeWhile_append_stop before []
    have right : place.back.takeWhile isWord = [] := takeWhile_append_stop after []
    have known := of.kind ▸ keyword
    have spelled := named_of_keyword? (lexeme ▸ isSome_keyword?_of_isKeyword known)
    rw [Place.word, left, right, lexeme]
    simpa [isIdentifier] using spelled
  · -- An ASCII name holds only name characters, so nothing else is around the keyword.
    intro identifier
    have all := forall_isNameChar_of_isIdentifier identifier
    refine ⟨fun d member => isWord_of_isNameChar (named d member), ?_, ?_⟩
    · rw [← List.head?_reverse]
      cases shown : place.front.reverse with
      | nil => rfl
      | cons d more =>
        by_contra goes
        have word : isWord d = true := by simpa using goes
        -- The word in front of the keyword would be a name that goes on with it.
        have filled : (place.front.reverse.takeWhile isWord).reverse ≠ [] := by
          simp [shown, word]
        have split : place.front = (place.front.reverse.dropWhile isWord).reverse ++
            (place.front.reverse.takeWhile isWord).reverse := by
          rw [← List.reverse_append, List.takeWhile_append_dropWhile, List.reverse_reverse]
        have apart := of.finished _ _ split (isIdentifier_of_append filled identifier)
        rw [lexeme, List.cons_append, List.head?_cons, Option.any_some,
          named c (by simp [lexeme])] at apart
        cases apart
    · rw [Option.any_eq_false]
      intro d first
      rw [← Bool.not_eq_true]
      intro word
      -- The character behind the keyword would be one of the name around it.
      obtain ⟨more, shown⟩ := List.head?_eq_some_iff.mp first
      have inside : d ∈ place.word := by simp [Place.word, shown, word]
      rw [first, Option.any_some, all d inside] at behind
      cases behind

end Keyword

/--
A keyword is cut out at the edges of ASCII names, and it is a whole word exactly in such a name.

No ASCII letter and no underscore stands in front of a keyword, and no character of an ASCII name
stands behind it. What else may stand there is a digit or a letter of another script, and then the
word around the keyword is no ASCII name.
-/
theorem keyword_isWhole_iff (text : Text) :
    (places text).map Place.token = tokenize text ∧
      ∀ place ∈ places text,
        text = place.front ++ (place.token.lexeme ++ place.back) ∧
          (place.token.category.isKeyword = true →
            place.front.getLast?.any isNameStart = false ∧
              place.back.head?.any isNameChar = false ∧
              (place.IsWhole ↔ isIdentifier place.word = true)) := by
  refine ⟨map_token_placesFrom [] 1 text, fun place member => ?_⟩
  -- In front of the text no name is left to be finished.
  have start : Finished [] text := by
    intro lead name split identifier
    obtain ⟨d, more, rfl, -⟩ := exists_of_isIdentifier identifier
    simp at split
  have of : place.Of text := of_mem_placesFrom start member
  -- The places are as said, and the edges of a keyword follow from its place.
  refine ⟨of.whole, fun keyword => ?_⟩
  obtain ⟨-, before, behind⟩ := of.edges keyword
  exact ⟨before, behind, of.isWhole_iff keyword⟩

/-- Between two operators and behind a name with digits, a keyword is a whole word. -/
theorem keyword_isWhole_iff_between :
    let text := "x3=int+2".toList
    let place : Place := ⟨"x3=".toList, ⟨"int".toList, 1, .declaration⟩, "+2".toList⟩
    place ∈ places text ∧ place.token.category.isKeyword = true ∧ place.IsWhole := by
  -- The place is one of those that are read, and all that is asked of it can be evaluated.
  intro text place
  have member : place ∈ places text := by decide +kernel
  have keyword : place.token.category.isKeyword = true := by decide
  have whole := ((keyword_isWhole_iff text).2 place member).2 keyword
  exact ⟨member, keyword, whole.2.2.mpr (by decide +kernel)⟩

/-- A keyword that is cut out behind a digit is a part of a longer word. -/
theorem keyword_behind_digit :
    let place : Place := ⟨"3".toList, ⟨"int".toList, 1, .declaration⟩, []⟩
    place ∈ places "3int".toList ∧ place.token ∈ tokenize "3int".toList ∧
      place.token.category.isKeyword = true ∧ isWord '3' = true ∧ ¬ place.IsWhole := by
  decide +kernel

end Token

end SourceLint
