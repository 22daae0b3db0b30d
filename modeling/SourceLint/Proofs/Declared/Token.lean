import SourceLint.Proofs.Declared.Place
import SourceLint.Proofs.Growth.Program
import SourceLint.Proofs.Lexeme
import SourceLint.Proofs.Tokens

/-!
The tokens of declared names.

Tokens and declarations end a literal at different places: a declaration passes over an escaped
delimiter, a token does not. Where the two agree on a line, every name that the line declares is one
of its tokens. Where they do not, a string literal may swallow the name.
-/

namespace SourceLint

open Text

namespace Text

/-- Nothing of a literal shows while its delimiter is missing. -/
theorem maskFrom_unended (fill : Char) {quote : Char} (opens : isQuote quote = true)
    {content : Text} (absent : quote ∉ content) :
    ∀ c ∈ maskFrom [fill] (some quote) content, c = fill := by
  -- The literal is delimited by a quote, so it can be read step by step.
  have quoted : Quoted (some quote) := by
    rintro other ⟨⟩
    exact opens
  generalize inside : some quote = literal at quoted ⊢
  -- The literal never ends, so each step replaces what it takes.
  induction masking quoted content with
  | ended => simp [maskFrom]
  | outside => cases inside
  | escape hidden _ ih =>
    cases inside
    rw [maskFrom_escape]
    simpa using ih (by simp_all) rfl quoted
  | delimiter =>
    -- The delimiter is not there.
    cases inside
    simp at absent
  | content other last _ ih =>
    cases inside
    rw [maskFrom_content _ other last]
    simpa using ih (by simp_all) rfl quoted

/-- A literal without its second delimiter is open at the end of the text. -/
theorem not_closed_of_unended {quote : Char} (opens : isQuote quote = true) {content : Text}
    (absent : quote ∉ content) : ¬ Closed (quote :: content) := by
  intro closed
  have other : quote ≠ 'a' := ne_of_class opens (by decide)
  -- A letter behind the text would show, but it is inside the literal.
  have shown : maskWith ['s'] (quote :: (content ++ ['a'])) =
      maskWith ['s'] (quote :: content) ++ ['a'] := closed 's' ['a']
  unfold maskWith at shown
  -- The first quote opens the literal, so the letter is masked inside of it.
  rw [maskFrom_outside, maskFrom_outside, if_pos opens, List.cons_append] at shown
  have letter : 'a' ∈ maskFrom ['s'] (some quote) (content ++ ['a']) := by
    rw [List.tail_eq_of_cons_eq shown]
    simp
  have filled := maskFrom_unended 's' opens (by simp [absent, other]) 'a' letter
  exact absurd filled (by decide)

/-- What is left of a closed text behind a closed front is closed. -/
theorem Closed.of_append {first second : Text} (whole : Closed (first ++ second))
    (left : Closed first) : Closed second := by
  intro fill rest
  -- Both views start with the view of the front.
  have split := whole fill rest
  rw [List.append_assoc, left fill (second ++ rest), left fill second, List.append_assoc] at split
  exact List.append_cancel_left split

end Text

namespace Token

/-- A token that starts in the front of a text and goes on behind it, with the tokens before it. -/
structure Crosses (front rest : Text) (earlier : List Token) (token : Token)
    (inner outer : Text) : Prop where
  lexeme : token.lexeme = inner ++ outer
  started : inner ≠ []
  continued : outer ≠ []
  ahead : outer <+: rest
  /-- Only the tokens before it can leave a literal open where it starts. -/
  covered : ∃ lead, front = lead ++ inner ∧ ((∀ other ∈ earlier, Closed other.lexeme) → Closed lead)

/-- A longer front is covered by more tokens. -/
theorem Crosses.behind {front rest inner outer more : Text} {earlier tokens : List Token}
    {token : Token} (crosses : Crosses front rest earlier token inner outer)
    (closed : (∀ other ∈ tokens, Closed other.lexeme) → Closed more) :
    Crosses (more ++ front) rest (tokens ++ earlier) token inner outer := by
  -- What is added in front is covered by the tokens that are added.
  obtain ⟨lead, whole, left⟩ := crosses.covered
  refine { crosses with covered := ⟨more ++ lead, by rw [whole, List.append_assoc], ?_⟩ }
  intro all
  exact (closed fun other member => all other (by simp [member])).append
    (left fun other member => all other (by simp [member]))

/-- A lexeme that starts in front of a text ends in the front, or it takes all of it and more. -/
theorem lexemeTail_seam (before : Option Char) (c : Char) (front rest : Text) :
    (∃ left, front = lexemeTail before c (front ++ rest) ++ left) ∨
      ∃ outer, outer ≠ [] ∧ lexemeTail before c (front ++ rest) = front ++ outer ∧
        outer <+: rest := by
  -- The lexeme and the front both start the same text, so one of them starts the other.
  obtain ⟨more, split⟩ := lexemeTail_starts before c (front ++ rest)
  rcases List.append_eq_append_iff.mp split with ⟨left, short, -⟩ | ⟨outer, long, ahead⟩
  · exact .inl ⟨left, short⟩
  · by_cases nothing : outer = []
    · exact .inl ⟨[], by rw [long, nothing]; simp⟩
    · exact .inr ⟨outer, nothing, long, more, ahead.symm⟩

/-- How the tokens of a text meet the end of its front. -/
inductive Seam (before : Option Char) (line : Int) (front rest : Text) : List Token → Prop
  /-- What follows the front is read on its own. -/
  | reached (earlier : List Token) : Seam before line front rest
      (earlier ++ tokenizeFrom (front.getLast?.or before) line rest)
  /-- A token goes on from the front into what follows it. -/
  | crossed {earlier : List Token} {token : Token} {inner outer : Text}
      (crosses : Crosses front rest earlier token inner outer) (later : List Token) :
      Seam before line front rest (earlier ++ token :: later)

/-- More text in front, with its tokens, does not matter. -/
theorem Seam.behind {before : Option Char} {line : Int} {more front rest : Text}
    {tokens first : List Token} (seam : Seam (more.getLast?.or before) line front rest tokens)
    (closed : (∀ other ∈ first, Closed other.lexeme) → Closed more) :
    Seam before line (more ++ front) rest (first ++ tokens) := by
  cases seam with
  | reached earlier =>
    -- The last character in front of the rest is one of the front or of what is added to it.
    rw [← Option.or_assoc, ← List.getLast?_append, ← List.append_assoc]
    exact .reached (first ++ earlier)
  | crossed crosses later =>
    rw [← List.append_assoc]
    exact .crossed (crosses.behind closed) later

/-- A text is read up to the end of its front, or a token crosses the end of the front. -/
theorem seam_tokenizeFrom {front : Text} (unbroken : '\n' ∉ front) (before : Option Char)
    (line : Int) (rest : Text) :
    Seam before line front rest (tokenizeFrom before line (front ++ rest)) := by
  match front, unbroken with
  | [], _ => exact .reached []
  | c :: front, unbroken =>
    -- By recursion on the front, of which each step takes white space or a lexeme.
    rw [List.mem_cons, not_or] at unbroken
    rw [List.cons_append, tokenizeFrom, if_neg (Ne.symm unbroken.1)]
    split
    · rename_i space
      have closed : Closed [c] := closed_of_plain (by simpa using isQuote_of_isSpace space)
      -- White space is passed over.
      have later := seam_tokenizeFrom unbroken.2 (some c) line rest
      exact @Seam.behind before line [c] front rest _ [] later fun _ => closed
    · dsimp only
      have ends := lexemeTail_seam before c front rest
      generalize lexemeTail before c (front ++ rest) = tail at ends ⊢
      rcases ends with ⟨left, short⟩ | ⟨outer, continued, rfl, ahead⟩
      · -- The lexeme ends in the front, of which less is left.
        have fewer : left.length < front.length + 1 := by
          rw [short, List.length_append]
          omega
        have unbrokenLeft : '\n' ∉ left := fun member => unbroken.2 (by simp [short, member])
        have last : (c :: tail).getLast?.or before = some (tail.getLast?.getD c) := by
          rw [List.getLast?_cons, Option.some_or]
        have later := seam_tokenizeFrom unbrokenLeft (some (tail.getLast?.getD c)) line rest
        rw [← last] at later
        rw [short, List.append_assoc, List.drop_left, ← last]
        exact @Seam.behind before line (c :: tail) left rest _ [_] later fun all =>
          all _ List.mem_cons_self
      · -- Nothing comes before the lexeme that crosses, so nothing is open where it starts.
        have crosses : ∀ kind, Crosses (c :: front) rest [] ⟨c :: (front ++ outer), line, kind⟩
            (c :: front) outer := fun kind =>
          ⟨rfl, by simp, continued, ahead, [], rfl, fun _ => closed_of_plain (by simp)⟩
        exact .crossed (crosses _) _
termination_by front.length
decreasing_by
  · exact fewer
  · exact Nat.lt_succ_self _

/-- What separates a declared name from what comes before it is in no lexeme, literals aside. -/
theorem outside_of_isGap {c : Char} (gap : Declaration.isGap c = true) :
    isNameChar c = false ∧ isDecimal c = false ∧ isOperatorChar c = false ∧ isQuote c = false ∧
      c ≠ '.' ∧ isForeign c = false := by
  -- The gap is white space or a comma.
  unfold Declaration.isGap at gap
  rcases Bool.or_eq_true_iff.mp gap with space | comma
  · exact (outside_of_isSpace space).2
  · rw [beq_iff_eq.mp comma]
    decide

/-- Only a string literal goes on from white space or a comma to a name. -/
theorem Lexeme.exists_content {inner outer : Text} (lexeme : Lexeme (inner ++ outer))
    {gap c : Char} (ends : inner.getLast? = some gap) (apart : Declaration.isGap gap = true)
    (starts : outer.head? = some c) (named : isNameStart c = true) :
    ∃ content, inner ++ outer = doubleQuote :: (content ++ [doubleQuote]) ∧
      ∀ d ∈ content, d ≠ doubleQuote ∧ d ≠ '\n' := by
  obtain ⟨front, rfl⟩ := List.getLast?_eq_some_iff.mp ends
  obtain ⟨back, rfl⟩ := List.head?_eq_some_iff.mp starts
  -- White space and commas are in no other lexeme, unless they are alone.
  obtain ⟨unnamed, undigital, inoperative, unquoted, pointless, known⟩ := outside_of_isGap apart
  have member : gap ∈ front ++ [gap] ++ c :: back := by simp
  generalize whole : front ++ [gap] ++ c :: back = text at lexeme member
  cases lexeme with
  | stringLiteral inner => exact ⟨_, rfl, inner⟩
  -- A name, a number and an operator have no gap among their characters.
  | word start names =>
    rcases List.mem_cons.mp member with rfl | later
    · simp [isNameChar_of_isNameStart start] at unnamed
    · simp [names gap later] at unnamed
  | operator start more short =>
    rcases List.mem_cons.mp member with rfl | later
    · simp [start] at inoperative
    · simp [more gap later] at inoperative
  | number start digits point =>
    simp only [List.mem_cons, List.mem_append] at member
    rcases member with rfl | before | after
    · simp [start] at undigital
    · simp [digits gap before] at undigital
    · rcases point with rfl | ⟨places, -, decimals, rfl⟩
      · cases after
      · rcases List.mem_cons.mp after with dot | place
        · exact absurd dot pointless
        · simp [decimals gap place] at undigital
  | charLiteral inner unbroken =>
    -- The character between the quotes is not followed by a name.
    rcases front with _ | ⟨first, _ | ⟨second, front⟩⟩
    · obtain ⟨rfl, -⟩ := List.cons_eq_cons.mp whole
      exact absurd unquoted (by decide)
    · obtain ⟨-, -, rfl, -⟩ : first = _ ∧ gap = _ ∧ c = singleQuote ∧ back = [] := by
        simpa using whole
      exact absurd named (by decide)
    · have short := congrArg List.length whole
      simp only [List.length_append, List.length_cons, List.length_nil] at short
      omega
  | foreign start undigital more =>
    rcases List.mem_cons.mp member with rfl | later
    · simp [start] at known
    · simp [more gap later] at known
  | single d =>
    -- A separator is a single character, and there are two.
    have short := congrArg List.length whole
    simp only [List.length_append, List.length_cons, List.length_nil] at short
    omega

/-- Only a string literal crosses the seam between a gap and a name. -/
theorem Crosses.exists_content {front name back inner outer : Text} {earlier : List Token}
    {token : Token} (crosses : Crosses front (name ++ back) earlier token inner outer)
    (read : token.Read) (apart : front.getLast?.any Declaration.isGap = true)
    (identifier : isIdentifier name = true) :
    ∃ content, inner ++ outer = doubleQuote :: (content ++ [doubleQuote]) ∧
      ∀ d ∈ content, d ≠ doubleQuote ∧ d ≠ '\n' := by
  -- The token was read as a lexeme, so its shape is known.
  obtain ⟨lead, whole, -⟩ := crosses.covered
  obtain ⟨first, tail, parts, -, lexeme⟩ := read.shape
  rw [← parts, crosses.lexeme] at lexeme
  -- The token holds the end of the front and the start of the name.
  have ends : inner.getLast? = some (inner.getLast crosses.started) :=
    List.getLast?_eq_some_getLast crosses.started
  rw [whole, List.getLast?_append, ends] at apart
  obtain ⟨c, more, rfl, start, -⟩ := exists_of_isIdentifier identifier
  -- What goes on behind the front starts like the name.
  obtain ⟨d, others, rfl⟩ := List.exists_cons_of_ne_nil crosses.continued
  have same : d = c := (List.cons_prefix_cons.mp crosses.ahead).1
  exact lexeme.exists_content ends apart (congrArg some same) start

/-- A string literal that crosses the seam in front of a name holds all of the name. -/
theorem Crosses.starts_of_quoted {front name back inner outer content : Text}
    {earlier : List Token} {token : Token}
    (crosses : Crosses front (name ++ back) earlier token inner outer)
    (identifier : isIdentifier name = true)
    (quoted : inner ++ outer = doubleQuote :: (content ++ [doubleQuote])) : name <+: outer := by
  -- The literal goes on behind the seam as the name does, so it holds the name or ends in it.
  rcases List.prefix_or_prefix_of_prefix (List.prefix_append name back) crosses.ahead with
    whole | short
  · exact whole
  · -- The literal ends with a quote, and the name holds none.
    have last : outer.getLast? = some doubleQuote := by
      rw [← List.getLast?_append_of_ne_nil inner crosses.continued, quoted, ← List.cons_append,
        List.getLast?_concat]
    have member : doubleQuote ∈ name := short.subset (List.mem_of_getLast? last)
    obtain ⟨c, tail, rfl, start, named⟩ := exists_of_isIdentifier identifier
    rcases List.mem_cons.mp member with rfl | later
    · exact absurd start (by decide)
    · exact absurd (named _ later) (by decide)

/-- A string literal that crosses the end of a closed front starts behind an open literal. -/
theorem Crosses.exists_not_closed {front rest inner outer content : Text} {earlier : List Token}
    {token : Token} (crosses : Crosses front rest earlier token inner outer)
    (closed : Closed front) (shape : inner ++ outer = doubleQuote :: (content ++ [doubleQuote]))
    (plain : ∀ d ∈ content, d ≠ doubleQuote ∧ d ≠ '\n') :
    ∃ other ∈ earlier, ¬ Closed other.lexeme := by
  by_contra none
  simp only [not_exists, not_and, not_not] at none
  obtain ⟨lead, whole, covered⟩ := crosses.covered
  -- The part of the literal that stands in the front would be closed.
  have part : Closed inner := (whole ▸ closed).of_append (covered none)
  obtain ⟨c, opened, rfl⟩ := List.exists_cons_of_ne_nil crosses.started
  rw [List.cons_append, List.cons_eq_cons] at shape
  obtain ⟨rfl, split⟩ := shape
  -- The front has the opening quote and a part of the content, but not the closing quote.
  have front : opened <+: content := by
    refine List.prefix_of_prefix_length_le ⟨outer, split⟩ ⟨[doubleQuote], rfl⟩ ?_
    have lengths := congrArg List.length split
    have more := List.length_pos_of_ne_nil crosses.continued
    simp only [List.length_append, List.length_singleton] at lengths
    omega
  have absent : doubleQuote ∉ opened := fun member => (plain _ (front.subset member)).1 rfl
  exact not_closed_of_unended (by decide) absent part

/-- A keyword is a reserved word. -/
theorem keyword?_of_unreserved {name : Text} (unreserved : Vocabulary.isReserved name = false) :
    keyword? name = none := by
  -- The list of keywords is short enough to be looked through.
  have listed : (keywords.all fun entry => Vocabulary.isReserved entry.1) = true := by
    decide +kernel
  -- A keyword would be one of those that are listed, and these are reserved.
  rw [← Option.not_isSome_iff_eq_none]
  intro known
  obtain ⟨category, found⟩ := Option.isSome_iff_exists.mp known
  obtain ⟨front, back, split, -⟩ := List.lookup_eq_some_iff.mp found
  have reserved := List.all_eq_true.mp listed (name, category) (by simp [split])
  rw [unreserved] at reserved
  cases reserved

/-- A lexeme that starts like a string or a name is no operator, number or character literal. -/
theorem categorize_of_start {c : Char} {tail : Text} (unknown : keyword? (c :: tail) = none)
    (inoperative : isOperatorChar c = false) (undigital : isDecimal c = false)
    (unquoted : c ≠ singleQuote) :
    (isStringLiteral (c :: tail) = true → categorize (c :: tail) = .stringLiteral) ∧
      (isStringLiteral (c :: tail) = false → isIdentifier (c :: tail) = true →
        categorize (c :: tail) = .identifier) := by
  -- The first character decides against every kind that is tried before these two.
  have cluster : isOperatorCluster (c :: tail) = false := by simp [isOperatorCluster, inoperative]
  have number : isNumber (c :: tail) = false := by simp [isNumber, number?, undigital]
  have character : isCharLiteral (c :: tail) = false := by
    unfold isCharLiteral
    split
    · rename_i same
      rw [← (List.cons_eq_cons.mp same).1, beq_false_of_ne unquoted]
      rfl
    · rfl
  -- The two kinds are tried one after the other.
  constructor
  · intro string
    simp [categorize, unknown, cluster, number, character, string]
  · intro string identifier
    simp [categorize, unknown, cluster, number, character, string, identifier]

/-- A name that is no keyword is an identifier. -/
theorem categorize_of_isIdentifier {name : Text} (identifier : isIdentifier name = true)
    (unreserved : Vocabulary.isReserved name = false) : categorize name = .identifier := by
  -- A name starts with a letter, which starts no string.
  obtain ⟨c, tail, rfl, start, -⟩ := exists_of_isIdentifier identifier
  obtain ⟨inoperative, undigital, unquoted, unstrung⟩ := outside_of_isNameStart start
  have string : isStringLiteral (c :: tail) = false := by simp [isStringLiteral, unstrung]
  exact (categorize_of_start (keyword?_of_unreserved unreserved) inoperative undigital unquoted).2
    string identifier

/-- What stands between double quotes is a string literal. -/
theorem categorize_quoted {content : Text} (plain : ∀ c ∈ content, c ≠ doubleQuote ∧ c ≠ '\n') :
    categorize (doubleQuote :: (content ++ [doubleQuote])) = .stringLiteral := by
  -- No keyword starts with a quote.
  have unknown : keyword? (doubleQuote :: (content ++ [doubleQuote])) = none := by
    rw [← Option.not_isSome_iff_eq_none]
    intro known
    exact absurd (named_of_keyword? known).1 (by decide)
  have string : isStringLiteral (doubleQuote :: (content ++ [doubleQuote])) = true := by
    simpa [isStringLiteral] using plain
  exact (categorize_of_start unknown (by decide) (by decide) (by decide)).1 string

/-- A declared name at the front of a text is its first token. -/
theorem exists_tokenizeFrom_name {name back : Text} (identifier : isIdentifier name = true)
    (unreserved : Vocabulary.isReserved name = false) (stops : back.head?.any isWord = false)
    (before : Option Char) (line : Int) :
    ∃ later, tokenizeFrom before line (name ++ back) = ⟨name, line, .identifier⟩ :: later := by
  -- The name starts with a character that starts nothing else.
  have kind := categorize_of_isIdentifier identifier unreserved
  have unknown := keyword?_of_unreserved unreserved
  obtain ⟨c, tail, rfl, start, named⟩ := exists_of_isIdentifier identifier
  obtain ⟨inoperative, undigital, unquoted, unstrung⟩ := outside_of_isNameStart start
  have solid : isSpace c = false := isSpace_of_isNameChar (isNameChar_of_isNameStart start)
  have unbroken : c ≠ '\n' := (ne_of_class (by decide) solid).symm
  have unnamed : back.head?.any isNameChar = false := by
    rw [Option.any_eq_false] at stops ⊢
    intro d first
    rw [← Bool.not_eq_true]
    intro name
    have stop := stops d first
    rw [isWord_of_isNameChar name] at stop
    cases stop
  -- The word ends with the name, and it is no keyword.
  have words : (tail ++ back).takeWhile isWord = tail := by
    rw [takeWhile_append_stop stops]
    exact List.takeWhile_eq_self_iff.mpr fun d member => isWord_of_isNameChar (named d member)
  have names : (tail ++ back).takeWhile isNameChar = tail := by
    rw [takeWhile_append_stop unnamed]
    exact List.takeWhile_eq_self_iff.mpr named
  have taken : lexemeTail before c (tail ++ back) = tail := by
    have common : startsKeyword before c (tail ++ back) = false := by
      simp [startsKeyword, words, unknown]
    simp [lexemeTail, common, inoperative, undigital, unquoted, unstrung, start, names]
  -- So the lexeme is the name, and its spelling says that it is an identifier.
  rw [List.cons_append, tokenizeFrom_lexeme _ _ unbroken solid, taken, kind]
  exact ⟨_, rfl⟩

/--
A name inside a string literal of its line.

The literal is cut out behind a token that ends inside a literal, where no token should end.
-/
def Swallowed (tokens : List Token) (line : Int) (name : Text) : Prop :=
  ∃ earlier literal later, tokens = earlier ++ literal :: later ∧
    literal.category = .stringLiteral ∧ literal.line = line ∧ name <:+: literal.lexeme ∧
    ∃ token ∈ earlier, token.line = line ∧ ¬ Closed token.lexeme

/-- More tokens on either side do not matter. -/
theorem Swallowed.between {tokens : List Token} {line : Int} {name : Text}
    (swallowed : Swallowed tokens line name) (front back : List Token) :
    Swallowed (front ++ (tokens ++ back)) line name := by
  -- The literal and the token in front of it stand between the same neighbours.
  obtain ⟨earlier, literal, later, rfl, kind, here, inside, token, before, unclosed⟩ := swallowed
  exact ⟨front ++ earlier, literal, later ++ back, by simp, kind, here, inside, token,
    by simp [before], unclosed⟩

/-- A declared name is read as a token of its line, or a string literal swallows it. -/
theorem read_or_swallowed {line front name : Text} (unbroken : '\n' ∉ line)
    (stands : Stands line front name) (apart : front.getLast?.any Declaration.isGap = true)
    (identifier : isIdentifier name = true) (unreserved : Vocabulary.isReserved name = false)
    (number : Int) :
    ⟨name, number, .identifier⟩ ∈ tokenizeFrom none number line ∨
      Swallowed (tokenizeFrom none number line) number name := by
  obtain ⟨back, rfl, stops⟩ := stands.placed
  have frontUnbroken : '\n' ∉ front := fun member => unbroken (by simp [member])
  -- The name stands behind the front, at which the line is cut.
  have seam := seam_tokenizeFrom frontUnbroken none number (name ++ back)
  have numbered : ∀ token ∈ tokenizeFrom none number (front ++ (name ++ back)),
      token.line = number := by
    rw [tokenizeFrom_line unbroken]
    simp
  have shapes : ∀ token ∈ tokenizeFrom none number (front ++ (name ++ back)), token.Read :=
    fun token member => read_of_mem_tokenizeFrom member
  generalize tokenizeFrom none number (front ++ (name ++ back)) = tokens at *
  cases seam with
  | reached earlier =>
    -- The name is read from its first character on.
    obtain ⟨others, first⟩ := exists_tokenizeFrom_name identifier unreserved stops
      (front.getLast?.or none) number
    rw [first]
    exact .inl (by simp)
  | @crossed earlier token inner outer crosses later =>
    -- Only a string literal can cross here, and it does so out of step with the masked view.
    right
    have read : token.Read := shapes token (by simp)
    obtain ⟨content, quoted, plain⟩ := crosses.exists_content read apart identifier
    obtain ⟨other, before, unclosed⟩ := crosses.exists_not_closed stands.closed quoted plain
    refine ⟨earlier, token, later, rfl, ?_, numbered token (by simp), ?_, other, before,
      numbered other (by simp [before]), unclosed⟩
    · rw [read.kind, crosses.lexeme, quoted, categorize_quoted plain]
    · obtain ⟨tail, rfl⟩ := crosses.starts_of_quoted identifier quoted
      exact ⟨inner, tail, by rw [crosses.lexeme, List.append_assoc]⟩

end Token

namespace Analysis

/--
A variable of a run is among the tokens of its line, unless a string literal swallows its name.

That happens only behind a token that ends inside a literal, as one that ends with an escaped
delimiter does. Where every token of the line closes what it opens, the two reports agree.
-/
theorem identifier_or_swallowed (config : Config) (source : Text) {symbol : Symbol}
    (listed : symbol ∈ (analyze config source).symbols.globals) :
    ⟨symbol.name, symbol.line, .identifier⟩ ∈ (analyze config source).tokens ∨
      Token.Swallowed (analyze config source).tokens symbol.line symbol.name := by
  -- Only a run to the end lists variables.
  cases closed : (Comment.strip source).unclosed with
  | some start =>
    -- A run that ends early reports no variables.
    rw [analyze_of_unclosed config closed] at listed
    cases listed
  | none =>
    rw [symbols_analyze config closed, Validator.validate_globals] at listed
    obtain ⟨line, member, declared⟩ := Validator.exists_declaredOn_of_mem_validate listed
    obtain ⟨front, stands, apart⟩ := Declaration.stands_of_mem_namesOn declared.listed
    have here := Token.read_or_swallowed (Token.of_mem_prepareLines member).1 stands apart
      declared.identifier declared.unreserved line.number
    -- The tokens of the line stand between those of the other lines.
    obtain ⟨before, after, split⟩ := List.append_of_mem member
    have tokens : (analyze config source).tokens =
        (prepareLines (Comment.strip source).text 1).flatMap fun line =>
          Token.tokenizeFrom none line.number line.text := by
      rw [analyze_of_closed config closed]
      exact Token.tokenized.read_eq_flatMap _ 1
    -- The line of the declaration is one of the lines that are read.
    rw [tokens, declared.line, split, List.flatMap_append, List.flatMap_cons]
    rcases here with read | swallowed
    · exact .inl (by simp [read])
    · exact .inr (swallowed.between _ _)

/-- Of two strings on one line, the second is a token behind a first one without escapes. -/
theorem identifier_or_swallowed_unescaped :
    let source := "string s = \x22a\x22, x = \x22\x22;".toList
    let symbol : Symbol := ⟨"x".toList, .known .string, true, 1⟩
    symbol ∈ (analyze {} source).symbols.globals ∧
      (⟨symbol.name, symbol.line, .identifier⟩ ∈ (analyze {} source).tokens ∨
        Token.Swallowed (analyze {} source).tokens symbol.line symbol.name) := by
  -- The variable is declared, so the theorem says where its name is.
  intro source symbol
  have listed : symbol ∈ (analyze {} source).symbols.globals := by decide +kernel
  exact ⟨listed, identifier_or_swallowed {} source listed⟩

/-- Behind an escaped delimiter the second one is declared, but it is no token. -/
theorem declared_without_token :
    let source := "string s = \x22\x5c\x22\x22, x = \x22\x22;".toList
    (analyze {} source).aborted = false ∧
      ⟨"x".toList, .known .string, true, 1⟩ ∈ (analyze {} source).symbols.globals ∧
      ∀ token ∈ (analyze {} source).tokens, token.lexeme ≠ "x".toList := by
  -- All three are computed.
  intro source
  exact ⟨by decide +kernel, by decide +kernel, by decide +kernel⟩

end Analysis

end SourceLint
