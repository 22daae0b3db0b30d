import SourceLint.Proofs.StraightLine.Definition
import SourceLint.Rule.StringArithmetic

/-! Definitions hold no arithmetic: a sign in a number stands between no two operands. -/

namespace SourceLint

open Text StringArithmetic

/-- The pairs of operands in a text that continues `before`. -/
def pairsFrom (before text : Text) : List Pair :=
  (positionsFrom before text).filterMap pairAt?

/-- Characters between two operands. -/
def isPairOperator (c : Char) : Bool :=
  "+-*/".toList.contains c

/-- A place where no pair starts is passed over. -/
theorem pairsFrom_cons {before : Text} {c : Char} {rest : Text}
    (nothing : pairAt? ⟨before, c :: rest⟩ = none) :
    pairsFrom before (c :: rest) = pairsFrom (c :: before) rest := by
  -- The position is tested and dropped.
  rw [pairsFrom, positionsFrom, List.filterMap_cons_none nothing]
  rfl

/-- No pair starts at a character that starts no operand. -/
theorem pairAt?_gap (before : Text) {c : Char} (unnamed : isNameStart c = false)
    (undigital : isDecimal c = false) (rest : Text) : pairAt? ⟨before, c :: rest⟩ = none := by
  simp [pairAt?, operand?, name?, number?, unnamed, undigital]

/-- No pair starts at an operand with no operator behind it. -/
theorem pairAt?_operand (before : Text) {text left rest : Text}
    (read : operand? text = some (left, rest))
    (unpaired : (skipSpace rest).head?.any isPairOperator = false) :
    pairAt? ⟨before, text⟩ = none := by
  -- Behind the first operand an operator is needed before anything else is read.
  simp only [pairAt?, read, Option.bind_some]
  split
  · rfl
  · split
    · rename_i operator tail shown
      rw [shown] at unpaired
      have other : "+-*/".toList.contains operator = false := unpaired
      rw [if_neg (by simpa using other)]
    · rfl

/-- A run of operand characters starts a pair at its front at most. -/
theorem pairsFrom_block {before block rest : Text} (some : block ≠ [])
    (inside : ∀ c ∈ block, extendsOperand c = true) :
    pairsFrom before (block ++ rest) =
      (pairAt? ⟨before, block ++ rest⟩).toList ++ pairsFrom (block.reverse ++ before) rest := by
  obtain ⟨c, more, rfl⟩ := List.exists_cons_of_ne_nil some
  -- A place right behind an operand character continues an operand and starts none.
  have silent : ∀ place : Position, place.follows extendsOperand = true →
      pairAt? place = none := fun place follows => by simp [pairAt?, follows]
  have within : (c :: before).head?.any extendsOperand = true := by
    simpa using inside c (by simp)
  have others := filterMap_positionsFrom_run silent within
    (List.forall_mem_cons.mp inside).2 rest
  rw [pairsFrom, List.cons_append, positionsFrom, List.filterMap_cons, others, pairsFrom]
  -- What stands at the front is a pair or none.
  cases pairAt? ⟨before, c :: (more ++ rest)⟩ <;> simp

/-- A text without operands has no pairs. -/
theorem pairsFrom_gaps {text : Text}
    (gaps : ∀ c ∈ text, isNameStart c = false ∧ isDecimal c = false) (before : Text) :
    pairsFrom before text = [] := by
  induction text generalizing before with
  | nil => simp [pairsFrom, positionsFrom, pairAt?, operand?, name?, number?]
  | cons c rest ih =>
    obtain ⟨unnamed, undigital⟩ := gaps c (by simp)
    -- A pair starts with an operand.
    rw [pairsFrom_cons (pairAt?_gap before unnamed undigital rest)]
    exact ih (fun d member => gaps d (by simp [member])) _

/-- A name is read as an operand to its end. -/
theorem operand?_name {word : Text} (start : word.head?.any isNameStart = true)
    (run : ∀ c ∈ word, isNameChar c = true) {rest : Text} (stops : rest.head?.any isWord = false) :
    operand? (word ++ rest) = some (word, rest) := by
  -- The name has a first character, which starts it.
  obtain ⟨c, more, rfl⟩ : ∃ c more, word = c :: more := List.exists_cons_of_ne_nil <| by
    rintro rfl
    simp at start
  have words : ∀ d ∈ more, isWord d = true := fun d member =>
    isWord_of_isNameChar (run d (by simp [member]))
  have first : isNameStart c = true := by simpa using start
  -- The name is the whole operand, since the character behind it is no word character.
  have taken : more.takeWhile isWord = more := List.takeWhile_eq_self_iff.mpr words
  have left : more.dropWhile isWord = [] := List.dropWhile_eq_nil_iff.mpr words
  simp [operand?, name?, first, takeWhile_append_stop stops, dropWhile_append_stop stops, taken,
    left]

/-- A number is read as an operand to the end of its fraction. -/
theorem operand?_number {digits fraction rest : Text} (number : IsDigits digits)
    (fractional : IsFraction fraction) (stops : rest.head?.any isDecimal = false)
    (pointless : rest.head? ≠ some '.') :
    operand? (digits ++ (fraction ++ rest)) = some (digits ++ fraction, rest) := by
  obtain ⟨c, more, rfl⟩ := List.exists_cons_of_ne_nil number.1
  -- A digit starts no name.
  have unnamed : isNameStart c = false := isNameStart_of_isDigit (number.2 c (by simp))
  rw [operand?, number?_append number fractional stops pointless]
  simp [name?, unnamed]

/-- The characters of a name belong to one operand. -/
theorem extendsOperand_of_isNameChar {c : Char} (named : isNameChar c = true) :
    extendsOperand c = true := by
  rw [extendsOperand, isWord_of_isNameChar named, Bool.true_or]

/-- The digits of a number and its point belong to one operand. -/
theorem extendsOperand_of_mem_number {digits fraction : Text} (number : IsDigits digits)
    (fractional : IsFraction fraction) : ∀ c ∈ digits ++ fraction, extendsOperand c = true := by
  -- A digit may stand in a name, and such a character extends an operand.
  have digital : ∀ {digits : Text}, IsDigits digits → ∀ c ∈ digits, extendsOperand c = true :=
    fun number c member => extendsOperand_of_isNameChar (isNameChar_of_isDigit (number.2 c member))
  refine List.forall_mem_append.mpr ⟨digital number, ?_⟩
  rcases fractional with rfl | ⟨places, parts, rfl⟩
  · exact List.forall_mem_nil _
  · exact List.forall_mem_cons.mpr ⟨rfl, digital parts⟩

/-- A word that no operator follows starts no pair. -/
theorem pairsFrom_word {word : Text} (start : word.head?.any isNameStart = true)
    (run : ∀ c ∈ word, isNameChar c = true) {rest : Text} (stops : rest.head?.any isWord = false)
    (unpaired : (skipSpace rest).head?.any isPairOperator = false) (before : Text) :
    pairsFrom before (word ++ rest) = pairsFrom (word.reverse ++ before) rest := by
  have some : word ≠ [] := by
    rintro rfl
    simp at start
  -- A pair would start with the whole word, since no operand starts inside of it.
  rw [pairsFrom_block some fun c member => extendsOperand_of_isNameChar (run c member),
    pairAt?_operand before (operand?_name start run stops) unpaired]
  rfl

/-- A number, with the letters right behind it, starts no pair when no operator follows it. -/
theorem pairsFrom_digits {digits fraction tail rest : Text} (number : IsDigits digits)
    (fractional : IsFraction fraction) (letters : ∀ c ∈ tail, isWord c = true)
    (stops : (tail ++ rest).head?.any isDecimal = false)
    (pointless : (tail ++ rest).head? ≠ some '.')
    (unpaired : (skipSpace (tail ++ rest)).head?.any isPairOperator = false) (before : Text) :
    pairsFrom before (digits ++ (fraction ++ (tail ++ rest))) =
      pairsFrom ((digits ++ (fraction ++ tail)).reverse ++ before) rest := by
  -- The digits, the point and the letters all belong to one run of operand characters.
  have inside : ∀ c ∈ digits ++ (fraction ++ tail), extendsOperand c = true := by
    rw [← List.append_assoc]
    refine List.forall_mem_append.mpr ⟨extendsOperand_of_mem_number number fractional, ?_⟩
    intro c member
    rw [extendsOperand, letters c member, Bool.true_or]
  -- The operand ends with the digits, and no operator follows it.
  have nothing :=
    pairAt?_operand before (operand?_number number fractional stops pointless) unpaired
  have split : digits ++ (fraction ++ (tail ++ rest)) = (digits ++ (fraction ++ tail)) ++ rest := by
    simp
  rw [split] at nothing ⊢
  rw [pairsFrom_block (by simp [number.1]) inside, nothing]
  rfl

section Numeral

variable {digits fraction suffix : Text} (number : IsDigits digits)
  (fractional : IsFraction fraction)

include number fractional

/-- A number with a letter right behind it starts no pair: it ends at the letter. -/
theorem pairsFrom_lettered {mark : Char} (listed : mark ∈ ['l', 'L', 'f', 'F', 'e', 'E'])
    {tail : Text} (letters : ∀ c ∈ tail, isWord c = true) (rest before : Text) :
    pairsFrom before (digits ++ (fraction ++ (mark :: tail ++ rest))) =
      pairsFrom ((digits ++ (fraction ++ mark :: tail)).reverse ++ before) rest := by
  -- None of the letters goes on with the number, and none is an operator.
  have tested : ∀ c ∈ ['l', 'L', 'f', 'F', 'e', 'E'], isWord c = true ∧ isDecimal c = false ∧
      c ≠ '.' ∧ isSpace c = false ∧ isPairOperator c = false := by decide
  obtain ⟨word, undigital, other, unspaced, unpaired⟩ := tested mark listed
  exact pairsFrom_digits number fractional (List.forall_mem_cons.mpr ⟨word, letters⟩)
    (by simpa using undigital) (by simpa using other)
    (by simp [skipSpace, unspaced, unpaired]) before

/-- A number with its suffix at the end of a line is in no pair. -/
theorem pairsFrom_suffixed (ending : IsSuffix ['l', 'L', 'f', 'F'] suffix) (before : Text) :
    pairsFrom before (digits ++ (fraction ++ (suffix ++ [';']))) = [] := by
  -- The semicolon is all that is left at the end.
  have done : ∀ before, pairsFrom before [';'] = [] := pairsFrom_gaps (by decide)
  rcases ending with rfl | ⟨c, listed, rfl⟩
  · rw [pairsFrom_digits number fractional (by simp) (by decide) (by decide) (by decide)]
    exact done _
  · have letter : c ∈ ['l', 'L', 'f', 'F', 'e', 'E'] :=
      List.mem_append_left ['e', 'E'] listed
    have read := pairsFrom_lettered number fractional letter (List.forall_mem_nil _) [';'] before
    exact read.trans (done _)

/-- A number with its exponent is in no pair: a sign of the exponent stands behind no operand. -/
theorem pairsFrom_scaled {exponent : Text} (scaled : IsExponent exponent)
    (ending : IsSuffix ['l', 'L', 'f', 'F'] suffix) (before : Text) :
    pairsFrom before (digits ++ (fraction ++ (exponent ++ (suffix ++ [';'])))) = [] := by
  have done : ∀ before, pairsFrom before [';'] = [] := pairsFrom_gaps (by decide)
  have ended : ∀ c ∈ suffix, isWord c = true := by
    rcases ending with rfl | ⟨c, listed, rfl⟩
    · simp
    · have tested : ∀ c ∈ ['l', 'L', 'f', 'F'], isWord c = true := by decide
      simpa using tested c listed
  rcases scaled with rfl | ⟨mark, sign, power, marks, signs, raised, rfl⟩
  · exact pairsFrom_suffixed number fractional ending before
  have letter : mark ∈ ['l', 'L', 'f', 'F', 'e', 'E'] := by rcases marks with rfl | rfl <;> decide
  -- The first operand ends at the mark of the exponent, so a sign behind it follows no operand.
  have signed : ∀ {c : Char}, isNameStart c = false → isDecimal c = false → pairsFrom before
      (digits ++ (fraction ++ ([mark] ++ c :: (power ++ (suffix ++ [';']))))) = [] := by
    intro c unnamed digitless
    rw [pairsFrom_lettered number fractional letter (List.forall_mem_nil _),
      pairsFrom_cons (pairAt?_gap _ unnamed digitless _)]
    exact pairsFrom_suffixed raised (.inl rfl) ending _
  rcases signs with rfl | rfl | rfl
  · -- Without a sign the mark, the power and the suffix are letters behind one number.
    have letters : ∀ c ∈ power ++ suffix, isWord c = true := by
      refine List.forall_mem_append.mpr ⟨fun c member => ?_, ended⟩
      exact isWord_of_isNameChar (isNameChar_of_isDigit (raised.2 c member))
    have read := pairsFrom_lettered number fractional letter letters [';'] before
    simpa [done] using read
  · simpa using @signed '+' (by decide) (by decide)
  · simpa using @signed '-' (by decide) (by decide)

end Numeral

/-- A number at the end of a line is in no pair: the signs in it stand behind no operand. -/
theorem pairsFrom_numeral {value : Text} (numeral : Numeral value) (before : Text) :
    pairsFrom before (value ++ [';']) = [] := by
  obtain @⟨minus, digits, fraction, exponent, suffix, sign, number, fractional, scaled, ending⟩ :=
    numeral
  have unsigned := pairsFrom_scaled number fractional scaled ending
  -- A sign at the front is the start of no operand.
  rcases sign with rfl | rfl
  · simpa using unsigned before
  · rw [List.singleton_append, List.cons_append,
      pairsFrom_cons (pairAt?_gap before (by decide) (by decide) _)]
    simpa using unsigned _

/-- A literal at the end of a line is in no pair. -/
theorem pairsFrom_blank_written {value : Text} (written : Written value) (before : Text) :
    pairsFrom before (blank value ++ [';']) = [] := by
  cases written with
  -- A number has no quotes, so that nothing of it is hidden.
  | numeral number =>
    have unchanged : blank value = value :=
      maskWith_plain _ fun c member => (outside_of_isPlain (number.plain c member)).2
    rw [unchanged]
    exact pairsFrom_numeral number before
  -- A truth value is a word, so it is an operand alone.
  | truth listed =>
    have word : value.head?.any isNameStart = true ∧ (∀ c ∈ value, isNameChar c = true) ∧
        blank value = value := by
      rcases listed with rfl | rfl <;> decide
    obtain ⟨start, run, unchanged⟩ := word
    rw [unchanged, pairsFrom_word start run (by decide) (by decide)]
    exact pairsFrom_gaps (by decide) _
  -- A quoted literal is hidden but for its quotes, which are no operands.
  | @quoted quote content opens inner =>
    have gap : isNameStart quote = false ∧ isDecimal quote = false :=
      forall_isQuote opens (by decide) (by decide)
    have blankGap : isNameStart ' ' = false ∧ isDecimal ' ' = false := by decide
    have endGap : isNameStart ';' = false ∧ isDecimal ';' = false := by decide
    rw [blank, maskWith_quoted ' ' opens inner]
    refine pairsFrom_gaps (fun c member => ?_) before
    simp only [List.cons_append, List.append_assoc, List.mem_cons, List.mem_append,
      List.mem_replicate, List.not_mem_nil, or_false, false_or] at member
    -- Quotes, blanks and the semicolon are all that shows of the value.
    rcases member with rfl | ⟨-, rfl⟩ | rfl | rfl
    · exact gap
    · exact blankGap
    · exact gap
    · exact endGap

/-- A word of a type starts no pair. -/
theorem pairsFrom_typeWord {word : Text} (listed : word ∈ DataType.all.flatMap DataType.words)
    {rest : Text} (unpaired : (skipSpace rest).head?.any isPairOperator = false) (before : Text) :
    pairsFrom before (word ++ ' ' :: rest) = pairsFrom (' ' :: (word.reverse ++ before)) rest := by
  have tested : ∀ word ∈ DataType.all.flatMap DataType.words,
      word.head?.any isNameStart = true ∧ ∀ c ∈ word, isNameChar c = true := by decide
  obtain ⟨start, run⟩ := tested word listed
  have skipped : skipSpace (' ' :: rest) = skipSpace rest :=
    @skipSpace_append [' '] (by decide) rest
  -- The word is followed by a blank, and behind the blank there is no operator.
  rw [pairsFrom_word start run rfl (by rwa [skipped]),
    pairsFrom_cons (pairAt?_gap _ (by decide) (by decide) _)]

/-- The spelling of a type starts no pair. -/
theorem pairsFrom_spelling (type : DataType) {rest : Text}
    (unpaired : (skipSpace rest).head?.any isPairOperator = false) :
    ∃ before, pairsFrom [] (type.spelling ++ ' ' :: rest) = pairsFrom before rest := by
  -- A type has one word or two, and the second one starts with a letter.
  have shape : type.spelling ∈ DataType.all.flatMap DataType.words ∨
      ∃ first ∈ DataType.all.flatMap DataType.words,
        ∃ second ∈ DataType.all.flatMap DataType.words,
          type.spelling = first ++ ' ' :: second := by
    cases type <;> decide
  rcases shape with single | ⟨first, listed, second, also, spelled⟩
  · exact ⟨_, pairsFrom_typeWord single unpaired []⟩
  · have letter : ∀ word ∈ DataType.all.flatMap DataType.words,
        word.head?.any (fun c => !isSpace c && !isPairOperator c) = true := by decide
    obtain ⟨c, starts, solid⟩ := Option.any_eq_true _ _ |>.mp (letter second also)
    obtain ⟨unspaced, unread⟩ : isSpace c = false ∧ isPairOperator c = false := by
      simpa using solid
    obtain ⟨more, rfl⟩ : ∃ more, second = c :: more := List.head?_eq_some_iff.mp starts
    -- What follows the first word is a letter and no operator.
    have between : (skipSpace (c :: more ++ ' ' :: rest)).head?.any isPairOperator = false := by
      simp [skipSpace, unspaced, unread]
    -- The first word is passed over, and then the second one.
    rw [spelled, List.append_assoc, List.cons_append, pairsFrom_typeWord listed between]
    exact ⟨_, pairsFrom_typeWord also unpaired _⟩

/-- A line that defines a variable holds no pair of operands. -/
theorem Definition.pairsFrom_line (definition : Definition) :
    pairsFrom [] (blank definition.line) = [] := by
  -- The blanked line shows the type, the name and the value, if there is one.
  have shown : blank definition.line =
      definition.type.spelling ++ ' ' :: (definition.declaredIn blank ++ [';']) := by
    rw [blank, definition.maskWith_line, statementIn, List.append_assoc]
    rfl
  obtain ⟨some, start, run⟩ := definition.nameable.named
  -- Behind the type comes the name, which starts with no operator.
  have unpaired : (skipSpace (definition.declaredIn blank ++ [';'])).head?.any isPairOperator =
      false := by
    obtain ⟨c, more, named⟩ := List.exists_cons_of_ne_nil some
    have letter : isNameChar c = true := run c (by simp [named])
    have unread : isPairOperator c = false := by
      rw [← Bool.not_eq_true]
      intro operator
      have tested : ∀ d ∈ "+-*/".toList, isNameChar d = false := by decide
      rw [tested c (by simpa [isPairOperator] using operator)] at letter
      cases letter
    simp [declaredIn, named, skipSpace, isSpace_of_isNameChar letter, unread]
  -- The type starts no pair, so the search goes on behind it.
  obtain ⟨before, read⟩ := pairsFrom_spelling definition.type unpaired
  rw [shown, read, declaredIn]
  -- Behind the name comes the semicolon or an equals sign.
  cases valued : definition.value with
  | none =>
    rw [Option.elim_none, List.append_nil, pairsFrom_word start run (by decide) (by decide)]
    exact pairsFrom_gaps (by decide) _
  | some literal =>
    have equals : skipSpace (' ' :: '=' :: ' ' :: (blank literal ++ [';'])) =
        '=' :: ' ' :: (blank literal ++ [';']) := rfl
    simp only [Option.elim_some, List.append_assoc, List.cons_append]
    rw [pairsFrom_word start run rfl (by rw [equals]; rfl)]
    -- The equals sign and the white space around it start no operand.
    iterate 3 rw [pairsFrom_cons (pairAt?_gap _ (by decide) (by decide) _)]
    exact pairsFrom_blank_written (definition.written valued) _

/-- A line that defines a variable does no arithmetic. -/
theorem Definition.stringArithmetic_line (definition : Definition) (table : SymbolTable) :
    StringArithmetic.check table definition.line = [] := by
  -- There is no pair whose operands could be compared.
  have nothing := definition.pairsFrom_line
  rw [pairsFrom] at nothing
  rw [StringArithmetic.check, positions, nothing]
  rfl

end SourceLint
