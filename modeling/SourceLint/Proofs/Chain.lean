import SourceLint.Proofs.Masked.Reading
import SourceLint.Proofs.StraightLine.Arithmetic

/-!
Chains of operands.

Operands with arithmetic operators between them are compared pair by pair: every operand but the
last one with the operand behind it. Nothing else on the line is taken for an operand.
-/

namespace SourceLint.StringArithmetic

open Text

/-- An operand as it is written: a name, or a number without a sign. -/
inductive Operand where
  | name (spelling : Text) (identifier : Token.isIdentifier spelling = true)
  | number (digits fraction : Text) (whole : IsDigits digits) (fractional : IsFraction fraction)

namespace Operand

/-- The text of an operand. -/
def text : Operand → Text
  | name spelling _ => spelling
  | number digits fraction _ _ => digits ++ fraction

/-- Whether an operand is a number. -/
def isNumber : Operand → Bool
  | name _ _ => false
  | number _ _ _ _ => true

/-- The operand stands for a string variable. -/
def HoldsString (table : SymbolTable) (operand : Operand) : Prop :=
  ∃ symbol, table.lookup operand.text = some symbol ∧ symbol.type = .known .string

/-- The operand is a number or stands for a variable of a numeric type. -/
def HoldsNumber (table : SymbolTable) (operand : Operand) : Prop :=
  operand.isNumber = true ∨
    ∃ symbol, table.lookup operand.text = some symbol ∧ symbol.type.isNumeric = true

end Operand

/-- An operator of a chain and the operand behind it. -/
structure Link where
  operator : Char
  listed : operator ∈ ['+', '-', '*', '/']
  operand : Operand

/-- The text of a chain: its operands, with an operator between spaces behind each but the last. -/
def chain : Operand → List Link → Text
  | last, [] => last.text
  | first, link :: links => first.text ++ ' ' :: link.operator :: ' ' :: chain link.operand links

/-- The neighbours in a chain, from left to right, with the operator between them. -/
def neighbours : Operand → List Link → List (Operand × Char × Operand)
  | _, [] => []
  | first, link :: links => (first, link.operator, link.operand) :: neighbours link.operand links

/-- What may end a line. -/
def lineEnd (terminated : Bool) : Text :=
  if terminated then [';'] else []

/-- What may follow an operand of a chain. -/
def Stops (rest : Text) : Prop :=
  ∀ c ∈ rest.head?, c = ' ' ∨ c = ';'

/-- What follows an operand is in no class without the space and the semicolon. -/
theorem Stops.any_head? {rest : Text} (stops : Stops rest) {p : Char → Bool}
    (space : p ' ' = false) (semicolon : p ';' = false) : rest.head?.any p = false := by
  -- An operand is followed by the space in front of an operator, or by the end of the line.
  rw [Option.any_eq_false]
  intro c first
  rcases stops c first with rfl | rfl
  · simp [space]
  · simp [semicolon]

/-- The end of a line may follow an operand. -/
theorem stops_lineEnd (terminated : Bool) : Stops (lineEnd terminated) := by
  cases terminated <;> simp [Stops, lineEnd]

namespace Operand

variable (operand : Operand)

/-- Nothing but operand characters is in an operand. -/
theorem extends_text : ∀ c ∈ operand.text, extendsOperand c = true := by
  -- A name has characters of names, and a number has digits and at most one point.
  cases operand with
  | name spelling identifier =>
    exact fun c member => extendsOperand_of_isNameChar
      (Token.forall_isNameChar_of_isIdentifier identifier c member)
  | number digits fraction whole fractional => exact extendsOperand_of_mem_number whole fractional

/-- There is an operand. -/
theorem text_ne_nil : operand.text ≠ [] := by
  -- A name has a first character, and a number has digits.
  cases operand with
  | name spelling identifier =>
    obtain ⟨c, tail, rfl, -⟩ := Token.exists_of_isIdentifier identifier
    exact List.cons_ne_nil c tail
  | number digits fraction whole fractional => exact List.append_ne_nil_of_left_ne_nil whole.1 _

/-- An operand is read as it is written. -/
theorem operand?_text {rest : Text} (stops : Stops rest) :
    operand? (operand.text ++ rest) = some (operand.text, rest) := by
  -- The operand ends where the reading of a name or of a number stops.
  cases operand with
  | name spelling identifier =>
    obtain ⟨c, tail, rfl, start, named⟩ := Token.exists_of_isIdentifier identifier
    have first : (c :: tail).head?.any isNameStart = true := start
    have run := Token.forall_isNameChar_of_isIdentifier identifier
    exact operand?_name first run (stops.any_head? (by decide) (by decide))
  | number digits fraction whole fractional =>
    -- Neither a digit nor a point follows.
    have pointless : rest.head? ≠ some '.' := fun point => by
      rcases stops '.' point with same | same <;> exact absurd same (by decide)
    rw [text, List.append_assoc]
    exact operand?_number whole fractional (stops.any_head? (by decide) (by decide)) pointless

/-- An operand is read behind white space. -/
theorem skipSpace_text (rest : Text) :
    skipSpace (' ' :: (operand.text ++ rest)) = operand.text ++ rest := by
  -- The white space is skipped up to the first character of the operand.
  obtain ⟨c, tail, spelled⟩ := List.exists_cons_of_ne_nil operand.text_ne_nil
  have operandChar : extendsOperand c = true := operand.extends_text c (by simp [spelled])
  -- No character of an operand is white space.
  have solid : isSpace c = false := by
    rw [extendsOperand, Bool.or_eq_true, beq_iff_eq] at operandChar
    rcases operandChar with word | rfl
    · exact isSpace_of_isWord word
    · decide
  rw [spelled]
  show (c :: (tail ++ rest)).dropWhile isSpace = c :: (tail ++ rest)
  rw [List.dropWhile_cons_of_neg (by simp [solid])]

/-- The lookup of a string variable is that of its type. -/
theorem isString_iff (table : SymbolTable) :
    isString table operand.text = true ↔ operand.HoldsString table := by
  simp only [isString, HoldsString, Option.any_eq_true, beq_iff_eq]

/-- Only a number is numeric by its spelling. -/
theorem isNumeric_text : Value.isNumeric operand.text = operand.isNumber := by
  -- The first character tells a name from a number.
  cases operand with
  | name spelling identifier =>
    obtain ⟨c, tail, rfl, start, -⟩ := Token.exists_of_isIdentifier identifier
    have undigital := isDecimal_of_isNameStart start
    have unsigned : c ≠ '-' := ne_of_class start (by decide)
    -- A name starts with neither a sign nor a digit.
    have kept : skipMinus (c :: tail) = c :: tail := by
      unfold skipMinus
      split
      · simp_all
      · rfl
    show Text.isNumber (skipMinus (c :: tail)) = false
    rw [kept, Text.isNumber, number?, undigital]
    rfl
  | number digits fraction whole fractional =>
    -- The number has no sign, and all of it is read as a number.
    have kept : skipMinus (digits ++ fraction) = digits ++ fraction :=
      skipMinus_append (.inl rfl) whole fraction
    have read : number? (digits ++ (fraction ++ [])) = some (digits ++ fraction, []) :=
      number?_append whole fractional rfl (by simp)
    rw [List.append_nil] at read
    show Text.isNumber (skipMinus (digits ++ fraction)) = true
    rw [kept, Text.isNumber, read]
    rfl

/-- A number is one by its spelling or by its type. -/
theorem isNumeric_iff (table : SymbolTable) :
    isNumeric table operand.text = true ↔ operand.HoldsNumber table := by
  simp only [isNumeric, HoldsNumber, isNumeric_text, Bool.or_eq_true, Option.any_eq_true]

instance (table : SymbolTable) : Decidable (operand.HoldsString table) :=
  decidable_of_iff _ (operand.isString_iff table)

instance (table : SymbolTable) : Decidable (operand.HoldsNumber table) :=
  decidable_of_iff _ (operand.isNumeric_iff table)

end Operand

/-- What is wrong with two neighbours: a string beside a number, on whichever side it stands. -/
def neighbourFindings (table : SymbolTable) : Operand × Char × Operand → List Finding
  | (left, operator, right) =>
    (if left.HoldsString table ∧ right.HoldsNumber table then [.stringWithNumber operator] else []) ++
    (if left.HoldsNumber table ∧ right.HoldsString table then [.numberWithString operator] else [])

/-- The pair that two neighbours are read as. -/
def pairOf : Operand × Char × Operand → Pair
  | (left, operator, right) => ⟨left.text, operator, right.text⟩

/-- The findings for a pair are those for the neighbours. -/
theorem pairFindings_pairOf (table : SymbolTable) (neighbour : Operand × Char × Operand) :
    pairFindings table (pairOf neighbour) = neighbourFindings table neighbour := by
  obtain ⟨left, operator, right⟩ := neighbour
  -- The first operand is looked up last in the mirrored case.
  simp only [pairFindings, pairOf, neighbourFindings, Bool.and_eq_true, Operand.isString_iff,
    Operand.isNumeric_iff, and_comm]

/-- An operator is no part of an operand and no white space, and it starts no literal. -/
theorem of_mem_operators {c : Char} (listed : c ∈ ['+', '-', '*', '/']) :
    isNameStart c = false ∧ isDecimal c = false ∧ isSpace c = false ∧ isQuote c = false ∧
      isPairOperator c = true := by
  -- There are four operators, and each of them is looked at.
  have tested : ∀ c ∈ ['+', '-', '*', '/'], isNameStart c = false ∧ isDecimal c = false ∧
      isSpace c = false ∧ isQuote c = false ∧ isPairOperator c = true := by decide
  exact tested c listed

/-- Two operands with an operator between them are a pair. -/
theorem pairAt?_link (first : Operand) (link : Link) {before rest : Text}
    (free : before.head?.any extendsOperand = false) (stops : Stops rest) :
    pairAt? ⟨before, first.text ++ ' ' :: link.operator :: ' ' :: (link.operand.text ++ rest)⟩ =
      some (pairOf (first, link.operator, link.operand)) := by
  -- The first operand ends at the space in front of the operator.
  obtain ⟨-, -, solid, -, operator⟩ := of_mem_operators link.listed
  have spaced : Stops (' ' :: link.operator :: ' ' :: (link.operand.text ++ rest)) := by
    simp [Stops]
  -- The operator stands behind the white space, and the other operand behind more of it.
  have shown : skipSpace (' ' :: link.operator :: ' ' :: (link.operand.text ++ rest)) =
      link.operator :: ' ' :: (link.operand.text ++ rest) := by
    show (link.operator :: _).dropWhile isSpace = _
    rw [List.dropWhile_cons_of_neg (by simp [solid])]
  have ended : rest.head?.any extendsOperand = false := stops.any_head? (by decide) (by decide)
  -- Nothing in front of the first operand joins it, so the pair is read from here.
  rw [pairAt?, Position.follows, free, if_neg Bool.false_ne_true]
  simp only [first.operand?_text spaced, Option.bind_some, shown]
  have read : "+-*/".toList.contains link.operator = true := operator
  rw [if_pos read, link.operand.skipSpace_text, link.operand.operand?_text stops]
  simp only [Option.bind_some, ended, Bool.false_eq_true, if_false]
  rfl

/-- A chain starts with its first operand. -/
theorem exists_chain_eq (first : Operand) (links : List Link) (terminated : Bool) :
    ∃ rest, chain first links ++ lineEnd terminated = first.text ++ rest ∧ Stops rest := by
  -- It is followed by the end of the line, or by a space and the next operator.
  cases links with
  | nil => exact ⟨_, rfl, stops_lineEnd terminated⟩
  | cons link links =>
    refine ⟨' ' :: link.operator :: ' ' :: (chain link.operand links ++ lineEnd terminated), ?_, ?_⟩
    · simp [chain]
    · simp [Stops]

/-- The pairs of a chain are its neighbours. -/
theorem pairsFrom_chain (first : Operand) (links : List Link) (terminated : Bool) {before : Text}
    (free : before.head?.any extendsOperand = false) :
    pairsFrom before (chain first links ++ lineEnd terminated) =
      (neighbours first links).map pairOf := by
  -- Every operand is passed over with what follows it up to the next one.
  induction links generalizing first before with
  | nil =>
    have stops := stops_lineEnd terminated
    have unpaired : (skipSpace (lineEnd terminated)).head?.any isPairOperator = false := by
      cases terminated <;> decide
    have gaps : ∀ c ∈ lineEnd terminated, isNameStart c = false ∧ isDecimal c = false := by
      cases terminated <;> decide
    -- The last operand has no operator behind it, and the end of the line has no operands.
    rw [chain, pairsFrom_block first.text_ne_nil first.extends_text,
      pairAt?_operand before (first.operand?_text stops) unpaired, pairsFrom_gaps gaps]
    rfl
  | cons link links ih =>
    obtain ⟨rest, split, stops⟩ := exists_chain_eq link.operand links terminated
    obtain ⟨unnamed, undigital, -⟩ := of_mem_operators link.listed
    have whole : chain first (link :: links) ++ lineEnd terminated =
        first.text ++ ' ' :: link.operator :: ' ' ::
          (chain link.operand links ++ lineEnd terminated) := by
      simp [chain]
    have here := pairAt?_link first link free stops
    rw [← split] at here
    rw [whole, pairsFrom_block first.text_ne_nil first.extends_text, here]
    -- Neither the spaces nor the operator between them starts an operand.
    rw [pairsFrom_cons (pairAt?_gap _ (by decide) (by decide) _),
      pairsFrom_cons (pairAt?_gap _ unnamed undigital _),
      pairsFrom_cons (pairAt?_gap _ (by decide) (by decide) _), ih link.operand rfl]
    rfl

/-- A chain holds no literal. -/
theorem isQuote_chain (first : Operand) (links : List Link) :
    ∀ c ∈ chain first links, isQuote c = false := by
  -- A name has characters of words, and so does a number but for its point.
  have operands : ∀ operand : Operand, ∀ c ∈ operand.text, isQuote c = false := by
    intro operand c member
    have operandChar := operand.extends_text c member
    rw [extendsOperand, Bool.or_eq_true, beq_iff_eq] at operandChar
    rcases operandChar with word | rfl
    · exact isQuote_of_isWord word
    · decide
  -- The operators and the blanks around them hold no quotes either.
  induction links generalizing first with
  | nil => exact operands first
  | cons link links ih =>
    obtain ⟨-, -, -, unquoted, -⟩ := of_mem_operators link.listed
    refine List.forall_mem_append.mpr ⟨operands first, ?_⟩
    simp only [List.forall_mem_cons]
    exact ⟨by decide, unquoted, by decide, ih link.operand⟩

/--
A chain of operands, on a line with a semicolon at its end or none, is reported by its neighbours.

Each two of them are reported on their own, from left to right, and nothing else is: if the one on
the left is a string variable and the one on the right is a number or a numeric variable, or if it
is the other way round.
-/
theorem check_chain (table : SymbolTable) (first : Operand) (links : List Link)
    (terminated : Bool) :
    check table (chain first links ++ lineEnd terminated) =
      (neighbours first links).flatMap (neighbourFindings table) := by
  -- Neither the chain nor the end of its line holds a quote.
  have plain : ∀ c ∈ chain first links ++ lineEnd terminated, isQuote c = false := by
    refine List.forall_mem_append.mpr ⟨isQuote_chain first links, ?_⟩
    cases terminated <;> decide
  -- Nothing is blanked out, so the pairs are those of the chain as it is written.
  have pairs : pairsFrom [] (chain first links ++ lineEnd terminated) =
      (neighbours first links).map pairOf := pairsFrom_chain first links terminated rfl
  rw [pairsFrom] at pairs
  -- The check goes through the pairs of the line and says what it finds about each.
  rw [check, blank, maskWith_plain _ plain, positions, pairs, List.flatMap_map]
  exact congrArg (List.flatMap · _) (funext (pairFindings_pairOf table))

end SourceLint.StringArithmetic
