import SourceLint.Proofs.StraightLine.Statement
import SourceLint.Proofs.Text.Lines

/-! Lines that define one variable each, and how such a line is read. -/

namespace SourceLint

open Text

/-- A name that a variable can have: an identifier without a meaning of its own. -/
structure IsVariable (name : Text) : Prop where
  identifier : Token.isIdentifier name = true
  unreserved : Vocabulary.isReserved (name.map Char.toLower) = false
  untyped : Vocabulary.isTypeWord name = false
  notMain : name ≠ "main".toList

/-- A variable with its type and, if it gets one, a literal of that type as its value. -/
structure Definition where
  type : DataType
  name : Text
  value : Option Text
  nameable : IsVariable name
  fitting : ∀ literal, value = some literal → LiteralOf type literal

namespace IsVariable

variable {name : Text}

/-- A name has characters, and all of them may stand in a name. -/
theorem named (usable : IsVariable name) :
    name ≠ [] ∧ name.head?.any isNameStart = true ∧ ∀ c ∈ name, isNameChar c = true := by
  -- A variable is named by an identifier.
  obtain ⟨c, tail, split, start, -⟩ := Token.exists_of_isIdentifier usable.identifier
  exact ⟨by simp [split], by simpa [split] using start,
    Token.forall_isNameChar_of_isIdentifier usable.identifier⟩

/-- The characters of a name are plain. -/
theorem plain (usable : IsVariable name) : ∀ c ∈ name, isPlain c = true :=
  Token.plain_of_isIdentifier usable.identifier

/-- The characters of a name are word characters. -/
theorem words (usable : IsVariable name) : ∀ c ∈ name, isWord c = true :=
  fun c member => isWord_of_isNameChar (usable.named.2.2 c member)

/-- In lower case a name is no reserved word. -/
theorem reservedForm? (usable : IsVariable name) : Vocabulary.reservedForm? name = none := by
  -- A name has no character outside ASCII whose lower case form is a letter of ASCII.
  have lowered : name.map Vocabulary.lowerChar = name.map Char.toLower := by
    refine List.map_congr_left fun c member => ?_
    have other : c ≠ '\u212a' := ne_of_class (usable.plain c member) (by decide)
    simp [Vocabulary.lowerChar, other]
  simp [Vocabulary.reservedForm?, lowered, usable.unreserved]

/-- A name is no reserved word. -/
theorem isReserved (usable : IsVariable name) : Vocabulary.isReserved name = false := by
  -- Reserved words are in lower case already.
  have lower : ∀ word ∈ Vocabulary.reserved, word.map Char.toLower = word := by decide
  -- A reserved name would be its own lower case form, which is not reserved.
  rw [← Bool.not_eq_true]
  intro reserved
  have listed : name ∈ Vocabulary.reserved := by
    simpa [Vocabulary.isReserved] using reserved
  have same := usable.unreserved
  rw [lower name listed, reserved] at same
  cases same

end IsVariable

namespace Definition

/-- The variable as it is declared, with its value behind an equals sign, in a view of the value. -/
def declaredIn (view : Text → Text) (definition : Definition) : Text :=
  definition.name ++
    definition.value.elim [] fun literal => ' ' :: '=' :: ' ' :: view literal

/-- The statement that defines the variable, in a view of its value. -/
def statementIn (view : Text → Text) (definition : Definition) : Text :=
  definition.type.spelling ++ ' ' :: definition.declaredIn view

/-- The variable as it is declared. -/
def declared (definition : Definition) : Text :=
  definition.declaredIn id

/-- The statement that defines the variable. -/
def statement (definition : Definition) : Text :=
  definition.statementIn id

/-- The line that defines the variable. -/
def line (definition : Definition) : Text :=
  definition.statement ++ [';']

/-- The entry of the variable in a table when it is defined on the given line. -/
def symbol (definition : Definition) (line : Int) : Symbol :=
  ⟨definition.name, .known definition.type, definition.value.isSome, line⟩

/-- The value of a definition is written like a literal. -/
theorem written (definition : Definition) {literal : Text}
    (valued : definition.value = some literal) : Written literal :=
  (definition.fitting literal valued).written

variable (definition : Definition)

/-- In front of the value a definition has plain characters and blanks. -/
theorem plain_front :
    ∀ c ∈ definition.type.spelling ++ ' ' :: definition.name, isPlain c = true ∨ c = ' ' := by
  -- The type has plain characters and a blank at most, and so has the name.
  intro c member
  rcases List.mem_append.mp member with inType | behind
  · exact definition.type.plain_spelling c inType
  · rcases List.mem_cons.mp behind with rfl | inName
    · exact .inr rfl
    · exact .inl (definition.nameable.plain c inName)

/-- A character that is neither plain nor a blank is not in front of the value. -/
theorem notMem_front {c : Char} (unplain : isPlain c = false) (unspaced : c ≠ ' ') :
    c ∉ definition.type.spelling ++ ' ' :: definition.name := by
  -- All characters there are plain or blanks.
  intro member
  rcases definition.plain_front c member with plain | space
  · rw [unplain] at plain
    cases plain
  · exact unspaced space

/-- The masked view of a definition is its statement with the value masked. -/
theorem maskWith_statement (fill : Char) :
    maskWith [fill] definition.statement = definition.statementIn (maskWith [fill]) := by
  -- No quote opens a literal in front of the value.
  have front : ∀ c ∈ definition.type.spelling ++ ' ' :: definition.name, isQuote c = false := by
    intro c member
    rcases definition.plain_front c member with plain | rfl
    · exact (outside_of_isPlain plain).2
    · decide
  -- Every view differs from the others in the value alone.
  have split : ∀ view : Text → Text, definition.statementIn view =
      (definition.type.spelling ++ ' ' :: definition.name) ++
        definition.value.elim [] fun literal => ' ' :: '=' :: ' ' :: view literal := by
    simp [statementIn, declaredIn]
  -- The front shows as it is, and the view goes on at the value.
  rw [statement, split, split, maskWith_append_plain [fill] front]
  cases valued : definition.value with
  | none => rfl
  | some literal =>
    have gap : ∀ c ∈ [' ', '=', ' '], isQuote c = false := by decide
    exact congrArg _ (maskWith_append_plain [fill] gap literal)

/-- The words of a definition are those of its type, its name and those of its value. -/
theorem wordTexts_statementIn (view : Text → Text) :
    wordTexts (definition.statementIn view) = definition.type.words ++ definition.name ::
      definition.value.elim [] fun literal => wordTexts (view literal) := by
  have nameWord : wordTexts definition.name = [definition.name] :=
    wordTexts_run definition.nameable.named.1 definition.nameable.words
  -- The blank behind the type ends its last word.
  rw [statementIn, wordTexts_append_cons (by decide), definition.type.wordTexts_spelling,
    declaredIn]
  cases definition.value with
  | none => simp [nameWord]
  | some literal =>
    -- The blanks and the equals sign end the name, and they are no words themselves.
    simp only [Option.elim_some]
    rw [wordTexts_append_cons (by decide), nameWord, wordTexts_cons (by decide),
      wordTexts_cons (by decide)]
    rfl

/-- The characters in front of the value are plain, blanks and an equals sign. -/
theorem flat_declaredIn {view : Text → Text}
    (kept : ∀ literal, definition.value = some literal → Written (view literal)) {special : Char}
    (unplain : isPlain special = false) (unquoted : isQuote special = false)
    (other : special ≠ ' ' ∧ special ≠ '=') :
    Flat (· == special) (definition.declaredIn view) := by
  -- A name has plain characters only.
  have named : Flat (· == special) definition.name :=
    flat_of_plain unplain fun c member => .inl (definition.nameable.plain c member)
  rw [declaredIn]
  -- A value adds an equals sign between blanks and a literal, both of them flat.
  cases valued : definition.value with
  | none => simpa using named
  | some literal =>
    have gap : Flat (· == special) [' ', '=', ' '] :=
      flat_of_plain unplain (by simp [other.1.symm, other.2.symm])
    exact named.append (gap.append ((kept literal valued).flat unplain unquoted))

/-- A definition has no semicolon outside its literal. -/
theorem flat_statementIn {view : Text → Text}
    (kept : ∀ literal, definition.value = some literal → Written (view literal)) :
    Flat (· == ';') (definition.statementIn view) := by
  -- The type is flat, and what is declared is flat as well.
  have typed : Flat (· == ';') (definition.type.spelling ++ [' ']) :=
    definition.type.flat_spelling (by decide) (by decide)
  have named : Flat (· == ';') (definition.declaredIn view) :=
    definition.flat_declaredIn kept (by decide) (by decide) (by decide)
  simpa [statementIn] using typed.append named

/-- A definition as it is written has no semicolon outside its literal. -/
theorem flat_statement : Flat (· == ';') definition.statement :=
  definition.flat_statementIn fun _ => definition.written

/-- The masked view of a line is its statement with the value masked. -/
theorem maskWith_line (fill : Char) :
    maskWith [fill] definition.line = definition.statementIn (maskWith [fill]) ++ [';'] := by
  -- The statement closes its literals, so the semicolon shows.
  rw [line, definition.flat_statement.closed, definition.maskWith_statement]
  rfl

/-- What is declared is written as one item. -/
theorem declared_eq :
    definition.declared = Item.written ⟨definition.name, definition.value⟩ ++ [] :=
  (List.append_nil _).symm

/-- What is declared starts with the name of the variable. -/
theorem declares : Declares definition.declared definition.name := by
  -- A value ends with no white space, and neither does a name.
  have solid : ∀ literal ∈ definition.value,
      literal ≠ [] ∧ literal.getLast?.any isSpace = false := by
    intro literal valued
    obtain ⟨filled, -, last⟩ := (definition.written valued).ends
    exact ⟨filled, last⟩
  -- The name with its value ends like its value, or like the name.
  obtain ⟨c, last, space⟩ := @Item.ends_written ⟨definition.name, definition.value⟩
    definition.nameable.identifier solid
  rw [declared_eq]
  refine Item.declares definition.nameable.identifier definition.nameable.isReserved (.inl rfl) ?_
  rw [List.append_nil, last, Option.any_some, space]

/-- A statement neither starts nor ends with white space. -/
theorem ends_statement : definition.statement.head?.any isSpace = false ∧
    definition.statement.getLast?.any isSpace = false :=
  definition.declares.ends_typed definition.type

/-- The only statement of the line acts with and without its semicolon. -/
theorem effective_line (withUnterminated : Bool) :
    Statement.effective definition.line withUnterminated = [definition.statement] :=
  -- What is declared starts with its name, and no semicolon cuts it.
  definition.declares.effective_typed definition.type definition.flat_statement.settled
    withUnterminated

/-- A definition is split into its type and what is declared. -/
theorem split?_statement :
    Declaration.split? definition.statement = some (definition.type, definition.declared) :=
  definition.declares.split?_typed definition.type

/-- Nothing in a definition looks like a call. -/
theorem startsWithCall_declared : startsWithCall definition.declared = false := by
  -- What is declared is the item as it is written.
  have declares := definition.declares
  rw [declared_eq] at declares ⊢
  exact Item.startsWithCall_eq_false definition.nameable.identifier declares (.inl rfl)

/-- A definition has one variable with its value. -/
theorem itemOf_declared :
    Declaration.itemOf definition.declared = ⟨definition.name, definition.value⟩ := by
  -- A literal has no white space around it.
  have trimmed : ∀ literal ∈ definition.value, trim literal = literal := by
    intro literal valued
    obtain ⟨-, first, last⟩ := (definition.written valued).ends
    exact trim_of_ends first last
  rw [declared_eq, List.append_nil, ← List.nil_append (Item.written _)]
  exact Declaration.itemOf_written definition.nameable.identifier trimmed (by simp)

/-- A definition declares its variable with its value. -/
theorem parse?_statement : Declaration.parse? definition.statement =
    some ⟨definition.type, [⟨definition.name, definition.value⟩]⟩ := by
  -- No comma cuts the one item.
  have flat : Flat (· == ',') definition.declared :=
    definition.flat_declaredIn (fun _ => definition.written) (by decide) (by decide) (by decide)
  simp [Declaration.parse?, definition.split?_statement, definition.startsWithCall_declared,
    splitTop, cutTop_flat flat, definition.itemOf_declared]

/-- A definition names its variable. -/
theorem nameless?_statement : Declaration.nameless? definition.statement = none :=
  definition.declares.nameless?_typed definition.type

/-- The line declares the variable it defines. -/
theorem namesOn_line : Declaration.namesOn definition.line = [definition.name] := by
  simp [Declaration.namesOn, definition.effective_line, definition.parse?_statement, distinct]

end Definition

end SourceLint
