import SourceLint.Proofs.Lookahead.Rule
import SourceLint.Proofs.StraightLine.Statement

/-!
Assigning one variable to another.

A line that starts with a name is read as an assignment when the name is not reserved. The target
counts as set before the value is looked at, so a variable without a value is reported as a value
of every other variable, but not as its own.
-/

namespace SourceLint

open Text

/-- In a scope a name stands for the same variable, which may have got its value. -/
theorem Scope.lookup_markInitialized (scope : Scope) (name other : Text) :
    (scope.markInitialized name).lookup other = (scope.lookup other).map fun symbol =>
      if other = name then { symbol with initialized := true } else symbol := by
  -- A mark changes no name, so the search for another name finds the same variable.
  have named : (fun symbol : Symbol => symbol.name == other) ∘ (fun symbol : Symbol =>
      if symbol.name == name then { symbol with initialized := true } else symbol) =
        fun symbol : Symbol => symbol.name == other := by
    funext symbol
    dsimp only [Function.comp_apply]
    split <;> rfl
  rw [markInitialized, lookup, List.find?_map, named, lookup]
  cases found : scope.find? fun symbol => symbol.name == other with
  | none => rfl
  | some symbol =>
    -- The variable that is found has the name that was looked for.
    have called : symbol.name = other := by simpa using List.find?_some found
    simp [called]

namespace SymbolTable

/-- A value that is given in the innermost scope that has a name is found under that name. -/
theorem findSome?_markIn (scopes : List Scope) (name other : Text) :
    ((markIn name scopes).findSome? fun scope => scope.lookup other) =
      (scopes.findSome? fun scope => scope.lookup other).map fun symbol =>
        if other = name then { symbol with initialized := true } else symbol := by
  -- By induction on the scopes, up to the one that has the marked name.
  induction scopes with
  | nil => rfl
  | cons scope outers ih =>
    rw [markIn]
    split
    · -- Scopes further out are searched for another name only.
      rename_i here
      rw [List.findSome?_cons, List.findSome?_cons, Scope.lookup_markInitialized]
      cases found : scope.lookup other with
      | some symbol => rfl
      | none =>
        have different : other ≠ name := by
          rintro rfl
          simp [found] at here
        simp [different]
    · -- Without the marked name the scope is left as it is, and the search goes on behind it.
      rename_i absent
      rw [List.findSome?_cons, List.findSome?_cons, ih]
      cases found : scope.lookup other with
      | some symbol =>
        have different : other ≠ name := by
          rintro rfl
          simp [found] at absent
        simp [different]
      | none => rfl

/-- A name stands for the same variable, which may have got its value. -/
theorem lookup_markInitialized (table : SymbolTable) (name other : Text) :
    (table.markInitialized name).lookup other = (table.lookup other).map fun symbol =>
      if other = name then { symbol with initialized := true } else symbol := by
  rw [lookup, stack_markInitialized, findSome?_markIn, lookup]

end SymbolTable

/-- A variable of every type takes the values of its own type. -/
theorem VarType.accepts_self (type : VarType) : type.accepts type = true := by
  simp [accepts]

section FirstWord

variable {text : Text} (unreserved : Vocabulary.isReserved (text.takeWhile isWord) = false)
include unreserved

/-- Where the first word is not reserved, it goes on behind a reserved word. -/
theorem isWord_behind_reserved {word rest : Text} (listed : word ∈ Vocabulary.reserved)
    (read : after? word text = some rest) : rest.head?.any isWord = true := by
  -- A reserved word is spelled with word characters only.
  have letters : ∀ word ∈ Vocabulary.reserved, ∀ c ∈ word, isWord c = true := by decide +kernel
  -- Otherwise the reserved word would be the first word.
  have other : text.takeWhile isWord ≠ word := by
    intro same
    rw [same, Vocabulary.isReserved, List.contains_iff_mem.mpr listed] at unreserved
    cases unreserved
  have tested := takeWhile_isWord_beq (letters word listed) text
  rw [read, Option.any_some, beq_eq_false_iff_ne.mpr other] at tested
  simpa using tested.symm

/-- No white space stands behind a reserved word at the front. -/
theorem afterSpaced?_of_unreserved {word : Text} (listed : word ∈ Vocabulary.reserved) :
    afterSpaced? word text = none := by
  unfold afterSpaced?
  split
  · rename_i c rest read
    -- The word goes on behind what was read of it.
    have word : isWord c = true := isWord_behind_reserved unreserved listed read
    rw [isSpace_of_isWord word]
    rfl
  · rfl

/-- No reserved word opens a parenthesis at the front. -/
theorem afterOpening?_of_unreserved {keywords : List Text}
    (listed : ∀ keyword ∈ keywords, keyword ∈ Vocabulary.reserved) :
    Statement.afterOpening? keywords text = none := by
  -- Each of the keywords is reserved, so it is read as a part of a longer word at most.
  rw [Statement.afterOpening?, List.findSome?_eq_none_iff]
  intro keyword member
  cases read : after? keyword text with
  | none => rfl
  | some rest =>
    -- The word goes on behind what was read of it.
    obtain ⟨c, first, word⟩ := (Option.any_eq_true ..).mp
      (isWord_behind_reserved unreserved (listed keyword member) read)
    obtain ⟨tail, rfl⟩ := List.head?_eq_some_iff.mp first
    have other : '(' ≠ c := (ne_of_class word (by decide)).symm
    simp [skipSpace, isSpace_of_isWord word, after?, other]

/-- A statement whose first word is not reserved has no control header. -/
theorem header?_of_unreserved : Statement.header? text = none := by
  -- All words that start a header are reserved.
  have branch : Statement.afterBranch? Statement.controlKeywords text = none := by
    rw [Statement.afterBranch?, afterSpaced?_of_unreserved unreserved (by decide),
      afterOpening?_of_unreserved unreserved (by decide)]
    rfl
  have bare : startsWithWord "else".toList text = false := by
    unfold startsWithWord
    split
    · rename_i rest read
      rw [isWord_behind_reserved unreserved (by decide) read]
      rfl
    · rfl
  rw [Statement.header?, branch, bare]
  rfl

/-- A statement whose first word is not reserved has no qualifiers. -/
theorem skipQualifiers_of_unreserved : Vocabulary.skipQualifiers text = text := by
  -- All qualifiers are reserved.
  refine skipQualifiers_eq_self ?_
  rw [Vocabulary.afterQualifier?, afterSpaced?_of_unreserved unreserved (by decide),
    afterSpaced?_of_unreserved unreserved (by decide)]
  rfl

/-- A type is read in front of a word that goes on, if at all. -/
theorem isWord_behind_type {type : DataType} {rest : Text}
    (read : Declaration.afterWords? type.words text = some rest) :
    rest.head?.any isWord = true := by
  have single : ∀ {word : Text}, word ∈ Vocabulary.reserved →
      Declaration.afterWords? [word] text = some rest → rest.head?.any isWord = true :=
    fun listed read => isWord_behind_reserved unreserved listed read
  -- Of a type of two words not even the first one is read.
  have double : ∀ {first second : Text}, first ∈ Vocabulary.reserved →
      Declaration.afterWords? [first, second] text ≠ some rest := by
    intro first second listed
    have parts : Declaration.afterWords? [first, second] text =
        (afterSpaced? first text).bind (Declaration.afterWords? [second]) := rfl
    rw [parts, afterSpaced?_of_unreserved unreserved listed]
    simp
  -- There are types of one word and types of two.
  cases type with
  | unsignedShort | unsignedLong | unsignedInt | longLong => exact absurd read (double (by decide))
  | _ => exact single (by decide) read

variable (starts : text.head?.any isSpace = false)
include starts

/-- A line whose first word is not reserved is no loop. -/
theorem loopStart?_of_unreserved : Statement.loopStart? text = none := by
  -- The word of a loop is reserved.
  rw [Statement.loopStart?, skipSpace_of_head starts,
    afterOpening?_of_unreserved unreserved (by decide)]
  rfl

/-- A statement whose first word is not reserved is no type alone. -/
theorem nameless?_of_unreserved : Declaration.nameless? text = none := by
  rw [Declaration.nameless?, skipSpace_of_head starts, skipQualifiers_of_unreserved unreserved,
    List.find?_eq_none]
  intro type every
  rw [Option.any_eq_true]
  -- A type at the front would go on as a longer word.
  rintro ⟨rest, read, blank⟩
  obtain ⟨c, first, word⟩ := (Option.any_eq_true ..).mp (isWord_behind_type unreserved read)
  have space : isSpace c = true := List.all_eq_true.mp blank c (List.mem_of_mem_head? first)
  rw [isSpace_of_isWord word] at space
  cases space

/-- A statement whose first word is not reserved declares nothing. -/
theorem parse?_of_unreserved : Declaration.parse? text = none := by
  -- A type at the front would go on as a longer word.
  have untyped : Declaration.split? text = none := by
    rw [Declaration.split?, skipSpace_of_head starts, skipQualifiers_of_unreserved unreserved,
      List.findSome?_eq_none_iff]
    intro type every
    rw [Option.map_eq_none_iff]
    unfold Declaration.variablesOf?
    split
    · rename_i c rest read
      have word : isWord c = true := isWord_behind_type unreserved read
      rw [isSpace_of_isWord word]
      rfl
    · rfl
  -- Without a type there is no declaration.
  rw [Declaration.parse?, untyped]
  rfl

end FirstWord

namespace Assignment

/-- An assignment as it is written, with blanks around its operator. -/
def written (assignment : Assignment) : Text :=
  assignment.name ++ ' ' :: (assignment.operator ++ ' ' :: assignment.value)

/-- An operator is read in front of a blank, and none of the others is. -/
theorem operator?_append {operator : Text} (listed : operator ∈ operators) (rest : Text) :
    operator? (operator ++ ' ' :: rest) = some (operator, ' ' :: rest) := by
  -- The operators are listed, and each of them is tested.
  have spelled : operators = ["<<=".toList, ">>=".toList, "+=".toList, "-=".toList, "*=".toList,
    "/=".toList, "%=".toList, "&=".toList, "^=".toList, "|=".toList, "=".toList] := rfl
  rw [spelled] at listed
  simp only [List.mem_cons, List.not_mem_nil, or_false] at listed
  rcases listed with rfl | rfl | rfl | rfl | rfl | rfl | rfl | rfl | rfl | rfl | rfl <;> rfl

/-- The operators hold neither brackets nor quotes, nor semicolons. -/
theorem flat_operator {operator : Text} (listed : operator ∈ operators) :
    Flat (· == ';') operator := by
  -- All operators can be tested.
  have plain : ∀ operator ∈ operators, (∀ c ∈ operator, isQuote c = false) ∧
      ∀ c ∈ mask operator, isOpening c = false ∧ isClosing c = false ∧ (c == ';') = false := by
    decide
  exact ⟨closed_of_plain (plain operator listed).1, (plain operator listed).2⟩

variable {assignment : Assignment}

/-- A written assignment ends with its value. -/
theorem getLast?_written (trimmed : trim assignment.value = assignment.value)
    (filled : assignment.value ≠ []) : assignment.written.getLast?.any isSpace = false := by
  -- The value is trimmed and filled, so its last character is solid.
  have last := getLast?_trim assignment.value
  rw [trimmed] at last
  obtain ⟨c, final, -⟩ := exists_getLast? filled last
  rw [final] at last
  simp [written, List.getLast?_append, List.getLast?_cons, final, last]

section Reading

variable (identifier : Token.isIdentifier assignment.name = true)
include identifier

/-- A written assignment starts with a character of its name. -/
theorem head?_written : assignment.written.head?.any isSpace = false := by
  -- The first character of a name is no white space.
  obtain ⟨c, tail, spelled, start, -⟩ := Token.exists_of_isIdentifier identifier
  rw [written, spelled]
  exact isSpace_of_isNameChar (isNameChar_of_isNameStart start)

/-- The name is the first word of a written assignment. -/
theorem takeWhile_written : assignment.written.takeWhile isWord = assignment.name := by
  -- The blank behind the name ends the word.
  rw [written, takeWhile_append_stop rfl, List.takeWhile_eq_self_iff]
  exact fun c member =>
    isWord_of_isNameChar (Token.forall_isNameChar_of_isIdentifier identifier c member)

/-- The name in front of a blank is read up to the blank. -/
theorem name?_append (rest : Text) :
    name? (assignment.name ++ ' ' :: rest) = some (assignment.name, ' ' :: rest) := by
  obtain ⟨c, tail, spelled, start, named⟩ := Token.exists_of_isIdentifier identifier
  have words : ∀ d ∈ tail, isWord d = true := fun d member => isWord_of_isNameChar (named d member)
  -- The blank ends the name.
  have taken : (tail ++ ' ' :: rest).takeWhile isWord = tail := by
    rw [takeWhile_append_stop rfl, List.takeWhile_eq_self_iff]
    exact words
  have left : (tail ++ ' ' :: rest).dropWhile isWord = ' ' :: rest := by
    rw [dropWhile_append_stop rfl, List.dropWhile_eq_nil_iff.mpr words, List.nil_append]
  -- The first character starts the name, and the run behind it is the rest.
  rw [spelled, List.cons_append, name?, if_pos start, taken, left]

/-- A written assignment leaves nothing open if its value does not. -/
theorem settled_written (listed : assignment.operator ∈ operators)
    (settled : Settled (· == ';') assignment.value) : Settled (· == ';') assignment.written := by
  have name : Flat (· == ';') assignment.name :=
    flat_of_plain (by decide) fun c member =>
      .inl (Token.plain_of_isIdentifier identifier c member)
  have blank : Flat (· == ';') [' '] := flat_of_plain (by decide) (by decide)
  -- The name, the operator and the blanks are flat.
  have parts := name.settled.append (blank.settled.append
    ((flat_operator listed).settled.append (blank.settled.append settled)))
  simpa [written] using parts

variable (listed : assignment.operator ∈ operators)
  (trimmed : trim assignment.value = assignment.value)
  (filled : assignment.value ≠ [])
include listed trimmed filled

/-- A written assignment is read back. -/
theorem parse?_assigning : parse? assignment.written = some assignment := by
  have solid : ∀ operator ∈ operators, operator.head?.any isSpace = false ∧ operator ≠ [] := by
    decide
  obtain ⟨unspaced, some⟩ := solid assignment.operator listed
  -- No operator starts with white space, so the blank in front of it is all that is skipped.
  have operator : skipSpace (' ' :: (assignment.operator ++ ' ' :: assignment.value)) =
      assignment.operator ++ ' ' :: assignment.value := by
    have starts : (assignment.operator ++ ' ' :: assignment.value).head?.any isSpace = false := by
      rwa [List.head?_append_of_ne_nil _ some]
    exact (@skipSpace_append [' '] (by decide) _).trans (skipSpace_of_head starts)
  -- The value is trimmed already, so it is read as it stands behind its blank.
  have value : contentOf? (' ' :: assignment.value) = assignment.value :=
    @contentOf?_append [' '] (by decide) _ trimmed filled
  -- Name, operator and value are read one after the other.
  rw [parse?, skipSpace_of_head (head?_written identifier), written, name?_append identifier,
    Option.bind_some]
  dsimp only
  rw [operator, operator?_append listed, Option.bind_some]
  dsimp only
  rw [value]
  rfl

end Reading

end Assignment

namespace Registration

open Assignment

variable {assignment : Assignment} {table : SymbolTable}

/-- A line with one written assignment enters the assignment and nothing else. -/
theorem enterLine_assigning (identifier : Token.isIdentifier assignment.name = true)
    (unreserved : Vocabulary.isReserved assignment.name = false)
    (listed : assignment.operator ∈ operators) (trimmed : trim assignment.value = assignment.value)
    (filled : assignment.value ≠ []) (settled : Settled (· == ';') assignment.value)
    (registration : Registration) :
    registration.enterLine table (assignment.written ++ [';']) = assign assignment table := by
  have starts := head?_written identifier
  have whole := trim_of_ends starts (getLast?_written trimmed filled)
  have nonempty : assignment.written ≠ [] := by simp [written]
  -- The first word is the name, so the line has no header and its only statement no type.
  have first : Vocabulary.isReserved (assignment.written.takeWhile isWord) = false := by
    rwa [takeWhile_written identifier]
  have unlooped : Statement.loopStart? (assignment.written ++ [';']) = none := by
    refine loopStart?_of_unreserved ?_ ?_
    · rwa [takeWhile_append_stop rfl]
    · rwa [List.head?_append_of_ne_nil _ nonempty]
  have headless := body_of_header?_eq_none (header?_of_unreserved first)
  -- So the only statement is read as the assignment.
  rw [enterLine, Statement.effective_finished (settled_written identifier listed settled) whole
    nonempty unlooped headless]
  simp [SymbolTable.runAll, enter, nameless?_of_unreserved first starts,
    parse?_of_unreserved first starts, parse?_assigning identifier listed trimmed filled]

/--
What is said about an assignment from a variable without a value.

A compound operator reads the target, which is judged as it was before. The value is judged when the
target has its value already, so it is refused unless it is the target.
-/
theorem assign_unset {target source : Symbol} (trimmed : trim assignment.value = assignment.value)
    (filled : assignment.value ≠ []) (found : table.lookup assignment.name = some target)
    (named : table.lookup assignment.value = some source) (unset : source.initialized = false) :
    (assign assignment table).2 =
      (if assignment.isCompound && !target.initialized then
        [.assignedUninitialized assignment.name assignment.operator] else []) ++
      (if assignment.value = assignment.name then [] else [.badValue target.type]) := by
  -- The target has its value when the value is judged, so only another name can be unset.
  have valid : Value.isValid target.type assignment.value
      (table.markInitialized assignment.name) = decide (assignment.value = assignment.name) := by
    unfold Value.isValid
    dsimp only
    rw [trimmed, SymbolTable.lookup_markInitialized, named, List.isEmpty_eq_false_iff.mpr filled]
    by_cases same : assignment.value = assignment.name
    · -- The variable takes a value of its own type.
      rw [same, found] at named
      obtain rfl := Option.some.inj named
      simp [same, VarType.accepts_self]
    · simp [same, unset]
  -- Each of the two findings is decided on its own.
  simp only [assign, found, valid]
  by_cases same : assignment.value = assignment.name <;> simp [same]

/--
Assigning from a variable without a value is reported, unless it is assigned to itself by a plain
equals sign.

That holds for variables of all types, in whatever scopes they are.
-/
theorem enterLine_unset_reported {name operator value : Text} {target source : Symbol}
    (identifier : Token.isIdentifier name = true) (unreserved : Vocabulary.isReserved name = false)
    (listed : operator ∈ operators) (readable : Token.isIdentifier value = true)
    (found : table.lookup name = some target) (named : table.lookup value = some source)
    (unset : source.initialized = false) (registration : Registration) :
    let reported :=
      (registration.enterLine table ((⟨name, operator, value⟩ : Assignment).written ++ [';'])).2
    (¬(name = value ∧ operator = ['=']) → ∃ finding ∈ reported, finding.level = .error) ∧
      (name = value ∧ operator = ['='] → reported = []) := by
  -- A name is trimmed, filled and free of semicolons, as the lemmas about values ask.
  obtain ⟨first, last⟩ := Token.ends_of_isIdentifier readable
  have trimmed : trim value = value := trim_of_ends first last
  have filled : value ≠ [] := by
    rintro rfl
    cases readable
  have settled : Settled (· == ';') value :=
    (flat_of_plain (by decide) fun c member =>
      .inl (Token.plain_of_isIdentifier readable c member)).settled
  rw [@enterLine_assigning ⟨name, operator, value⟩ table identifier unreserved listed trimmed filled
    settled registration]
  have reported := @assign_unset ⟨name, operator, value⟩ table _ _ trimmed filled found named unset
  dsimp only at reported ⊢
  rw [reported]
  constructor
  · intro other
    by_cases same : value = name
    · -- The operator is a compound one, and its target has no value.
      subst same
      obtain rfl := Option.some.inj (found.symm.trans named)
      have compound : operator ≠ ['='] := fun plain => other ⟨rfl, plain⟩
      exact ⟨.assignedUninitialized value operator, by simp [isCompound, compound, unset], rfl⟩
    · -- Another variable without a value is refused, whatever the operator is.
      exact ⟨.badValue target.type, by simp [same], rfl⟩
  · -- Given to itself by a plain sign, a variable is neither read nor refused.
    rintro ⟨rfl, rfl⟩
    simp [isCompound]

/-- A global variable without a value, given to a variable whose name starts like a keyword. -/
theorem enterLine_unset_reported_scopes :
    let table : SymbolTable :=
      { current := [⟨"format".toList, .known .double, true, 5⟩],
        enclosing := [[⟨"iffy".toList, .known .int, false, 1⟩]] }
    let reported := ((⟨false, 6⟩ : Registration).enterLine table "format += iffy;".toList).2
    Vocabulary.isReserved "format".toList = false ∧ "+=".toList ∈ operators ∧
      (table.lookup "format".toList).isSome = true ∧
      table.lookup "iffy".toList = some ⟨"iffy".toList, .known .int, false, 1⟩ ∧
      (∃ finding ∈ reported, finding.level = .error) ∧
      reported = [.badValue (.known .double)] := by
  -- All that the theorem asks about these names can be evaluated.
  refine ⟨by decide, by decide, rfl, rfl, ?_, by decide +kernel⟩
  -- The names stand for variables of different scopes.
  exact (@enterLine_unset_reported _ "format".toList "+=".toList "iffy".toList _ _ (by decide)
    (by decide) (by decide) (by decide) rfl rfl rfl ⟨false, 6⟩).1 (by decide)

/-- A variable without a value is assigned to itself, and nothing is said. -/
theorem unset_self_unreported :
    let table : SymbolTable := { current := [⟨"x".toList, .known .int, false, 0⟩] }
    Token.isIdentifier "x".toList = true ∧ Vocabulary.isReserved "x".toList = false ∧
      table.lookup "x".toList = some ⟨"x".toList, .known .int, false, 0⟩ ∧
      (⟨false, 1⟩ : Registration).enterLine table "x = x;".toList =
        ({ current := [⟨"x".toList, .known .int, true, 0⟩] }, []) := by
  decide +kernel

end Registration

end SourceLint
