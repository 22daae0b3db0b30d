import SourceLint.Proofs.Declared.Place
import SourceLint.Proofs.Growth.Line
import SourceLint.Proofs.Lexeme
import SourceLint.Rule.RightHandSide

/-!
Variables that are declared with an equals sign and no value.

Entering such a variable is silent, since the check for empty right sides is meant to find it. That
check wants a semicolon behind the equals sign. The last variable of a declaration has one there,
in whatever place the declaration stands, and the variables before it have a comma.
-/

namespace SourceLint

open Text

namespace Statement

/-- A piece that a semicolon ends has another one behind it. -/
theorem exists_of_mem_ofPieces {first : Text} {others : List Text} {statement : Statement}
    (listed : statement ∈ ofPieces first others) (finished : statement.terminated = true) :
    ∃ earlier piece later, first :: others = earlier ++ piece :: later ∧ later ≠ [] ∧
      statement.text = trim piece := by
  -- By induction on the pieces, of which only the last one lacks its semicolon.
  induction others generalizing first with
  | nil =>
    obtain rfl := List.mem_singleton.mp listed
    cases finished
  | cons next others ih =>
    rcases List.mem_cons.mp listed with rfl | behind
    · exact ⟨[], first, next :: others, rfl, by simp, rfl⟩
    · obtain ⟨earlier, piece, later, pieces, more, same⟩ := ih behind
      exact ⟨first :: earlier, piece, later, by rw [pieces, List.cons_append], more, same⟩

variable {line statement : Text}

/-- A statement that is entered ends in front of a semicolon of its line. -/
theorem trails_of_mem_effective (listed : statement ∈ effective line false) :
    ∃ whole rest, line = whole ++ ';' :: rest ∧ ∃ front, Trails whole front statement := by
  -- The statement is the clause of a loop header, or it is one of the pieces.
  rw [effective, List.mem_append] at listed
  rcases listed with loop | finished
  · exact trails_loopStart? (Option.mem_toList.mp loop)
  obtain ⟨piece, member, kept⟩ := List.mem_filterMap.mp finished
  simp only [Bool.or_false, Option.ite_none_left_eq_some, Bool.or_eq_true, Bool.not_eq_true',
    not_or, Bool.not_eq_false, List.isEmpty_iff] at kept
  obtain ⟨⟨filled, ended⟩, same⟩ := kept
  obtain rfl := Option.some.inj same
  -- A semicolon follows the piece, and what its headers leave is its end.
  obtain ⟨earlier, own, later, pieces, more, text⟩ :=
    exists_of_mem_ofPieces (List.mem_of_mem_filter member) ended
  obtain ⟨front, rest, whole, closed, -, -, stops⟩ := exists_of_splitTop (by simp; decide) pieces
  obtain ⟨c, first, cuts⟩ := (Option.any_eq_true ..).mp (stops more)
  obtain ⟨tail, rfl⟩ := List.head?_eq_some_iff.mp first
  obtain rfl := beq_iff_eq.mp cuts
  have outer : Trails (front ++ own) front own := ⟨closed, [], by simp, by simp⟩
  obtain ⟨lead, trimmed, -⟩ := trails_trim own
  obtain ⟨inner, left⟩ := trails_body filled
  rw [← text] at trimmed
  exact ⟨front ++ own, tail, by simp [whole], _, outer.trans (trimmed.trans left)⟩

end Statement

namespace Declaration

/-- A variable without a value is its name and an equals sign, with nothing but white space. -/
theorem exists_of_emptyValue {part : Text} (empty : (itemOf part).value = some []) :
    ∃ front gap, part = front ++ '=' :: gap ∧ Closed front ∧ (itemOf part).name = trim front ∧
      ∀ c ∈ gap, isSpace c = true := by
  -- The value is what stands behind the first equals sign of the part.
  rcases cut : cutTop (· == '=') part with ⟨first, values⟩
  cases values with
  | nil => simp [itemOf, cut] at empty
  | cons next later =>
    obtain ⟨c, rest, whole, sign, settled, behind⟩ := exists_of_cutTop (by simp; decide) cut
    obtain rfl := beq_iff_eq.mp sign
    -- The pieces behind the sign are put back together.
    have joined := join_splitTop (by decide : '=' ≠ 's') rest
    rw [splitTop, behind] at joined
    have nothing : trim rest = [] := by simpa [itemOf, cut, joined] using empty
    obtain ⟨lead, gap, split, leads, gaps⟩ := exists_eq_trim rest
    rw [nothing, List.nil_append] at split
    refine ⟨first, rest, whole, settled.closed, by simp [itemOf, cut], fun c member => ?_⟩
    rw [split] at member
    exact (List.mem_append.mp member).elim (leads c) (gaps c)

variable {line statement : Text} {declaration : Declaration} {earlier later : List Item}
  {item : Item}

/-- Behind the equals sign of a variable without a value a semicolon follows, or a comma. -/
theorem exists_place_of_emptyValue (listed : statement ∈ Statement.effective line false)
    (read : parse? statement = some declaration)
    (items : declaration.items = earlier ++ item :: later) (empty : item.value = some []) :
    ∃ front space gap rest,
      line = front ++ (item.name ++ space) ++
        '=' :: (gap ++ (if later = [] then ';' else ',') :: rest) ∧
      Closed (front ++ (item.name ++ space)) ∧ (∀ c ∈ space, isSpace c = true) ∧
        ∀ c ∈ gap, isSpace c = true := by
  -- The declaration is split into its type and its variables, and these into their parts.
  obtain ⟨⟨type, declared⟩, cut, parsed⟩ := Option.bind_eq_some_iff.mp read
  dsimp only at parsed
  split at parsed
  · cases parsed
  cases parsed
  -- The statement ends in front of a semicolon, and the variables end the statement.
  obtain ⟨whole, rest, split, outer, ends⟩ := Statement.trails_of_mem_effective listed
  obtain ⟨inner, typed, -⟩ := trails_of_split? cut
  obtain ⟨closed, tail, wholes, tails⟩ := ends.trans typed
  -- The item is one of the parts, with others in front of it and behind.
  obtain ⟨before, others, pieces, -, behind⟩ := List.map_eq_append_iff.mp items
  obtain ⟨part, after, rfl, rfl, rfl⟩ := List.map_eq_cons_iff.mp behind
  obtain ⟨front, back, parts, plain, -, last, stops⟩ := exists_of_splitTop (by simp; decide) pieces
  obtain ⟨named, gap, sign, unquoted, name, gaps⟩ := exists_of_emptyValue empty
  obtain ⟨lead, space, spelled, leads, spaces⟩ := exists_eq_trim named
  rw [← name] at spelled
  -- What stands in front of the value is closed, part by part.
  have fronts : outer ++ inner ++ front ++ lead ++ ((itemOf part).name ++ space) =
      outer ++ inner ++ (front ++ named) := by
    simp [spelled]
  have closes : Closed (outer ++ inner ++ front ++ lead ++ ((itemOf part).name ++ space)) :=
    fronts ▸ closed.append (plain.append unquoted)
  by_cases final : after = []
  · -- Behind the last variable is white space only, up to the semicolon.
    refine ⟨_, space, gap ++ tail, rest, ?_, closes, spaces, fun c member => ?_⟩
    · rw [fronts]
      simp [split, wholes, parts, sign, last final, final]
    · exact (List.mem_append.mp member).elim (gaps c) (tails c)
  · -- The comma that separates a variable from the next one follows it.
    obtain ⟨c, first, cuts⟩ := (Option.any_eq_true ..).mp (stops final)
    obtain ⟨more, rfl⟩ := List.head?_eq_some_iff.mp first
    obtain rfl := beq_iff_eq.mp cuts
    refine ⟨_, space, gap, more ++ (tail ++ ';' :: rest), ?_, closes, spaces, gaps⟩
    rw [fronts]
    simp [split, wholes, parts, sign, final]

end Declaration

namespace RightHandSide

/-- What makes an equals sign a comparison is neither part of a name nor white space. -/
theorem unnamed_of_isComparing {c : Char} (comparing : isComparing c = true) :
    isNameChar c = false ∧ isSpace c = false := by
  -- The characters that compare are listed.
  rw [isComparing, List.contains_iff_mem] at comparing
  exact (by decide : ∀ c ∈ "=!<>".toList, isNameChar c = false ∧ isSpace c = false) c comparing

/-- The check sees an equals sign when a semicolon follows it behind white space. -/
theorem emptyAt_sign (before : Text) {gap : Text} (blank : ∀ c ∈ gap, isSpace c = true) {c : Char}
    (solid : isSpace c = false) (rest : Text) :
    emptyAt ⟨before, '=' :: (gap ++ c :: rest)⟩ =
      (!before.head?.any isComparing && c == ';') := by
  -- The white space behind the sign is skipped up to the character.
  have skipped : skipSpace (gap ++ c :: rest) = c :: rest := by
    rw [skipSpace_append blank]
    exact skipSpace_of_head (by simpa using solid)
  simp [emptyAt, Position.follows, after?, skipped]

/-- An equals sign behind a name and white space makes no comparison. -/
theorem uncompared_of_isIdentifier {name space : Text} (identifier : Token.isIdentifier name = true)
    (spaces : ∀ c ∈ space, isSpace c = true) (front : Text) :
    (front ++ (name ++ space)).getLast?.any isComparing = false := by
  -- The name and the white space are filled, so the last character is one of theirs.
  obtain ⟨c, tail, spelled, -, -⟩ := Token.exists_of_isIdentifier identifier
  rw [List.getLast?_append_of_ne_nil _ (by simp [spelled]), Option.any_eq_false]
  intro d last
  rw [← Bool.not_eq_true]
  intro comparing
  obtain ⟨unnamed, unspaced⟩ := unnamed_of_isComparing comparing
  -- No character that compares is part of a name or white space.
  rcases List.mem_append.mp (List.mem_of_getLast? last) with own | gap
  · rw [Token.forall_isNameChar_of_isIdentifier identifier d own] at unnamed
    cases unnamed
  · rw [spaces d gap] at unspaced
    cases unspaced

/--
A variable that is declared without a value is seen exactly when it is the last one.

Then the line is reported, whether the declaration stands alone, behind other statements or in the
header of a loop. Behind a variable that others follow the check finds a comma.
-/
theorem checkEmpty_of_emptyValue {line statement : Text} {declaration : Declaration}
    {earlier later : List Item} {item : Item}
    (listed : statement ∈ Statement.effective line false)
    (read : Declaration.parse? statement = some declaration)
    (items : declaration.items = earlier ++ item :: later)
    (fine : Declaration.nameFault? item.name = none) (empty : item.value = some []) :
    (∃ front space rest, line = front ++ (item.name ++ space) ++ '=' :: rest ∧
        (∀ c ∈ space, isSpace c = true) ∧
        mask line = mask (front ++ (item.name ++ space)) ++ '=' :: mask rest ∧
        emptyAt ⟨(mask (front ++ (item.name ++ space))).reverse, '=' :: mask rest⟩ =
          later.isEmpty) ∧
      (later = [] → checkEmpty line = [.emptyInitializer]) := by
  -- The item is found in the line with its name and its sign.
  obtain ⟨front, space, gap, rest, whole, closed, spaces, gaps⟩ :=
    Declaration.exists_place_of_emptyValue listed read items empty
  generalize follows : (if later = [] then ';' else ',') = c at whole
  obtain ⟨solid, unquoted, ended⟩ :
      isSpace c = false ∧ isQuote c = false ∧ (c == ';') = later.isEmpty := by
    subst follows
    cases later with
    | nil => decide
    | cons next later =>
      rw [if_neg (List.cons_ne_nil next later)]
      exact ⟨by decide, by decide, rfl⟩
  -- Behind the sign everything up to the character shows as it is.
  have plain : ∀ d ∈ gap ++ [c], isQuote d = false := by
    simpa [or_imp, forall_and] using ⟨fun d member => isQuote_of_isSpace (gaps d member), unquoted⟩
  have shown : mask (gap ++ c :: rest) = gap ++ c :: mask rest := by
    have parts := maskWith_append_plain ['s'] plain rest
    rwa [List.append_assoc, List.append_assoc] at parts
  have view : mask line =
      mask (front ++ (item.name ++ space)) ++ '=' :: mask (gap ++ c :: rest) := by
    rw [whole]
    exact closed.mask_append_cons (by decide) _
  -- What stands in front of the sign is a name, so the check looks at what follows the sign.
  have trimmed := (Declaration.mem_namesOn (Statement.mem_effective listed) read
    (items ▸ List.mem_append_right earlier (List.mem_cons_self ..))).2
  obtain ⟨identifier, -⟩ := Declaration.isIdentifier_of_nameFault? fine trimmed
  have seen : emptyAt ⟨(mask (front ++ (item.name ++ space))).reverse,
      '=' :: mask (gap ++ c :: rest)⟩ = later.isEmpty := by
    rw [shown, emptyAt_sign _ gaps solid, List.head?_reverse,
      any_getLast?_mask (by decide) (uncompared_of_isIdentifier identifier spaces front), ended]
    rfl
  -- The check sees this sign, and it reports the line if the value is the last one.
  refine ⟨⟨front, space, gap ++ c :: rest, whole, spaces, view, seen⟩, fun last => ?_⟩
  have found : anywhere (mask line) emptyAt = true :=
    anywhere_iff.mpr ⟨_, _, view, by rw [seen, last]; rfl⟩
  rw [checkEmpty, if_pos found]

/-- A loop header that declares two variables, of which the second one has no value. -/
theorem checkEmpty_of_emptyValue_loop :
    let line := "for (int i = 0, n = ; i < n; i++) s = \"=;\";".toList
    let statement := "int i = 0, n =".toList
    let earlier : List Item := [⟨"i".toList, some "0".toList⟩]
    let item : Item := ⟨"n".toList, some []⟩
    statement ∈ Statement.effective line false ∧
      Declaration.parse? statement = some ⟨.int, earlier ++ [item]⟩ ∧
      Declaration.nameFault? item.name = none ∧
      checkEmpty line = [.emptyInitializer] := by
  -- The statement, the declaration and the name are evaluated.
  have listed : "int i = 0, n =".toList ∈
      Statement.effective "for (int i = 0, n = ; i < n; i++) s = \"=;\";".toList false := by
    decide +kernel
  have read : Declaration.parse? "int i = 0, n =".toList =
      some ⟨.int, [⟨"i".toList, some "0".toList⟩, ⟨"n".toList, some []⟩]⟩ := by decide +kernel
  have fine : Declaration.nameFault? "n".toList = none := by decide
  exact ⟨listed, read, fine,
    (@checkEmpty_of_emptyValue _ _ _ [⟨"i".toList, some "0".toList⟩] [] ⟨"n".toList, some []⟩ listed
      read rfl fine rfl).2 rfl⟩

/--
The first of two variables has no value and nobody says so.

The declaration leaves it out, so the name does not even get into the table.
-/
theorem emptyValue_unreported :
    let line := "int x =, y = 2;".toList
    let item : Item := ⟨"x".toList, some []⟩
    "int x =, y = 2".toList ∈ Statement.effective line false ∧
      Declaration.parse? "int x =, y = 2".toList =
        some ⟨.int, [item, ⟨"y".toList, some "2".toList⟩]⟩ ∧
      Declaration.nameFault? item.name = none ∧
      checkEmpty line = [] ∧
      Registration.enterLine ⟨false, 1⟩ {} line =
        ({ current := [⟨"y".toList, .known .int, true, 1⟩] }, []) := by
  decide +kernel

end RightHandSide

end SourceLint
