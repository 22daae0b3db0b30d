import SourceLint.Proofs.Statements.LoopClause

/-!
The declared variables of a line, as parts of the line.

The items that a line declares stand in it one behind the other, so two of them are two places of
the line. The one exception is a loop header whose first clause is read past the parenthesis that
closes the header, since the statement behind the header is read again.
-/

namespace SourceLint

open Text

namespace Statement

/-- What is left of a statement after its headers is a part of it. -/
theorem holds_body (text : Text) : Holds text [body text] := by
  -- Headers are taken off the front, so what is left is an end of the statement.
  by_cases nothing : body text = []
  · rw [nothing]
    exact ⟨[], text, rfl, trivial⟩
  · obtain ⟨front, trails⟩ := trails_body nothing
    exact trails.stands.holds

/-- The texts of the statements are the trimmed pieces. -/
theorem map_text_ofPieces (first : Text) (others : List Text) :
    (ofPieces first others).map Statement.text = (first :: others).map trim := by
  -- Every piece but the last one is ended by the next.
  induction others generalizing first with
  | nil => rfl
  | cons next others ih =>
    rw [ofPieces, List.map_cons, ih]
    rfl

/-- What some entries of a list are taken to stands in the order of the list. -/
theorem sublist_filterMap {α β : Type} {take? : α → Option β} {image : α → β}
    (taken : ∀ entry found, take? entry = some found → found = image entry) (entries : List α) :
    (entries.filterMap take?).Sublist (entries.map image) := by
  -- By induction on the list.
  induction entries with
  | nil => exact .slnil
  | cons entry others ih =>
    rw [List.map_cons]
    -- An entry that is not taken leaves a gap in the list of images.
    cases found : take? entry with
    | none =>
      rw [List.filterMap_cons_none found]
      exact ih.cons _
    | some image =>
      rw [List.filterMap_cons_some found, taken entry image found]
      exact ih.cons_cons _

/-- The statements behind a loop header are what the pieces of the line leave, if they leave any. -/
theorem exists_effective (line : Text) (withUnterminated : Bool) :
    ∃ bodies, effective line withUnterminated = (loopStart? line).toList ++ bodies ∧
      bodies.Sublist ((splitTop (· == ';') line).map fun piece => body (trim piece)) := by
  -- The statements are the texts of the pieces, trimmed and without their headers.
  refine ⟨_, rfl, ?_⟩
  have pieces : (splitTop (· == ';') line).map (fun piece => body (trim piece)) =
      (ofPieces (cutTop (· == ';') line).1 (cutTop (· == ';') line).2).map fun statement =>
        body statement.text := by
    have texts := congrArg (List.map body)
      (map_text_ofPieces (cutTop (· == ';') line).1 (cutTop (· == ';') line).2)
    rw [List.map_map, List.map_map] at texts
    exact texts.symm
  rw [pieces]
  -- Dropping statements leaves the others in their order.
  refine (sublist_filterMap (fun statement found kept => ?_) _).trans (List.filter_sublist.map _)
  -- A statement that is kept is kept whole.
  dsimp only at kept
  split at kept
  · cases kept
  · exact (Option.some.inj kept).symm

/--
Whether the first clause of a loop header is read past the header.

The parenthesis of the header closes in front of the first semicolon, and the line has one.
-/
def loopRunsOn (line : Text) : Bool :=
  (loopStart? line).isSome &&
    (split line).head?.any fun statement =>
      (afterOpening? ["for".toList] statement.text).any fun clauses =>
        (closeParen? clauses).any fun (inside, _) => !inside.contains ';'

/-- A line starts with a loop header when its first clause is read. -/
theorem exists_loopHeader {line clause : Text} (found : loopStart? line = some clause) :
    ∃ lead gap inside rest, line = lead ++ ("for".toList ++ (gap ++ '(' :: (inside ++ rest))) ∧
      (∀ c ∈ lead ++ gap, isSpace c = true) ∧ ';' ∉ inside ∧ rest.head? = some ';' ∧
      clause = trim inside := by
  -- The header is read up to its semicolon, with what is skipped in front of each part.
  obtain ⟨clauses, opened, -⟩ := Option.bind_eq_some_iff.mp found
  obtain ⟨clauseText, semicolon⟩ := eq_trim_of_loopStart? opened found
  obtain ⟨rest, parts⟩ := exists_split_first semicolon
  unfold afterOpening? at opened
  rw [List.findSome?_singleton] at opened
  obtain ⟨tail, word, paren⟩ := Option.bind_eq_some_iff.mp opened
  -- White space is skipped in front of the word and behind it.
  obtain ⟨lead, outer, leads⟩ := exists_gap_of_skipSpace line
  obtain ⟨gap, inner, gaps⟩ := exists_gap_of_skipSpace tail
  rw [eq_append_of_after? word] at outer
  rw [eq_append_of_after? paren] at inner
  refine ⟨lead, gap, clauses.takeWhile (· != ';'), ';' :: rest, ?_, ?_,
    not_mem_takeWhile ';' clauses, rfl, clauseText⟩
  · -- The parts are put together again behind what has been skipped.
    rw [← parts, ← List.singleton_append, ← inner]
    exact outer
  · intro c member
    exact (List.mem_append.mp member).elim (leads c) (gaps c)

/-- A statement with a loop header is what follows the header. -/
theorem body_loop {gap rest : Text} (blank : ∀ c ∈ gap, isSpace c = true) :
    afterOpening? ["for".toList] ("for".toList ++ (gap ++ '(' :: rest)) = some rest ∧
      body ("for".toList ++ (gap ++ '(' :: rest)) =
        match closeParen? rest with
        | some (_, after) => body (trim after)
        | none => [] := by
  -- The word, the white space and the parenthesis are read as they stand.
  have opened : (after? "for".toList ("for".toList ++ (gap ++ '(' :: rest))).bind
      (fun tail => after? ['('] (skipSpace tail)) = some rest := by
    rw [after?_append, Option.bind_some, skipSpace_append blank]
    rfl
  -- None of the other keywords starts the statement.
  have header : header? ("for".toList ++ (gap ++ '(' :: rest)) = some (.paren rest) := by
    have plain : afterSpaced? "else".toList ("for".toList ++ (gap ++ '(' :: rest)) = none := rfl
    have other : after? "if".toList ("for".toList ++ (gap ++ '(' :: rest)) = none := rfl
    have keywords : controlKeywords = ["if".toList, "for".toList, "while".toList] := rfl
    unfold header? afterBranch? afterOpening?
    rw [plain, keywords, List.findSome?_cons, other, Option.bind_none, List.findSome?_cons, opened]
    rfl
  constructor
  · unfold afterOpening?
    rw [List.findSome?_singleton]
    exact opened
  · rw [body]
    -- The header is the one with a parenthesis.
    split
    · rename_i read
      rw [header] at read
      cases read
    · rename_i read
      rw [header] at read
      cases read
    · rename_i found read
      rw [header] at read
      cases read
      split
      · rename_i closed
        rw [closed]
      · rename_i closed
        rw [closed]

/-- What follows a parenthesis that holds a semicolon is behind the text in front of that. -/
theorem holds_behind_paren {inside more part tail : Text} (plain : ';' ∉ inside)
    (split : inside ++ more = part ++ tail)
    (ended : ((closeParen? part).any fun (within, _) => !within.contains ';') = false) :
    Holds more [match closeParen? part with
      | some (_, after) => body (trim after)
      | none => []] := by
  -- Without a parenthesis that closes, nothing is behind it.
  cases closed : closeParen? part with
  | none => exact ⟨[], more, rfl, trivial⟩
  | some answer =>
    obtain ⟨within, after⟩ := answer
    obtain ⟨parts, -⟩ := closed_of_closeParen? closed
    have semicolon : ';' ∈ within := by simpa [closed] using ended
    have rest : Holds (')' :: (after ++ tail)) [body (trim after)] :=
      (((Holds.trim after).trans (holds_body _)).before tail).behind [')']
    rw [parts, List.append_assoc] at split
    -- The first semicolon is inside the parenthesis, so the parenthesis closes behind the text.
    rcases List.append_eq_append_iff.mp split with ⟨gone, -, right⟩ | ⟨gone, left, -⟩
    · rw [right]
      exact rest.behind gone
    · exact absurd (left ▸ List.mem_append_left gone semicolon) plain

/-- The first statement of a line is its first piece, unless that is blank. -/
theorem exists_head?_split {line : Text} (filled : trim (cutTop (· == ';') line).1 ≠ []) :
    ∃ terminated, (split line).head? =
      some ⟨trim (cutTop (· == ';') line).1, terminated⟩ := by
  -- A piece with content is not dropped.
  have kept : (!(trim (cutTop (· == ';') line).1).isEmpty) = true := by simpa using filled
  unfold split
  dsimp only
  -- A piece is dropped if it is blank, and this one is not.
  cases (cutTop (· == ';') line).2 with
  | nil =>
    rw [ofPieces, List.filter_cons, if_pos kept]
    exact ⟨false, rfl⟩
  | cons next others =>
    rw [ofPieces, List.filter_cons, if_pos kept]
    exact ⟨true, rfl⟩

/-- The clause of a loop header that is not read past the header is in front of its statement. -/
theorem holds_loop {line clause : Text} (found : loopStart? line = some clause)
    (ended : loopRunsOn line = false) :
    ∃ front back, line = front ++ back ∧
      Holds front [clause, body (trim (cutTop (· == ';') line).1)] ∧
      Holds back (cutTop (· == ';') line).2 := by
  -- The clause of the header is not read past its parenthesis.
  have finished : ((split line).head?.any fun statement =>
      (afterOpening? ["for".toList] statement.text).any fun clauses =>
        (closeParen? clauses).any fun (inside, _) => !inside.contains ';') = false := by
    unfold loopRunsOn at ended
    rw [found, Option.isSome_some, Bool.true_and] at ended
    exact ended
  obtain ⟨lead, gap, inside, rest, whole, blank, plain, -, rfl⟩ := exists_loopHeader found
  have leads : ∀ c ∈ lead, isSpace c = true := fun c member => blank c (by simp [member])
  have gaps : ∀ c ∈ gap, isSpace c = true := fun c member => blank c (by simp [member])
  generalize header : lead ++ ("for".toList ++ (gap ++ ['('])) = front at *
  have same : line = front ++ inside ++ rest := by
    rw [whole, ← header]
    simp
  -- The header takes no semicolon, so it is in front of the first piece.
  have unended : ';' ∉ front ++ inside := by
    have solid : isSpace ';' = false := by decide
    rw [← header]
    simp only [List.mem_append, not_or]
    refine ⟨⟨fun member => ?_, by decide, fun member => ?_, by decide⟩, plain⟩
    · rw [leads _ member] at solid
      cases solid
    · rw [gaps _ member] at solid
      cases solid
  -- The first piece goes from the header on to some semicolon behind the clause.
  obtain ⟨more, back, first, behind, holds⟩ := exists_cutTop_append unended rest
  rw [← same] at first holds
  have last : ("for".toList ++ (gap ++ ['('])).getLast?.any isSpace = false := by
    rw [← List.append_assoc, List.getLast?_concat]
    decide
  obtain ⟨part, tail, trimmed, split⟩ :=
    exists_trim_solid (by simp) (by rfl) last (inside ++ more)
  have statement : trim (cutTop (· == ';') line).1 = "for".toList ++ (gap ++ '(' :: part) := by
    rw [first, ← header, List.append_assoc, List.append_assoc, trim_append_left leads, trimmed]
    simp
  obtain ⟨opened, left⟩ := @body_loop gap part gaps
  -- Its parenthesis holds a semicolon, namely the one behind the clause.
  have closes : ((closeParen? part).any fun (within, _) => !within.contains ';') = false := by
    obtain ⟨terminated, head⟩ := @exists_head?_split line (by simp [statement])
    rw [head, Option.any_some, statement, opened, Option.any_some] at finished
    exact finished
  -- The clause and the statement are inside the first piece, and the others behind it.
  refine ⟨front ++ (inside ++ more), back, ?_, ?_, holds⟩
  · rw [same, behind]
    simp
  · rw [statement, left]
    exact ((Holds.trim inside).append (holds_behind_paren plain split closes)).behind front

/-- The statements of a line stand in it one behind the other. -/
theorem holds_effective {line : Text} (ended : loopRunsOn line = false)
    (withUnterminated : Bool) : Holds line (effective line withUnterminated) := by
  obtain ⟨bodies, parts, fewer⟩ := exists_effective line withUnterminated
  have left : ∀ piece, Holds piece [body (trim piece)] := fun piece =>
    (Holds.trim piece).trans (holds_body (trim piece))
  rw [parts]
  -- Without a loop header the statements are what the pieces leave.
  cases found : loopStart? line with
  | none =>
    rw [Option.toList_none, List.nil_append]
    exact ((holds_splitTop _ line).map fun piece _ => left piece).sublist fewer
  | some clause =>
    -- The clause comes first, and then what the pieces leave.
    obtain ⟨front, back, whole, first, others⟩ := holds_loop found ended
    have together := first.append (others.map fun piece _ => left piece)
    rw [← whole] at together
    exact together.sublist (fewer.cons_cons clause)

end Statement

namespace Declaration

/-- The items of a statement, if the statement is a declaration. -/
def partsOf (statement : Text) : List Text :=
  match split? statement with
  | some (_, declared) =>
    if startsWithCall declared then [] else splitTop (· == ',') declared
  | none => []

/-- The items of a declaration are read from its parts. -/
theorem items_eq {statement : Text} {declaration : Declaration}
    (read : parse? statement = some declaration) :
    declaration.items = (partsOf statement).map itemOf := by
  -- Both read the statement up to its type in the same way.
  obtain ⟨⟨type, declared⟩, cut, parsed⟩ := Option.bind_eq_some_iff.mp read
  unfold partsOf
  dsimp only at parsed
  rw [cut]
  -- What starts like a function declares nothing in either.
  split at parsed
  · cases parsed
  · rename_i named
    cases parsed
    exact (congrArg (List.map itemOf) (if_neg named)).symm

/-- The items of a statement stand in it one behind the other. -/
theorem holds_partsOf (statement : Text) : Holds statement (partsOf statement) := by
  -- A statement that declares nothing has no parts.
  unfold partsOf
  split
  · rename_i type declared cut
    split
    · trivial
    · -- The declared variables are what follows the type.
      obtain ⟨front, trails, -⟩ := trails_of_split? cut
      have inside : Holds statement [declared] := trails.stands.holds
      have pieces := @Holds.flatMap statement [declared] (splitTop (· == ',')) inside fun part _ =>
        holds_splitTop _ part
      rwa [List.flatMap_cons, List.flatMap_nil, List.append_nil] at pieces
  · trivial

/-- The items that the finished statements of a line declare, as parts of the line. -/
def partsOn (line : Text) : List Text :=
  (Statement.effective line false).flatMap partsOf

/-- The names that the finished statements of a line declare, one for each item. -/
def enteredOn (line : Text) : List Text :=
  (partsOn line).map fun part => (itemOf part).name

/-- The items of a line stand in it one behind the other. -/
theorem holds_partsOn {line : Text} (ended : Statement.loopRunsOn line = false) :
    Holds line (partsOn line) :=
  (Statement.holds_effective ended false).flatMap fun statement _ => holds_partsOf statement

/-- Two places of a line that declare the same name. -/
def TwiceOn (line name : Text) : Prop :=
  ∃ first second, Holds line [first, second] ∧ first ∈ partsOn line ∧ second ∈ partsOn line ∧
    (itemOf first).name = name ∧ (itemOf second).name = name

/-- A name that a line enters twice stands at two places of the line. -/
theorem twiceOn_of_count {line name : Text} (ended : Statement.loopRunsOn line = false)
    (twice : 2 ≤ (enteredOn line).count name) : TwiceOn line name := by
  have pair := List.replicate_sublist_iff.mpr twice
  obtain ⟨parts, listed, names⟩ := List.sublist_map_iff.mp pair
  -- Two names come from two parts.
  match parts, names, listed with
  | [first, second], names, listed =>
    obtain ⟨one, two⟩ : name = (itemOf first).name ∧ name = (itemOf second).name := by
      simpa [List.replicate] using names
    exact ⟨first, second, (holds_partsOn ended).sublist listed, listed.subset (by simp),
      listed.subset (by simp), one.symm, two.symm⟩
  -- No other list of parts has two names.
  | [], names, _ => simp [List.replicate] at names
  | [_], names, _ => simp [List.replicate] at names
  | _ :: _ :: _ :: _, names, _ => simp [List.replicate] at names

end Declaration

end SourceLint
