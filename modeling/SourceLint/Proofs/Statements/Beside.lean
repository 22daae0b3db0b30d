import SourceLint.Proofs.Reading
import SourceLint.Proofs.Text.Splitting

/-!
Statements that share a line.

Behind a semicolon the statements of a line are those that its rest has on its own. Only a loop
header is read differently there, since its first clause is looked for at the front of a line.
-/

namespace SourceLint

open Text

/-- Steps on two lists of entries are run one list after the other. -/
theorem SymbolTable.runAll_append {α β : Type} (table : SymbolTable)
    (step : SymbolTable → α → SymbolTable × List β) (entries more : List α) :
    table.runAll step (entries ++ more) =
      (((table.runAll step entries).1.runAll step more).1,
        (table.runAll step entries).2 ++ ((table.runAll step entries).1.runAll step more).2) := by
  -- By induction on the first list.
  induction entries generalizing table with
  | nil => rfl
  | cons entry entries ih => simp only [List.cons_append, runAll, ih, List.append_assoc]

namespace Statement

/-- The pieces in front of a further one are all ended by semicolons. -/
theorem ofPieces_append (first : Text) (others : List Text) (next : Text) (more : List Text) :
    ofPieces first (others ++ next :: more) =
      ((first :: others).map fun piece => ⟨trim piece, true⟩) ++ ofPieces next more := by
  -- By induction on the pieces in front.
  induction others generalizing first with
  | nil => rfl
  | cons other others ih =>
    rw [List.cons_append, ofPieces, ih]
    rfl

/-- A text without characters has no statements. -/
theorem split_nil : split [] = [] :=
  rfl

section Semicolon

variable {front : Text} (unquoted : literalAfter none front = none)
  (balanced : depthAfter 0 (mask front) = 0)
include unquoted balanced

/-- The statements behind a semicolon follow those that it ends. -/
theorem split_append (rest : Text) :
    split (front ++ ';' :: rest) = split (front ++ [';']) ++ split rest := by
  -- The front is cut where it is cut alone, and the rest behind its semicolon is cut anew.
  have cut : ∀ rest, split (front ++ ';' :: rest) =
      (((cutTop (· == ';') front).1 :: (cutTop (· == ';') front).2).map fun piece =>
        (⟨trim piece, true⟩ : Statement)).filter (fun statement => !statement.text.isEmpty) ++
          split rest := by
    intro rest
    rw [split, cutTop_append_separator (by decide) (by decide) (by decide) (by decide)
      (closed_of_literalAfter unquoted) balanced]
    dsimp only
    rw [ofPieces_append, List.filter_append]
    rfl
  -- Without a rest there is nothing behind the statements in front.
  rw [cut rest, cut [], split_nil, List.append_nil]

end Semicolon

/-- An opening in front of a character that ends words is found with and without it. -/
theorem afterOpening?_append_semicolon {keywords : List Text}
    (plain : ∀ keyword ∈ keywords, ';' ∉ keyword) (text rest : Text) :
    afterOpening? keywords (text ++ ';' :: rest) =
      (afterOpening? keywords text).map (· ++ ';' :: rest) := by
  unfold afterOpening?
  -- By induction on the keywords, the first of which that opens is taken.
  induction keywords with
  | nil => rfl
  | cons keyword keywords ih =>
    -- The semicolon neither goes on with the keyword nor is the parenthesis behind it.
    have here : (after? keyword (text ++ ';' :: rest)).bind
        (fun rest => after? ['('] (skipSpace rest)) =
          ((after? keyword text).bind fun rest => after? ['('] (skipSpace rest)).map
            (· ++ ';' :: rest) := by
      rw [after?_append_stop (plain keyword (by simp))]
      cases after? keyword text with
      | none => rfl
      | some tail =>
        have skipped : skipSpace (tail ++ ';' :: rest) = skipSpace tail ++ ';' :: rest :=
          dropWhile_append_stop rfl tail
        rw [Option.map_some, Option.bind_some, Option.bind_some, skipped,
          after?_append_stop (by decide)]
    rw [List.findSome?_cons, List.findSome?_cons, here]
    -- The first keyword opens in both texts, or the others are asked.
    cases (after? keyword text).bind fun rest => after? ['('] (skipSpace rest) with
    | none => exact ih fun keyword member => plain keyword (by simp [member])
    | some _ => rfl

/-- The first clause of a loop header ends in front of every semicolon. -/
theorem loopStart?_append_semicolon (front rest : Text) :
    loopStart? (front ++ ';' :: rest) = loopStart? (front ++ [';']) := by
  -- What is read of the line ends at the semicolon or in front of it.
  have clause : ∀ rest, loopStart? (front ++ ';' :: rest) =
      (afterOpening? ["for".toList] (skipSpace front)).bind fun clauses =>
        let clause := trim (clauses.takeWhile (· != ';'))
        if !clause.isEmpty then some clause else none := by
    intro rest
    have skipped : skipSpace (front ++ ';' :: rest) = skipSpace front ++ ';' :: rest :=
      dropWhile_append_stop rfl front
    rw [loopStart?, skipped, afterOpening?_append_semicolon (by decide)]
    cases afterOpening? ["for".toList] (skipSpace front) with
    | none => rfl
    | some clauses =>
      have ended : (clauses ++ ';' :: rest).takeWhile (· != ';') =
          clauses.takeWhile (· != ';') := takeWhile_append_stop rfl clauses
      simp [ended]
  rw [clause rest, clause []]

/-- A semicolon at the front of a line ends no statement. -/
theorem split_semicolon (line : Text) : split (';' :: line) = split line :=
  @split_append [] rfl rfl line

/-- Behind a semicolon no loop header is looked for. -/
theorem loopStart?_semicolon (line : Text) : loopStart? (';' :: line) = none :=
  loopStart?_append_semicolon [] line

/-- White space in front of a line goes to its first piece, which is trimmed. -/
theorem split_space (line : Text) : split (' ' :: line) = split line := by
  have flat : Flat (· == ';') [' '] := ⟨closed_of_plain (by decide), by decide⟩
  -- The blank opens no literal and cuts nothing.
  have cut : cutTop (· == ';') (' ' :: line) =
      (' ' :: (cutTop (· == ';') line).1, (cutTop (· == ';') line).2) :=
    cutTop_append_flat flat line
  have trimmed : ∀ piece, trim (' ' :: piece) = trim piece :=
    @trim_append_left [' '] (by decide)
  -- The first piece has the blank in front, and it is trimmed with it and without it.
  unfold split
  rw [cut]
  dsimp only
  cases (cutTop (· == ';') line).2 <;> simp only [ofPieces, trimmed]

variable (line : Text) (withUnterminated : Bool)

/-- A line has the first clause of its loop header besides what it does behind a semicolon. -/
theorem effective_eq : effective line withUnterminated =
    (loopStart? line).toList ++ effective (';' :: line) withUnterminated := by
  -- In front of the semicolon there is no statement and no loop.
  rw [effective, effective, split_semicolon, loopStart?_semicolon]
  rfl

/-- White space behind a semicolon changes nothing. -/
theorem effective_semicolon_space : effective (';' :: ' ' :: line) withUnterminated =
    effective (';' :: line) withUnterminated := by
  -- The blank belongs to a piece that is trimmed.
  rw [effective, effective, split_semicolon, split_semicolon, split_space, loopStart?_semicolon,
    loopStart?_semicolon]

/-- The statements of a text that a semicolon ends come before those behind the semicolon. -/
theorem effective_append {front : Text} (unquoted : literalAfter none front = none)
    (balanced : depthAfter 0 (mask front) = 0) :
    effective (front ++ ';' :: line) withUnterminated =
      effective (front ++ [';']) withUnterminated ++
        effective (';' :: line) withUnterminated := by
  -- The statements of both texts are listed in their order.
  rw [effective, effective, effective, split_append unquoted balanced, split_semicolon,
    loopStart?_append_semicolon, loopStart?_semicolon, List.filterMap_append, List.append_assoc]
  rfl

end Statement

namespace Registration

/--
Two texts on one line do what they do on two lines, if the first one leaves nothing open.

The one thing that the line loses is the first clause of a loop header that starts the second text.
-/
theorem enterLine_beside {front : Text} (unquoted : literalAfter none front = none)
    (balanced : depthAfter 0 (mask front) = 0) (back : Text) (registration : Registration)
    (table : SymbolTable) :
    let together := registration.enterLine table (front ++ "; ".toList ++ back)
    (Statement.loopStart? back = none →
        together = table.runAll registration.enterLine [front ++ [';'], back]) ∧
      ∀ clause ∈ Statement.loopStart? back,
        Statement.effective back false = clause :: Statement.effective (';' :: back) false ∧
          together = table.runAll registration.enterLine [front ++ [';'], ';' :: back] := by
  -- The blank behind the semicolon is the only difference from the text with a semicolon.
  have line : front ++ "; ".toList ++ back = front ++ ';' :: ' ' :: back := by simp
  -- Behind the semicolon the second text is entered without a loop header.
  have behind : registration.enterLine table (front ++ "; ".toList ++ back) =
      table.runAll registration.enterLine [front ++ [';'], ';' :: back] := by
    rw [line, enterLine, Statement.effective_append _ _ unquoted balanced,
      Statement.effective_semicolon_space, SymbolTable.runAll_append]
    simp [SymbolTable.runAll, enterLine]
  have whole := Statement.effective_eq back false
  -- Without a loop header the second text does the same behind a semicolon and alone.
  refine ⟨fun headless => ?_, fun clause start => ⟨?_, behind⟩⟩
  · rw [headless, Option.toList_none, List.nil_append] at whole
    rw [behind]
    simp only [SymbolTable.runAll, enterLine, whole]
  · rw [whole, Option.mem_def.mp start]
    rfl

/-- A declaration with brackets and literals in front of a statement under a control header. -/
theorem enterLine_beside_header :
    let registration : Registration := ⟨true, 4⟩
    let front := "int a = f(\";\", '('); string b = \"(\"".toList
    let back := "if (a > ';') a = b; int c".toList
    literalAfter none front = none ∧ depthAfter 0 (mask front) = 0 ∧
      Statement.loopStart? back = none ∧
      registration.enterLine {} (front ++ "; ".toList ++ back) =
        SymbolTable.runAll {} registration.enterLine [front ++ [';'], back] ∧
      (registration.enterLine {} (front ++ "; ".toList ++ back)).2 =
        [.badInitializer .int, .badValue (.known .int)] := by
  -- Neither text leaves anything open, and no loop starts the second one.
  refine ⟨by decide, by decide, by decide, ?_, by decide +kernel⟩
  exact (@enterLine_beside _ (by decide) (by decide) _ ⟨true, 4⟩ {}).1 (by decide)

/--
A loop that stands behind another statement does not declare its variable.

So the body of the loop reads a name that stands for nothing, which it does not on a line of its
own.
-/
theorem loop_beside_undeclared :
    let registration : Registration := ⟨false, 1⟩
    let front := "int x".toList
    let back := "for (int i = 0; i < 3; i++) x = i;".toList
    literalAfter none front = none ∧ depthAfter 0 (mask front) = 0 ∧
      registration.enterLine {} (front ++ "; ".toList ++ back) =
        ({ current := [⟨"x".toList, .known .int, true, 1⟩] }, [.badValue (.known .int)]) ∧
      SymbolTable.runAll {} registration.enterLine [front ++ [';'], back] =
        ({ current := [⟨"x".toList, .known .int, true, 1⟩, ⟨"i".toList, .known .int, true, 1⟩] },
          []) := by
  -- Both sides can be evaluated.
  decide +kernel

end Registration

end SourceLint
