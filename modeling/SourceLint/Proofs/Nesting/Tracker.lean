import SourceLint.Proofs.Insertion.Token
import SourceLint.Proofs.Nesting.Line
import SourceLint.Proofs.Nesting.Program
import SourceLint.Proofs.Rescan.Tracker

/-!
An `else` in programs of nested blocks.

A block is remembered as a branch only if its brace stands on the line of the header. So an `else`
behind such a block is accepted, and one behind a block with its brace on the next line is reported.
-/

namespace SourceLint

open Text

namespace ElseTracker

/-- Reads line after line and keeps what is found on each of them. -/
def checkLines : ElseTracker → List Text → ElseTracker × List (List Finding)
  | tracker, [] => (tracker, [])
  | tracker, line :: others =>
    let (tracker, found) := tracker.check line
    let (tracker, later) := tracker.checkLines others
    (tracker, found :: later)

/-- Several lines are read after several others. -/
theorem checkLines_append (tracker : ElseTracker) (first second : List Text) :
    tracker.checkLines (first ++ second) =
      (((tracker.checkLines first).1.checkLines second).1,
        (tracker.checkLines first).2 ++ ((tracker.checkLines first).1.checkLines second).2) := by
  -- The tracker that the first lines leave is where the others start.
  induction first generalizing tracker with
  | nil => rfl
  | cons line others ih => simp [checkLines, ih]

/-- Closing a block takes the tracker back to where the block was opened. -/
theorem closeBlock_openBlock {tracker : ElseTracker} (nested : tracker.Nested)
    (ofIf expecting : Bool) :
    ((tracker.openBlock ofIf).ready expecting).closeBlock = tracker.ready expecting ∧
      ((tracker.openBlock ofIf).ready expecting).inIf = ofIf := by
  cases ofIf with
  | true =>
    -- The block was remembered last, and it is forgotten first.
    simp [openBlock, closeBlock, inIf, ready]
  | false =>
    -- The blocks of branches were all opened further out.
    have outside : ((tracker.openBlock false).ready expecting).inIf = false := by
      rw [inIf, beq_eq_false_iff_ne]
      intro innermost
      have small := (nested.open_ _ (List.mem_of_head? innermost)).2
      exact absurd small (Nat.not_succ_le_self _)
    refine ⟨?_, outside⟩
    rw [closeBlock, outside]
    rfl

/-- A closing brace in front of a line is told from the line, with the white space behind it. -/
theorem exists_leading {gap line rest : Text} (blank : ∀ c ∈ gap, isSpace c = true)
    (view : trim (mask line) = rest) (filled : rest ≠ []) :
    ∃ lead, trim (mask ('}' :: (gap ++ line))) = lead ++ rest ∧
      (∀ c ∈ lead, isLeading c = true) ∧ lead.count '}' = 1 := by
  obtain ⟨inner, tail, split, indented, spaced⟩ := exists_eq_trim (mask line)
  have spaces : ∀ c ∈ gap ++ inner, isSpace c = true :=
    List.forall_mem_append.mpr ⟨blank, indented⟩
  refine ⟨'}' :: (gap ++ inner), ?_, ?_, ?_⟩
  · -- Neither the brace nor the white space opens a literal.
    have outside : ∀ c ∈ '}' :: gap, isQuote c = false := by
      refine List.forall_mem_cons.mpr ⟨by decide, fun c member => ?_⟩
      exact isQuote_of_isSpace (blank c member)
    have shown : mask ('}' :: (gap ++ line)) = '}' :: (gap ++ inner) ++ rest ++ tail := by
      rw [← List.cons_append, mask, maskWith_append_plain _ outside, ← mask, split, view]
      simp
    rw [shown, trim_append_right spaced]
    -- The text starts with the brace and ends like the line.
    refine trim_of_ends rfl ?_
    have ends := getLast?_trim (mask line)
    rw [view, List.getLast?_eq_some_getLast filled] at ends
    rw [List.getLast?_append, List.getLast?_eq_some_getLast filled]
    exact ends
  · -- The front is the brace and white space.
    refine List.forall_mem_cons.mpr ⟨by decide, fun c member => ?_⟩
    simp [isLeading, spaces c member]
  · -- White space holds no brace, so there is just the one.
    have absent : '}' ∉ gap ++ inner := fun member => absurd (spaces _ member) (by decide)
    rw [List.count_cons_self, List.count_eq_zero.mpr absent]

end ElseTracker

/-- The view of a header with its brace ends with that brace and is read as the header is. -/
theorem Opens.exists_view {header : Text} (opens : Opens header) :
    ∃ front, trim (mask (header ++ [' ', '{'])) = front ++ ['{'] ∧
      (∀ c ∈ front, c ≠ '{' ∧ c ≠ '}') ∧
      (front ++ ['{']).head?.any ElseTracker.isLeading = false ∧
      LineShape.isBranchHeader (front ++ ['{']) = LineShape.isBranchHeader (mask header) ∧
      LineShape.startsWithElse (front ++ ['{']) = LineShape.startsWithElse (mask header) := by
  -- A header may be empty, and then the brace is alone on its line.
  by_cases bare : header = []
  · -- A brace alone is moved to the front of its line.
    subst bare
    exact ⟨[], by decide, by simp, by decide, by decide, by decide⟩
  · have shown : mask (header ++ [' ', '{']) = mask header ++ [' ', '{'] := by
      rw [mask, opens.closed]
      rfl
    have filled : mask header ≠ [] := by
      rw [← List.length_pos_iff, length_mask]
      exact List.length_pos_iff.mpr bare
    -- The header starts the line and the brace ends it, so nothing is trimmed.
    have view : trim (mask (header ++ [' ', '{'])) = mask header ++ [' '] ++ ['{'] := by
      rw [shown, List.append_assoc]
      refine trim_of_ends ?_ ?_
      · have starts := head?_trim (mask header)
        have first := List.head?_eq_some_head filled
        rw [trim_mask opens.trimmed] at starts
        rw [List.head?_append, first, Option.some_or, ← first]
        exact starts
      · rw [List.getLast?_append]
        rfl
    have braceless : ∀ c ∈ mask header ++ [' '], c ≠ '{' ∧ c ≠ '}' :=
      List.forall_mem_append.mpr ⟨opens.braceless, by decide⟩
    have unclosed : '}' ∉ mask header ++ [' '] ++ ['{'] := by
      rw [List.mem_append, not_or]
      exact ⟨fun brace => (braceless _ brace).2 rfl, by decide⟩
    -- The brace is the only one, and it changes neither test.
    refine ⟨mask header ++ [' '], view, braceless, ElseTracker.starts_of_trim view unclosed, ?_, ?_⟩
    · rw [List.append_assoc]
      exact LineShape.isBranchHeader_append_brace _
    · rw [List.append_assoc]
      exact LineShape.startsWithElse_append_brace _

namespace BraceStyle

/-- Whether the block of a header is remembered as that of a branch. -/
def remembers (style : BraceStyle) (header : Text) : Bool :=
  style.isAttached && LineShape.isBranchHeader (mask header)

/-- What is found on a line of a program. -/
def reports (style : BraceStyle) (line : Text) : List Finding :=
  if !style.isAttached && LineShape.startsWithElse (mask line) then [.danglingElse] else []

/-- Lines take one tracker to another, and what is found depends on the style alone. -/
def Passes (style : BraceStyle) (tracker : ElseTracker) (lines : List Text) (next : ElseTracker) :
    Prop :=
  tracker.checkLines lines = (next, lines.map style.reports)

variable {style : BraceStyle} {tracker : ElseTracker} {header : Text}

/-- One line is passed when it is checked. -/
theorem passes_line {line : Text} {next : ElseTracker}
    (checked : tracker.check line = (next, style.reports line)) :
    style.Passes tracker [line] next := by
  simp [Passes, ElseTracker.checkLines, checked]

/-- Lines are passed one after the other. -/
theorem Passes.append {next last : ElseTracker} {first second : List Text}
    (front : style.Passes tracker first next) (back : style.Passes next second last) :
    style.Passes tracker (first ++ second) last := by
  -- The lines are checked one after the other, and their findings are collected.
  rw [Passes] at front back ⊢
  rw [ElseTracker.checkLines_append, front, back, List.map_append]

/-- A plain line opens and closes nothing, and an `else` may follow it only if it is empty. -/
theorem passes_plain (line : PlainLine) (expecting : Bool) :
    style.Passes (tracker.ready expecting) [line.text]
      (tracker.ready (if (mask line.text).isEmpty then expecting else false)) := by
  -- The line is no header and no `else`, so only the flag is left.
  apply passes_line
  rw [ElseTracker.check_statement (trim_mask line.trimmed) line.braceless line.notIf,
    ElseTracker.verdict, reports, line.notElse, Bool.and_false, Bool.false_and]
  rfl

/-- A closing brace takes the tracker out of the block that was opened last. -/
theorem passes_closing (nested : tracker.Nested) (ofIf expecting : Bool) :
    style.Passes ((tracker.openBlock ofIf).ready expecting) [['}']] (tracker.ready ofIf) := by
  -- The block that is closed is the one that was opened last.
  obtain ⟨outer, inside⟩ := ElseTracker.closeBlock_openBlock nested ofIf expecting
  have silent : style.reports ['}'] = [] := by cases style <;> decide
  apply passes_line
  rw [ElseTracker.check_closing, outer, inside, silent]
  rfl

/-- An `else` is reported where braces are detached, if it is expected where they are attached. -/
theorem reports_of_told {expecting : Bool}
    (told : LineShape.startsWithElse (mask header) = true → expecting = style.isAttached) :
    ElseTracker.verdict (mask header) expecting = style.reports header := by
  -- Only a line that starts with an `else` is reported.
  rw [ElseTracker.verdict, reports]
  cases first : LineShape.startsWithElse (mask header) with
  | false => simp
  | true => rw [told first, Bool.true_and, Bool.and_true]

/-- A header with its brace takes the tracker into a block. -/
theorem passes_opening (opens : Opens header) {expecting : Bool}
    (told : LineShape.startsWithElse (mask header) = true → expecting = style.isAttached) :
    style.Passes (tracker.ready expecting) (style.opening header)
      ((tracker.openBlock (style.remembers header)).ready false) := by
  -- What is reported depends on whether the brace is attached.
  have found := reports_of_told told
  cases style with
  | attached =>
    obtain ⟨front, view, braceless, starts, branches, otherwise⟩ := opens.exists_view
    apply passes_line
    rw [@ElseTracker.check_opening _ [] front view (by simp) starts braceless _ (.inl rfl) _ _ rfl,
      branches, ElseTracker.verdict, otherwise]
    exact congrArg _ found
  -- The header on its own line is read first, and the brace behind it opens the block.
  | detached =>
    obtain ⟨next, awaiting, checked⟩ : ∃ next awaiting, (tracker.ready expecting).check header =
        ({ tracker with expectingElse := next, awaitingBody := awaiting }, _) :=
      ⟨_, _, ElseTracker.check_braceless (trim_mask opens.trimmed) opens.braceless _⟩
    -- The flags that the header leaves are gone behind the brace.
    have first : detached.Passes (tracker.ready expecting) [header]
        { tracker with expectingElse := next, awaitingBody := awaiting } :=
      passes_line (checked.trans (congrArg _ found))
    have second : detached.Passes { tracker with expectingElse := next, awaitingBody := awaiting }
        [['{']] ((tracker.openBlock false).ready false) := by
      apply passes_line
      rw [@ElseTracker.check_opening _ [] [] (by decide) (by simp) (by decide) (by simp) _
        (.inr rfl) _ _ rfl]
      rfl
    exact first.append second

/-- The lines between two branches take the tracker from one block into the other. -/
theorem passes_reopening (nested : tracker.Nested) (joint : Joint) (opens : Opens header)
    (expecting : Bool) :
    style.Passes ((tracker.openBlock style.isAttached).ready expecting)
      (style.reopening joint header)
      ((tracker.openBlock (style.remembers header)).ready false) := by
  -- On lines of their own, the brace and the header are read one after the other.
  have apart : style.Passes ((tracker.openBlock style.isAttached).ready expecting)
      (['}'] :: style.opening header)
      ((tracker.openBlock (style.remembers header)).ready false) :=
    (passes_closing nested _ expecting).append (passes_opening opens fun _ => rfl)
  cases style with
  | detached => exact apart
  | attached =>
    -- A brace on a line of its own makes no difference where they are attached.
    cases joint with
    | nextLine => exact apart
    | sameLine gap blank =>
      obtain ⟨front, view, braceless, starts, branches, -⟩ := opens.exists_view
      obtain ⟨lead, whole, leading, single⟩ := ElseTracker.exists_leading blank view (by simp)
      -- The brace closes the block before the header is read.
      have closing : ElseTracker.closeAll (lead.count '}')
          ((tracker.openBlock true).ready expecting, expecting) =
            (tracker.ready expecting, true) := by
        obtain ⟨outer, inside⟩ := ElseTracker.closeBlock_openBlock nested true expecting
        rw [single, ElseTracker.closeAll, outer, inside, ElseTracker.closeAll]
      apply passes_line
      rw [isAttached, ElseTracker.check_opening whole leading starts braceless (.inl rfl) closing,
        branches, ElseTracker.verdict, Bool.not_true, Bool.and_false]
      rfl

end BraceStyle

mutual

/-- A program leaves the tracker as it was, apart from whether an `else` may follow. -/
theorem Program.passes (style : BraceStyle) (program : Program) {tracker : ElseTracker}
    (nested : tracker.Nested) (expecting : Bool) :
    ∃ next, style.Passes (tracker.ready expecting) (program.lines style) (tracker.ready next) := by
  -- By induction on the program.
  match program with
  | .done => exact ⟨expecting, rfl⟩
  -- A plain line changes no block.
  | .plain line next =>
    obtain ⟨last, later⟩ := next.passes style nested _
    exact ⟨last, (BraceStyle.passes_plain line expecting).append later⟩
  -- A block that is no branch is left without an `else` to follow.
  | .block header body next =>
    have inner : style.remembers header.text = false := by
      rw [BraceStyle.remembers, header.notIf, Bool.and_false]
    have opened := @BraceStyle.passes_opening style tracker _ header.opens expecting fun first => by
      rw [header.notElse] at first
      cases first
    rw [inner] at opened
    obtain ⟨middle, read⟩ := body.passes style (nested.openBlock false) false
    obtain ⟨last, later⟩ := next.passes style nested false
    have closed := @BraceStyle.passes_closing style tracker nested false middle
    exact ⟨last, opened.append (read.append (closed.append later))⟩
  -- The block of a first branch is ended by the branches behind it.
  | .branch condition body others next =>
    have inner : style.remembers condition.ifHeader = style.isAttached := by
      rw [BraceStyle.remembers, condition.isBranchHeader_ifHeader, Bool.and_true]
    have opened := @BraceStyle.passes_opening style tracker _ condition.opens_ifHeader expecting
      fun first => by
        rw [condition.startsWithElse_ifHeader] at first
        cases first
    rw [inner] at opened
    obtain ⟨middle, read⟩ := body.passes style (nested.openBlock style.isAttached) false
    obtain ⟨after, closed⟩ := others.passes style nested middle
    obtain ⟨last, later⟩ := next.passes style nested after
    exact ⟨last, opened.append (read.append (closed.append later))⟩

/-- The other branches of an `if` take the tracker out of the block of a branch. -/
theorem Branches.passes (style : BraceStyle) (branches : Branches) {tracker : ElseTracker}
    (nested : tracker.Nested) (expecting : Bool) :
    ∃ next, style.Passes ((tracker.openBlock style.isAttached).ready expecting)
      (branches.lines style) (tracker.ready next) := by
  -- By induction on the branches.
  match branches with
  | .done => exact ⟨_, BraceStyle.passes_closing nested _ expecting⟩
  -- A last branch opens a block that no other branch can follow.
  | .otherwise joint body =>
    have inner : style.remembers "else".toList = false := by cases style <;> decide
    have opened := @BraceStyle.passes_reopening style tracker _ nested joint opens_else expecting
    rw [inner] at opened
    obtain ⟨middle, read⟩ := body.passes style (nested.openBlock false) false
    exact ⟨_, opened.append (read.append (BraceStyle.passes_closing nested false middle))⟩
  -- A branch in between leaves the tracker where it was behind the branch before.
  | .elseIf joint condition body others =>
    have inner : style.remembers condition.elseIfHeader = style.isAttached := by
      rw [BraceStyle.remembers, condition.isBranchHeader_elseIfHeader, Bool.and_true]
    have opened := @BraceStyle.passes_reopening style tracker _ nested joint
      condition.opens_elseIfHeader expecting
    rw [inner] at opened
    obtain ⟨middle, read⟩ := body.passes style (nested.openBlock style.isAttached) false
    obtain ⟨last, closed⟩ := others.passes style nested middle
    exact ⟨last, opened.append (read.append closed)⟩

end

/-- Whether another branch follows one of an `if`. -/
def Branches.hasElse : Branches → Bool
  | .done => false
  | .otherwise _ _ => true
  | .elseIf _ _ _ _ => true

/-- Whether an `if` of the program has more than one branch. -/
def Program.hasElse : Program → Bool
  | .done => false
  | .plain _ next => next.hasElse
  | .block _ body next => body.hasElse || next.hasElse
  | .branch _ body others next => body.hasElse || (others.hasElse || next.hasElse)

/-- The lines that open a block start with an `else` if its header does. -/
theorem BraceStyle.any_opening {header : Text}
    (first : LineShape.startsWithElse (mask header) = false) (rest : List Text) :
    (detached.opening header ++ rest).any (fun line => LineShape.startsWithElse (mask line)) =
      rest.any fun line => LineShape.startsWithElse (mask line) := by
  -- The brace on its own line starts with no word.
  rw [opening, List.cons_append, List.any_cons, first, Bool.false_or]
  rfl

/-- A line of its own shows every branch behind the first one. -/
theorem Branches.any_startsWithElse (branches : Branches) :
    (branches.lines .detached).any (fun line => LineShape.startsWithElse (mask line)) =
      branches.hasElse := by
  -- The first line behind the branch before is a closing brace, and the next one is the header.
  cases branches with
  | done => decide
  | otherwise joint body => rfl
  | elseIf joint condition body others => rfl

/-- A line of a program starts with an `else` exactly when it opens a branch behind the first. -/
theorem Program.any_startsWithElse (program : Program) :
    (program.lines .detached).any (fun line => LineShape.startsWithElse (mask line)) =
      program.hasElse := by
  -- Only the branches behind a first one start with the word.
  match program with
  | .done => rfl
  | .plain line next =>
    rw [lines, List.any_cons, line.notElse, Bool.false_or, next.any_startsWithElse]
    rfl
  | .block header body next =>
    rw [lines, BraceStyle.any_opening header.notElse, List.any_append, List.any_cons,
      body.any_startsWithElse, next.any_startsWithElse]
    rfl
  | .branch condition body others next =>
    rw [lines, BraceStyle.any_opening condition.startsWithElse_ifHeader, List.any_append,
      List.any_append, body.any_startsWithElse, others.any_startsWithElse, next.any_startsWithElse]
    rfl

namespace Program

/-- A tracker that has read nothing before reads a program to its end. -/
theorem passes_fresh (style : BraceStyle) (program : Program) :
    ∃ next, style.Passes {} (program.lines style) (ElseTracker.ready {} next) := by
  -- At the start there is no block and no branch.
  have nested : ({} : ElseTracker).Nested := ⟨by simp, by simp⟩
  exact program.passes style nested false

/--
In a program with attached braces every `else` follows its `if`.

Nothing is reported, and in the end no block is open.
-/
theorem attached_unreported (program : Program) :
    let outcome := ({} : ElseTracker).checkLines (program.lines .attached)
    (∀ findings ∈ outcome.2, findings = []) ∧ outcome.1.depth = 0 ∧ outcome.1.ifDepths = [] := by
  obtain ⟨next, passes⟩ := program.passes_fresh .attached
  rw [BraceStyle.Passes] at passes
  rw [passes]
  -- The program passes every line without a finding and leaves a fresh tracker.
  refine ⟨fun findings listed => ?_, rfl, rfl⟩
  obtain ⟨line, -, rfl⟩ := List.mem_map.mp listed
  rfl

/--
In a program with detached braces every `else` is reported, and nothing else is.

So nothing is reported exactly when no `if` has a second branch.
-/
theorem detached_reported (program : Program) :
    let found := (({} : ElseTracker).checkLines (program.lines .detached)).2
    found = (program.lines .detached).map (fun line =>
        if LineShape.startsWithElse (mask line) then [.danglingElse] else []) ∧
      ((∀ findings ∈ found, findings = []) ↔ program.hasElse = false) := by
  -- The findings are those of the style, one list for each line.
  obtain ⟨next, passes⟩ := program.passes_fresh .detached
  rw [BraceStyle.Passes] at passes
  rw [passes]
  refine ⟨rfl, ?_⟩
  -- Both sides say that no line starts with an `else`.
  rw [← program.any_startsWithElse, List.any_eq_false, List.forall_mem_map]
  refine forall₂_congr fun line _ => ?_
  -- An `else` is always reported there, and any other line never.
  cases first : LineShape.startsWithElse (mask line) with
  | false => simp [BraceStyle.reports, first]
  | true => simp [BraceStyle.reports, BraceStyle.isAttached, first]

/-- An `else` behind a block with its brace on the next line is reported. -/
theorem detached_else_dangles :
    let condition : Condition := ⟨"a".toList, closed_of_plain (by decide), by decide⟩
    let program : Program := .branch condition .done (.otherwise .nextLine .done) .done
    program.lines .detached =
        ["if (a)", "\x7b", "\x7d", "else", "\x7b", "\x7d"].map String.toList ∧
      [.danglingElse] ∈ (({} : ElseTracker).checkLines (program.lines .detached)).2 := by
  decide +kernel

end Program

end SourceLint
