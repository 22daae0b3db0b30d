import Mathlib.Data.List.DropRight
import SourceLint.Proofs.Matching.Line
import SourceLint.Proofs.Rescan.Tracker
import SourceLint.Proofs.Sections
import SourceLint.Proofs.Text.Class
import SourceLint.Rule

/-!
The state of the tracker behind any lines.

However badly the braces of the lines are nested, the depth is the number of blocks that they leave
open. The blocks of branches are among those, and an `else` is never expected while a header waits
for its statement.
-/

namespace SourceLint.ElseTracker

open Text

/-- What a tracker is given: a line to read, or the start of another text. -/
inductive Step where
  | line (text : Text)
  | reset
deriving DecidableEq

/-- The line that a step reads. -/
def Step.line? : Step → Option Text
  | line text => some text
  | reset => none

/-- One step. At the start of another text everything is forgotten. -/
def apply (tracker : ElseTracker) : Step → ElseTracker
  | .line text => (tracker.check text).1
  | .reset => {}

/-- Any number of steps. -/
def run (tracker : ElseTracker) (steps : List Step) : ElseTracker :=
  steps.foldl apply tracker

/-- The lines that have been read since the last start of a text. -/
def linesRead (steps : List Step) : List Text :=
  (steps.rtakeWhile (· ≠ .reset)).filterMap Step.line?

/-- How many blocks are open behind a text. Where none is open a closing brace closes none. -/
def blocksAfter (depth : Nat) (text : Text) : Nat :=
  Sections.depth '{' '}' depth text

/-- The tracker of a pass takes such steps: a line by its check, a start by the reset of a pass. -/
theorem apply_eq_of_pass (registration : Registration) (state : Rule.State) (line : Text) :
    (Rule.danglingElse.check registration state line).1.tracker = state.tracker.apply (.line line) ∧
      state.reset.tracker = state.tracker.apply .reset :=
  ⟨rfl, rfl⟩

/-- The blocks of a text are counted where those of its front are left. -/
theorem blocksAfter_append (depth : Nat) (first second : Text) :
    blocksAfter depth (first ++ second) = blocksAfter (blocksAfter depth first) second := by
  -- Both counts are folds over the characters.
  exact List.foldl_append

/-- Text without braces opens and closes nothing. -/
theorem blocksAfter_braceless {text : Text} (braceless : ∀ c ∈ text, c ≠ '{' ∧ c ≠ '}')
    (depth : Nat) : blocksAfter depth text = depth := by
  induction text with
  | nil => rfl
  | cons c rest ih =>
    obtain ⟨⟨unopened, unclosed⟩, others⟩ := List.forall_mem_cons.mp braceless
    -- The first character is no brace, and neither is any other.
    show blocksAfter (Sections.move '{' '}' depth c) rest = depth
    rw [Sections.move, if_neg unopened, if_neg unclosed]
    exact ih others

/-- Each closing brace at the front of a line closes a block, as long as there is one. -/
theorem blocksAfter_leading {lead : Text} (leading : ∀ c ∈ lead, isLeading c = true) (depth : Nat) :
    blocksAfter depth lead = depth - lead.count '}' := by
  -- By induction on the front, which has closing braces and white space only.
  induction lead generalizing depth with
  | nil => rfl
  | cons c lead ih =>
    obtain ⟨first, others⟩ := List.forall_mem_cons.mp leading
    have unopened : c ≠ '{' := ne_of_class first (by decide)
    show blocksAfter (Sections.move '{' '}' depth c) lead = depth - (c :: lead).count '}'
    rw [Sections.move, if_neg unopened, List.count_cons]
    -- A brace takes one from the depth, and white space leaves it as it is.
    by_cases closing : c = '}'
    · rw [if_pos closing, ih others, closing]
      simp only [BEq.rfl, if_true]
      omega
    · rw [if_neg closing, ih others]
      simp [closing]

variable {tracker : ElseTracker}

/-- Closing several blocks takes their number from the depth. -/
theorem depth_closeAll (count : Nat) (state : ElseTracker × Bool) :
    (closeAll count state).1.depth = state.1.depth - count := by
  induction count with
  | zero => rfl
  | succ count ih =>
    -- The last of the blocks is closed behind all others.
    rw [closeAll_succ]
    show (closeAll count state).1.depth - 1 = state.1.depth - (count + 1)
    omega

/-- Closing several blocks leaves the blocks of branches nested. -/
theorem nested_closeAll {state : ElseTracker × Bool} (nested : state.1.Nested) (count : Nat) :
    (closeAll count state).1.Nested := by
  -- By induction on the number of closing braces.
  induction count with
  | zero => exact nested
  | succ count ih =>
    rw [closeAll_succ]
    exact ih.closeBlock

/-- A character opens a block, closes one or does neither. -/
theorem Progress.depth_step (header : Bool) (progress : Progress) (c : Char) :
    (progress.step header c).tracker.depth =
      Sections.move '{' '}' progress.tracker.depth c := by
  rw [Progress.step, Sections.move]
  -- The tests are the same ones, made in the same order.
  split
  · rfl
  · split <;> rfl

/-- The characters of a line open and close blocks in their order. -/
theorem Progress.depth_foldl (header : Bool) (text : Text) (progress : Progress) :
    (text.foldl (Progress.step header) progress).tracker.depth =
      blocksAfter progress.tracker.depth text := by
  -- By induction on the text, one brace at a time.
  induction text generalizing progress with
  | nil => rfl
  | cons c rest ih =>
    rw [List.foldl_cons, ih, depth_step]
    rfl

/-- A character leaves the blocks of branches nested. -/
theorem Progress.nested_step (header : Bool) {progress : Progress}
    (nested : progress.tracker.Nested) (c : Char) : (progress.step header c).tracker.Nested := by
  -- A brace opens a block or closes one, and any other character does nothing.
  rw [Progress.step]
  split
  · exact nested.openBlock _
  · split
    · exact nested.closeBlock
    · exact nested

/-- All characters of a line leave the blocks of branches nested. -/
theorem Progress.nested_foldl (header : Bool) (text : Text) {progress : Progress}
    (nested : progress.tracker.Nested) :
    (text.foldl (Progress.step header) progress).tracker.Nested := by
  -- By induction on the text.
  induction text generalizing progress with
  | nil => exact nested
  | cons c rest ih => exact ih (nested_step header nested c)

/-- A line opens and closes the blocks of its braces outside literals, each of them once. -/
theorem depth_check (tracker : ElseTracker) (line : Text) :
    (tracker.check line).1.depth = blocksAfter tracker.depth (mask line) := by
  -- The braces at the front of the line are read first, then its content. The rest is white space.
  obtain ⟨gap, split, blank, -⟩ := exists_gap line
  have leading : ∀ c ∈ front line, isLeading c = true := fun c member =>
    List.mem_takeWhile_imp member
  rw [split, blocksAfter_append, blocksAfter_append,
    blocksAfter_braceless (braceless_of_blank blank), blocksAfter_leading leading, check_eq]
  -- The content starts at the depth that the front has left.
  show ((content line).foldl (Progress.step (isHeader line)) _).tracker.depth = _
  rw [Progress.depth_foldl]
  exact congrArg (blocksAfter · (content line)) (depth_closeAll _ _)

/-- A line leaves the blocks of branches nested. -/
theorem Nested.check (nested : tracker.Nested) (line : Text) : (tracker.check line).1.Nested := by
  have closed : (closeAll ((front line).count '}') (tracker, tracker.expectingElse)).1.Nested :=
    nested_closeAll nested _
  -- What may follow the line is noted last, and that changes no block.
  obtain ⟨inside, falling⟩ := @Progress.nested_foldl (isHeader line) (content line) ⟨_, _, _⟩ closed
  rw [check_eq]
  exact ⟨inside, falling⟩

/-- Behind a line no `else` is expected while the line waits for a statement. -/
theorem not_both_check (tracker : ElseTracker) (line : Text) :
    ¬((tracker.check line).1.expectingElse = true ∧
      (tracker.check line).1.awaitingBody = true) := by
  rw [check_eq]
  dsimp only
  -- Only what the flags of the progress say matters.
  generalize (content line).foldl (Progress.step (isHeader line)) _ = progress
  rintro ⟨expecting, awaiting⟩
  -- Only a header waits, and only if it neither opens its block nor has its statement behind it.
  rw [Bool.and_eq_true, Bool.and_eq_true, Bool.not_eq_true', Bool.not_eq_true'] at awaiting
  obtain ⟨⟨headed, unopened⟩, unfinished⟩ := awaiting
  rw [headed, unopened, unfinished] at expecting
  exact Bool.false_ne_true expecting

/-- A further line is read behind the others. -/
theorem linesRead_line (steps : List Step) (text : Text) :
    linesRead (steps ++ [.line text]) = linesRead steps ++ [text] := by
  -- The line joins those behind the last reset.
  rw [linesRead, List.rtakeWhile_concat_pos _ _ _ (by simp), List.filterMap_append]
  rfl

/-- At the start of another text no line of it has been read. -/
theorem linesRead_reset (steps : List Step) : linesRead (steps ++ [.reset]) = [] := by
  -- Behind a reset there are no lines yet.
  rw [linesRead, List.rtakeWhile_concat_neg _ _ _ (by simp)]
  rfl

/-- The last step is taken behind the others. -/
theorem run_concat (tracker : ElseTracker) (steps : List Step) (step : Step) :
    tracker.run (steps ++ [step]) = (tracker.run steps).apply step :=
  List.foldl_concat ..

/-- A new tracker has nothing to remember. -/
theorem nested_new : ({} : ElseTracker).Nested :=
  ⟨by simp, by simp⟩

/-- Any steps leave the blocks of branches nested. -/
theorem nested_run (steps : List Step) : (({} : ElseTracker).run steps).Nested := by
  -- By induction on the steps, the last one taken off.
  induction steps using List.reverseRecOn with
  | nil => exact nested_new
  | append_singleton steps step ih =>
    rw [run_concat]
    cases step with
    | line text => exact ih.check text
    | reset => exact nested_new

/-- The depth is what the braces of the lines of the text leave open. -/
theorem depth_run (steps : List Step) :
    (({} : ElseTracker).run steps).depth = blocksAfter 0 ((linesRead steps).flatMap mask) := by
  -- The last step decides whether the lines go on or start again.
  induction steps using List.reverseRecOn with
  | nil => rfl
  | append_singleton steps step ih =>
    rw [run_concat]
    cases step with
    | line text =>
      rw [linesRead_line, List.flatMap_append, blocksAfter_append, ← ih]
      exact (depth_check _ text).trans (by rw [List.flatMap_singleton])
    | reset =>
      rw [linesRead_reset]
      rfl

/-- No `else` is ever expected while a header waits for its statement. -/
theorem not_both_run (steps : List Step) :
    let tracker := ({} : ElseTracker).run steps
    ¬(tracker.expectingElse = true ∧ tracker.awaitingBody = true) := by
  induction steps using List.reverseRecOn with
  | nil => simp [run]
  | append_singleton steps step =>
    -- Each step sets both anew.
    dsimp only
    rw [run_concat]
    cases step with
    | line text => exact not_both_check _ text
    | reset => simp [apply]

/--
What a tracker remembers behind any lines and starts of texts.

From the outermost on, the blocks of branches are each deeper than the one before, none is outside
of all blocks and none is deeper than the innermost block. The depth is the number of blocks that
the braces outside literals leave open, counted from the last start on, where a closing brace too
many closes nothing. An `else` is never expected while a header waits for its statement.
-/
theorem run_remembers (steps : List Step) :
    let tracker := ({} : ElseTracker).run steps
    tracker.ifDepths.reverse.Pairwise (· < ·) ∧
      (∀ depth ∈ tracker.ifDepths, 1 ≤ depth ∧ depth ≤ tracker.depth) ∧
      tracker.depth = blocksAfter 0 ((linesRead steps).flatMap mask) ∧
      ¬(tracker.expectingElse = true ∧ tracker.awaitingBody = true) := by
  obtain ⟨inside, falling⟩ := nested_run steps
  -- The depths are kept with the innermost one first, where they fall.
  exact ⟨List.pairwise_reverse.mpr falling, inside, depth_run steps, not_both_run steps⟩

end SourceLint.ElseTracker
