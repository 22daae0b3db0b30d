import Mathlib.Data.List.Induction
import SourceLint.Proofs.Matching.Block
import SourceLint.Proofs.Nesting.Line

/-!
What one line does to the open blocks.

The closing braces at the front of a line are read first. The block of a branch header is then the
one that the first opening brace of the line opens.
-/

namespace SourceLint.ElseTracker

open Text

/-- The closing braces and the white space at the front of a line. -/
def front (line : Text) : Text :=
  (mask line).takeWhile isLeading

/-- What is read of a line behind the closing braces at its front. -/
def content (line : Text) : Text :=
  (trim (mask line)).dropWhile isLeading

/-- Whether a line is read as a branch header. -/
def isHeader (line : Text) : Bool :=
  LineShape.isBranchHeader (content line)

/-- Whether something follows the condition of a header on its line. -/
def hasStatement (line : Text) : Bool :=
  (Statement.condition? (content line)).any fun (_, after) => !after.isEmpty

/-- No brace is white space. -/
theorem braceless_of_blank {gap : Text} (blank : ∀ c ∈ gap, isSpace c = true) :
    ∀ c ∈ gap, c ≠ '{' ∧ c ≠ '}' := by
  -- Both braces can be tested.
  intro c member
  constructor <;> rintro rfl <;> exact absurd (blank _ member) (by decide)

/-- White space holds no closing brace. -/
theorem count_brace_of_blank {gap : Text} (blank : ∀ c ∈ gap, isSpace c = true) :
    gap.count '}' = 0 :=
  List.count_eq_zero.mpr fun member => (braceless_of_blank blank _ member).2 rfl

/-- A line is its front and its content, and the trimmed line has as many braces in front. -/
theorem exists_gap (line : Text) : ∃ gap, mask line = front line ++ (content line ++ gap) ∧
    (∀ c ∈ gap, isSpace c = true) ∧
    ((trim (mask line)).takeWhile isLeading).count '}' = (front line).count '}' := by
  obtain ⟨lead, gap, split, indented, spaced⟩ := exists_eq_trim (mask line)
  have leading : ∀ c ∈ lead, isLeading c = true := fun c member => by
    simp [isLeading, indented c member]
  have trailing : ∀ c ∈ gap, isLeading c = true := fun c member => by
    simp [isLeading, spaced c member]
  have parts := (List.takeWhile_append_dropWhile (p := isLeading) (l := trim (mask line))).symm
  have whole : front line = lead ++ (trim (mask line) ++ gap).takeWhile isLeading :=
    (congrArg (List.takeWhile isLeading) split).trans (List.takeWhile_append_of_pos leading)
  -- Only where nothing else follows does the front reach into the white space behind the text.
  by_cases empty : content line = []
  · -- A line with nothing to read is a front as a whole.
    rw [content] at empty
    rw [empty, List.append_nil] at parts
    have all : ∀ c ∈ trim (mask line) ++ gap, isLeading c = true :=
      List.forall_mem_append.mpr ⟨List.dropWhile_eq_nil_iff.mp empty, trailing⟩
    rw [List.takeWhile_eq_self_iff.mpr all] at whole
    refine ⟨[], ?_, by simp, ?_⟩
    · rw [whole, content, empty, List.append_nil, List.append_nil]
      exact split
    · rw [whole, ← parts, List.count_append, List.count_append, count_brace_of_blank indented,
        count_brace_of_blank spaced, Nat.zero_add, Nat.add_zero]
  · -- Otherwise the front ends inside the trimmed text.
    rw [(takeWhile_append_ended empty gap).1] at whole
    refine ⟨gap, ?_, spaced, ?_⟩
    · rw [whole, content, List.append_assoc, ← List.append_assoc _ _ gap, ← parts]
      exact split
    · rw [whole, List.count_append, count_brace_of_blank indented, Nat.zero_add]

/-- A line is checked by its front, which closes blocks, and then by its content. -/
theorem check_eq (tracker : ElseTracker) (line : Text) :
    let closed := closeAll ((front line).count '}') (tracker, tracker.expectingElse)
    let progress := (content line).foldl (Progress.step (isHeader line)) { tracker := closed.1 }
    tracker.check line =
      ({ progress.tracker with
          expectingElse :=
            if isHeader line then
              if progress.opened then progress.closedOwn else hasStatement line
            else if (content line).isEmpty then closed.2
            else tracker.awaitingBody && (content line).head? != some '{'
          awaitingBody := isHeader line && !progress.opened && !hasStatement line },
        verdict (content line) closed.2) := by
  -- White space in front of the trimmed text holds no brace, so the count is the same.
  obtain ⟨-, -, -, count⟩ := exists_gap line
  rw [check, count]
  rfl

/-- The last of several closing braces decides what they end with. -/
theorem closeAll_succ (count : Nat) (state : ElseTracker × Bool) :
    closeAll (count + 1) state =
      ((closeAll count state).1.closeBlock, (closeAll count state).1.inIf) := by
  -- By induction on the count, each brace being closed in its turn.
  induction count generalizing state with
  | zero => rfl
  | succ count ih => exact ih (state.1.closeBlock, state.1.inIf)

/-- A text that ends with the closing brace of a marked block. -/
def EndsBlock (marks : Text → Prop) (text : Text) : Prop :=
  ∃ outer inside gap, text = outer ++ '{' :: (inside ++ '}' :: gap) ∧ Balanced inside ∧
    (∀ c ∈ gap, isSpace c = true) ∧ marks outer

/-- White space behind the brace does not count. -/
theorem EndsBlock.append {marks : Text → Prop} {text gap : Text} (ends : EndsBlock marks text)
    (blank : ∀ c ∈ gap, isSpace c = true) : EndsBlock marks (text ++ gap) := by
  -- The white space joins that behind the block.
  obtain ⟨outer, inside, inner, rfl, balanced, spaces, marked⟩ := ends
  exact ⟨outer, inside, inner ++ gap, by simp, balanced,
    List.forall_mem_append.mpr ⟨spaces, blank⟩, marked⟩

variable {marks : Text → Prop} {base text : Text} {blocks : List Block} {tracker : ElseTracker}

/-- The braces at the front of a line close blocks, and an `else` is expected behind a branch. -/
theorem Tracks.closeAll (tracks : Tracks marks text blocks tracker) (expecting : Bool)
    {lead : Text} (leading : ∀ c ∈ lead, isLeading c = true) :
    let closed := ElseTracker.closeAll (lead.count '}') (tracker, expecting)
    ∃ left, Tracks marks (text ++ lead) left closed.1 ∧
      ('}' ∈ lead → closed.2 = true → EndsBlock marks (text ++ lead)) := by
  -- The induction takes the last character off, since the last brace is the one that decides.
  induction lead using List.reverseRecOn with
  | nil => exact ⟨blocks, by simpa [ElseTracker.closeAll] using tracks, by simp⟩
  | append_singleton lead c ih =>
    obtain ⟨others, last⟩ := List.forall_mem_append.mp leading
    obtain ⟨left, reached, ends⟩ := ih others
    rw [← List.append_assoc]
    by_cases brace : c = '}'
    · -- What the last brace closes decides, whatever was closed in front of it.
      subst brace
      rw [List.count_append, List.count_singleton_self, closeAll_succ]
      refine ⟨left.tail, reached.closeBlock, fun _ closed => ?_⟩
      obtain ⟨outer, inside, split, balanced, marked⟩ := reached.exists_of_inIf closed
      exact ⟨outer, inside, [], by simp [split], balanced, by simp, marked⟩
    · -- White space closes nothing, so it only goes on behind what has been closed.
      have space : isSpace c = true := by simpa [isLeading, brace] using last c
      have blank : ∀ d ∈ [c], isSpace d = true := List.forall_mem_singleton.mpr space
      rw [List.count_append, count_brace_of_blank blank, Nat.add_zero]
      refine ⟨left, reached.append (braceless_of_blank blank), fun member closed => ?_⟩
      have inside : '}' ∈ lead := by simpa [Ne.symm brace] using member
      exact (ends inside closed).append blank

/--
How far a line has come with the block of its header, given the open blocks.

A line that is no header has no such block.
-/
inductive Own (base : Text) (header : Bool) (read : Text) (blocks : List Block)
    (progress : Progress) : Prop
  /-- No brace has been read that opens it. -/
  | unopened (opened : progress.opened = false) (closed : progress.closedOwn = false)
      (first : header = true → '{' ∉ read)
  /-- It is open, and the blocks inside of it belong to no branch. -/
  | open_ {lead more : Text} {inner outer : List Block} (opened : progress.opened = true)
      (closed : progress.closedOwn = false) (split : read = lead ++ '{' :: more)
      (first : '{' ∉ lead) (stack : blocks = inner ++ ⟨base ++ lead, true⟩ :: outer)
      (plain : ∀ block ∈ inner, block.ofIf = false)
  /-- It has ended on the line. -/
  | ended {lead inside more : Text} (opened : progress.opened = true)
      (split : read = lead ++ '{' :: (inside ++ '}' :: more)) (first : '{' ∉ lead)
      (balanced : Balanced inside)

variable {header : Bool} {read : Text} {progress : Progress}

/-- An opening brace opens the block of the header, if that has not been opened yet. -/
theorem Own.opening (own : Own base header read blocks progress) :
    Own base header (read ++ ['{'])
      (⟨base ++ read, header && !progress.opened⟩ :: blocks) (progress.step header '{') := by
  -- Whether the brace opens the block of the header depends on what has been read.
  rw [Progress.step, if_pos rfl]
  cases own with
  | unopened opened closed first =>
    cases headed : header with
    | false => exact .unopened (by simp [opened]) closed (by simp)
    | true =>
      have stack : ⟨base ++ read, true && !progress.opened⟩ :: blocks =
          [] ++ ⟨base ++ read, true⟩ :: blocks := by simp [opened]
      exact .open_ (by simp) closed rfl (first headed) stack (by simp)
  | @open_ lead more inner outer opened closed split first stack plain =>
    -- The block belongs to no branch, since that of the header is open.
    refine .open_ (by simp [opened]) closed (split ▸ List.append_assoc ..) first
      (congrArg _ stack) (List.forall_mem_cons.mpr ⟨by simp [opened], plain⟩)
  -- The block of the header has ended, so the brace is one of those behind it.
  | @ended lead inside more opened split first balanced =>
    have longer : read ++ ['{'] = lead ++ '{' :: (inside ++ '}' :: (more ++ ['{'])) := by
      simp [split]
    exact .ended (by simp [opened]) longer first balanced

/-- A closing brace ends the block of the header, if that is the innermost one. -/
theorem Own.closing (tracks : Tracks marks (base ++ read) blocks progress.tracker)
    (own : Own base header read blocks progress) :
    Own base header (read ++ ['}']) blocks.tail (progress.step header '}') := by
  -- Whether the brace ends the block of the header depends on what is innermost.
  rw [Progress.step, if_neg (by decide), if_pos rfl]
  cases own with
  | unopened opened closed first =>
    refine .unopened opened (by simp [opened, closed]) fun headed => ?_
    simpa using first headed
  | @open_ lead more inner outer opened closed split first stack plain =>
    cases inner with
    | nil =>
      -- What has been read behind the brace is balanced.
      rw [List.nil_append] at stack
      subst stack
      obtain ⟨inside, whole, balanced⟩ := tracks.exists_inside
      dsimp only at whole
      rw [List.append_assoc, List.append_cancel_left_eq] at whole
      have ending : read ++ ['}'] = lead ++ '{' :: (inside ++ '}' :: []) := by simp [whole]
      exact .ended opened ending first balanced
    -- The brace ends a block inside that of the header.
    | cons block inner =>
      subst stack
      have outside : progress.tracker.inIf = false :=
        tracks.inIf_cons.trans (plain block (by simp))
      exact .open_ opened (by simp [closed, outside]) (split ▸ List.append_assoc ..) first rfl
        fun block member => plain block (by simp [member])
  | @ended lead inside more opened split first balanced =>
    have longer : read ++ ['}'] = lead ++ '{' :: (inside ++ '}' :: (more ++ ['}'])) := by
      simp [split]
    exact .ended opened longer first balanced

/-- A character that is no brace leaves the block as it is. -/
theorem Own.passing {c : Char} (own : Own base header read blocks progress) (unopened : c ≠ '{') :
    Own base header (read ++ [c]) blocks progress := by
  -- Every account of what has been read goes on with the character.
  cases own with
  | unopened opened closed first =>
    refine .unopened opened closed fun headed => ?_
    simpa [unopened.symm] using first headed
  | open_ opened closed split first stack plain =>
    exact .open_ opened closed (split ▸ List.append_assoc ..) first stack plain
  | @ended lead inside more opened split first balanced =>
    have longer : read ++ [c] = lead ++ '{' :: (inside ++ '}' :: (more ++ [c])) := by simp [split]
    exact .ended opened longer first balanced

/-- Only the block of a header belongs to a branch, and the brace that opens it is marked. -/
theorem Tracks.foldl_step (tracks : Tracks marks base blocks tracker)
    (mark : header = true → ∀ lead more, read = lead ++ '{' :: more → '{' ∉ lead →
      marks (base ++ lead)) :
    let progress := read.foldl (Progress.step header) { tracker }
    ∃ left, Tracks marks (base ++ read) left progress.tracker ∧
      Own base header read left progress := by
  -- What has been read so far decides whether the next brace is the first one.
  induction read using List.reverseRecOn with
  | nil => exact ⟨blocks, by simpa using tracks, .unopened rfl rfl (by simp)⟩
  | append_singleton read c ih =>
    have earlier : header = true → ∀ lead more, read = lead ++ '{' :: more → '{' ∉ lead →
        marks (base ++ lead) := fun headed lead more split first =>
      mark headed lead (more ++ [c]) (by simp [split]) first
    obtain ⟨left, reached, own⟩ := ih earlier
    rw [List.foldl_append, List.foldl_cons, List.foldl_nil, ← List.append_assoc]
    generalize read.foldl (Progress.step header) { tracker } = progress at reached own ⊢
    -- The character opens a block, closes one, or leaves the blocks as they are.
    by_cases opening : c = '{'
    · subst opening
      refine ⟨_, ?_, own.opening⟩
      rw [Progress.step, if_pos rfl]
      refine reached.openBlock fun flag => ?_
      obtain ⟨headed, unopened⟩ := (Bool.and_eq_true _ _).mp flag
      cases own with
      | unopened _ _ first => exact mark headed read [] rfl (first headed)
      | open_ opened => simp [opened] at unopened
      | ended opened => simp [opened] at unopened
    · by_cases closing : c = '}'
      · subst closing
        refine ⟨_, ?_, own.closing reached⟩
        rw [Progress.step, if_neg opening, if_pos rfl]
        exact reached.closeBlock
      · rw [Progress.step, if_neg opening, if_neg closing]
        exact ⟨left, reached.append (List.forall_mem_singleton.mpr ⟨opening, closing⟩),
          own.passing opening⟩

end SourceLint.ElseTracker
