import SourceLint.Rule.DanglingElse

/-!
Trackers of branches that read the same lines from different depths.

The one starts inside one more block than the other. Closing a block with nothing open is ignored,
so a brace too many takes them to the same depth.
-/

namespace SourceLint.ElseTracker

/-- The blocks of branches are open, each inside the one before it. -/
structure Nested (tracker : ElseTracker) : Prop where
  open_ : ∀ depth ∈ tracker.ifDepths, 1 ≤ depth ∧ depth ≤ tracker.depth
  falling : tracker.ifDepths.Pairwise (· > ·)

/-- A tracker that is `extra` blocks deeper than another and has read the same lines since. -/
structure DeeperBy (extra : Nat) (outer inner : ElseTracker) : Prop where
  depth : outer.depth = inner.depth + extra
  ifDepths : outer.ifDepths = inner.ifDepths.map (· + extra)
  expectingElse : outer.expectingElse = inner.expectingElse
  awaitingBody : outer.awaitingBody = inner.awaitingBody
  nested : inner.Nested

/-- A tracker that is at most one block deeper than another. -/
def Deeper (outer inner : ElseTracker) : Prop :=
  ∃ extra, extra ≤ 1 ∧ DeeperBy extra outer inner

variable {extra : Nat} {outer inner : ElseTracker}

/-- Both trackers are inside the block of a branch or neither is. -/
theorem DeeperBy.inIf (same : DeeperBy extra outer inner) : outer.inIf = inner.inIf := by
  -- The innermost branch and the depth are shifted by the same amount.
  rw [ElseTracker.inIf, ElseTracker.inIf, same.ifDepths, same.depth]
  cases inner.ifDepths with
  | nil => rfl
  | cons first others =>
    rw [Bool.eq_iff_iff]
    simp

/-- Closing a block leaves the blocks of branches nested. -/
theorem Nested.closeBlock (nested : inner.Nested) : inner.closeBlock.Nested := by
  -- Either the innermost branch is the innermost block, or it is further out.
  obtain ⟨inside, falling⟩ := nested
  rw [ElseTracker.closeBlock, ElseTracker.inIf]
  cases blocks : inner.ifDepths with
  | nil => exact ⟨by simp, by simp⟩
  | cons first others =>
    rw [blocks] at inside falling
    obtain ⟨above, rest⟩ := List.pairwise_cons.mp falling
    obtain ⟨positive, small⟩ := inside first (by simp)
    by_cases innermost : first = inner.depth
    · -- The block of the branch is the one that is closed.
      simp only [List.head?_cons, innermost, BEq.rfl, if_true, List.tail_cons]
      refine ⟨fun depth member => ?_, rest⟩
      have below := above depth member
      have least := (inside depth (by simp [member])).1
      simp only
      omega
    · -- Every branch was opened below the block that is closed.
      have other : (some first == some inner.depth) = false := by simpa using innermost
      simp only [List.head?_cons, other]
      refine ⟨fun depth member => ?_, falling⟩
      have least := (inside depth member).1
      rcases List.mem_cons.mp member with rfl | later
      · simp only
        omega
      · have below := above depth later
        simp only
        omega

/-- Opening a block leaves the blocks of branches nested. -/
theorem Nested.openBlock (nested : inner.Nested) (ofIf : Bool) : (inner.openBlock ofIf).Nested := by
  obtain ⟨inside, falling⟩ := nested
  -- The blocks that were open before lie below the new one.
  have higher : ∀ depth ∈ inner.ifDepths, 1 ≤ depth ∧ depth ≤ inner.depth + 1 := by
    intro depth member
    have := inside depth member
    omega
  -- Only the block of a branch is remembered, and it is the innermost one.
  cases ofIf with
  | false => exact ⟨higher, falling⟩
  | true =>
    refine ⟨fun depth member => ?_, List.pairwise_cons.mpr ⟨fun depth member => ?_, falling⟩⟩
    · rcases List.mem_cons.mp member with rfl | later
      · exact ⟨Nat.le_add_left 1 _, Nat.le_refl _⟩
      · exact higher depth later
    · have := (inside depth member).2
      omega

/-- A block is closed in both trackers, unless only the outer one has it open. -/
theorem Deeper.closeBlock (same : Deeper outer inner) :
    Deeper outer.closeBlock inner.closeBlock := by
  -- Closing at the bottom leaves the inner tracker where it is.
  obtain ⟨extra, small, same⟩ := same
  have agrees := same.inIf
  by_cases bottom : inner.depth = 0
  · -- With nothing open inside, no branch is remembered, and the trackers meet at the bottom.
    have none : inner.ifDepths = [] := by
      refine List.eq_nil_iff_forall_not_mem.mpr fun depth member => ?_
      have := same.nested.open_ depth member
      omega
    refine ⟨0, Nat.zero_le _, ⟨?_, ?_, same.expectingElse, same.awaitingBody,
      same.nested.closeBlock⟩⟩
    · rw [ElseTracker.closeBlock, ElseTracker.closeBlock]
      simp only [same.depth, bottom]
      omega
    · simp [ElseTracker.closeBlock, same.ifDepths, none]
  · -- Both trackers close their innermost block, and the difference stays.
    refine ⟨extra, small, ⟨?_, ?_, same.expectingElse, same.awaitingBody,
      same.nested.closeBlock⟩⟩
    · rw [ElseTracker.closeBlock, ElseTracker.closeBlock]
      simp only [same.depth]
      omega
    · simp only [ElseTracker.closeBlock, agrees, same.ifDepths]
      split
      · exact List.map_tail.symm
      · rfl

/-- A block is opened in both trackers. -/
theorem Deeper.openBlock (same : Deeper outer inner) (ofIf : Bool) :
    Deeper (outer.openBlock ofIf) (inner.openBlock ofIf) := by
  obtain ⟨extra, small, same⟩ := same
  -- The new block is deeper by as much as the others are.
  refine ⟨extra, small, ⟨?_, ?_, same.expectingElse, same.awaitingBody,
    same.nested.openBlock ofIf⟩⟩
  · simp only [ElseTracker.openBlock, same.depth]
    omega
  · simp only [ElseTracker.openBlock, same.ifDepths, same.depth]
    split
    · rw [List.map_cons]
      congr 1
      omega
    · rfl

/-- Both trackers are inside the block of a branch or neither is. -/
theorem Deeper.inIf (same : Deeper outer inner) : outer.inIf = inner.inIf := by
  -- Both count from their own bottom.
  obtain ⟨extra, -, same⟩ := same
  exact same.inIf

/-- Several blocks are closed in both trackers, and the last one was that of a branch or not. -/
theorem Deeper.closeAll (same : Deeper outer inner) (count : Nat) (expecting : Bool) :
    Deeper (ElseTracker.closeAll count (outer, expecting)).1
        (ElseTracker.closeAll count (inner, expecting)).1 ∧
      (ElseTracker.closeAll count (outer, expecting)).2 =
        (ElseTracker.closeAll count (inner, expecting)).2 := by
  -- The last block to be closed decides, and it is that of a branch in both.
  induction count generalizing outer inner expecting with
  | zero => exact ⟨same, rfl⟩
  | succ count ih =>
    rw [ElseTracker.closeAll, ElseTracker.closeAll, same.inIf]
    exact ih same.closeBlock inner.inIf

/-- Progress through a line from two depths. -/
structure Progress.Deeper (outer inner : Progress) : Prop where
  tracker : ElseTracker.Deeper outer.tracker inner.tracker
  opened : outer.opened = inner.opened
  closedOwn : outer.closedOwn = inner.closedOwn

/-- A character takes both trackers further in the same way. -/
theorem Progress.Deeper.step {outer inner : Progress} (same : Progress.Deeper outer inner)
    (header : Bool) (c : Char) : Progress.Deeper (outer.step header c) (inner.step header c) := by
  obtain ⟨tracker, opened, closedOwn⟩ := same
  rw [Progress.step, Progress.step]
  -- Only braces count.
  by_cases opening : c = '{'
  · rw [if_pos opening, if_pos opening, opened]
    exact ⟨tracker.openBlock _, rfl, closedOwn⟩
  · rw [if_neg opening, if_neg opening]
    by_cases closing : c = '}'
    · rw [if_pos closing, if_pos closing]
      exact ⟨tracker.closeBlock, opened, by simp only [closedOwn, tracker.inIf, opened]⟩
    · rw [if_neg closing, if_neg closing]
      exact ⟨tracker, opened, closedOwn⟩

/-- A text takes both trackers further in the same way. -/
theorem Progress.Deeper.foldl {outer inner : Progress} (same : Progress.Deeper outer inner)
    (header : Bool) (text : Text) : Progress.Deeper (text.foldl (Progress.step header) outer)
      (text.foldl (Progress.step header) inner) := by
  -- By induction on the text.
  induction text generalizing outer inner with
  | nil => exact same
  | cons c rest ih => exact ih (same.step header c)

/-- A line is judged alike from both depths, and the trackers stay in step. -/
theorem Deeper.check (same : Deeper outer inner) (line : Text) :
    Deeper (outer.check line).1 (inner.check line).1 ∧
      (outer.check line).2 = (inner.check line).2 := by
  have expecting : outer.expectingElse = inner.expectingElse := same.choose_spec.2.expectingElse
  have awaiting : outer.awaitingBody = inner.awaitingBody := same.choose_spec.2.awaitingBody
  -- The front of the line closes blocks first, and then its characters are read one by one.
  obtain ⟨closed, flag⟩ := same.closeAll
    (((Text.trim (Text.mask line)).takeWhile isLeading).count '}') inner.expectingElse
  have started : Progress.Deeper ⟨_, false, false⟩ ⟨_, false, false⟩ := ⟨closed, rfl, rfl⟩
  have read := started.foldl
    (LineShape.isBranchHeader ((Text.trim (Text.mask line)).dropWhile isLeading))
    ((Text.trim (Text.mask line)).dropWhile isLeading)
  obtain ⟨⟨extra, small, tracked⟩, opened, closedOwn⟩ := read
  simp only [ElseTracker.check, expecting, awaiting, flag, opened, closedOwn]
  -- What is left of the line is the same in both, and so are the flags.
  refine ⟨⟨extra, small, ⟨tracked.depth, tracked.ifDepths, rfl, rfl, ?_⟩⟩, trivial⟩
  exact ⟨tracked.nested.open_, tracked.nested.falling⟩

end SourceLint.ElseTracker
