import SourceLint.Proofs.Matching.Brace
import SourceLint.Rule.DanglingElse

/-!
What the tracker of branches remembers, in terms of matching braces.

The tracker only keeps depths. Each of them stands for a brace that the text so far leaves open, and
the depths of branches for those braces that were remembered as such.
-/

namespace SourceLint

open Text

/-- An open block. -/
structure Block where
  /-- The text in front of its brace. -/
  outer : Text
  /-- Whether it is remembered as the block of a branch. -/
  ofIf : Bool

/-- The depths of the blocks of branches, innermost first. -/
def Block.ifDepths : List Block → List Nat
  | [] => []
  | block :: blocks =>
    if block.ofIf then (blocks.length + 1) :: ifDepths blocks else ifDepths blocks

/-- No block is deeper than there are blocks. -/
theorem Block.le_length_of_mem_ifDepths {blocks : List Block} {depth : Nat}
    (member : depth ∈ ifDepths blocks) : depth ≤ blocks.length := by
  -- A depth is that of the innermost block or one further out.
  induction blocks with
  | nil => cases member
  | cons block blocks ih =>
    rw [List.length_cons]
    rw [ifDepths] at member
    split at member
    · rcases List.mem_cons.mp member with rfl | further
      · exact Nat.le_refl _
      · exact Nat.le_succ_of_le (ih further)
    · exact Nat.le_succ_of_le (ih member)

/-- The tracker has the blocks that a text leaves open, and those of branches are marked. -/
structure ElseTracker.Tracks (marks : Text → Prop) (text : Text) (blocks : List Block)
    (tracker : ElseTracker) : Prop where
  leaves : LeavesOpen text (blocks.map Block.outer)
  depth : tracker.depth = blocks.length
  ifDepths : tracker.ifDepths = Block.ifDepths blocks
  marked : ∀ block ∈ blocks, block.ofIf = true → marks block.outer

namespace ElseTracker.Tracks

variable {marks : Text → Prop} {text : Text} {block : Block} {blocks : List Block}
  {tracker : ElseTracker}

/-- The tracker starts with nothing read. -/
theorem start : Tracks marks [] [] {} :=
  ⟨.balanced .nil, rfl, rfl, by simp⟩

/-- What was marked may be marked for another reason. -/
theorem mono {others : Text → Prop} (tracks : Tracks marks text blocks tracker)
    (weaker : ∀ outer, marks outer → others outer) : Tracks others text blocks tracker :=
  { tracks with marked := fun block member flag => weaker _ (tracks.marked block member flag) }

/-- The tracker is inside a branch when the innermost block belongs to one. -/
theorem inIf_cons (tracks : Tracks marks text (block :: blocks) tracker) :
    tracker.inIf = block.ofIf := by
  -- The innermost block is the one that the depth counts last.
  rw [inIf, tracks.ifDepths, tracks.depth, Block.ifDepths, List.length_cons]
  cases block.ofIf with
  | true => simp
  | false =>
    -- The blocks of branches were all opened further out.
    rw [if_neg Bool.false_ne_true, beq_eq_false_iff_ne]
    intro innermost
    have shallow := Block.le_length_of_mem_ifDepths (List.mem_of_head? innermost)
    exact absurd shallow (Nat.not_succ_le_self _)

/-- Outside of all blocks there is no branch. -/
theorem inIf_nil (tracks : Tracks marks text [] tracker) : tracker.inIf = false := by
  -- There are no depths to compare with.
  rw [inIf, tracks.ifDepths]
  rfl

/-- A text without braces changes nothing. -/
theorem append {more : Text} (tracks : Tracks marks text blocks tracker)
    (braceless : ∀ c ∈ more, c ≠ '{' ∧ c ≠ '}') : Tracks marks (text ++ more) blocks tracker :=
  { tracks with leaves := tracks.leaves.append (balanced_of_braceless braceless) }

/-- An opening brace opens a block, which is marked if it belongs to a branch. -/
theorem openBlock (tracks : Tracks marks text blocks tracker) {ofIf : Bool}
    (mark : ofIf = true → marks text) :
    Tracks marks (text ++ ['{']) (⟨text, ofIf⟩ :: blocks) (tracker.openBlock ofIf) where
  leaves := tracks.leaves.opened .nil
  -- The block lies at the depth that is counted from now on.
  depth := by rw [ElseTracker.openBlock, tracks.depth, List.length_cons]
  ifDepths := by rw [ElseTracker.openBlock, tracks.depth, tracks.ifDepths, Block.ifDepths]
  marked := List.forall_mem_cons.mpr ⟨mark, tracks.marked⟩

/-- A closing brace closes the innermost block. -/
theorem closeBlock (tracks : Tracks marks text blocks tracker) :
    Tracks marks (text ++ ['}']) blocks.tail tracker.closeBlock where
  leaves := by
    -- The last open brace is the one that is closed.
    rw [List.map_tail]
    exact tracks.leaves.close
  depth := by rw [ElseTracker.closeBlock, tracks.depth, List.length_tail]
  ifDepths := by
    -- The depth is forgotten exactly when the innermost block is remembered as that of a branch.
    rw [ElseTracker.closeBlock]
    cases blocks with
    | nil => simp [tracks.inIf_nil, tracks.ifDepths, Block.ifDepths]
    | cons block blocks =>
      rw [tracks.inIf_cons, tracks.ifDepths, Block.ifDepths]
      cases block.ofIf <;> rfl
  marked := fun block member => tracks.marked block (List.mem_of_mem_tail member)

/-- The innermost block reaches from its brace to the end of the text. -/
theorem exists_inside (tracks : Tracks marks text (block :: blocks) tracker) :
    ∃ inside, text = block.outer ++ '{' :: inside ∧ Balanced inside :=
  tracks.leaves.exists_inside

/-- A branch that the tracker is inside of was marked. -/
theorem exists_of_inIf (tracks : Tracks marks text blocks tracker) (inside : tracker.inIf = true) :
    ∃ outer inside, text = outer ++ '{' :: inside ∧ Balanced inside ∧ marks outer := by
  -- The branch is the innermost block, so its brace is the innermost open one.
  cases blocks with
  | nil =>
    rw [tracks.inIf_nil] at inside
    cases inside
  | cons block blocks =>
    -- Its brace has a balanced text behind it, and it was marked when it opened.
    rw [tracks.inIf_cons] at inside
    obtain ⟨inner, split, balanced⟩ := tracks.exists_inside
    exact ⟨block.outer, inner, split, balanced, tracks.marked block (by simp) inside⟩

end ElseTracker.Tracks

end SourceLint
