import Mathlib.Data.List.Infix

/-!
Steps that open and close sections.

How many sections are open is counted step by step, and no more are closed than are open. Where the
steps are nested properly, that is the difference of what they open and what they close.
-/

namespace SourceLint.Sections

variable {α : Type} [DecidableEq α]

/-- No step closes a section unless one is open that was opened before. -/
def Nested (opening closing : α) (steps : List α) : Prop :=
  ∀ front ∈ steps.inits, front.count closing ≤ front.count opening

instance (opening closing : α) (steps : List α) : Decidable (Nested opening closing steps) :=
  List.decidableBAll _ _

/-- Nested steps that close all sections they open. -/
def Bracketed (opening closing : α) (steps : List α) : Prop :=
  Nested opening closing steps ∧ steps.count closing = steps.count opening

instance (opening closing : α) (steps : List α) : Decidable (Bracketed opening closing steps) :=
  instDecidableAnd

/-- How many sections are open behind a step. Where none is open none is closed. -/
def move (opening closing : α) (depth : Nat) (step : α) : Nat :=
  if step = opening then depth + 1 else if step = closing then depth - 1 else depth

/-- How many sections are open behind several steps. -/
def depth (opening closing : α) (start : Nat) (steps : List α) : Nat :=
  steps.foldl (move opening closing) start

variable {opening closing : α} {steps first : List α}

/-- The first of nested steps are nested. -/
theorem Nested.of_prefix (nested : Nested opening closing steps) (start : first <+: steps) :
    Nested opening closing first := fun front begins => by
  -- A beginning of the first steps is one of all of them.
  rw [List.mem_inits] at begins
  exact nested front ((List.mem_inits ..).mpr (begins.trans start))

/-- Nested steps close at most what they open. -/
theorem Nested.count_le (nested : Nested opening closing steps) :
    steps.count closing ≤ steps.count opening :=
  nested steps ((List.mem_inits ..).mpr List.prefix_rfl)

/-- Behind nested steps the sections are open that they have opened and not closed. -/
theorem Nested.depth_eq (different : opening ≠ closing) (nested : Nested opening closing steps)
    (start : Nat) :
    depth opening closing start steps =
      start + steps.count opening - steps.count closing := by
  -- The steps are taken off at their end, and what is left of them is nested as well.
  induction steps using List.reverseRecOn with
  | nil => rfl
  | append_singleton steps last ih =>
    have inner := nested.of_prefix (List.prefix_append steps [last])
    have before := inner.count_le
    have whole := nested.count_le
    rw [depth, List.foldl_concat, ← depth, ih inner, move]
    rw [List.count_append, List.count_append, List.count_singleton, List.count_singleton] at whole ⊢
    simp only [beq_iff_eq] at whole ⊢
    split
    · rename_i opens
      rw [if_neg (opens ▸ different)]
      omega
    · split <;> omega

end SourceLint.Sections
