import SourceLint.Proofs.Masked.BranchShape
import SourceLint.Proofs.Masked.Semicolon

/-!
The structure of lines that differ in the contents of their literals only.

The shape of branches and the ends of lines are judged by the masked view and by a few characters of
the line itself. Where literals hold none of these characters, their contents change no verdict.
-/

namespace SourceLint.LineShape

open Text

/--
Two trimmed lines with the same masked view are judged alike but for what their literals hide.

The branches of both lack their braces or those of neither do, and unless the start of the lines
settles it both or neither look complete. Literals that hide no marks do not matter.
-/
theorem verdicts_literals {first second : Text} (same : mask first = mask second)
    (left : trim first = first) (right : trim second = second) (table : SymbolTable)
    (number : Int) :
    ((BranchShape.check table first).map (·.onLine number) =
        (BranchShape.check table second).map (·.onLine number) ↔
      BranchShape.lacksBrace first = BranchShape.lacksBrace second) ∧
    ((Semicolon.check first).map (·.onLine number) =
        (Semicolon.check second).map (·.onLine number) ↔
      Semicolon.isSettled (mask first) = true ∨
        Semicolon.looksComplete first = Semicolon.looksComplete second) ∧
    ((∀ c ∈ BranchShape.marks, hides first c = false ∧ hides second c = false) →
      (BranchShape.check table first).map (·.onLine number) =
        (BranchShape.check table second).map (·.onLine number)) ∧
    ((∀ c ∈ Semicolon.marks, hides first c = false ∧ hides second c = false) →
      (Semicolon.check first).map (·.onLine number) =
        (Semicolon.check second).map (·.onLine number)) := by
  -- Each of the two rules has its own condition.
  have branches := BranchShape.check_eq_iff same left right table number
  have ends := Semicolon.check_eq_iff same left right number
  refine ⟨branches, ends, fun shows => ?_, fun shows => ?_⟩
  -- Without hidden marks each line is what its view is, and the views are the same.
  · rw [branches, ← BranchShape.lacksBrace_mask left fun c listed => (shows c listed).1,
      ← BranchShape.lacksBrace_mask right fun c listed => (shows c listed).2, same]
  · rw [ends, ← Semicolon.looksComplete_mask fun c listed => (shows c listed).1,
      ← Semicolon.looksComplete_mask fun c listed => (shows c listed).2, same]
    exact .inr rfl

/-- What a string and a character hold does not matter if they hold none of the marks. -/
theorem verdicts_literals_unmarked :
    let first := "if (f(\"a.b\") == '\"') g()".toList
    let second := "if (f(\"+-*\") == 'x') g()".toList
    mask first = mask second ∧ trim first = first ∧ trim second = second ∧
      (BranchShape.check {} first).map (·.onLine 3) =
        (BranchShape.check {} second).map (·.onLine 3) ∧
      (Semicolon.check first).map (·.onLine 3) = (Semicolon.check second).map (·.onLine 3) := by
  -- None of the four strings holds a mark.
  intro first second
  have same : mask first = mask second := by decide +kernel
  have left : trim first = first := by decide +kernel
  have right : trim second = second := by decide +kernel
  obtain ⟨-, -, branches, ends⟩ := verdicts_literals same left right {} 3
  exact ⟨same, left, right, branches (by decide +kernel), ends (by decide +kernel)⟩

/--
A brace in a string stands in for the brace that a branch lacks, and a parenthesis and a brace in a
string stand in for the body of a function.
-/
theorem verdicts_moved_by_literal :
    (let first := "if (f(\"\x7b\"))".toList
    let second := "if (f(\"a\"))".toList
    mask first = mask second ∧ trim first = first ∧ trim second = second ∧
      (BranchShape.check {} first).map (·.onLine 1) = [] ∧
      (BranchShape.check {} second).map (·.onLine 1) =
        [⟨.warning, .line, some 1, "Warning - Missing opening brace in if statement."⟩]) ∧
    (let first := "x = f(\")\x7b\") + 1".toList
    let second := "x = f(\"ab\") + 1".toList
    mask first = mask second ∧ trim first = first ∧ trim second = second ∧
      (Semicolon.check first).map (·.onLine 1) = [] ∧
      (Semicolon.check second).map (·.onLine 1) =
        [⟨.error, .line, some 1, "Error - Missing semicolon."⟩]) := by
  decide +kernel

end SourceLint.LineShape
