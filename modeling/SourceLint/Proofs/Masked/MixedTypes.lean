import SourceLint.Proofs.Insertion.Mask
import SourceLint.Proofs.Masked.Reading
import SourceLint.Rule.MixedTypes

/-!
Mixed type words beside literals.

The check of a line reads its masked view, but for one test: a line with braces of both kinds is
left alone, and the braces in its literals count. This is the only way in which the contents of a
literal reach the verdict.
-/

namespace SourceLint.MixedTypes

open Text

/-- Whether a line has braces of both kinds, in literals or outside of them. -/
def hasBraces (line : Text) : Bool :=
  line.contains '{' && line.contains '}'

/-- Braces that show in the masked view of a line are braces of the line. -/
theorem hasBraces_of_mask {line : Text} (shown : hasBraces (mask line) = true) :
    hasBraces line = true := by
  -- The view shows nothing but the line and the fill.
  have own : ∀ {brace : Char}, brace ≠ 's' → brace ∈ mask line → brace ∈ line :=
    fun other member => (mem_mask member).resolve_left other
  rw [hasBraces, Bool.and_eq_true, List.contains_iff_mem, List.contains_iff_mem] at shown ⊢
  exact ⟨own (by decide) shown.1, own (by decide) shown.2⟩

/-- A line with braces of both kinds is left alone. -/
theorem check_of_hasBraces {line : Text} (braces : hasBraces line = true) : check line = [] := by
  -- The first test of the check settles it.
  have left : (line.contains '{' && line.contains '}') = true := braces
  rw [check, left, Bool.or_true, Bool.true_or, if_pos rfl]

/-- Apart from such braces the check of a line is the check of its masked view. -/
theorem check_mask {line : Text} (braceless : hasBraces line = false) :
    check (mask line) = check line := by
  -- Without braces of both kinds the view has none either.
  have shown : hasBraces (mask line) = false := by
    rw [← Bool.not_eq_true] at braceless ⊢
    exact mt hasBraces_of_mask braceless
  have braces : ((mask line).contains '{' && (mask line).contains '}') =
      (line.contains '{' && line.contains '}') := shown.trans braceless.symm
  -- The rest of the check looks at what shows.
  have signature : LineShape.isSignature Vocabulary.typeWords Vocabulary.typeWords (mask line) =
      LineShape.isSignature Vocabulary.typeWords Vocabulary.typeWords line :=
    LineShape.isSignature_mask (by decide) (by decide) line
  rw [check, check, LineShape.isDirective_mask, braces, signature, blank_mask]

/-- The verdict on a line, by its braces and its masked view. -/
theorem check_eq (line : Text) : check line = if hasBraces line then [] else check (mask line) := by
  -- Either the line has such braces, or it is checked by its view.
  cases braces : hasBraces line with
  | true => exact check_of_hasBraces braces
  | false => exact (check_mask braces).symm

/--
Lines that differ in the contents of their literals only are reported alike, unless the literals of
one of them alone give it braces of both kinds.

Then that line is left alone, and the other one is reported if its text outside literals mixes
types.
-/
theorem check_literals {first second : Text} (same : mask first = mask second) (number : Int) :
    (check first).map (·.onLine number) = (check second).map (·.onLine number) ↔
      hasBraces first = hasBraces second ∨ check (mask first) = [] := by
  rw [check_eq first, check_eq second, ← same]
  -- With braces on one side only the other side has to find nothing.
  cases hasBraces first <;> cases hasBraces second <;>
    simp only [if_true, Bool.false_eq_true, if_false, true_or, false_or, reduceCtorEq,
      List.map_nil, List.map_eq_nil_iff, List.nil_eq]

/-- What a string holds does not matter if it holds no braces. -/
theorem check_literals_semicolon :
    let first := "int float x = f(\"a;b\");".toList
    let second := "int float x = f(\"\x7b (\");".toList
    mask first = mask second ∧ hasBraces first = hasBraces second ∧
      (check first).map (·.onLine 4) = (check second).map (·.onLine 4) := by
  -- Neither string holds a brace pair, so the theorem applies.
  intro first second
  have same : mask first = mask second := by decide
  have braces : hasBraces first = hasBraces second := by decide
  exact ⟨same, braces, (check_literals same 4).mpr (.inl braces)⟩

/-- A pair of braces in a string hides that other statements of the line mix type words. -/
theorem mixedTypes_hidden_by_literal :
    let first := "int float x; string s = \"\x7b\x7d\";".toList
    let second := "int float x; string s = \"ab\";".toList
    mask first = mask second ∧ (check first).map (·.onLine 1) = [] ∧
      (check second).map (·.onLine 1) =
        [⟨.error, .line, some 1,
          "Error - Multiple data types in single declaration: int, float"⟩] := by
  decide +kernel

end SourceLint.MixedTypes
