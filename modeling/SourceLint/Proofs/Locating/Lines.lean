import Mathlib.Data.List.Sort
import SourceLint.Proofs.Locating.Body
import SourceLint.Proofs.MainLines
import SourceLint.Proofs.Text.Parts

/-!
The body of the main function, read on its own.

No literal is open at either of the two braces, so the body is masked on its own as it is masked
inside the source. Its lines are those of the source, but for what the braces cut off.
-/

namespace SourceLint

open Text

namespace Text

section Shown

variable {first second : Text} {c : Char}

/-- Where a bracket shows, no literal is open, and the view is cut in two. -/
theorem maskSource_append_of_shown (unfilled : c ≠ 's') (unquoted : isQuote c = false)
    (unbroken : c ≠ '\n') (shown : (maskSource (first ++ second))[first.length]? = some c) :
    maskSource (first ++ second) = maskSource first ++ maskSource second := by
  -- Only the line that the seam runs through is cut, and no literal is open there.
  obtain ⟨front, last, next, later, left, right, whole, line⟩ := exists_shown_seam unbroken shown
  have closed : Closed last :=
    closed_of_shown unfilled unquoted (show ∀ c ∈ ([] : Text), isQuote c = false by simp)
      (by simpa using line)
  have parts : mask (last ++ next) = mask last ++ mask next := closed 's' next
  unfold maskSource
  -- Both halves of the line go with the lines on their side.
  rw [whole, left, right, List.map_append, List.map_cons, parts, join_seam, List.map_append,
    List.map_cons, List.map_cons, List.map_nil]

/-- A bracket that shows stands in the source, and what follows it is masked on its own. -/
theorem exists_of_shown (unfilled : c ≠ 's') (unquoted : isQuote c = false)
    (unbroken : c ≠ '\n') (shown : (maskSource (first ++ second))[first.length]? = some c) :
    ∃ more, second = c :: more ∧
      maskSource (first ++ second) = maskSource first ++ c :: maskSource more := by
  have cut := maskSource_append_of_shown unfilled unquoted unbroken shown
  obtain ⟨front, last, next, later, -, right, -, line⟩ := exists_shown_seam unbroken shown
  -- The first line of the second text starts with the bracket.
  have own : (last ++ next)[last.length]? = some c :=
    (getElem?_mask line).resolve_left unfilled
  rw [List.getElem?_append_right (Nat.le_refl _), Nat.sub_self, ← List.head?_eq_getElem?] at own
  obtain ⟨rest, rfl⟩ := List.head?_eq_some_iff.mp own
  -- The second text is not empty and starts with no break, since its first line has a character.
  cases second with
  | nil => cases right
  | cons d more =>
    by_cases broken : d = '\n'
    · subst broken
      rw [lines_cons_break] at right
      cases right
    · rw [lines_cons broken rfl] at right
      obtain ⟨same, -⟩ := List.cons_eq_cons.mp right
      obtain ⟨rfl, -⟩ := List.cons_eq_cons.mp same
      exact ⟨more, rfl, by rw [cut, maskSource_cons broken unquoted]⟩

end Shown

end Text

namespace MainFunction

variable {source : Text} {main : MainFunction}

/-- The two braces stand in the source, and each of the three parts is masked on its own. -/
theorem Delimited.exists_source {header : MainHeader} (delimited : Delimited source header main) :
    ∃ lead rest, source = lead ++ '{' :: (main.body source ++ '}' :: rest) ∧
      lead.length + 1 = main.bodyStart ∧
      maskSource source =
        maskSource lead ++ '{' :: (maskSource (main.body source) ++ '}' :: maskSource rest) := by
  have follows := delimited.follows
  have ordered := delimited.ordered
  have opened := delimited.opened
  have closed := delimited.closed
  have bound := (List.getElem?_eq_some_iff.mp closed).1
  rw [length_maskSource] at bound
  -- The source is cut at the opening brace and then at the closing one.
  obtain ⟨lead, second, split, length⟩ : ∃ lead second, source = lead ++ second ∧
      lead.length = main.bodyStart - 1 :=
    ⟨_, _, (List.take_append_drop (main.bodyStart - 1) source).symm, by
      rw [List.length_take]
      omega⟩
  rw [split, ← length] at opened
  obtain ⟨more, rfl, view⟩ := exists_of_shown (by decide) (by decide) (by decide) opened
  have start : main.bodyStart = lead.length + 1 := by omega
  have behind : source.drop main.bodyStart = more := by
    rw [split, start, List.drop_length_add_append]
    rfl
  -- The body and what follows it are what stands behind the opening brace.
  have parts : main.body source ++ more.drop (main.bodyEnd - main.bodyStart) = more := by
    rw [MainFunction.body, behind, List.take_append_drop]
  have size : (main.body source).length = main.bodyEnd - main.bodyStart := by
    rw [MainFunction.body, List.length_take, List.length_drop]
    omega
  have stop : main.bodyEnd = (maskSource lead).length + ((main.body source).length + 1) := by
    rw [length_maskSource, size]
    omega
  -- The closing brace shows behind the body in the second part.
  rw [split, view, stop, List.getElem?_append_right (Nat.le_add_right _ _),
    Nat.add_sub_cancel_left, List.getElem?_cons_succ, ← parts] at closed
  obtain ⟨rest, ends, shown⟩ := exists_of_shown (by decide) (by decide) (by decide) closed
  refine ⟨lead, rest, ?_, start.symm, ?_⟩
  · -- The pieces are put together again, once in the source and once in its view.
    rw [← ends, parts, ← split]
  · rw [← shown, parts, ← view, ← split]

/-- The body is masked on its own as it is masked inside the source. -/
theorem Delimited.maskSource_body {header : MainHeader} (delimited : Delimited source header main) :
    maskSource (main.body source) = main.body (maskSource source) := by
  obtain ⟨lead, rest, split, start, view⟩ := delimited.exists_source
  -- Masking keeps all lengths, so the body is cut out of the view at the same places.
  have size : main.bodyEnd - main.bodyStart = (maskSource (main.body source)).length := by
    have bound := (List.getElem?_eq_some_iff.mp delimited.closed).1
    rw [length_maskSource] at bound ⊢
    rw [MainFunction.body, List.length_take, List.length_drop]
    omega
  have front : main.bodyStart = (maskSource lead).length + 1 := by rw [length_maskSource, start]
  -- The slice of the view is what stands between the two masked parts.
  conv_rhs => rw [MainFunction.body, size, view, front, List.drop_length_add_append,
    List.drop_succ_cons, List.drop_zero, List.take_left]

/-- A line with a number strictly between the lines of the two braces. -/
def isInner (main : MainFunction) (source : Text) (line : NumberedLine) : Bool :=
  main.bodyLine < line.number && line.number < lineOf source main.bodyEnd

/--
A second look at the body of the main function sees the lines of the source.

The body is masked as it is inside the source. Between the lines of the two braces the lines that
are checked are those of the source, with their numbers. Every other one is a part of the line with
its number.
-/
theorem body_lines {required : Bool} (found : locate required source = .found main) :
    maskSource (main.body source) = main.body (maskSource source) ∧
      (prepareLines (main.body source) main.bodyLine).filter (main.isInner source) =
        (prepareLines source 1).filter (main.isInner source) ∧
      ∀ line ∈ prepareLines (main.body source) main.bodyLine,
        ∃ (index : Nat) (whole : Text), line.number = index + 1 ∧
          (lines source)[index]? = some whole ∧ line.text <:+: whole := by
  -- The main function is delimited, and its lines are outlined.
  obtain ⟨header, delimited⟩ := locate_eq_found_iff.mp found
  obtain ⟨start, headerText, gap, inside, tail, outlined⟩ := exists_outlined found
  refine ⟨delimited.maskSource_body, ?_, fun line member => ?_⟩
  · -- Both are numbered upwards, so it is enough that they have the same members.
    let ahead : NumberedLine → NumberedLine → Prop := fun line later => line.number < later.number
    have irreflexive : Std.Irrefl ahead := ⟨fun line => Int.lt_irrefl line.number⟩
    have antisymmetric : Std.Antisymm ahead :=
      ⟨fun line later first second => absurd first (Int.lt_asymm second)⟩
    refine List.Pairwise.eq_of_mem_iff (r := ahead) ((ascending_prepareLines _ _).filter _)
      ((ascending_prepareLines _ _).filter _) fun line => ?_
    rw [List.mem_filter, List.mem_filter, and_congr_left_iff]
    intro inner
    rw [isInner, Bool.and_eq_true, decide_eq_true_iff, decide_eq_true_iff] at inner
    exact outlined.mem_prepareLines_body_iff inner.1 inner.2
  · -- A line is a trimmed line of the body, which in turn is a part of a line of the source.
    obtain ⟨index, raw, listed, text, number⟩ := exists_of_mem_prepareLines member
    obtain ⟨lead, rest, whole⟩ := outlined.exists_line listed
    have first := outlined.split_source.2.2
    refine ⟨breaks (source.take main.bodyStart) + index, _, by omega, whole, ?_⟩
    obtain ⟨before, after, trimmed, -⟩ := exists_eq_trim raw
    refine ⟨lead ++ before, after ++ rest, ?_⟩
    calc lead ++ before ++ line.text ++ (after ++ rest)
        = lead ++ ((before ++ (trim raw ++ after)) ++ rest) := by simp [text]
      _ = lead ++ (raw ++ rest) := by rw [← trimmed]

/-- The braces cut the first and the last line, and the literal on the first hides a third one. -/
theorem body_lines_cut :
    let source := "int main() \x7b char c = '\x7d';\n  c = 'a';\nc++; \x7d".toList
    let main : MainFunction := ⟨"int".toList, 1, 12, 43, 1⟩
    locate false source = .found main ∧
      maskSource (main.body source) = main.body (maskSource source) ∧
      (prepareLines source 1).filter (main.isInner source) = [⟨2, "c = 'a';".toList⟩] ∧
      (prepareLines (main.body source) main.bodyLine).filter (main.isInner source) =
        (prepareLines source 1).filter (main.isInner source) ∧
      ∃ (index : Nat) (whole : Text), (3 : Int) = index + 1 ∧
        (lines source)[index]? = some whole ∧ "c++;".toList <:+: whole := by
  -- The literal hides its brace, and the body is cut at the two that show.
  intro source main
  have found : locate false source = .found main := by decide
  obtain ⟨masked, between, parts⟩ := body_lines found
  exact ⟨found, masked, by decide, between, parts ⟨3, "c++;".toList⟩ (by decide)⟩

end MainFunction

end SourceLint
