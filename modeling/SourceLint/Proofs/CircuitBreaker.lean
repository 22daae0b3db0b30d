import SourceLint.Proofs.Rescan.Agreement
import SourceLint.Proofs.Rule
import SourceLint.Proofs.Wording

/-!
Branches across lines that break the circuit.

A line that mixes types is not seen by the rules behind the one that finds this, so the tracker of
branches reads the other lines only. A tracker on its own that reads every line comes to the same
answers as long as the lines that are passed over would not have changed it.
-/

namespace SourceLint

open Text

/-- The tracker after several lines. -/
def ElseTracker.readLines (tracker : ElseTracker) (lines : List NumberedLine) : ElseTracker :=
  lines.foldl (fun tracker line => (tracker.check line.text).1) tracker

/-- Whether a line is checked by all rules, since it does not mix types. -/
def NumberedLine.isUnmixed (line : NumberedLine) : Bool :=
  (MixedTypes.check line.text).isEmpty

/-- A line is passed over by the rules behind the first one when that one finds something. -/
theorem NumberedLine.isUnmixed_iff (line : NumberedLine) :
    line.isUnmixed = true ↔ MixedTypes.check line.text = [] :=
  List.isEmpty_iff

namespace ElseTracker

/-- Lines that leave the tracker as it is can be passed over. -/
theorem readLines_filter {keeps : NumberedLine → Bool} {lines : List NumberedLine}
    {tracker : ElseTracker}
    (idle : ∀ index (inside : index < lines.length), keeps lines[index] = false →
      ((tracker.readLines (lines.take index)).check lines[index].text).1 =
        tracker.readLines (lines.take index)) :
    tracker.readLines (lines.filter keeps) = tracker.readLines lines := by
  -- By induction on the lines, each of which is read or passed over.
  induction lines generalizing tracker with
  | nil => rfl
  | cons line others ih =>
    -- The lines behind the first one meet the tracker that the first one leaves.
    have rest := @ih (tracker.check line.text).1 fun index inside skipped =>
      idle (index + 1) (Nat.succ_lt_succ inside) skipped
    cases kept : keeps line with
    | true =>
      rw [List.filter_cons_of_pos kept]
      exact rest
    | false =>
      -- The line would have left the tracker as it was, so it can be left out.
      have same : (tracker.check line.text).1 = tracker := idle 0 (Nat.succ_pos _) kept
      rw [List.filter_cons_of_neg (by simp [kept])]
      rw [same] at rest
      rw [rest]
      unfold readLines
      rw [List.foldl_cons, same]

end ElseTracker

namespace Validator

/-- Only one rule changes the tracker. -/
theorem tracker_check {rule : Rule} (other : rule ≠ .danglingElse) (registration : Registration)
    (state : Rule.State) (line : Text) :
    (rule.check registration state line).1.tracker = state.tracker := by
  -- All other rules only read it.
  cases rule with
  | danglingElse => exact absurd rfl other
  | _ => rfl

/-- Rules without the one that reads branches leave the tracker as it is. -/
theorem tracker_runRules {rules : List Rule} (absent : .danglingElse ∉ rules)
    (registration : Registration) (line : Text) (state : Rule.State) :
    (runRules registration line state rules).1.tracker = state.tracker := by
  -- It makes no difference whether the rule stops the ones behind it.
  induction rules generalizing state with
  | nil => rfl
  | cons rule others ih =>
    rw [List.mem_cons, not_or] at absent
    obtain ⟨differs, later⟩ := absent
    have here := tracker_check (Ne.symm differs) registration state line
    unfold runRules
    dsimp only
    -- A rule that stops the others leaves the tracker to nobody else.
    split
    · exact here
    · exact (ih later _).trans here

/-- Two rules stand in front of the one that reads branches, which occurs once. -/
theorem exists_selectRules (mainBody : Bool) :
    ∃ others, selectRules mainBody Rule.all =
      .mixedTypes :: .stringArithmetic :: .danglingElse :: others ∧ .danglingElse ∉ others := by
  -- In both settings the list of rules is written out.
  cases mainBody with
  | false => exact ⟨_, rfl, by decide⟩
  | true => exact ⟨_, rfl, by decide⟩

variable (mainBody reportRedeclarations : Bool)

/-- On a line without mixed types the rules answer about branches as the tracker alone does. -/
theorem runRules_unmixed {line : Text} (unmixed : MixedTypes.check line = [])
    (registration : Registration) (state : Rule.State) :
    let outcome := runRules registration line state (selectRules mainBody Rule.all)
    outcome.1.tracker = (state.tracker.check line).1 ∧
      (.danglingElse ∈ outcome.2 ↔ .danglingElse ∈ (state.tracker.check line).2) := by
  obtain ⟨others, selected, absent⟩ := exists_selectRules mainBody
  -- The rules behind the one for branches neither move the tracker nor speak about it.
  have behind := tracker_runRules absent registration line
    { state with tracker := (state.tracker.check line).1 }
  have silent : ∀ reached, .danglingElse ∉ (runRules registration line reached others).2 := by
    intro reached found
    obtain ⟨rule, member, own⟩ := exists_rule_of_mem_runRules found
    exact absent (Option.some.inj own ▸ member)
  -- The rules in front of the tracker speak about types and arithmetic.
  have front : .danglingElse ∉ StringArithmetic.check state.table line := by
    intro found
    have own := Rule.raises_check .stringArithmetic registration state line _ found
    cases own
  simp only [selected, runRules, Rule.check, Rule.breaksCircuit, unmixed, List.isEmpty_nil,
    Bool.not_true, Bool.and_false, Bool.false_and, Bool.false_eq_true, if_false, List.nil_append,
    List.mem_append]
  exact ⟨behind, by simp [front, silent]⟩

/-- On a line with mixed types the tracker rests. -/
theorem tracker_runRules_mixed {line : Text} (mixed : MixedTypes.check line ≠ [])
    (registration : Registration) (state : Rule.State) :
    (runRules registration line state (selectRules mainBody Rule.all)).1.tracker =
      state.tracker := by
  -- The rule for mixed types comes first and breaks the circuit.
  obtain ⟨others, selected, -⟩ := exists_selectRules mainBody
  have reported : (MixedTypes.check line).isEmpty = false := List.isEmpty_eq_false_iff.mpr mixed
  simp [selected, runRules, Rule.check, Rule.breaksCircuit, reported]

/-- After several lines the tracker has read those that do not mix types. -/
theorem tracker_validateLines (state : Rule.State) (lines : List NumberedLine) :
    ∃ reached, (validateLines ⟨state, selectRules mainBody Rule.all, reportRedeclarations⟩
        lines).1 = ⟨reached, selectRules mainBody Rule.all, reportRedeclarations⟩ ∧
      reached.tracker = state.tracker.readLines (lines.filter NumberedLine.isUnmixed) := by
  -- By induction on the lines, the rest of which meets what the first one leaves.
  induction lines generalizing state with
  | nil => exact ⟨state, rfl, rfl⟩
  | cons line others ih =>
    obtain ⟨reached, after, tracked⟩ := ih (runRules ⟨reportRedeclarations, line.number⟩ line.text
      state (selectRules mainBody Rule.all)).1
    refine ⟨reached, after, tracked.trans ?_⟩
    -- Mixed types stop the rules before the tracker sees the line.
    cases unmixed : line.isUnmixed with
    | true =>
      rw [List.filter_cons_of_pos unmixed, (runRules_unmixed mainBody
        (line.isUnmixed_iff.mp unmixed) _ state).1]
      rfl
    | false =>
      have mixed : MixedTypes.check line.text ≠ [] := fun none => by
        rw [line.isUnmixed_iff.mpr none] at unmixed
        cases unmixed
      -- A line with mixed types is left out, and it has left the tracker as it was.
      rw [List.filter_cons_of_neg (by simp [unmixed]),
        tracker_runRules_mixed mainBody mixed _ state]

/-- A finding is told about a line of a text when the rules find it there. -/
theorem onLine_mem_validateLines_iff {validator : Validator} {earlier later : List NumberedLine}
    {line : NumberedLine}
    (ascending : (earlier ++ line :: later).Pairwise fun line later => line.number < later.number)
    {finding : Finding} (own : finding.hasOwnWording = true) :
    finding.onLine line.number ∈ (validator.validateLines (earlier ++ line :: later)).2 ↔
      finding.onLine line.number ∈ ((validator.validateLines earlier).1.validateLine line).2 := by
  -- The lines in front have smaller numbers, and those behind have larger ones.
  obtain ⟨-, rest, before⟩ := List.pairwise_append.mp ascending
  -- A message about another line carries the number of that line.
  have elsewhere : ∀ (other : Validator) (lines : List NumberedLine),
      finding.onLine line.number ∈ (other.validateLines lines).2 →
        ∃ next ∈ lines, next.number = line.number := by
    intro other lines found
    obtain ⟨_, _, -, -, next, listed, same⟩ := exists_finding_of_mem_validateLines found
    exact ⟨next, listed, (Finding.eq_of_onLine_eq own same.symm).2⟩
  rw [validateLines_append]
  simp only [validateLines, List.mem_append]
  constructor
  · -- The finding is not told about a line in front or behind, so it is told about this one.
    rintro (early | here | late)
    · obtain ⟨next, listed, same⟩ := elsewhere _ _ early
      have := before next listed line (by simp)
      omega
    · exact here
    · obtain ⟨next, listed, same⟩ := elsewhere _ _ late
      have := (List.pairwise_cons.mp rest).1 next listed
      omega
  · exact fun here => .inr (.inl here)

/--
An `else` is judged as if the lines that mix types were not there.

On a line that does not mix types itself, the rules report an `else` without its `if` exactly when a
tracker does that has read the earlier lines without mixed types. One that has read all of them
gives the same answer if each line that was passed over would have left it as it was.
-/
theorem danglingElse_onLine_iff (table : SymbolTable) {text : Text} {first : Int}
    {earlier later : List NumberedLine} {line : NumberedLine}
    (split : prepareLines text first = earlier ++ line :: later)
    (unmixed : MixedTypes.check line.text = []) :
    let told := Finding.danglingElse.onLine line.number ∈
      ((standard mainBody reportRedeclarations table).validate text first).2
    let fresh : ElseTracker := {}
    (told ↔ .danglingElse ∈
      ((fresh.readLines (earlier.filter NumberedLine.isUnmixed)).check line.text).2) ∧
    ((∀ index (inside : index < earlier.length), MixedTypes.check earlier[index].text ≠ [] →
        ((fresh.readLines (earlier.take index)).check earlier[index].text).1 =
          fresh.readLines (earlier.take index)) →
      (told ↔ .danglingElse ∈ ((fresh.readLines earlier).check line.text).2)) := by
  intro told fresh
  -- The lines in front have left the tracker as if those with mixed types were not there.
  have exact : told ↔ .danglingElse ∈
      ((fresh.readLines (earlier.filter NumberedLine.isUnmixed)).check line.text).2 := by
    show Finding.danglingElse.onLine line.number ∈
      (validateLines (standard mainBody reportRedeclarations table).reset
        (prepareLines text first)).2 ↔ _
    have ascending := ascending_prepareLines text first
    rw [split] at ascending ⊢
    -- No other line can have told it, so the lines in front only matter for the tracker.
    rw [onLine_mem_validateLines_iff ascending rfl]
    obtain ⟨reached, after, tracked⟩ :=
      tracker_validateLines mainBody reportRedeclarations ⟨table, {}⟩ earlier
    have start : (standard mainBody reportRedeclarations table).reset =
      ⟨⟨table, {}⟩, selectRules mainBody Rule.all, reportRedeclarations⟩ := rfl
    rw [start, after, ← tracked]
    rw [← (runRules_unmixed mainBody unmixed ⟨reportRedeclarations, line.number⟩ reached).2]
    unfold validateLine
    -- On this line the rules answer as the tracker does that they were handed.
    dsimp only
    rw [List.mem_map]
    constructor
    · rintro ⟨finding, found, same⟩
      exact (Finding.eq_of_onLine_eq rfl same).1 ▸ found
    · exact fun found => ⟨_, found, rfl⟩
  refine ⟨exact, fun idle => ?_⟩
  -- Lines that would have left it as it was can be read as well.
  rw [← ElseTracker.readLines_filter fun index inside skipped => ?_]
  · exact exact
  · refine idle index inside fun none => ?_
    rw [(NumberedLine.isUnmixed_iff _).mpr none] at skipped
    cases skipped

/-- A declaration with two types inside a branch does not part its `else` from it. -/
theorem danglingElse_onLine_iff_inside :
    let text := "if (true) \x7b\nint float x;\n\x7d\nelse \x7b\n\x7d".toList
    MixedTypes.check "int float x;".toList ≠ [] ∧
      Finding.danglingElse.onLine 4 ∉ ((standard true false {}).validate text 1).2 := by
  intro text
  -- Passing over the line with two types does not change how deep the branch is.
  have alike := (@danglingElse_onLine_iff true false {} text 1
    ((prepareLines text 1).take 3) ((prepareLines text 1).drop 4) ⟨4, "else \x7b".toList⟩
    (by decide +kernel) (by decide +kernel)).2 (by decide +kernel)
  -- The answer of the tracker is computed, once for all lines in front.
  refine ⟨by decide +kernel, fun told => ?_⟩
  have alone := alike.mp told
  revert alone
  decide +kernel

/-- A branch that opens on a line with two types is missed, and its `else` is reported. -/
theorem danglingElse_behind_mixedTypes :
    let text := "if (true) \x7b int float x;\n\x7d\nelse \x7b\n\x7d".toList
    prepareLines text 1 = (prepareLines text 1).take 2 ++
        ⟨3, "else \x7b".toList⟩ :: (prepareLines text 1).drop 3 ∧
      MixedTypes.check "else \x7b".toList = [] ∧
      Finding.danglingElse.onLine 3 ∈ ((standard false false {}).validate text 1).2 ∧
      .danglingElse ∉ ((({} : ElseTracker).readLines ((prepareLines text 1).take 2)).check
        "else \x7b".toList).2 := by
  decide +kernel

end Validator

end SourceLint
