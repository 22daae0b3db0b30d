import SourceLint.Proofs.Rescan.Rule
import SourceLint.Validator

/-!
Runs that remember which rule every finding comes from.

They go through the same states as the runs that forget it, so what is said about their findings is
said about those of a validator.
-/

namespace SourceLint

variable {α : Type}

/-- The results of a run whose findings are attributed to rules, without the attribution. -/
def unattributed {σ : Type} (outcome : σ × List (Rule × α)) : σ × List α :=
  (outcome.1, outcome.2.map Prod.snd)

namespace Validator

/-- Runs rules on one line until one breaks the circuit, and remembers whose findings they are. -/
def runRulesBy (registration : Registration) (line : Text) :
    Rule.State → List Rule → Rule.State × List (Rule × Finding)
  | state, [] => (state, [])
  | state, rule :: others =>
    let (state, findings) := rule.check registration state line
    let own := findings.map fun finding => (rule, finding)
    if rule.breaksCircuit && !findings.isEmpty then (state, own)
    else
      let (state, later) := runRulesBy registration line state others
      (state, own ++ later)

/-- Checks one line and remembers which rule every message comes from. -/
def validateLineBy (validator : Validator) (line : NumberedLine) :
    Validator × List (Rule × Diagnostic) :=
  let registration := ⟨validator.reportRedeclarations, line.number⟩
  let (state, found) := runRulesBy registration line.text validator.toState validator.rules
  ({ validator with toState := state },
    found.map fun own => (own.1, own.2.onLine line.number))

/-- Checks one line after another and remembers which rule every message comes from. -/
def validateLinesBy : Validator → List NumberedLine → Validator × List (Rule × Diagnostic)
  | validator, [] => (validator, [])
  | validator, line :: others =>
    let (validator, found) := validator.validateLineBy line
    let (validator, later) := validateLinesBy validator others
    (validator, found ++ later)

/-- Checks every line of a text and remembers which rule every message comes from. -/
def validateBy (validator : Validator) (text : Text) (first : Int) :
    Validator × List (Rule × Diagnostic) :=
  validator.reset.validateLinesBy (prepareLines text first)

/-- The findings of the rules of a line, without their attribution. -/
theorem runRules_eq (registration : Registration) (line : Text) (state : Rule.State)
    (rules : List Rule) :
    runRules registration line state rules =
      unattributed (runRulesBy registration line state rules) := by
  -- By induction on the rules.
  induction rules generalizing state with
  | nil => rfl
  | cons rule others ih =>
    rw [runRules, runRulesBy]
    -- Both runs stop at the same rule.
    simp only [ih, unattributed]
    split
    · simp [Function.comp_def]
    · simp [Function.comp_def]

/-- The messages about a line, without their attribution. -/
theorem validateLine_eq (validator : Validator) (line : NumberedLine) :
    validator.validateLine line = unattributed (validator.validateLineBy line) := by
  -- The line is checked by its rules.
  rw [validateLine, validateLineBy, runRules_eq]
  simp [unattributed, List.map_map, Function.comp_def]

/-- The messages about several lines, without their attribution. -/
theorem validateLines_eq (validator : Validator) (lines : List NumberedLine) :
    validator.validateLines lines = unattributed (validator.validateLinesBy lines) := by
  -- By induction on the lines.
  induction lines generalizing validator with
  | nil => rfl
  | cons line others ih =>
    rw [validateLines, validateLinesBy, validateLine_eq]
    simp [unattributed, ih]

/-- The messages about a text, without their attribution. -/
theorem validate_eq (validator : Validator) (text : Text) (first : Int) :
    validator.validate text first = unattributed (validator.validateBy text first) :=
  validateLines_eq validator.reset (prepareLines text first)

/-- Rules for every line find more where less is known, and only those for the body add to it. -/
theorem runRulesBy_behind {registration : Registration} (numbered : 0 < registration.line)
    {outer inner : Rule.State} (same : outer.Behind inner) (line : Text) (rules : List Rule) :
    (runRules registration line outer (selectRules false rules)).1.Behind
        (runRulesBy registration line inner rules).1 ∧
      ∀ own ∈ (runRulesBy registration line inner rules).2, own.1.isMainOnly = false →
        own.2 ∈ (runRules registration line outer (selectRules false rules)).2 := by
  -- By induction on the rules of the inner run.
  induction rules generalizing outer inner with
  | nil => exact ⟨same, by simp [runRulesBy]⟩
  | cons rule others ih =>
    cases kind : rule.isMainOnly with
    | true =>
      -- The outer run leaves the rule out.
      have skipped : selectRules false (rule :: others) = selectRules false others := by
        simp [selectRules, kind]
      have circuit : rule.breaksCircuit = false := by
        cases rule with
        | mixedTypes => cases kind
        | _ => rfl
      obtain ⟨states, found⟩ := ih (Rule.check_ahead kind same line)
      rw [skipped, runRulesBy]
      simp only [circuit, Bool.false_and, Bool.false_eq_true, if_false]
      refine ⟨states, fun own member everywhere => ?_⟩
      rcases List.mem_append.mp member with here | later
      · obtain ⟨finding, -, rfl⟩ := List.mem_map.mp here
        rw [kind] at everywhere
        cases everywhere
      · exact found own later everywhere
    -- Both runs ask the rule, and the outer one finds at least as much.
    | false =>
      have selected : selectRules false (rule :: others) = rule :: selectRules false others := by
        simp [selectRules, kind]
      obtain ⟨states, findings⟩ :=
        Rule.check_behind SymbolTable.following_behind kind numbered same line
      obtain ⟨later, found⟩ := ih states
      have stops := rule.breaksCircuit_check registration outer inner line
      have own : ∀ entry ∈ (rule.check registration inner line).2.map fun finding =>
          (rule, finding), entry.2 ∈ (rule.check registration outer line).2 := by
        intro entry member
        obtain ⟨finding, here, rfl⟩ := List.mem_map.mp member
        exact findings here
      rw [selected, runRulesBy, runRules]
      simp only [stops]
      -- The rule breaks the circuit in both runs, or it does so in neither.
      split
      · exact ⟨states, fun entry member _ => own entry member⟩
      · refine ⟨later, fun entry member everywhere => ?_⟩
        rcases List.mem_append.mp member with here | there
        · exact List.mem_append_left _ (own entry here)
        · exact List.mem_append_right _ (found entry there everywhere)

/-- A validator for a text and one for a body inside of it, with the same rules for every line. -/
structure Behind (outer inner : Validator) : Prop where
  state : outer.toState.Behind inner.toState
  rules : outer.rules = selectRules false inner.rules
  reportRedeclarations : outer.reportRedeclarations = inner.reportRedeclarations

/-- What a rule for every line says about lines of the body, it says about them in the text. -/
theorem validateLinesBy_behind {outer inner : Validator} (same : outer.Behind inner)
    {lines : List NumberedLine} (numbered : ∀ line ∈ lines, 0 < line.number) :
    (outer.validateLines lines).1.Behind (inner.validateLinesBy lines).1 ∧
      ∀ own ∈ (inner.validateLinesBy lines).2, own.1.isMainOnly = false →
        own.2 ∈ (outer.validateLines lines).2 := by
  -- By induction on the lines, which find both validators in step.
  induction lines generalizing outer inner with
  | nil => exact ⟨same, by simp [validateLinesBy]⟩
  | cons line others ih =>
    obtain ⟨states, found⟩ := @runRulesBy_behind ⟨inner.reportRedeclarations, line.number⟩
      (numbered line (by simp)) _ _ same.state line.text inner.rules
    -- The rules of the line leave both states in step for the next line.
    have step : (outer.validateLine line).1.Behind (inner.validateLineBy line).1 := by
      refine ⟨?_, same.rules, same.reportRedeclarations⟩
      rw [validateLine, validateLineBy, same.rules, same.reportRedeclarations]
      exact states
    obtain ⟨later, further⟩ := ih step fun next member => numbered next (by simp [member])
    -- What is raised is about this line or about a later one.
    refine ⟨later, fun own member everywhere => ?_⟩
    rcases List.mem_append.mp member with here | there
    · refine List.mem_append_left _ ?_
      obtain ⟨raised, listed, rfl⟩ := List.mem_map.mp
        (show own ∈ (inner.validateLineBy line).2 from here)
      have raisedOutside := found raised listed everywhere
      rw [← same.rules, ← same.reportRedeclarations] at raisedOutside
      exact List.mem_map_of_mem raisedOutside
    · exact List.mem_append_right _ (further own there everywhere)

end Validator

end SourceLint
