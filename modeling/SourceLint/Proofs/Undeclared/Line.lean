import SourceLint.Proofs.Undeclared.Lookup

/-!
The names of a line that stand for nothing.

In the body of the main function a name that no variable has is shown in a message, provided that
one of the rules looks it up. A name that is left to another rule by each of them is lost: what an
unfinished assignment sets, and what stands behind a branch on one line.
-/

namespace SourceLint

open Text

/-- A message that shows a name between quotes. -/
def Diagnostic.Quotes (diagnostic : Diagnostic) (name : Text) : Prop :=
  ∃ front back, diagnostic.message = front ++ Finding.quoted name ++ back

/-- A message about a name that stands for nothing shows the name. -/
theorem Finding.quotes_of_unknown? {finding : Finding} {name : Text}
    (about : finding.unknown? = some name) (number : Int) :
    (finding.onLine number).Quotes name := by
  -- Only four kinds of findings are about such a name.
  cases finding with
  | undeclaredIdentifier =>
    -- Each of the four puts the name in quotes between two constant texts.
    cases about
    exact ⟨"Identifier ", " used without declaration.", rfl⟩
  | assignedUndeclared =>
    cases about
    exact ⟨"Variable ", " used before declaration.", rfl⟩
  | steppedUndeclared =>
    cases about
    exact ⟨"Variable ", " used with increment/decrement operator before declaration.", rfl⟩
  | conditionUndeclared usage =>
    cases about
    exact ⟨"Condition uses undeclared " ++ usage.label ++ " ", ".", rfl⟩
  | _ => cases about

/-- A message about a name that stands for nothing is worded like no other one. -/
theorem Finding.hasOwnWording_of_unknown? {finding : Finding} {name : Text}
    (about : finding.unknown? = some name) : finding.hasOwnWording = true := by
  -- The same four kinds of findings have a wording that no other has.
  cases finding with
  | undeclaredIdentifier | assignedUndeclared | steppedUndeclared | conditionUndeclared => rfl
  | _ => cases about

/-- A message without quotes shows no name between them. -/
theorem Diagnostic.not_quotes {diagnostic : Diagnostic}
    (unquoted : singleQuote ∉ diagnostic.message.toList) (name : Text) :
    ¬diagnostic.Quotes name := by
  -- A quoted name brings quotes into the message.
  rintro ⟨front, back, message⟩
  refine unquoted ?_
  have quote : "'".toList = [singleQuote] := rfl
  simp [message, Finding.quoted, quote]

/-- Whether a line starts with a word of a branch. -/
def LineShape.startsBranch (line : Text) : Bool :=
  startsWithWord "if".toList (skipSpace line) || startsWithElse (skipSpace line)

/--
A name of a line that every rule leaves to another one.

No finished statement assigns to it, no operator steps it and no condition reads it. Either the line
starts with a branch, or an assignment that is not finished sets the name.
-/
structure Overlooked (line name : Text) : Prop where
  unassigned : ∀ statement ∈ Statement.effective line false,
    Assignment.target? statement ≠ some name
  unstepped : name ∉ Operators.targetsIn (blank line)
  unread : name ∉ BranchShape.conditionNames line
  left : LineShape.startsBranch line = true ∨ name ∈ Assignment.targetsOn line

/-- A name that a line reads for itself is overlooked when no rule looks it up. -/
theorem overlooked_iff {line name : Text} (plain : LineShape.isDirective line = false)
    (unsigned : LineShape.isSignature Undeclared.signatureTypes Undeclared.signatureMore line =
      false)
    (listed : name ∈ Undeclared.namesIn line) (unreserved : Vocabulary.isReserved name = false)
    (other : name ≠ "main".toList) (undeclared : name ∉ Declaration.namesOn line) :
    Overlooked line name ↔ ∀ rule ∈ Rule.all, name ∉ rule.lookedUp line := by
  -- The two other exemptions are excluded by the hypotheses.
  have exempt : Undeclared.isExempt line = LineShape.startsBranch line := by
    unfold Undeclared.isExempt LineShape.startsBranch
    simp [plain, unsigned]
  -- Of the conditions under which the rule for names looks a name up two are left.
  have names : name ∈ Rule.undeclaredIdentifier.lookedUp line ↔
      ¬(LineShape.startsBranch line = true ∨ name ∈ Assignment.targetsOn line) := by
    unfold Rule.lookedUp
    dsimp only
    rw [exempt]
    split
    · rename_i branch
      simp [branch]
    · rename_i branch
      have foreign : name ≠ ['m', 'a', 'i', 'n'] := other
      simp [listed, unreserved, foreign, undeclared, branch]
  constructor
  · intro overlooked rule _ found
    -- Four rules look names up, and each of them is one condition of being overlooked.
    cases rule with
    | undeclaredIdentifier => exact names.mp found overlooked.left
    | declarations =>
      obtain ⟨statement, entered, assigns⟩ := List.mem_filterMap.mp found
      exact overlooked.unassigned statement entered assigns
    | operators => exact overlooked.unstepped found
    | branchShape => exact overlooked.unread found
    | _ => cases found
  · -- Conversely, a rule that looked the name up would contradict one of the conditions.
    intro unlooked
    refine ⟨fun statement entered assigns => ?_, unlooked .operators (by decide),
      unlooked .branchShape (by decide), ?_⟩
    · exact unlooked .declarations (by decide)
        (List.mem_filterMap.mpr ⟨statement, entered, assigns⟩)
    · by_contra free
      exact unlooked .undeclaredIdentifier (by decide) (names.mpr free)

namespace Validator

/--
A name that stands for nothing is shown in a message, unless it is overlooked.

The line is no directive, no signature of a function and mixes no types. The name is read for itself
on the line, is neither reserved nor the one of the main function, and neither the line nor the
table declares it. Then the rules for the body of the main function show it in a message. If the
name is overlooked, they do not say that it stands for nothing.
-/
theorem quotes_unless_overlooked (reportRedeclarations : Bool) (state : Rule.State)
    {line : NumberedLine} (plain : LineShape.isDirective line.text = false)
    (unsigned : LineShape.isSignature Undeclared.signatureTypes Undeclared.signatureMore line.text =
      false)
    (unmixed : MixedTypes.check line.text = []) {word : Word}
    (listed : word ∈ words (blank line.text)) (bare : word.isBareName = true)
    (direct : word.place.followsArrow = false)
    (unreserved : Vocabulary.isReserved word.text = false) (other : word.text ≠ "main".toList)
    (undeclared : word.text ∉ Declaration.namesOn line.text)
    (unknown : state.table.declares word.text = false) :
    let told :=
      (validateLine ⟨state, selectRules true Rule.all, reportRedeclarations⟩ line).2
    (¬Overlooked line.text word.text → ∃ diagnostic ∈ told, diagnostic.Quotes word.text) ∧
      (Overlooked line.text word.text → ∀ finding : Finding, finding.unknown? = some word.text →
        finding.onLine line.number ∉ told) := by
  intro told
  have read : word.text ∈ Undeclared.namesIn line.text := by
    unfold Undeclared.namesIn
    rw [mem_distinct]
    refine List.mem_map_of_mem (List.mem_filter.mpr ⟨listed, ?_⟩)
    rw [bare, direct]
    rfl
  -- A name is overlooked if no rule looks it up.
  have overlooks := overlooked_iff plain unsigned read unreserved other undeclared
  have runs : selectRules true Rule.all = Rule.all := rfl
  constructor
  · -- If the name is not overlooked, some rule looks it up and finds nothing.
    intro seen
    rw [overlooks] at seen
    push Not at seen
    obtain ⟨rule, member, looked⟩ := seen
    obtain ⟨finding, raised, about⟩ := @exists_mem_runRules _
      ⟨reportRedeclarations, line.number⟩ _ unmixed _ _ (runs ▸ member) looked undeclared _ unknown
    exact ⟨finding.onLine line.number, List.mem_map_of_mem raised,
      finding.quotes_of_unknown? about line.number⟩
  · -- If it is overlooked, a finding about it would come from a rule that looks it up.
    intro overlooked finding about found
    obtain ⟨second, raised, same⟩ : ∃ second ∈ (runRules ⟨reportRedeclarations, line.number⟩
        line.text state Rule.all).2, second.onLine line.number = finding.onLine line.number :=
      List.mem_map.mp found
    -- The wording tells which finding it is, so a rule has looked the name up after all.
    obtain ⟨rfl, -⟩ := Finding.eq_of_onLine_eq (Finding.hasOwnWording_of_unknown? about) same
    obtain ⟨⟨rule, member, looked⟩, -⟩ := lookedUp_of_mem_runRules raised about
    exact overlooks.mp overlooked rule (runs ▸ member) looked

/-- A name that is read in a finished assignment is shown. -/
theorem quotes_unless_overlooked_value :
    let line : NumberedLine := ⟨3, "total = step;".toList⟩
    let state : Rule.State := ⟨.ofSymbols [⟨"total".toList, .known .int, true, 1⟩], {}⟩
    ∃ diagnostic ∈ (validateLine ⟨state, selectRules true Rule.all, false⟩ line).2,
      diagnostic.Quotes "step".toList := by
  intro line state
  -- The line reads the name as a bare word.
  obtain ⟨word, listed, spelled, bare, direct⟩ : ∃ word ∈ words (blank line.text),
      word.text = "step".toList ∧ word.isBareName = true ∧ word.place.followsArrow = false := by
    decide +kernel
  have shown := (quotes_unless_overlooked false state (by decide +kernel) (by decide +kernel)
    (by decide +kernel) listed bare direct (by rw [spelled]; decide) (by rw [spelled]; decide)
    (by rw [spelled]; decide +kernel) (by rw [spelled]; decide +kernel)).1
  rw [spelled] at shown
  -- An assignment that is read whole looks up its value.
  refine shown fun overlooked => ?_
  have left := overlooked.left
  revert left
  decide +kernel

/-- A line on which a name stands for itself and for nothing, without a message that shows it. -/
structure Loses (line : NumberedLine) (name : Text) : Prop where
  trimmed : trim line.text = line.text
  plain : LineShape.isDirective line.text = false
  unsigned : LineShape.isSignature Undeclared.signatureTypes Undeclared.signatureMore line.text =
    false
  unmixed : MixedTypes.check line.text = []
  bare : ∃ word ∈ words (blank line.text), word.text = name ∧ word.isBareName = true ∧
    word.place.followsArrow = false ∧ word.isCalled = false
  unreserved : Vocabulary.isReserved name = false
  other : name ∉ ["main".toList, "null".toList, "nullptr".toList]
  undeclared : name ∉ Declaration.namesOn line.text
  unquoted : ∀ diagnostic ∈ (validateLine ⟨⟨{}, {}⟩, selectRules true Rule.all, false⟩ line).2,
    ¬diagnostic.Quotes name

/-- What an unfinished assignment sets is lost, and so is what stands behind a branch. -/
theorem overlooked_unquoted :
    Loses ⟨1, "x = 5".toList⟩ "x".toList ∧ Loses ⟨1, "if (true) x;".toList⟩ "x".toList := by
  -- No message about the two lines shows a name at all.
  have unquoted : ∀ line ∈ [NumberedLine.mk 1 "x = 5".toList, ⟨1, "if (true) x;".toList⟩],
      ∀ diagnostic ∈ (validateLine ⟨⟨{}, {}⟩, selectRules true Rule.all, false⟩ line).2,
        singleQuote ∉ diagnostic.message.toList := by
    decide +kernel
  constructor
  · -- The value that is assigned is a number, and nothing else is read.
    refine ⟨?_, ?_, ?_, ?_, ?_, ?_, ?_, ?_, fun diagnostic found =>
      Diagnostic.not_quotes (unquoted _ (by simp) diagnostic found) _⟩
    all_goals decide +kernel
  · -- Behind the header the name stands alone and is no target.
    refine ⟨?_, ?_, ?_, ?_, ?_, ?_, ?_, ?_, fun diagnostic found =>
      Diagnostic.not_quotes (unquoted _ (by simp) diagnostic found) _⟩
    all_goals decide +kernel

end Validator

end SourceLint
