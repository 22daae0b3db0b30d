import SourceLint.Analysis
import SourceLint.Proofs.Comment.Uncommented
import SourceLint.Proofs.Log
import SourceLint.Proofs.Rule
import SourceLint.Proofs.Unset.Message
import SourceLint.Proofs.Wording

/-!
Comments do not matter to a run.

What is left of a source is checked like the source itself. The only messages that go missing are
those about comments inside comments.
-/

namespace SourceLint

open Text

/-- Whether a message is about a block comment that is opened inside another one. -/
def Diagnostic.isNestedComment (diagnostic : Diagnostic) : Bool :=
  diagnostic.line.any fun line => diagnostic == Finding.nestedComment.onLine line

namespace Finding

/-- No other finding is worded like a comment inside a comment. -/
theorem message_ne {finding : Finding} (other : finding ≠ nestedComment) :
    finding.message ≠ nestedComment.message := by
  -- The other wordings start with other words.
  cases finding with
  | nestedComment => exact absurd rfl other
  | _ => exact message_ne_of_opening rfl

end Finding

namespace Diagnostic

/-- A message about a line is about a comment inside a comment if that is what was found. -/
@[simp] theorem isNestedComment_onLine (finding : Finding) (line : Int) :
    (finding.onLine line).isNestedComment = decide (finding = .nestedComment) := by
  -- Severity, origin and line are the same for many findings, so the wording decides.
  by_cases nested : finding = .nestedComment
  · simp [isNestedComment, nested, Finding.onLine]
  · simp [isNestedComment, nested, Finding.onLine, Finding.message_ne nested]

/-- No message about the program is about a comment inside a comment. -/
@[simp] theorem isNestedComment_inProgram (finding : Finding) :
    finding.inProgram.isNestedComment = false :=
  rfl

/-- No message about the main function is about a comment inside a comment. -/
@[simp] theorem isNestedComment_inMain (finding : Finding) (line : Int) :
    (finding.inMain line).isNestedComment = false := by
  simp [isNestedComment, Finding.inMain, Finding.onLine]

end Diagnostic

/-- No rule finds a comment inside a comment. -/
theorem Validator.isNestedComment_of_mem_validate {validator : Validator} {text : Text}
    {first : Int} {diagnostic : Diagnostic}
    (found : diagnostic ∈ (validator.validate text first).2) :
    diagnostic.isNestedComment = false := by
  obtain ⟨finding, rule, own, -, line, -, rfl⟩ := exists_finding_of_mem_validateLines found
  rw [Diagnostic.isNestedComment_onLine, decide_eq_false_iff_not]
  -- That finding comes from no rule.
  rintro rfl
  cases own

/-- A message, unless it is about a comment inside a comment. -/
def Diagnostic.uncommented? : Diagnostic → Option Diagnostic :=
  Option.guard fun diagnostic => !diagnostic.isNestedComment

/-- The messages that are not about comments stay as they are. -/
theorem Diagnostic.keepsApart_uncommented : Log.KeepsApart Diagnostic.uncommented? := by
  -- Both messages stay as they are, so they are equal if their images are.
  intro first second image kept again
  rw [uncommented?, Option.guard_eq_some_iff] at kept again
  exact kept.1.trans again.1.symm

/-- Leaving out the messages about comments is a filter. -/
theorem Diagnostic.filterMap_uncommented (diagnostics : List Diagnostic) :
    diagnostics.filterMap Diagnostic.uncommented? =
      diagnostics.filter fun diagnostic => !diagnostic.isNestedComment := by
  rw [uncommented?, List.filterMap_eq_filter]

/-- A log without the messages about comments inside comments. -/
abbrev Log.Uncommented (log plain : Log) : Prop :=
  log.Follows Diagnostic.uncommented? plain

/-- Messages that are not about comments reach both logs. -/
theorem Log.Follows.extend_uncommented {log plain : Log} (same : log.Uncommented plain)
    {diagnostics : List Diagnostic}
    (kept : ∀ diagnostic ∈ diagnostics, diagnostic.isNestedComment = false) :
    (log.extend diagnostics).Uncommented (plain.extend diagnostics) := by
  -- None of the messages is left out.
  have all : diagnostics.filterMap Diagnostic.uncommented? = diagnostics := by
    rw [Diagnostic.filterMap_uncommented, List.filter_eq_self]
    exact fun diagnostic member => by rw [kept diagnostic member, Bool.not_false]
  have both := same.extend Diagnostic.keepsApart_uncommented diagnostics
  rwa [all] at both

namespace MainFunction

variable {log plain : Log}

/-- The second look at the body of the main function says nothing about comments. -/
theorem run_uncommented (same : log.Uncommented plain) (scan : Scan) (source : Text)
    (main : MainFunction) (globals : SymbolTable) :
    (scan.run source main globals log).1.Uncommented (scan.run source main globals plain).1 ∧
      (scan.run source main globals log).2 = (scan.run source main globals plain).2 := by
  -- The rules say nothing about comments.
  have unraised := fun diagnostic => @Validator.isNestedComment_of_mem_validate
    (Validator.standard true scan.reportRedeclarations (scan.startTable main globals))
    (main.body source) main.bodyLine diagnostic
  simp only [Scan.run]
  generalize (Validator.standard true scan.reportRedeclarations
    (scan.startTable main globals)).validate (main.body source) main.bodyLine = outcome
    at unraised ⊢
  obtain ⟨after, found⟩ := outcome
  -- Repeated messages are turned away by both logs, and then come the warnings.
  have looked := (same.collapse.extend_uncommented unraised).uncollapse
  refine ⟨looked.extend_uncommented fun diagnostic warned => ?_, trivial⟩
  obtain ⟨symbol, -, rfl⟩ := exists_of_mem_warnUnset warned
  exact Diagnostic.isNestedComment_inMain _ _

/-- The examination of the main function says nothing about comments. -/
theorem examine_uncommented (same : log.Uncommented plain) (scan : Scan) (required : Bool)
    (source : Text) (globals : SymbolTable) :
    (examine scan required source globals log).1.Uncommented
        (examine scan required source globals plain).1 ∧
      (examine scan required source globals log).2 =
        (examine scan required source globals plain).2 := by
  -- A search that fails is reported in words that are not about comments.
  unfold examine
  cases locate required source with
  | found main => exact run_uncommented same scan source main globals
  | faulty reason => exact ⟨same.report Diagnostic.keepsApart_uncommented rfl, rfl⟩
  | absent => exact ⟨same, rfl⟩

end MainFunction

namespace Analysis

/-- A result without the messages about comments inside comments. -/
def uncommented (analysis : Analysis) : Analysis :=
  { analysis with
    diagnostics := analysis.diagnostics.filter fun diagnostic => !diagnostic.isNestedComment }

/-- No warning about a variable without a value is about a comment inside a comment. -/
theorem isNestedComment_of_mem_sweep {table : SymbolTable} {settled : Scope}
    {diagnostic : Diagnostic} (unset : diagnostic ∈ sweep table settled) :
    diagnostic.isNestedComment = false := by
  -- All of these warnings are worded alike.
  obtain ⟨symbol, -, rfl⟩ := List.mem_map.mp unset
  exact Diagnostic.isNestedComment_inProgram _

/-- What is reported about comments changes nothing in the rest of a run. -/
theorem runStripped_uncommented (config : Config) (nested : List Int) (text : Text) :
    (runStripped config [] text).result = (runStripped config nested text).result.uncommented := by
  -- The rules say nothing about comments, and both runs check the same lines.
  have unraised := fun diagnostic => @Validator.isNestedComment_of_mem_validate
    (Validator.standard false config.reportRedeclarations {}) text 1 diagnostic
  simp only [runStripped]
  generalize (Validator.standard false config.reportRedeclarations {}).validate text 1 = outcome
    at unraised ⊢
  obtain ⟨after, found⟩ := outcome
  dsimp only at unraised
  have started : (startLog config).Uncommented (startLog config) := ⟨rfl, rfl, rfl, rfl⟩
  -- The messages about comments come first, and only one of the logs has them.
  have aside :
      (nested.map Finding.nestedComment.onLine).filterMap Diagnostic.uncommented? = [] := by
    rw [Diagnostic.filterMap_uncommented, List.filter_eq_nil_iff]
    simp
  have commented : ((startLog config).extend
      (nested.map Finding.nestedComment.onLine)).Uncommented (startLog config) := by
    have both := started.extend Diagnostic.keepsApart_uncommented
      (nested.map Finding.nestedComment.onLine)
    rwa [aside] at both
  -- All later messages reach both logs.
  obtain ⟨examined, settled⟩ := MainFunction.examine_uncommented
    (commented.extend_uncommented unraised) ⟨config.scopedMain, config.reportRedeclarations⟩
    config.requireMain text after.table
  have swept := examined.extend_uncommented fun diagnostic =>
    @isNestedComment_of_mem_sweep after.table (MainFunction.examine
      ⟨config.scopedMain, config.reportRedeclarations⟩ config.requireMain text after.table
      ((startLog config).extend found)).2 diagnostic
  -- Without reports on comments a log starts as it is.
  have nothing : (startLog config).extend (([] : List Int).map Finding.nestedComment.onLine) =
      startLog config := rfl
  simp only [nothing, settled, uncommented, swept.entries, swept.strict,
    Diagnostic.filterMap_uncommented]

/--
Removing comments once more changes nothing, and comments do not matter to the rest of a run.

The run on what is left of a source has the result of the run on the source, without the messages
about comments inside comments.
-/
theorem analyze_strip {source : Text} (closed : (Comment.strip source).unclosed = none) :
    Comment.strip (Comment.strip source).text = { text := (Comment.strip source).text } ∧
      ∀ config, analyze config (Comment.strip source).text =
        { analyze config source with
          diagnostics := (analyze config source).diagnostics.filter
            fun diagnostic => !diagnostic.isNestedComment } := by
  -- What is left of the source holds no comment.
  have again := Comment.strip_text_strip source
  refine ⟨again, fun config => ?_⟩
  -- Neither run ends early, and the second one has nothing to say about comments.
  rw [analyze, analyze, run, run, again]
  simp only [closed]
  exact runStripped_uncommented config _ _

/-- A comment inside a comment leaves only its message. -/
theorem analyze_strip_nested :
    (Comment.strip "/* /* */int a;".toList).unclosed = none ∧
      (Comment.strip "/* /* */int a;".toList).nested = [1] ∧
      (Comment.strip "/* /* */int a;".toList).text = "int a;".toList ∧
      analyze {} "int a;".toList =
        { analyze {} "/* /* */int a;".toList with
          diagnostics := (analyze {} "/* /* */int a;".toList).diagnostics.filter
            fun diagnostic => !diagnostic.isNestedComment } := by
  -- The outer comment ends at the only close marker.
  have closed : (Comment.strip "/* /* */int a;".toList).unclosed = none := by decide
  have left : (Comment.strip "/* /* */int a;".toList).text = "int a;".toList := by decide
  exact ⟨closed, by decide, left, left ▸ (analyze_strip closed).2 {}⟩

end Analysis

end SourceLint
