import SourceLint.Proofs.Log
import SourceLint.Proofs.Memory.Session

/-!
What the listeners of a run are told, compared with the reports on its result.

A listener for messages gets a line for every message that the log accepts, at the moment at which
it is accepted. The invariant is that the log is consistent: this listener has the text of every
entry. Every step of a run keeps it, also those that open and close a collapsing section, in which
messages are turned away.

The listener for symbols is told of them before the main function is examined. What it was told is
what the result shows, since nothing of the program's table in memory changes after that.
-/

namespace SourceLint

namespace MainFunction

variable {log : Log}

/-- The second look at the body of the main function keeps the log consistent. -/
theorem Scan.consistent_run (consistent : log.Consistent) (scan : Scan) (source : Text)
    (main : MainFunction) (globals : SymbolTable) :
    (scan.run source main globals log).1.Consistent := by
  unfold run
  -- The findings are reported inside a collapsing section, and the warnings behind it.
  have looked := (consistent.collapse.extend ((Validator.standard true scan.reportRedeclarations
    (scan.startTable main globals)).validate (main.body source) main.bodyLine).2).uncollapse
  exact looked.extend _

/-- The examination of the main function keeps the log consistent. -/
theorem consistent_examine (consistent : log.Consistent) (scan : Scan) (required : Bool)
    (source : Text) (globals : SymbolTable) :
    (examine scan required source globals log).1.Consistent := by
  -- Messages are only added, whether the body is looked at or a fault is reported.
  unfold examine
  cases locate required source with
  | found main => exact scan.consistent_run consistent source main globals
  | faulty reason => exact consistent.report reason.inProgram
  | absent => exact consistent

end MainFunction

namespace Analysis

/-- A run starts with a listener that has been told nothing. -/
theorem consistent_startLog (config : Config) : (startLog config).Consistent :=
  ⟨rfl, rfl, rfl⟩

/-- The listener for messages has been told of every message, however the run ends. -/
theorem diagnosticSink_run (config : Config) (source : Text) :
    (run config source).diagnosticSink =
      (run config source).result.diagnostics.map Diagnostic.text := by
  rw [run]
  cases (Comment.strip source).unclosed with
  | some start => exact ((consistent_startLog config).report _).getD_sink
  | none =>
    -- The messages come from the comments, the lines, the main function and the sweep, in order.
    have looked := ((consistent_startLog config).extend
      ((Comment.strip source).nested.map Finding.nestedComment.onLine)).extend
        ((Validator.standard false config.reportRedeclarations {}).validate
          (Comment.strip source).text 1).2
    have examined := MainFunction.consistent_examine looked
      ⟨config.scopedMain, config.reportRedeclarations⟩ config.requireMain
      (Comment.strip source).text
      ((Validator.standard false config.reportRedeclarations {}).validate
        (Comment.strip source).text 1).1.table
    exact (examined.extend _).getD_sink

end Analysis

namespace Session

/-- A session that does not end early has told its listeners what memory has in the end. -/
theorem sinks_finish (config : Config) (nested : List Int) (text : Text) :
    let session := (prepare config nested text).finish config text
    session.tokenSink = session.tokens.map Token.text ∧
      session.symbolSink = session.symbolLines ∧
      session.symbolLines = Report.symbolLines (session.memory.read session.symbols) ∧
      session.aborted = false := by
  obtain ⟨holds, -, tokens, tokenSink, symbolSink, going⟩ := prepare_follows config nested text
  have keeps := finish_keeps holds config text
  have still := holds.extend keeps.memory
  refine ⟨?_, ?_, ?_, keeps.aborted.trans going⟩
  · rw [keeps.tokenSink, keeps.tokens, tokens, tokenSink]
  · -- The symbols were shown before the examination, which has left their table alone.
    rw [keeps.symbolSink, symbolSink, keeps.symbolLines_eq holds]
  · -- The global scope that the table has kept is the one at the bottom of its list.
    rw [symbolLines, keeps.symbols, still.globals_eq, still.read_eq, Report.symbolLines]

/-- A session that ends early has told its listeners of one message alone. -/
theorem sinks_abort (config : Config) (line : Int) :
    let session := abort config line
    session.tokens = [] ∧ session.tokenSink = [] ∧ session.symbolSink = [] ∧
      (session.log.sink.getD []).length = 1 ∧ session.aborted = true :=
  ⟨rfl, rfl, rfl, rfl, rfl⟩

/--
The listeners of a session have been told what the reports on its result show.

They get one line for every token and one for every message, in order. The symbols are shown before
the main function is examined, and yet they are those that memory has in the end, in the global
scope that the table of the program has kept. A session that ends early shows neither tokens nor
symbols, and a single message. What it leaves is what a run leaves.
-/
theorem run_sinks (config : Config) (source : Text) :
    let session := run config source
    let left := session.outcome
    left = Analysis.run config source ∧
      (left.tokenSink = left.result.tokens.map Token.text ∧
        Report.render left.tokenSink = left.result.tokenReport) ∧
      (left.diagnosticSink = left.result.diagnostics.map Diagnostic.text ∧
        Report.render left.diagnosticSink = left.result.diagnosticReport) ∧
      (left.result.aborted = false → left.symbolSink = session.symbolLines ∧
        Report.render left.symbolSink = left.result.symbolReport) ∧
      (left.result.aborted = true →
        left.tokenSink = [] ∧ left.symbolSink = [] ∧ left.diagnosticSink.length = 1) := by
  intro session left
  have same : left = Analysis.run config source := outcome_run config source
  have messages : left.diagnosticSink = left.result.diagnostics.map Diagnostic.text :=
    same ▸ Analysis.diagnosticSink_run config source
  -- A session that ends early has told nobody anything but the one message.
  cases ended : (Comment.strip source).unclosed with
  | some line =>
    have early : session = abort config line := by
      show run config source = _
      simp only [run, ended]
    obtain ⟨none, tokens, symbols, single, aborted⟩ := sinks_abort config line
    rw [← early] at none tokens symbols single aborted
    -- There are no tokens to report, and the report on messages shows the one about the comment.
    have empty : left.tokenSink = left.result.tokens.map Token.text :=
      tokens.trans (congrArg (List.map Token.text) none).symm
    refine ⟨same, ⟨empty, congrArg Report.render empty⟩,
      ⟨messages, congrArg Report.render messages⟩, fun going => ?_,
      fun _ => ⟨tokens, symbols, single⟩⟩
    exact absurd (going.symm.trans aborted) Bool.false_ne_true
  -- Otherwise the three listeners have been told what the result holds.
  | none =>
    have whole : session = (prepare config (Comment.strip source).nested
        (Comment.strip source).text).finish config (Comment.strip source).text := by
      show run config source = _
      simp only [run, ended]
    obtain ⟨tokens, shown, kept, going⟩ :=
      sinks_finish config (Comment.strip source).nested (Comment.strip source).text
    rw [← whole] at tokens shown kept going
    -- The reports show the lists of the result, so they agree with what was told.
    refine ⟨same, ⟨tokens, congrArg Report.render tokens⟩,
      ⟨messages, congrArg Report.render messages⟩,
      fun _ => ⟨shown, congrArg Report.render (shown.trans kept)⟩, fun aborted => ?_⟩
    exact absurd (going.symm.trans aborted) Bool.false_ne_true

end Session

end SourceLint
