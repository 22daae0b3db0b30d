import SourceLint.Proofs.Log
import SourceLint.Proofs.Sections

/-!
Logs after any number of messages and collapsing sections.

The entries grow at their end only, and the counters and the listener keep up with them. A message
is turned away inside a section at most, and there exactly if the log holds it already.
-/

namespace SourceLint.Log

/-- What can be done to a log. -/
inductive Step where
  | report (diagnostic : Diagnostic)
  | extend (diagnostics : List Diagnostic)
  | error (message : String) (line : Option Int) (origin : Origin)
  | warning (message : String) (line : Option Int) (origin : Origin)
  /-- A collapsing section is entered. -/
  | collapse
  /-- The innermost collapsing section is left. -/
  | uncollapse
deriving DecidableEq

/-- The log after a step. -/
def apply (log : Log) : Step → Log
  | .report diagnostic => log.report diagnostic
  | .extend diagnostics => log.extend diagnostics
  | .error message line origin => log.error message line origin
  | .warning message line origin => log.warning message line origin
  | .collapse => log.collapse
  | .uncollapse => log.uncollapse

/-- The log after several steps. -/
def run (log : Log) (steps : List Step) : Log :=
  steps.foldl apply log

/-- A message changes the entries at their end only. -/
theorem prefix_report (log : Log) (diagnostic : Diagnostic) :
    log.entries <+: (log.report diagnostic).entries := by
  -- A message is turned away, or it becomes the last entry.
  cases accepted : log.accepts diagnostic with
  | false => rw [report_of_turned accepted]
  | true => exact ⟨[diagnostic], (entries_report accepted).symm⟩

/-- Several messages change the entries at their end only. -/
theorem prefix_extend (log : Log) (diagnostics : List Diagnostic) :
    log.entries <+: (log.extend diagnostics).entries := by
  -- The messages that are accepted come behind the entries that are there.
  obtain ⟨added, entries, -⟩ := exists_entries_extend log diagnostics
  exact ⟨added, entries.symm⟩

/-- Every step keeps a log consistent. -/
theorem Consistent.apply {log : Log} (consistent : log.Consistent) (step : Step) :
    (log.apply step).Consistent := by
  -- The steps that report are reports of one or several messages, and the others move the section.
  cases step with
  | report diagnostic => exact consistent.report diagnostic
  | extend diagnostics => exact consistent.extend diagnostics
  | error message line origin => exact consistent.report _
  | warning message line origin => exact consistent.report _
  | collapse => exact consistent.collapse
  | uncollapse => exact consistent.uncollapse

/-- No step takes an entry away or puts one in front of another. -/
theorem prefix_apply (log : Log) (step : Step) : log.entries <+: (log.apply step).entries := by
  -- A step reports messages, or it touches the entries not at all.
  cases step with
  | report diagnostic => exact prefix_report log diagnostic
  | extend diagnostics => exact prefix_extend log diagnostics
  | error message line origin => exact prefix_report log _
  | warning message line origin => exact prefix_report log _
  | collapse => exact List.prefix_rfl
  | uncollapse => exact List.prefix_rfl

/-- A consistent log stays consistent. -/
theorem Consistent.run {log : Log} (consistent : log.Consistent) (steps : List Step) :
    (log.run steps).Consistent := by
  -- By induction on the steps, each of which is handed a consistent log.
  rw [Log.run]
  induction steps generalizing log with
  | nil => exact consistent
  | cons first others ih => exact ih (consistent.apply first)

/-- More steps leave the entries where they are. -/
theorem prefix_run (log : Log) (steps : List Step) : log.entries <+: (log.run steps).entries := by
  -- The entries behind each step start with those in front of it.
  rw [run]
  induction steps generalizing log with
  | nil => exact List.prefix_rfl
  | cons first others ih => exact (prefix_apply log first).trans (ih (log.apply first))

/--
A log in which a number of sections is open.

The flag is up in each of them, and down in front of them all.
-/
def Opened (log : Log) (depth : Nat) : Prop :=
  log.flags = List.replicate depth true ++ [false]

namespace Opened

variable {log : Log} {depth : Nat}

/-- The flag is up exactly if a section is open. -/
theorem collapsing_iff (opened : log.Opened depth) : log.collapsing = true ↔ 0 < depth := by
  -- The innermost state of the sections is the flag itself.
  cases depth with
  | zero => simp [(List.cons.inj opened).1]
  | succ outer => simp [(List.cons.inj opened).1]

/-- A section that is entered saves the flag and raises it. -/
theorem collapse (opened : log.Opened depth) : log.collapse.Opened (depth + 1) :=
  congrArg (List.cons true) opened

/-- A section that is left gives back the flag of the one around it. Without sections none is. -/
theorem uncollapse (opened : log.Opened depth) : log.uncollapse.Opened (depth - 1) := by
  cases depth with
  | zero =>
    -- Nothing was saved, so the flag stays down.
    obtain ⟨down, nothing⟩ := List.cons.inj opened
    simp [Opened, flags, Log.uncollapse, down, nothing]
  | succ outer =>
    -- The saved flags are those of the sections around, down to the first flag.
    have saved : log.saved = List.replicate outer true ++ [false] := (List.cons.inj opened).2
    cases outer <;> simp [Opened, flags, Log.uncollapse, saved, List.replicate_succ]

/-- A step opens or closes a section like it counts. -/
theorem apply (opened : log.Opened depth) (step : Step) :
    (log.apply step).Opened (Sections.move .collapse .uncollapse depth step) := by
  -- Reports leave the flags alone, so only the two kinds of bracket count.
  cases step with
  | report diagnostic => exact (flags_report log diagnostic).trans opened
  | extend diagnostics => exact (flags_extend log diagnostics).trans opened
  | error message line origin => exact (flags_report log _).trans opened
  | warning message line origin => exact (flags_report log _).trans opened
  | collapse => exact opened.collapse
  | uncollapse => exact opened.uncollapse

/-- The open sections are those that the steps have opened and not closed. -/
theorem run (opened : log.Opened depth) (steps : List Step) :
    (log.run steps).Opened (Sections.depth .collapse .uncollapse depth steps) := by
  -- The count goes on behind each step from where the step has left it.
  rw [Log.run, Sections.depth]
  induction steps generalizing log depth with
  | nil => exact opened
  | cons first others ih => exact ih (opened.apply first)

end Opened

/--
What a log with a listener holds after any steps that enter and leave sections properly.

No entry is ever moved or lost, the counters and the listener agree with the entries, and a section
is open exactly if more have been entered than left. A further message is accepted outside all
sections, and inside of them exactly if no equal one has been. Otherwise it changes nothing.
-/
theorem run_consistent {steps : List Step} (nested : Sections.Nested .collapse .uncollapse steps)
    (strict : Bool) :
    let new : Log := { sink := some [], strict }
    let log := new.run steps
    (∀ front, front <+: steps → (new.run front).entries <+: log.entries) ∧
      log.errors = log.entries.countP (fun entry => entry.level == .error) ∧
      log.warnings = log.entries.countP (fun entry => entry.level == .warning) ∧
      log.sink = some (log.entries.map Diagnostic.text) ∧
      (log.collapsing = true ↔ steps.count .uncollapse < steps.count .collapse) ∧
      ∀ diagnostic,
        (log.accepts diagnostic = true ↔
          steps.count .uncollapse = steps.count .collapse ∨ diagnostic ∉ log.entries) ∧
        (log.accepts diagnostic = true →
          (log.report diagnostic).entries = log.entries ++ [diagnostic]) ∧
        (log.accepts diagnostic = false → log.report diagnostic = log) := by
  intro new log
  -- A new log has no entries and has told its listener nothing.
  have consistent : log.Consistent := Consistent.run ⟨rfl, rfl, rfl⟩ steps
  have opened : log.Opened (steps.count .collapse - steps.count .uncollapse) := by
    have sections := Opened.run (show new.Opened 0 from rfl) steps
    rwa [nested.depth_eq (by decide), Nat.zero_add] at sections
  have collapsing : log.collapsing = true ↔ steps.count .uncollapse < steps.count .collapse := by
    rw [opened.collapsing_iff, Nat.sub_pos_iff_lt]
  refine ⟨?_, consistent.errors, consistent.warnings, consistent.sink, collapsing, ?_⟩
  · -- What comes behind the front only adds entries at their end.
    rintro front ⟨rest, rfl⟩
    have later := prefix_run (new.run front) rest
    rwa [run, run, ← List.foldl_append] at later
  · intro diagnostic
    refine ⟨?_, entries_report, report_of_turned⟩
    -- No more sections are closed than are opened, so that outside of them all are closed.
    have left := nested.count_le
    have outside : log.collapsing = false ↔
        steps.count .uncollapse = steps.count .collapse := by
      rw [← Bool.not_eq_true, collapsing]
      omega
    rw [accepts_eq, Bool.or_eq_true, Bool.not_eq_true', outside, Bool.not_eq_true',
      List.contains_eq_mem, decide_eq_false_iff_not]

/-- Inside a section a message that was recorded before it is turned away, another one is not. -/
theorem run_consistent_open :
    let known : Diagnostic := ⟨.error, .line, some 1, "a"⟩
    let other : Diagnostic := ⟨.error, .line, some 2, "a"⟩
    let steps : List Step :=
      [.error "b" (some 7) .main, .report known, .collapse, .extend [known],
        .warning "c" none .program, .collapse, .report known, .uncollapse]
    let log := run { sink := some [] } steps
    Sections.Nested .collapse .uncollapse steps ∧ log.errors = 2 ∧ log.warnings = 1 ∧
      log.collapsing = true ∧
      log.sink = some ["Main function line 7: b", "Line 1: a", "Warning: c"] ∧
      log.report known = log ∧ (log.report other).entries = log.entries ++ [other] := by
  intro known other steps log
  -- The section that is left open is the outer one.
  have nested : Sections.Nested .collapse .uncollapse steps := by decide
  obtain ⟨-, errors, warnings, sink, sections, messages⟩ := run_consistent nested false
  obtain ⟨repeated, -, turned⟩ := messages known
  obtain ⟨fresh, recorded, -⟩ := messages other
  -- The message is an entry, and a section is still open.
  have held : log.accepts known ≠ true := mt repeated.mp (by decide)
  exact ⟨nested, errors, warnings, sections.mpr (by decide), sink, turned (by simpa using held),
    recorded (fresh.mpr (by decide))⟩

end SourceLint.Log
