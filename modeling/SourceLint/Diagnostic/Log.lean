import SourceLint.Diagnostic

/-! The growing record of the messages of one run. -/

namespace SourceLint

/--
The messages of a run in the order in which they were accepted.

While collapsing, a message that equals one already accepted is turned away.
-/
structure Log where
  entries : List Diagnostic := []
  errors : Nat := 0
  warnings : Nat := 0
  /-- The lines written to a listener as messages were accepted, if there is one. -/
  sink : Option (List String) := none
  /-- The messages to which a further one is compared. Repeated ones are kept once. -/
  seen : List Diagnostic := []
  /-- Whether repeated messages are turned away. -/
  collapsing : Bool := false
  /-- What `collapsing` was when the open sections were entered, the innermost one first. -/
  saved : List Bool := []
  /-- Whether a warning already makes the run fail. -/
  strict : Bool := false
  /-- The messages that have been seen are those that were accepted. -/
  mem_seen : ∀ diagnostic, diagnostic ∈ seen ↔ diagnostic ∈ entries := by simp

namespace Log

/-- Whether a message would be accepted now. -/
def accepts (log : Log) (diagnostic : Diagnostic) : Bool :=
  !(log.collapsing && log.seen.contains diagnostic)

/-- Records a message, unless it repeats one inside a collapsing section. -/
def report (log : Log) (diagnostic : Diagnostic) : Log :=
  if log.accepts diagnostic then
    { log with
      entries := log.entries ++ [diagnostic]
      errors := if diagnostic.isError then log.errors + 1 else log.errors
      warnings := if diagnostic.isError then log.warnings else log.warnings + 1
      sink := log.sink.map (· ++ [diagnostic.text])
      seen := log.seen.insert diagnostic
      mem_seen := fun other => by simp [log.mem_seen, or_comm] }
  else
    log

/-- Records several messages in order. -/
def extend (log : Log) (diagnostics : List Diagnostic) : Log :=
  diagnostics.foldl report log

/-- Records an error, which is about the whole program unless something else is said. -/
def error (log : Log) (message : String) (line : Option Int := none)
    (origin : Origin := .program) : Log :=
  log.report ⟨.error, origin, line, message⟩

/-- Records a warning, which is about the whole program unless something else is said. -/
def warning (log : Log) (message : String) (line : Option Int := none)
    (origin : Origin := .program) : Log :=
  log.report ⟨.warning, origin, line, message⟩

/-- Opens a collapsing section. -/
def collapse (log : Log) : Log :=
  { log with
    collapsing := true
    saved := log.collapsing :: log.saved }

/-- Closes the innermost collapsing section, behind which it is as it was in front of it. -/
def uncollapse (log : Log) : Log :=
  { log with
    collapsing := log.saved.headD log.collapsing
    saved := log.saved.tail }

/-- Whether the run counts as failed. -/
def hasErrors (log : Log) : Bool :=
  if log.strict then !log.entries.isEmpty else 0 < log.errors

/-- The texts of all messages. -/
def lines (log : Log) : List String :=
  log.entries.map Diagnostic.text

end Log

end SourceLint
