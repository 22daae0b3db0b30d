import SourceLint.Diagnostic.Log

/-!
What a log holds after several messages have been reported to it.

It counts and streams what it accepts, and logs that receive translations of the same messages stay
in step. The messages that it compares a further one to are its entries.
-/

namespace SourceLint.Log

/-- What `collapsing` is and what it was when the open sections were entered. -/
def flags (log : Log) : List Bool :=
  log.collapsing :: log.saved

/-- While collapsing, a message is turned away exactly if it is an entry. -/
theorem accepts_eq (log : Log) (diagnostic : Diagnostic) :
    log.accepts diagnostic = (!log.collapsing || !log.entries.contains diagnostic) := by
  -- The messages that have been seen are the entries.
  have seen : log.seen.contains diagnostic = log.entries.contains diagnostic := by
    rw [Bool.eq_iff_iff, List.contains_iff_mem, List.contains_iff_mem, log.mem_seen]
  rw [accepts, seen, Bool.not_and]

section Report

variable {log : Log} {diagnostic : Diagnostic}

/-- A message that is accepted becomes the last entry. -/
theorem entries_report (accepted : log.accepts diagnostic = true) :
    (log.report diagnostic).entries = log.entries ++ [diagnostic] := by
  rw [report, if_pos accepted]

/-- A message that is turned away leaves no trace. -/
theorem report_of_turned (turned : log.accepts diagnostic = false) :
    log.report diagnostic = log := by
  rw [report, if_neg (by simp [turned])]

end Report

/-- A message neither opens nor closes a section. -/
@[simp] theorem flags_report (log : Log) (diagnostic : Diagnostic) :
    (log.report diagnostic).flags = log.flags := by
  -- Whether the message is accepted or not, the flags are left alone.
  rw [report]
  split <;> rfl

/-- Messages neither open nor close a section. -/
@[simp] theorem flags_extend (log : Log) (diagnostics : List Diagnostic) :
    (log.extend diagnostics).flags = log.flags := by
  -- One message after the other leaves the sections as they are.
  rw [extend]
  induction diagnostics generalizing log with
  | nil => rfl
  | cons first others ih => rw [List.foldl_cons, ih, flags_report]

/-- A message does not change whether repeated ones are turned away. -/
@[simp] theorem collapsing_report (log : Log) (diagnostic : Diagnostic) :
    (log.report diagnostic).collapsing = log.collapsing :=
  (List.cons.inj (flags_report log diagnostic)).1

/-- Messages do not change whether repeated ones are turned away. -/
@[simp] theorem collapsing_extend (log : Log) (diagnostics : List Diagnostic) :
    (log.extend diagnostics).collapsing = log.collapsing :=
  (List.cons.inj (flags_extend log diagnostics)).1

/-- A section that is opened, filled with messages and closed again leaves no section behind. -/
theorem collapsing_section (log : Log) (diagnostics : List Diagnostic) :
    (log.collapse.extend diagnostics).uncollapse.collapsing = log.collapsing := by
  -- What was saved at the front of the section is still there at its end.
  have saved : (log.collapse.extend diagnostics).saved = log.flags :=
    (List.cons.inj (flags_extend log.collapse diagnostics)).2
  rw [uncollapse, saved]
  rfl

/-- Outside of collapsing sections every message is recorded. -/
theorem entries_extend {log : Log} (plain : log.collapsing = false)
    (diagnostics : List Diagnostic) :
    (log.extend diagnostics).entries = log.entries ++ diagnostics := by
  rw [extend]
  induction diagnostics generalizing log with
  | nil => simp
  | cons first others ih =>
    -- With no section open nothing is turned away.
    have recorded := entries_report (show log.accepts first = true by simp [accepts, plain])
    rw [List.foldl_cons, ih (by rw [collapsing_report, plain]), recorded]
    simp

/--
Of several messages some are recorded, and those that are not repeat one that is.

Inside a collapsing section only new messages are recorded, and each of them once.
-/
theorem exists_entries_extend (log : Log) (diagnostics : List Diagnostic) :
    ∃ added, (log.extend diagnostics).entries = log.entries ++ added ∧
      added.Sublist diagnostics ∧ diagnostics ⊆ log.entries ++ added ∧
      (log.collapsing = true → added.Nodup ∧ ∀ diagnostic ∈ added, diagnostic ∉ log.entries) := by
  rw [extend]
  -- By induction on the messages, each of which is accepted or turned away.
  induction diagnostics generalizing log with
  | nil => exact ⟨[], by simp, .slnil, by simp, by simp⟩
  | cons first others ih =>
    -- The later messages meet a log that may hold the first one.
    obtain ⟨added, entries, listed, complete, sound⟩ := ih (log.report first)
    rw [collapsing_report] at sound
    cases accepted : log.accepts first with
    | true =>
      have recorded := entries_report accepted
      rw [recorded, List.append_assoc, List.singleton_append] at entries complete
      rw [recorded] at sound
      refine ⟨first :: added, entries, listed.cons_cons first, ?_, fun collapsing => ?_⟩
      · exact List.cons_subset.mpr ⟨by simp, complete⟩
      · -- A collapsing section accepts only what it has not yet.
        obtain ⟨distinct, fresh⟩ := sound collapsing
        have new : first ∉ log.entries := by
          rw [accepts_eq, collapsing] at accepted
          simpa using accepted
        refine ⟨List.nodup_cons.mpr ⟨fun again => ?_, distinct⟩, fun diagnostic member => ?_⟩
        · exact fresh first again (by simp)
        · rcases List.mem_cons.mp member with rfl | later
          · exact new
          · exact fun old => fresh diagnostic later (by simp [old])
    -- A message that is turned away leaves the log as it was, and repeats one that it holds.
    | false =>
      have turned := report_of_turned accepted
      have known : first ∈ log.entries := by
        rw [accepts_eq, Bool.or_eq_false_iff] at accepted
        simpa using accepted.2
      rw [turned] at entries complete sound
      refine ⟨added, by rw [List.foldl_cons, turned, entries], listed.cons first, ?_, sound⟩
      exact List.cons_subset.mpr ⟨List.mem_append_left _ known, complete⟩

/-- A log whose counters and listener agree with its entries. -/
structure Consistent (log : Log) : Prop where
  errors : log.errors = log.entries.countP fun entry => entry.level == .error
  warnings : log.warnings = log.entries.countP fun entry => entry.level == .warning
  sink : log.sink = some log.lines

namespace Consistent

variable {log : Log}

/-- A message is counted and written to the listener exactly when it becomes an entry. -/
theorem report (consistent : log.Consistent) (diagnostic : Diagnostic) :
    (log.report diagnostic).Consistent := by
  -- A message that is turned away leaves the log as it was.
  cases accepted : log.accepts diagnostic with
  | false => rwa [report_of_turned accepted]
  | true =>
    obtain ⟨errors, warnings, sink⟩ := consistent
    rw [Log.report, if_pos accepted]
    -- The level of the message decides which counter goes up.
    refine ⟨?_, ?_, by simp [sink, lines]⟩
    · cases level : diagnostic.level <;> simp [errors, Diagnostic.isError, level]
    · cases level : diagnostic.level <;> simp [warnings, Diagnostic.isError, level]

/-- Several messages are counted and written like one after the other. -/
theorem extend (consistent : log.Consistent) (diagnostics : List Diagnostic) :
    (log.extend diagnostics).Consistent := by
  rw [Log.extend]
  -- The log that the first message leaves is the one that the others meet.
  induction diagnostics generalizing log with
  | nil => exact consistent
  | cons first others ih => exact ih (consistent.report first)

/-- Opening a collapsing section tells the listener nothing. -/
theorem collapse (consistent : log.Consistent) : log.collapse.Consistent :=
  ⟨consistent.errors, consistent.warnings, consistent.sink⟩

/-- Closing a collapsing section tells the listener nothing. -/
theorem uncollapse (consistent : log.Consistent) : log.uncollapse.Consistent :=
  ⟨consistent.errors, consistent.warnings, consistent.sink⟩

/-- What the listener has got is the text of every entry. -/
theorem getD_sink (consistent : log.Consistent) :
    log.sink.getD [] = log.entries.map Diagnostic.text := by
  -- A missing listener has got nothing, as has one that was told nothing.
  rw [consistent.sink]
  rfl

end Consistent

/-- A translation that gives different messages different images. -/
def KeepsApart (translate : Diagnostic → Option Diagnostic) : Prop :=
  ∀ ⦃first second image⦄, translate first = some image → translate second = some image →
    first = second

/--
A log that has received the messages of another one, each in its translation.

Those without a translation have not reached it.
-/
structure Follows (translate : Diagnostic → Option Diagnostic) (log other : Log) : Prop where
  entries : other.entries = log.entries.filterMap translate
  collapsing : other.collapsing = log.collapsing
  saved : other.saved = log.saved
  strict : other.strict = log.strict

namespace Follows

variable {translate : Diagnostic → Option Diagnostic} {log other : Log}

/-- A message is accepted by the one log exactly if its translation is by the other. -/
theorem report (apart : KeepsApart translate) (same : log.Follows translate other)
    {diagnostic image : Diagnostic} (translated : translate diagnostic = some image) :
    (log.report diagnostic).Follows translate (other.report image) := by
  -- It repeats an entry exactly if its translation repeats the translation of one.
  have repeated : other.entries.contains image = log.entries.contains diagnostic := by
    rw [same.entries, Bool.eq_iff_iff, List.contains_iff_mem, List.contains_iff_mem,
      List.mem_filterMap]
    constructor
    · rintro ⟨entry, member, equal⟩
      exact apart equal translated ▸ member
    · exact fun member => ⟨diagnostic, member, translated⟩
  have accepted : other.accepts image = log.accepts diagnostic := by
    rw [accepts_eq, accepts_eq, repeated, same.collapsing]
  -- Both logs record the message, or neither does.
  rw [Log.report, Log.report, accepted]
  split
  · exact ⟨by simp [same.entries, translated], same.collapsing, same.saved, same.strict⟩
  · exact same

/-- A message without a translation is not missed by the other log. -/
theorem report_none (same : log.Follows translate other) {diagnostic : Diagnostic}
    (dropped : translate diagnostic = none) : (log.report diagnostic).Follows translate other := by
  -- The message may become an entry, which has no translation.
  rw [Log.report]
  split
  · exact ⟨by simp [same.entries, dropped], same.collapsing, same.saved, same.strict⟩
  · exact same

/-- Messages and their translations keep the logs in step. -/
theorem extend (apart : KeepsApart translate) (same : log.Follows translate other)
    (diagnostics : List Diagnostic) :
    (log.extend diagnostics).Follows translate
      (other.extend (diagnostics.filterMap translate)) := by
  rw [Log.extend, Log.extend]
  -- Every message leaves the two logs in step for the next one.
  induction diagnostics generalizing log other with
  | nil => exact same
  | cons first others ih =>
    cases translated : translate first with
    | none =>
      rw [List.filterMap_cons_none translated]
      exact ih (same.report_none translated)
    | some image =>
      rw [List.filterMap_cons_some translated]
      exact ih (same.report apart translated)

/-- A collapsing section is opened in both logs. -/
theorem collapse (same : log.Follows translate other) :
    log.collapse.Follows translate other.collapse :=
  ⟨same.entries, rfl, by simp [Log.collapse, same.collapsing, same.saved], same.strict⟩

/-- A collapsing section is closed in both logs. -/
theorem uncollapse (same : log.Follows translate other) :
    log.uncollapse.Follows translate other.uncollapse :=
  -- The flag that comes back is the same one in both logs.
  ⟨same.entries, by simp [Log.uncollapse, same.collapsing, same.saved],
    congrArg List.tail same.saved, same.strict⟩

end Follows

end SourceLint.Log
