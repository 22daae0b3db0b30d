import SourceLint.Proofs.Text.Span
import SourceLint.Rule.DanglingElse

/-!
What one line does to the tracker of branches.

A line is read in its view, in which literals are masked. The lines here hold at most one opening
brace, at their end, and their closing braces stand at the front.
-/

namespace SourceLint.ElseTracker

open Text

variable {line lead rest front : Text}

/-- A tracker that waits for no statement, and that accepts an `else` or not. -/
def ready (tracker : ElseTracker) (expecting : Bool) : ElseTracker :=
  { tracker with expectingElse := expecting, awaitingBody := false }

/-- What is found on a line that is read as the given text behind its leading braces. -/
def verdict (rest : Text) (expecting : Bool) : List Finding :=
  if LineShape.startsWithElse rest && !expecting then [.danglingElse] else []

/-- The braces at the front of a line are told from what follows them. -/
theorem span_leading (leading : ∀ c ∈ lead, isLeading c = true)
    (starts : rest.head?.any isLeading = false) :
    (lead ++ rest).takeWhile isLeading = lead ∧ (lead ++ rest).dropWhile isLeading = rest := by
  -- The run takes the first part whole and does not go on with the second one.
  have taken := takeWhile_append_stop starts lead
  have dropped := dropWhile_append_stop starts lead
  rw [List.takeWhile_eq_self_iff.mpr leading] at taken
  rw [List.dropWhile_eq_nil_iff.mpr leading, List.nil_append] at dropped
  exact ⟨taken, dropped⟩

/-- A trimmed text without closing braces has nothing to be told from its front. -/
theorem starts_of_trim {text : Text} (view : trim text = rest) (unclosed : '}' ∉ rest) :
    rest.head?.any isLeading = false := by
  -- White space is trimmed off, so that only a brace could stand there.
  have solid := head?_trim text
  rw [view, Option.any_eq_false] at solid
  rw [Option.any_eq_false]
  intro c first
  have other : c ≠ '}' := by
    rintro rfl
    exact unclosed (List.mem_of_head? first)
  simp [isLeading, other, solid c first]

/-- Text without braces opens and closes nothing. -/
theorem foldl_braceless (braceless : ∀ c ∈ rest, c ≠ '{' ∧ c ≠ '}') (header : Bool)
    (progress : Progress) : rest.foldl (Progress.step header) progress = progress := by
  -- By induction on the text.
  induction rest with
  | nil => rfl
  | cons c rest ih =>
    obtain ⟨unopened, unclosed⟩ := braceless c (by simp)
    rw [List.foldl_cons, Progress.step, if_neg unopened, if_neg unclosed]
    exact ih fun d member => braceless d (by simp [member])

/--
A line without braces changes what may follow, and no block.

A header waits for its statement unless it has one. Any other line is that statement, if there was
a header to wait.
-/
theorem check_braceless (view : trim (mask line) = rest)
    (braceless : ∀ c ∈ rest, c ≠ '{' ∧ c ≠ '}') (tracker : ElseTracker) :
    let header := LineShape.isBranchHeader rest
    let hasStatement := (Statement.condition? rest).any fun (_, after) => !after.isEmpty
    tracker.check line =
      ({ tracker with
          expectingElse :=
            if header then hasStatement
            else if rest.isEmpty then tracker.expectingElse
            else tracker.awaitingBody
          awaitingBody := header && !hasStatement },
        verdict rest tracker.expectingElse) := by
  -- Nothing is closed in front of the line, and nothing is opened or closed on it.
  have starts := starts_of_trim view fun brace => (braceless _ brace).2 rfl
  obtain ⟨taken, left⟩ := span_leading (List.forall_mem_nil _) starts
  rw [List.nil_append] at taken left
  -- The first character is no brace, so that a line behind a header is a statement.
  have unbraced : (rest.head? != some '{') = true := by
    rw [bne_iff_ne]
    intro first
    exact (braceless _ (List.mem_of_head? first)).1 rfl
  simp only [check, verdict, view, taken, left, List.count_nil, closeAll, foldl_braceless braceless,
    unbraced, Bool.and_true, Bool.not_false, Bool.false_eq_true, if_false]

/-- A line that neither is a header nor has braces ends the wait of a header before it. -/
theorem check_statement (view : trim (mask line) = rest)
    (braceless : ∀ c ∈ rest, c ≠ '{' ∧ c ≠ '}') (headless : LineShape.isBranchHeader rest = false)
    (tracker : ElseTracker) :
    tracker.check line =
      (tracker.ready (if rest.isEmpty then tracker.expectingElse else tracker.awaitingBody),
        verdict rest tracker.expectingElse) := by
  -- Without a header only the statement and the `else` remain.
  rw [check_braceless view braceless, headless]
  rfl

/-- A closing brace on a line of its own ends the innermost block. -/
theorem check_closing (tracker : ElseTracker) :
    tracker.check ['}'] = (tracker.closeBlock.ready tracker.inIf, []) := by
  -- Behind the brace there is nothing left to read.
  have view : trim (mask ['}']) = ['}'] ++ [] := by decide
  obtain ⟨taken, left⟩ := @span_leading ['}'] [] (by decide) rfl
  rw [check, view, taken, left]
  rfl

/-- A line that ends with its only opening brace opens a block behind the braces at its front. -/
theorem check_opening (view : trim (mask line) = lead ++ (front ++ ['{']))
    (leading : ∀ c ∈ lead, isLeading c = true)
    (starts : (front ++ ['{']).head?.any isLeading = false)
    (braceless : ∀ c ∈ front, c ≠ '{' ∧ c ≠ '}') {tracker : ElseTracker}
    (idle : tracker.awaitingBody = false ∨ front = []) {closed : ElseTracker} {expecting : Bool}
    (closing : closeAll (lead.count '}') (tracker, tracker.expectingElse) = (closed, expecting)) :
    tracker.check line =
      ((closed.openBlock (LineShape.isBranchHeader (front ++ ['{']))).ready false,
        verdict (front ++ ['{']) expecting) := by
  obtain ⟨taken, left⟩ := span_leading leading starts
  simp only [check, verdict, view, taken, left, closing, List.foldl_append,
    foldl_braceless braceless]
  -- In both cases the brace is the only character that counts.
  cases header : LineShape.isBranchHeader (front ++ ['{']) with
  | true => simp [Progress.step, ready]
  | false =>
    -- No header waits, or the brace is not the statement that it waits for.
    have flag : (tracker.awaitingBody && (front ++ ['{']).head? != some '{') = false := by
      rcases idle with idle | rfl
      · simp [idle]
      · simp
    rw [flag]
    simp [Progress.step, ready]

end SourceLint.ElseTracker
