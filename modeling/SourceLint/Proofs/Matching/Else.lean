import SourceLint.Proofs.Matching.Line
import SourceLint.Proofs.Nesting.Tracker

/-!
What an accepted `else` behind a closing brace follows.

The brace closes the block of a branch, or it stands on the line of a statement: the statement that
a header has on its own line, or the one on the line behind a header. What the tracker accepts when
the block of a header ends in front of another closing brace of its line is left open here.
-/

namespace SourceLint

open Text

namespace ElseTracker

/-- What lines show, one behind the other. -/
def shown (lines : List Text) : Text :=
  lines.flatMap mask

/-- The text in front of a brace that is the first one on the line of a branch header. -/
inductive OpensBranch : (lines : List Text) → (outer : Text) → Prop
  | intro {above below : List Text} {line lead more : Text} (header : isHeader line = true)
      (split : mask line = lead ++ '{' :: more) (first : '{' ∉ lead) :
      OpensBranch (above ++ line :: below) (shown above ++ lead)

/-- A line, behind others, that is followed by nothing but blank lines. -/
def EndsWith (lines above : List Text) (line : Text) : Prop :=
  ∃ below, lines = above ++ line :: below ∧ ∀ blank ∈ below, ∀ c ∈ mask blank, isSpace c = true

/-- A brace behind a text closes the block of a branch. -/
def ClosesBranch (lines : List Text) (text : Text) : Prop :=
  ∃ outer inside, text = outer ++ '{' :: inside ∧ Balanced inside ∧ OpensBranch lines outer

/-- The last line is a header that has a statement instead of a block. -/
def EndsInHeader (lines : List Text) : Prop :=
  ∃ above line, EndsWith lines above line ∧ isHeader line = true ∧ '{' ∉ content line ∧
    hasStatement line = true

/-- A header that has neither a block nor a statement. -/
def IsBare (line : Text) : Prop :=
  isHeader line = true ∧ '{' ∉ content line ∧ hasStatement line = false

/-- The last line is the statement of the header on the line in front of it. -/
def EndsInStatement (lines : List Text) : Prop :=
  ∃ above header line, EndsWith lines (above ++ [header]) line ∧ IsBare header ∧
    isHeader line = false ∧ content line ≠ [] ∧ (content line).head? ≠ some '{'

/-- The last line is a header whose block has ended on that line, with the given text behind it. -/
def EndsBehindBlock (lines : List Text) (outer inside more : Text) : Prop :=
  ∃ above line lead, EndsWith lines above line ∧ isHeader line = true ∧
    mask line = lead ++ '{' :: (inside ++ '}' :: more) ∧ '{' ∉ lead ∧ Balanced inside ∧
    outer = shown above ++ lead

/-- Another brace is closed behind the block of a header, on the line of the header. -/
def RunsOn (lines : List Text) : Prop :=
  ∃ outer inside more, EndsBehindBlock lines outer inside more ∧ '}' ∈ more

/-- The reasons for which an `else` is expected behind some lines. -/
inductive Accounts (lines : List Text) : Prop
  | block (ends : EndsBlock (OpensBranch lines) (shown lines))
  | own {outer inside more : Text} (ends : EndsBehindBlock lines outer inside more)
  | header (ends : EndsInHeader lines)
  | statement (ends : EndsInStatement lines)

/-- What a tracker knows of the lines that it has read. -/
structure Explains (lines : List Text) (tracker : ElseTracker) : Prop where
  tracks : ∃ blocks, Tracks (OpensBranch lines) (shown lines) blocks tracker
  expecting : tracker.expectingElse = true → Accounts lines
  awaiting : tracker.awaitingBody = true → ∃ above header, lines = above ++ [header] ∧ IsBare header

variable {lines above : List Text} {line : Text}

/-- One more line shows behind the others. -/
theorem shown_concat (lines : List Text) (line : Text) :
    shown (lines ++ [line]) = shown lines ++ mask line := by
  simp [shown]

/-- A line and the blank ones behind it show behind the others. -/
theorem EndsWith.exists_shown (ends : EndsWith lines above line) :
    ∃ gap, shown lines = shown above ++ (mask line ++ gap) ∧ ∀ c ∈ gap, isSpace c = true := by
  -- What shows of the lines below is white space.
  obtain ⟨below, rfl, blank⟩ := ends
  refine ⟨shown below, by simp [shown], fun c member => ?_⟩
  obtain ⟨line, listed, shows⟩ := List.mem_flatMap.mp member
  exact blank line listed c shows

/-- The last line ends the lines. -/
theorem endsWith_concat (lines : List Text) (line : Text) : EndsWith (lines ++ [line]) lines line :=
  ⟨[], rfl, by simp⟩

/-- A blank line can follow. -/
theorem EndsWith.concat (ends : EndsWith lines above line) {last : Text}
    (blank : ∀ c ∈ mask last, isSpace c = true) : EndsWith (lines ++ [last]) above line := by
  -- The lines below are blank, and so is the one more.
  obtain ⟨below, rfl, blanks⟩ := ends
  exact ⟨below ++ [last], by simp, List.forall_mem_append.mpr
    ⟨blanks, List.forall_mem_singleton.mpr blank⟩⟩

/-- A brace stays where it is when lines follow. -/
theorem OpensBranch.append {outer : Text} (opens : OpensBranch lines outer) (more : List Text) :
    OpensBranch (lines ++ more) outer := by
  -- The brace is the same one in more lines.
  obtain ⟨header, split, first⟩ := opens
  rw [List.append_assoc]
  exact .intro header split first

/-- The block of a header is opened on its line. -/
theorem EndsBehindBlock.opensBranch {outer inside more : Text}
    (ends : EndsBehindBlock lines outer inside more) : OpensBranch lines outer := by
  -- The line is one of the lines, whatever follows it.
  obtain ⟨above, line, lead, ⟨below, rfl, -⟩, header, split, first, -, rfl⟩ := ends
  exact .intro header split first

/-- The reasons stay what they are behind a blank line. -/
theorem Accounts.concat (accounts : Accounts lines) (blank : ∀ c ∈ mask line, isSpace c = true) :
    Accounts (lines ++ [line]) := by
  -- A blank line adds white space behind a brace, and it leaves the last line what it is.
  cases accounts with
  | block ends =>
    obtain ⟨outer, inside, gap, split, balanced, spaces, opens⟩ := ends
    refine .block (shown_concat lines line ▸ EndsBlock.append ?_ blank)
    exact ⟨outer, inside, gap, split, balanced, spaces, opens.append _⟩
  | own ends =>
    obtain ⟨above, header, lead, last, others⟩ := ends
    exact .own ⟨above, header, lead, last.concat blank, others⟩
  | header ends =>
    obtain ⟨above, header, last, others⟩ := ends
    exact .header ⟨above, header, last.concat blank, others⟩
  | statement ends =>
    obtain ⟨above, header, statement, last, others⟩ := ends
    exact .statement ⟨above, header, statement, last.concat blank, others⟩

/-- The front of a line holds closing braces and white space. -/
theorem isLeading_of_mem_front {c : Char} (member : c ∈ front line) : isLeading c = true :=
  List.mem_takeWhile_imp member

/-- A front without closing braces is white space. -/
theorem isSpace_of_mem_front (unclosed : '}' ∉ front line) :
    ∀ c ∈ front line, isSpace c = true := by
  -- A front has white space and closing braces only.
  intro c member
  have other : c ≠ '}' := by
    rintro rfl
    exact unclosed member
  simpa [isLeading, other] using isLeading_of_mem_front member

/-- No block is opened at the front of a line. -/
theorem notMem_front (line : Text) : '{' ∉ front line :=
  fun member => absurd (isLeading_of_mem_front member) (by decide)

variable {tracker : ElseTracker}

/-- The front of a line closes blocks of the lines before it. -/
theorem Explains.closeAll (explains : Explains lines tracker) (line : Text) :
    let closed := ElseTracker.closeAll ((front line).count '}') (tracker, tracker.expectingElse)
    (∃ blocks, Tracks (OpensBranch lines) (shown lines ++ front line) blocks closed.1) ∧
      (closed.2 = true → '}' ∈ front line →
        EndsBlock (OpensBranch lines) (shown lines ++ front line)) ∧
      (closed.2 = true → '}' ∉ front line → Accounts lines) := by
  obtain ⟨blocks, tracks⟩ := explains.tracks
  -- The front of a line holds no opening brace.
  obtain ⟨left, reached, ends⟩ :=
    tracks.closeAll tracker.expectingElse fun _ member => isLeading_of_mem_front member
  refine ⟨⟨left, reached⟩, fun expected member => ends member expected, fun expected absent => ?_⟩
  rw [List.count_eq_zero.mpr absent] at expected
  exact explains.expecting expected

/-- Behind a line that only closes blocks an `else` is expected for one of the reasons. -/
theorem Explains.accounts_front (explains : Explains lines tracker) (empty : content line = [])
    (expected : (ElseTracker.closeAll ((front line).count '}')
      (tracker, tracker.expectingElse)).2 = true) : Accounts (lines ++ [line]) := by
  obtain ⟨gap, split, blank, -⟩ := exists_gap line
  obtain ⟨-, ends, accounts⟩ := explains.closeAll line
  rw [empty, List.nil_append] at split
  by_cases member : '}' ∈ front line
  · -- The last of the braces closes the block of a branch.
    obtain ⟨outer, inside, behind, ending, balanced, spaces, opens⟩ :=
      (ends expected member).append blank
    refine .block ⟨outer, inside, behind, ?_, balanced, spaces, opens.append [line]⟩
    rw [shown_concat, split, ← ending, List.append_assoc]
  · -- A blank line changes nothing.
    refine (accounts expected member).concat ?_
    rw [split]
    exact List.forall_mem_append.mpr ⟨isSpace_of_mem_front member, blank⟩

/-- Behind a header an `else` is expected because of its statement or of its ended block. -/
theorem Own.accounts {blocks : List Block} {progress : Progress}
    (own : Own (shown lines ++ front line) (isHeader line) (content line) blocks progress)
    (header : isHeader line = true)
    (expected : (if progress.opened then progress.closedOwn else hasStatement line) = true) :
    Accounts (lines ++ [line]) := by
  -- The header has opened no block, one that is still open, or one that has ended.
  cases own with
  | unopened opened _ first =>
    rw [opened, if_neg Bool.false_ne_true] at expected
    exact .header ⟨lines, line, endsWith_concat lines line, header, first header, expected⟩
  | open_ opened unended =>
    -- An `else` inside of the block is not expected.
    rw [opened, if_pos rfl, unended] at expected
    cases expected
  | @ended lead inside more _ inner first balanced =>
    obtain ⟨gap, split, -, -⟩ := exists_gap line
    have whole : mask line = (front line ++ lead) ++ '{' :: (inside ++ '}' :: (more ++ gap)) := by
      rw [split, inner]
      simp
    -- The block of the header lies behind its front.
    exact .own ⟨lines, line, _, endsWith_concat lines line, header, whole,
      by simp [notMem_front, first], balanced, (List.append_assoc ..)⟩

/-- A line is read with an account of what may follow it. -/
theorem Explains.check (explains : Explains lines tracker) (line : Text) :
    Explains (lines ++ [line]) (tracker.check line).1 := by
  obtain ⟨gap, split, blank, -⟩ := exists_gap line
  obtain ⟨⟨blocks, closed⟩, -, -⟩ := explains.closeAll line
  -- The first brace behind a front without opening braces is the first one of the line.
  have mark : isHeader line = true → ∀ lead more, content line = lead ++ '{' :: more →
      '{' ∉ lead → OpensBranch (lines ++ [line]) (shown lines ++ front line ++ lead) := by
    intro header lead more inner first
    have whole : mask line = (front line ++ lead) ++ '{' :: (more ++ gap) := by
      rw [split, inner]
      simp
    rw [List.append_assoc]
    exact .intro header whole (by simp [notMem_front, first])
  obtain ⟨left, reached, own⟩ :=
    (closed.mono fun _ opens => opens.append [line]).foldl_step mark
  rw [check_eq]
  refine ⟨⟨left, ?_⟩, fun expected => ?_, fun awaited => ?_⟩
  · -- White space behind the content changes no block, and the flags are no blocks.
    have whole := reached.append (braceless_of_blank blank)
    rw [List.append_assoc, List.append_assoc, ← split, ← shown_concat] at whole
    exact ⟨whole.leaves, whole.depth, whole.ifDepths, whole.marked⟩
  · dsimp only at expected
    by_cases header : isHeader line = true
    · rw [if_pos header] at expected
      exact own.accounts header expected
    · rw [if_neg header] at expected
      by_cases empty : content line = []
      · rw [empty, List.isEmpty_nil, if_pos rfl] at expected
        exact explains.accounts_front empty expected
      · -- The line is what the header in front of it waited for.
        rw [if_neg (by simpa using empty), Bool.and_eq_true, bne_iff_ne] at expected
        obtain ⟨above, waiting, rfl, bare⟩ := explains.awaiting expected.1
        exact .statement ⟨above, waiting, line, endsWith_concat _ line, bare, by simpa using header,
          empty, expected.2⟩
  · -- A body is awaited behind a header that neither opens a block nor has a statement.
    simp only [Bool.and_eq_true, Bool.not_eq_true'] at awaited
    obtain ⟨⟨header, unopened⟩, without⟩ := awaited
    cases own with
    | unopened _ _ first => exact ⟨lines, line, rfl, header, first header, without⟩
    | open_ opened => simp [opened] at unopened
    | ended opened => simp [opened] at unopened

/-- Lines are read with an account of what may follow them. -/
theorem explains_checkLines (lines : List Text) : Explains lines (checkLines {} lines).1 := by
  -- By induction on the lines, the last one being read with the account of the others.
  induction lines using List.reverseRecOn with
  | nil => exact ⟨⟨[], .start⟩, by simp [checkLines], by simp [checkLines]⟩
  | append_singleton lines line ih =>
    rw [checkLines_append]
    exact ih.check line

/-- The brace that a text ends with is the one that closes a block at its end. -/
theorem EndsBlock.closesBranch {text before gap : Text}
    (ends : EndsBlock (OpensBranch lines) text) (brace : text = before ++ '}' :: gap)
    (blank : ∀ c ∈ gap, isSpace c = true) : ClosesBranch lines before := by
  obtain ⟨outer, inside, behind, rfl, balanced, spaces, opens⟩ := ends
  have whole : (outer ++ '{' :: inside) ++ '}' :: behind = before ++ '}' :: gap := by
    rw [← brace]
    simp
  -- Nothing but white space follows either brace, so both are the last one.
  have same := eq_of_last_brace whole (fun member => (braceless_of_blank spaces _ member).2 rfl)
    fun member => (braceless_of_blank blank _ member).2 rfl
  exact ⟨outer, inside, same.symm, balanced, opens⟩

/-- The block of a header is closed by the last brace of the line, unless another one follows. -/
theorem EndsBehindBlock.closesBranch {outer inside more : Text}
    (ends : EndsBehindBlock lines outer inside more) (last : '}' ∉ more) {before gap text : Text}
    (brace : shown lines ++ text = before ++ '}' :: gap) (unclosed : '}' ∉ text)
    (blank : ∀ c ∈ gap, isSpace c = true) : ClosesBranch lines before := by
  have opens := ends.opensBranch
  obtain ⟨above, line, lead, final, -, split, -, balanced, rfl⟩ := ends
  obtain ⟨below, shows, spaces⟩ := final.exists_shown
  have whole : (shown above ++ lead ++ '{' :: inside) ++ '}' :: (more ++ (below ++ text)) =
      before ++ '}' :: gap := by
    rw [← brace, shows, split]
    simp
  -- Nothing behind the block holds a closing brace, so it is the last one.
  have absent : '}' ∉ below := fun member => (braceless_of_blank spaces _ member).2 rfl
  have same := eq_of_last_brace whole (by simp [last, absent, unclosed])
    fun member => (braceless_of_blank blank _ member).2 rfl
  -- The brace of the line is the one that ends the block of the header.
  exact ⟨_, inside, same.symm, balanced, opens⟩

/--
An `else` behind a closing brace is accepted behind the block of a branch or behind a statement.

The brace may stand at the front of the line itself. If it does not, then it stands on the last line
that is not blank, and no other block may have ended behind that of a header there.
-/
theorem else_behind_brace {earlier : List Text} {line before gap : Text}
    (starts : LineShape.startsWithElse (content line) = true)
    (accepted : ((checkLines {} earlier).1.check line).2 = [])
    (brace : shown earlier ++ front line = before ++ '}' :: gap)
    (blank : ∀ c ∈ gap, isSpace c = true) (alone : '}' ∉ front line → ¬ RunsOn earlier) :
    ClosesBranch earlier before ∨
      '}' ∉ front line ∧ (EndsInStatement earlier ∨ EndsInHeader earlier) := by
  obtain ⟨-, ends, accounts⟩ := (explains_checkLines earlier).closeAll line
  -- Nothing is reported because an `else` is expected behind the front of the line.
  have expected : (ElseTracker.closeAll ((front line).count '}')
      ((checkLines {} earlier).1, (checkLines {} earlier).1.expectingElse)).2 = true := by
    rw [check_eq] at accepted
    simpa [verdict, starts] using accepted
  -- A brace at the front of the line decides, and without one the lines above do.
  by_cases member : '}' ∈ front line
  · exact .inl ((ends expected member).closesBranch brace blank)
  · cases accounts expected member with
    | block ends =>
      exact .inl ((ends.append (isSpace_of_mem_front member)).closesBranch brace blank)
    | @own _ _ more ends =>
      have last : '}' ∉ more := fun closed => alone member ⟨_, _, _, ends, closed⟩
      exact .inl (ends.closesBranch last brace member blank)
    | header ends => exact .inr ⟨member, .inr ends⟩
    | statement ends => exact .inr ⟨member, .inl ends⟩

-- Behind the block of a header, the brace of another block is not told from that of the header.
example : RunsOn (["\x7b", "if (a) \x7b \x7d \x7d"].map String.toList) ∧
    ((checkLines {} (["\x7b", "if (a) \x7b \x7d \x7d"].map String.toList)).1.check
      "else".toList).2 = [] := by
  have last : EndsWith (["\x7b", "if (a) \x7b \x7d \x7d"].map String.toList) [['{']]
      "if (a) \x7b \x7d \x7d".toList := ⟨[], rfl, by simp⟩
  have blank : Balanced [' '] := .plain (by decide) (by decide) .nil
  refine ⟨⟨_, [' '], [' ', '}'], ⟨_, _, "if (a) ".toList, last, ?_, ?_, ?_, blank, rfl⟩, ?_⟩, ?_⟩
  all_goals decide +kernel

/-- The brace at the front of a line closes the block of a branch, with a loop inside of it. -/
theorem else_behind_brace_attached :
    let earlier := ["if (a) \x7b", "while (b) \x7b \x7d"].map String.toList
    let line := "\x7d else \x7b".toList
    LineShape.startsWithElse (content line) = true ∧
      ((checkLines {} earlier).1.check line).2 = [] ∧
      ClosesBranch earlier "if (a) \x7bwhile (b) \x7b \x7d".toList := by
  have accepted : ((checkLines {} (["if (a) \x7b", "while (b) \x7b \x7d"].map
      String.toList)).1.check "\x7d else \x7b".toList).2 = [] := by decide +kernel
  refine ⟨by decide +kernel, accepted, ?_⟩
  -- The brace stands on the line itself, so no earlier line can account for it.
  have reasons := else_behind_brace (by decide +kernel) accepted
    (by decide +kernel : _ = "if (a) \x7bwhile (b) \x7b \x7d".toList ++ '}' :: [' '])
    (by decide) (fun absent => absurd (by decide) absent)
  exact reasons.resolve_right fun elsewhere => elsewhere.1 (by decide)

/-- An `else` behind a loop without a brace of its own follows the header in front of the loop. -/
theorem else_behind_loop :
    let earlier := ["if (a)", "while (b) \x7b \x7d"].map String.toList
    let line := "else".toList
    let before := "if (a)while (b) \x7b ".toList
    LineShape.startsWithElse (content line) = true ∧
      ((checkLines {} earlier).1.check line).2 = [] ∧
      shown earlier ++ front line = before ++ ['}'] ∧ ¬ ClosesBranch earlier before := by
  refine ⟨by decide +kernel, by decide +kernel, by decide +kernel, ?_⟩
  -- The only header among the lines has no brace.
  have unopened : ∀ line ∈ ["if (a)", "while (b) \x7b \x7d"].map String.toList,
      isHeader line = true → '{' ∉ mask line := by decide +kernel
  rintro ⟨outer, inside, -, -, opens⟩
  generalize ["if (a)", "while (b) \x7b \x7d"].map String.toList = earlier at opens unopened
  obtain ⟨header, split, -⟩ := opens
  exact unopened _ (by simp) header (by simp [split])

end ElseTracker

end SourceLint
