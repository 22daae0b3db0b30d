import SourceLint.Proofs.Reading
import SourceLint.Proofs.Text.Class
import SourceLint.Proofs.Text.Masking

/-!
Programs of nested blocks, and the lines on which they are written.

The opening brace of a block stands behind its header or on a line of its own. The views of these
lines, in which literals are masked, show the braces of the program and no others.
-/

namespace SourceLint

open Text

/-- A line that opens and closes no block and belongs to no branch. -/
structure PlainLine where
  text : Text
  trimmed : trim text = text
  braceless : ∀ c ∈ mask text, c ≠ '{' ∧ c ≠ '}'
  notElse : LineShape.startsWithElse (mask text) = false
  notIf : LineShape.isBranchHeader (mask text) = false

/-- The header of a block that is no branch, a loop for instance. -/
structure BlockHeader extends PlainLine where
  closed : Closed text

/-- What stands between the parentheses of an `if`. -/
structure Condition where
  text : Text
  closed : Closed text
  braceless : ∀ c ∈ mask text, c ≠ '{' ∧ c ≠ '}'

/-- Where an `else` stands. -/
inductive Joint where
  /-- Behind the brace that ends the branch before it, with white space between them. -/
  | sameLine (gap : Text) (blank : ∀ c ∈ gap, isSpace c = true)
  /-- On the line after that brace. -/
  | nextLine

/-- Where the opening braces of a program stand. -/
inductive BraceStyle where
  /-- Behind the header of the block. -/
  | attached
  /-- On a line of their own, as all headers and closing braces are. -/
  | detached

mutual

/-- Statements one after the other. -/
inductive Program where
  | done
  | plain (line : PlainLine) (next : Program)
  | block (header : BlockHeader) (body next : Program)
  /-- An `if` with its first branch, its other branches and what follows them. -/
  | branch (condition : Condition) (body : Program) (others : Branches) (next : Program)

/-- The branches of an `if` behind one of them. -/
inductive Branches where
  | done
  | otherwise (joint : Joint) (body : Program)
  | elseIf (joint : Joint) (condition : Condition) (body : Program) (others : Branches)

end

namespace Condition

/-- The header of a first branch. -/
def ifHeader (condition : Condition) : Text :=
  ['i', 'f', ' ', '('] ++ (condition.text ++ [')'])

/-- The header of a branch between the first and the last one. -/
def elseIfHeader (condition : Condition) : Text :=
  ['e', 'l', 's', 'e', ' '] ++ condition.ifHeader

end Condition

namespace BraceStyle

/-- Whether braces stand behind headers. -/
def isAttached : BraceStyle → Bool
  | attached => true
  | detached => false

/-- The lines that open a block. -/
def opening (style : BraceStyle) (header : Text) : List Text :=
  match style with
  | attached => [header ++ [' ', '{']]
  | detached => [header, ['{']]

/-- The lines that end a branch and open the block of the next one. -/
def reopening (style : BraceStyle) (joint : Joint) (header : Text) : List Text :=
  match style, joint with
  | attached, .sameLine gap _ => ['}' :: (gap ++ (header ++ [' ', '{']))]
  | style, _ => ['}'] :: style.opening header

end BraceStyle

mutual

/-- The lines of a program. -/
def Program.lines (style : BraceStyle) : Program → List Text
  | .done => []
  | .plain line next => line.text :: next.lines style
  | .block header body next =>
    style.opening header.text ++ (body.lines style ++ ['}'] :: next.lines style)
  | .branch condition body others next =>
    style.opening condition.ifHeader ++
      (body.lines style ++ (others.lines style ++ next.lines style))

/-- The lines from the end of a branch to the end of its `if`. -/
def Branches.lines (style : BraceStyle) : Branches → List Text
  | .done => [['}']]
  | .otherwise joint body => style.reopening joint "else".toList ++ (body.lines style ++ [['}']])
  | .elseIf joint condition body others =>
    style.reopening joint condition.elseIfHeader ++ (body.lines style ++ others.lines style)

end

example :
    let condition : Condition := ⟨['a'], closed_of_plain (by decide), by decide⟩
    let others : Branches := .otherwise (.sameLine [' '] (by decide)) .done
    (Program.branch condition .done others .done).lines .attached =
      ["if (a) \x7b", "\x7d else \x7b", "\x7d"].map String.toList := by
  decide

namespace Text

/-- White space is skipped up to a brace, or up to something in front of it. -/
theorem skipSpace_append_brace (text : Text) :
    skipSpace text = [] ∧ skipSpace (text ++ [' ', '{']) = ['{'] ∨
      skipSpace (text ++ [' ', '{']) = skipSpace text ++ [' ', '{'] := by
  -- Text that is blank up to the end lets the brace be reached.
  by_cases started : skipSpace text = []
  · have blank : ∀ c ∈ text, isSpace c = true := List.dropWhile_eq_nil_iff.mp started
    refine .inl ⟨started, ?_⟩
    rw [skipSpace_append blank]
    decide
  · exact .inr (takeWhile_append_ended started _).2

end Text

namespace LineShape

/-- A brace behind a text does not change its first word. -/
theorem startsWithElse_append_brace (text : Text) :
    startsWithElse (text ++ [' ', '{']) = startsWithElse text := by
  -- The word is read alike, and white space ends it where the text does.
  have read := @after?_append_space "else".toList (by decide) ' ' (by decide) text ['{']
  rw [startsWithElse, startsWithElse, startsWithWord, startsWithWord, read]
  -- Without the word there is none in either text.
  cases after? "else".toList text with
  | none => rfl
  | some rest =>
    cases rest with
    | nil => decide
    | cons c rest => rfl

/-- A brace behind a text opens no parenthesis. -/
theorem isSome_afterOpening?_append_brace (text : Text) :
    (Statement.afterOpening? ["if".toList] (text ++ [' ', '{'])).isSome =
      (Statement.afterOpening? ["if".toList] text).isSome := by
  -- The word is read alike in both.
  have read := @after?_append_space "if".toList (by decide) ' ' (by decide) text ['{']
  simp only [Statement.afterOpening?, List.findSome?_singleton]
  rw [read]
  cases after? "if".toList text with
  | none => rfl
  | some rest =>
    -- A parenthesis may follow the word behind white space, and the brace is none.
    rw [Option.map_some, Option.bind_some, Option.bind_some]
    rcases skipSpace_append_brace rest with ⟨blank, skipped⟩ | skipped
    · rw [skipped, blank]
      rfl
    · rw [skipped, after?_append_space (by decide) (by decide), Option.isSome_map]

/-- A brace behind a text does not make it the header of a branch. -/
theorem isBranchHeader_append_brace (text : Text) :
    isBranchHeader (text ++ [' ', '{']) = isBranchHeader text := by
  have read := @after?_append_space "else".toList (by decide) ' ' (by decide) text ['{']
  simp only [isBranchHeader, Statement.afterBranch?, Option.isSome_or,
    isSome_afterOpening?_append_brace]
  congr 1
  -- Only behind an `else` that white space ends can the `if` stand elsewhere.
  rw [afterSpaced?, afterSpaced?, read]
  cases after? "else".toList text with
  | none => rfl
  | some rest =>
    cases rest with
    | nil => decide
    | cons c rest =>
      simp only [Option.map_some, List.cons_append]
      split
      · -- Behind the white space an `if` is read in both or in neither.
        rw [Option.bind_some, Option.bind_some]
        rcases skipSpace_append_brace rest with ⟨blank, skipped⟩ | skipped
        · rw [skipped, blank]
          decide
        · rw [skipped, isSome_afterOpening?_append_brace]
      · rfl

end LineShape

/-- A text that may stand in front of an opening brace. -/
structure Opens (header : Text) : Prop where
  closed : Closed header
  trimmed : trim header = header
  braceless : ∀ c ∈ mask header, c ≠ '{' ∧ c ≠ '}'

/-- The header of a block may stand in front of a brace. -/
theorem BlockHeader.opens (header : BlockHeader) : Opens header.text :=
  ⟨header.closed, header.trimmed, header.braceless⟩

/-- The header of a last branch may stand in front of a brace. -/
theorem opens_else : Opens "else".toList :=
  ⟨closed_of_plain (by decide), by decide, by decide⟩

namespace Condition

variable (condition : Condition)

/-- The header of a first branch shows what its condition shows. -/
theorem mask_ifHeader :
    mask condition.ifHeader = ['i', 'f', ' ', '('] ++ (mask condition.text ++ [')']) := by
  -- What is in front of the condition has no quote, so it shows as it is.
  have inner : mask (condition.text ++ [')']) = mask condition.text ++ [')'] :=
    condition.closed 's' [')']
  rw [← inner]
  exact maskWith_append_plain _ (by decide) _

/-- The header of a branch in between shows an `else` in front of the same. -/
theorem mask_elseIfHeader :
    mask condition.elseIfHeader = ['e', 'l', 's', 'e', ' '] ++ mask condition.ifHeader :=
  maskWith_append_plain _ (by decide) _

/-- The header of a first branch ends with its parenthesis. -/
theorem getLast?_ifHeader : condition.ifHeader.getLast? = some ')' := by
  -- The parenthesis is what the header has last.
  rw [ifHeader, List.getLast?_append, List.getLast?_append]
  rfl

/-- The header of a first branch may stand in front of a brace. -/
theorem opens_ifHeader : Opens condition.ifHeader where
  closed := by
    -- The literals of the condition are closed, so those of the header are.
    have inner := condition.closed.append (@closed_of_plain [')'] (by decide))
    exact (closed_of_plain (by decide)).append inner
  trimmed := by
    refine trim_of_ends rfl ?_
    rw [getLast?_ifHeader]
    decide
  braceless := by
    rw [mask_ifHeader]
    -- The parts of the view are looked at one by one.
    simp only [List.forall_mem_append]
    exact ⟨by decide, condition.braceless, by decide⟩

/-- The header of a branch in between may stand in front of a brace. -/
theorem opens_elseIfHeader : Opens condition.elseIfHeader where
  closed := (closed_of_plain (by decide)).append condition.opens_ifHeader.closed
  -- Trimming looks at both ends, and the view has an `else` in front of the shorter header.
  trimmed := by
    refine trim_of_ends rfl ?_
    rw [elseIfHeader, List.getLast?_append, getLast?_ifHeader]
    rfl
  braceless := by
    rw [mask_elseIfHeader]
    exact List.forall_mem_append.mpr ⟨by decide, condition.opens_ifHeader.braceless⟩

/-- The header of a first branch is one. -/
theorem isBranchHeader_ifHeader : LineShape.isBranchHeader (mask condition.ifHeader) = true := by
  -- The view starts with the word and its parenthesis.
  rw [mask_ifHeader]
  rfl

/-- A branch in between has the header of a branch. -/
theorem isBranchHeader_elseIfHeader :
    LineShape.isBranchHeader (mask condition.elseIfHeader) = true := by
  -- The view starts with both words and the parenthesis.
  rw [mask_elseIfHeader, mask_ifHeader]
  rfl

/-- A first branch does not start with an `else`. -/
theorem startsWithElse_ifHeader : LineShape.startsWithElse (mask condition.ifHeader) = false := by
  -- The view starts with another word.
  rw [mask_ifHeader]
  rfl

end Condition

end SourceLint
