import SourceLint.Finding
import SourceLint.LineShape

/-!
An `else` that follows no finished `if` branch.

The tracker reads line after line. It accepts an `else` right after a header with a statement of
its own, after the statement line of a header without a brace, and after the brace that closes the
block of a header.
-/

namespace SourceLint

/-- What is remembered of the lines read so far. -/
structure ElseTracker where
  /-- How many blocks are open. -/
  depth : Nat := 0
  /-- The depths of the open blocks that belong to an `if`, innermost first. -/
  ifDepths : List Nat := []
  /-- Whether an `else` may follow now. -/
  expectingElse : Bool := false
  /-- Whether the last line was a header whose statement is still to come. -/
  awaitingBody : Bool := false
deriving DecidableEq

namespace ElseTracker

/-- Whether the innermost block belongs to an `if`. -/
def inIf (tracker : ElseTracker) : Bool :=
  tracker.ifDepths.head? == some tracker.depth

/-- Closes the innermost block, if one is open. -/
def closeBlock (tracker : ElseTracker) : ElseTracker :=
  { tracker with
    ifDepths := if tracker.inIf then tracker.ifDepths.tail else tracker.ifDepths
    depth := tracker.depth - 1 }

/-- Opens a block, which belongs to an `if` or not. -/
def openBlock (tracker : ElseTracker) (ofIf : Bool) : ElseTracker :=
  { tracker with
    depth := tracker.depth + 1
    ifDepths := if ofIf then (tracker.depth + 1) :: tracker.ifDepths else tracker.ifDepths }

/-- The progress through the characters of one line. -/
structure Progress where
  tracker : ElseTracker
  /-- Whether the block of the header has been opened. -/
  opened : Bool := false
  /-- Whether a block of an `if` was closed after that. -/
  closedOwn : Bool := false

/-- Reads one character of a line that is a branch header or not. -/
def Progress.step (header : Bool) (progress : Progress) (c : Char) : Progress :=
  if c = '{' then
    { progress with
      tracker := progress.tracker.openBlock (header && !progress.opened)
      opened := progress.opened || header }
  else if c = '}' then
    { progress with
      tracker := progress.tracker.closeBlock
      closedOwn := progress.closedOwn || (progress.tracker.inIf && progress.opened) }
  else
    progress

/-- Closes one block for each brace at the front of a line, and notes whether an `if` ended last. -/
def closeAll : Nat → ElseTracker × Bool → ElseTracker × Bool
  | 0, state => state
  | count + 1, (tracker, _) => closeAll count (tracker.closeBlock, tracker.inIf)

/-- Closing braces and white space at the front of a line. -/
def isLeading (c : Char) : Bool :=
  c == '}' || Text.isSpace c

/-- Reads one line. -/
def check (tracker : ElseTracker) (line : Text) : ElseTracker × List Finding :=
  let text := Text.trim (Text.mask line)
  let rest := text.dropWhile isLeading
  let (closed, expecting) :=
    closeAll ((text.takeWhile isLeading).count '}') (tracker, tracker.expectingElse)
  let header := LineShape.isBranchHeader rest
  let progress := rest.foldl (Progress.step header) { tracker := closed }
  let hasStatement := (Statement.condition? rest).any fun (_, after) => !after.isEmpty
  let expectingElse :=
    if header then if progress.opened then progress.closedOwn else hasStatement
    else if rest.isEmpty then expecting
    else tracker.awaitingBody && rest.head? != some '{'
  let awaitingBody := header && !progress.opened && !hasStatement
  ({ progress.tracker with expectingElse, awaitingBody },
    if LineShape.startsWithElse rest && !expecting then [.danglingElse] else [])

end ElseTracker

end SourceLint
