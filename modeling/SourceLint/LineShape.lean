import SourceLint.Text.Position
import SourceLint.Statement
import SourceLint.Vocabulary

/-! The shapes of line that several checks tell apart: signatures, labels and branch headers. -/

namespace SourceLint.LineShape

/-- The text after one of the words, which white space has to end. -/
def afterAny? (words : List Text) (text : Text) : Option Text :=
  words.findSome? fun word => Text.afterSpaced? word text

/-- One of several words takes at least one character. -/
theorem length_lt_of_afterAny? {words : List Text} {text rest : Text}
    (found : afterAny? words text = some rest) : rest.length < text.length := by
  -- Whichever word was read, it was ended by white space.
  obtain ⟨word, -, read⟩ := List.exists_of_findSome?_eq_some found
  exact Text.length_lt_of_afterSpaced? read

/-- Whether a name with an opening parenthesis follows, possibly after more type words. -/
def callFollows (more : List Text) (text : Text) : Bool :=
  Text.startsWithCall text ||
    match _ : afterAny? more text with
    | some rest => callFollows more rest
    | none => false
termination_by text.length
decreasing_by exact length_lt_of_afterAny? (by assumption)

/-- Whether a line starts like a function: qualifiers, type words, a name and a parenthesis. -/
def isSignature (types more : List Text) (line : Text) : Bool :=
  (afterAny? types (Vocabulary.skipQualifiers (Text.skipSpace line))).any (callFollows more)

/-- Whether a line is a directive to the preprocessor. -/
def isDirective (line : Text) : Bool :=
  line.head? == some '#'

/-- Whether a line is nothing but a label: a case or a name, and a colon at the end. -/
def isLabel (line : Text) : Bool :=
  let line := Text.trim line
  let isCase := Text.startsWithWord "case".toList line && Text.endsWith ':' line &&
    (line.drop 4).dropLast.all Text.sameLine
  let isName := (Text.afterName? line).any fun rest => Text.skipSpace rest == [':']
  isCase || isName

/-- Whether a text starts with the word `else`. -/
def startsWithElse (text : Text) : Bool :=
  Text.startsWithWord "else".toList text

/-- Whether an `if` with an opening parenthesis starts the text, possibly after an `else`. -/
def isBranchHeader (text : Text) : Bool :=
  (Statement.afterBranch? ["if".toList] text).isSome

/-- Whether a loop header stands somewhere in the text. -/
def hasLoopHeader (text : Text) : Bool :=
  (Text.words text).any fun word => word.text == "for".toList && word.isCalled

end SourceLint.LineShape
