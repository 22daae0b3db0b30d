import SourceLint.Finding
import SourceLint.LineShape

/-! Lines that should end with a semicolon and do not. -/

namespace SourceLint.Semicolon

/-- The words that start a line which needs no semicolon. -/
def headerWords : List Text :=
  ["if", "else", "for", "while", "do", "switch"].map String.toList

/-- Whether a closing parenthesis of the first line is followed by an opening brace. -/
def hasBody (line : Text) : Bool :=
  Text.anywhere line fun place =>
    ((Text.after? [')'] place.after).any fun rest => (Text.skipSpace rest).head? == some '{') &&
      place.before.all Text.sameLine

/-- Whether a name of the first line is followed by an opening parenthesis. -/
def hasCall (line : Text) : Bool :=
  (Text.words line).any fun word =>
    word.isNamed && word.isCalled && word.place.before.all Text.sameLine

/-- Whether a line may end as it does. -/
def isComplete (line : Text) : Bool :=
  line.isEmpty || LineShape.isDirective line || (hasBody line && hasCall line) ||
    line.getLast?.any "{};)".toList.contains ||
    headerWords.any (Text.startsWithWord · line) || LineShape.isLabel line

/-- Whether a line lacks its semicolon. -/
def check (line : Text) : List Finding :=
  if isComplete (Text.trim line) then [] else [.missingSemicolon]

end SourceLint.Semicolon
