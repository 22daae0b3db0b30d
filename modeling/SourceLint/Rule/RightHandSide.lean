import SourceLint.Declaration
import SourceLint.Text.Position

/-! What stands right of an equals sign: nothing at all, or another assignment. -/

namespace SourceLint.RightHandSide

/-- Characters before an equals sign that make it a comparison. -/
def isComparing (c : Char) : Bool :=
  "=!<>".toList.contains c

/-- Whether an equals sign that is no comparison is followed by a semicolon. -/
def emptyAt (place : Text.Position) : Bool :=
  !place.follows isComparing &&
    (Text.after? ['='] place.after).any fun rest => (Text.skipSpace rest).head? == some ';'

/-- Whether an assignment of a line has no right side. -/
def checkEmpty (line : Text) : List Finding :=
  if Text.anywhere (Text.mask line) emptyAt then [.emptyInitializer] else []

/-- Whether an assigning operator stands at a place. -/
def assignsAt (place : Text.Position) : Bool :=
  place.reads "<<=".toList || place.reads ">>=".toList ||
    match place.after with
    | first :: rest =>
      ("+-*/%&^|".toList.contains first && rest.head? == some '=') ||
        (first == '=' && !place.follows isComparing && rest.head? != some '=')
    | [] => false

/-- The assignments of a line whose value holds another assignment. -/
def checkNested (line : Text) : List Finding :=
  (Statement.effective line false).filterMap fun statement =>
    (Assignment.parse? statement).bind fun assignment =>
      if Text.anywhere (Text.mask assignment.value) assignsAt then
        some (.nestedAssignment assignment.value)
      else
        none

end SourceLint.RightHandSide
