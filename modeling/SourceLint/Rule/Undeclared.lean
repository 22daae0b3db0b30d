import SourceLint.Declaration
import SourceLint.LineShape

/-! Names that stand for no variable. -/

namespace SourceLint.Undeclared

/-- The words that start the signature of a function. -/
def signatureTypes : List Text :=
  ["int", "void", "float", "double", "char", "bool", "long", "short", "unsigned",
   "string"].map String.toList

/-- The words that may follow the first one in the type of a signature. -/
def signatureMore : List Text :=
  ["int", "long", "short"].map String.toList

/-- Whether the names of a line are left to other checks. -/
def isExempt (line : Text) : Bool :=
  let text := Text.skipSpace line
  LineShape.isDirective line || LineShape.isSignature signatureTypes signatureMore line ||
    Text.startsWithWord "if".toList text || LineShape.startsWithElse text

/-- The distinct names that a line reads for themselves, in order. -/
def namesIn (line : Text) : List Text :=
  Text.distinct <| ((Text.words (Text.blank line)).filter fun word =>
    word.isBareName && !word.place.followsArrow).map Text.Word.text

/--
The names of a line that stand for nothing.

What the line declares itself is known, and what it assigns to is checked with the assignment.
-/
def check (table : SymbolTable) (line : Text) : List Finding :=
  if isExempt line then []
  else
    let known := "main".toList :: (Declaration.namesOn line ++ Assignment.targetsOn line)
    ((namesIn line).filter fun name =>
      !(Vocabulary.isReserved name || known.contains name || table.declares name)).map
        .undeclaredIdentifier

end SourceLint.Undeclared
