import SourceLint.Finding
import SourceLint.LineShape

/-! Declarations that mix several type words, such as `int float x;`. -/

namespace SourceLint.MixedTypes

/-- The distinct type words of a text, in order. -/
def typesIn (text : Text) : List Text :=
  Text.distinct (((Text.words text).map Text.Word.text).filter Vocabulary.isTypeWord)

/-- The type words that may stand with `unsigned` in one declaration. -/
def unsignedPartners : List Text :=
  ["int", "short", "long"].map String.toList

/-- Whether distinct type words may stand in one declaration. -/
def isAllowed : List Text → Bool
  | [first, second] =>
    (first == "unsigned".toList && unsignedPartners.contains second) ||
      (second == "unsigned".toList && unsignedPartners.contains first)
  | types => types.length ≤ 1

/--
The first statement of a line that mixes type words.

Directives, function signatures and lines with braces of both kinds are left alone.
-/
def check (line : Text) : List Finding :=
  if LineShape.isDirective line || (line.contains '{' && line.contains '}') ||
      LineShape.isSignature Vocabulary.typeWords Vocabulary.typeWords line then
    []
  else
    let types := (Text.splitTop (· == ';') (Text.blank line)).map typesIn
    ((types.find? fun found => !isAllowed found).map Finding.mixedTypes).toList

end SourceLint.MixedTypes
