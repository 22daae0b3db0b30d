import SourceLint.Finding
import SourceLint.LineShape

/-! Reserved words that are not written in lower case. -/

namespace SourceLint.KeywordCase

/-- The reserved words of a line that are written with capitals. -/
def check (line : Text) : List Finding :=
  (Text.words (Text.blank line)).filterMap fun word =>
    if word.isNamed then
      (Vocabulary.reservedForm? word.text).bind fun canonical =>
        if word.text = canonical then none else some (.keywordCase word.text canonical)
    else
      none

end SourceLint.KeywordCase
