import SourceLint.Text.Class

/-!
Removal of comments with the line structure kept.

The line breaks inside a removed comment stay, and literals are copied as they are.
-/

namespace SourceLint.Comment

/-- Where a character of the source stands. -/
inductive Place where
  | code
  /-- Inside a literal with the given delimiter. -/
  | literal (quote : Char)
  | lineComment
  /-- Inside a block comment that was opened on the given line. -/
  | blockComment (start : Int)
deriving DecidableEq

/-- The outcome of removing the comments from a source. -/
structure Stripped where
  /-- What is left of the source. -/
  text : Text := []
  /-- The lines on which a block comment is opened inside another one. -/
  nested : List Int := []
  /-- The line on which a block comment starts that never ends, if there is one. -/
  unclosed : Option Int := none
deriving DecidableEq

/-- The outcome for a text with one more character kept in front. -/
def Stripped.keep (c : Char) (stripped : Stripped) : Stripped :=
  { stripped with text := c :: stripped.text }

/-- The outcome for a text that stands at the given place and line. -/
def stripFrom : Place → (line : Int) → Text → Stripped
  | .blockComment start, _, [] => { unclosed := some start }
  | _, _, [] => {}
  | .code, line, '/' :: '*' :: rest => stripFrom (.blockComment line) line rest
  | .code, line, '/' :: '/' :: rest => stripFrom .lineComment line rest
  | .code, line, c :: rest =>
    if Text.isQuote c then (stripFrom (.literal c) line rest).keep c
    else (stripFrom .code (if c = '\n' then line + 1 else line) rest).keep c
  | .blockComment _, line, '*' :: '/' :: rest => stripFrom .code line rest
  | .blockComment start, line, '/' :: '*' :: rest =>
    let stripped := stripFrom (.blockComment start) line rest
    { stripped with nested := line :: stripped.nested }
  | .blockComment start, line, c :: rest =>
    if c = '\n' then (stripFrom (.blockComment start) (line + 1) rest).keep c
    else stripFrom (.blockComment start) line rest
  | .lineComment, line, c :: rest =>
    if c = '\n' then (stripFrom .code (line + 1) rest).keep c
    else stripFrom .lineComment line rest
  | .literal quote, line, c :: rest =>
    if c = '\n' then (stripFrom .code (line + 1) rest).keep c
    else if c = Text.backslash then
      match rest with
      | hidden :: rest =>
        -- An escape reaches no further than the end of its line.
        if hidden = '\n' then (stripFrom (.literal quote) line (hidden :: rest)).keep c
        else ((stripFrom (.literal quote) line rest).keep hidden).keep c
      | [] => (stripFrom (.literal quote) line []).keep c
    else if c = quote then (stripFrom .code line rest).keep c
    else (stripFrom (.literal quote) line rest).keep c

/-- Removes the comments from a source. -/
def strip (source : Text) : Stripped :=
  stripFrom .code 1 source

end SourceLint.Comment
