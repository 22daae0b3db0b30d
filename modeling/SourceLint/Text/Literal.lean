import SourceLint.Text.Basic

/-! String and character literals, and the masked view of a text that hides what they hold. -/

namespace SourceLint.Text

/--
A text with every character inside a literal replaced by `fill`, given the literal it starts in.

Delimiters stay. An escape hides the character after it, so both are replaced.
-/
def maskFrom (fill : Text) : (inside : Option Char) → Text → Text
  | _, [] => []
  | none, c :: rest => c :: maskFrom fill (if isQuote c then some c else none) rest
  | some quote, c :: rest =>
    match rest with
    | hidden :: rest =>
      if c = backslash then fill ++ fill ++ maskFrom fill (some quote) rest
      else if c = quote then c :: maskFrom fill none (hidden :: rest)
      else fill ++ maskFrom fill (some quote) (hidden :: rest)
    | [] => if c = quote then [c] else fill

/-- A line with the contents of its literals replaced by `fill`. -/
def maskWith (fill line : Text) : Text :=
  maskFrom fill none line

/-- A line with the contents of its literals written as a plain letter. -/
def mask (line : Text) : Text :=
  maskWith ['s'] line

/-- A line with the contents of its literals blanked out, so that no word is left in them. -/
def blank (line : Text) : Text :=
  maskWith [' '] line

/-- A whole source masked line by line: no literal runs past the end of its line. -/
def maskSource (source : Text) : Text :=
  join ['\n'] ((lines source).map mask)

/-- Each character paired with the one that the masked view shows in its place. -/
def marked (text : Text) : List (Char × Char) :=
  text.zip (mask text)

end SourceLint.Text
