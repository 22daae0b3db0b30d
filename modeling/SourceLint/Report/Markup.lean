import SourceLint.Text.Basic

/-! Text with style tags in brackets: writing it, and reading what of it is shown. -/

namespace SourceLint.Report.Markup

/-- A part of marked-up text. -/
inductive Span where
  | text (characters : Text)
  /-- A tag with its brackets, and the number of backslashes right before it. -/
  | tag (backslashes : Nat) (characters : Text)
deriving DecidableEq

/-- What the name of a tag starts with. -/
def startsTag (c : Char) : Bool :=
  ('a' ≤ c && c ≤ 'z') || ['#', '/', '@'].contains c

/-- Cuts a text behind the bracket that closes its tag. No tag holds another opening bracket. -/
def closeTag? : Text → Option (Text × Text)
  | [] => none
  | c :: rest =>
    if !startsTag c then none
    else
      match rest.span fun c => c != '[' && c != ']' with
      | (inside, ']' :: after) => some (c :: (inside ++ [']']), after)
      | _ => none

/-- Puts a character in front of spans. -/
def Span.push (c : Char) : List Span → List Span
  | [] => [.text [c]]
  | .text characters :: spans =>
    match if c = '[' then closeTag? characters else none with
    | some (inside, after) => .tag 0 (c :: inside) :: .text after :: spans
    | none => .text (c :: characters) :: spans
  | .tag backslashes characters :: spans =>
    if c = Text.backslash then .tag (backslashes + 1) characters :: spans
    else .text [c] :: .tag backslashes characters :: spans

/-- The tags of a text, and the text between them. -/
def spans (text : Text) : List Span :=
  text.foldr Span.push []

/-- A number of backslashes. -/
def backslashes (count : Nat) : Text :=
  List.replicate count Text.backslash

/-- A span as it has to be written to be shown. A tag needs a backslash, and those before it two. -/
def Span.escaped : Span → Text
  | .text characters => characters
  | .tag count characters => backslashes (2 * count + 1) ++ characters

/-- Whether a text ends with one backslash and no more. -/
def endsWithOneBackslash (text : Text) : Bool :=
  (text.reverse.takeWhile (· == Text.backslash)).length == 1

/-- Writes a text so that its tags are shown. A single backslash at its end is written twice. -/
def escape (text : Text) : Text :=
  let escaped := (spans text).flatMap Span.escaped
  if endsWithOneBackslash escaped then escaped ++ [Text.backslash] else escaped

/-- Text between tags as it is shown: a bracket loses the backslash before it. -/
def unescape : Text → Text
  | c :: d :: rest =>
    if c = Text.backslash && d = '[' then d :: unescape rest else c :: unescape (d :: rest)
  | text => text

/--
The pieces of a span that are shown.

Two backslashes before a tag show one. A further one shows the tag, which otherwise leaves no trace.
-/
def Span.shown : Span → List Text
  | .text characters => [unescape characters]
  | .tag count characters =>
    backslashes (count / 2) :: if count % 2 = 1 then [characters] else []

/-- The pieces of marked-up text that are shown, in order. -/
def pieces (markup : Text) : List Text :=
  (spans markup).flatMap Span.shown

/-- How a stretch of text is set off. -/
inductive Style where
  | red
  | yellow
  | green
  | cyan
  | bold
deriving DecidableEq

/-- The name of a style in its tags. -/
def Style.name : Style → String
  | red => "red"
  | yellow => "yellow"
  | green => "green"
  | cyan => "cyan"
  | bold => "bold"

/-- Puts marked-up text between the tags of a style. -/
def Style.wrap (style : Style) (markup : Text) : Text :=
  ("[" ++ style.name ++ "]").toList ++ markup ++ ("[/" ++ style.name ++ "]").toList

end SourceLint.Report.Markup
