import SourceLint.Token

/-!
Cutting a text without comments into tokens.

White space separates tokens and belongs to none. Every other character is part of one.
-/

namespace SourceLint.Token

/-- The characters after an opening single quote, if one character and a closing quote follow. -/
def charTail? : Text → Option Text
  | c :: closing :: _ =>
    if c != Text.singleQuote && c != '\n' && closing == Text.singleQuote then some [c, closing]
    else none
  | _ => none

/-- The characters after an opening double quote, if a closing quote follows on the line. -/
def stringTail? (rest : Text) : Option Text :=
  let inside := fun c => c != Text.doubleQuote && c != '\n'
  match rest.dropWhile inside with
  | c :: _ => if c == Text.doubleQuote then some (rest.takeWhile inside ++ [c]) else none
  | [] => none

/-- Whether a keyword starts here and ends with the word: no word character stands before it. -/
def startsKeyword (before : Option Char) (c : Char) (rest : Text) : Bool :=
  !before.any Text.isWord && (keyword? (c :: rest.takeWhile Text.isWord)).isSome

/--
The characters of `rest` that belong to the lexeme that starts with `c`.

The kinds of lexeme are tried in a fixed order. A character that starts none of the longer kinds
is a lexeme of its own.
-/
def lexemeTail (before : Option Char) (c : Char) (rest : Text) : Text :=
  if startsKeyword before c rest then rest.takeWhile Text.isWord
  else if isOperatorChar c then (rest.take 1).filter isOperatorChar
  else if Text.isDecimal c then Text.numberTail rest
  else if c == Text.singleQuote then (charTail? rest).getD []
  else if c == Text.doubleQuote then (stringTail? rest).getD []
  else if Text.isNameStart c then rest.takeWhile Text.isNameChar
  else if isForeign c then rest.takeWhile isForeign
  else []

/-- The tokens of a text that stands on the given line after the character `before`. -/
def tokenizeFrom (before : Option Char) (line : Int) : Text → List Token
  | [] => []
  | c :: rest =>
    if c = '\n' then tokenizeFrom (some c) (line + 1) rest
    else if Text.isSpace c then tokenizeFrom (some c) line rest
    else
      let tail := lexemeTail before c rest
      ⟨c :: tail, line, categorize (c :: tail)⟩ ::
        tokenizeFrom (some (tail.getLast?.getD c)) line (rest.drop tail.length)
termination_by text => text.length

/-- The tokens of a text whose first line has number one. -/
def tokenize (text : Text) : List Token :=
  tokenizeFrom none 1 text

end SourceLint.Token
