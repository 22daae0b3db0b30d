import SourceLint.Text.Basic

/-! Places in a text, seen with what stands on either side, and the words found there. -/

namespace SourceLint.Text

/-- A place between two characters. -/
structure Position where
  /-- The text before the place, nearest character first. -/
  before : Text
  /-- The text from the place on. -/
  after : Text

/-- The places of a text that continues `before`, from left to right, its end included. -/
def positionsFrom (before : Text) : Text → List Position
  | [] => [⟨before, []⟩]
  | c :: rest => ⟨before, c :: rest⟩ :: positionsFrom (c :: before) rest

/-- Every place of a text, from left to right. -/
def positions (text : Text) : List Position :=
  positionsFrom [] text

namespace Position

/-- Whether the character before the place is in a class. The front of the text is in none. -/
def follows (place : Position) (inClass : Char → Bool) : Bool :=
  place.before.head?.any inClass

/-- Whether `front` stands at the place. -/
def reads (place : Position) (front : Text) : Bool :=
  startsWith front place.after

/-- Whether a dereferencing arrow ends at the place. -/
def followsArrow (place : Position) : Bool :=
  startsWith ['>', '-'] place.before

end Position

/-- A maximal run of word characters, with the text on either side of it. -/
structure Word where
  /-- Where the run starts. -/
  place : Position
  /-- The characters of the run. -/
  text : Text
  /-- What follows the run. -/
  rest : Text

/-- The word that starts at a place, if one does. -/
def wordAt? (place : Position) : Option Word :=
  if place.after.head?.any isWord && !place.follows isWord then
    some ⟨place, place.after.takeWhile isWord, place.after.dropWhile isWord⟩
  else
    none

/-- The words of a text, from left to right. -/
def words (text : Text) : List Word :=
  (positions text).filterMap wordAt?

namespace Word

/-- Whether the word is spelled like a name at its first character. -/
def isNamed (word : Word) : Bool :=
  word.text.head?.any isNameStart

/-- Whether optional white space and an opening parenthesis follow. -/
def isCalled (word : Word) : Bool :=
  (skipSpace word.rest).head? == some '('

/-- Whether the word is a name read for itself and not as a member of something else. -/
def isBareName (word : Word) : Bool :=
  word.isNamed && !word.place.follows (· == '.')

end Word

/-- Whether some place of the text satisfies a test. -/
def anywhere (text : Text) (test : Position → Bool) : Bool :=
  (positions text).any test

/-- Whether one of the given pieces occurs somewhere in the text. -/
def containsAny (text : Text) (pieces : List Text) : Bool :=
  anywhere text fun place => pieces.any place.reads

/--
The finds of a reader that consumes what it recognises, from left to right.

The reader answers with the number of characters it takes, and those are passed over.
-/
def findsFrom {α : Type} (read? : Position → Option (Nat × α)) :
    (skip : Nat) → (before : Text) → Text → List α
  | _, _, [] => []
  | skip + 1, before, c :: rest => findsFrom read? skip (c :: before) rest
  | 0, before, c :: rest =>
    match read? ⟨before, c :: rest⟩ with
    | some (taken, find) => find :: findsFrom read? (taken - 1) (c :: before) rest
    | none => findsFrom read? 0 (c :: before) rest

/-- The finds of a consuming reader in a whole text. -/
def finds {α : Type} (read? : Position → Option (Nat × α)) (text : Text) : List α :=
  findsFrom read? 0 [] text

end SourceLint.Text
