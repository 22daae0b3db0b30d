import SourceLint.Emoji.Face
import SourceLint.Emoji.Nature
import SourceLint.Emoji.Object
import SourceLint.Emoji.Person
import SourceLint.Emoji.Recent
import SourceLint.Emoji.Region
import SourceLint.Emoji.Sequence
import SourceLint.Emoji.Symbol
import SourceLint.Emoji.Travel
import SourceLint.Text.Basic

/-! Emoji codes: a name between colons stands for the emoji with that name. -/

namespace SourceLint.Emoji

/-- A capital Latin letter as a small one. The signs for kelvin and ångström count as letters. -/
def smallLetter (c : Char) : Char :=
  let code := c.toNat
  if code = 0x212a then 'k'
  else if code = 0x212b then 'å'
  else if 0xc0 ≤ code && code ≤ 0xde && code != 0xd7 then Char.ofNat (code + 32)
  else c.toLower

/-- Asks for the picture of a character that also has a plain form. -/
def pictureSelector : Char := '\ufe0f'

/-- Asks for the plain form of a character that also has a picture. -/
def plainSelector : Char := '\ufe0e'

/-- The endings that ask for a form of an emoji, with the character that selects it. -/
def forms : List (Text × Char) :=
  [("-emoji".toList, pictureSelector), ("-text".toList, plainSelector)]

/-- The endings that ask for a skin tone, with the character that gives it. -/
def skinTones : List (Text × Char) :=
  [("_light_skin_tone".toList, Char.ofNat 0x1f3fb),
   ("_medium-light_skin_tone".toList, Char.ofNat 0x1f3fc),
   ("_medium_skin_tone".toList, Char.ofNat 0x1f3fd),
   ("_medium-dark_skin_tone".toList, Char.ofNat 0x1f3fe),
   ("_dark_skin_tone".toList, Char.ofNat 0x1f3ff)]

/-- The entry whose ending a text has, with what precedes the ending. -/
def cutEnding? (endings : List (Text × Char)) (text : Text) : Option (Text × Char) :=
  endings.findSome? fun (ending, mark) => (Text.before? ending text).map fun front => (front, mark)

/-- The tables of names that stand for themselves. -/
def tables : List (List (String × String)) :=
  [allFaces, nature, objects, symbols, travel, recent, sequences, persons]

/-- Gives a skin tone to the first character, in place of a request for its picture. -/
def tint (tone : Char) : Text → Text
  | [] => []
  | first :: rest =>
    first :: tone :: if rest.head? = some pictureSelector then rest.tail else rest

/-- The emoji that is listed under a name, flags included. -/
def listed? (name : Text) : Option Text :=
  let key := String.ofList name
  ((tables.findSome? fun table => table.lookup key).map String.toList).or <|
    (flagNamed? key).or <|
      (Text.after? flagFor.toList name).bind fun region => flagIntroduced? (String.ofList region)

/-- The emoji of a person in the skin tone that the end of the name asks for. -/
def toned? (name : Text) : Option Text :=
  (cutEnding? skinTones name).bind fun (person, tone) =>
    (persons.lookup (String.ofList person)).map fun emoji => tint tone emoji.toList

/-- The emoji with the given name, in which the case of letters does not matter. -/
def named? (name : Text) : Option Text :=
  let name := name.map smallLetter
  (listed? name).or (toned? name)

/-- The emoji for what stands between two colons: a name, which a form may follow. -/
def ofCode? (code : Text) : Option Text :=
  match cutEnding? forms code with
  | some (name, selector) => (named? name).map (· ++ [selector])
  | none => named? code

/--
Replaces the codes in the pieces behind colons.

A piece without white space is a code if another colon closes it. A code that means nothing keeps
its colons, and its closing colon opens no further code.
-/
def expandPieces : List Text → Text
  | [] => []
  | [last] => ':' :: last
  | code :: next :: rest =>
    if code.any Text.isSpace then ':' :: (code ++ expandPieces (next :: rest))
    else (ofCode? code).getD (':' :: (code ++ [':'])) ++ next ++ expandPieces rest

/-- A text with its emoji codes replaced. -/
def expand (text : Text) : Text :=
  let (first, pieces) := Text.cutWhere (· == ':') text
  first ++ expandPieces pieces

end SourceLint.Emoji
