import SourceLint.Text.Class

/-! Trimming, cutting into lines and reading fixed words at the front of a text. -/

namespace SourceLint.Text

/-- The text after its leading white space. -/
def skipSpace (text : Text) : Text :=
  text.dropWhile isSpace

/-- The text without its trailing white space. -/
def trimRight (text : Text) : Text :=
  (text.reverse.dropWhile isSpace).reverse

/-- The text without white space at either end. -/
def trim (text : Text) : Text :=
  trimRight (skipSpace text)

/-- Whether nothing but white space is left. -/
def isBlank (text : Text) : Bool :=
  text.all isSpace

/-- What follows `front` when the text starts with it. -/
def after? : (front text : Text) → Option Text
  | [], text => some text
  | _ :: _, [] => none
  | f :: front, c :: text => if f = c then after? front text else none

/-- What precedes `ending` when the text ends with it. -/
def before? (ending text : Text) : Option Text :=
  (after? ending.reverse text.reverse).map List.reverse

/-- What follows the word at the front, which white space has to end. -/
def afterSpaced? (word text : Text) : Option Text :=
  match after? word text with
  | some (c :: rest) => if isSpace c then some (skipSpace rest) else none
  | _ => none

/-- What follows a front is the rest of the text. -/
theorem eq_append_of_after? {front text rest : Text} (found : after? front text = some rest) :
    text = front ++ rest := by
  -- The front and the text are read in step.
  induction front generalizing text with
  | nil => simpa [after?] using found
  | cons f front ih =>
    cases text with
    | nil => simp [after?] at found
    | cons c text =>
      by_cases same : f = c
      · simp only [after?, same, if_true] at found
        simp [same, ih found]
      · simp [after?, same] at found

/-- Skipping white space never lengthens a text. -/
theorem length_skipSpace_le (text : Text) : (skipSpace text).length ≤ text.length :=
  (List.dropWhile_sublist _).length_le

/-- Trimming never lengthens a text. -/
theorem length_trim_le (text : Text) : (trim text).length ≤ text.length := by
  -- Both ends only lose characters.
  have right : ∀ part : Text, (trimRight part).length ≤ part.length := fun part => by
    simpa [trimRight] using (List.dropWhile_sublist (l := part.reverse) isSpace).length_le
  exact Nat.le_trans (right _) (length_skipSpace_le text)

/-- A word and the white space that ends it take at least one character. -/
theorem length_lt_of_afterSpaced? {word text rest : Text}
    (found : afterSpaced? word text = some rest) : rest.length < text.length := by
  -- The character after the word is white space, and the rest starts behind it.
  unfold afterSpaced? at found
  split at found
  case h_1 c tail read =>
    split at found
    · have split := eq_append_of_after? read
      cases found
      have := length_skipSpace_le tail
      simp only [split, List.length_append, List.length_cons]
      omega
    · simp at found
  · simp at found

/-- Whether the text starts with `front`. -/
def startsWith (front text : Text) : Bool :=
  (after? front text).isSome

/-- Whether the text ends with the given character. -/
def endsWith (c : Char) (text : Text) : Bool :=
  text.getLast? == some c

/-- Whether the first word of the text, up to a word boundary, is the given one. -/
def startsWithWord (word text : Text) : Bool :=
  match after? word text with
  | some rest => !rest.head?.any isWord
  | none => false

/-- The name at the front of the text, an ASCII start and any word characters, and what follows. -/
def name? : Text → Option (Text × Text)
  | c :: rest =>
    if isNameStart c then some (c :: rest.takeWhile isWord, rest.dropWhile isWord) else none
  | [] => none

/-- What follows the name at the front of the text. -/
def afterName? (text : Text) : Option Text :=
  (name? text).map Prod.snd

/-- Whether a name, optional white space and an opening parenthesis stand at the front. -/
def startsWithCall (text : Text) : Bool :=
  match afterName? text with
  | some rest => (skipSpace rest).head? == some '('
  | none => false

/-- The pieces between separating characters: always one more than there are of those. -/
def cutWhere (separates : Char → Bool) : Text → Text × List Text
  | [] => ([], [])
  | c :: rest =>
    let (first, others) := cutWhere separates rest
    if separates c then ([], first :: others) else (c :: first, others)

/-- All pieces between separating characters, in order. -/
def splitWhere (separates : Char → Bool) (text : Text) : List Text :=
  let (first, others) := cutWhere separates text
  first :: others

/-- The lines of a text, without their line breaks. -/
def lines (text : Text) : List Text :=
  splitWhere (· == '\n') text

/-- Pieces put back together around a separator. -/
def join (separator : Text) : List Text → Text
  | [] => []
  | [last] => last
  | piece :: pieces => piece ++ separator ++ join separator pieces

/-- The runs of characters between white space, in order. -/
def fields (text : Text) : List Text :=
  (splitWhere isSpace text).filter fun field => !field.isEmpty

/-- The number of line breaks in a text. -/
def breaks (text : Text) : Nat :=
  text.count '\n'

/--
The line, counting from one, that holds the character at an index.

An index past the end belongs to the last line, and one below zero counts back from the end.
-/
def lineOf (text : Text) (index : Int) : Int :=
  let bound := if 0 ≤ index then index else index + text.length
  breaks (text.take bound.toNat) + 1

/-- Distinct entries in the order of their first occurrence. -/
def distinct {α : Type} [BEq α] (entries : List α) : List α :=
  entries.foldl (fun kept entry => if kept.contains entry then kept else kept ++ [entry]) []

end SourceLint.Text
