import SourceLint.Text.Basic

/-! The words with a fixed meaning in the analysed language. -/

namespace SourceLint.Vocabulary

/-- Words that can never name a variable, and that have to be written in lower case. -/
def reserved : List Text :=
  ["int", "float", "double", "char", "bool", "if", "else", "long", "short", "unsigned", "true",
   "false", "string", "for", "while", "do", "switch", "case", "break", "continue", "return", "void",
   "struct", "class", "const", "static", "enum", "namespace", "using", "try", "catch",
   "throw"].map String.toList

/-- Words that name a type, alone or in combination with another one. -/
def typeWords : List Text :=
  ["int", "float", "double", "char", "bool", "long", "short", "unsigned", "signed", "string",
   "void", "auto", "size_t"].map String.toList

/-- Whether a word is reserved. -/
def isReserved (word : Text) : Bool :=
  reserved.contains word

/-- Whether a word names a type. -/
def isTypeWord (word : Text) : Bool :=
  typeWords.contains word

/--
A character in lower case, exact for every character whose lower case form is ASCII.

Besides the ASCII capitals that is the Kelvin sign alone.
-/
def lowerChar (c : Char) : Char :=
  if c == '\u212a' then 'k' else c.toLower

/-- The reserved word that a word spells when case is ignored. -/
def reservedForm? (word : Text) : Option Text :=
  let lowered := word.map lowerChar
  if isReserved lowered then some lowered else none

/-- The text after a storage qualifier, which white space has to end. -/
def afterQualifier? (text : Text) : Option Text :=
  (Text.afterSpaced? "const".toList text).or (Text.afterSpaced? "static".toList text)

/-- A storage qualifier takes at least one character. -/
theorem length_lt_of_afterQualifier? {text rest : Text} (found : afterQualifier? text = some rest) :
    rest.length < text.length := by
  -- Whichever of the two was read, its white space was read as well.
  rcases Option.or_eq_some_iff.mp found with first | ⟨_, second⟩
  · exact Text.length_lt_of_afterSpaced? first
  · exact Text.length_lt_of_afterSpaced? second

/-- The text after any storage qualifiers at its front. -/
def skipQualifiers (text : Text) : Text :=
  match _ : afterQualifier? text with
  | some rest => skipQualifiers rest
  | none => text
termination_by text.length
decreasing_by exact length_lt_of_afterQualifier? (by assumption)

end SourceLint.Vocabulary
