import SourceLint.Text.Basic

/-! The types a variable can be declared with, and which of them may be stored in which. -/

namespace SourceLint

/-- A type of the declaration vocabulary. -/
inductive DataType where
  | unsignedShort
  | unsignedLong
  | unsignedInt
  | longLong
  | int
  | float
  | double
  | char
  | bool
  | long
  | short
  | string
deriving DecidableEq

namespace DataType

/-- All types, in the order in which a declaration is read: longer spellings first. -/
def all : List DataType :=
  [unsignedShort, unsignedLong, unsignedInt, longLong, int, float, double, char, bool, long, short,
   string]

/-- The words that spell a type. -/
def words : DataType → List Text
  | unsignedShort => ["unsigned".toList, "short".toList]
  | unsignedLong => ["unsigned".toList, "long".toList]
  | unsignedInt => ["unsigned".toList, "int".toList]
  | longLong => ["long".toList, "long".toList]
  | int => ["int".toList]
  | float => ["float".toList]
  | double => ["double".toList]
  | char => ["char".toList]
  | bool => ["bool".toList]
  | long => ["long".toList]
  | short => ["short".toList]
  | string => ["string".toList]

/-- The normal spelling of a type: its words with one space between them. -/
def spelling (type : DataType) : Text :=
  Text.join [' '] type.words

/-- Whole-number types. -/
def isIntegral : DataType → Bool
  | int | long | short | longLong | unsignedInt | unsignedShort | unsignedLong => true
  | _ => false

/-- Types of numbers, which are also the types that can be stepped up and down. -/
def isNumeric : DataType → Bool
  | float | double => true
  | type => type.isIntegral

/-- The types whose variables a variable of the given type takes besides its own. -/
def widensFrom : DataType → List DataType
  | double => [int, float, long, short, longLong, unsignedInt, unsignedShort, unsignedLong]
  | float => [int, short, long, unsignedInt, unsignedShort]
  | longLong => [int, short, long, unsignedInt, unsignedShort]
  | long => [int, short, unsignedInt, unsignedShort]
  | unsignedLong => [int, short, unsignedInt, unsignedShort]
  | int => [short]
  | unsignedInt => [short, unsignedShort]
  | bool => [int, long, short, longLong, unsignedInt, unsignedShort, unsignedLong]
  | string => [char]
  | _ => []

end DataType

/-- The type of a variable: one of the vocabulary, or a spelling that is not in it. -/
inductive VarType where
  | known (type : DataType)
  | other (spelling : Text)
deriving DecidableEq

namespace VarType

/-- The type with the given normal spelling. -/
def ofText (spelling : Text) : VarType :=
  match DataType.all.find? fun type => type.spelling = spelling with
  | some type => known type
  | none => other spelling

/-- How the type is written. -/
def spelling : VarType → Text
  | known type => type.spelling
  | other spelling => spelling

/-- Whether values of the type are numbers. -/
def isNumeric : VarType → Bool
  | known type => type.isNumeric
  | other _ => false

/-- Whether a variable of the source type may be stored in one of the target type. -/
def accepts (target source : VarType) : Bool :=
  target == source ||
    match target, source with
    | known target, known source => target.widensFrom.contains source
    | _, _ => false

/-- Collapses the white space of a spelling to single spaces between its words. -/
def normalize (spelling : Text) : Text :=
  Text.join [' '] (Text.fields spelling)

end VarType

end SourceLint
