import SourceLint.Text.Number

/-! Tokens and the fixed order in which a lexeme is classified. -/

namespace SourceLint

/-- The kinds of lexeme that are told apart. -/
inductive Category where
  | declaration
  | conditional
  | loop
  | control
  | relationalOperator
  | arithmeticOperator
  | assignmentOperator
  | logicalOperator
  | operator
  | number
  | charLiteral
  | stringLiteral
  | identifier
  | separator
  | unknown
deriving DecidableEq

namespace Category

/-- The name of a category in reports. -/
def label : Category → String
  | declaration => "DECLARATION"
  | conditional => "CONDITIONAL"
  | loop => "LOOP"
  | control => "CONTROL"
  | relationalOperator => "RELATIONAL_OPERATOR"
  | arithmeticOperator => "ARITHMETIC_OPERATOR"
  | assignmentOperator => "ASSIGNMENT_OPERATOR"
  | logicalOperator => "LOGICAL_OPERATOR"
  | operator => "OPERATOR"
  | number => "NUMBER"
  | charLiteral => "CHAR_LITERAL"
  | stringLiteral => "STRING_LITERAL"
  | identifier => "IDENTIFIER"
  | separator => "SEPARATOR"
  | unknown => "UNKNOWN"

end Category

/-- A lexeme with its line and kind. -/
structure Token where
  lexeme : Text
  line : Int
  category : Category
deriving DecidableEq

namespace Token

/-- The keywords with a category of their own. -/
def keywords : List (Text × Category) :=
  (["int", "float", "double", "char", "string", "void", "bool", "long", "short", "unsigned"].map
    fun word => (word.toList, .declaration)) ++
  (["if", "else"].map fun word => (word.toList, .conditional)) ++
  (["for", "while", "do"].map fun word => (word.toList, .loop)) ++
  (["break", "continue", "return"].map fun word => (word.toList, .control))

/-- The category of a keyword. -/
def keyword? (lexeme : Text) : Option Category :=
  keywords.lookup lexeme

/-- Characters that operators are made of. -/
def isOperatorChar (c : Char) : Bool :=
  "+-*/%<>=!&|".toList.contains c

/-- Characters that are tokens of their own. -/
def isSeparator (c : Char) : Bool :=
  "{}();,".toList.contains c

/-- Characters that no other kind of lexeme can hold; a run of them is one lexeme. -/
def isForeign (c : Char) : Bool :=
  !(Text.isSpace c || Text.isWord c || isOperatorChar c || isSeparator c || Text.isQuote c)

/-- The category of one or two operator characters. -/
def operatorCategory (lexeme : Text) : Category :=
  if (["==", "!=", "<", ">", "<=", ">="].map String.toList).contains lexeme then .relationalOperator
  else if (["+", "-", "*", "/", "%"].map String.toList).contains lexeme then .arithmeticOperator
  else if lexeme == ['='] then .assignmentOperator
  else if lexeme == ['&', '&'] || lexeme == ['|', '|'] then .logicalOperator
  else .operator

/-- One or two operator characters. -/
def isOperatorCluster (lexeme : Text) : Bool :=
  lexeme.all isOperatorChar && (lexeme.length == 1 || lexeme.length == 2)

/-- A single character of the line between single quotes. -/
def isCharLiteral : Text → Bool
  | [opening, c, closing] =>
    opening == Text.singleQuote && closing == Text.singleQuote && c != Text.singleQuote && c != '\n'
  | _ => false

/-- Characters of the line other than a double quote, between double quotes. -/
def isStringLiteral : Text → Bool
  | opening :: rest =>
    opening == Text.doubleQuote && rest.getLast? == some Text.doubleQuote &&
      rest.dropLast.all fun c => c != Text.doubleQuote && c != '\n'
  | [] => false

/-- A name written in ASCII. -/
def isIdentifier : Text → Bool
  | c :: rest => Text.isNameStart c && rest.all Text.isNameChar
  | [] => false

/-- Classifies a lexeme, the first matching kind deciding. -/
def categorize (lexeme : Text) : Category :=
  match keyword? lexeme with
  | some category => category
  | none =>
    if isOperatorCluster lexeme then operatorCategory lexeme
    else if Text.isNumber lexeme then .number
    else if isCharLiteral lexeme then .charLiteral
    else if isStringLiteral lexeme then .stringLiteral
    else if isIdentifier lexeme then .identifier
    else match lexeme with
      | [c] => if isSeparator c then .separator else .unknown
      | _ => .unknown

/-- The line of a report that shows a token. -/
def text (token : Token) : String :=
  "[" ++ token.category.label ++ "]: " ++ String.ofList token.lexeme ++
    " (Line " ++ toString token.line ++ ")"

end Token

end SourceLint
