import SourceLint.Diagnostic
import SourceLint.DataType

/-! Everything the checks can find in a source, with its severity and wording. -/

namespace SourceLint

/-- The branch headers whose shape is checked. -/
inductive Branch where
  | ifBranch
  | elseIfBranch
  | elseBranch
deriving DecidableEq

/-- The name of a branch in messages. -/
def Branch.label : Branch → String
  | ifBranch => "if"
  | elseIfBranch => "else-if"
  | elseBranch => "else"

/-- How a condition uses a name. -/
inductive Usage where
  /-- A member of it is accessed. -/
  | object
  | plain
deriving DecidableEq

/-- The name of a usage in messages. -/
def Usage.label : Usage → String
  | object => "object"
  | plain => "variable"

/-- Something that a check found. -/
inductive Finding where
  /-- A block comment is opened inside another one. -/
  | nestedComment
  /-- A block comment that starts on the given line never ends. -/
  | unclosedComment (start : Int)
  /-- One declaration mixes several type words. -/
  | mixedTypes (words : List Text)
  /-- A string variable stands left of an arithmetic operator and a number right of it. -/
  | stringWithNumber (operator : Char)
  /-- A number stands left of an arithmetic operator and a string variable right of it. -/
  | numberWithString (operator : Char)
  /-- An `else` follows no finished `if` branch. -/
  | danglingElse
  /-- A reserved word is not in lower case. -/
  | keywordCase (word canonical : Text)
  /-- A line lacks its closing semicolon. -/
  | missingSemicolon
  /-- Nothing stands right of an equals sign. -/
  | emptyInitializer
  /-- A name is used that stands for nothing. -/
  | undeclaredIdentifier (name : Text)
  /-- A declaration has a type and nothing else. -/
  | namelessDeclaration (type : DataType)
  /-- A reserved word is declared as a variable. -/
  | reservedName (name : Text)
  /-- A declared name does not start like a name. -/
  | badNameStart (name : Text)
  /-- A declared name goes on unlike a name. -/
  | badNameCharacters (name : Text)
  /-- A name is declared again in its scope. -/
  | alreadyDeclared (name : Text)
  /-- The only variable of a declaration gets a value that does not fit its type. -/
  | badInitializer (type : DataType)
  /-- One of several variables of a declaration gets a value that does not fit its type. -/
  | badInitializerOf (name : Text) (type : DataType)
  /-- A name is assigned to that stands for nothing. -/
  | assignedUndeclared (name : Text)
  /-- A compound assignment reads a variable that has no value. -/
  | assignedUninitialized (name operator : Text)
  /-- A variable is assigned a value that does not fit its type. -/
  | badValue (type : VarType)
  /-- An assigned value holds another assignment. -/
  | nestedAssignment (value : Text)
  /-- Three step characters stand in a row. -/
  | tripleStep
  /-- An increment touches a decrement. -/
  | mixedStep
  /-- Four minus signs follow an equals sign. -/
  | minusChain
  /-- A dereference touches an address operator. -/
  | pointerPair
  /-- Two arithmetic operators touch. -/
  | doubledArithmetic
  /-- A name that stands for nothing is stepped. -/
  | steppedUndeclared (name : Text)
  /-- A variable without a value is stepped. -/
  | steppedUninitialized (name : Text)
  /-- A variable that is no number is stepped. -/
  | steppedNonNumeric (type : VarType)
  /-- A line starts with a step operator that has no variable. -/
  | stepWithoutVariable
  /-- A step operator without a variable ends a statement. -/
  | doubtfulStep
  /-- A statement ends right after a binary operator. -/
  | danglingOperator (operator : Char)
  /-- A character plays no role that it may have. -/
  | unexpectedCharacter (c : Char)
  /-- A punctuation character has no operand on either side. -/
  | strayPunctuation (c : Char)
  /-- A special character is repeated too often. -/
  | repeatedSpecial (run : Text)
  /-- The parenthesis of a condition never closes. -/
  | unclosedCondition (branch : Branch)
  /-- A condition is empty. -/
  | emptyCondition (branch : Branch)
  /-- A branch has neither a brace nor a single statement. -/
  | missingBrace (branch : Branch)
  /-- An `else` has a single statement on its own line. -/
  | singleLineElse
  /-- An `if` has no parenthesis. -/
  | ifWithoutParentheses
  /-- A condition reads a name that stands for nothing. -/
  | conditionUndeclared (usage : Usage) (name : Text)
  /-- A condition reads a variable that has no value. -/
  | conditionUninitialized (usage : Usage) (name : Text)
  /-- There is more than one main function. -/
  | severalMains
  /-- No brace follows the header of the main function. -/
  | mainWithoutOpening
  /-- The brace of the main function never closes. -/
  | mainWithoutClosing
  /-- Something like a main function has a malformed header. -/
  | malformedMain
  /-- The word for the main function stands alone. -/
  | mainNoFunction
  /-- There is no main function. -/
  | noMain
  /-- A variable never gets a value. -/
  | neverInitialized (name : Text)
  /-- A variable of the main function never gets a value. -/
  | neverInitializedInMain (name : Text)
deriving DecidableEq

namespace Finding

/-- How severe a finding is. -/
def level : Finding → Level
  | alreadyDeclared _ | nestedAssignment _ | mixedStep | minusChain | pointerPair | missingBrace _
  | singleLineElse | neverInitialized _ | neverInitializedInMain _ => .warning
  | _ => .error

/-- A text between single quotes. -/
def quoted (text : Text) : String :=
  "'" ++ String.ofList text ++ "'"

/-- What is said about a character that is out of place. -/
def unexpectedMessage (c : Char) : String :=
  match c with
  | ':' => "Unexpected colon detected. Check syntax."
  | '!' => "Unexpected '!' symbol in this context. Check syntax."
  | '#' => "Unexpected '#' symbol outside preprocessor directive. Check syntax."
  | c => "Unexpected " ++ quoted [c] ++ " symbol detected. This is not standard C++ syntax."

/-- The wording of a finding. -/
def message : Finding → String
  | nestedComment => "Error - Nested comments are not allowed in C++."
  | unclosedComment start =>
    "Unterminated multi-line comment starting at line " ++ toString start
  | mixedTypes words =>
    "Error - Multiple data types in single declaration: " ++
      String.ofList (Text.join [',', ' '] words)
  | stringWithNumber operator =>
    "Error - Invalid arithmetic operation: string " ++ operator.toString ++
      " numeric value is not allowed."
  | numberWithString operator =>
    "Error - Invalid arithmetic operation: numeric value " ++ operator.toString ++
      " string is not allowed."
  | danglingElse => "Error - 'else' without matching 'if'."
  | keywordCase word canonical =>
    "Incorrect keyword format -> " ++ quoted word ++ " should be " ++ quoted canonical
  | missingSemicolon => "Error - Missing semicolon."
  | emptyInitializer =>
    "Syntax error - empty initialization or assignment (missing right-hand side)."
  | undeclaredIdentifier name => "Identifier " ++ quoted name ++ " used without declaration."
  | namelessDeclaration type =>
    "Error - Declaration of " ++ quoted type.spelling ++ " without variable name."
  | reservedName name => "Cannot use reserved keyword " ++ quoted name ++ " as variable name."
  | badNameStart name =>
    "Variable name " ++ quoted name ++ " must begin with a letter or underscore."
  | badNameCharacters name =>
    "Variable name " ++ quoted name ++
      " contains invalid characters. Only letters, digits, and underscores are allowed."
  | alreadyDeclared name => "Variable " ++ quoted name ++ " is already declared."
  | badInitializer type =>
    "Invalid initialization value for type " ++ String.ofList type.spelling ++ "."
  | badInitializerOf name type =>
    "Invalid initialization value for variable " ++ quoted name ++ " of type " ++
      String.ofList type.spelling ++ "."
  | assignedUndeclared name => "Variable " ++ quoted name ++ " used before declaration."
  | assignedUninitialized name operator =>
    "Variable " ++ quoted name ++ " used in " ++ String.ofList operator ++
      " before initialization."
  | badValue type => "Invalid value for variable of type " ++ String.ofList type.spelling ++ "."
  | nestedAssignment value =>
    "Complex nested assignment detected. This may lead to confusion: " ++ String.ofList value
  | tripleStep => "Syntax error - invalid multiple increment/decrement operators."
  | mixedStep =>
    "Confusing operator sequence detected (++-- or --++). This may lead to unexpected behavior."
  | minusChain =>
    "Misleading sequence of unary minus operators. This could be parsed incorrectly."
  | pointerPair => "Potentially invalid operator combination (*& or &*)."
  | doubledArithmetic => "Invalid or confusing consecutive arithmetic operators detected."
  | steppedUndeclared name =>
    "Variable " ++ quoted name ++ " used with increment/decrement operator before declaration."
  | steppedUninitialized name =>
    "Variable " ++ quoted name ++ " used with increment/decrement operator before initialization."
  | steppedNonNumeric type =>
    "Increment/decrement operator used on non-numeric type " ++ quoted type.spelling ++ "."
  | stepWithoutVariable => "Increment/decrement operator missing a variable."
  | doubtfulStep => "Potentially invalid increment/decrement operation."
  | danglingOperator operator =>
    "Incomplete expression with dangling operator " ++ quoted [operator] ++ "."
  | unexpectedCharacter c => unexpectedMessage c
  | strayPunctuation c =>
    "Unexpected stray character " ++ quoted [c] ++ " detected. Check syntax."
  | repeatedSpecial run =>
    "Invalid sequence of special characters " ++ quoted run ++ " detected. Check syntax."
  | unclosedCondition branch =>
    "Syntax error - '" ++ branch.label ++ "' missing closing parenthesis."
  | emptyCondition branch => "Error - Empty condition in " ++ branch.label ++ " statement."
  | missingBrace branch =>
    "Warning - Missing opening brace in " ++ branch.label ++ " statement."
  | singleLineElse => "Single-line else statement detected without braces."
  | ifWithoutParentheses => "Syntax error - 'if' missing parentheses."
  | conditionUndeclared usage name =>
    "Condition uses undeclared " ++ usage.label ++ " " ++ quoted name ++ "."
  | conditionUninitialized usage name =>
    "Condition uses uninitialized " ++ usage.label ++ " " ++ quoted name ++ "."
  | severalMains =>
    "Multiple main functions detected. A C++ program can have only one main function."
  | mainWithoutOpening => "Missing opening brace '\x7b' for main function."
  | mainWithoutClosing => "Missing closing brace '\x7d' for main function."
  | malformedMain =>
    "Invalid main function syntax. Correct syntax is: int main() or " ++
      "int main(int argc, char* argv[])"
  | mainNoFunction =>
    "'main' keyword found but not properly declared as a function. " ++
      "Use: int main() \x7b ... \x7d"
  | noMain => "No main() function found."
  | neverInitialized name => "Variable " ++ quoted name ++ " is declared but never initialized."
  | neverInitializedInMain name =>
    "Warning - Variable " ++ quoted name ++ " is declared in main but never initialized."

/-- The message about a line in which something was found. -/
def onLine (finding : Finding) (line : Int) : Diagnostic :=
  ⟨finding.level, .line, some line, finding.message⟩

/-- The message about the whole program. -/
def inProgram (finding : Finding) : Diagnostic :=
  ⟨finding.level, .program, none, finding.message⟩

/-- The message about a line of the main function. -/
def inMain (finding : Finding) (line : Int) : Diagnostic :=
  ⟨finding.level, .main, some line, finding.message⟩

end Finding

end SourceLint
