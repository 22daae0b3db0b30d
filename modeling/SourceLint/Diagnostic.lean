import SourceLint.Text.Basic

/-! Messages about a source: how severe they are, where they arose and how they are written. -/

namespace SourceLint

/-- How severe a message is. -/
inductive Level where
  | error
  | warning
deriving DecidableEq

/-- What raised a message, which decides how its text begins. -/
inductive Origin where
  /-- A check of a single line. -/
  | line
  /-- A check of the whole program. -/
  | program
  /-- The tracking of variables in the body of the main function. -/
  | main
deriving DecidableEq

/-- One message about a source. -/
structure Diagnostic where
  level : Level
  origin : Origin
  /-- The line it is about, if it is about one. -/
  line : Option Int
  message : String
deriving DecidableEq

/-- The word for a level in structured output. -/
def Level.label : Level → String
  | .error => "error"
  | .warning => "warning"

/-- The word for a level at the front of a message. -/
def Level.title : Level → String
  | .error => "Error"
  | .warning => "Warning"

/-- The word for an origin in structured output. -/
def Origin.label : Origin → String
  | .line => "line"
  | .program => "program"
  | .main => "main"

/-- Escape sequences that colour a stretch of terminal text. -/
def Level.color : Level → String
  | .error => "\x1b[91m"
  | .warning => "\x1b[93m"

/-- Puts a text between a colour sequence and the one that ends it, unless colours are off. -/
def colorize (colors : Bool) (color text : String) : String :=
  if colors then color ++ text ++ "\x1b[0m" else text

namespace Diagnostic

/-- Whether the message is an error. -/
def isError (diagnostic : Diagnostic) : Bool :=
  diagnostic.level == .error

/-- The line number as it is written in a message. -/
def lineText (diagnostic : Diagnostic) : String :=
  match diagnostic.line with
  | some line => toString line
  | none => "None"

/-- The full text of a message. -/
def text (diagnostic : Diagnostic) : String :=
  match diagnostic.origin with
  | .line => "Line " ++ diagnostic.lineText ++ ": " ++ diagnostic.message
  | .main => "Main function line " ++ diagnostic.lineText ++ ": " ++ diagnostic.message
  | .program => diagnostic.level.title ++ ": " ++ diagnostic.message

/-- The full text in the colour of its level. -/
def coloredText (colors : Bool) (diagnostic : Diagnostic) : String :=
  colorize colors diagnostic.level.color diagnostic.text

end Diagnostic

end SourceLint
