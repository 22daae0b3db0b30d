import SourceLint.Finding

/-! Failures that end a run, and how they are told. -/

namespace SourceLint

/-- A failure that ends a run. -/
inductive Fault where
  /-- A failure at a line of the source, with the text found there. Line zero stands for no line. -/
  | atLine (message : String) (line : Int) (context : String)
  /-- A block comment that starts on the given line never ends. -/
  | unclosedComment (start : Int)
  /-- A source file cannot be read, for the given reason. -/
  | unreadable (path : String) (reason : Option String)
deriving DecidableEq

namespace Fault

/-- What went wrong. -/
def message : Fault → String
  | atLine message _ _ => message
  | unclosedComment start => (Finding.unclosedComment start).message
  | unreadable path reason =>
    "Cannot read source file '" ++ path ++ "'" ++
      match reason with
      | some reason => if reason.isEmpty then "" else ": " ++ reason
      | none => ""

/-- The line that the failure is reported for. -/
def line : Fault → Int
  | atLine _ line _ => line
  | _ => 0

/-- The text shown below the message. -/
def context : Fault → String
  | atLine _ _ context => context
  | _ => ""

/-- The full text of a failure. Only one with a line shows its context. -/
def text (fault : Fault) : String :=
  if 0 < fault.line then
    "Error at line " ++ toString fault.line ++ ": " ++ fault.message ++
      if fault.context.isEmpty then "" else "\n  " ++ fault.context
  else
    "Error: " ++ fault.message

end Fault

end SourceLint
