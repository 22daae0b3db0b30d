import SourceLint.Vocabulary

/-! The settings of a run, by default or from environment variables. -/

namespace SourceLint

/-- The settings of a run. -/
structure Config where
  /-- Whether a program without a main function is an error. -/
  requireMain : Bool := false
  /-- Whether the body of the main function has a scope of its own. -/
  scopedMain : Bool := true
  /-- Whether a name that is declared twice in one scope is reported. -/
  reportRedeclarations : Bool := false
  /-- Whether a warning makes the run fail. -/
  warningsAsErrors : Bool := false
deriving DecidableEq

/-- The environment variables that a run can see. -/
abbrev Environment := String → Option String

namespace Config

/-- The values that switch a setting on. -/
def onWords : List Text :=
  ["1", "true", "yes", "on"].map String.toList

/-- Whether a value switches a setting on exactly as it is written, white space around it aside. -/
def isOn (value : String) : Bool :=
  onWords.contains (Text.trim value.toList)

/-- Whether a value switches a setting on in any mixture of cases. -/
def isOnAnyCase (value : String) : Bool :=
  onWords.contains ((Text.trim value.toList).map Vocabulary.lowerChar)

/-- The default settings as changed by environment variables. -/
def ofEnvironment (environment : Environment) : Config :=
  let flag := fun name default => ((environment name).map isOnAnyCase).getD default
  { requireMain := flag "CPPSCAN_REQUIRE_MAIN" false
    warningsAsErrors := flag "CPPSCAN_WARNINGS_AS_ERRORS" false }

end Config

end SourceLint
