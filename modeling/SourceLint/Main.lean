import SourceLint.Command

/-! The command on a real system: it reads arguments, environment and files, and prints. -/

namespace SourceLint.Command

/-- The environment variables that the command looks at. -/
def readEnvironment : IO Environment := do
  let names := ["CPPSCAN_REQUIRE_MAIN", "CPPSCAN_WARNINGS_AS_ERRORS", "CPPSCAN_MINIMAL_UI"]
  let values ← names.mapM fun name => do return (name, ← IO.getEnv name)
  return fun name => (values.lookup name).join

/-- The fault that a failure of the system stands for. Its number comes with either sign. -/
def fileFaultOf : IO.Error → Source.FileFault
  | .noFileOrDirectory .. => .notFound
  | .inappropriateType _ code _ => if min code (0 - code) == 20 then .notDirectory else .isDirectory
  | error => .system (toString error)

/-- Reads the source of an invocation. -/
def readSource (invocation : Invocation) : IO (Except Source.FileFault Text) := do
  try
    let bytes ←
      if invocation.readsStandardInput then (← IO.getStdin).readBinToEnd
      else IO.FS.readBinFile (String.ofList invocation.input)
    return Source.ofBytes bytes.toList
  catch error =>
    return .error (fileFaultOf error)

/-- The response to arguments on a real system. -/
def runReal (arguments : List Text) : IO (Except Source.FileFault Response) := do
  let environment ← readEnvironment
  match parse arguments with
  | .run invocation => return invocation.answer environment (← readSource invocation)
  | _ => return run environment [] {} arguments

end SourceLint.Command

/-- Runs the command, prints its output and ends with its status. -/
def main (arguments : List String) : IO UInt32 := do
  match ← SourceLint.Command.runReal (arguments.map String.toList) with
  | .ok response =>
    IO.print response.output
    return response.status.toUInt32
  | .error fault =>
    IO.eprintln (fault.reason [])
    return 1
