import SourceLint.Text.Basic

/-!
Reading the arguments of the command.

Long options may be shortened as long as one option is left that they can mean. After two dashes
everything is an operand.
-/

namespace SourceLint.Command

/-- What an option asks for. -/
inductive Flag where
  | help
  | tokens
  | symbols
  | json
  | requireMain
  | warningsAsErrors
  | minimal
  | verbose
  | version
deriving DecidableEq

/-- The spellings of the options. -/
def spellings : List (Text × Flag) :=
  [("-h", .help), ("--help", .help), ("--tokens", .tokens), ("--symbols", .symbols),
   ("--json", .json), ("--require-main", .requireMain),
   ("--warnings-as-errors", .warningsAsErrors), ("--minimal", .minimal), ("-v", .verbose),
   ("--verbose", .verbose), ("--version", .version)].map fun (spelling, flag) =>
    (spelling.toList, flag)

/-- The option with exactly the given spelling. -/
def flag? (spelling : Text) : Option Flag :=
  spellings.lookup spelling

/-- An argument as it is understood. -/
inductive Argument where
  | operand (text : Text)
  /-- One or more options, several when short ones share a dash. -/
  | flags (flags : List Flag)
  /-- An option with a value, which none takes. -/
  | refused
  /-- Something that looks like an option and is none. -/
  | unknown
  /-- A shortened option that can mean several. -/
  | ambiguous
deriving DecidableEq

/-- The flags of letters that follow a short option, if all of them are short options. -/
def shortFlags? (letters : Text) : Option (List Flag) :=
  letters.mapM fun letter => flag? ['-', letter]

/-- A short option with something behind it: more short options, or a value that none takes. -/
def shortGroup (first : Flag) (letters : Text) : Argument :=
  if letters.isEmpty then .refused
  else
    match shortFlags? letters with
    | some flags => .flags (first :: flags)
    | none => .refused

/-- Whether an argument is a negative number. A line break may follow it. -/
def isNegativeNumber (argument : Text) : Bool :=
  match Text.after? ['-'] argument with
  | some text =>
    let text := if Text.endsWith '\n' text then text.dropLast else text
    let isWhole := !text.isEmpty && text.all Text.isDecimal
    let isFraction :=
      (Text.after? ['.'] (text.dropWhile Text.isDecimal)).any fun digits =>
        !digits.isEmpty && digits.all Text.isDecimal
    isWhole || isFraction
  | none => false

/-- An argument with two dashes that spells no option out. -/
def classifyLong (argument : Text) : Argument :=
  let front := argument.takeWhile (· != '=')
  match spellings.filter fun (spelling, _) => Text.startsWith front spelling with
  | [] => if argument.contains ' ' then .operand argument else .unknown
  | [(_, flag)] => if argument.contains '=' then .refused else .flags [flag]
  | _ => .ambiguous

/-- An argument with one dash that spells no option out. -/
def classifyShort (argument : Text) : Argument :=
  match flag? (argument.take 2) with
  | some flag => shortGroup flag (argument.drop 2)
  | none =>
    if isNegativeNumber argument || argument.contains ' ' then .operand argument else .unknown

/-- An option with an equals sign behind its full spelling. -/
def classifyAssigned? (argument : Text) : Option Argument :=
  match Text.cutWhere (· == '=') argument with
  | (_, []) => none
  | (spelling, values) =>
    (flag? spelling).map fun flag =>
      if spelling.length == 2 then shortGroup flag (Text.join ['='] values) else .refused

/-- Understands one argument in front of any two dashes. -/
def classify (argument : Text) : Argument :=
  match argument with
  | '-' :: second :: _ =>
    match flag? argument with
    | some flag => .flags [flag]
    | none =>
      (classifyAssigned? argument).getD
        (if second == '-' then classifyLong argument else classifyShort argument)
  | _ => .operand argument

/-- Arguments up to two dashes that stand alone, and the operands after them, if there are any. -/
def classifyAll : List Text → List Argument × Option (List Text)
  | [] => ([], none)
  | argument :: others =>
    if argument == ['-', '-'] then ([], some others)
    else
      let (arguments, operands) := classifyAll others
      (classify argument :: arguments, operands)

/-- What the command is asked to do. -/
structure Invocation where
  input : Text
  flags : List Flag
deriving DecidableEq

/-- Whether an invocation has an option. -/
def Invocation.has (invocation : Invocation) (flag : Flag) : Bool :=
  invocation.flags.contains flag

/-- What the arguments ask for. -/
inductive Request where
  | run (invocation : Invocation)
  | showVersion
  | showHelp
  /-- The arguments make no sense. -/
  | misuse
deriving DecidableEq

/-- What has been read of the arguments. -/
structure Reading where
  input : Option Text := none
  flags : List Flag := []
  /-- Whether there is an argument that fits nowhere. -/
  surplus : Bool := false
  /-- Whether the last argument was the input. -/
  afterInput : Bool := false

/-- Takes an operand: the first one is the input, and there is room for no other. -/
def Reading.operand (reading : Reading) (text : Text) : Reading :=
  match reading.input with
  | none => { reading with input := some text, afterInput := true }
  | some _ => { reading with surplus := true, afterInput := false }

/-- Takes options, unless one of them already answers the request. -/
def Reading.takeFlags (reading : Reading) : List Flag → Except Request Reading
  | [] => .ok { reading with afterInput := false }
  | .version :: _ => .error .showVersion
  | .help :: _ => .error .showHelp
  | flag :: others => Reading.takeFlags { reading with flags := reading.flags ++ [flag] } others

/-- Takes one argument. -/
def Reading.take (reading : Reading) : Argument → Except Request Reading
  | .operand text => .ok (reading.operand text)
  | .flags flags => reading.takeFlags flags
  | .unknown => .ok { reading with surplus := true, afterInput := false }
  | .refused | .ambiguous => .error .misuse

/-- Takes two dashes that stand alone and the operands after them. They have to touch the input. -/
def Reading.takeOperands (reading : Reading) (operands : List Text) : Reading :=
  let touches := reading.afterInput || (reading.input.isNone && !operands.isEmpty)
  operands.foldl Reading.operand { reading with surplus := reading.surplus || !touches }

/-- The request when everything has been read. -/
def Reading.request (reading : Reading) : Request :=
  match reading.input with
  | some input => if reading.surplus then .misuse else .run ⟨input, reading.flags⟩
  | none => .misuse

/-- Understands the arguments. A doubtful one spoils the request before any option is looked at. -/
def parse (arguments : List Text) : Request :=
  let (known, operands) := classifyAll arguments
  if known.contains .ambiguous then .misuse
  else
    match known.foldlM Reading.take {} with
    | .error request => request
    | .ok reading =>
      match operands with
      | some operands => (reading.takeOperands operands).request
      | none => reading.request

end SourceLint.Command
