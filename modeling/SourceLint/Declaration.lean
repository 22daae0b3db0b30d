import SourceLint.Finding
import SourceLint.Statement
import SourceLint.Value
import SourceLint.Vocabulary

/-! Reading declarations and assignments, and entering them into a symbol table. -/

namespace SourceLint

/-- One variable of a declaration. -/
structure Item where
  name : Text
  /-- The text right of its equals sign, if it has one. -/
  value : Option Text
deriving DecidableEq

/-- A statement that declares variables of one type. -/
structure Declaration where
  type : DataType
  items : List Item
deriving DecidableEq

/-- A statement that gives a variable a new value. -/
structure Assignment where
  name : Text
  operator : Text
  value : Text
deriving DecidableEq

/-- The content of a text between white space. White space alone stands for its last character. -/
def contentOf? (text : Text) : Option Text :=
  match Text.skipSpace text with
  | [] => text.getLast?.map fun c => [c]
  | content => some (Text.trimRight content)

namespace Declaration

/-- The text after words with white space between them. -/
def afterWords? : List Text → Text → Option Text
  | [], text => some text
  | [word], text => Text.after? word text
  | word :: words, text => (Text.afterSpaced? word text).bind (afterWords? words)

/-- The declared variables, as one text, when the statement starts with the given type. -/
def variablesOf? (type : DataType) (text : Text) : Option Text :=
  match afterWords? type.words text with
  | some (c :: rest) => if Text.isSpace c then contentOf? rest else none
  | _ => none

/-- One variable with its value, split at the first equals sign outside brackets and literals. -/
def itemOf (part : Text) : Item :=
  match Text.cutTop (· == '=') part with
  | (name, []) => ⟨Text.trim name, none⟩
  | (name, values) => ⟨Text.trim name, some (Text.trim (Text.join ['='] values))⟩

/-- The type and variables at the front of a statement, the first type that fits deciding. -/
def split? (statement : Text) : Option (DataType × Text) :=
  let text := Vocabulary.skipQualifiers (Text.skipSpace statement)
  DataType.all.findSome? fun type => (variablesOf? type text).map fun declared => (type, declared)

/-- Reads a declaration. A type followed by a call is the signature of a function instead. -/
def parse? (statement : Text) : Option Declaration :=
  (split? statement).bind fun (type, declared) =>
    if Text.startsWithCall declared then none
    else some ⟨type, (Text.splitTop (· == ',') declared).map itemOf⟩

/-- The type of a statement that consists of a type and nothing else. -/
def nameless? (statement : Text) : Option DataType :=
  let text := Vocabulary.skipQualifiers (Text.skipSpace statement)
  DataType.all.find? fun type => (afterWords? type.words text).any Text.isBlank

/-- What is wrong with a declared name. A final line break is not held against it. -/
def nameFault? (name : Text) : Option Finding :=
  if Vocabulary.isReserved name then some (.reservedName name)
  else
    match name with
    | c :: rest =>
      if !Text.isNameStart c then some (.badNameStart name)
      else
        let tail := rest.dropWhile Text.isNameChar
        if tail.isEmpty || tail == ['\n'] then none else some (.badNameCharacters name)
    | [] => some (.badNameStart name)

/-- The distinct names that a line declares, in order. -/
def namesOn (line : Text) : List Text :=
  Text.distinct <| (Statement.effective line true).flatMap fun statement =>
    match parse? statement with
    | some declaration => declaration.items.map Item.name
    | none => []

end Declaration

namespace Assignment

/-- The operators that assign, longer ones first. -/
def operators : List Text :=
  ["<<=", ">>=", "+=", "-=", "*=", "/=", "%=", "&=", "^=", "|=", "="].map String.toList

/-- The operator at the front of a text and what follows. An equality test is no operator. -/
def operator? (text : Text) : Option (Text × Text) :=
  operators.findSome? fun operator =>
    (Text.after? operator text).bind fun rest =>
      if operator == ['='] && rest.head? == some '=' then none else some (operator, rest)

/-- Reads an assignment. -/
def parse? (statement : Text) : Option Assignment :=
  (Text.name? (Text.skipSpace statement)).bind fun (name, rest) =>
    (operator? (Text.skipSpace rest)).bind fun (operator, rest) =>
      (contentOf? rest).map fun value => ⟨name, operator, value⟩

/-- Whether the variable is read before it is written. -/
def isCompound (assignment : Assignment) : Bool :=
  assignment.operator != ['=']

/-- The distinct names that a line assigns to, in order. -/
def targetsOn (line : Text) : List Text :=
  Text.distinct <| (Statement.effective line true).filterMap fun statement =>
    (parse? statement).map Assignment.name

end Assignment

/-- How declarations and assignments are entered into a table. -/
structure Registration where
  /-- Whether a name that is declared twice in one scope is reported. -/
  reportRedeclarations : Bool := false
  /-- The line that new variables get. -/
  line : Int

namespace Registration

/-- Enters one variable of a declaration. -/
def declare (registration : Registration) (type : DataType) (several : Bool) (table : SymbolTable)
    (item : Item) : SymbolTable × List Finding :=
  match Declaration.nameFault? item.name with
  | some fault => (table, [fault])
  | none =>
    -- A value that is missing altogether is found by a check of its own.
    if item.value == some [] then (table, [])
    else if (table.lookupCurrent item.name).isSome then
      (table, if registration.reportRedeclarations then [.alreadyDeclared item.name] else [])
    else
      let fits := item.value.all fun value => Value.isValid (.known type) value table
      let fault : Finding :=
        if several then .badInitializerOf item.name type else .badInitializer type
      (table.declare ⟨item.name, .known type, item.value.isSome, registration.line⟩,
        if fits then [] else [fault])

/-- Enters an assignment. The variable counts as set before its new value is looked at. -/
def assign (assignment : Assignment) (table : SymbolTable) : SymbolTable × List Finding :=
  match table.lookup assignment.name with
  | none => (table, [.assignedUndeclared assignment.name])
  | some symbol =>
    let table := table.markInitialized assignment.name
    let unset :=
      if assignment.isCompound && !symbol.initialized then
        [.assignedUninitialized assignment.name assignment.operator]
      else []
    let unfit :=
      if Value.isValid symbol.type assignment.value table then [] else [.badValue symbol.type]
    (table, unset ++ unfit)

/-- Enters one statement. -/
def enter (registration : Registration) (table : SymbolTable) (statement : Text) :
    SymbolTable × List Finding :=
  match Declaration.nameless? statement with
  | some type => (table, [.namelessDeclaration type])
  | none =>
    match Declaration.parse? statement with
    | some declaration =>
      table.runAll (registration.declare declaration.type (1 < declaration.items.length))
        declaration.items
    | none =>
      match Assignment.parse? statement with
      | some assignment => assign assignment table
      | none => (table, [])

/-- Enters every finished statement of a line, in order. -/
def enterLine (registration : Registration) (table : SymbolTable) (line : Text) :
    SymbolTable × List Finding :=
  table.runAll registration.enter (Statement.effective line false)

end Registration

end SourceLint
