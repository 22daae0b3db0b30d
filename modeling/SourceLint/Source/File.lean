import SourceLint.Fault
import SourceLint.Source.Utf8

/-! Source files: why one cannot be read, and a folder that holds at most one of them. -/

namespace SourceLint.Source

/-- Why a file cannot be read. -/
inductive FileFault where
  | notFound
  | notDirectory
  | isDirectory
  /-- A name of the path, or the path itself, is longer than the system allows. -/
  | nameTooLong
  /-- A path cannot hold the null character. -/
  | nullInPath
  /-- The system gave a reason of its own. -/
  | system (reason : String)
  /-- The bytes of the file are not UTF-8. -/
  | undecodable (fault : Utf8Fault)
deriving DecidableEq

/-- The text of a fault of the system, with the path it concerns. -/
def systemReason (number : Nat) (reason : String) (path : Text) : String :=
  "[Errno " ++ toString number ++ "] " ++ reason ++ ": " ++ String.ofList (Text.quoted path)

/-- The reason for a fault with a path. -/
def FileFault.reason (path : Text) : FileFault → String
  | notFound => systemReason 2 "No such file or directory" path
  | notDirectory => systemReason 20 "Not a directory" path
  | isDirectory => systemReason 21 "Is a directory" path
  | nameTooLong => systemReason 36 "File name too long" path
  | nullInPath => "embedded null byte"
  | system reason => reason
  | undecodable fault => fault.message

/-- Whether a fault is reported to the user. A path that no file can have is a fault of the call. -/
def FileFault.isReported : FileFault → Bool
  | nullInPath => false
  | _ => true

/-- The failure of a run that could not read the file with the given path. -/
def FileFault.fault (path : Text) (fileFault : FileFault) : Fault :=
  .unreadable (String.ofList path) (some (fileFault.reason path))

/-- The text of a file, with every line break as a line feed. -/
def ofBytes (bytes : List UInt8) : Except FileFault Text :=
  match decode bytes with
  | .ok text => .ok (normalizeBreaks text)
  | .error fault => .error (.undecodable fault)

/-- A folder with at most one file, in surroundings of which nothing is known. -/
structure Folder where
  /-- The name of the file and its bytes. -/
  file : Option (Text × List UInt8) := none

/-- Where a path has led so far. -/
inductive Folder.Place where
  | folder
  | outside
  | file (bytes : List UInt8)

/-- The number of bytes that a text takes in UTF-8. -/
def byteSize (text : Text) : Nat :=
  text.foldl (fun total c => total + c.utf8Size) 0

/-- The fault of a name that leads nowhere. -/
def missingName (name : Text) : FileFault :=
  if 255 < byteSize name then .nameTooLong else .notFound

/-- Goes on from a place by one name. Nothing lies below a file. -/
def Folder.step (folder : Folder) : Place → Text → Except FileFault Place
  | .file _, _ => .error .notDirectory
  | .folder, name =>
    if name.isEmpty || name == ['.'] then .ok .folder
    else if name == ['.', '.'] then .ok .outside
    else
      match folder.file with
      | some (fileName, bytes) =>
        if name = fileName then .ok (.file bytes) else .error (missingName name)
      | none => .error (missingName name)
  | .outside, name =>
    if name.isEmpty || name == ['.'] || name == ['.', '.'] then .ok .outside
    else .error (missingName name)

/-- The bytes of the file that a path leads to from the folder. -/
def Folder.read (folder : Folder) (path : Text) : Except FileFault (List UInt8) :=
  if path.contains (Char.ofNat 0) then .error .nullInPath
  else if path.isEmpty then .error .notFound
  else if 4095 < byteSize path then .error .nameTooLong
  else
    let names := Text.splitWhere (· == '/') path
    let start : Place := if path.head? == some '/' then .outside else .folder
    match names.foldlM folder.step start with
    | .ok (.file bytes) => .ok bytes
    | .ok _ => .error .isDirectory
    | .error fault => .error fault

/-- The text of the file that a path leads to from the folder. -/
def Folder.readText (folder : Folder) (path : Text) : Except FileFault Text :=
  (folder.read path).bind ofBytes

end SourceLint.Source
