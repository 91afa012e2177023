import KernelBridge.CommandLine.Run
import KernelBridge.CommandLine.FileSystem

/-!
# Directories

A run of the program reads and writes files relative to the directory that it was started
in. Here that directory holds files and no directories, and around it stands a system of which
only the parts are known that every system has. Standard streams have names there: a run that
reads the name of its input reads that input, and one that writes to the name of its output
prints.

## Main definitions

* `Directory` — the texts or bytes of files by their names
* `Directory.Place`, `Directory.resolve` — where a path leads
* `Directory.read`, `Directory.writeFault`, `Directory.settle` — what the system does with a path
* `Aftermath`, `Directory.run` — a run in a directory and everything that can be seen after it
-/

namespace KernelBridge.CommandLine

/-- The contents of files by their names. -/
abbrev Directory := List (String × ByteArray)

/-- Everything that can be seen after a run. -/
structure Aftermath where
  exitCode : Nat
  output : String
  errors : String
  directory : Directory

namespace Directory

/-- Where a path leads. -/
inductive Place where
  /-- The directory itself. -/
  | here
  /-- The directory so many levels above it, which is not the root. -/
  | above (levels : Nat)
  /-- A file of the directory that there is or may be. -/
  | file (name : String)
  /-- A path of the system from its root. -/
  | outside (path : List String)
  /-- A file elsewhere that there may be. -/
  | elsewhere
  deriving DecidableEq, Repr

/-- The directory of a run lies at most so many levels below the root, which is its own parent:
going up that often leads there. -/
def maxDepth : Nat := 4

/-- The directory around a directory. -/
def Place.parent : Place → Place
  | .here => .above 1
  | .above levels => if levels + 1 < maxDepth then .above (levels + 1) else .outside []
  | .outside path => .outside path.dropLast
  | place => place

/-- Where a path of the system leads. -/
def Place.ofPath (path : List String) : Place :=
  match FileSystem.entry? path with
  | some (.link target) => .outside target
  | some .workingDirectory => .here
  | _ => .outside path

/-- Where a name leads from a directory. -/
def Place.child (name : String) : Place → Place
  | .here => .file name
  | .outside path => .ofPath (path ++ [name])
  | _ => .elsewhere

/-- The contents of a file. -/
def find? (directory : Directory) (name : String) : Option ByteArray := directory.lookup name

/-- Why a path leads no further: it leads to a file, or to nothing. -/
def blockedAt (directory : Directory) : Place → Option FileFault
  | .file name => if (directory.find? name).isSome then some .notDirectory else some .notFound
  | .outside path =>
    match FileSystem.entry? path with
    | some (.device _) | some (.file _) => some .notDirectory
    | some _ => none
    | none => some .notFound
  | .elsewhere => some .notFound
  | .here | .above _ => none

/-- The greatest number of bytes of a name. -/
def maxName : Nat := 255

/-- The greatest number of bytes of a path. -/
def maxPath : Nat := 4095

/-- Where one part of a path leads. -/
def enter (directory : Directory) (place : Place) (part : String) : Except FileFault Place :=
  match directory.blockedAt place with
  | some fault => .error fault
  | none =>
    if part = "." then .ok place
    else if part = ".." then .ok place.parent
    else if maxName < part.utf8ByteSize then .error .nameTooLong
    else .ok (place.child part)

/-- The parts of a path. -/
def pathParts (path : String) : List String :=
  ((path.toList.splitOn '/').filter fun part => part != []).map String.ofList

/-- Where the parts of a path lead. -/
def walk (directory : Directory) (path : String) (parts : List String) : Except FileFault Place :=
  if path.isEmpty then .error .notFound
  else if maxPath < path.utf8ByteSize then .error .nameTooLong
  else parts.foldlM directory.enter (if path.toList.head? == some '/' then .outside [] else .here)

/-- Where a path leads. -/
def resolve (directory : Directory) (path : String) : Except FileFault Place :=
  directory.walk path (pathParts path)

/-- The path asks for a directory. -/
def asksForDirectory (path : String) : Bool := path.toList.getLast? == some '/'

/-- What a device gives to a run with a standard input. -/
def readDevice (input : Except FileFault ByteArray) : Device → Except FileFault ByteArray
  | .standardInput => input
  | .terminal => .error .noDevice
  | _ => .ok .empty

/-- The contents of the file at a place, for a run with a standard input. -/
def readPlace (directory : Directory) (input : Except FileFault ByteArray) :
    Place → Except FileFault ByteArray
  | .file name =>
    match directory.find? name with
    | some contents => .ok contents
    | none => .error .notFound
  | .outside path =>
    match FileSystem.entry? path with
    | some (.device device) => readDevice input device
    | some (.file contents) => .ok contents
    | some _ => .error .isDirectory
    | none => .error .notFound
  | .elsewhere => .error .notFound
  | .here | .above _ => .error .isDirectory

/-- The contents of the file that a path leads to, for a run with a standard input. -/
def read (directory : Directory) (input : Except FileFault ByteArray) (path : String) :
    Except FileFault ByteArray := do
  let place ← directory.resolve path
  if asksForDirectory path then .error ((directory.blockedAt place).getD .isDirectory)
  else directory.readPlace input place

/-- Why a device takes no text. -/
def deviceFault : Device → Option FileFault
  | .full => some .noSpace
  | .terminal => some .noDevice
  | _ => none

/-- Why nothing can be written at a place. -/
def placeFault : Place → Option FileFault
  | .file _ | .elsewhere => none
  | .outside path =>
    match FileSystem.entry? path with
    | some (.device device) => deviceFault device
    | some (.file _) => none
    | some _ => some .isDirectory
    | none => if FileSystem.accepts path then none else some .notFound
  | .here | .above _ => some .isDirectory

/-- Why nothing can be written to a path. No file can be made from a path that asks for a
directory, whatever its last part is. -/
def writeFault (directory : Directory) (path : String) : Option FileFault :=
  if asksForDirectory path then
    match directory.walk path (pathParts path).dropLast with
    | .ok place => some ((directory.blockedAt place).getD .isDirectory)
    | .error fault => some fault
  else
    match directory.resolve path with
    | .ok place => placeFault place
    | .error fault => some fault

/-- What a run in the directory sees. -/
def surroundings (directory : Directory) (environment : Environment)
    (input : Except FileFault ByteArray) : Surroundings where
  environment := environment
  standardInput := input
  fileContents := directory.read input
  writeFault := directory.writeFault

/-- Adds a text to where a path leads. -/
def add (path text : String) (aftermath : Aftermath) : Aftermath :=
  match aftermath.directory.resolve path with
  | .ok (.file name) =>
    { aftermath with directory := (name, text.toUTF8) :: aftermath.directory }
  | .ok (.outside path) =>
    match FileSystem.entry? path with
    | some (.device .standardOutput) => { aftermath with output := aftermath.output ++ text }
    | some (.device .standardErrors) => { aftermath with errors := aftermath.errors ++ text }
    | _ => aftermath
  | _ => aftermath

/-- What can be seen after a run in the directory with an outcome. -/
def settle (directory : Directory) (outcome : Outcome) : Aftermath :=
  let aftermath : Aftermath := ⟨outcome.exitCode, outcome.output, outcome.errors, directory⟩
  match outcome.written with
  | some (path, text) => add path text aftermath
  | none => aftermath

/-- A run of the program in the directory. -/
def run (directory : Directory) (environment : Environment)
    (input : Except FileFault ByteArray) (arguments : List String) : Aftermath :=
  directory.settle (CommandLine.run (directory.surroundings environment input) arguments)

end Directory

end KernelBridge.CommandLine
