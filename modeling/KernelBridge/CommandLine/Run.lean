import KernelBridge.CommandLine.Arguments
import KernelBridge.Signature.Document
import KernelBridge.Tracing.Config
import KernelBridge.Wrapper.Generator

/-!
# Runs of the generator

A run reads signatures, and either writes the source of their wrappers or, if it is only to
check them, says how many there are. A run that fails writes nothing.

## Main definitions

* `Source` — where the signatures come from
* `Deed` — the one thing that a successful run does
* `Arguments.deed` — that thing, or why there is none
* `Surroundings`, `Outcome`, `run` — a whole run of the program
-/

namespace KernelBridge.CommandLine

/-- Where signatures come from. -/
inductive Source where
  | standardInput
  | file (path : String)
  deriving DecidableEq, Repr

/-- The one thing that a successful run does. -/
inductive Deed where
  /-- Says that the signatures can be wrapped. -/
  | confirm (message : String)
  | print (source : String)
  | write (path source : String)
  deriving DecidableEq, Repr

namespace Arguments

/-- Where the signatures of the run come from. -/
def source (arguments : Arguments) : Source :=
  if arguments.signatures = "-" then .standardInput else .file arguments.signatures

/-- The target of the run, or why there is none. -/
def parseTarget (arguments : Arguments) : Except String Target :=
  (Target.parse arguments.target).mapError fun error =>
    "invalid target `" ++ arguments.target ++ "`: " ++ error.message

/-- The options of the run, given the variable that asks for emptying the cache. -/
def options (arguments : Arguments) (flushVariable : Option String) : GeneratorOptions where
  flushCache := arguments.flushCache || (GeneratorOptions.ofVariable flushVariable).flushCache
  declareKernels := arguments.declareKernels

/-- What was being done when reading the signatures failed. -/
def readingText (arguments : Arguments) : String :=
  match arguments.source with
  | .standardInput => "reading signatures from stdin"
  | .file path => "reading " ++ path

/-- The text of the signatures, or why there is none. -/
def signatureText (arguments : Arguments) (contents : Except FileFault ByteArray) :
    Except String String :=
  (contents.bind textOfBytes).mapError fun fault =>
    arguments.readingText ++ ": " ++ fault.message

/-- The signatures of a text, or why there are none. -/
def parseSignatures (text : String) : Except String SignatureSet :=
  (SignatureSet.parse text).mapError fun error =>
    "loading kernel signatures: " ++ error.message

/-- What a run says that only checks the signatures. -/
def confirmation (wrappers : Nat) (target : Target) : String :=
  "ok: " ++ toString wrappers ++ " wrapper(s) for " ++ target.text

/-- Where the source goes. -/
def place (arguments : Arguments) (source : String) : Deed :=
  match arguments.output with
  | some path => .write path source
  | none => .print source

/-- What the run does with the signatures, or why it does nothing. -/
def deedFor (arguments : Arguments) (generator : Generator) (set : SignatureSet) :
    Except String Deed :=
  let told {α : Type} (result : Except GenerationError α) : Except String α :=
    result.mapError GenerationError.message
  if arguments.checkOnly then do
    let plans ← told (generator.plan set.functions).result
    return .confirm (confirmation plans.length generator.target)
  else do
    return arguments.place (← told (generator.generate {} 0 set.functions).result)

/-- What the run does, or why it does nothing, for a target that was read. -/
def deed (arguments : Arguments) (target : Target) (flushVariable : Option String)
    (contents : Except FileFault ByteArray) : Except String Deed := do
  let set ← parseSignatures (← arguments.signatureText contents)
  arguments.deedFor ⟨target, arguments.options flushVariable⟩ set

end Arguments

/-- The words with which a run fails. -/
def failureText (reason : String) : String := "Error: " ++ reason ++ "\n"

/-- Why a file could not be written. -/
def writingFailure (path : String) (fault : FileFault) : String :=
  "writing " ++ path ++ ": " ++ fault.message

/-- The warning that nothing will be reported, if the environment asks for an invalid filter. -/
def tracingWarning (env : Environment) : String :=
  match ((Tracing.Config.ofEnvironment env).install env false {}).1 with
  | .ok () => ""
  | .error error => "warning: tracing disabled: " ++ error.message ++ "\n"

/-- Everything that a run sees. -/
structure Surroundings where
  environment : Environment
  standardInput : Except FileFault ByteArray
  fileContents : String → Except FileFault ByteArray
  /-- Why a file cannot be written, if it cannot. -/
  writeFault : String → Option FileFault
  /-- Why nothing can be printed, if nothing can. -/
  printFault : Option FileFault := none

/-- Everything that a run leaves. What it prints and the file that it writes are two channels of
the program's own: where the path of a file leads, which may be the standard output again, is
settled by the system around it, as in `Directory.run`. What is said to the standard errors always
gets there, so faults of that stream are left out. -/
structure Outcome where
  exitCode : Nat
  /-- What was printed to the standard output. -/
  output : String := ""
  /-- What was said to the standard errors, without the events that a subscriber writes there. -/
  errors : String := ""
  /-- The path that was written to, with its text. -/
  written : Option (String × String) := none
  deriving DecidableEq, Repr

/-- The bytes from a source. -/
def Surroundings.contents (surroundings : Surroundings) : Source → Except FileFault ByteArray
  | .standardInput => surroundings.standardInput
  | .file path => surroundings.fileContents path

/-- What is left when a deed is done. -/
def Surroundings.complete (surroundings : Surroundings) : Deed → Outcome
  | .confirm message => { exitCode := 0, errors := message ++ "\n" }
  | .print source =>
    match surroundings.printFault with
    | some fault => { exitCode := 1, errors := failureText fault.message }
    | none => { exitCode := 0, output := source }
  | .write path source =>
    match surroundings.writeFault path with
    | some fault => { exitCode := 1, errors := failureText (writingFailure path fault) }
    | none => { exitCode := 0, written := some (path, source) }

/-- What a run does, or why it does nothing. -/
def Surroundings.deed (surroundings : Surroundings) (arguments : Arguments) :
    Except String Deed := do
  let target ← arguments.parseTarget
  arguments.deed target (surroundings.environment GeneratorOptions.flushVariable)
    (surroundings.contents arguments.source)

/-- A run with its arguments. -/
def Surroundings.run (surroundings : Surroundings) (arguments : Arguments) : Outcome :=
  match surroundings.deed arguments with
  | .error reason => { exitCode := 1, errors := failureText reason }
  | .ok deed => surroundings.complete deed

/-- A run of the program. Arguments that make no sense end it at once. -/
def run (surroundings : Surroundings) (arguments : List String) : Outcome :=
  match Request.parse arguments with
  | .error _ => { exitCode := 2 }
  | .ok .help => { exitCode := 0, output := helpText }
  | .ok .version => { exitCode := 0, output := versionText }
  | .ok (.run arguments) =>
    let outcome := surroundings.run arguments
    { outcome with errors := tracingWarning surroundings.environment ++ outcome.errors }

end KernelBridge.CommandLine
