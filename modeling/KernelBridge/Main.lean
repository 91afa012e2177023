import KernelBridge.CommandLine.Run

/-!
# The program

The command line program reads the files and the environment that a run asks for and does
what the run decides. Nothing is decided here.

## Main definitions

* `main` — the program
-/

namespace KernelBridge.CommandLine

/-- The variables that a run looks at. -/
def consulted : List String := [
  GeneratorOptions.flushVariable,
  Tracing.Config.profileVariable,
  Tracing.Config.directivesVariable,
  Tracing.Config.formatVariable,
  Tracing.Config.performanceVariable,
  Tracing.Config.thresholdVariable,
  Tracing.Config.fallbackVariable]

/-- The environment of the process. -/
def processEnvironment : IO Environment := do
  let mut found := []
  for name in consulted do
    if let some value ← IO.getEnv name then found := (name, value) :: found
  return Environment.ofList found

/-- The fault behind an error of the system, whose number may be negated. -/
def faultOf : IO.Error → FileFault
  | .noFileOrDirectory _ _ _ => .notFound
  | .inappropriateType _ 20 _ | .inappropriateType _ 4294967276 _ => .notDirectory
  | .inappropriateType _ 21 _ | .inappropriateType _ 4294967275 _ => .isDirectory
  | .invalidArgument _ 36 _ | .invalidArgument _ 4294967260 _ => .nameTooLong
  | .noSuchThing _ 6 _ | .noSuchThing _ 4294967290 _ => .noDevice
  | .resourceExhausted _ 28 _ | .resourceExhausted _ 4294967268 _ => .noSpace
  | error => .other error.toString

/-- The bytes that are still to come from the standard input, after those read before. -/
partial def readAll (stream : IO.FS.Stream) (before : ByteArray) : IO ByteArray := do
  let chunk ← stream.read 65536
  if chunk.isEmpty then return before else readAll stream (before ++ chunk)

/-- The bytes from a source, or why there are none. -/
def readSource (source : Source) : IO (Except FileFault ByteArray) := do
  try
    match source with
    | .standardInput => return .ok (← readAll (← IO.getStdin) .empty)
    | .file path => return .ok (← IO.FS.readBinFile path)
  catch error => return .error (faultOf error)

/-- Does a deed, or tells why it could not be done. -/
def perform : Deed → IO (Except String Unit)
  | .confirm message => do
    IO.eprintln message
    return .ok ()
  | .print source => do
    try
      let stream ← IO.getStdout
      stream.putStr source
      stream.flush
      return .ok ()
    catch error => return .error (faultOf error).message
  | .write path source => do
    try
      IO.FS.withFile path .write fun handle => do
        handle.putStr source
        handle.flush
      return .ok ()
    catch error => return .error (writingFailure path (faultOf error))

/-- A run with its arguments. -/
def attempt (env : Environment) (arguments : Arguments) : IO (Except String Unit) := do
  match arguments.parseTarget with
  | .error reason => return .error reason
  | .ok target =>
    let contents ← readSource arguments.source
    match arguments.deed target (env GeneratorOptions.flushVariable) contents with
    | .error reason => return .error reason
    | .ok deed => perform deed

end KernelBridge.CommandLine

open KernelBridge.CommandLine

/-- The program. -/
def main (arguments : List String) : IO UInt32 := do
  match Request.parse arguments with
  | .error _ =>
    IO.eprint usageText
    return 2
  | .ok .help =>
    IO.print helpText
    return 0
  | .ok .version =>
    IO.print versionText
    return 0
  | .ok (.run arguments) =>
    let env ← processEnvironment
    IO.eprint (tracingWarning env)
    match ← attempt env arguments with
    | .ok () => return 0
    | .error reason =>
      IO.eprint (failureText reason)
      return 1
