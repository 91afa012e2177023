import KernelBridge.FileFault
import KernelBridge.Json.Reader
import KernelBridge.Target.Basic

/-!
# Generation errors

Everything that can keep wrappers from being generated, with one text for each cause.

## Main definitions

* `SignatureFault` — what is wrong with one signature
* `SchemaFault` — what is wrong with a set of signatures
* `GenerationError` — these, and the faults of documents, files and targets
-/

namespace KernelBridge

/-- What is wrong with one kernel's signature. -/
inductive SignatureFault where
  /-- A segment of the kernel's qualified name is no identifier. -/
  | notIdentifier (segment : String)
  | emptyArgumentName
  | duplicateArgument (name : String)
  | contextNotHandle (name : String)
  | handleElements (buffer : String)
  | severalContexts
  /-- A parameter has the kernel's own name. -/
  | hidesKernel (argument : String)
  /-- A parameter has the name of something that the wrapper refers to. -/
  | hidesReference (argument : String) (backend : Backend)
  /-- A parameter has the name of a local of the wrapper. -/
  | shadowsLocal (argument : String) (backend : Backend)
  /-- A buffer's view has a name that is taken. -/
  | viewCollision (view buffer : String)
  deriving DecidableEq, Repr

def SignatureFault.message : SignatureFault → String
  | notIdentifier segment => "`" ++ segment ++ "` is not a valid C++ identifier"
  | emptyArgumentName => "argument with empty name"
  | duplicateArgument name => "duplicate argument `" ++ name ++ "`"
  | contextNotHandle name => "user-context argument `" ++ name ++ "` must be a handle scalar"
  | handleElements buffer => "buffer `" ++ buffer ++ "` cannot have handle elements"
  | severalContexts => "more than one user-context argument"
  | hidesKernel argument => "argument `" ++ argument ++ "` hides the kernel it is passed to"
  | hidesReference argument backend =>
    "argument `" ++ argument ++ "` hides a name the " ++ backend.name ++ " wrapper calls"
  | shadowsLocal argument backend =>
    "argument `" ++ argument ++ "` shadows a local of the " ++ backend.name ++ " wrapper"
  | viewCollision view buffer =>
    "`" ++ view ++ "` collides with the view of buffer `" ++ buffer ++ "`"

/-- What is wrong with a set of signatures. -/
inductive SchemaFault where
  | unsupportedVersion (version : String)
  | emptyFunctionName
  | declaredTwice (function : String)
  deriving DecidableEq, Repr

def SchemaFault.message : SchemaFault → String
  | unsupportedVersion version => "Unsupported schema version: " ++ version
  | emptyFunctionName => "function name cannot be empty"
  | declaredTwice function => "function `" ++ function ++ "` is declared twice"

/-- Why no wrappers are generated. -/
inductive GenerationError where
  | document (error : Json.ReadError)
  | file (fault : FileFault)
  | target (error : TargetError)
  | schema (fault : SchemaFault)
  | signature (function : String) (fault : SignatureFault)
  /-- A CUDA target without the feature that lets the wrapper pass a context. -/
  | missingContextFeature (target : Target)
  /-- A kernel without a user context, on a backend that needs one. -/
  | missingContextArgument (function : String) (backend : Backend)
  deriving DecidableEq, Repr

def GenerationError.message : GenerationError → String
  | document error => "JSON parsing error: " ++ error.message
  | file fault => "I/O error: " ++ fault.message
  | target error => error.message
  | schema fault => "Invalid signature set: " ++ fault.message
  | signature function fault =>
    "Invalid signature for `" ++ function ++ "`: " ++ fault.message
  | missingContextFeature requested =>
    "compiling a wrapper for a CUDA kernel requires the user_context target feature to manage "
      ++ "GPU memory; add \"-user_context\" to the target (got \"" ++ requested.text ++ "\")"
  | missingContextArgument function backend =>
    "`" ++ function ++ "` has no user-context parameter, which the " ++ backend.name
      ++ " bridge needs"

end KernelBridge
