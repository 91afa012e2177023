import KernelBridge.Cpp.Name
import KernelBridge.Signature.Basic
import KernelBridge.Signature.Error

/-!
# Valid signatures

A signature can be wrapped only if its names can stand in C++ source and its arguments
have types that the wrapper can pass on. The arguments are looked at in order and the
first fault decides; that there is at most one user context is checked last.

## Main definitions

* `Signature.validate` — the first fault of one signature
* `SignatureSet.validate` — the first fault of a set of them
-/

namespace KernelBridge

/-- The namespaces and the simple name of a kernel's qualified name. -/
def qualifiedName (name : String) : Except GenerationError Cpp.QualifiedName :=
  (Cpp.QualifiedName.parse name).mapError fun bad => .signature name (.notIdentifier bad)

/-- The fault of one argument, given the identifiers of those before it. -/
def Argument.check (seen : List String) (argument : Argument) : Except SignatureFault Unit :=
  if argument.name.isEmpty then .error .emptyArgumentName
  else if seen.contains (Cpp.identifier argument.name) then
    .error (.duplicateArgument argument.name)
  else if argument.isContext then
    if argument.isBuffer || argument.type != .handle then
      .error (.contextNotHandle argument.name)
    else .ok ()
  else if argument.isBuffer && argument.type == .handle then
    .error (.handleElements argument.name)
  else .ok ()

/-- The first fault of the arguments, given the identifiers of those before them. -/
def checkArguments : (seen : List String) → List Argument → Except SignatureFault Unit
  | _, [] => .ok ()
  | seen, argument :: rest => do
    argument.check seen
    checkArguments (Cpp.identifier argument.name :: seen) rest

/-- The first fault of a signature. -/
def Signature.validate (signature : Signature) : Except GenerationError Unit := do
  if signature.name.isEmpty then throw (.schema .emptyFunctionName)
  let _ ← qualifiedName signature.name
  (checkArguments [] signature.arguments).mapError (.signature signature.name)
  if 1 < (signature.arguments.filter Argument.isContext).length then
    throw (.signature signature.name .severalContexts)

/-- The first fault of the signatures, given the names of those before them. -/
def checkFunctions : (seen : List String) → List Signature → Except GenerationError Unit
  | _, [] => .ok ()
  | seen, signature :: rest => do
    signature.validate
    if seen.contains signature.name then throw (.schema (.declaredTwice signature.name))
    checkFunctions (signature.name :: seen) rest

/-- The first fault of a set of signatures. -/
def SignatureSet.validate (set : SignatureSet) : Except GenerationError Unit :=
  if set.version ≠ schemaVersion then .error (.schema (.unsupportedVersion set.version))
  else checkFunctions [] set.functions

end KernelBridge
