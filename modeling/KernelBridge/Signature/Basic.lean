import KernelBridge.ScalarType

/-!
# Kernel signatures

The kernel compiler hands over the arguments of every kernel it exports. Buffers become
tensors of the host framework, scalars are passed by value, and one argument may be the
user context, which the wrapper fills in itself.

## Main definitions

* `Argument` — one argument of a kernel
* `Argument.isContext` — the argument is the user context
* `Signature` — a kernel's qualified name and its arguments
* `SignatureSet` — the signatures of one document
-/

namespace KernelBridge

/-- How an argument is passed. -/
inductive ArgumentKind where
  | scalar
  | buffer
  deriving DecidableEq, Repr

def ArgumentKind.name : ArgumentKind → String
  | scalar => "scalar"
  | buffer => "buffer"

/-- The kinds by their names. -/
def ArgumentKind.named : List (String × ArgumentKind) :=
  [scalar, buffer].map fun kind => (kind.name, kind)

/-- The name that the kernel compiler gives the user context. -/
def contextName : String := "__user_context"

/-- One argument of a kernel. The type is that of the elements for a buffer. -/
structure Argument where
  name : String
  kind : ArgumentKind
  type : ScalarType
  dimensions : Option UInt32 := none
  /-- The argument is marked as the user context. -/
  marked : Bool := false
  deriving DecidableEq, Repr

namespace Argument

/-- A scalar argument. -/
def scalar (name : String) (type : ScalarType) : Argument := { name, kind := .scalar, type }

/-- A buffer argument. -/
def buffer (name : String) (type : ScalarType) (dimensions : UInt32) : Argument :=
  { name, kind := .buffer, type, dimensions := some dimensions }

/-- The user context as the kernel compiler writes it. -/
def context : Argument := { scalar contextName .handle with marked := true }

/-- The argument is a buffer. -/
def isBuffer (argument : Argument) : Bool := argument.kind == .buffer

/-- The argument is the user context: it is marked, or has the reserved name. -/
def isContext (argument : Argument) : Bool := argument.marked || argument.name == contextName

end Argument

/-- A kernel: its qualified name and its arguments in order. -/
structure Signature where
  name : String
  arguments : List Argument
  deriving DecidableEq, Repr

namespace Signature

/-- The first user context among the arguments. -/
def context? (signature : Signature) : Option Argument :=
  signature.arguments.find? Argument.isContext

/-- The buffers among the arguments. -/
def buffers (signature : Signature) : List Argument :=
  signature.arguments.filter Argument.isBuffer

/-- The arguments that a caller of the wrapper passes. -/
def publicArguments (signature : Signature) : List Argument :=
  signature.arguments.filter fun argument => !argument.isContext

end Signature

/-- The version of signature documents. -/
def schemaVersion : String := "1.0"

/-- The signatures of one document. -/
structure SignatureSet where
  version : String := schemaVersion
  functions : List Signature
  deriving DecidableEq, Repr

end KernelBridge
