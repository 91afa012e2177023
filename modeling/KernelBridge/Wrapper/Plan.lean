import KernelBridge.Cpp.TypeName
import KernelBridge.Signature.Validation
import KernelBridge.Wrapper.Names

/-!
# Wrapper plans

Before any source is written, each signature is turned into a plan: the namespaces and
the name of the wrapper, and for each argument the identifier that it has in the source.
All that can fail about one wrapper fails here.

## Main definitions

* `Parameter` — an argument with its identifier, and the texts made of it
* `Plan` — what is written for one kernel
* `Plan.ofSignature` — the plan of a signature on a backend
-/

namespace KernelBridge

/-- An argument of a kernel as the source names it. -/
structure Parameter where
  name : String
  kind : ArgumentKind
  type : ScalarType
  /-- The argument is the user context. -/
  isContext : Bool
  deriving DecidableEq, Repr

namespace Parameter

def ofArgument (argument : Argument) : Parameter :=
  ⟨Cpp.identifier argument.name, argument.kind, argument.type, argument.isContext⟩

def isBuffer (parameter : Parameter) : Bool := parameter.kind == .buffer

/-- The local that holds the view of a buffer. -/
def viewName (parameter : Parameter) : String := parameter.name ++ "_buffer"

/-- The parameter in the wrapper's header. -/
def wrapperText (parameter : Parameter) : String :=
  match parameter.kind with
  | .buffer => "at::Tensor &" ++ parameter.name
  | .scalar => parameter.type.cPrefix ++ parameter.name

/-- The parameter in the declaration of the kernel. -/
def kernelText (parameter : Parameter) : String :=
  if parameter.isContext then "void const *" ++ parameter.name
  else if parameter.isBuffer then "struct halide_buffer_t *" ++ parameter.name
  else parameter.wrapperText

/-- What the wrapper passes to the kernel for the parameter. -/
def callText (parameter : Parameter) : String :=
  if parameter.isContext then contextName
  else if parameter.isBuffer then parameter.viewName
  else parameter.name

end Parameter

/-- What is written for one kernel. -/
structure Plan where
  /-- The kernel's name as it was given. -/
  qualifiedName : String
  namespaces : List String
  simpleName : String
  /-- The kernel's parameters, in order. -/
  parameters : List Parameter
  deriving DecidableEq, Repr

namespace Plan

def wrapperName (plan : Plan) : String := plan.simpleName ++ "_th_"

/-- The parameters of the wrapper: all but the user context. -/
def publicParameters (plan : Plan) : List Parameter :=
  plan.parameters.filter fun parameter => !parameter.isContext

def buffers (plan : Plan) : List Parameter := plan.parameters.filter Parameter.isBuffer

def hasContext (plan : Plan) : Bool := plan.parameters.any Parameter.isContext

/-- The locals that every wrapper for the backend declares. -/
def fixedLocals (backend : Backend) : List String :=
  backend.reservedLocals ++ [statusLocal, contextName]

/-- The parameter hides something that the wrapper refers to. -/
def checkHidden (backend : Backend) (simpleName : String) (parameter : Parameter) :
    Except SignatureFault Unit :=
  if parameter.name = simpleName then .error (.hidesKernel parameter.name)
  else if parameter.name = cacheCleanup || backend.referencedNames.contains parameter.name then
    .error (.hidesReference parameter.name backend)
  else .ok ()

/-- The parameter has the name of a local. -/
def checkShadowed (backend : Backend) (parameter : Parameter) : Except SignatureFault Unit :=
  if (fixedLocals backend).contains parameter.name then
    .error (.shadowsLocal parameter.name backend)
  else .ok ()

/-- The views get names that nothing else has, given the names taken before. -/
def checkViews : (taken : List String) → (buffers : List Parameter) → Except SignatureFault Unit
  | _, [] => .ok ()
  | taken, buffer :: rest =>
    if taken.contains buffer.viewName then .error (.viewCollision buffer.viewName buffer.name)
    else checkViews (buffer.viewName :: taken) rest

/-- The first collision of names in the wrapper. -/
def checkCollisions (plan : Plan) (backend : Backend) : Except SignatureFault Unit := do
  plan.publicParameters.forM (checkHidden backend plan.simpleName)
  plan.publicParameters.forM (checkShadowed backend)
  checkViews (fixedLocals backend ++ plan.parameters.map Parameter.name) plan.buffers

/-- The plan of a signature on a backend, or the signature's first fault. -/
def ofSignature (backend : Backend) (signature : Signature) : Except GenerationError Plan := do
  signature.validate
  let name ← KernelBridge.qualifiedName signature.name
  let plan : Plan :=
    ⟨signature.name, name.namespaces, name.simple, signature.arguments.map Parameter.ofArgument⟩
  (plan.checkCollisions backend).mapError (.signature signature.name)
  return plan

end Plan

end KernelBridge
