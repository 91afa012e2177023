import KernelBridge.Wrapper.Plan

/-!
# Wrapper statements

The body of a wrapper is a list of statements of a few kinds, and each has one text.

## Main definitions

* `Placement` — whether a view is over host or device memory
* `LocalType`, `Expression` — the types and the values of the context setup
* `Condition` — what a wrapper asserts
* `Statement` — the statements
* `Statement.text` — the line of a statement
* `Statement.declares`, `Statement.refersTo` — the names that it brings into scope and looks up
-/

namespace KernelBridge

/-- Where the memory of a tensor lies for the kernel. -/
inductive Placement where
  | host
  | device
  deriving DecidableEq, Repr

/-- What builds a view over memory of that placement. -/
def Placement.constructor : Placement → String
  | host => "Halide::PyTorch::wrap"
  | device => "Halide::PyTorch::wrap_cuda"

/-- The expression of the view over a buffer's tensor. -/
def Placement.viewText (placement : Placement) (buffer : Parameter) : String :=
  placement.constructor ++ "<" ++ buffer.type.cName ++ ">(" ++ buffer.name ++ ")"

/-- The types of the locals and of the fields of the context setup. -/
inductive LocalType where
  | int
  | untypedPointer
  | cudaContext
  | cudaContextPointer
  | cudaResult
  | cudaStream
  | cudaStreamPointer
  | metalStreamPointer
  deriving DecidableEq, Repr

/-- The name of the type, without a pointer's star. -/
def LocalType.typeName : LocalType → String
  | int => "int"
  | untypedPointer => "void"
  | cudaContext | cudaContextPointer => "CUcontext"
  | cudaResult => "CUresult"
  | cudaStream | cudaStreamPointer => "cudaStream_t"
  | metalStreamPointer => "at::mps::MPSStream"

/-- The type as it stands before a name. -/
def LocalType.text (type : LocalType) : String :=
  type.typeName ++ match type with
    | untypedPointer | metalStreamPointer => "* "
    | cudaContextPointer | cudaStreamPointer => " *"
    | _ => " "

/-- The values that a wrapper gives to locals, to fields and to the cleanup. -/
inductive Expression where
  | nullPointer
  | zero
  | named (name : String)
  | addressOf (name : String)
  | untypedAddressOf (name : String)
  /-- The ordinal of the current CUDA device. -/
  | currentDevice
  /-- The status of the driver, which writes its current context into a local. -/
  | currentContext (target : String)
  /-- The current CUDA stream of the device whose ordinal a local holds. -/
  | currentStream (device : String)
  | currentMetalStream
  /-- The ordinal of the device of the stream that a local points to. -/
  | deviceIndex (stream : String)
  deriving DecidableEq, Repr

namespace Expression

def text : Expression → String
  | nullPointer => "nullptr"
  | zero => "0"
  | named name => name
  | addressOf name => "&" ++ name
  | untypedAddressOf name => "(void*) &" ++ name
  | currentDevice => "at::cuda::current_device()"
  | currentContext target => "cuCtxGetCurrent(&" ++ target ++ ")"
  | currentStream device => "at::cuda::getCurrentCUDAStream(" ++ device ++ ")"
  | currentMetalStream => "at::mps::getCurrentMPSStream()"
  | deviceIndex stream => "static_cast<int>(" ++ stream ++ "->device_index())"

/-- The functions that an expression calls. A member function is looked up in its object and
not in the scope, so it is none of them. -/
def callees : Expression → List String
  | currentDevice => ["at::cuda::current_device"]
  | currentContext _ => ["cuCtxGetCurrent"]
  | currentStream _ => ["at::cuda::getCurrentCUDAStream"]
  | currentMetalStream => ["at::mps::getCurrentMPSStream"]
  | _ => []

end Expression

/-- What a wrapper asserts. -/
inductive Condition where
  /-- The driver gave a current context. -/
  | contextAcquired
  /-- The host framework gave a current stream. -/
  | streamAcquired
  /-- The kernel returned zero. -/
  | kernelSucceeded
  /-- The host's copy of the buffer is not newer than the device's. -/
  | deviceCurrent (buffer : Parameter)
  deriving DecidableEq, Repr

def Condition.expression : Condition → String
  | contextAcquired => "res == 0"
  | streamAcquired => "stream != nullptr"
  | kernelSucceeded => statusLocal ++ " == 0"
  | deviceCurrent buffer => "!" ++ buffer.viewName ++ ".host_dirty()"

def Condition.complaint : Condition → String
  | contextAcquired => "Could not acquire CUDA context"
  | streamAcquired => "Could not acquire MPS stream"
  | kernelSucceeded => "Halide call failed"
  | deviceCurrent buffer =>
    "device not synchronized for buffer " ++ buffer.name
      ++ ", make sure all update stages are explicitly computed on GPU."

/-- One statement of a wrapper, or a comment. -/
inductive Statement where
  | comment (text : String)
  /-- A local of the context setup, with its type and initial value. -/
  | declareLocal (type : LocalType) (name : String) (value : Expression)
  /-- The record that the context setup fills, by the types and names of its fields. -/
  | declareRecord (fields : List (LocalType × String))
  /-- A field of the record gets its value. -/
  | setField (field : String) (value : Expression)
  | assertThat (condition : Condition)
  | checkContiguous (buffer : Parameter)
  | checkDevice (buffer : Parameter)
  | declareView (placement : Placement) (buffer : Parameter)
  | callKernel (kernel : String) (parameters : List Parameter)
  | detach (buffer : Parameter)
  | flushCache (argument : Expression)
  | returnZero
  deriving DecidableEq, Repr

/-- The type of the record that a user context points to. -/
def contextRecord : String := "UserContext"

/-- The local that holds the record. -/
def contextLocal : String := "user_ctx"

namespace Statement

/-- The line of a statement. -/
def text : Statement → String
  | comment text => "// " ++ text
  | declareLocal type name value => type.text ++ name ++ " = " ++ value.text ++ ";"
  | declareRecord fields =>
    "struct " ++ contextRecord ++ " \x7b "
      ++ String.join (fields.map fun (type, name) => type.text ++ name ++ "; ")
      ++ "\x7d " ++ contextLocal ++ ";"
  | setField field value => contextLocal ++ "." ++ field ++ " = " ++ value.text ++ ";"
  | assertThat condition =>
    "AT_ASSERTM(" ++ condition.expression ++ ", \"" ++ condition.complaint ++ "\");"
  | checkContiguous buffer => "HLPT_CHECK_CONTIGUOUS(" ++ buffer.name ++ ");"
  | checkDevice buffer => "HLPT_CHECK_DEVICE(" ++ buffer.name ++ ", device_id);"
  | declareView placement buffer =>
    "Halide::Runtime::Buffer<" ++ buffer.type.cName ++ "> " ++ buffer.viewName ++ " = "
      ++ placement.viewText buffer ++ ";"
  | callKernel kernel parameters =>
    "int " ++ statusLocal ++ " = " ++ kernel ++ "("
      ++ ", ".intercalate (parameters.map Parameter.callText) ++ ");"
  | detach buffer => buffer.viewName ++ ".device_detach_native();"
  | flushCache argument => cacheCleanup ++ "(" ++ argument.text ++ ");"
  | returnZero => "return 0;"

/-- The names that a statement declares in the scope of the function. -/
def declares : Statement → List String
  | declareLocal _ name _ => [name]
  | declareRecord _ => [contextRecord, contextLocal]
  | declareView _ buffer => [buffer.viewName]
  | callKernel _ _ => [statusLocal]
  | _ => []

/-- The functions and types that a statement names: a local with one of these names would
hide what is meant. -/
def refersTo : Statement → List String
  | declareLocal type _ value => type.typeName :: value.callees
  | declareRecord fields => contextRecord :: fields.map fun (type, _) => type.typeName
  | setField _ value => value.callees
  | callKernel kernel _ => [kernel]
  | flushCache argument => cacheCleanup :: argument.callees
  | _ => []

end Statement

end KernelBridge
