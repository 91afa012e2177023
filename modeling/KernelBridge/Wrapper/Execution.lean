import KernelBridge.Invocation
import KernelBridge.Wrapper.Source

/-!
# Execution of wrappers

The statements of a wrapper are executed one after the other, each by what it says: names
stand for values, a check that fails ends the call, and the kernel and the cleanup are called
on the way. A statement that makes no sense where it stands, like one that looks up a name
that nobody has declared, gets stuck.

## Main definitions

* `Value`, `Frame` — what names stand for during a call
* `Failure`, `Ending` — which check failed, and how a call of a wrapper ends
* `Frame.advance` — what a statement does that stays within the wrapper
* `EntryPoint` — a kernel as a wrapper sees it
* `execute` — the execution of some statements
* `WrapperCall` — one call of a wrapper
-/

namespace KernelBridge

open Bridge (State Session UserContext)

/-! ### Values -/

/-- What a name in a wrapper stands for. -/
inductive Value where
  | null
  | number (value : Int32)
  /-- An argument that is passed by value. -/
  | scalar (bits : UInt64)
  | tensor (tensor : Tensor)
  | handle (handle : Handle)
  | metalStream (stream : Option Bridge.HostStream)
  | address (name : String)
  | recordType
  | record
  | view (view : BufferView)
  deriving DecidableEq, Repr

namespace Value

def number? : Value → Option Int32
  | number found => some found
  | _ => none

def tensor? : Value → Option Tensor
  | tensor found => some found
  | _ => none

def metalStream? : Value → Option (Option Bridge.HostStream)
  | metalStream found => some found
  | _ => none

def handle? : Value → Option Handle
  | handle found => some found
  | _ => none

def view? : Value → Option BufferView
  | view found => some found
  | _ => none

end Value

/-- The value as the type holds it. Zero is the null context. -/
def LocalType.hold : LocalType → Value → Option Value
  | int, .number value | cudaResult, .number value => some (.number value)
  | untypedPointer, .null => some .null
  | untypedPointer, .address name | cudaContextPointer, .address name
  | cudaStreamPointer, .address name => some (.address name)
  | cudaContext, .number value => if value = 0 then some (.handle .null) else none
  | cudaStream, .handle handle => some (.handle handle)
  | metalStreamPointer, .metalStream stream => some (.metalStream stream)
  | _, _ => none

/-- The view that a constructor makes over a tensor. -/
def Placement.wrap : Placement → String → Tensor → BufferView
  | host, name, tensor => .wrapHost name tensor
  | device, name, tensor => .wrapDevice name tensor .cuda

/-! ### Frames -/

/-- What surrounds the calls of a wrapper. -/
structure Host where
  /-- The state that the host framework tells about. -/
  device : HostDevice
  /-- The status with which the CUDA driver tells its current context. -/
  driverStatus : Int32 := 0
  /-- The cleanup that a wrapper calls by its name. -/
  cleanup : Bridge.Cleanup

/-- A field of the record that the context setup fills. -/
structure Field where
  type : LocalType
  name : String
  value : Option Value := none
  deriving DecidableEq, Repr

/-- What has been declared so far during a call. -/
structure Frame (Report : Type) where
  /-- The names in scope with their values, in the order in which they were declared. -/
  locals : List (String × Value)
  /-- The fields of the record. -/
  fields : List Field := []
  /-- The report of the kernel, once it has run. -/
  report : Option Report := none

/-- The check of a wrapper that failed. -/
inductive Failure where
  | assertion (condition : Condition)
  | notContiguous (buffer : Parameter)
  | onOtherDevice (buffer : Parameter)
  deriving DecidableEq, Repr

/-- How a call of a wrapper ends. -/
structure Ending (Report : Type) where
  /-- What the wrapper returns, or the check that failed. -/
  result : Except Failure Int32
  report : Option Report
  /-- The views that have been declared, as they are at the end. -/
  views : List BufferView

/-- What becomes of a frame. -/
inductive Progress (Report : Type) where
  | next (frame : Frame Report)
  | ended (ending : Ending Report)
  | stuck

namespace Progress

variable {Report : Type}

/-- The execution goes on with a frame, if there is one. -/
def ofOption : Option (Frame Report) → Progress Report
  | some frame => .next frame
  | none => .stuck

/-- Goes on if nothing has ended. -/
def bind : Progress Report → (Frame Report → Progress Report) → Progress Report
  | next frame, continuation => continuation frame
  | ended ending, _ => .ended ending
  | stuck, _ => .stuck

end Progress

namespace Frame

variable {Report : Type}

/-- The names in scope. -/
def names (frame : Frame Report) : List String := frame.locals.map Prod.fst

def lookup (frame : Frame Report) (name : String) : Option Value := frame.locals.lookup name

/-- The frame with one more name, which has to be new. -/
def declare (frame : Frame Report) (name : String) (value : Value) : Option (Frame Report) :=
  if name ∈ frame.names then none
  else some { frame with locals := frame.locals ++ [(name, value)] }

/-- The frame with another value for a name. -/
def assign (frame : Frame Report) (name : String) (value : Value) : Frame Report :=
  { frame with
    locals := frame.locals.map fun (other, old) => (other, if other = name then value else old) }

/-- The frame with a value in a field of the record, which has to have that field. -/
def setField (frame : Frame Report) (name : String) (value : Value) : Option (Frame Report) :=
  ((frame.fields.find? fun field => field.name = name).bind (·.type.hold value)).map fun held =>
    { frame with
      fields := frame.fields.map fun field =>
        if field.name = name then { field with value := some held } else field }

/-- The views in scope, in the order in which they were declared. -/
def views (frame : Frame Report) : List BufferView :=
  frame.locals.filterMap fun (_, value) => value.view?

/-- The end of the call, with what is in the frame. -/
def ending (frame : Frame Report) (result : Except Failure Int32) : Ending Report :=
  ⟨result, frame.report, frame.views⟩

/-- The record as a kernel runtime reads it: by the types and the order of its fields, whatever
their names are. -/
def userContext (frame : Frame Report) : Option UserContext :=
  match frame.fields with
  | [⟨.int, _, some (.number device)⟩, ⟨.cudaContextPointer, _, some (.address context)⟩,
      ⟨.cudaStreamPointer, _, some (.address stream)⟩] =>
    ((frame.lookup context).bind Value.handle?).bind fun context =>
      ((frame.lookup stream).bind Value.handle?).map fun stream =>
        .cuda device (some context) (some stream)
  | [⟨.int, _, some (.number device)⟩, ⟨.metalStreamPointer, _, some (.metalStream stream)⟩] =>
    some (.metal device stream)
  | _ => none

/-- The user context behind a pointer: none behind the null pointer. -/
def pointee (frame : Frame Report) : Value → Option (Option UserContext)
  | .null => some none
  | .address name =>
    if frame.lookup name = some .record then frame.userContext.map some else none
  | _ => none

/-- The value of an expression. -/
def eval (frame : Frame Report) (host : Host) : Expression → Option Value
  | .nullPointer => some .null
  | .zero => some (.number 0)
  | .named name => frame.lookup name
  | .addressOf name | .untypedAddressOf name =>
    if name ∈ frame.names then some (.address name) else none
  | .currentDevice =>
    match host.device with
    | .cuda deviceId _ _ => some (.number deviceId)
    | _ => none
  | .currentContext target =>
    match host.device with
    | .cuda _ _ _ => if target ∈ frame.names then some (.number host.driverStatus) else none
    | _ => none
  | .currentStream device =>
    match host.device, (frame.lookup device).bind Value.number? with
    | .cuda deviceId _ stream, some ordinal =>
      if ordinal = deviceId then some (.handle stream) else none
    | _, _ => none
  | .currentMetalStream =>
    match host.device with
    | .metal _ stream => some (.metalStream stream)
    | _ => none
  | .deviceIndex stream =>
    match host.device, (frame.lookup stream).bind Value.metalStream? with
    | .metal index _, some (some _) => some (.number index)
    | _, _ => none

/-- The frame after an expression has been evaluated: the driver writes its current context
into a local, unless it fails. -/
def written (frame : Frame Report) (host : Host) : Expression → Frame Report
  | .currentContext target =>
    match host.device with
    | .cuda _ context _ =>
      if host.driverStatus = 0 then frame.assign target (.handle context) else frame
    | _ => frame
  | _ => frame

/-- Whether a condition holds. -/
def decides (frame : Frame Report) : Condition → Option Bool
  | .contextAcquired => ((frame.lookup "res").bind Value.number?).map (· == 0)
  | .streamAcquired => ((frame.lookup "stream").bind Value.metalStream?).map Option.isSome
  | .kernelSucceeded => ((frame.lookup statusLocal).bind Value.number?).map (· == 0)
  | .deviceCurrent buffer =>
    ((frame.lookup buffer.viewName).bind Value.view?).map fun view => !view.hostDirty

/-- A check: it lets the call go on, or ends it. -/
def check (frame : Frame Report) (failure : Failure) : Option Bool → Progress Report
  | some true => .next frame
  | some false => .ended (frame.ending (.error failure))
  | none => .stuck

/-- What a statement does that stays within the wrapper. -/
def advance (frame : Frame Report) (host : Host) : Statement → Progress Report
  | .comment _ => .next frame
  | .declareLocal type name value =>
    .ofOption (((frame.eval host value).bind type.hold).bind
      ((frame.written host value).declare name))
  | .declareRecord fields =>
    .ofOption (((frame.declare contextRecord .recordType).bind
      (·.declare contextLocal .record)).map fun frame =>
        { frame with fields := fields.map fun (type, name) => { type, name } })
  | .setField field value =>
    .ofOption ((frame.eval host value).bind ((frame.written host value).setField field))
  | .assertThat condition => frame.check (.assertion condition) (frame.decides condition)
  | .checkContiguous buffer =>
    frame.check (.notContiguous buffer)
      (((frame.lookup buffer.name).bind Value.tensor?).map Tensor.isContiguous)
  | .checkDevice buffer =>
    frame.check (.onOtherDevice buffer)
      (((frame.lookup buffer.name).bind Value.tensor?).bind fun tensor =>
        ((frame.lookup "device_id").bind Value.number?).map fun ordinal =>
          tensor.device = .cuda ordinal)
  | .declareView placement buffer =>
    .ofOption (((frame.lookup buffer.name).bind Value.tensor?).bind fun tensor =>
      frame.declare buffer.viewName (.view (placement.wrap buffer.name tensor)))
  | .detach buffer =>
    .ofOption (((frame.lookup buffer.viewName).bind Value.view?).map fun view =>
      frame.assign buffer.viewName (.view view.detach))
  | .returnZero => .ended (frame.ending (.ok 0))
  | .callKernel _ _ | .flushCache _ => .stuck

/-- What some statements do that stay within the wrapper. -/
def advanceAll (host : Host) (frame : Frame Report) : List Statement → Progress Report
  | [] => .next frame
  | statement :: rest => (frame.advance host statement).bind fun frame => frame.advanceAll host rest

end Frame

/-! ### Calls out of a wrapper -/

/-- What a kernel gets for one of its parameters. -/
inductive Passed where
  | context (user : Option UserContext)
  | view (view : BufferView)
  | scalar (bits : UInt64)
  deriving DecidableEq, Repr

def Passed.view? : Passed → Option BufferView
  | view found => some found
  | _ => none

namespace Bridge

/-- The state without what was reported. -/
def State.silent (state : State) : State := { state with log := [] }

section Silent

variable (state : State)

@[simp] theorem State.silent_logged (events : List Tracing.Event) :
    (state.logged events).silent = state.silent := rfl

@[simp] theorem State.silent_called (call : Call) :
    (state.called call).silent = state.silent.called call := rfl

end Silent

/-- Two results that are related, from states that differ in what was reported at most. -/
inductive SameButLog {α β : Type} (related : α → β → Prop) :
    EStateM.Result Aborted State α → EStateM.Result Aborted State β → Prop where
  | ok {a : α} {b : β} {left right : State} (h : related a b)
      (same : left.silent = right.silent) : SameButLog related (.ok a left) (.ok b right)
  | error {cause : Aborted} {left right : State} (same : left.silent = right.silent) :
      SameButLog related (.error cause left) (.error cause right)

end Bridge

/-- A kernel as a wrapper sees it: one argument for each of its parameters. It changes views
in place, leaves the registry alone, and does not read what was reported. -/
structure EntryPoint (Report : Type) where
  call : List Passed → Session (KernelReturn Report)
  keepsViews : ∀ {arguments start returned left}, call arguments start = .ok returned left →
    returned.views.map BufferView.name =
      (arguments.filterMap Passed.view?).map BufferView.name
  keepsRegistry : ∀ {arguments start returned left}, call arguments start = .ok returned left →
    left.registry = start.registry
  ignoresLog : ∀ arguments start events,
    Bridge.SameButLog Eq (call arguments start) (call arguments (start.logged events))

namespace Frame

variable {Report : Type}

/-- The value of a name as it is passed to a kernel. -/
def pass (frame : Frame Report) (name : String) : Option Passed :=
  (frame.lookup name).bind fun
    | .view view => some (.view view)
    | .scalar bits => some (.scalar bits)
    | value => (frame.pointee value).map .context

/-- The frame after a kernel has changed the views under some names. -/
def assignViews (frame : Frame Report) (views : List (String × BufferView)) : Frame Report :=
  views.foldl (fun frame (name, view) => frame.assign name (.view view)) frame

/-- The names under which views are passed. -/
def passedViews (frame : Frame Report) (names : List String) : List String :=
  names.filter fun name => ((frame.lookup name).bind Value.view?).isSome

/-- Calls the kernel with what the names of its arguments stand for, and declares its status. -/
def callKernel (frame : Frame Report) (entry : EntryPoint Report) (names : List String) :
    Session (Progress Report) := do
  match names.mapM frame.pass with
  | none => return .stuck
  | some arguments =>
    let returned ← entry.call arguments
    let left := frame.assignViews ((frame.passedViews names).zip returned.views)
    return .ofOption
      ({ left with report := some returned.report }.declare statusLocal (.number returned.status))

/-- Calls the cleanup. -/
def flushCache (frame : Frame Report) (host : Host) (argument : Expression) :
    Session (Progress Report) := do
  let left := frame.written host argument
  match (frame.eval host argument).bind left.pointee with
  | none => return .stuck
  | some user =>
    Bridge.callForeign host.cleanup.label user
    return .next left

/-- Executes a statement. The two calls out of a wrapper go by their roles and not by names: a call
of the kernel calls the entry point, even if the kernel is named like the cleanup, and the cleanup
is the one of the host. Which declaration a compiler finds under a name is left to
`Plan.hidesKernel_iff_of_accepted`. -/
def step (frame : Frame Report) (host : Host) (entry : EntryPoint Report) :
    Statement → Session (Progress Report)
  | .callKernel _ parameters => frame.callKernel entry (parameters.map Parameter.callText)
  | .flushCache argument => frame.flushCache host argument
  | statement => return frame.advance host statement

/-- Executes some statements up to the first that ends the call. There is no ending if the
execution gets stuck, or if no statement ends it. -/
def execute (host : Host) (entry : EntryPoint Report) (frame : Frame Report) :
    List Statement → Session (Option (Ending Report))
  | [] => return none
  | statement :: rest => do
    match ← frame.step host entry statement with
    | .next frame => frame.execute host entry rest
    | .ended ending => return some ending
    | .stuck => return none

end Frame

/-! ### Calls of a wrapper -/

/-- The statement in a line. -/
def SourceLine.statement? : SourceLine → Option Statement
  | statement inner => some inner
  | _ => none

/-- The statements in the lines of a wrapper. -/
def Plan.statements (plan : Plan) (backend : Backend) (flushCache : Bool) : List Statement :=
  (Layout.contents (plan.wrapper backend flushCache)).filterMap SourceLine.statement?

/-- One call of a wrapper: what surrounds it, and what it is called with. -/
structure WrapperCall where
  plan : Plan
  flushCache : Bool
  host : Host
  tensors : Parameter → Tensor
  scalars : Parameter → UInt64

namespace WrapperCall

variable {Report : Type}

def backend (call : WrapperCall) : Backend := call.host.device.backend

/-- What the wrapper is called with for a parameter. -/
def argument (call : WrapperCall) (parameter : Parameter) : Value :=
  if parameter.isBuffer then .tensor (call.tensors parameter) else .scalar (call.scalars parameter)

/-- The parameters of the wrapper with what it is called with. -/
def arguments (call : WrapperCall) : List (String × Value) :=
  call.plan.publicParameters.map fun parameter => (parameter.name, call.argument parameter)

/-- Executes the wrapper. -/
def execute (call : WrapperCall) (entry : EntryPoint Report) : Session (Option (Ending Report)) :=
  Frame.execute call.host entry { locals := call.arguments }
    (call.plan.statements call.backend call.flushCache)

/-- The same call without the wrapper. -/
def invocation (call : WrapperCall) : Invocation where
  kernel := call.plan.qualifiedName
  device := call.host.device
  tensors := call.plan.buffers.map fun buffer => (buffer.name, call.tensors buffer)
  flushCache := call.flushCache

/-- What a kernel gets for its parameters, given the views of its buffers. -/
def passed (call : WrapperCall) (user : Option UserContext) :
    List Parameter → List BufferView → List Passed
  | [], _ => []
  | parameter :: rest, views =>
    if parameter.isContext then .context user :: call.passed user rest views
    else if parameter.isBuffer then
      views.head?.toList.map .view ++ call.passed user rest views.tail
    else .scalar (call.scalars parameter) :: call.passed user rest views

/-- The kernel of the call as a program sees it that calls it without a wrapper: it hands the
scalars on and puts everything into the kernel's order. -/
def kernel (call : WrapperCall) (entry : EntryPoint Report) : Kernel Report :=
  fun views user => entry.call (call.passed user call.plan.parameters views)

end WrapperCall

end KernelBridge
