import KernelBridge.Bridge.Dispatch
import KernelBridge.Tensor.View

/-!
# Invocations

A program can call a kernel without a generated wrapper. The invocation does what the
wrapper does, in the same order: it lends the host's device state to the kernel through a
user context, checks every tensor, wraps it in a view, calls the kernel, and checks what the
kernel left behind.

## Main definitions

* `HostDevice` — the device state of the host framework for one call
* `Kernel` — a kernel with a report of what it did
* `Invocation` — a kernel's name, the device, the tensors, and whether the cache is emptied
* `Invocation.checkPreconditions` — the first tensor that keeps the kernel from being called
* `Invocation.run`, `Invocation.runOrPanic` — the call
-/

namespace KernelBridge

open Bridge (Session UserContext HostStream)

/-- The device state of the host framework for one call. -/
inductive HostDevice where
  | cpu
  | cuda (deviceId : Int32) (context stream : Handle)
  | metal (index : Int32) (stream : Option HostStream)
  deriving DecidableEq, Repr

namespace HostDevice

def backend : HostDevice → Backend
  | cpu => .cpu
  | cuda _ _ _ => .cuda
  | metal _ _ => .metal

/-- The user context that lends the state to a kernel; the host has none. Without a stream a
Metal runtime would use a device and a queue of its own, so that is an error. -/
def userContext : HostDevice → Except Bridge.Error (Option UserContext)
  | cpu => .ok none
  | cuda deviceId context stream => .ok (some (.cuda deviceId (some context) (some stream)))
  | metal _ none => .error .nullStream
  | metal index (some stream) => .ok (some (.metal index (some stream)))

end HostDevice

/-- What a kernel returns: its status, the views as it left them, and a report. -/
structure KernelReturn (Report : Type) where
  status : Int32
  views : List BufferView
  report : Report

/-- A kernel. It gets one view for each tensor and the user context. -/
abbrev Kernel (Report : Type) :=
  List BufferView → Option UserContext → Session (KernelReturn Report)

/-- How a call ended. -/
structure Outcome (Report : Type) where
  result : Except Bridge.Error Int32
  /-- The report of the kernel, if it ran. -/
  report : Option Report := none
  /-- The views at the end of the call. -/
  views : List BufferView := []

/-- One call of a kernel. -/
structure Invocation where
  kernel : String
  device : HostDevice
  /-- The tensors with the names of their buffers, in the kernel's order. -/
  tensors : List (String × Tensor) := []
  /-- Empty the memoization cache after the kernel. -/
  flushCache : Bool := false
  deriving DecidableEq, Repr

/-- The checks of what a kernel left on a device: the host's copy of no buffer may be newer,
and each allocation goes back to the host framework. They stop at the first buffer that
fails. -/
def settle : List BufferView → Except Bridge.Error Unit × List BufferView
  | [] => (.ok (), [])
  | view :: rest =>
    if view.hostDirty then (.error (.hostDirty view.name), view :: rest)
    else
      let (result, settled) := settle rest
      (result, view.detach :: settled)

namespace Invocation

def backend (invocation : Invocation) : Backend := invocation.device.backend

/-- All tensors pass a test, or the fault of the first that does not. -/
def checkTensors (test : Tensor → Bool) (fault : String → Tensor → Bridge.Error)
    (tensors : List (String × Tensor)) : Except Bridge.Error Unit :=
  tensors.forM fun tensor =>
    if test tensor.2 then .ok () else .error (fault tensor.1 tensor.2)

/-- All tensors are contiguous, or the first that is not. -/
def checkContiguous : List (String × Tensor) → Except Bridge.Error Unit :=
  checkTensors Tensor.isContiguous fun name _ => .nonContiguous name

/-- All tensors are on that CUDA device, or the first that is not. -/
def checkResident (deviceId : Int32) : List (String × Tensor) → Except Bridge.Error Unit :=
  checkTensors (·.device = .cuda deviceId) fun name tensor =>
    .wrongDevice name deviceId tensor.device

/-- The checks of the tensors: contiguity of all of them first, then, on CUDA, that they are
on the device of the call. -/
def checkPreconditions (invocation : Invocation) : Except Bridge.Error Unit := do
  checkContiguous invocation.tensors
  match invocation.device with
  | .cuda deviceId _ _ => checkResident deviceId invocation.tensors
  | _ => .ok ()

/-- The view over a tensor: on CUDA its storage is on the device, else the host can address
it. -/
def wrap (backend : Backend) (name : String) (tensor : Tensor) : BufferView :=
  match backend with
  | .cuda => .wrapDevice name tensor .cuda
  | _ => .wrapHost name tensor

/-- The views over all tensors, in order. -/
def views (invocation : Invocation) : List BufferView :=
  invocation.tensors.map fun (name, tensor) => wrap invocation.backend name tensor

/-- The checks after a kernel: its status, then on CUDA what it left on the device. -/
def checkKernel (invocation : Invocation) (status : Int32) (views : List BufferView) :
    Except Bridge.Error Unit × List BufferView :=
  if status ≠ 0 then (.error (.kernelFailed invocation.kernel status), views)
  else if invocation.backend = .cuda then settle views
  else (.ok (), views)

/-- Empties the memoization cache, if that is asked for. That nobody can do it is reported. -/
def flush (invocation : Invocation) (user : Option UserContext) : Session Unit := do
  if invocation.flushCache then
    let flushed ← Bridge.flushCache user
    if !flushed then Bridge.report (.flushUnanswered invocation.kernel)

/-- The kernel is called, and everything after it is done. -/
def callKernel (invocation : Invocation) (user : Option UserContext) (kernel : Kernel α) :
    Session (Outcome α) := do
  Bridge.report (.kernelInvoked invocation.kernel invocation.backend invocation.views.length)
  let returned ← kernel invocation.views user
  let (checked, views) := invocation.checkKernel returned.status returned.views
  match checked with
  | .error error => return { result := .error error, report := some returned.report, views }
  | .ok () =>
    invocation.flush user
    Bridge.report (.invocationRecorded invocation.kernel invocation.backend views.length)
    return { result := .ok 0, report := some returned.report, views }

/-- The checks, and the kernel if they all pass. -/
def call (invocation : Invocation) (user : Option UserContext) (kernel : Kernel α) :
    Session (Outcome α) := do
  match invocation.checkPreconditions with
  | .error error => return { result := .error error }
  | .ok () =>
    if (← Bridge.registry).isInstalled invocation.backend then invocation.callKernel user kernel
    else return { result := .error (.hooksNotInstalled invocation.backend) }

/-- The name of the timed section around a call. -/
def sectionName : String := "invoke_kernel"

/-- What is told about the section around a call. -/
def sectionDetails (invocation : Invocation) : List (String × Tracing.FieldValue) :=
  [("kernel", .text invocation.kernel), ("backend", .text invocation.backend.name)]

/-- Calls the kernel. `elapsed` is how long the call lasts. -/
def run (invocation : Invocation) (elapsed : UInt64) (kernel : Kernel α) :
    Session (Outcome α) := do
  match invocation.device.userContext with
  | .error error => return { result := .error error }
  | .ok user =>
    Bridge.reportAll (Tracing.opening sectionName invocation.sectionDetails)
    let outcome ← invocation.call user kernel
    Bridge.reportAll
      (Tracing.Section.closing { name := sectionName } (← get).performance elapsed)
    return outcome

/-- How a call ends that treats every error as fatal. -/
structure Verdict (Report : Type) where
  /-- The status, or the words with which the program ends. -/
  result : Except String Int32
  report : Option Report

/-- Calls the kernel and treats every error as fatal. -/
def runOrPanic (invocation : Invocation) (elapsed : UInt64) (kernel : Kernel α) :
    Session (Verdict α) := do
  let outcome ← invocation.run elapsed kernel
  match outcome.result with
  | .ok status => return ⟨.ok status, outcome.report⟩
  | .error error =>
    Bridge.report (.callFailed invocation.kernel invocation.backend error.message)
    return ⟨.error (invocation.kernel ++ ": " ++ error.message), outcome.report⟩

end Invocation

end KernelBridge
