import KernelBridge.Wrapper.Layout
import KernelBridge.Wrapper.Statement

/-!
# Wrapper bodies

The body of a wrapper does the same on every backend and in the same order: it sets up
the user context, checks every tensor, wraps every tensor in a view, calls the kernel,
checks its status and what it left behind, and returns zero. A backend fills in the
parts.

## Main definitions

* `Backend.contextSetup`, `Backend.residencyCheck`, `Backend.placement`,
  `Backend.postChecks`, `Backend.flushValue` — the parts of a backend
* `Plan.body` — the body of a wrapper
-/

namespace KernelBridge

open Layout (Step)

namespace Backend

/-- The statements that declare the user context and what it points to. -/
def contextSetup : Backend → List (Step Statement)
  | cpu => [.line (.declareLocal .untypedPointer contextName .nullPointer), .blank]
  | cuda => [
    .line (.comment "Setup CUDA"),
    .line (.declareLocal .int "device_id" .currentDevice),
    .line (.declareLocal .cudaContext "ctx" .zero),
    .line (.declareLocal .cudaResult "res" (.currentContext "ctx")),
    .line (.assertThat .contextAcquired),
    .line (.declareLocal .cudaStream "stream" (.currentStream "device_id")),
    .line (.declareRecord [(.int, "device_id"), (.cudaContextPointer, "cuda_context"),
      (.cudaStreamPointer, "stream")]),
    .line (.setField "device_id" (.named "device_id")),
    .line (.setField "cuda_context" (.addressOf "ctx")),
    .line (.setField "stream" (.addressOf "stream")),
    .line (.declareLocal .untypedPointer contextName (.untypedAddressOf contextLocal)),
    .blank]
  | metal => [
    .line (.comment "Setup Metal"),
    .line (.declareLocal .metalStreamPointer "stream" .currentMetalStream),
    .line (.assertThat .streamAcquired),
    .line (.declareRecord [(.int, "device_id"), (.metalStreamPointer, "stream")]),
    .line (.setField "device_id" (.deviceIndex "stream")),
    .line (.setField "stream" (.named "stream")),
    .line (.declareLocal .untypedPointer contextName (.untypedAddressOf contextLocal)),
    .blank]

/-- The check that a buffer's tensor is on the current device. -/
def residencyCheck : Backend → Parameter → List (Step Statement)
  | cuda, buffer => [.line (.checkDevice buffer)]
  | _, _ => []

/-- Where the tensors' memory lies for the kernels of the backend. -/
def placement : Backend → Placement
  | cuda => .device
  | _ => .host

/-- The checks of what the kernel left behind in its buffers. -/
def postChecks : Backend → List Parameter → List (Step Statement)
  | cuda, buffers =>
    if buffers.isEmpty then []
    else
      .line (.comment "Make sure data is on device")
        :: buffers.flatMap (fun buffer =>
          [.line (.assertThat (.deviceCurrent buffer)), .line (.detach buffer)])
        ++ [.blank]
  | _, _ => []

/-- What the cleanup of the memoization cache is called with. -/
def flushValue : Backend → Expression
  | cpu => .nullPointer
  | _ => .named contextName

/-- The text of that value. -/
def flushArgument (backend : Backend) : String := backend.flushValue.text

/-- Kernels without a user context cannot be wrapped for the backend. -/
def requiresContext : Backend → Bool
  | cuda => true
  | _ => false

end Backend

namespace Plan

/-- The checks of every buffer: contiguity of all of them first, then residency. -/
def checks (plan : Plan) (backend : Backend) : List (Step Statement) :=
  .line (.comment "Check tensors have contiguous memory and are on the correct device")
    :: plan.buffers.map (fun buffer => Step.line (Statement.checkContiguous buffer))
    ++ plan.buffers.flatMap backend.residencyCheck
    ++ [.blank]

/-- The views of every buffer. -/
def views (plan : Plan) (backend : Backend) : List (Step Statement) :=
  .line (.comment "Wrap tensors in Halide buffers")
    :: plan.buffers.map (fun buffer => Step.line (Statement.declareView backend.placement buffer))
    ++ [.blank]

/-- The call of the kernel and the check of its status. -/
def call (plan : Plan) : List (Step Statement) := [
  .line (.comment "Run Halide pipeline"),
  .line (.callKernel plan.simpleName plan.parameters),
  .blank,
  .line (.assertThat .kernelSucceeded)]

/-- The cleanup of the memoization cache, if it is asked for. -/
def flush (backend : Backend) (flushCache : Bool) : List (Step Statement) :=
  if flushCache then [.line (.comment "Flush cache"), .line (.flushCache backend.flushValue)]
  else []

/-- The body of a wrapper. -/
def body (plan : Plan) (backend : Backend) (flushCache : Bool) : List (Step Statement) :=
  backend.contextSetup
    ++ (if plan.buffers.isEmpty then [] else plan.checks backend ++ plan.views backend)
    ++ plan.call
    ++ backend.postChecks plan.buffers
    ++ flush backend flushCache
    ++ [.line .returnZero]

end Plan

end KernelBridge
