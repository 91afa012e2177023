import KernelBridge.Bridge.UserContext

/-!
# Hooks

A kernel runtime asks hooks for the context, the stream, the queue and the device that a
kernel has to use. The bridge brings an implementation of every hook; a program may put
its own in place of any of them.

## Main definitions

* `HookStatus` — the answers of the bridge's own hooks
* `Hook` — a hook of the bridge or of somebody else
* `CudaHooks`, `MetalHooks` — the hooks of one backend
* `StreamTable` — how the bridge reaches a stream of the host framework
-/

namespace KernelBridge.Bridge

/-- The status of one of the bridge's hooks. -/
inductive HookStatus where
  | success
  /-- There is no place to write an answer to. -/
  | invalidArgument
  /-- The table that leads to the host's streams is not registered. -/
  | notInstalled
  deriving DecidableEq, Repr

/-- The status as a number. -/
def HookStatus.code : HookStatus → Int32
  | success => 0
  | invalidArgument => -1
  | notInstalled => -2

theorem HookStatus.code_eq_neg_one_iff {status : HookStatus} :
    status.code = -1 ↔ status = .invalidArgument := by
  cases status <;> decide

/-- A hook that answers in a certain way: the bridge's own, or a foreign one. -/
inductive Hook (Answer : Type) where
  | bridge
  | foreign (label : String) (answer : Answer)

/-! ### How foreign hooks answer

A null user context is none. The first number of an answer is its status. -/

/-- A status and a CUDA context. -/
abbrev AcquireCudaContext := Option UserContext → (create : Bool) → Int32 × Handle

/-- A status. -/
abbrev ReleaseContext := Option UserContext → Int32

/-- A status and a CUDA stream, for a context. -/
abbrev GetCudaStream := Option UserContext → (context : Handle) → Int32 × Handle

/-- The ordinal of a device. -/
abbrev GetDevice := Option UserContext → Int32

/-- A status, a Metal device and a queue. -/
abbrev AcquireMetalContext := Option UserContext → (create : Bool) → Int32 × Handle × Handle

/-- No answer at all. -/
abbrev PreRun := Unit

/-- A Metal device. -/
abbrev DefaultDevice := Option UserContext → Handle

/-- A queue, for a device. -/
abbrev NewCommandQueue := (device : Handle) → Option UserContext → Handle

/-! ### Tables of hooks -/

/-- The hooks of the CUDA runtime. The runtime's own default stays where there is none. -/
@[ext]
structure CudaHooks where
  acquireContext : Option (Hook AcquireCudaContext) := none
  releaseContext : Option (Hook ReleaseContext) := none
  getStream : Option (Hook GetCudaStream) := none
  getDevice : Option (Hook GetDevice) := none

namespace CudaHooks

/-- The bridge's own hooks. -/
def bridge : CudaHooks := ⟨some .bridge, some .bridge, some .bridge, some .bridge⟩

/-- The hooks that a kernel runtime may have setters for: all but the one for the device. -/
def settable (hooks : CudaHooks) : CudaHooks := { hooks with getDevice := none }

/-- No slot is empty. -/
def isComplete (hooks : CudaHooks) : Bool :=
  hooks.acquireContext.isSome && hooks.releaseContext.isSome && hooks.getStream.isSome
    && hooks.getDevice.isSome

end CudaHooks

/-- The hooks of the Metal runtime. -/
@[ext]
structure MetalHooks where
  acquireContext : Option (Hook AcquireMetalContext) := none
  releaseContext : Option (Hook ReleaseContext) := none
  preRun : Option (Hook PreRun) := none
  defaultDevice : Option (Hook DefaultDevice) := none
  newCommandQueue : Option (Hook NewCommandQueue) := none
  getDevice : Option (Hook GetDevice) := none

namespace MetalHooks

/-- The bridge's own hooks. -/
def bridge : MetalHooks :=
  ⟨some .bridge, some .bridge, some .bridge, some .bridge, some .bridge, some .bridge⟩

/-- No slot is empty. -/
def isComplete (hooks : MetalHooks) : Bool :=
  hooks.acquireContext.isSome && hooks.releaseContext.isSome && hooks.preRun.isSome
    && hooks.defaultDevice.isSome && hooks.newCommandQueue.isSome && hooks.getDevice.isSome

end MetalHooks

/-- What a stream can be asked for. -/
inductive StreamQuestion where
  | device
  | commandQueue
  deriving DecidableEq, Repr

/-- How the bridge reaches a stream: what each entry of the table asks the stream for, and
which flag the stream gets when it is told to commit.

The entries are code of the host framework. It is assumed of them that they do no more than that:
for one stream an entry asks the same at every call, and none changes what is registered. -/
structure StreamTable where
  device : StreamQuestion := .device
  commandQueue : StreamQuestion := .commandQueue
  commitFlag : Bool → Bool := id

/-- What is called to empty the memoization cache of the kernel runtime. -/
structure Cleanup where
  label : String
  deriving DecidableEq, Repr

@[simp] theorem isComplete_bridge_cuda : CudaHooks.bridge.isComplete = true := rfl

@[simp] theorem isComplete_bridge_metal : MetalHooks.bridge.isComplete = true := rfl

end KernelBridge.Bridge
