import KernelBridge.Proofs.Bridge.MetalHooks
import KernelBridge.Proofs.Invocation.Decision

/-!
# What the bridge answers

With the bridge's own hooks installed, every answer to a kernel runtime is a matter of the
device whose state was lent to the kernel. It is stated here by that device, without the user
context that carries it and without the hooks that take it out again. No user context at all
answers like the host.

## Main definitions

* `Registry.Bridged` — the bridge's own hooks are installed for a backend
* `HostDevice.lentContext`, `HostDevice.lentStream`, `HostDevice.lentHandle`,
  `HostDevice.ordinal` — what a kernel can learn of a device
* `Request.answerFor` — the answer for a device
* `Request.Suits` — the requests that can be answered for a device

## Main results

* `Request.Suits.perform` — such a request is answered for the device that lent the user
  context, and leaves what is registered as it was
-/

namespace KernelBridge

open Bridge (Session State Registry UserContext HostStream StreamTable StreamQuestion)

/-! ### What a device lends -/

namespace HostDevice

/-- The ordinal of a device. -/
def ordinal : HostDevice → Int32
  | cpu => 0
  | cuda deviceId _ _ => deviceId
  | metal index _ => index

/-- The CUDA context of a device, or null. -/
def lentContext : HostDevice → Handle
  | cuda _ context _ => context
  | _ => .null

/-- The CUDA stream of a device, or null. -/
def lentStream : HostDevice → Handle
  | cuda _ _ stream => stream
  | _ => .null

/-- The Metal stream of a device. -/
def stream? : HostDevice → Option HostStream
  | metal _ stream => stream
  | _ => none

/-- What the Metal stream of a device gives out through one entry of the registered table, or
null. -/
def lentHandle (device : HostDevice) (registry : Registry)
    (entry : StreamTable → StreamQuestion) : Handle :=
  match device.stream?, registry.streamTable with
  | some stream, some table => stream.handle (entry table)
  | _, _ => .null

theorem eq_cpu_of_backend {device : HostDevice} (h : device.backend = .cpu) : device = .cpu := by
  cases device with
  | cpu => rfl
  | _ => cases h

section LentHandle

variable {device : HostDevice} {registry : Registry} {entry : StreamTable → StreamQuestion}
  {stream : HostStream} {table : StreamTable} {user : Option UserContext}

theorem lentHandle_of_none (h : device.stream? = none) :
    device.lentHandle registry entry = .null := by
  rw [lentHandle, h]

theorem lentHandle_of_some (h : device.stream? = some stream)
    (htable : registry.streamTable = some table) :
    device.lentHandle registry entry = stream.handle (entry table) := by
  rw [lentHandle, h, htable]

/-- A user context names the stream of the device that it lends. -/
theorem Lends.hostStream?_eq (h : device.Lends user) :
    user.bind UserContext.hostStream? = device.stream? := by
  cases h <;> rfl

/-- A user context names the device that it lends. -/
theorem Lends.deviceId_eq (h : device.Lends user) :
    (user.map UserContext.deviceId).getD 0 = device.ordinal := by
  cases h <;> rfl

/-- A user context carries the CUDA context of the device that it lends. -/
theorem Lends.cudaContext_eq (h : device.Lends user) :
    (user.map UserContext.cudaContext).getD .null = device.lentContext := by
  cases h <;> rfl

/-- A user context carries the CUDA stream of the device that it lends. -/
theorem Lends.cudaStream_eq (h : device.Lends user) :
    (user.map UserContext.cudaStream).getD .null = device.lentStream := by
  cases h <;> rfl

end LentHandle

end HostDevice

namespace Bridge

/-- The bridge's own hooks are installed for a backend. On Metal they come with a table that
leads to the host's streams. -/
def Registry.Bridged (registry : Registry) : Backend → Prop
  | .cpu => True
  | .cuda => registry.cuda = .bridge
  | .metal => registry.metal = .bridge ∧ ∃ table, registry.streamTable = some table

namespace Request

/-- The backend whose runtime makes a request. -/
def backend : Request → Backend
  | cudaAcquireContext _ | cudaReleaseContext | cudaGetStream _ => .cuda
  | getDevice backend => backend
  | metalAcquireContext _ | metalReleaseContext | metalPreRun | metalDefaultDevice
  | metalNewCommandQueue _ => .metal

/-- The answer for a device. Whether a context may be created, which context a stream is for
and which device a queue is for makes no difference. -/
def answerFor (registry : Registry) (device : HostDevice) : Request → Answer
  | cudaAcquireContext _ => .handle device.lentContext
  | cudaReleaseContext => .done
  | cudaGetStream _ => .handle device.lentStream
  | getDevice _ => .ordinal device.ordinal
  | metalAcquireContext _ =>
    .deviceAndQueue (device.lentHandle registry (·.device))
      (device.lentHandle registry (·.commandQueue))
  | metalReleaseContext => .done
  | metalPreRun => .done
  | metalDefaultDevice => .handle (device.lentHandle registry (·.device))
  | metalNewCommandQueue _ => .handle (device.lentHandle registry (·.commandQueue))

/-- A request that can be answered for a device: the bridge is installed for the backend that
asks, the user context is null or of that backend, a queue is asked for no other device than
the stream's own, and nobody takes down the bridge while the host's work is committed. -/
structure Suits (registry : Registry) (device : HostDevice) (request : Request) : Prop where
  bridged : registry.Bridged request.backend
  backend : device = .cpu ∨ device.backend = request.backend
  queue : ∀ requested, request = .metalNewCommandQueue requested →
    device.stream? = none ∨ requested = .null ∨
      requested = device.lentHandle registry (·.device)
  serial : request = .metalPreRun →
    ∀ stream, device.stream? = some stream → stream.KeepsBridges

end Request

/-! ### Computations that leave the registry alone -/

/-- The computation returns this and leaves what is registered as it was. -/
def Session.Yields (computation : Session α) (state : State) (a : α) : Prop :=
  ∃ left, computation state = .ok a left ∧ left.registry = state.registry

namespace Session

variable {α β : Type} {first : Session α} {next : α → Session β} {state : State} {a : α} {b : β}

theorem yields_bind_of_ok {between : State} (h : first state = .ok a between)
    (kept : between.registry = state.registry) (hnext : (next a).Yields between b) :
    (first >>= next).Yields state b := by
  obtain ⟨left, hleft, hkept⟩ := hnext
  exact ⟨left, (bind_of_ok h).trans hleft, hkept.trans kept⟩

theorem Yields.bind (h : first.Yields state a)
    (hnext : ∀ left : State, left.registry = state.registry → (next a).Yields left b) :
    (first >>= next).Yields state b := by
  obtain ⟨between, hfirst, hkept⟩ := h
  exact yields_bind_of_ok hfirst hkept (hnext between hkept)

theorem Yields.map (h : first.Yields state a) (f : α → β) : (f <$> first).Yields state (f a) := by
  rw [map_eq_pure_bind]
  exact h.bind fun _ _ => ⟨_, rfl, rfl⟩

theorem yields_pure : (pure a : Session α).Yields state a := ⟨state, rfl, rfl⟩

theorem Returns.yields {calls : List Call} (h : first.Returns state a calls) :
    first.Yields state a := by
  obtain ⟨events, hfirst⟩ := h
  exact ⟨_, hfirst, rfl⟩

theorem yields_registry : registry.Yields state state.registry := ⟨state, rfl, rfl⟩

theorem yields_report (event : Tracing.Event) : (report event).Yields state () :=
  ⟨state.logged [event], rfl, rfl⟩

end Session

open Session

/-! ### The hooks -/

section Hooks

variable {state : State} {table : StreamTable} {device : HostDevice} {user : Option UserContext}

theorem yields_cudaAcquireContext (lends : device.Lends user) :
    (Cuda.acquireContext user true).Yields state (.success, some device.lentContext) := by
  rw [← lends.cudaContext_eq]
  exact (yields_report _).bind fun _ _ => yields_pure

theorem yields_cudaGetStream (lends : device.Lends user) :
    (Cuda.getStream user true).Yields state (.success, some device.lentStream) := by
  rw [← lends.cudaStream_eq]
  exact (yields_report _).bind fun _ _ => yields_pure

section Metal

variable (lends : device.Lends user) (htable : state.registry.streamTable = some table)
include lends htable

theorem yields_metalAcquireContext :
    (Metal.acquireContext user true).Yields state
      (.success, some (device.lentHandle state.registry (·.device),
        device.lentHandle state.registry (·.commandQueue))) := by
  have huser := lends.hostStream?_eq
  cases hstream : device.stream? with
  | none =>
    rw [HostDevice.lentHandle_of_none hstream, HostDevice.lentHandle_of_none hstream]
    exact (Metal.answersForHost (huser.trans hstream)).acquireContext.yields
  | some stream =>
    rw [HostDevice.lentHandle_of_some hstream htable, HostDevice.lentHandle_of_some hstream htable]
    exact (Metal.returns_acquireContext (huser.trans hstream) htable).yields

theorem yields_defaultDevice :
    (Metal.defaultDevice user).Yields state (device.lentHandle state.registry (·.device)) := by
  have huser := lends.hostStream?_eq
  cases hstream : device.stream? with
  | none =>
    rw [HostDevice.lentHandle_of_none hstream]
    exact (Metal.answersForHost (huser.trans hstream)).defaultDevice.yields
  | some stream =>
    rw [HostDevice.lentHandle_of_some hstream htable]
    exact (Metal.returns_defaultDevice (huser.trans hstream) htable).yields

/-- A queue that is asked for no device in particular, or for the stream's own, is the
stream's queue under either policy. Without a stream there is none. -/
theorem yields_newCommandQueue {requested : Handle}
    (matching : device.stream? = none ∨ requested = .null ∨
      requested = device.lentHandle state.registry (·.device)) :
    (Metal.newCommandQueue requested user).Yields state
      (device.lentHandle state.registry (·.commandQueue)) := by
  have huser := lends.hostStream?_eq
  cases hstream : device.stream? with
  | none =>
    rw [HostDevice.lentHandle_of_none hstream]
    exact ((Metal.answersForHost (huser.trans hstream)).newCommandQueue requested).yields
  | some stream =>
    rw [HostDevice.lentHandle_of_some hstream htable] at matching ⊢
    have hmatches := matching.resolve_left (by simp [hstream])
    exact (Metal.returns_newCommandQueue (huser.trans hstream) htable (.inr hmatches)).yields

/-- The host's work is committed from the stream's own serial queue, where the table of
streams is still registered. -/
theorem yields_preRun (keeps : ∀ stream, device.stream? = some stream → stream.KeepsBridges) :
    (Metal.preRun user).Yields state () := by
  have huser := lends.hostStream?_eq
  cases hstream : device.stream? with
  | none => exact (Metal.answersForHost (huser.trans hstream)).preRun.yields
  | some stream =>
    exact (Metal.returns_preRun (huser.trans hstream) htable (keeps stream hstream)).yields

end Metal

end Hooks

/-! ### The requests -/

namespace Request

variable {state : State} {device : HostDevice} {user : Option UserContext} {request : Request}

/-- A request that goes to the bridge's own hook is answered by what the hook answers. -/
theorem yields_withHook {slot : Option (Hook α)} {backend : Backend} {name : String}
    {next : Hook α → Session (Except Error Answer)} {answer : Except Error Answer}
    (hslot : slot = some .bridge) (hnext : (next .bridge).Yields state answer) :
    (withHook slot backend name next).Yields state answer := by
  rw [hslot]
  exact hnext

/-- **Answers of the bridge.** A request that suits a device is answered for it, if the user
context that comes with the request lends that device. -/
theorem Suits.perform (suits : request.Suits state.registry device)
    (lends : device.Lends user) :
    (request.perform user).Yields state (.ok (request.answerFor state.registry device)) := by
  cases hbackend : request.backend with
  | cpu =>
    cases request with
    | getDevice backend =>
      obtain rfl : backend = .cpu := hbackend
      obtain rfl : device = .cpu := suits.backend.elim id HostDevice.eq_cpu_of_backend
      exact yields_registry.bind fun _ _ => yields_pure
    | _ => cases hbackend
  | cuda =>
    have hcuda : state.registry.cuda = .bridge := by
      have hbridged := suits.bridged
      rwa [hbackend] at hbridged
    refine yields_registry.bind fun left hleft => ?_
    cases request with
    | cudaAcquireContext create =>
      refine yields_withHook (congrArg CudaHooks.acquireContext hcuda) ?_
      exact (yields_cudaAcquireContext lends).bind fun _ _ => yields_pure
    | cudaReleaseContext =>
      exact yields_withHook (congrArg CudaHooks.releaseContext hcuda) yields_pure
    | cudaGetStream context =>
      refine yields_withHook (congrArg CudaHooks.getStream hcuda) ?_
      exact (yields_cudaGetStream lends).bind fun _ _ => yields_pure
    | getDevice backend =>
      obtain rfl : backend = .cuda := hbackend
      refine yields_withHook (congrArg CudaHooks.getDevice hcuda) ?_
      rw [answerFor, ← lends.deviceId_eq]
      exact yields_pure
    | _ => cases hbackend
  | metal =>
    obtain ⟨hmetal, table, htable⟩ :
        state.registry.metal = .bridge ∧ ∃ table, state.registry.streamTable = some table := by
      have hbridged := suits.bridged
      rwa [hbackend] at hbridged
    refine yields_registry.bind fun left hleft => ?_
    rw [← hleft] at suits hmetal htable ⊢
    cases request with
    | getDevice backend =>
      obtain rfl : backend = .metal := hbackend
      refine yields_withHook (congrArg MetalHooks.getDevice hmetal) ?_
      rw [answerFor, ← lends.deviceId_eq]
      exact yields_pure
    | metalAcquireContext create =>
      refine yields_withHook (congrArg MetalHooks.acquireContext hmetal) ?_
      exact (yields_metalAcquireContext lends htable).bind fun _ _ => yields_pure
    | metalReleaseContext =>
      exact yields_withHook (congrArg MetalHooks.releaseContext hmetal) yields_pure
    | metalPreRun =>
      refine yields_withHook (congrArg MetalHooks.preRun hmetal) ?_
      exact (yields_preRun lends htable (suits.serial rfl)).bind fun _ _ => yields_pure
    | metalDefaultDevice =>
      refine yields_withHook (congrArg MetalHooks.defaultDevice hmetal) ?_
      exact (yields_defaultDevice lends htable).bind fun _ _ => yields_pure
    | metalNewCommandQueue requested =>
      refine yields_withHook (congrArg MetalHooks.newCommandQueue hmetal) ?_
      exact (yields_newCommandQueue lends htable (suits.queue requested rfl)).bind
        fun _ _ => yields_pure
    | _ => cases hbackend

end Request

end Bridge

end KernelBridge
