import KernelBridge.Bridge.Cuda
import KernelBridge.Bridge.Metal

/-!
# Dispatch

What a kernel runtime asks the bridge for. Each request is looked up in the registry and
goes to the hook in its slot, the bridge's own or a foreign one; without a hook it fails.

## Main definitions

* `Request` — what a kernel runtime can ask for
* `Answer` — what it gets
* `Request.perform` — the answer in a session
* `flushCache` — the memoization cache is emptied
-/

namespace KernelBridge.Bridge

/-- What a kernel runtime asks for, apart from the user context that it was handed. -/
inductive Request where
  | cudaAcquireContext (create : Bool)
  | cudaReleaseContext
  | cudaGetStream (context : Handle)
  | getDevice (backend : Backend)
  | metalAcquireContext (create : Bool)
  | metalReleaseContext
  | metalPreRun
  | metalDefaultDevice
  | metalNewCommandQueue (device : Handle)
  deriving DecidableEq, Repr

/-- What a kernel runtime gets. -/
inductive Answer where
  | done
  | handle (handle : Handle)
  | deviceAndQueue (device queue : Handle)
  | ordinal (device : Int32)
  deriving DecidableEq, Repr

/-- Calls a foreign hook for a user context. -/
def callForeign (label : String) (user : Option UserContext) : Session Unit :=
  callBack (.handler label (user.map UserContext.deviceId))

/-- The hook in a slot, or the error that there is none. -/
def lookUp (slot : Option (Hook α)) (backend : Backend) (name : String) :
    Session (Except Error (Hook α)) := do
  match slot with
  | some hook => return .ok hook
  | none =>
    report (.hookMissing backend name)
    return .error (.hooksNotInstalled backend)

/-- The answer of a hook, unless its status is an error. -/
def checked (hook : StatusHook) (status : Int32) (answer : Answer) : Except Error Answer :=
  if status = 0 then .ok answer else .error (.hookFailed hook status)

/-- Goes on with the hook in a slot. -/
def withHook (slot : Option (Hook α)) (backend : Backend) (name : String)
    (next : Hook α → Session (Except Error Answer)) : Session (Except Error Answer) := do
  match ← lookUp slot backend name with
  | .ok hook => next hook
  | .error error => return .error error

/-- The answer of a hook that tells the ordinal of the device. -/
def askDevice (own : Option UserContext → Int32) (user : Option UserContext) :
    Hook GetDevice → Session (Except Error Answer)
  | .bridge => return .ok (.ordinal (own user))
  | .foreign label answer => do
    callForeign label user
    return .ok (.ordinal (answer user))

/-- The answer of a hook that releases a context. -/
def askRelease (name : StatusHook) (own : Option UserContext → HookStatus)
    (user : Option UserContext) : Hook ReleaseContext → Session (Except Error Answer)
  | .bridge => return checked name (own user).code .done
  | .foreign label answer => do
    callForeign label user
    return checked name (answer user) .done

namespace Request

/-- The answer to a request with a user context. -/
def perform (request : Request) (user : Option UserContext) : Session (Except Error Answer) := do
  let hooks ← registry
  match request with
  | cudaAcquireContext create =>
    withHook hooks.cuda.acquireContext .cuda "acquire_context" fun
      | .bridge => do
        let (status, context) ← Cuda.acquireContext user true
        return checked .cudaAcquireContext status.code (.handle (context.getD .null))
      | .foreign label answer => do
        callForeign label user
        let (status, context) := answer user create
        return checked .cudaAcquireContext status (.handle context)
  | cudaReleaseContext =>
    withHook hooks.cuda.releaseContext .cuda "release_context"
      (askRelease .cudaReleaseContext Cuda.releaseContext user)
  | cudaGetStream context =>
    withHook hooks.cuda.getStream .cuda "get_stream" fun
      | .bridge => do
        let (status, stream) ← Cuda.getStream user true
        return checked .cudaGetStream status.code (.handle (stream.getD .null))
      | .foreign label answer => do
        callForeign label user
        let (status, stream) := answer user context
        return checked .cudaGetStream status (.handle stream)
  | getDevice .cpu => return .ok (.ordinal 0)
  | getDevice .cuda =>
    withHook hooks.cuda.getDevice .cuda "get_gpu_device" (askDevice Cuda.getDevice user)
  | getDevice .metal =>
    withHook hooks.metal.getDevice .metal "get_gpu_device" (askDevice Metal.getDevice user)
  | metalAcquireContext create =>
    withHook hooks.metal.acquireContext .metal "acquire_context" fun
      | .bridge => do
        let (status, written) ← Metal.acquireContext user true
        let (device, queue) := written.getD (.null, .null)
        return checked .metalAcquireContext status.code (.deviceAndQueue device queue)
      | .foreign label answer => do
        callForeign label user
        let (status, device, queue) := answer user create
        return checked .metalAcquireContext status (.deviceAndQueue device queue)
  | metalReleaseContext =>
    withHook hooks.metal.releaseContext .metal "release_context"
      (askRelease .metalReleaseContext Metal.releaseContext user)
  | metalPreRun =>
    withHook hooks.metal.preRun .metal "pre_run" fun
      | .bridge => do
        Metal.preRun user
        return .ok .done
      | .foreign label () => do
        callForeign label user
        return .ok .done
  | metalDefaultDevice =>
    withHook hooks.metal.defaultDevice .metal "default_device" fun
      | .bridge => do return .ok (.handle (← Metal.defaultDevice user))
      | .foreign label answer => do
        callForeign label user
        return .ok (.handle (answer user))
  | metalNewCommandQueue device =>
    withHook hooks.metal.newCommandQueue .metal "new_command_queue" fun
      | .bridge => do return .ok (.handle (← Metal.newCommandQueue device user))
      | .foreign label answer => do
        callForeign label user
        return .ok (.handle (answer device user))

end Request

/-- Empties the memoization cache of the kernel runtime, if a cleanup is registered. -/
def flushCache (user : Option UserContext) : Session Bool := do
  match (← registry).cleanup with
  | some cleanup =>
    callForeign cleanup.label user
    return true
  | none =>
    report .flushSkipped
    return false

end KernelBridge.Bridge
