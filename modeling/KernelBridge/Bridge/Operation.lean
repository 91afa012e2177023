import KernelBridge.Bridge.Session

/-!
# Registry operations

Everything that changes the registry, as data: a slot or a table is replaced and the
operation answers with what was there before, a bridge is installed or taken down, or all
is reset.

Programs that know only plain tables use the entry points, which take a table that may be
missing and answer with a status; if the table is missing, nothing changes.

## Main definitions

* `Operation` — the operations
* `Reply` — their answers
* `Operation.perform` — what an operation does in a session
* `uninstall`, `registerRuntime` — two of them by themselves
-/

namespace KernelBridge.Bridge

/-- Something that changes the registry. -/
inductive Operation where
  | setCudaAcquireContext (hook : Hook AcquireCudaContext)
  | setCudaReleaseContext (hook : Hook ReleaseContext)
  | setCudaGetStream (hook : Hook GetCudaStream)
  | setCudaGetDevice (hook : Hook GetDevice)
  | setMetalPreRun (hook : Hook PreRun)
  | setCudaHooks (hooks : CudaHooks)
  | setMetalHooks (hooks : MetalHooks)
  | installCuda
  | installMetal (table : StreamTable)
  /-- The bridge goes into a kernel runtime that offers setters, and into the registry. -/
  | registerRuntime
  | uninstall (backend : Backend)
  | reset
  | setCleanup (cleanup : Cleanup)
  | setConfig (config : Config)
  /-- The entry points for programs that know only plain tables. -/
  | enterInstallCuda
  | enterInstallMetal (table : Option StreamTable)
  | enterRegisterRuntime (settersGiven : Bool)

/-- The answer of an operation. -/
inductive Reply where
  | done
  | status (status : HookStatus)
  | wasCudaAcquireContext (hook : Option (Hook AcquireCudaContext))
  | wasCudaReleaseContext (hook : Option (Hook ReleaseContext))
  | wasCudaGetStream (hook : Option (Hook GetCudaStream))
  | wasCudaGetDevice (hook : Option (Hook GetDevice))
  | wasMetalPreRun (hook : Option (Hook PreRun))
  | wereCudaHooks (hooks : CudaHooks)
  | wereMetalHooks (hooks : MetalHooks)
  | wereRuntimeHooks (hooks : CudaHooks)
  | wasCleanup (cleanup : Option Cleanup)
  | wasConfig (config : Config)

/-- Installs the bridge for CUDA. -/
def installCuda : Session Unit := do
  changeRegistry .installCuda
  report (.bridgeInstalled .cuda)

/-- Installs the bridge for Metal. -/
def installMetal (table : StreamTable) : Session Unit := do
  changeRegistry fun registry => registry.installMetal table
  report (.bridgeInstalled .metal)

/-- Takes down the bridge for a backend, installed or not. -/
def uninstall (backend : Backend) : Session Unit := do
  changeRegistry fun registry => registry.uninstall backend
  report (.bridgeUninstalled backend)

/-- Takes down every bridge and forgets the cleanup and the configuration. -/
def reset : Session Unit := do
  changeRegistry .reset
  reportAll (Backend.all.map .bridgeUninstalled)

/-- Hands the bridge's hooks to the setters of a kernel runtime and installs them. The answer
is what the setters replaced.

The setters are code of the kernel runtime. It is assumed of each that it puts the hook it is given
in place of the one in its slot, answers with the hook that was there, and does nothing else: it
leaves the registry alone and calls nobody back. -/
def registerRuntime : Session CudaHooks := do
  let before := (← get).runtime
  [RuntimeSlot.acquireContext, .releaseContext, .getStream].forM fun slot =>
    callBack (.runtimeSetter slot)
  modify fun state =>
    { state with runtime := { CudaHooks.bridge with getDevice := before.getDevice } }
  installCuda
  report .runtimeRegistered
  return before.settable

/-- Replaces what one function of the registry tells, and answers with what it told before. -/
def exchange (told : Registry → α) (change : Registry → Registry) : Session α := do
  let before := told (← registry)
  changeRegistry change
  return before

namespace Operation

/-- What an operation does. -/
def perform : Operation → Session Reply
  | setCudaAcquireContext hook =>
    .wasCudaAcquireContext <$> exchange (·.cuda.acquireContext) fun registry =>
      { registry with cuda.acquireContext := some hook }
  | setCudaReleaseContext hook =>
    .wasCudaReleaseContext <$> exchange (·.cuda.releaseContext) fun registry =>
      { registry with cuda.releaseContext := some hook }
  | setCudaGetStream hook =>
    .wasCudaGetStream <$> exchange (·.cuda.getStream) fun registry =>
      { registry with cuda.getStream := some hook }
  | setCudaGetDevice hook =>
    .wasCudaGetDevice <$> exchange (·.cuda.getDevice) fun registry =>
      { registry with cuda.getDevice := some hook }
  | setMetalPreRun hook =>
    .wasMetalPreRun <$> exchange (·.metal.preRun) fun registry =>
      { registry with metal.preRun := some hook }
  | setCudaHooks hooks =>
    .wereCudaHooks <$> exchange (·.cuda) fun registry => { registry with cuda := hooks }
  | setMetalHooks hooks =>
    .wereMetalHooks <$> exchange (·.metal) fun registry => { registry with metal := hooks }
  | setCleanup cleanup =>
    .wasCleanup <$> exchange (·.cleanup) fun registry => { registry with cleanup := some cleanup }
  | setConfig config =>
    .wasConfig <$> exchange (·.config) fun registry => { registry with config }
  | installCuda => do Bridge.installCuda; return .done
  | installMetal table => do Bridge.installMetal table; return .done
  | registerRuntime => .wereRuntimeHooks <$> Bridge.registerRuntime
  | uninstall backend => do Bridge.uninstall backend; return .done
  | reset => do Bridge.reset; return .done
  | enterInstallCuda => do Bridge.installCuda; return .done
  | enterInstallMetal none => return .status .invalidArgument
  | enterInstallMetal (some table) => do Bridge.installMetal table; return .status .success
  | enterRegisterRuntime false => return .status .invalidArgument
  | enterRegisterRuntime true => do let _ ← Bridge.registerRuntime; return .status .success

end Operation

end KernelBridge.Bridge
