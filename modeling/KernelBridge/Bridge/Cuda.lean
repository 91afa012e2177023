import KernelBridge.Bridge.Session

/-!
# The CUDA hooks of the bridge

Every answer comes from the user context of the current call. Without one the kernel
runtime gets the null context, the null stream and device 0. Contexts are never created or
released here: they belong to the host framework.

## Main definitions

* `Cuda.acquireContext`, `Cuda.releaseContext`, `Cuda.getStream`, `Cuda.getDevice` — the hooks
-/

namespace KernelBridge.Bridge.Cuda

/-- The context that the call has to use, written if there is a place for it. -/
def acquireContext (user : Option UserContext) (writable : Bool) :
    Session (HookStatus × Option Handle) := do
  if !writable then return (.invalidArgument, none)
  let context := (user.map UserContext.cudaContext).getD .null
  report (.cudaContextAcquired context)
  return (.success, some context)

/-- There is nothing to release. -/
def releaseContext (_user : Option UserContext) : HookStatus := .success

/-- The stream that the call has to use, written if there is a place for it. -/
def getStream (user : Option UserContext) (writable : Bool) :
    Session (HookStatus × Option Handle) := do
  if !writable then return (.invalidArgument, none)
  let stream := (user.map UserContext.cudaStream).getD .null
  report (.cudaStreamAcquired stream)
  return (.success, some stream)

/-- The device that the call has to use. -/
def getDevice (user : Option UserContext) : Int32 :=
  (user.map UserContext.deviceId).getD 0

end KernelBridge.Bridge.Cuda
