import KernelBridge.Backend
import KernelBridge.Handle

/-!
# User contexts

A user context is built for exactly one call of a wrapper. It names the device state of
the host framework that the call has to use; the kernel gets it as an opaque value and
hands it to the hooks of its runtime.

## Main definitions

* `HostStream` — a Metal stream of the host framework
* `UserContext` — the record for one call on CUDA or on Metal
* `UserContext.deviceId` — the ordinal of the device
-/

namespace KernelBridge.Bridge

/-- What happens on the serial queue of a stream while somebody waits for it. -/
inductive SerialStep where
  /-- The work that was handed over runs. -/
  | work
  /-- Somebody takes down a bridge. -/
  | uninstall (backend : Backend)
  deriving DecidableEq, Repr

/-- A Metal stream of the host framework, which owns the device and the queue that kernels
have to use.

It is assumed of the host framework that a stream keeps to one device and one queue, so that it
answers alike whenever it is asked, and that neither an answer nor a commit changes what is
registered. What is registered may change while work that was handed over waits or runs. -/
structure HostStream where
  name : String
  device : Handle
  queue : Handle
  /-- What happens when work is handed over to the serial queue. -/
  serial : List SerialStep := [.work]
  deriving DecidableEq, Repr

/-- The record for one call. What is missing is a null pointer in the record. -/
inductive UserContext where
  | cuda (deviceId : Int32) (context stream : Option Handle)
  | metal (deviceId : Int32) (stream : Option HostStream)
  deriving DecidableEq, Repr

namespace UserContext

/-- The ordinal of the device, the first field of every record. -/
def deviceId : UserContext → Int32
  | cuda deviceId _ _ => deviceId
  | metal deviceId _ => deviceId

/-- The CUDA context that the record lends, or null. -/
def cudaContext : UserContext → Handle
  | cuda _ context _ => context.getD .null
  | metal _ _ => .null

/-- The CUDA stream that the record lends, or null. -/
def cudaStream : UserContext → Handle
  | cuda _ _ stream => stream.getD .null
  | metal _ _ => .null

/-- The Metal stream that the record names. -/
def hostStream? : UserContext → Option HostStream
  | cuda _ _ _ => none
  | metal _ stream => stream

end UserContext

end KernelBridge.Bridge
