import KernelBridge.Backend
import KernelBridge.Signature.Basic

/-!
# Names inside a wrapper

The body of a wrapper declares locals of its own and refers to functions and types by
unqualified names. No parameter may get in the way of either.

## Main definitions

* `Backend.reservedLocals` — the locals that a backend's context setup declares
* `Backend.referencedNames` — the functions and types that it names
* `statusLocal`, `cacheCleanup` — the names that every wrapper uses
-/

namespace KernelBridge

/-- The local that holds the status of the kernel. -/
def statusLocal : String := "err"

/-- The function that empties the kernel runtime's memoization cache. -/
def cacheCleanup : String := "halide_memoization_cache_cleanup"

/-- The locals that the context setup of the backend declares. -/
def Backend.reservedLocals : Backend → List String
  | cpu => []
  | cuda => ["device_id", "ctx", "res", "stream", "user_ctx"]
  | metal => ["stream", "user_ctx"]

/-- The functions and types that the context setup of the backend names. -/
def Backend.referencedNames : Backend → List String
  | cpu => []
  | cuda => ["cuCtxGetCurrent", "CUcontext", "CUresult", "cudaStream_t", "UserContext"]
  | metal => ["UserContext"]

end KernelBridge
