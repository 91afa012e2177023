import KernelBridge.Backend
import KernelBridge.Handle
import KernelBridge.Tensor.Basic

/-!
# Bridge errors

Everything that can keep a kernel from being called or make a call fail, with one text for
each cause.

## Main definitions

* `Bridge.StatusHook` — the hooks that answer with a status
* `Bridge.Error` — the causes
* `Bridge.Error.message` — their texts
-/

namespace KernelBridge.Bridge

/-- The hooks that answer with a status. -/
inductive StatusHook where
  | cudaAcquireContext
  | cudaReleaseContext
  | cudaGetStream
  | metalAcquireContext
  | metalReleaseContext
  deriving DecidableEq, Repr

def StatusHook.name : StatusHook → String
  | cudaAcquireContext => "cuda_acquire_context"
  | cudaReleaseContext => "cuda_release_context"
  | cudaGetStream => "cuda_get_stream"
  | metalAcquireContext => "metal_acquire_context"
  | metalReleaseContext => "metal_release_context"

/-- Why a call failed. -/
inductive Error where
  /-- Without hooks the kernel runtime would make a context of its own. -/
  | hooksNotInstalled (backend : Backend)
  | nonContiguous (buffer : String)
  | wrongDevice (buffer : String) (expected : Int32) (actual : TensorDevice)
  | kernelFailed (kernel : String) (status : Int32)
  /-- The host's copy of a buffer is newer than the device's. -/
  | hostDirty (buffer : String)
  | hookFailed (hook : StatusHook) (status : Int32)
  | deviceMismatch (requested host : Handle)
  /-- A Metal call without a stream. -/
  | nullStream
  deriving DecidableEq, Repr

def Error.message : Error → String
  | hooksNotInstalled backend =>
    "no " ++ backend.name ++ " bridge hooks are installed; install them before invoking kernels"
  | nonContiguous buffer => "buffer " ++ buffer ++ " is not contiguous"
  | wrongDevice buffer expected actual =>
    "buffer " ++ buffer ++ " is on " ++ actual.text ++ ", expected CUDA device "
      ++ toString expected.toInt
  | kernelFailed kernel status =>
    "kernel " ++ kernel ++ " failed with status " ++ toString status.toInt
  | hostDirty buffer =>
    "device not synchronized for buffer " ++ buffer
      ++ ", make sure all update stages are explicitly computed on GPU"
  | hookFailed hook status =>
    hook.name ++ " hook failed with status " ++ toString status.toInt
  | deviceMismatch requested host =>
    "requested Metal device " ++ requested.text ++ " does not match the host stream's device "
      ++ host.text
  | nullStream => "invalid user context: null Metal stream"

end KernelBridge.Bridge
