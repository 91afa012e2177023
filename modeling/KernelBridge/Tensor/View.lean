import KernelBridge.Backend
import KernelBridge.Tensor.Basic

/-!
# Buffer views

A kernel sees a tensor through a view, which owns nothing. The storage is in the host slot
or, attached to a backend, in the device slot; one flag for each side says that its copy is
the newer one.

## Main definitions

* `BufferView` — a view over the storage of one tensor
* `BufferView.wrapHost`, `BufferView.wrapDevice` — the views over a tensor
* `BufferView.elements`, `BufferView.bytes` — the size of the storage
* `BufferView.detach` — the device allocation goes back to the host framework
-/

namespace KernelBridge

/-- A view over the storage of one tensor. -/
structure BufferView where
  name : String
  type : ScalarType
  shape : List Int64
  strides : List Int64
  host : Handle
  device : Handle
  /-- The backend that the device slot is attached to. -/
  attachedTo : Option Backend
  /-- The host's copy is newer than the device's. -/
  hostDirty : Bool
  /-- The device's copy is newer than the host's. -/
  deviceDirty : Bool
  deriving DecidableEq, Repr

/-- The largest size that is told; everything above it counts as this. -/
def sizeLimit : Nat := UInt64.size - 1

/-- A product, unless it is above the limit. -/
def timesWithin (size factor : Nat) : Option Nat :=
  if size * factor ≤ sizeLimit then some (size * factor) else none

namespace BufferView

/-- The view over a tensor whose storage is in neither slot yet. -/
def ofTensor (name : String) (tensor : Tensor) : BufferView where
  name
  type := tensor.type
  shape := tensor.shape
  strides := tensor.strides
  host := .null
  device := .null
  attachedTo := none
  hostDirty := false
  deviceDirty := false

/-- The view over storage that the host can address. -/
def wrapHost (name : String) (tensor : Tensor) : BufferView :=
  { ofTensor name tensor with host := tensor.data }

/-- The view over storage on a device of the backend. -/
def wrapDevice (name : String) (tensor : Tensor) (backend : Backend) : BufferView :=
  { ofTensor name tensor with device := tensor.data, attachedTo := some backend }

/-- The number of elements. Negative extents count as zero, and as soon as a product of
leading extents is above the limit the number is the limit. -/
def elements (view : BufferView) : Nat :=
  (view.shape.foldlM (fun size extent => timesWithin size extent.toInt.toNat) 1).getD sizeLimit

/-- The size of the storage in bytes, up to the limit. -/
def bytes (view : BufferView) : Nat := min (view.elements * view.type.bytes) sizeLimit

/-- Whether the device slot is in use. -/
def isAttached (view : BufferView) : Bool := view.attachedTo.isSome

/-- The view after its device allocation has gone back to the host framework. -/
def detach (view : BufferView) : BufferView :=
  { view with device := .null, attachedTo := none, deviceDirty := false }

@[simp] theorem isAttached_wrapHost (name : String) (tensor : Tensor) :
    (wrapHost name tensor).isAttached = false := rfl

@[simp] theorem isAttached_wrapDevice (name : String) (tensor : Tensor) (backend : Backend) :
    (wrapDevice name tensor backend).isAttached = true := rfl

@[simp] theorem isAttached_detach (view : BufferView) : view.detach.isAttached = false := rfl

end BufferView

end KernelBridge
