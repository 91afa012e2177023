import KernelBridge.Handle
import KernelBridge.ScalarType

/-!
# Tensors

What the bridge knows of a tensor of the host framework: the type of its elements, its
extents and strides, the device that holds it, and the address of its first element.

## Main definitions

* `TensorDevice` — where the storage of a tensor lies
* `Tensor` — a tensor of the host framework
* `Tensor.isContiguous` — the elements lie one after the other in row-major order
-/

namespace KernelBridge

/-- Where the storage of a tensor lies. -/
inductive TensorDevice where
  | host
  | cuda (index : Int32)
  | mps (index : Int32)
  deriving DecidableEq, Repr

/-- The device as it is named in messages. -/
def TensorDevice.text : TensorDevice → String
  | host => "cpu"
  | cuda index => "cuda:" ++ toString index.toInt
  | mps index => "mps:" ++ toString index.toInt

/-- A tensor of the host framework. -/
structure Tensor where
  type : ScalarType
  shape : List Int64
  /-- The distance between neighbours in each dimension, counted in elements. -/
  strides : List Int64
  device : TensorDevice
  /-- The first element, on whatever device holds it. -/
  data : Handle
  deriving DecidableEq, Repr

/-- The number is a signed integer of 64 bits. -/
def fitsInt64 (n : Int) : Bool := Int64.minValue.toInt ≤ n && n ≤ Int64.maxValue.toInt

/-- Each dimension has the stride that row-major order asks of it, from the last dimension
on. `expected` is the number of elements in all dimensions before; it has to stay within 64
bits. A dimension with one place may have any stride. -/
def isRowMajor (expected : Int) : (dimensions : List (Int64 × Int64)) → Bool
  | [] => true
  | (extent, stride) :: rest =>
    let next := expected * extent.toInt
    (extent == 1 || stride.toInt == expected) && fitsInt64 next && isRowMajor next rest

namespace Tensor

/-- The extents with their strides, from the last dimension on. -/
def dimensions (tensor : Tensor) : List (Int64 × Int64) :=
  (tensor.shape.zip tensor.strides).reverse

/-- The elements lie one after the other in row-major order. A tensor without elements is
contiguous whatever its strides are. -/
def isContiguous (tensor : Tensor) : Bool :=
  tensor.shape.length == tensor.strides.length
    && (tensor.shape.contains 0 || isRowMajor 1 tensor.dimensions)

end Tensor

@[simp] theorem fitsInt64_iff {n : Int} :
    fitsInt64 n = true ↔ Int64.minValue.toInt ≤ n ∧ n ≤ Int64.maxValue.toInt := by
  simp [fitsInt64]

end KernelBridge
