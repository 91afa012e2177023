import KernelBridge.Text.Quoted

/-!
# Handles

Devices, contexts, streams and queues are opaque to the bridge: it copies their addresses
and never looks behind them.

## Main definitions

* `Handle` — an address of 64 bits, possibly null
* `Handle.text` — the address in hexadecimal digits
-/

namespace KernelBridge

/-- The address of something that a driver or the host framework owns. -/
structure Handle where
  address : UInt64
  deriving DecidableEq, Repr

/-- The handle of nothing. -/
def Handle.null : Handle := ⟨0⟩

instance : Inhabited Handle := ⟨Handle.null⟩

/-- The handle does not name anything. -/
def Handle.isNull (handle : Handle) : Bool := handle == null

/-- The address in hexadecimal digits. -/
def Handle.text (handle : Handle) : String := "0x" ++ Text.hexadecimal handle.address.toNat

@[simp] theorem Handle.isNull_iff {handle : Handle} : handle.isNull = true ↔ handle = null := by
  simp [isNull]

end KernelBridge
