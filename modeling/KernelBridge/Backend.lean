import KernelBridge.Text.Ascii
import KernelBridge.Text.Blank

/-!
# Backends

A wrapper is generated for exactly one family of accelerators, or for the host itself.

## Main definitions

* `Backend` — the host, CUDA and Metal
* `Backend.parse` — the backend of a name or alias
* `Backend.IsGpu` — kernels of the backend run on a device of the host framework
-/

namespace KernelBridge

/-- The families of devices that kernels run on. -/
inductive Backend where
  | cpu
  | cuda
  | metal
  deriving DecidableEq, Repr

namespace Backend

/-- Every backend, in order. -/
def all : List Backend := [cpu, cuda, metal]

/-- The name, which is also the backend's token in a target string. -/
def name : Backend → String
  | cpu => "cpu"
  | cuda => "cuda"
  | metal => "metal"

/-- Kernels of the backend run on a device that the host framework owns. -/
def IsGpu (backend : Backend) : Prop := backend ≠ cpu

instance : DecidablePred IsGpu := fun _ => inferInstanceAs (Decidable (_ ≠ _))

/-- The place of the backend among all of them. -/
def index : Backend → Nat
  | cpu => 0
  | cuda => 1
  | metal => 2

/-- The backends in ascending order. -/
def sorted (backends : List Backend) : List Backend :=
  backends.mergeSort fun a b => a.index ≤ b.index

/-- The backends by their names. -/
def named : List (String × Backend) := all.map fun backend => (backend.name, backend)

/-- A name that no backend has, trimmed and in small letters. -/
structure Unknown where
  name : String
  deriving DecidableEq, Repr

def Unknown.message (unknown : Unknown) : String := "unknown backend: " ++ unknown.name

/-- The backend of a name or alias, whatever its case and the blanks around it. -/
def parse (text : String) : Except Unknown Backend :=
  let name := Text.lowered (Text.trimmed text)
  if name = "cpu" ∨ name = "host" then .ok cpu
  else if name = "cuda" then .ok cuda
  else if name = "metal" ∨ name = "mps" then .ok metal
  else .error ⟨name⟩

@[simp] theorem isGpu_iff {backend : Backend} : backend.IsGpu ↔ backend ≠ cpu := Iff.rfl

end Backend

end KernelBridge
