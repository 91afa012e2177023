import KernelBridge.Bridge.Config
import KernelBridge.Bridge.Hook

/-!
# The registry

There is one registry for the whole process. Kernel runtimes look their hooks up in it, so
a bridge has to be installed before the first kernel of its backend runs.

## Main definitions

* `Registry` — the hooks, the table of streams, the cleanup and the configuration
* `Registry.isInstalled` — kernels of the backend see the host's device state
* `Registry.installCuda`, `Registry.installMetal`, `Registry.uninstall`, `Registry.reset` — the
  changes that concern more than one slot
-/

namespace KernelBridge.Bridge

/-- What is registered. -/
@[ext]
structure Registry where
  cuda : CudaHooks := {}
  metal : MetalHooks := {}
  streamTable : Option StreamTable := none
  cleanup : Option Cleanup := none
  config : Config := {}

namespace Registry

/-- Kernels of the backend see the host's device state. On Metal the table that leads to the
host's streams is needed too. -/
def isInstalled (registry : Registry) : Backend → Bool
  | .cpu => true
  | .cuda => registry.cuda.isComplete
  | .metal => registry.metal.isComplete && registry.streamTable.isSome

/-- The registry with the bridge's own hooks for CUDA. -/
def installCuda (registry : Registry) : Registry := { registry with cuda := .bridge }

/-- The registry with the bridge's own hooks for Metal and a table that leads to the host's
streams. -/
def installMetal (registry : Registry) (table : StreamTable) : Registry :=
  { registry with metal := .bridge, streamTable := some table }

/-- The registry without any hooks for a backend. -/
def uninstall (registry : Registry) : Backend → Registry
  | .cpu => registry
  | .cuda => { registry with cuda := {} }
  | .metal => { registry with metal := {}, streamTable := none }

/-- The registry without anything in it. -/
def reset (registry : Registry) : Registry :=
  { Backend.all.foldl uninstall registry with cleanup := none, config := {} }

@[simp] theorem isInstalled_cpu (registry : Registry) : registry.isInstalled .cpu = true := rfl

@[simp] theorem isInstalled_installCuda (registry : Registry) :
    registry.installCuda.isInstalled .cuda = true := rfl

@[simp] theorem isInstalled_installMetal (registry : Registry) (table : StreamTable) :
    (registry.installMetal table).isInstalled .metal = true := rfl

@[simp] theorem reset_eq (registry : Registry) : registry.reset = {} := rfl

end Registry

end KernelBridge.Bridge
