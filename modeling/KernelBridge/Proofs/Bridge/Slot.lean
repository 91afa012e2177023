import KernelBridge.Bridge.Registry

/-!
# Slots of the registry

The registry is read here one slot at a time. It consists of its slots and of nothing else,
and each slot is of one backend, except for the table that leads to the host's streams, the
cleanup and the configuration.

## Main definitions

* `Slot`, `Slot.Content` — the places in the registry, and what each can hold
* `Registry.read` — what a slot holds
* `Registry.Fills` — a slot does not hold what it holds by default

## Main results

* `Registry.ext_read` — a registry is known when all its slots are
* `Registry.isInstalled_cuda_iff`, `Registry.isInstalled_metal_iff` — the slots that have to
  be filled before kernels of a backend see the host's device state
-/

namespace KernelBridge.Bridge

/-- A place in the registry. -/
inductive Slot where
  | cudaAcquireContext
  | cudaReleaseContext
  | cudaGetStream
  | cudaGetDevice
  | metalAcquireContext
  | metalReleaseContext
  | metalPreRun
  | metalDefaultDevice
  | metalNewCommandQueue
  | metalGetDevice
  | streamTable
  | cleanup
  | config
  deriving DecidableEq, Repr

namespace Slot

/-- What a slot can hold. Only the configuration is always there. -/
abbrev Content : Slot → Type
  | cudaAcquireContext => Option (Hook AcquireCudaContext)
  | cudaReleaseContext => Option (Hook ReleaseContext)
  | cudaGetStream => Option (Hook GetCudaStream)
  | cudaGetDevice => Option (Hook GetDevice)
  | metalAcquireContext => Option (Hook AcquireMetalContext)
  | metalReleaseContext => Option (Hook ReleaseContext)
  | metalPreRun => Option (Hook PreRun)
  | metalDefaultDevice => Option (Hook DefaultDevice)
  | metalNewCommandQueue => Option (Hook NewCommandQueue)
  | metalGetDevice => Option (Hook GetDevice)
  | streamTable => Option StreamTable
  | cleanup => Option Cleanup
  | config => Config

/-- The backend whose hook goes into a slot. -/
def backend? : Slot → Option Backend
  | cudaAcquireContext | cudaReleaseContext | cudaGetStream | cudaGetDevice => some .cuda
  | metalAcquireContext | metalReleaseContext | metalPreRun | metalDefaultDevice
  | metalNewCommandQueue | metalGetDevice => some .metal
  | streamTable | cleanup | config => none

end Slot

namespace Registry

variable {first second : Registry}

/-- What a slot holds. -/
def read (registry : Registry) : (slot : Slot) → slot.Content
  | .cudaAcquireContext => registry.cuda.acquireContext
  | .cudaReleaseContext => registry.cuda.releaseContext
  | .cudaGetStream => registry.cuda.getStream
  | .cudaGetDevice => registry.cuda.getDevice
  | .metalAcquireContext => registry.metal.acquireContext
  | .metalReleaseContext => registry.metal.releaseContext
  | .metalPreRun => registry.metal.preRun
  | .metalDefaultDevice => registry.metal.defaultDevice
  | .metalNewCommandQueue => registry.metal.newCommandQueue
  | .metalGetDevice => registry.metal.getDevice
  | .streamTable => registry.streamTable
  | .cleanup => registry.cleanup
  | .config => registry.config

/-- The registry has no other places. -/
theorem ext_read (h : ∀ slot, first.read slot = second.read slot) : first = second := by
  have hcuda : first.cuda = second.cuda :=
    CudaHooks.ext (h .cudaAcquireContext) (h .cudaReleaseContext) (h .cudaGetStream)
      (h .cudaGetDevice)
  have hmetal : first.metal = second.metal :=
    MetalHooks.ext (h .metalAcquireContext) (h .metalReleaseContext) (h .metalPreRun)
      (h .metalDefaultDevice) (h .metalNewCommandQueue) (h .metalGetDevice)
  exact Registry.ext hcuda hmetal (h .streamTable) (h .cleanup) (h .config)

/-- A slot holds something else than by default, where hooks are missing. -/
def Fills (registry : Registry) (slot : Slot) : Prop :=
  registry.read slot ≠ ({} : Registry).read slot

/-- Kernels on CUDA see the host's device state when all four hooks are there. -/
theorem isInstalled_cuda_iff {registry : Registry} :
    registry.isInstalled .cuda ↔
      ∀ slot : Slot, slot.backend? = some .cuda → registry.Fills slot := by
  constructor
  · intro h slot hslot
    simp only [isInstalled, CudaHooks.isComplete, Bool.and_eq_true, Option.isSome_iff_ne_none]
      at h
    obtain ⟨⟨⟨hacquire, hrelease⟩, hstream⟩, hdevice⟩ := h
    cases slot with
    | cudaAcquireContext => exact hacquire
    | cudaReleaseContext => exact hrelease
    | cudaGetStream => exact hstream
    | cudaGetDevice => exact hdevice
    | _ => simp [Slot.backend?] at hslot
  · intro h
    simp only [isInstalled, CudaHooks.isComplete, Bool.and_eq_true, Option.isSome_iff_ne_none]
    exact ⟨⟨⟨h .cudaAcquireContext rfl, h .cudaReleaseContext rfl⟩, h .cudaGetStream rfl⟩,
      h .cudaGetDevice rfl⟩

/-- Kernels on Metal see the host's device state when all six hooks are there, and the table
that leads to the host's streams. -/
theorem isInstalled_metal_iff {registry : Registry} :
    registry.isInstalled .metal ↔
      (∀ slot : Slot, slot.backend? = some .metal → registry.Fills slot) ∧
        registry.Fills .streamTable := by
  constructor
  · intro h
    simp only [isInstalled, MetalHooks.isComplete, Bool.and_eq_true, Option.isSome_iff_ne_none]
      at h
    obtain ⟨⟨⟨⟨⟨⟨hacquire, hrelease⟩, hpre⟩, hdefault⟩, hqueue⟩, hdevice⟩, htable⟩ := h
    refine ⟨fun slot hslot => ?_, htable⟩
    cases slot with
    | metalAcquireContext => exact hacquire
    | metalReleaseContext => exact hrelease
    | metalPreRun => exact hpre
    | metalDefaultDevice => exact hdefault
    | metalNewCommandQueue => exact hqueue
    | metalGetDevice => exact hdevice
    | _ => simp [Slot.backend?] at hslot
  · rintro ⟨h, htable⟩
    simp only [isInstalled, MetalHooks.isComplete, Bool.and_eq_true, Option.isSome_iff_ne_none]
    exact ⟨⟨⟨⟨⟨⟨h .metalAcquireContext rfl, h .metalReleaseContext rfl⟩, h .metalPreRun rfl⟩,
      h .metalDefaultDevice rfl⟩, h .metalNewCommandQueue rfl⟩, h .metalGetDevice rfl⟩,
      htable⟩

end Registry

end KernelBridge.Bridge
