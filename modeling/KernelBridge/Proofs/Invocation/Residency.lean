import KernelBridge.Proofs.Invocation.Decision

/-!
# Where the tensors of a call lie

A kernel on CUDA is only called with tensors on the device of the call. On the host and on
Metal nobody looks where a tensor lies: the program that makes the call answers for that.

## Main definitions

* `HostDevice.place` — where the tensors of a call are meant to lie
* `HostDevice.Suits` — where a call lets its tensors lie
* `Invocation.ReachesKernel` — the call gets to its kernel
* `Tensor.SameApartFromPlace` — tensors that differ at most in where they lie

## Main results

* `Invocation.reachesKernel_residency` — which tensors keep a kernel from being called
-/

namespace KernelBridge

open Bridge (State Session Registry UserContext Aborted)

namespace HostDevice

/-- Where the tensors of a call on the device are meant to lie. -/
def place : HostDevice → TensorDevice
  | cpu => .host
  | cuda deviceId _ _ => .cuda deviceId
  | metal index _ => .mps index

/-- Where a call on the device lets its tensors lie: only CUDA is particular about it. -/
def Suits (device : HostDevice) (location : TensorDevice) : Prop :=
  device.backend = .cuda → location = device.place

end HostDevice

/-- The tensors differ at most in where they lie. -/
def Tensor.SameApartFromPlace (tensor other : Tensor) : Prop :=
  { tensor with device := other.device } = other

namespace Invocation

variable {invocation : Invocation} {elapsed : UInt64} {start : State}

/-- The call gets to its kernel: a kernel that ends the process ends it. -/
def ReachesKernel (invocation : Invocation) (elapsed : UInt64) (start : State) : Prop :=
  ∀ cause, ∃ left,
    invocation.run elapsed (fun _ _ => throw cause : Kernel Unit) start = .error cause left

/-- The tensors are ready if they are contiguous and lie where the device lets them. -/
theorem ready_iff :
    invocation.Ready ↔
      (∀ tensor ∈ invocation.tensors, tensor.2.isContiguous) ∧
        ∀ tensor ∈ invocation.tensors, invocation.device.Suits tensor.2.device := by
  constructor
  · intro h
    refine ⟨h.contiguous, fun tensor hmem hcuda => ?_⟩
    match hdevice : invocation.device with
    | .cuda deviceId context stream => exact h.resident _ _ _ hdevice tensor hmem
    | .cpu | .metal _ _ => simp [hdevice, HostDevice.backend] at hcuda
  · rintro ⟨hcontiguous, hsuits⟩
    refine ⟨hcontiguous, fun deviceId context stream hdevice tensor hmem => ?_⟩
    have hplace := hsuits tensor hmem
    rw [hdevice] at hplace
    exact hplace rfl

/-- A kernel can be called exactly if there is a user context for it, the tensors are ready and
its backend is installed. -/
theorem exists_admits_iff {registry : Registry} :
    (∃ user, invocation.Admits registry invocation.views user) ↔
      ¬ invocation.device.LacksStream ∧ invocation.Ready ∧
        registry.isInstalled invocation.backend = true := by
  constructor
  · rintro ⟨user, admits⟩
    exact ⟨admits.lends.not_lacksStream, admits.ready, admits.installed⟩
  · rintro ⟨hstream, hready, hinstalled⟩
    obtain ⟨user, lends⟩ := invocation.device.lends_or_lacksStream.resolve_right hstream
    exact ⟨user, lends, hready, hinstalled, forall₂_shows_iff.mpr rfl⟩

theorem reachesKernel_of_admits {user : Option UserContext}
    (admits : invocation.Admits start.registry invocation.views user) :
    invocation.ReachesKernel elapsed start := by
  intro cause
  exact ⟨invocation.entered start, run_of_ends (.aborted admits rfl)⟩

/-- Without a call of the kernel there is an error, the same for every kernel. -/
theorem reachesKernel_or_fails (invocation : Invocation) (elapsed : UInt64) (start : State) :
    (∃ user, invocation.Admits start.registry invocation.views user) ∨
      ∃ error left, ∀ (α : Type) (kernel : Kernel α),
        invocation.run elapsed kernel start = .ok { result := .error error } left := by
  rcases invocation.lacksStream_or_refusal_or_admits start.registry with
    lacks | ⟨error, refusal⟩ | admitted
  · exact .inr ⟨_, _, fun _ _ => run_of_lacksStream lacks⟩
  · exact .inr ⟨_, _, fun _ _ => run_of_ends (.refused refusal)⟩
  · exact .inl admitted

theorem reachesKernel_iff_admits :
    invocation.ReachesKernel elapsed start ↔
      ∃ user, invocation.Admits start.registry invocation.views user := by
  constructor
  · intro reaches
    refine (invocation.reachesKernel_or_fails elapsed start).resolve_right ?_
    rintro ⟨error, left, fails⟩
    obtain ⟨_, hended⟩ := reaches ⟨.nullStream⟩
    rw [fails] at hended
    cases hended
  · rintro ⟨user, admits⟩
    exact reachesKernel_of_admits admits

/-! ### Calls that are told apart by the places of their tensors only -/

/-- A call depends on its tensors only through the checks and the views. -/
theorem run_congr {α : Type} {other : Invocation} {kernel : Kernel α}
    (kernel_eq : other.kernel = invocation.kernel) (device : other.device = invocation.device)
    (flush : other.flushCache = invocation.flushCache)
    (checks : other.checkPreconditions = invocation.checkPreconditions)
    (views : other.views = invocation.views) :
    other.run elapsed kernel = invocation.run elapsed kernel := by
  obtain ⟨name, place, tensors, asked⟩ := invocation
  obtain ⟨name', place', tensors', asked'⟩ := other
  obtain rfl : name' = name := kernel_eq
  obtain rfl : place' = place := device
  obtain rfl : asked' = asked := flush
  have hcall : ∀ user,
      call ⟨name', place', tensors', asked'⟩ user kernel =
        call ⟨name', place', tensors, asked'⟩ user kernel := by
    intro user
    rw [call, call, checks]
    simp only [callKernel, views]
    rfl
  simp only [run, hcall]
  rfl

/-- Two lists of tensors under the same names that differ at most in where the tensors lie. -/
def Relocated (tensors others : List (String × Tensor)) : Prop :=
  List.Forall₂ (fun tensor other => other.1 = tensor.1 ∧ tensor.2.SameApartFromPlace other.2)
    tensors others

section Relocated

variable {tensors others : List (String × Tensor)}

theorem checkContiguous_relocated (h : Relocated tensors others) :
    checkContiguous others = checkContiguous tensors := by
  induction h with
  | nil => rfl
  | @cons tensor other rest rest' same _ ih =>
    obtain ⟨hname, hsame⟩ := same
    have hcontiguous : other.2.isContiguous = tensor.2.isContiguous := by rw [← hsame]; rfl
    change (if other.2.isContiguous then _ else _) >>= (fun _ => checkContiguous rest') =
      (if tensor.2.isContiguous then _ else _) >>= fun _ => checkContiguous rest
    rw [hcontiguous, hname, ih]

theorem views_relocated (h : Relocated tensors others) (backend : Backend) :
    (others.map fun tensor => wrap backend tensor.1 tensor.2) =
      tensors.map fun tensor => wrap backend tensor.1 tensor.2 := by
  induction h with
  | nil => rfl
  | @cons tensor other _ _ same _ ih =>
    obtain ⟨hname, hsame⟩ := same
    have hview : wrap backend other.1 other.2 = wrap backend tensor.1 tensor.2 := by
      rw [hname, ← hsame]
      cases backend <;> rfl
    rw [List.map_cons, List.map_cons, hview, ih]

end Relocated

/-- On the host and on Metal a call does the same wherever its tensors lie. -/
theorem run_relocated {α : Type} {kernel : Kernel α} {others : List (String × Tensor)}
    (other : invocation.backend ≠ .cuda) (h : Relocated invocation.tensors others) :
    Invocation.run { invocation with tensors := others } elapsed kernel =
      invocation.run elapsed kernel := by
  have hchecks : Invocation.checkPreconditions { invocation with tensors := others } =
      checkContiguous others :=
    checkPreconditions_of_ne_cuda other
  refine run_congr rfl rfl rfl ?_ (views_relocated h _)
  rw [hchecks, checkPreconditions_of_ne_cuda other]
  exact checkContiguous_relocated h

/-- **Residency.** A kernel is called exactly if there is a user context for it, all tensors
are contiguous, those of a call on CUDA lie on its device, and the backend is installed;
otherwise the call fails without it. Calls on the host and on Metal do the same wherever
their tensors lie. -/
theorem reachesKernel_residency (invocation : Invocation) (elapsed : UInt64) (start : State) :
    (invocation.ReachesKernel elapsed start ↔
      ¬ invocation.device.LacksStream ∧
        (∀ tensor ∈ invocation.tensors, tensor.2.isContiguous) ∧
        (∀ tensor ∈ invocation.tensors, invocation.device.Suits tensor.2.device) ∧
        start.registry.isInstalled invocation.backend = true) ∧
      (¬ invocation.ReachesKernel elapsed start →
        ∃ error left, ∀ (α : Type) (kernel : Kernel α),
          invocation.run elapsed kernel start = .ok { result := .error error } left) ∧
      (invocation.backend ≠ .cuda → ∀ others, Relocated invocation.tensors others →
        ∀ (α : Type) (kernel : Kernel α),
          Invocation.run { invocation with tensors := others } elapsed kernel start =
            invocation.run elapsed kernel start) := by
  refine ⟨?_, ?_, ?_⟩
  · rw [reachesKernel_iff_admits, exists_admits_iff, ready_iff, and_assoc]
  · intro unreached
    refine (invocation.reachesKernel_or_fails elapsed start).resolve_left ?_
    rwa [← reachesKernel_iff_admits]
  · intro hother others hrelocated α kernel
    rw [run_relocated hother hrelocated]

/-- A call on the host hands a tensor on a CUDA device to its kernel, and a call on Metal
hands over one that lies on the host. -/
theorem reachesKernel_elsewhere :
    (Invocation.ReachesKernel
        { kernel := "f", device := .cpu
          tensors := [("x", ⟨.f32, [2], [1], .cuda 0, ⟨0x1000⟩⟩)] } 0 {} ∧
      TensorDevice.cuda 0 ≠ HostDevice.place .cpu) ∧
      Invocation.ReachesKernel
        { kernel := "f", device := .metal 0 (some ⟨"s", ⟨0xd0⟩, ⟨0xc0⟩, [.work]⟩)
          tensors := [("x", ⟨.f32, [2], [1], .host, ⟨0x1000⟩⟩)] } 0
        { registry := Bridge.Registry.installMetal {} {} } ∧
      TensorDevice.host ≠
        HostDevice.place (.metal 0 (some ⟨"s", ⟨0xd0⟩, ⟨0xc0⟩, [.work]⟩)) := by
  refine ⟨⟨?_, by decide⟩, ?_, by decide⟩
  · intro cause
    exact ⟨_, rfl⟩
  · intro cause
    exact ⟨_, rfl⟩

end Invocation

end KernelBridge
