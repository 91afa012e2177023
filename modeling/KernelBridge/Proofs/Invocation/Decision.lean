import Mathlib.Data.List.Forall2
import KernelBridge.Invocation
import KernelBridge.Proofs.FirstFault

/-!
# What a call of a kernel does

A call decides step by step whether its kernel runs and how it ends. The decision is stated
here without the checks that make it: by the first tensor in order that fails a test, by the
view that a tensor has to show, by what the kernel returns. One relation lists every way in
which a call can end, with the state that is left.

## Main definitions

* `FirstFailing` — the first tensor of a list that fails a test
* `HostDevice.LacksStream`, `HostDevice.Lends` — the user context that a device lends, if any
* `BufferView.Shows` — the view that a kernel gets for a tensor
* `Invocation.Refusal`, `Invocation.Admits` — what keeps a kernel from being called, and what
  it is called with
* `Invocation.Flushes` — what happens to the memoization cache
* `Invocation.Ends` — the ways in which a call ends

## Main results

* `Invocation.run_eq_iff_ends` — a call ends in exactly one way, the listed one
-/

namespace KernelBridge

open Bridge (State Session Registry UserContext Aborted)

/-- The first tensor of a list that fails a test, with the name of its buffer. -/
def FirstFailing (test : Tensor → Prop) (tensors : List (String × Tensor)) (name : String)
    (tensor : Tensor) : Prop :=
  ∃ before after, tensors = before ++ (name, tensor) :: after ∧
    (∀ other ∈ before, test other.2) ∧ ¬ test tensor

/-! ### The user context -/

namespace HostDevice

variable {device : HostDevice} {user : Option UserContext}

/-- A Metal device that comes without a stream. -/
def LacksStream (device : HostDevice) : Prop := ∃ index, device = .metal index none

/-- The user context that lends a device to a kernel. -/
inductive Lends : HostDevice → Option UserContext → Prop where
  | host : Lends .cpu none
  | cuda (deviceId : Int32) (context stream : Handle) :
      Lends (.cuda deviceId context stream) (some (.cuda deviceId (some context) (some stream)))
  | metal (index : Int32) (stream : Bridge.HostStream) :
      Lends (.metal index (some stream)) (some (.metal index (some stream)))

theorem lends_iff : device.Lends user ↔ device.userContext = .ok user := by
  constructor
  · rintro (_ | _ | _) <;> rfl
  · intro h
    match device, h with
    | .cpu, h => obtain rfl := Except.ok.inj h; exact .host
    | .cuda _ _ _, h => obtain rfl := Except.ok.inj h; exact .cuda _ _ _
    | .metal _ (some _), h => obtain rfl := Except.ok.inj h; exact .metal _ _

theorem userContext_eq_error_iff {error : Bridge.Error} :
    device.userContext = .error error ↔ device.LacksStream ∧ error = .nullStream := by
  constructor
  · intro h
    match device, h with
    | .metal index none, h => exact ⟨⟨index, rfl⟩, (Except.error.inj h).symm⟩
  · rintro ⟨⟨index, rfl⟩, rfl⟩
    rfl

/-- A device lends a user context, or it comes without a stream. -/
theorem lends_or_lacksStream (device : HostDevice) :
    (∃ user, device.Lends user) ∨ device.LacksStream := by
  cases h : device.userContext with
  | ok user => exact .inl ⟨user, lends_iff.mpr h⟩
  | error error => exact .inr (userContext_eq_error_iff.mp h).1

theorem Lends.not_lacksStream (h : device.Lends user) : ¬ device.LacksStream := by
  rintro ⟨index, rfl⟩
  cases h

end HostDevice

/-! ### The views -/

/-- The view that a kernel of the backend gets for a tensor: everything that is known of the
tensor, with the storage in the device slot on CUDA and in the host slot elsewhere. Neither
copy counts as newer. -/
structure BufferView.Shows (backend : Backend) (tensor : String × Tensor) (view : BufferView) :
    Prop where
  name : view.name = tensor.1
  type : view.type = tensor.2.type
  shape : view.shape = tensor.2.shape
  strides : view.strides = tensor.2.strides
  host : view.host = if backend = .cuda then .null else tensor.2.data
  device : view.device = if backend = .cuda then tensor.2.data else .null
  attachedTo : view.attachedTo = if backend = .cuda then some .cuda else none
  hostClean : view.hostDirty = false
  deviceClean : view.deviceDirty = false

theorem BufferView.shows_iff {backend : Backend} {tensor : String × Tensor}
    {view : BufferView} :
    view.Shows backend tensor ↔ view = Invocation.wrap backend tensor.1 tensor.2 := by
  constructor
  · rintro ⟨hname, htype, hshape, hstrides, hhost, hdevice, hattached, hclean, hclean'⟩
    obtain ⟨name, type, shape, strides, host, device, attachedTo, hostDirty, deviceDirty⟩ := view
    cases backend <;> simp_all [Invocation.wrap, wrapHost, wrapDevice, ofTensor]
  · rintro rfl
    cases backend <;> constructor <;> rfl

/-- The views of a call are the only ones that show its tensors. -/
theorem Invocation.forall₂_shows_iff {invocation : Invocation} {views : List BufferView} :
    List.Forall₂ (fun tensor view => view.Shows invocation.backend tensor)
        invocation.tensors views ↔
      views = invocation.views := by
  simp only [BufferView.shows_iff]
  rw [Invocation.views, eq_comm, ← List.forall₂_eq_eq_eq, List.forall₂_map_left_iff]
  simp only [eq_comm]

namespace Invocation

open FirstFault

variable {invocation : Invocation} {error : Bridge.Error}

/-! ### The checks of the tensors -/

/-- Every tensor may be handed to the kernel. -/
structure Ready (invocation : Invocation) : Prop where
  contiguous : ∀ tensor ∈ invocation.tensors, tensor.2.isContiguous
  resident : ∀ deviceId context stream, invocation.device = .cuda deviceId context stream →
    ∀ tensor ∈ invocation.tensors, tensor.2.device = .cuda deviceId

/-- A tensor that may not be handed to the kernel: contiguity of all tensors comes first. -/
inductive Unready (invocation : Invocation) : Bridge.Error → Prop where
  | nonContiguous {name : String} {tensor : Tensor}
      (first : FirstFailing (·.isContiguous) invocation.tensors name tensor) :
      Unready invocation (.nonContiguous name)
  | wrongDevice {deviceId : Int32} {context stream : Handle} {name : String} {tensor : Tensor}
      (cuda : invocation.device = .cuda deviceId context stream)
      (contiguous : ∀ tensor ∈ invocation.tensors, tensor.2.isContiguous)
      (first : FirstFailing (·.device = .cuda deviceId) invocation.tensors name tensor) :
      Unready invocation (.wrongDevice name deviceId tensor.device)

section Tensors

variable {test : Tensor → Bool} {fault : String → Tensor → Bridge.Error}
  {tensors : List (String × Tensor)}

theorem checkTensors_eq_ok_iff :
    checkTensors test fault tensors = .ok () ↔ ∀ tensor ∈ tensors, test tensor.2 := by
  rw [checkTensors, forM_eq_ok_iff]
  simp

theorem checkTensors_eq_error_iff :
    checkTensors test fault tensors = .error error ↔
      ∃ name tensor, FirstFailing (test ·) tensors name tensor ∧ error = fault name tensor := by
  rw [checkTensors, forM_eq_error_iff]
  constructor
  · rintro ⟨before, ⟨name, tensor⟩, after, hsplit, hbefore, hfails⟩
    by_cases htest : test tensor
    · simp [htest] at hfails
    · rw [if_neg htest] at hfails
      exact ⟨name, tensor, ⟨before, after, hsplit, by simpa using hbefore, htest⟩,
        (Except.error.inj hfails).symm⟩
  · rintro ⟨name, tensor, ⟨before, after, hsplit, hbefore, htest⟩, rfl⟩
    exact ⟨before, (name, tensor), after, hsplit, by simpa using hbefore, if_neg htest⟩

end Tensors

/-- On CUDA the device of the tensors is checked as well. -/
theorem checkPreconditions_of_cuda {deviceId : Int32} {context stream : Handle}
    (cuda : invocation.device = .cuda deviceId context stream) :
    invocation.checkPreconditions =
      checkContiguous invocation.tensors >>= fun _ =>
        checkResident deviceId invocation.tensors := by
  rw [checkPreconditions, cuda]

theorem checkPreconditions_of_ne_cuda (other : invocation.backend ≠ .cuda) :
    invocation.checkPreconditions = checkContiguous invocation.tensors := by
  have hdone : (checkContiguous invocation.tensors >>= fun _ => .ok ()) =
      checkContiguous invocation.tensors := by
    cases checkContiguous invocation.tensors <;> rfl
  cases hdevice : invocation.device with
  | cuda => simp [backend, hdevice, HostDevice.backend] at other
  | cpu | metal => rw [← hdone, checkPreconditions, hdevice]

theorem checkPreconditions_eq_ok_iff :
    invocation.checkPreconditions = .ok () ↔ invocation.Ready := by
  rw [checkPreconditions, then_eq_ok_iff, checkContiguous, checkTensors_eq_ok_iff]
  constructor
  · rintro ⟨hcontiguous, hresident⟩
    refine ⟨hcontiguous, fun deviceId context stream hdevice => ?_⟩
    rw [hdevice] at hresident
    simpa using checkTensors_eq_ok_iff.mp hresident
  · rintro ⟨hcontiguous, hresident⟩
    refine ⟨hcontiguous, ?_⟩
    split
    · next deviceId context stream hdevice =>
      exact checkTensors_eq_ok_iff.mpr (by simpa using hresident deviceId context stream hdevice)
    · rfl

theorem checkPreconditions_eq_error_iff :
    invocation.checkPreconditions = .error error ↔ invocation.Unready error := by
  rw [checkPreconditions, bind_eq_error_iff, checkContiguous, checkTensors_eq_error_iff]
  constructor
  · rintro (⟨name, tensor, hfirst, rfl⟩ | ⟨_, hcontiguous, hresident⟩)
    · exact .nonContiguous hfirst
    · split at hresident
      · next deviceId context stream hdevice =>
        obtain ⟨name, tensor, hfirst, rfl⟩ := checkTensors_eq_error_iff.mp hresident
        exact .wrongDevice hdevice (checkTensors_eq_ok_iff.mp hcontiguous) (by simpa using hfirst)
      · cases hresident
  · rintro (@⟨name, tensor, hfirst⟩ |
      @⟨deviceId, context, stream, name, tensor, hdevice, hcontiguous, hfirst⟩)
    · exact .inl ⟨name, tensor, hfirst, rfl⟩
    · refine .inr ⟨(), checkTensors_eq_ok_iff.mpr hcontiguous, ?_⟩
      rw [hdevice]
      exact checkTensors_eq_error_iff.mpr ⟨name, tensor, by simpa using hfirst, rfl⟩

/-! ### The ways in which a call ends -/

/-- Why a kernel is not called, given what is registered. -/
inductive Refusal (invocation : Invocation) (registry : Registry) : Bridge.Error → Prop where
  | unready {error : Bridge.Error} (stream : ¬ invocation.device.LacksStream)
      (fault : invocation.Unready error) : Refusal invocation registry error
  | notInstalled (stream : ¬ invocation.device.LacksStream) (ready : invocation.Ready)
      (missing : registry.isInstalled invocation.backend = false) :
      Refusal invocation registry (.hooksNotInstalled invocation.backend)

/-- The kernel is called with these views, one for each tensor, and this user context. -/
structure Admits (invocation : Invocation) (registry : Registry) (views : List BufferView)
    (user : Option UserContext) : Prop where
  lends : invocation.device.Lends user
  ready : invocation.Ready
  installed : registry.isInstalled invocation.backend = true
  shows : List.Forall₂ (fun tensor view => view.Shows invocation.backend tensor)
    invocation.tensors views

/-- What happens to the memoization cache between two states: nothing if nobody asks for it,
otherwise one call of the registered cleanup with the user context, or two reports that there
is none. -/
inductive Flushes (invocation : Invocation) (user : Option UserContext) (state : State) :
    State → Prop where
  | unasked (h : invocation.flushCache = false) : Flushes invocation user state state
  | cleaned {cleanup : Bridge.Cleanup} (h : invocation.flushCache = true)
      (registered : state.registry.cleanup = some cleanup) :
      Flushes invocation user state
        (state.called (.handler cleanup.label (user.map UserContext.deviceId)))
  | unanswered (h : invocation.flushCache = true) (missing : state.registry.cleanup = none) :
      Flushes invocation user state
        (state.logged [.flushSkipped, .flushUnanswered invocation.kernel])

/-- The state after the section around a call has been opened. -/
def opened (invocation : Invocation) (state : State) : State :=
  state.logged (Tracing.opening sectionName invocation.sectionDetails)

/-- The state in which the kernel is called. -/
def entered (invocation : Invocation) (state : State) : State :=
  (invocation.opened state).logged
    [.kernelInvoked invocation.kernel invocation.backend invocation.tensors.length]

/-- The state after the section around a call has been closed. -/
def closed (elapsed : UInt64) (state : State) : State :=
  state.logged (Tracing.Section.closing { name := sectionName } state.performance elapsed)

/-- The ways in which a call ends. Before the kernel nothing but the log changes. The kernel
is called once, in the state `entered`, and what is left afterwards comes from the state that
it leaves. -/
inductive Ends (invocation : Invocation) (elapsed : UInt64) (kernel : Kernel α)
    (start : State) : EStateM.Result Aborted State (Outcome α) → Prop where
  | lacksStream (lacks : invocation.device.LacksStream) :
      Ends invocation elapsed kernel start (.ok { result := .error .nullStream } start)
  | refused {error : Bridge.Error} (refusal : invocation.Refusal start.registry error) :
      Ends invocation elapsed kernel start
        (.ok { result := .error error } (closed elapsed (invocation.opened start)))
  /-- The process ends inside the kernel. -/
  | aborted {views : List BufferView} {user : Option UserContext} {cause : Aborted}
      {left : State} (admits : invocation.Admits start.registry views user)
      (called : kernel views user (invocation.entered start) = .error cause left) :
      Ends invocation elapsed kernel start (.error cause left)
  | kernelFailed {views : List BufferView} {user : Option UserContext}
      {returned : KernelReturn α} {left : State}
      (admits : invocation.Admits start.registry views user)
      (called : kernel views user (invocation.entered start) = .ok returned left)
      (failed : returned.status ≠ 0) :
      Ends invocation elapsed kernel start
        (.ok { result := .error (.kernelFailed invocation.kernel returned.status)
               report := some returned.report
               views := returned.views } (closed elapsed left))
  /-- The views before the first that the host changed have been detached already. -/
  | hostDirty {views : List BufferView} {user : Option UserContext}
      {returned : KernelReturn α} {left : State} {before after : List BufferView}
      {view : BufferView} (admits : invocation.Admits start.registry views user)
      (called : kernel views user (invocation.entered start) = .ok returned left)
      (succeeded : returned.status = 0) (cuda : invocation.backend = .cuda)
      (split : returned.views = before ++ view :: after)
      (clean : ∀ other ∈ before, other.hostDirty = false) (dirty : view.hostDirty = true) :
      Ends invocation elapsed kernel start
        (.ok { result := .error (.hostDirty view.name)
               report := some returned.report
               views := before.map BufferView.detach ++ view :: after } (closed elapsed left))
  | finished {views : List BufferView} {user : Option UserContext}
      {returned : KernelReturn α} {left flushed : State}
      (admits : invocation.Admits start.registry views user)
      (called : kernel views user (invocation.entered start) = .ok returned left)
      (succeeded : returned.status = 0)
      (clean : invocation.backend = .cuda → ∀ view ∈ returned.views, view.hostDirty = false)
      (flushes : invocation.Flushes user left flushed) :
      Ends invocation elapsed kernel start
        (.ok { result := .ok 0
               report := some returned.report
               views := if invocation.backend = .cuda then returned.views.map BufferView.detach
                 else returned.views }
          (closed elapsed (flushed.logged
            [.invocationRecorded invocation.kernel invocation.backend
              returned.views.length])))

/-! ### What a kernel leaves behind -/

theorem settle_of_clean {views : List BufferView}
    (h : ∀ view ∈ views, view.hostDirty = false) :
    settle views = (.ok (), views.map BufferView.detach) := by
  induction views with
  | nil => rfl
  | cons view rest ih =>
    obtain ⟨hview, hrest⟩ := List.forall_mem_cons.mp h
    simp [settle, hview, ih hrest]

theorem settle_of_dirty {before after : List BufferView} {view : BufferView}
    (clean : ∀ other ∈ before, other.hostDirty = false) (dirty : view.hostDirty = true) :
    settle (before ++ view :: after) =
      (.error (.hostDirty view.name), before.map BufferView.detach ++ view :: after) := by
  induction before with
  | nil => simp [settle, dirty]
  | cons other rest ih =>
    obtain ⟨hother, hrest⟩ := List.forall_mem_cons.mp clean
    simp [settle, hother, ih hrest]

/-- Some first view has been changed by the host, or none has. -/
theorem all_clean_or_first_dirty (views : List BufferView) :
    (∀ view ∈ views, view.hostDirty = false) ∨
      ∃ before view after, views = before ++ view :: after ∧
        (∀ other ∈ before, other.hostDirty = false) ∧ view.hostDirty = true := by
  induction views with
  | nil => exact .inl (by simp)
  | cons view rest ih =>
    cases hview : view.hostDirty with
    | true => exact .inr ⟨[], view, rest, rfl, by simp, hview⟩
    | false =>
      rcases ih with hclean | ⟨before, dirty, after, rfl, hbefore, hdirty⟩
      · exact .inl (List.forall_mem_cons.mpr ⟨hview, hclean⟩)
      · exact .inr ⟨view :: before, dirty, after, rfl,
          List.forall_mem_cons.mpr ⟨hview, hbefore⟩, hdirty⟩

variable {α : Type} {kernel : Kernel α} {elapsed : UInt64} {user : Option UserContext}
  {views : List BufferView} {start state left : State} {returned : KernelReturn α}

theorem checkKernel_of_failed {status : Int32} (h : status ≠ 0) :
    invocation.checkKernel status views =
      (.error (.kernelFailed invocation.kernel status), views) :=
  if_pos h

theorem checkKernel_of_succeeded :
    invocation.checkKernel 0 views =
      if invocation.backend = .cuda then settle views else (.ok (), views) :=
  if_neg (by simp)

theorem checkKernel_of_clean {status : Int32} (succeeded : status = 0)
    (clean : invocation.backend = .cuda → ∀ view ∈ views, view.hostDirty = false) :
    invocation.checkKernel status views =
      (.ok (), if invocation.backend = .cuda then views.map BufferView.detach else views) := by
  rw [succeeded, checkKernel_of_succeeded]
  by_cases hcuda : invocation.backend = .cuda
  · rw [if_pos hcuda, if_pos hcuda, settle_of_clean (clean hcuda)]
  · rw [if_neg hcuda, if_neg hcuda]

theorem checkKernel_of_dirty {status : Int32} {before after : List BufferView}
    {view : BufferView} (succeeded : status = 0) (cuda : invocation.backend = .cuda)
    (clean : ∀ other ∈ before, other.hostDirty = false) (dirty : view.hostDirty = true) :
    invocation.checkKernel status (before ++ view :: after) =
      (.error (.hostDirty view.name), before.map BufferView.detach ++ view :: after) := by
  rw [succeeded, checkKernel_of_succeeded, if_pos cuda, settle_of_dirty clean dirty]

/-- On CUDA some first view may have been changed by the host. -/
theorem clean_or_dirty (invocation : Invocation) (views : List BufferView) :
    (invocation.backend = .cuda → ∀ view ∈ views, view.hostDirty = false) ∨
      invocation.backend = .cuda ∧ ∃ before view after, views = before ++ view :: after ∧
        (∀ other ∈ before, other.hostDirty = false) ∧ view.hostDirty = true := by
  by_cases hcuda : invocation.backend = .cuda
  · rcases all_clean_or_first_dirty views with hclean | hdirty
    · exact .inl fun _ => hclean
    · exact .inr ⟨hcuda, hdirty⟩
  · exact .inl fun h => absurd h hcuda

/-! ### The cleanup -/

theorem flush_apply {flushed : State} (h : invocation.Flushes user state flushed) :
    invocation.flush user state = .ok () flushed := by
  cases h with
  | unasked h => simp [flush, h]
  | @cleaned cleanup h registered =>
    have hflush : Bridge.flushCache user state =
        .ok true (state.called (.handler cleanup.label (user.map UserContext.deviceId))) := by
      rw [Bridge.flushCache, Session.bind_of_ok (Session.registry_apply state), registered]
      rfl
    rw [flush, if_pos h, Session.bind_of_ok hflush]
    rfl
  | unanswered h missing =>
    have hflush : Bridge.flushCache user state = .ok false (state.logged [.flushSkipped]) := by
      rw [Bridge.flushCache, Session.bind_of_ok (Session.registry_apply state), missing]
      rfl
    rw [flush, if_pos h, Session.bind_of_ok hflush]
    simp

theorem exists_flushes (invocation : Invocation) (user : Option UserContext) (state : State) :
    ∃ flushed, invocation.Flushes user state flushed := by
  cases hflush : invocation.flushCache with
  | false => exact ⟨_, .unasked hflush⟩
  | true =>
    cases hcleanup : state.registry.cleanup with
    | some cleanup => exact ⟨_, .cleaned hflush hcleanup⟩
    | none => exact ⟨_, .unanswered hflush hcleanup⟩

/-! ### From the kernel's answer to the end of the call -/

section CallKernel

/-- The state in which the kernel is called, from the state in which the views are made. -/
abbrev invoked (invocation : Invocation) (state : State) : State :=
  state.logged [.kernelInvoked invocation.kernel invocation.backend invocation.views.length]

theorem callKernel_of_aborted {cause : Bridge.Aborted}
    (called : kernel invocation.views user (invocation.invoked state) = .error cause left) :
    invocation.callKernel user kernel state = .error cause left := by
  rw [callKernel, Session.bind_of_ok (Session.report_apply _ state)]
  exact Session.bind_of_error called

theorem callKernel_of_unsettled {error : Bridge.Error}
    (called : kernel invocation.views user (invocation.invoked state) = .ok returned left)
    (checked : invocation.checkKernel returned.status returned.views = (.error error, views)) :
    invocation.callKernel user kernel state =
      .ok { result := .error error, report := some returned.report, views } left := by
  rw [callKernel, Session.bind_of_ok (Session.report_apply _ state), Session.bind_of_ok called,
    checked]
  rfl

theorem callKernel_of_settled {flushed : State}
    (called : kernel invocation.views user (invocation.invoked state) = .ok returned left)
    (checked : invocation.checkKernel returned.status returned.views = (.ok (), views))
    (flushes : invocation.Flushes user left flushed) :
    invocation.callKernel user kernel state =
      .ok { result := .ok 0, report := some returned.report, views }
        (flushed.logged
          [.invocationRecorded invocation.kernel invocation.backend views.length]) := by
  rw [callKernel, Session.bind_of_ok (Session.report_apply _ state), Session.bind_of_ok called,
    checked]
  exact Session.bind_of_ok (flush_apply flushes)

end CallKernel

/-! ### From the checks to the end of the call -/

theorem refusal_iff {registry : Registry} {error : Bridge.Error} :
    invocation.Refusal registry error ↔
      ¬ invocation.device.LacksStream ∧
        (invocation.checkPreconditions = .error error ∨
          invocation.checkPreconditions = .ok () ∧
            registry.isInstalled invocation.backend = false ∧
              error = .hooksNotInstalled invocation.backend) := by
  rw [checkPreconditions_eq_ok_iff, checkPreconditions_eq_error_iff]
  constructor
  · rintro (⟨hstream, hfault⟩ | ⟨hstream, hready, hmissing⟩)
    · exact ⟨hstream, .inl hfault⟩
    · exact ⟨hstream, .inr ⟨hready, hmissing, rfl⟩⟩
  · rintro ⟨hstream, hfault | ⟨hready, hmissing, rfl⟩⟩
    · exact .unready hstream hfault
    · exact .notInstalled hstream hready hmissing

theorem call_of_refusal {error : Bridge.Error}
    (refusal : invocation.Refusal state.registry error) :
    invocation.call user kernel state = .ok { result := .error error } state := by
  obtain ⟨-, hfault | ⟨hready, hmissing, rfl⟩⟩ := refusal_iff.mp refusal
  · rw [call, hfault]
    rfl
  · rw [call, hready]
    change ((Bridge.registry >>= fun registry => _) : Session (Outcome α)) state = _
    rw [Session.bind_of_ok (Session.registry_apply state), hmissing]
    rfl

theorem call_of_admits (admits : invocation.Admits state.registry views user) :
    invocation.call user kernel state = invocation.callKernel user kernel state := by
  rw [call, checkPreconditions_eq_ok_iff.mpr admits.ready]
  change ((Bridge.registry >>= fun registry => _) : Session (Outcome α)) state = _
  rw [Session.bind_of_ok (Session.registry_apply state), if_pos admits.installed]

theorem run_of_lacksStream (lacks : invocation.device.LacksStream) :
    invocation.run elapsed kernel start = .ok { result := .error .nullStream } start := by
  rw [run, HostDevice.userContext_eq_error_iff.mpr ⟨lacks, rfl⟩]
  rfl

theorem run_of_call_ok {outcome : Outcome α} (lends : invocation.device.Lends user)
    (called : invocation.call user kernel (invocation.opened start) = .ok outcome left) :
    invocation.run elapsed kernel start = .ok outcome (closed elapsed left) := by
  rw [run, HostDevice.lends_iff.mp lends]
  change ((Bridge.reportAll _ >>= fun _ => _) : Session (Outcome α)) start = _
  rw [Session.bind_of_ok (Session.reportAll_apply _ start)]
  exact Session.bind_of_ok called

theorem run_of_call_error {cause : Bridge.Aborted} (lends : invocation.device.Lends user)
    (called : invocation.call user kernel (invocation.opened start) = .error cause left) :
    invocation.run elapsed kernel start = .error cause left := by
  rw [run, HostDevice.lends_iff.mp lends]
  change ((Bridge.reportAll _ >>= fun _ => _) : Session (Outcome α)) start = _
  rw [Session.bind_of_ok (Session.reportAll_apply _ start)]
  exact Session.bind_of_error called

/-- Without refusal there is exactly one list of views and one user context to call the
kernel with. -/
theorem lacksStream_or_refusal_or_admits (invocation : Invocation) (registry : Registry) :
    invocation.device.LacksStream ∨ (∃ error, invocation.Refusal registry error) ∨
      ∃ user, invocation.Admits registry invocation.views user := by
  rcases invocation.device.lends_or_lacksStream with ⟨user, lends⟩ | lacks
  · refine .inr ?_
    cases hpre : invocation.checkPreconditions with
    | error error =>
      exact .inl ⟨error, refusal_iff.mpr ⟨lends.not_lacksStream, .inl hpre⟩⟩
    | ok =>
      cases hinstalled : registry.isInstalled invocation.backend with
      | false =>
        exact .inl ⟨_, refusal_iff.mpr
          ⟨lends.not_lacksStream, .inr ⟨hpre, hinstalled, rfl⟩⟩⟩
      | true =>
        exact .inr ⟨user, lends, checkPreconditions_eq_ok_iff.mp hpre, hinstalled,
          forall₂_shows_iff.mpr rfl⟩
  · exact .inl lacks

/-- The state in which the kernel is called does not depend on how the views are counted. -/
theorem invoked_opened :
    invocation.invoked (invocation.opened start) = invocation.entered start := by
  simp [invoked, entered, Invocation.views]

/-- A call does end in each of the listed ways. -/
theorem run_of_ends {result : EStateM.Result Bridge.Aborted State (Outcome α)}
    (h : invocation.Ends elapsed kernel start result) :
    invocation.run elapsed kernel start = result := by
  have admitted {views user} (admits : invocation.Admits start.registry views user) :
      invocation.call user kernel (invocation.opened start) =
          invocation.callKernel user kernel (invocation.opened start) ∧
        views = invocation.views :=
    ⟨call_of_admits admits, forall₂_shows_iff.mp admits.shows⟩
  cases h with
  | lacksStream lacks => exact run_of_lacksStream lacks
  | refused refusal =>
    obtain ⟨user, lends⟩ := (invocation.device.lends_or_lacksStream).resolve_right
      (refusal_iff.mp refusal).1
    exact run_of_call_ok lends (call_of_refusal refusal)
  | aborted admits called =>
    obtain ⟨hcall, rfl⟩ := admitted admits
    rw [← invoked_opened] at called
    exact run_of_call_error admits.lends (hcall.trans (callKernel_of_aborted called))
  | kernelFailed admits called failed =>
    obtain ⟨hcall, rfl⟩ := admitted admits
    rw [← invoked_opened] at called
    exact run_of_call_ok admits.lends
      (hcall.trans (callKernel_of_unsettled called (checkKernel_of_failed failed)))
  | hostDirty admits called succeeded cuda split clean dirty =>
    obtain ⟨hcall, rfl⟩ := admitted admits
    rw [← invoked_opened] at called
    refine run_of_call_ok admits.lends (hcall.trans (callKernel_of_unsettled called ?_))
    rw [split, checkKernel_of_dirty succeeded cuda clean dirty]
  | @finished _ _ returned _ _ admits called succeeded clean flushes =>
    obtain ⟨hcall, rfl⟩ := admitted admits
    rw [← invoked_opened] at called
    have hend := callKernel_of_settled called (checkKernel_of_clean succeeded clean) flushes
    rw [run_of_call_ok admits.lends (hcall.trans hend)]
    split <;> simp

/-- A call ends in one of the listed ways. -/
theorem exists_ends (invocation : Invocation) (elapsed : UInt64) (kernel : Kernel α)
    (start : State) : ∃ result, invocation.Ends elapsed kernel start result := by
  rcases invocation.lacksStream_or_refusal_or_admits start.registry with
    lacks | ⟨error, refusal⟩ | ⟨user, admits⟩
  · exact ⟨_, .lacksStream lacks⟩
  · exact ⟨_, .refused refusal⟩
  cases hkernel : kernel invocation.views user (invocation.entered start) with
  | error cause left => exact ⟨_, .aborted admits hkernel⟩
  | ok returned left =>
    by_cases hstatus : returned.status = 0
    · rcases invocation.clean_or_dirty returned.views with
        hclean | ⟨hcuda, before, view, after, hsplit, hbefore, hview⟩
      · obtain ⟨flushed, flushes⟩ := invocation.exists_flushes user left
        exact ⟨_, .finished admits hkernel hstatus hclean flushes⟩
      · exact ⟨_, .hostDirty admits hkernel hstatus hcuda hsplit hbefore hview⟩
    · exact ⟨_, .kernelFailed admits hkernel hstatus⟩

/-- **Decision of a call.** For every kernel, every list of tensors and everything that may
be registered, a call ends in exactly one of the listed ways: with the first cause that
applies, with at most one call of the kernel, and with the cleanup only after all checks. -/
theorem run_eq_iff_ends (invocation : Invocation) (elapsed : UInt64) (kernel : Kernel α)
    (start : State) (result : EStateM.Result Bridge.Aborted State (Outcome α)) :
    invocation.run elapsed kernel start = result ↔
      invocation.Ends elapsed kernel start result := by
  constructor
  · -- A call has one result, and one of the listed ways leads to it.
    rintro rfl
    obtain ⟨result, hends⟩ := invocation.exists_ends elapsed kernel start
    rwa [run_of_ends hends]
  · exact run_of_ends

end Invocation

end KernelBridge
