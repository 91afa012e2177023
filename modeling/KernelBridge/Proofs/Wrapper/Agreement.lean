import KernelBridge.Proofs.Wrapper.Call

/-!
# A wrapper and a call without it

A wrapper is text, and a call without a wrapper is a program, but they do the same: they make
the same checks in the same order, call the kernel with the same views, check what it left in
the same way, and call the cleanup in the same cases.

## Main definitions

* `Failure.Matches`, `Ending.Agrees` — when a wrapper and a call without it end alike

## Main results

* `WrapperCall.execute_of_lacksStream`, `WrapperCall.execute_of_unready`,
  `WrapperCall.execute_of_ready` — what a wrapper does before the kernel
* `WrapperCall.callKernel_agrees`, `WrapperCall.closing_agrees` — from the kernel on both do the
  same
* `WrapperCall.execute_agrees` — every accepted wrapper agrees with the call without it
-/

namespace KernelBridge

open Layout (contents)
open Bridge (State UserContext SameButLog)

variable {Report : Type}

/-! ### Ending alike -/

/-- The check of a wrapper and the error of a call without it are about the same: the same kind
of check, and the same buffer. -/
inductive Failure.Matches : Failure → Bridge.Error → Prop where
  | stream : Matches (.assertion .streamAcquired) .nullStream
  | contiguous {buffer : Parameter} : Matches (.notContiguous buffer) (.nonContiguous buffer.name)
  | device {buffer : Parameter} {deviceId : Int32} {found : TensorDevice} :
      Matches (.onOtherDevice buffer) (.wrongDevice buffer.name deviceId found)
  | status {kernel : String} {status : Int32} :
      Matches (.assertion .kernelSucceeded) (.kernelFailed kernel status)
  | hostDirty {buffer : Parameter} :
      Matches (.assertion (.deviceCurrent buffer)) (.hostDirty buffer.name)

/-- Two calls end alike: both return the same, or both fail in the same check. The kernel has
reported the same, and the views have been left alike. -/
structure Ending.Agrees (ending : Ending Report) (outcome : Outcome Report) : Prop where
  result :
    (∃ status, ending.result = .ok status ∧ outcome.result = .ok status) ∨
      ∃ failure error, ending.result = .error failure ∧ outcome.result = .error error ∧
        failure.Matches error
  report : ending.report = outcome.report
  views : ending.views = outcome.views

/-- A wrapper does end, like the call without it. -/
def EndsLike (ending : Option (Ending Report)) (outcome : Outcome Report) : Prop :=
  ∃ found, ending = some found ∧ found.Agrees outcome

theorem EndsLike.of_failure {failure : Failure} {error : Bridge.Error} (report : Option Report)
    (views : List BufferView) (h : failure.Matches error) :
    EndsLike (some ⟨.error failure, report, views⟩) ⟨.error error, report, views⟩ :=
  ⟨_, rfl, .inr ⟨failure, error, rfl, rfl, h⟩, rfl, rfl⟩

theorem EndsLike.of_success (report : Option Report) (views : List BufferView) :
    EndsLike (some ⟨.ok 0, report, views⟩) ⟨.ok 0, report, views⟩ :=
  ⟨_, rfl, .inl ⟨0, rfl, rfl⟩, rfl, rfl⟩

/-- The section around a call only reports. -/
theorem Invocation.sameButLog_run {α : Type} {related : α → Outcome Report → Prop}
    {result : EStateM.Result Bridge.Aborted State α} {invocation : Invocation}
    {user : Option UserContext} {kernel : Kernel Report} {start : State} (elapsed : UInt64)
    (lends : invocation.device.Lends user)
    (h : SameButLog related result (invocation.call user kernel (invocation.opened start))) :
    SameButLog related result (invocation.run elapsed kernel start) := by
  cases hcall : invocation.call user kernel (invocation.opened start) with
  | ok outcome left =>
    rw [hcall] at h
    rw [run_of_call_ok lends hcall]
    cases h with
    | ok hrelated hsame => exact .ok hrelated hsame
  | error cause left =>
    rw [hcall] at h
    rw [run_of_call_error lends hcall]
    exact h

/-- The statements that a wrapper emits are those of its body. -/
theorem Plan.statements_eq (plan : Plan) (backend : Backend) (flushCache : Bool) :
    plan.statements backend flushCache = contents (plan.body backend flushCache) := by
  have hopen (names : List String) :
      (names.map SourceLine.openNamespace).filterMap SourceLine.statement? = [] := by
    simp [SourceLine.statement?]
  have hclose (names : List String) :
      (names.map SourceLine.closeNamespace).filterMap SourceLine.statement? = [] := by
    simp [SourceLine.statement?]
  have hbody (inner : List Statement) :
      (inner.map SourceLine.statement).filterMap SourceLine.statement? = inner := by
    simp [Function.comp_def, SourceLine.statement?]
  rw [statements, contents_wrapper]
  simp only [List.filterMap_append, hopen, hbody]
  exact (congrArg _ (hclose _)).trans (List.append_nil _)

namespace WrapperCall

variable {call : WrapperCall} {signature : Signature} {user : Option UserContext}

/-! ### The checks of the tensors -/

theorem exists_device_of_cuda (cuda : call.backend = .cuda) :
    ∃ deviceId context stream, call.host.device = .cuda deviceId context stream := by
  cases hdevice : call.host.device with
  | cuda deviceId context stream => exact ⟨deviceId, context, stream, rfl⟩
  | cpu | metal => simp [backend, hdevice, HostDevice.backend] at cuda

section Checks

variable (accepted : Plan.ofSignature call.backend signature = .ok call.plan)
include accepted

/-- A check of all tensors for contiguity, one by one. -/
theorem advance_checkContiguous :
    ∀ buffer ∈ call.plan.buffers,
      (call.prepared : Frame Report).advance call.host (.checkContiguous buffer) =
        call.prepared.check (.notContiguous buffer)
          (some (call.tensors buffer).isContiguous) := by
  intro buffer hbuffer
  rw [Frame.advance, lookup_buffer accepted (names_prepared_nodup accepted) hbuffer]
  rfl

theorem advance_checkDevice {deviceId : Int32} {context stream : Handle}
    (hdevice : call.host.device = .cuda deviceId context stream) :
    ∀ buffer ∈ call.plan.buffers,
      (call.prepared : Frame Report).advance call.host (.checkDevice buffer) =
        call.prepared.check (.onOtherDevice buffer)
          (some (decide ((call.tensors buffer).device = .cuda deviceId))) := by
  intro buffer hbuffer
  have hordinal : (call.prepared : Frame Report).lookup "device_id" = some (.number deviceId) := by
    refine Frame.lookup_of_mem (names_prepared_nodup accepted) ?_
    refine setupLocals_subset ?_
    rw [hdevice]
    exact List.mem_cons_self
  rw [Frame.advance, lookup_buffer accepted (names_prepared_nodup accepted) hbuffer, hordinal]
  rfl

/-- If the call without the wrapper finds all tensors fit, so does the wrapper. -/
theorem advanceAll_checks_of_ok (ready : call.invocation.checkPreconditions = .ok ()) :
    (call.prepared : Frame Report).advanceAll call.host
        (contents (call.plan.checks call.backend)) = .next call.prepared := by
  have hfirst (contiguous : Invocation.checkContiguous call.invocation.tensors = .ok ()) :
      (call.prepared : Frame Report).advanceAll call.host
        (call.plan.buffers.map Statement.checkContiguous) = .next call.prepared :=
    Frame.advanceAll_of_checkTensors_ok (advance_checkContiguous accepted) contiguous
  rw [Plan.contents_checks, List.cons_append, Frame.advanceAll_comment_cons,
    Frame.advanceAll_append]
  by_cases hcuda : call.backend = .cuda
  · obtain ⟨deviceId, context, stream, hdevice⟩ := exists_device_of_cuda hcuda
    rw [Invocation.checkPreconditions_of_cuda hdevice] at ready
    obtain ⟨hcontiguous, hresident⟩ := FirstFault.then_eq_ok_iff.mp ready
    rw [hfirst hcontiguous, Progress.bind_next, if_pos hcuda]
    exact Frame.advanceAll_of_checkTensors_ok (advance_checkDevice accepted hdevice) hresident
  · have hother : call.invocation.backend ≠ .cuda := hcuda
    rw [Invocation.checkPreconditions_of_ne_cuda hother] at ready
    rw [hfirst ready, Progress.bind_next, if_neg hcuda]
    rfl

/-- Otherwise both fail in the same check. -/
theorem advanceAll_checks_of_error {error : Bridge.Error}
    (unready : call.invocation.checkPreconditions = .error error) :
    ∃ failure : Failure, failure.Matches error ∧
      (call.prepared : Frame Report).advanceAll call.host
          (contents (call.plan.checks call.backend)) =
        .ended (call.prepared.ending (.error failure)) := by
  rw [Plan.contents_checks, List.cons_append, Frame.advanceAll_comment_cons,
    Frame.advanceAll_append]
  -- A tensor that is not contiguous ends the call whatever is checked afterwards.
  have hfirst (rest : List Statement)
      (faulty : Invocation.checkContiguous call.invocation.tensors = .error error) :
      ∃ failure : Failure, failure.Matches error ∧
        ((call.prepared : Frame Report).advanceAll call.host
          (call.plan.buffers.map Statement.checkContiguous)).bind
            (fun frame => frame.advanceAll call.host rest) =
          .ended (call.prepared.ending (.error failure)) := by
    obtain ⟨buffer, -, rfl, hended⟩ :=
      Frame.advanceAll_of_checkTensors_error (advance_checkContiguous accepted) faulty
    exact ⟨.notContiguous buffer, .contiguous, by rw [hended, Progress.bind_ended]⟩
  by_cases hcuda : call.backend = .cuda
  · obtain ⟨deviceId, context, stream, hdevice⟩ := exists_device_of_cuda hcuda
    rw [Invocation.checkPreconditions_of_cuda hdevice] at unready
    rcases FirstFault.bind_eq_error_iff.mp unready with hfaulty | ⟨_, hcontiguous, hresident⟩
    · exact hfirst _ hfaulty
    · have hpassed : (call.prepared : Frame Report).advanceAll call.host
          (call.plan.buffers.map Statement.checkContiguous) = .next call.prepared :=
        Frame.advanceAll_of_checkTensors_ok (advance_checkContiguous accepted) hcontiguous
      obtain ⟨buffer, -, rfl, hended⟩ :=
        Frame.advanceAll_of_checkTensors_error (advance_checkDevice accepted hdevice) hresident
      rw [hpassed, Progress.bind_next, if_pos hcuda]
      exact ⟨.onOtherDevice buffer, .device, hended⟩
  · have hother : call.invocation.backend ≠ .cuda := hcuda
    rw [Invocation.checkPreconditions_of_ne_cuda hother] at unready
    exact hfirst _ unready

end Checks

/-! ### The whole call -/

/-- The wrapper makes its checks and views only if there are buffers. Without buffers they would
do nothing. -/
theorem advanceAll_guarded (frame : Frame Report) :
    frame.advanceAll call.host (contents (if call.plan.buffers.isEmpty then []
        else call.plan.checks call.backend ++ call.plan.views call.backend)) =
      frame.advanceAll call.host
        (contents (call.plan.checks call.backend) ++ contents (call.plan.views call.backend)) := by
  split
  · next hempty =>
    have hbuffers : call.plan.buffers = [] := List.isEmpty_iff.mp hempty
    rw [Plan.contents_checks, Plan.contents_views, hbuffers]
    split <;> rfl
  · rw [Layout.contents_append]

section Whole

variable {entry : EntryPoint Report} {start : State}

/-- The execution by the phases of the body. -/
theorem execute_eq :
    call.execute entry =
      Frame.execute call.host entry { locals := call.arguments }
        (contents call.backend.contextSetup
          ++ (contents (if call.plan.buffers.isEmpty then []
              else call.plan.checks call.backend ++ call.plan.views call.backend)
            ++ ([.comment "Run Halide pipeline",
                .callKernel call.plan.simpleName call.plan.parameters] ++ call.closing))) := by
  rw [execute, Plan.statements_eq, Plan.body]
  simp [Plan.call, closing]

variable (accepted : Plan.ofSignature call.backend signature = .ok call.plan)
include accepted

/-- Without a stream nothing is checked. -/
theorem execute_of_lacksStream (lacks : call.host.device.LacksStream) :
    call.execute entry start =
      .ok (some ⟨.error (.assertion .streamAcquired), none, []⟩) start := by
  have hended : ({ locals := call.arguments } : Frame Report).advanceAll call.host
      (contents call.backend.contextSetup) =
        .ended ⟨.error (.assertion .streamAcquired), none, []⟩ := by
    refine (Frame.advanceAll_contextSetup_of_lacksStream lacks (arguments_apart accepted)).trans ?_
    rw [Frame.ending, Frame.views, List.filterMap_append, views_arguments]
    rfl
  rw [execute_eq, Frame.execute_append_of_ended _ _ hended]

variable (lends : call.host.device.Lends user)
  (acquired : call.backend = .cuda → call.host.driverStatus = 0)
include lends acquired

theorem advanceAll_setup :
    ({ locals := call.arguments } : Frame Report).advanceAll call.host
      (contents call.backend.contextSetup) = .next call.prepared := by
  refine (Frame.advanceAll_contextSetup lends acquired (arguments_apart accepted)).trans ?_
  simp [frame, Frame.around, viewLocals]

/-- A tensor that does not fit ends the call. -/
theorem execute_of_unready {error : Bridge.Error}
    (unready : call.invocation.checkPreconditions = .error error) :
    ∃ failure : Failure, failure.Matches error ∧
      call.execute entry start = .ok (some ⟨.error failure, none, []⟩) start := by
  obtain ⟨failure, hmatches, hended⟩ :
      ∃ failure : Failure, failure.Matches error ∧
        (call.prepared : Frame Report).advanceAll call.host
            (contents (call.plan.checks call.backend)) =
          .ended (call.prepared.ending (.error failure)) :=
    advanceAll_checks_of_error accepted unready
  have hguarded : (call.prepared : Frame Report).advanceAll call.host
      (contents (if call.plan.buffers.isEmpty then []
        else call.plan.checks call.backend ++ call.plan.views call.backend)) =
          .ended ⟨.error failure, none, []⟩ := by
    rw [advanceAll_guarded, Frame.advanceAll_append, hended, Progress.bind_ended, Frame.ending,
      views_frame (by simp)]
    rfl
  refine ⟨failure, hmatches, ?_⟩
  rw [execute_eq, Frame.execute_append_of_next _ _ (advanceAll_setup accepted lends acquired),
    Frame.execute_append_of_ended _ _ hguarded]

/-- If all tensors fit, the kernel is called. -/
theorem execute_of_ready (ready : call.invocation.checkPreconditions = .ok ()) :
    call.execute entry start =
      Frame.execute call.host entry call.entered
        (.callKernel call.plan.simpleName call.plan.parameters :: call.closing) start := by
  have hguarded : (call.prepared : Frame Report).advanceAll call.host
      (contents (if call.plan.buffers.isEmpty then []
        else call.plan.checks call.backend ++ call.plan.views call.backend)) =
          .next call.entered := by
    rw [advanceAll_guarded, Frame.advanceAll_append, advanceAll_checks_of_ok accepted ready,
      Progress.bind_next, advanceAll_views accepted]
  rw [execute_eq, Frame.execute_append_of_next _ _ (advanceAll_setup accepted lends acquired),
    Frame.execute_append_of_next _ _ hguarded]
  exact Frame.execute_cons_of_next (Frame.step_of_advance start rfl (by simp))

omit acquired in
/-- After the kernel both do the same, from states that differ in what was reported at most. -/
theorem closing_agrees {state left right : State} {returned : KernelReturn Report}
    (called : entry.call (call.given user) start = .ok returned left)
    (answered : call.kernel entry call.invocation.views user (call.invocation.invoked state) =
      .ok returned right)
    (same : left.silent = right.silent)
    (registered : right.registry.cleanup = some call.host.cleanup) :
    SameButLog EndsLike (Frame.execute call.host entry (call.resumed returned) call.closing left)
      (call.invocation.callKernel user (call.kernel entry) state) := by
  by_cases hstatus : returned.status = 0
  · rcases call.invocation.clean_or_dirty returned.views with
      hclean | ⟨hcuda, before, view, after, hsplit, hbefore, hview⟩
    · have hchecked := Invocation.checkKernel_of_clean hstatus hclean
      rw [execute_closing_of_clean accepted lends called hstatus hclean]
      cases hflush : call.flushCache with
      | false =>
        rw [Invocation.callKernel_of_settled answered hchecked (.unasked hflush)]
        exact .ok (.of_success _ _) same
      | true =>
        rw [Invocation.callKernel_of_settled answered hchecked (.cleaned hflush registered)]
        refine .ok (.of_success _ _) ?_
        simp [same]
    · have hchecked : call.invocation.checkKernel returned.status returned.views =
          (.error (.hostDirty view.name), before.map BufferView.detach ++ view :: after) := by
        rw [hsplit]
        exact Invocation.checkKernel_of_dirty hstatus hcuda hbefore hview
      obtain ⟨buffer, -, hname, hended⟩ :=
        execute_closing_of_dirty accepted called hstatus hcuda hsplit hbefore hview
      rw [hended, Invocation.callKernel_of_unsettled answered hchecked]
      exact .ok (.of_failure _ _ (hname ▸ .hostDirty)) same
  · rw [execute_closing_of_failed accepted called hstatus,
      Invocation.callKernel_of_unsettled answered (Invocation.checkKernel_of_failed hstatus)]
    exact .ok (.of_failure _ _ .status) same

omit acquired in
/-- From the call of the kernel on both do the same. -/
theorem callKernel_agrees (events : List Tracing.Event)
    (registered : start.registry.cleanup = some call.host.cleanup) :
    SameButLog EndsLike
      (Frame.execute call.host entry call.entered
        (.callKernel call.plan.simpleName call.plan.parameters :: call.closing) start)
      (call.invocation.callKernel user (call.kernel entry) (start.logged events)) := by
  have hinvoked : call.kernel entry call.invocation.views user
      (call.invocation.invoked (start.logged events)) =
        entry.call (call.given user) (start.logged (events ++
          [.kernelInvoked call.invocation.kernel call.invocation.backend
            call.invocation.views.length])) := by
    rw [Invocation.invoked, Bridge.State.logged_logged]
    rfl
  have hsame := entry.ignoresLog (call.given user) start (events ++
    [.kernelInvoked call.invocation.kernel call.invocation.backend call.invocation.views.length])
  rw [← hinvoked] at hsame
  -- The log is all that differs, and a kernel does not read it.
  generalize hright : call.kernel entry call.invocation.views user
    (call.invocation.invoked (start.logged events)) = right at hsame
  generalize hleft : entry.call (call.given user) start = left at hsame
  cases hsame with
  | @ok returned _ left right hreturned same =>
    obtain rfl := hreturned
    have hregistry : right.registry = (start.logged _).registry :=
      entry.keepsRegistry (hinvoked.symm.trans hright)
    rw [Frame.execute_cons_of_next (step_callKernel_of_ok accepted lends hleft)]
    exact closing_agrees accepted lends hleft hright same (hregistry ▸ registered)
  | error same =>
    rw [Frame.execute_cons_of_error (step_callKernel_of_error accepted lends hleft),
      Invocation.callKernel_of_aborted hright]
    exact .error same

end Whole

/-- **Agreement.** Every wrapper that a generator accepts does what the call without it does: on
any tensors and with any kernel both end alike, and leave everything alike but the log.

The kernel and the cleanup are called by their roles here, also where a kernel is named like the
cleanup. The accepted wrappers in which a local hides the kernel from the compiler are those of
`Plan.hidesKernel_iff_of_accepted`. -/
theorem execute_agrees {generator : Generator} {signatures : List Signature} {plans : List Plan}
    (accepted : (generator.plan signatures).result = .ok plans) {call : WrapperCall}
    (hplan : call.plan ∈ plans) (hbackend : call.backend = generator.backend)
    (acquired : call.backend = .cuda → call.host.driverStatus = 0) (entry : EntryPoint Report)
    (elapsed : UInt64) (start : State)
    (installed : start.registry.isInstalled call.backend = true)
    (registered : start.registry.cleanup = some call.host.cleanup) :
    SameButLog EndsLike (call.execute entry start)
      (call.invocation.run elapsed (call.kernel entry) start) := by
  obtain ⟨signature, -, hkeeps⟩ := Generator.exists_keeps_of_mem accepted hplan
  have planned : Plan.ofSignature call.backend signature = .ok call.plan :=
    hbackend ▸ hkeeps.planned
  rcases call.host.device.lends_or_lacksStream with ⟨user, lends⟩ | lacks
  · refine Invocation.sameButLog_run elapsed lends ?_
    cases hready : call.invocation.checkPreconditions with
    | error error =>
      obtain ⟨failure, hmatches, hended⟩ : ∃ failure : Failure, failure.Matches error ∧
          call.execute entry start = .ok (some ⟨.error failure, none, []⟩) start :=
        execute_of_unready planned lends acquired hready
      have hrefusal : call.invocation.Refusal (call.invocation.opened start).registry error :=
        Invocation.refusal_iff.mpr ⟨lends.not_lacksStream, .inl hready⟩
      rw [hended, Invocation.call_of_refusal hrefusal]
      exact .ok (.of_failure _ _ hmatches) rfl
    | ok =>
      have hadmits : call.invocation.Admits (call.invocation.opened start).registry
          call.invocation.views user :=
        ⟨lends, Invocation.checkPreconditions_eq_ok_iff.mp hready, installed,
          Invocation.forall₂_shows_iff.mpr rfl⟩
      rw [execute_of_ready planned lends acquired hready, Invocation.call_of_admits hadmits]
      exact callKernel_agrees planned lends _ registered
  · rw [execute_of_lacksStream planned lacks, Invocation.run_of_lacksStream lacks]
    exact .ok (.of_failure _ _ .stream) rfl

/-- A kernel that reports what it was called with, and leaves newer data in every view. -/
def writingEntry (status : Int32) : EntryPoint (List Passed) where
  call arguments := return {
    status
    views := (arguments.filterMap Passed.view?).map fun view => { view with deviceDirty := true }
    report := arguments }
  keepsViews := by
    rintro arguments start returned left (⟨⟩ : EStateM.Result.ok _ _ = _)
    simp [Function.comp_def]
  keepsRegistry := by
    rintro arguments start returned left (⟨⟩ : EStateM.Result.ok _ _ = _)
    rfl
  ignoresLog _ _ _ := .ok rfl rfl

/-- A kernel that is called on CUDA with a tensor of three elements, and a cleanup after it. -/
theorem execute_agrees_cuda :
    let generator : Generator := { target := (Target.ofBackend .cuda).withFeature .userContext }
    let cleanup : Bridge.Cleanup := ⟨"cleanup"⟩
    let start : State :=
      { registry := { Bridge.Registry.installCuda {} with cleanup := some cleanup } }
    ∃ plan, (generator.plan [⟨"ops::scale", [.context, .buffer "x" .f32 1]⟩]).result = .ok [plan] ∧
      let call : WrapperCall := {
        plan
        flushCache := true
        host := { device := .cuda 0 ⟨16⟩ ⟨32⟩, cleanup }
        tensors := fun _ => ⟨.f32, [3], [1], .cuda 0, ⟨64⟩⟩
        scalars := fun _ => 0 }
      SameButLog EndsLike (call.execute (writingEntry 0) start)
        (call.invocation.run 0 (call.kernel (writingEntry 0)) start) := by
  intro generator cleanup start
  have accepted : (generator.plan [⟨"ops::scale", [.context, .buffer "x" .f32 1]⟩]).result =
      .ok [_] := rfl
  exact ⟨_, accepted, execute_agrees accepted List.mem_cons_self rfl (fun _ => rfl) _ _ _ rfl rfl⟩

end WrapperCall

end KernelBridge
