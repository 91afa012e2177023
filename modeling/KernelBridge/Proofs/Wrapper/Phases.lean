import KernelBridge.Proofs.FirstFault
import KernelBridge.Proofs.Invocation.Decision
import KernelBridge.Proofs.Wrapper.Execution
import KernelBridge.Proofs.Wrapper.Scope

/-!
# Phases of a wrapper

A wrapper sets up the user context, checks every tensor, gives every buffer a view, and checks
what the kernel left behind. Each phase is described by the frame that it leaves, or by the
first check that fails.

## Main definitions

* `HostDevice.setupLocals`, `HostDevice.setupFields` — what the context setup leaves on a device
* `viewLocals` — the locals of some views
* `Frame.around` — a frame in which views stand between other locals

## Main results

* `Frame.advanceAll_contextSetup`, `Frame.advanceAll_contextSetup_of_lacksStream` — the context
  setup
* `Frame.pointee_context` — the user context that a kernel and the cleanup get
* `Frame.advanceAll_of_checkTensors_ok`, `Frame.advanceAll_of_checkTensors_error` — a check of
  all buffers
* `Frame.advanceAll_declareViews` — a view for each buffer
* `Frame.assignViews_around` — the views after a kernel has changed them
* `Frame.advanceAll_postChecks_of_clean`, `Frame.advanceAll_postChecks_of_dirty` — the checks of
  what a kernel left behind
-/

namespace KernelBridge

open Layout (contents)
open Bridge (UserContext)

variable {Report : Type}

/-! ### The context setup -/

namespace HostDevice

/-- What the context setup declares on a device. -/
def setupLocals : HostDevice → List (String × Value)
  | cpu => [(contextName, .null)]
  | cuda deviceId context stream => [("device_id", .number deviceId), ("ctx", .handle context),
    ("res", .number 0), ("stream", .handle stream), (contextRecord, .recordType),
    (contextLocal, .record), (contextName, .address contextLocal)]
  | metal _ stream => [("stream", .metalStream stream), (contextRecord, .recordType),
    (contextLocal, .record), (contextName, .address contextLocal)]

/-- The record as the context setup fills it on a device. -/
def setupFields : HostDevice → List Field
  | cpu => []
  | cuda deviceId _ _ => [⟨.int, "device_id", some (.number deviceId)⟩,
    ⟨.cudaContextPointer, "cuda_context", some (.address "ctx")⟩,
    ⟨.cudaStreamPointer, "stream", some (.address "stream")⟩]
  | metal index stream => [⟨.int, "device_id", some (.number index)⟩,
    ⟨.metalStreamPointer, "stream", some (.metalStream stream)⟩]

/-- The pointer that a kernel gets as the user context. -/
def contextPointer : HostDevice → Value
  | cpu => .null
  | _ => .address contextLocal

theorem names_setupLocals (device : HostDevice) :
    device.setupLocals.map Prod.fst = device.backend.setupNames := by
  cases device <;> rfl

end HostDevice

namespace Frame

variable {frame : Frame Report} {host : Host} {user : Option UserContext}
  {arguments : List (String × Value)}

/-- The context setup on CUDA, without parameters in scope. -/
theorem advanceAll_contextSetup_cuda {deviceId : Int32} {context stream : Handle}
    (cuda : host.device = .cuda deviceId context stream) (acquired : host.driverStatus = 0) :
    ({ locals := [] } : Frame Report).advanceAll host (contents Backend.cuda.contextSetup) =
      .next { locals := (HostDevice.cuda deviceId context stream).setupLocals,
              fields := (HostDevice.cuda deviceId context stream).setupFields } := by
  obtain ⟨device, driverStatus, cleanup⟩ := host
  obtain rfl : device = .cuda deviceId context stream := cuda
  obtain rfl : driverStatus = 0 := acquired
  -- One statement compares two ordinals; what stands before it and after it is computation.
  let asking : Frame Report := { locals := [("device_id", .number deviceId),
    ("ctx", .handle context), ("res", .number 0)] }
  let answered : Frame Report := { locals := asking.locals ++ [("stream", .handle stream)] }
  obtain ⟨first, rest, hsplit, hfirst, hrest⟩ :
      ∃ first rest, contents Backend.cuda.contextSetup =
          first ++ .declareLocal .cudaStream "stream" (.currentStream "device_id") :: rest ∧
        ({ locals := [] } : Frame Report).advanceAll ⟨.cuda deviceId context stream, 0, cleanup⟩
          first = .next asking ∧
        answered.advanceAll ⟨.cuda deviceId context stream, 0, cleanup⟩ rest =
          .next { locals := (HostDevice.cuda deviceId context stream).setupLocals,
                  fields := (HostDevice.cuda deviceId context stream).setupFields } :=
    ⟨[_, _, _, _, _], _, rfl, rfl, rfl⟩
  have hstream : asking.eval ⟨.cuda deviceId context stream, 0, cleanup⟩
      (.currentStream "device_id") = some (.handle stream) := if_pos rfl
  have hstep : asking.advance ⟨.cuda deviceId context stream, 0, cleanup⟩
      (.declareLocal .cudaStream "stream" (.currentStream "device_id")) = .next answered := by
    rw [advance, hstream]
    rfl
  rw [hsplit, advanceAll_append, hfirst, Progress.bind_next, advanceAll_cons, hstep]
  exact hrest

/-- Without parameters in scope, the context setup is one computation on each device. -/
theorem advanceAll_contextSetup_alone (lends : host.device.Lends user)
    (acquired : host.device.backend = .cuda → host.driverStatus = 0) :
    ({ locals := [] } : Frame Report).advanceAll host
        (contents host.device.backend.contextSetup) =
      .next { locals := host.device.setupLocals, fields := host.device.setupFields } := by
  obtain ⟨device, driverStatus, cleanup⟩ := host
  cases lends with
  | host => rfl
  | cuda deviceId context stream => exact advanceAll_contextSetup_cuda rfl (acquired rfl)
  | metal index stream => rfl

/-- The context setup prepares the user context that the device lends. -/
theorem advanceAll_contextSetup (lends : host.device.Lends user)
    (acquired : host.device.backend = .cuda → host.driverStatus = 0)
    (apart : Apart arguments host.device.backend.setupNames) :
    ({ locals := arguments } : Frame Report).advanceAll host
        (contents host.device.backend.contextSetup) =
      .next { locals := arguments ++ host.device.setupLocals,
              fields := host.device.setupFields } := by
  rw [← HostDevice.names_setupLocals] at apart
  simpa [below] using advanceAll_below apart (advanceAll_contextSetup_alone lends acquired)

/-- Without a stream the context setup ends the call. -/
theorem advanceAll_contextSetup_of_lacksStream (lacks : host.device.LacksStream)
    (apart : Apart arguments host.device.backend.setupNames) :
    ({ locals := arguments } : Frame Report).advanceAll host
        (contents host.device.backend.contextSetup) =
      .ended (({ locals := arguments ++ [("stream", .metalStream none)] } : Frame Report).ending
        (.error (.assertion .streamAcquired))) := by
  obtain ⟨device, driverStatus, cleanup⟩ := host
  obtain ⟨index, rfl⟩ := lacks
  change Apart arguments Backend.metal.setupNames at apart
  obtain ⟨rest, hrest⟩ : ∃ rest, contents Backend.metal.contextSetup =
      [.comment "Setup Metal", .declareLocal .metalStreamPointer "stream" .currentMetalStream]
        ++ .assertThat .streamAcquired :: rest := ⟨_, rfl⟩
  let own : Frame Report := { locals := [("stream", .metalStream none)] }
  have hapart : Apart arguments own.names := by
    intro name hname
    obtain rfl := List.mem_singleton.mp hname
    exact apart _ (by decide)
  have hfirst : (({ locals := [] } : Frame Report).below arguments).advanceAll
      ⟨.metal index none, driverStatus, cleanup⟩ [.comment "Setup Metal",
        .declareLocal .metalStreamPointer "stream" .currentMetalStream] =
      .next (own.below arguments) := advanceAll_below hapart rfl
  have hdecides : (own.below arguments).decides .streamAcquired = some false :=
    decides_below hapart rfl
  rw [below, List.append_nil] at hfirst
  change Frame.advanceAll _ _ (contents Backend.metal.contextSetup) = _
  rw [hrest, advanceAll_append, hfirst, Progress.bind_next, advanceAll_cons, advance, hdecides]
  rfl

/-- Whatever else is in scope, the pointer leads to the user context that the device lends. -/
theorem pointee_context (lends : host.device.Lends user) (nodup : frame.names.Nodup)
    (locals : host.device.setupLocals ⊆ frame.locals)
    (fields : frame.fields = host.device.setupFields) :
    frame.lookup contextName = some host.device.contextPointer ∧
      frame.pointee host.device.contextPointer = some user := by
  obtain ⟨device, driverStatus, cleanup⟩ := host
  cases lends with
  | host =>
    exact ⟨lookup_of_mem nodup (locals (by simp [HostDevice.setupLocals,
      HostDevice.contextPointer])), rfl⟩
  | cuda deviceId context stream =>
    have hrecord : frame.lookup contextLocal = some .record :=
      lookup_of_mem nodup (locals (by simp [HostDevice.setupLocals]))
    have hctx : frame.lookup "ctx" = some (.handle context) :=
      lookup_of_mem nodup (locals (by simp [HostDevice.setupLocals]))
    have hstream : frame.lookup "stream" = some (.handle stream) :=
      lookup_of_mem nodup (locals (by simp [HostDevice.setupLocals]))
    refine ⟨lookup_of_mem nodup (locals (by simp [HostDevice.setupLocals,
      HostDevice.contextPointer])), ?_⟩
    simp [HostDevice.contextPointer, pointee, hrecord, userContext, fields,
      HostDevice.setupFields, hctx, hstream, Value.handle?]
  | metal index stream =>
    have hrecord : frame.lookup contextLocal = some .record :=
      lookup_of_mem nodup (locals (by simp [HostDevice.setupLocals]))
    refine ⟨lookup_of_mem nodup (locals (by simp [HostDevice.setupLocals,
      HostDevice.contextPointer])), ?_⟩
    simp [HostDevice.contextPointer, pointee, hrecord, userContext, fields,
      HostDevice.setupFields]

/-- What the kernel gets as the user context. -/
theorem pass_context (lends : host.device.Lends user) (nodup : frame.names.Nodup)
    (locals : host.device.setupLocals ⊆ frame.locals)
    (fields : frame.fields = host.device.setupFields) :
    frame.pass contextName = some (.context user) := by
  obtain ⟨hlookup, hpointee⟩ := pointee_context lends nodup locals fields
  rw [pass, hlookup, Option.bind_some]
  cases hdevice : host.device <;> rw [hdevice] at hpointee <;>
    exact congrArg (Option.map Passed.context) hpointee

/-- Views are passed as views, and nothing else is. -/
theorem view?_pass (frame : Frame Report) (name : String) :
    (frame.pass name).bind Passed.view? = (frame.lookup name).bind Value.view? := by
  unfold pass
  cases frame.lookup name with
  | none => rfl
  | some value =>
    rw [Option.bind_some, Option.bind_some]
    cases value with
    | view view => rfl
    | scalar bits => rfl
    | _ =>
      refine Option.bind_eq_none_iff.mpr fun passed hpassed => ?_
      obtain ⟨user, -, rfl⟩ := Option.map_eq_some_iff.mp hpassed
      rfl

/-- What the cleanup gets. -/
theorem eval_flushValue (lends : host.device.Lends user) (nodup : frame.names.Nodup)
    (locals : host.device.setupLocals ⊆ frame.locals)
    (fields : frame.fields = host.device.setupFields) :
    (frame.eval host host.device.backend.flushValue).bind
      (frame.written host host.device.backend.flushValue).pointee = some user := by
  obtain ⟨hlookup, hpointee⟩ := pointee_context lends nodup locals fields
  cases hdevice : host.device with
  | cpu =>
    rw [hdevice] at lends
    cases lends
    rfl
  | cuda deviceId context stream | metal index stream =>
    rw [hdevice] at hlookup hpointee
    change (frame.lookup contextName).bind frame.pointee = _
    rw [hlookup]
    exact hpointee

end Frame

/-- The views of some buffers under the names of their locals. -/
def viewLocals (pairs : List (Parameter × BufferView)) : List (String × Value) :=
  pairs.map fun (buffer, view) => (buffer.viewName, .view view)

section ViewLocals

variable {pairs : List (Parameter × BufferView)}

@[simp] theorem viewLocals_cons {buffer : Parameter} {view : BufferView} :
    viewLocals ((buffer, view) :: pairs) = (buffer.viewName, .view view) :: viewLocals pairs := rfl

@[simp] theorem names_viewLocals :
    (viewLocals pairs).map Prod.fst = (pairs.map Prod.fst).map Parameter.viewName := by
  simp [viewLocals, Function.comp_def]

@[simp] theorem views_viewLocals :
    (viewLocals pairs).filterMap (fun (_, value) => value.view?) = pairs.map Prod.snd := by
  induction pairs with
  | nil => rfl
  | cons pair rest ih => exact congrArg (pair.2 :: ·) ih

end ViewLocals

namespace Frame

variable {frame left : Frame Report} {host : Host} {name : String} {value : Value}

/-! ### Checks of all buffers -/

section Checks

variable {buffers : List Parameter} {tensors : Parameter → Tensor} {test : Tensor → Bool}
  {fault : String → Tensor → Bridge.Error} {statement : Parameter → Statement}
  {failure : Parameter → Failure}

/-- The buffers with their tensors, as a call without a wrapper gets them. -/
abbrev named (buffers : List Parameter) (tensors : Parameter → Tensor) : List (String × Tensor) :=
  buffers.map fun buffer => (buffer.name, tensors buffer)

theorem advanceAll_of_checkTensors_ok
    (checks : ∀ buffer ∈ buffers, frame.advance host (statement buffer) =
      frame.check (failure buffer) (some (test (tensors buffer))))
    (passed : Invocation.checkTensors test fault (named buffers tensors) = .ok ()) :
    frame.advanceAll host (buffers.map statement) = .next frame := by
  induction buffers with
  | nil => rfl
  | cons buffer rest ih =>
    obtain ⟨hbuffer, hrest⟩ := List.forall_mem_cons.mp checks
    obtain ⟨htest, hothers⟩ := FirstFault.then_eq_ok_iff.mp passed
    have htrue : test (tensors buffer) = true := by
      by_contra hfalse
      simp [hfalse] at htest
    rw [List.map_cons, advanceAll_cons, hbuffer, htrue]
    exact ih hrest hothers

theorem advanceAll_of_checkTensors_error {error : Bridge.Error}
    (checks : ∀ buffer ∈ buffers, frame.advance host (statement buffer) =
      frame.check (failure buffer) (some (test (tensors buffer))))
    (failed : Invocation.checkTensors test fault (named buffers tensors) = .error error) :
    ∃ buffer ∈ buffers, error = fault buffer.name (tensors buffer) ∧
      frame.advanceAll host (buffers.map statement) =
        .ended (frame.ending (.error (failure buffer))) := by
  induction buffers with
  | nil => cases failed
  | cons buffer rest ih =>
    obtain ⟨hbuffer, hrest⟩ := List.forall_mem_cons.mp checks
    rw [List.map_cons, advanceAll_cons, hbuffer]
    rcases FirstFault.bind_eq_error_iff.mp failed with htest | ⟨_, htest, hothers⟩
    · cases hpasses : test (tensors buffer) with
      | true => simp [hpasses] at htest
      | false =>
        simp only [hpasses, Bool.false_eq_true, if_false, Except.error.injEq] at htest
        exact ⟨buffer, List.mem_cons_self, htest.symm, rfl⟩
    · cases hpasses : test (tensors buffer) with
      | true =>
        obtain ⟨other, hother, herror, hended⟩ := ih hrest hothers
        exact ⟨other, List.mem_cons_of_mem _ hother, herror, hended⟩
      | false => simp [hpasses] at htest

end Checks

/-! ### Views -/

/-- Each buffer gets a view over its tensor, under a new name. -/
theorem advanceAll_declareViews {buffers : List Parameter} {tensors : Parameter → Tensor}
    {placement : Placement}
    (known : ∀ buffer ∈ buffers, frame.lookup buffer.name = some (.tensor (tensors buffer)))
    (nodup : (frame.names ++ buffers.map Parameter.viewName).Nodup) :
    frame.advanceAll host (buffers.map (Statement.declareView placement)) =
      .next { frame with
        locals := frame.locals ++ viewLocals (buffers.map fun buffer =>
          (buffer, placement.wrap buffer.name (tensors buffer))) } := by
  induction buffers generalizing frame with
  | nil => simp [advanceAll, viewLocals]
  | cons buffer rest ih =>
    obtain ⟨hbuffer, hrest⟩ := List.forall_mem_cons.mp known
    have hfresh : buffer.viewName ∉ frame.names := by
      intro hmem
      rw [List.nodup_append] at nodup
      exact nodup.2.2 _ hmem _ List.mem_cons_self rfl
    have hstep : frame.advance host (.declareView placement buffer) =
        .next { frame with
          locals := frame.locals ++
            [(buffer.viewName, .view (placement.wrap buffer.name (tensors buffer)))] } := by
      simp [advance, hbuffer, Value.tensor?, declare_of_not_mem hfresh]
    rw [List.map_cons, advanceAll_cons, hstep, Progress.bind_next, ih]
    · simp
    · intro other hother
      have hlookup := hrest other hother
      rw [lookup] at hlookup ⊢
      rw [List.lookup_append, hlookup]
      rfl
    · simpa [names] using nodup

/-! ### What a kernel leaves behind -/

section Left

variable {before after : List (String × Value)} {fields : List Field} {report : Option Report}

/-- A frame in which views stand between other locals. -/
abbrev around (before after : List (String × Value)) (fields : List Field)
    (report : Option Report) (pairs : List (Parameter × BufferView)) : Frame Report :=
  { locals := before ++ viewLocals pairs ++ after, fields, report }

/-- The first of the views can be counted among the locals before. -/
theorem around_cons {buffer : Parameter} {view : BufferView}
    {rest : List (Parameter × BufferView)} :
    around before after fields report ((buffer, view) :: rest) =
      around (before ++ [(buffer.viewName, .view view)]) after fields report rest := by
  simp [around]

theorem assign_around {buffer : Parameter} {old view : BufferView}
    {rest : List (Parameter × BufferView)}
    (nodup : (around before after fields report ((buffer, old) :: rest)).names.Nodup) :
    (around before after fields report ((buffer, old) :: rest)).assign buffer.viewName
        (.view view) =
      around before after fields report ((buffer, view) :: rest) := by
  have hnodup : ((before ++ (buffer.viewName, Value.view old) ::
      (viewLocals rest ++ after)).map Prod.fst).Nodup := by
    simpa [names] using nodup
  have hassign : ({ locals := before ++ (buffer.viewName, .view old) :: (viewLocals rest ++ after),
                    fields, report } : Frame Report).assign buffer.viewName (.view view) =
      { locals := before ++ (buffer.viewName, .view view) :: (viewLocals rest ++ after),
        fields, report } := assign_middle hnodup
  simpa [around] using hassign

theorem assignViews_cons {view : BufferView} {rest : List (String × BufferView)} :
    frame.assignViews ((name, view) :: rest) =
      (frame.assign name (.view view)).assignViews rest := rfl

/-- A kernel has put other views in the place of all that it got. -/
theorem assignViews_around {pairs : List (Parameter × BufferView)} {views : List BufferView}
    (nodup : (around before after fields report pairs).names.Nodup)
    (sameLength : views.length = pairs.length) :
    (around before after fields report pairs).assignViews
        (((pairs.map Prod.fst).map Parameter.viewName).zip views) =
      around before after fields report ((pairs.map Prod.fst).zip views) := by
  induction pairs generalizing before views with
  | nil => rfl
  | cons pair rest ih =>
    obtain ⟨buffer, old⟩ := pair
    cases views with
    | nil => cases sameLength
    | cons view views =>
      -- The view that has been replaced joins the locals before the others.
      rw [List.map_cons, List.map_cons, List.zip_cons_cons, List.zip_cons_cons, assignViews_cons,
        assign_around nodup, around_cons, around_cons]
      exact ih (by simpa [names] using nodup) (by simpa using sameLength)

/-- Clean views are all detached. -/
theorem advanceAll_postChecks_of_clean {pairs : List (Parameter × BufferView)}
    (nodup : (around before after fields report pairs).names.Nodup)
    (clean : ∀ pair ∈ pairs, pair.2.hostDirty = false) :
    (around before after fields report pairs).advanceAll host
        ((pairs.map Prod.fst).flatMap Plan.postCheck) =
      .next (around before after fields report (pairs.map (Prod.map id BufferView.detach))) := by
  induction pairs generalizing before with
  | nil => rfl
  | cons pair rest ih =>
    obtain ⟨buffer, view⟩ := pair
    obtain ⟨hview : view.hostDirty = false, hrest⟩ := List.forall_mem_cons.mp clean
    have hlookup : (around before after fields report ((buffer, view) :: rest)).lookup
        buffer.viewName = some (.view view) := lookup_of_mem nodup (by simp)
    have hassert : (around before after fields report ((buffer, view) :: rest)).advance host
        (.assertThat (.deviceCurrent buffer)) =
          .next (around before after fields report ((buffer, view) :: rest)) := by
      simp [advance, decides, hlookup, Value.view?, hview, check]
    have hdetach : (around before after fields report ((buffer, view) :: rest)).advance host
        (.detach buffer) =
          .next (around before after fields report ((buffer, view.detach) :: rest)) := by
      simp [advance, hlookup, Value.view?, assign_around nodup]
    rw [List.map_cons, List.flatMap_cons, Plan.postCheck, List.cons_append, List.cons_append,
      List.nil_append, advanceAll_cons, hassert, Progress.bind_next, advanceAll_cons, hdetach,
      Progress.bind_next, around_cons, List.map_cons, Prod.map_apply, id, around_cons]
    exact ih (by simpa [names] using nodup) hrest

/-- The first view that the host changed ends the call, after those before it have been
detached. -/
theorem advanceAll_postChecks_of_dirty {pairs rest : List (Parameter × BufferView)}
    {buffer : Parameter} {view : BufferView}
    (nodup : (around before after fields report (pairs ++ (buffer, view) :: rest)).names.Nodup)
    (clean : ∀ pair ∈ pairs, pair.2.hostDirty = false) (dirty : view.hostDirty = true) :
    (around before after fields report (pairs ++ (buffer, view) :: rest)).advanceAll host
        (((pairs ++ (buffer, view) :: rest).map Prod.fst).flatMap Plan.postCheck) =
      .ended ((around before after fields report
          (pairs.map (Prod.map id BufferView.detach) ++ (buffer, view) :: rest)).ending
        (.error (.assertion (.deviceCurrent buffer)))) := by
  have hsplit (first : List (Parameter × BufferView)) :
      around before after fields report (first ++ (buffer, view) :: rest) =
        around before (viewLocals ((buffer, view) :: rest) ++ after) fields report first := by
    simp [around, viewLocals]
  have hlookup : (around before after fields report
      (pairs.map (Prod.map id BufferView.detach) ++ (buffer, view) :: rest)).lookup
        buffer.viewName = some (.view view) := by
    refine lookup_of_mem ?_ (by simp [viewLocals])
    simpa [names, Function.comp_def] using nodup
  rw [List.map_append, List.flatMap_append, advanceAll_append, hsplit,
    advanceAll_postChecks_of_clean (hsplit pairs ▸ nodup) clean, Progress.bind_next,
    ← hsplit, List.map_cons, List.flatMap_cons, Plan.postCheck, List.cons_append, advanceAll_cons]
  simp [advance, decides, hlookup, Value.view?, dirty, check]

end Left

end Frame

end KernelBridge
