import KernelBridge.Proofs.Wrapper.Phases

/-!
# Calls of an accepted wrapper

Between two phases of a call there is one frame: the arguments and what the context setup has
declared, then the views, then the status. The names in it differ since they differ in the
scope of the whole wrapper, so every statement finds what it looks for.

## Main definitions

* `WrapperCall.frame` — the frame after the context setup
* `WrapperCall.prepared`, `WrapperCall.entered`, `WrapperCall.resumed` — the frame before the
  tensors are checked, before the kernel is called, and after it
* `WrapperCall.given` — what the kernel gets

## Main results

* `WrapperCall.advanceAll_views` — the views that the kernel gets
* `WrapperCall.step_callKernel_of_ok`, `WrapperCall.step_callKernel_of_error` — its call
* `WrapperCall.execute_closing_of_failed`, `WrapperCall.execute_closing_of_dirty`,
  `WrapperCall.execute_closing_of_clean` — the rest of the wrapper, by what the kernel left
-/

namespace KernelBridge

open Layout (contents)
open Bridge (State UserContext)

variable {Report : Type}

namespace WrapperCall

variable {call : WrapperCall} {signature : Signature} {user : Option UserContext}

/-! ### The frames of a call -/

/-- The frame after the context setup, with views, locals declared after them, and a report. -/
def frame (call : WrapperCall) (pairs : List (Parameter × BufferView))
    (more : List (String × Value)) (report : Option Report) : Frame Report :=
  .around (call.arguments ++ call.host.device.setupLocals) more call.host.device.setupFields
    report pairs

section Frames

variable {pairs : List (Parameter × BufferView)} {more : List (String × Value)}
  {report : Option Report}

theorem names_frame :
    (call.frame pairs more report).names =
      call.plan.publicParameters.map Parameter.name ++ call.backend.setupNames
        ++ (pairs.map Prod.fst).map Parameter.viewName ++ more.map Prod.fst := by
  simp [frame, Frame.around, Frame.names, arguments, HostDevice.names_setupLocals, backend,
    Function.comp_def]

/-- The names that are in scope at some time differ, since they do at the end. -/
theorem names_frame_nodup (accepted : Plan.ofSignature call.backend signature = .ok call.plan)
    (hpairs : (pairs.map Prod.fst).Sublist call.plan.buffers)
    (hmore : (more.map Prod.fst).Sublist [statusLocal]) :
    (call.frame pairs more report).names.Nodup := by
  have hscope : (call.plan.scope call.backend false).Nodup := Plan.scope_nodup accepted
  rw [Plan.scope_eq] at hscope
  rw [names_frame]
  exact hscope.sublist
    (((List.Sublist.refl _).append (hpairs.map Parameter.viewName)).append hmore)

/-- A wrapper is called without views. -/
theorem views_arguments : call.arguments.filterMap (fun (_, value) => value.view?) = [] := by
  rw [List.filterMap_eq_nil_iff]
  intro entry hentry
  obtain ⟨parameter, -, rfl⟩ := List.mem_map.mp hentry
  simp only [argument]
  split <;> rfl

theorem views_frame (hmore : ∀ entry ∈ more, entry.2.view? = none) :
    (call.frame pairs more report).views = pairs.map Prod.snd := by
  have hsetup : call.host.device.setupLocals.filterMap (fun (_, value) => value.view?) = [] := by
    cases call.host.device <;> rfl
  have hmore' : more.filterMap (fun (_, value) => value.view?) = [] :=
    List.filterMap_eq_nil_iff.mpr hmore
  simp [frame, Frame.around, Frame.views, views_arguments, hsetup, hmore']

/-- Each buffer stands for its tensor. -/
theorem lookup_buffer (accepted : Plan.ofSignature call.backend signature = .ok call.plan)
    (nodup : (call.frame pairs more report).names.Nodup) {buffer : Parameter}
    (hbuffer : buffer ∈ call.plan.buffers) :
    (call.frame pairs more report).lookup buffer.name = some (.tensor (call.tensors buffer)) := by
  obtain ⟨hparameter, hkind⟩ := List.mem_filter.mp hbuffer
  have hpublic : buffer ∈ call.plan.publicParameters :=
    List.mem_filter.mpr ⟨hparameter, by simp [Plan.isContext_of_mem_buffers accepted hbuffer]⟩
  have hargument : (buffer.name, .tensor (call.tensors buffer)) ∈ call.arguments :=
    List.mem_map.mpr ⟨buffer, hpublic, by simp [argument, hkind]⟩
  exact Frame.lookup_of_mem nodup (by simp [frame, Frame.around, hargument])

/-- Each parameter that is passed by value stands for it. -/
theorem lookup_scalar (nodup : (call.frame pairs more report).names.Nodup) {parameter : Parameter}
    (hparameter : parameter ∈ call.plan.parameters) (hcontext : parameter.isContext = false)
    (hkind : parameter.isBuffer = false) :
    (call.frame pairs more report).lookup parameter.name =
      some (.scalar (call.scalars parameter)) := by
  have hpublic : parameter ∈ call.plan.publicParameters :=
    List.mem_filter.mpr ⟨hparameter, by simp [hcontext]⟩
  have hargument : (parameter.name, .scalar (call.scalars parameter)) ∈ call.arguments :=
    List.mem_map.mpr ⟨parameter, hpublic, by simp [argument, hkind]⟩
  exact Frame.lookup_of_mem nodup (by simp [frame, Frame.around, hargument])

theorem setupLocals_subset :
    call.host.device.setupLocals ⊆ (call.frame pairs more report).locals := by
  intro entry hentry
  simp [frame, Frame.around, hentry]

end Frames

/-! ### Before the kernel -/

/-- The frame in which the tensors are checked. -/
abbrev prepared (call : WrapperCall) : Frame Report := call.frame [] [] none

/-- The view that a buffer gets. -/
def view (call : WrapperCall) (buffer : Parameter) : BufferView :=
  call.backend.placement.wrap buffer.name (call.tensors buffer)

/-- The buffers with the views that they get. -/
def wrapped (call : WrapperCall) : List (Parameter × BufferView) :=
  call.plan.buffers.map fun buffer => (buffer, call.view buffer)

/-- The frame in which the kernel is called. -/
abbrev entered (call : WrapperCall) : Frame Report := call.frame call.wrapped [] none

theorem map_fst_wrapped : call.wrapped.map Prod.fst = call.plan.buffers := by
  simp [wrapped, Function.comp_def]

/-- The views are those of the call without the wrapper. -/
theorem views_invocation : call.invocation.views = call.plan.buffers.map call.view := by
  have hwrap (backend : Backend) (name : String) (tensor : Tensor) :
      backend.placement.wrap name tensor = Invocation.wrap backend name tensor := by
    cases backend <;> rfl
  simp [view, Invocation.views, invocation, hwrap, Invocation.backend, backend,
    Function.comp_def]

section Accepted

variable (accepted : Plan.ofSignature call.backend signature = .ok call.plan)
include accepted

theorem names_prepared_nodup : (call.prepared : Frame Report).names.Nodup :=
  names_frame_nodup accepted (List.nil_sublist _) (List.nil_sublist _)

theorem names_entered_nodup : (call.entered : Frame Report).names.Nodup :=
  names_frame_nodup accepted (map_fst_wrapped ▸ List.Sublist.refl _) (List.nil_sublist _)

theorem arguments_apart : Frame.Apart call.arguments call.backend.setupNames := by
  intro name hsetup hname
  have hnodup : (call.prepared : Frame Unit).names.Nodup := names_prepared_nodup accepted
  simp only [names_frame, List.map_nil, List.append_nil] at hnodup
  rw [List.nodup_append] at hnodup
  have hpublic : name ∈ call.plan.publicParameters.map Parameter.name := by
    simpa [arguments, Function.comp_def] using hname
  exact hnodup.2.2 name hpublic name hsetup rfl

theorem advanceAll_views :
    (call.prepared : Frame Report).advanceAll call.host
        (contents (call.plan.views call.backend)) = .next call.entered := by
  have hnodup : (call.entered : Frame Report).names.Nodup := names_entered_nodup accepted
  rw [names_frame, map_fst_wrapped] at hnodup
  rw [Plan.contents_views, Frame.advanceAll_comment_cons]
  refine (Frame.advanceAll_declareViews (fun buffer hbuffer =>
    lookup_buffer accepted (names_prepared_nodup accepted) hbuffer) ?_).trans ?_
  · rw [names_frame]
    simpa using hnodup
  · simp [frame, Frame.around, wrapped, view, viewLocals]

/-! ### The kernel -/

/-- What the name of an argument is passed as. -/
theorem pass_callText (lends : call.host.device.Lends user) :
    ∀ parameter ∈ call.plan.parameters,
      (call.entered : Frame Report).pass parameter.callText =
        some (if parameter.isContext then .context user
          else if parameter.isBuffer then .view (call.view parameter)
          else .scalar (call.scalars parameter)) := by
  intro parameter hparameter
  have hnodup : (call.entered : Frame Report).names.Nodup := names_entered_nodup accepted
  unfold Parameter.callText
  split_ifs with hcontext hbuffer
  · exact Frame.pass_context lends hnodup setupLocals_subset rfl
  · have hview : (parameter.viewName, .view (call.view parameter)) ∈
        (call.entered : Frame Report).locals := by
      have hmem : parameter ∈ call.plan.buffers := List.mem_filter.mpr ⟨hparameter, hbuffer⟩
      simp only [frame, Frame.around, viewLocals, wrapped, List.map_map, List.append_nil]
      exact List.mem_append_right _ (List.mem_map.mpr ⟨parameter, hmem, rfl⟩)
    rw [Frame.pass, Frame.lookup_of_mem hnodup hview]
    rfl
  · rw [Frame.pass, lookup_scalar hnodup hparameter (by simpa using hcontext)
      (by simpa using hbuffer)]
    rfl

theorem mapM_pass (lends : call.host.device.Lends user) {parameters : List Parameter}
    (known : parameters ⊆ call.plan.parameters) :
    (parameters.map Parameter.callText).mapM (call.entered : Frame Report).pass =
      some (call.passed user parameters
        ((parameters.filter Parameter.isBuffer).map call.view)) := by
  induction parameters with
  | nil => rfl
  | cons parameter rest ih =>
    obtain ⟨hparameter, hrest⟩ := List.cons_subset.mp known
    rw [List.map_cons, List.mapM_cons, pass_callText accepted lends parameter hparameter, ih hrest]
    by_cases hcontext : parameter.isContext = true
    · have hkind := Plan.context_not_buffer accepted parameter hparameter hcontext
      simp [passed, hcontext, hkind]
    · by_cases hbuffer : parameter.isBuffer = true <;> simp [passed, hcontext, hbuffer]

/-- A kernel gets every view that there is, in order. -/
theorem views_passed {parameters : List Parameter} {views : List BufferView}
    (known : parameters ⊆ call.plan.parameters)
    (sameLength : views.length = (parameters.filter Parameter.isBuffer).length) :
    (call.passed user parameters views).filterMap Passed.view? = views := by
  induction parameters generalizing views with
  | nil =>
    obtain rfl := List.eq_nil_of_length_eq_zero sameLength
    rfl
  | cons parameter rest ih =>
    obtain ⟨hparameter, hrest⟩ := List.cons_subset.mp known
    by_cases hcontext : parameter.isContext = true
    · have hkind := Plan.context_not_buffer accepted parameter hparameter hcontext
      rw [List.filter_cons_of_neg (by simp [hkind])] at sameLength
      rw [passed, if_pos hcontext]
      exact ih hrest sameLength
    · by_cases hbuffer : parameter.isBuffer = true
      · -- A buffer takes the first view, and there is one by the number of views.
        rw [List.filter_cons_of_pos hbuffer] at sameLength
        rw [passed, if_neg hcontext, if_pos hbuffer]
        cases views with
        | nil => cases sameLength
        | cons view views => exact congrArg (view :: ·) (ih hrest (by simpa using sameLength))
      · rw [List.filter_cons_of_neg hbuffer] at sameLength
        rw [passed, if_neg hcontext, if_neg hbuffer]
        exact ih hrest sameLength

/-- The names under which the views are passed. -/
theorem passedViews_callText (lends : call.host.device.Lends user) :
    (call.entered : Frame Report).passedViews (call.plan.parameters.map Parameter.callText) =
      call.plan.buffers.map Parameter.viewName := by
  have hkind : ∀ parameter ∈ call.plan.parameters,
      (((call.entered : Frame Report).lookup parameter.callText).bind Value.view?).isSome =
        parameter.isBuffer := by
    intro parameter hparameter
    rw [← Frame.view?_pass, pass_callText accepted lends parameter hparameter, Option.bind_some]
    by_cases hcontext : parameter.isContext = true
    · rw [if_pos hcontext, Plan.context_not_buffer accepted parameter hparameter hcontext]
      rfl
    · rw [if_neg hcontext]
      cases hbuffer : parameter.isBuffer <;> rfl
  -- No buffer is passed as the user context, so each is passed under the name of its view.
  have hname : ∀ buffer ∈ call.plan.buffers, buffer.callText = buffer.viewName := by
    intro buffer hbuffer
    have hkind : buffer.isBuffer = true := List.of_mem_filter hbuffer
    simp [Parameter.callText, Plan.isContext_of_mem_buffers accepted hbuffer, hkind]
  rw [Frame.passedViews, List.filter_map]
  exact (congrArg _ (List.filter_congr hkind)).trans (List.map_congr_left hname)

/-- What the kernel gets in the call. -/
abbrev given (call : WrapperCall) (user : Option UserContext) : List Passed :=
  call.passed user call.plan.parameters call.invocation.views

variable {entry : EntryPoint Report} {start left : State} {returned : KernelReturn Report}

theorem names_returned (called : entry.call (call.given user) start = .ok returned left) :
    returned.views.map BufferView.name = call.plan.buffers.map Parameter.name := by
  have hlength : call.invocation.views.length = call.plan.buffers.length := by
    rw [views_invocation, List.length_map]
  have hname (buffer : Parameter) : (call.view buffer).name = buffer.name := by
    unfold view
    cases call.backend.placement <;> rfl
  rw [entry.keepsViews called, views_passed accepted (List.Subset.refl _) hlength,
    views_invocation, List.map_map]
  exact List.map_congr_left fun buffer _ => hname buffer

/-- The frame in which the wrapper goes on after the kernel. -/
def resumed (call : WrapperCall) (returned : KernelReturn Report) : Frame Report :=
  call.frame (call.plan.buffers.zip returned.views) [(statusLocal, .number returned.status)]
    (some returned.report)

theorem length_returned (called : entry.call (call.given user) start = .ok returned left) :
    returned.views.length = call.plan.buffers.length := by
  simpa using congrArg List.length (names_returned accepted called)

theorem map_fst_returned (called : entry.call (call.given user) start = .ok returned left) :
    (call.plan.buffers.zip returned.views).map Prod.fst = call.plan.buffers :=
  List.map_fst_zip (Nat.le_of_eq (length_returned accepted called).symm)

theorem map_snd_returned (called : entry.call (call.given user) start = .ok returned left) :
    (call.plan.buffers.zip returned.views).map Prod.snd = returned.views :=
  List.map_snd_zip (Nat.le_of_eq (length_returned accepted called))

/-- Each view still has the name of its buffer. -/
theorem name_of_mem_returned (called : entry.call (call.given user) start = .ok returned left) :
    ∀ pair ∈ call.plan.buffers.zip returned.views, pair.1.name = pair.2.name := by
  rw [← List.map_inj_left]
  calc (call.plan.buffers.zip returned.views).map (fun pair => pair.1.name)
    _ = ((call.plan.buffers.zip returned.views).map Prod.fst).map Parameter.name := by
      rw [List.map_map]
      rfl
    _ = ((call.plan.buffers.zip returned.views).map Prod.snd).map BufferView.name := by
      rw [map_fst_returned accepted called, map_snd_returned accepted called,
        names_returned accepted called]
    _ = (call.plan.buffers.zip returned.views).map (fun pair => pair.2.name) := by
      rw [List.map_map]
      rfl

theorem names_resumed_nodup (called : entry.call (call.given user) start = .ok returned left) :
    (call.resumed returned).names.Nodup := by
  refine names_frame_nodup accepted ?_ (List.Sublist.refl _)
  rw [map_fst_returned accepted called]

theorem callKernel_eq (lends : call.host.device.Lends user) :
    (call.entered : Frame Report).callKernel entry (call.plan.parameters.map Parameter.callText) =
      entry.call (call.given user) >>= fun returned =>
        pure (.ofOption ({ (call.entered : Frame Report).assignViews
            ((call.plan.buffers.map Parameter.viewName).zip returned.views) with
          report := some returned.report }.declare statusLocal (.number returned.status))) := by
  rw [Frame.callKernel, mapM_pass accepted lends (List.Subset.refl _),
    passedViews_callText accepted lends, given, views_invocation]
  rfl

theorem step_callKernel_of_ok (lends : call.host.device.Lends user) {kernel : String}
    (called : entry.call (call.given user) start = .ok returned left) :
    (call.entered : Frame Report).step call.host entry (.callKernel kernel call.plan.parameters)
      start = .ok (.next (call.resumed returned)) left := by
  have hlength : returned.views.length = call.wrapped.length := by
    rw [length_returned accepted called, wrapped, List.length_map]
  have hassigned : (call.entered : Frame Report).assignViews
      ((call.plan.buffers.map Parameter.viewName).zip returned.views) =
        call.frame (call.plan.buffers.zip returned.views) [] none := by
    rw [← map_fst_wrapped]
    exact Frame.assignViews_around (names_entered_nodup accepted) hlength
  have hfresh : statusLocal ∉ (call.frame (call.plan.buffers.zip returned.views) []
      (some returned.report)).names := by
    have hnodup := names_resumed_nodup accepted called
    rw [resumed, names_frame, List.nodup_append] at hnodup
    rw [names_frame, List.map_nil, List.append_nil]
    exact fun hmem => hnodup.2.2 _ hmem _ List.mem_cons_self rfl
  have hdeclared : ({ (call.frame (call.plan.buffers.zip returned.views) [] none : Frame Report)
      with report := some returned.report } : Frame Report).declare statusLocal
        (.number returned.status) = some (call.resumed returned) := by
    refine (Frame.declare_of_not_mem hfresh).trans ?_
    simp [resumed, frame, Frame.around]
  change (call.entered : Frame Report).callKernel entry
    (call.plan.parameters.map Parameter.callText) start = _
  rw [callKernel_eq accepted lends, Bridge.Session.bind_of_ok called, hassigned, hdeclared]
  rfl

theorem step_callKernel_of_error (lends : call.host.device.Lends user) {kernel : String}
    {cause : Bridge.Aborted} (called : entry.call (call.given user) start = .error cause left) :
    (call.entered : Frame Report).step call.host entry (.callKernel kernel call.plan.parameters)
      start = .error cause left := by
  change (call.entered : Frame Report).callKernel entry
    (call.plan.parameters.map Parameter.callText) start = _
  rw [callKernel_eq accepted lends]
  exact Bridge.Session.bind_of_error called

/-! ### After the kernel -/

/-- The statements after the call of the kernel. -/
def closing (call : WrapperCall) : List Statement :=
  .assertThat .kernelSucceeded :: (contents (call.backend.postChecks call.plan.buffers)
    ++ (contents (Plan.flush call.backend call.flushCache) ++ [.returnZero]))

theorem decides_kernelSucceeded
    (called : entry.call (call.given user) start = .ok returned left) :
    (call.resumed returned).decides .kernelSucceeded = some (returned.status == 0) := by
  have hstatus : (call.resumed returned).lookup statusLocal = some (.number returned.status) :=
    Frame.lookup_of_mem (names_resumed_nodup accepted called)
      (by simp [resumed, frame, Frame.around])
  rw [Frame.decides, hstatus]
  rfl

theorem views_resumed (called : entry.call (call.given user) start = .ok returned left) :
    (call.resumed returned).views = returned.views := by
  rw [resumed, views_frame (by simp [Value.view?]), map_snd_returned accepted called]

/-- A status other than zero ends the call. -/
theorem execute_closing_of_failed
    (called : entry.call (call.given user) start = .ok returned left)
    (failed : returned.status ≠ 0) :
    Frame.execute call.host entry (call.resumed returned) call.closing left =
      .ok (some ⟨.error (.assertion .kernelSucceeded), some returned.report, returned.views⟩)
        left := by
  have hassert : (call.resumed returned).advanceAll call.host [.assertThat .kernelSucceeded] =
      .ended ((call.resumed returned).ending (.error (.assertion .kernelSucceeded))) := by
    rw [Frame.advanceAll_cons, Frame.advance, decides_kernelSucceeded accepted called,
      beq_false_of_ne failed]
    rfl
  rw [closing, ← List.singleton_append, Frame.execute_append_of_ended _ _ hassert, Frame.ending,
    views_resumed accepted called]
  rfl

/-- After a status of zero the call goes on. -/
theorem execute_closing_of_succeeded
    (called : entry.call (call.given user) start = .ok returned left)
    (succeeded : returned.status = 0) :
    Frame.execute call.host entry (call.resumed returned) call.closing left =
      Frame.execute call.host entry (call.resumed returned)
        (contents (call.backend.postChecks call.plan.buffers)
          ++ (contents (Plan.flush call.backend call.flushCache) ++ [.returnZero])) left := by
  have hassert : (call.resumed returned).advance call.host (.assertThat .kernelSucceeded) =
      .next (call.resumed returned) := by
    rw [Frame.advance, decides_kernelSucceeded accepted called, succeeded]
    rfl
  exact Frame.execute_cons_of_next (Frame.step_of_advance left hassert (by simp))

/-- On CUDA the first view that the host changed ends the call. -/
theorem execute_closing_of_dirty
    (called : entry.call (call.given user) start = .ok returned left)
    (succeeded : returned.status = 0) (cuda : call.backend = .cuda)
    {before after : List BufferView} {view : BufferView}
    (split : returned.views = before ++ view :: after)
    (clean : ∀ other ∈ before, other.hostDirty = false) (dirty : view.hostDirty = true) :
    ∃ buffer ∈ call.plan.buffers, buffer.name = view.name ∧
      Frame.execute call.host entry (call.resumed returned) call.closing left =
        .ok (some ⟨.error (.assertion (.deviceCurrent buffer)), some returned.report,
          before.map BufferView.detach ++ view :: after⟩) left := by
  have hfst := map_fst_returned accepted called
  have hsnd := map_snd_returned accepted called
  have hnodup := names_resumed_nodup accepted called
  have hnames := name_of_mem_returned accepted called
  rw [execute_closing_of_succeeded accepted called succeeded, Plan.contents_postChecks]
  rw [resumed] at hnodup ⊢
  generalize call.plan.buffers.zip returned.views = pairs at hfst hsnd hnodup hnames ⊢
  rw [split] at hsnd
  obtain ⟨first, others, rfl, rfl, hothers⟩ := List.map_eq_append_iff.mp hsnd
  obtain ⟨⟨buffer, found⟩, rest, rfl, rfl, rfl⟩ := List.map_eq_cons_iff.mp hothers
  have hbuffer : buffer ∈ call.plan.buffers := by
    rw [← hfst]
    simp
  have hended : (call.frame (first ++ (buffer, found) :: rest)
      [(statusLocal, .number returned.status)] (some returned.report)).advanceAll call.host
        (.comment "Make sure data is on device" :: call.plan.buffers.flatMap Plan.postCheck) =
      .ended ((call.frame (first.map (Prod.map id BufferView.detach) ++ (buffer, found) :: rest)
        [(statusLocal, .number returned.status)] (some returned.report)).ending
          (.error (.assertion (.deviceCurrent buffer)))) := by
    rw [Frame.advanceAll_comment_cons, ← hfst]
    exact Frame.advanceAll_postChecks_of_dirty hnodup
      (fun pair hpair => clean pair.2 (List.mem_map_of_mem hpair)) dirty
  refine ⟨buffer, hbuffer, hnames (buffer, found) (by simp), ?_⟩
  rw [if_pos ⟨cuda, List.ne_nil_of_mem hbuffer⟩]
  refine (Frame.execute_append_of_ended _ left hended).trans ?_
  rw [Frame.ending, views_frame (by simp [Value.view?])]
  simp [frame, Frame.around]

/-- Clean views are detached on CUDA, and left alone elsewhere. -/
theorem advanceAll_postChecks
    (called : entry.call (call.given user) start = .ok returned left)
    (clean : call.backend = .cuda → ∀ view ∈ returned.views, view.hostDirty = false) :
    ∃ pairs : List (Parameter × BufferView),
      pairs.map Prod.fst = call.plan.buffers ∧
        pairs.map Prod.snd = (if call.backend = .cuda then returned.views.map BufferView.detach
          else returned.views) ∧
        (call.resumed returned).advanceAll call.host
            (contents (call.backend.postChecks call.plan.buffers)) =
          .next (call.frame pairs [(statusLocal, .number returned.status)]
            (some returned.report)) := by
  have hfst := map_fst_returned accepted called
  have hsnd := map_snd_returned accepted called
  have hnodup := names_resumed_nodup accepted called
  rw [Plan.contents_postChecks]
  rw [resumed] at hnodup ⊢
  generalize call.plan.buffers.zip returned.views = pairs at hfst hsnd hnodup ⊢
  by_cases hcuda : call.backend = .cuda
  · -- Views are checked on CUDA, unless there are none.
    have hclean : ∀ pair ∈ pairs, pair.2.hostDirty = false := fun pair hpair =>
      clean hcuda pair.2 (hsnd ▸ List.mem_map_of_mem hpair)
    refine ⟨pairs.map (Prod.map id BufferView.detach), ?_, ?_, ?_⟩
    · simpa [Function.comp_def] using hfst
    · rw [if_pos hcuda, ← hsnd, List.map_map, List.map_map]
      rfl
    · by_cases hempty : call.plan.buffers = []
      · rw [if_neg (by simp [hempty])]
        obtain rfl := List.map_eq_nil_iff.mp (hfst.trans hempty)
        rfl
      · rw [if_pos ⟨hcuda, hempty⟩, Frame.advanceAll_comment_cons, ← hfst]
        exact Frame.advanceAll_postChecks_of_clean hnodup hclean
  · exact ⟨pairs, hfst, by rw [if_neg hcuda, hsnd], by rw [if_neg (by simp [hcuda])]; rfl⟩

/-- Otherwise all views are detached on CUDA, and the cleanup is called if that is asked for. -/
theorem execute_closing_of_clean (lends : call.host.device.Lends user)
    (called : entry.call (call.given user) start = .ok returned left)
    (succeeded : returned.status = 0)
    (clean : call.backend = .cuda → ∀ view ∈ returned.views, view.hostDirty = false) :
    Frame.execute call.host entry (call.resumed returned) call.closing left =
      .ok (some ⟨.ok 0, some returned.report,
          if call.backend = .cuda then returned.views.map BufferView.detach else returned.views⟩)
        (if call.flushCache then
          left.called (.handler call.host.cleanup.label (user.map UserContext.deviceId))
        else left) := by
  obtain ⟨pairs, hfst, hsnd, hpost⟩ := advanceAll_postChecks accepted called clean
  have hnodup : (call.frame pairs [(statusLocal, .number returned.status)]
      (some returned.report)).names.Nodup :=
    names_frame_nodup accepted (by rw [hfst]) (List.Sublist.refl _)
  have hending : (call.frame pairs [(statusLocal, .number returned.status)]
      (some returned.report)).ending (.ok 0) = ⟨.ok 0, some returned.report,
        if call.backend = .cuda then returned.views.map BufferView.detach else returned.views⟩ := by
    rw [Frame.ending, views_frame (by simp [Value.view?]), hsnd]
    rfl
  have hreturn (state : State) : Frame.execute call.host entry
      (call.frame pairs [(statusLocal, .number returned.status)] (some returned.report))
        [.returnZero] state = .ok (some ⟨.ok 0, some returned.report,
          if call.backend = .cuda then returned.views.map BufferView.detach
            else returned.views⟩) state := by
    rw [← hending]
    rfl
  rw [execute_closing_of_succeeded accepted called succeeded,
    Frame.execute_append_of_next _ _ hpost]
  cases hflush : call.flushCache with
  | false => exact hreturn left
  | true =>
    have hcleanup : (call.frame pairs [(statusLocal, .number returned.status)]
        (some returned.report)).step call.host entry (.flushCache call.backend.flushValue) left =
          .ok (.next (call.frame pairs [(statusLocal, .number returned.status)]
            (some returned.report)))
            (left.called (.handler call.host.cleanup.label (user.map UserContext.deviceId))) := by
      have hvalue := Frame.eval_flushValue lends hnodup setupLocals_subset rfl
      have hwritten : (call.frame pairs [(statusLocal, .number returned.status)]
          (some returned.report)).written call.host call.backend.flushValue =
            call.frame pairs [(statusLocal, .number returned.status)] (some returned.report) := by
        cases call.backend <;> rfl
      change Frame.flushCache _ call.host call.backend.flushValue left = _
      rw [Frame.flushCache, backend, hvalue]
      change (Bridge.callForeign _ _ >>= fun _ => _) left = _
      refine (Bridge.Session.bind_of_ok (Bridge.Session.callBack_apply _ left)).trans ?_
      rw [← backend, hwritten]
      rfl
    change Frame.execute call.host entry _
      (.comment "Flush cache" :: .flushCache call.backend.flushValue :: [.returnZero]) left = _
    rw [Frame.execute_cons_of_next (Frame.step_of_advance left rfl (by simp)),
      Frame.execute_cons_of_next hcleanup]
    exact hreturn _

end Accepted

end WrapperCall

end KernelBridge
