import KernelBridge.Proofs.Cpp.Identifier
import KernelBridge.Proofs.Wrapper.Acceptance

/-!
# The scope of a wrapper

A wrapper is one function, and all that it declares stands in the scope of that function: its
parameters, what the context setup declares, one view for each buffer, and the status of the
kernel. Names that collide there do not compile, and a name that hides the kernel compiles to
something else.

## Main definitions

* `Plan.scope` — the names that the lines of a wrapper declare, in order
* `Backend.setupNames` — those that the context setup declares
* `Statement.isAuxiliary` — the statements besides views, the call of the kernel and the return
* `Plan.HidesKernel` — the call of the kernel names something else

## Main results

* `Plan.filter_body` — a body without its auxiliary statements
* `Plan.scope_nodup` — the names in the scope of an accepted wrapper differ from each other
* `Plan.not_mem_refersTo` — no parameter hides what the context setup refers to
* `Plan.callKernel_mem_body`, `Plan.hidesKernel_iff` — the call of the kernel, and when it names
  something in the scope
-/

namespace KernelBridge

open Layout (Step contents)

/-- The names that a line declares in the scope of the function around it. -/
def SourceLine.declares : SourceLine → List String
  | header _ parameters => parameters.map Parameter.name
  | statement inner => inner.declares
  | _ => []

/-- The statement only prepares or checks something: it sets up no view, does not call the
kernel and does not return. -/
def Statement.isAuxiliary : Statement → Bool
  | declareView _ _ | callKernel _ _ | returnZero => false
  | _ => true

/-- The names that the context setup of a backend declares. -/
def Backend.setupNames (backend : Backend) : List String :=
  (contents backend.contextSetup).flatMap Statement.declares

/-- The type of the record, where the context setup declares one. -/
def Backend.recordNames (backend : Backend) : List String :=
  if backend.IsGpu then [contextRecord] else []

namespace Plan

/-- The names that the lines of a wrapper declare, in order. -/
def scope (plan : Plan) (backend : Backend) (flushCache : Bool) : List String :=
  (contents (plan.wrapper backend flushCache)).flatMap SourceLine.declares

variable {plan : Plan} {backend : Backend} {flushCache : Bool}

/-! ### The names by where they come from -/

theorem contents_openNamespaces (names : List String) :
    contents (openNamespaces names) = names.map SourceLine.openNamespace := by
  simp [openNamespaces]

theorem contents_closeNamespaces (names : List String) :
    contents (closeNamespaces names) = names.reverse.map SourceLine.closeNamespace := by
  simp [closeNamespaces]

theorem contents_namespaceGap : contents plan.namespaceGap = [] := by
  unfold namespaceGap
  split <;> rfl

/-- A wrapper is its header, its body and its footer, within its namespaces. -/
theorem contents_wrapper :
    contents (plan.wrapper backend flushCache) =
      plan.namespaces.map SourceLine.openNamespace
        ++ [.attributes, .header plan.wrapperName plan.publicParameters]
        ++ (contents (plan.body backend flushCache)).map SourceLine.statement
        ++ .footer :: plan.namespaces.reverse.map SourceLine.closeNamespace := by
  simp [wrapper, contents_openNamespaces, contents_closeNamespaces, contents_namespaceGap]

theorem contents_checks :
    contents (plan.checks backend) =
      .comment "Check tensors have contiguous memory and are on the correct device"
        :: plan.buffers.map Statement.checkContiguous
        ++ if backend = .cuda then plan.buffers.map Statement.checkDevice else [] := by
  cases backend <;> simp [checks, Backend.residencyCheck, List.map_eq_flatMap]

theorem contents_views :
    contents (plan.views backend) =
      .comment "Wrap tensors in Halide buffers"
        :: plan.buffers.map (Statement.declareView backend.placement) := by
  simp [views]

/-- The statements that check what a kernel left in a buffer on a device. -/
def postCheck (buffer : Parameter) : List Statement :=
  [.assertThat (.deviceCurrent buffer), .detach buffer]

theorem contents_postChecks {buffers : List Parameter} :
    contents (backend.postChecks buffers) =
      if backend = .cuda ∧ buffers ≠ [] then
        .comment "Make sure data is on device" :: buffers.flatMap postCheck
      else [] := by
  have hcheck : postCheck = fun buffer => [.assertThat (.deviceCurrent buffer), .detach buffer] :=
    rfl
  cases backend
  · rfl
  · cases buffers <;> simp [Backend.postChecks, hcheck]
  · rfl

/-- The statements of a body before the cleanup and the return. -/
def work (plan : Plan) (backend : Backend) : List (Step Statement) :=
  backend.contextSetup
    ++ (if plan.buffers.isEmpty then [] else plan.checks backend ++ plan.views backend)
    ++ plan.call
    ++ backend.postChecks plan.buffers

theorem body_eq_work : plan.body backend flushCache =
    plan.work backend ++ (flush backend flushCache ++ [.line .returnZero]) := by
  rw [← List.append_assoc]
  rfl

/-- Besides what is auxiliary, the work of a wrapper is one view for each buffer and then the call
of the kernel. -/
theorem filter_work : (contents (plan.work backend)).filter (! ·.isAuxiliary) =
    plan.buffers.map (Statement.declareView backend.placement) ++
      [.callKernel plan.simpleName plan.parameters] := by
  have hnone {statements : List Statement}
      (h : ∀ statement ∈ statements, statement.isAuxiliary = true) :
      statements.filter (! ·.isAuxiliary) = [] := by
    simpa using h
  have hsetup : (contents backend.contextSetup).filter (! ·.isAuxiliary) = [] := by
    cases backend <;> rfl
  have hchecks : (contents (plan.checks backend)).filter (! ·.isAuxiliary) = [] := by
    refine hnone ?_
    simp only [contents_checks, List.cons_append, List.forall_mem_cons, List.forall_mem_append,
      List.forall_mem_map]
    refine ⟨rfl, fun _ _ => rfl, ?_⟩
    split
    · exact List.forall_mem_map.mpr fun _ _ => rfl
    · simp
  have hviews : (contents (plan.views backend)).filter (! ·.isAuxiliary) =
      plan.buffers.map (Statement.declareView backend.placement) := by
    have hall : ∀ view ∈ plan.buffers.map (Statement.declareView backend.placement),
        (! view.isAuxiliary) = true :=
      List.forall_mem_map.mpr fun _ _ => rfl
    rw [contents_views, List.filter_cons_of_neg (by simp [Statement.isAuxiliary]),
      List.filter_eq_self.mpr hall]
  have hcall : (contents plan.call).filter (! ·.isAuxiliary) =
      [.callKernel plan.simpleName plan.parameters] :=
    rfl
  have hpost : (contents (backend.postChecks plan.buffers)).filter (! ·.isAuxiliary) = [] := by
    refine hnone ?_
    rw [contents_postChecks]
    split
    · simp only [List.forall_mem_cons, List.forall_mem_flatMap, postCheck]
      exact ⟨rfl, fun _ _ => ⟨rfl, rfl, by simp⟩⟩
    · simp
  rw [work]
  simp only [Layout.contents_append, List.filter_append, hsetup, hcall, hpost]
  split
  · next hempty => simp [List.isEmpty_iff.mp hempty]
  · simp [hchecks, hviews]

/-- Besides what is auxiliary, a body is its work and the return. -/
theorem filter_body : (contents (plan.body backend flushCache)).filter (! ·.isAuxiliary) =
    plan.buffers.map (Statement.declareView backend.placement) ++
      [.callKernel plan.simpleName plan.parameters, .returnZero] := by
  have hflush : (contents (flush backend flushCache)).filter (! ·.isAuxiliary) = [] := by
    unfold flush
    split <;> rfl
  rw [body_eq_work, Layout.contents_append, Layout.contents_append, List.filter_append,
    List.filter_append, hflush, filter_work, List.nil_append, List.append_assoc]
  rfl

theorem mem_body_iff {statement : Statement} (h : statement.isAuxiliary = false) :
    statement ∈ contents (plan.body backend flushCache) ↔
      (∃ buffer ∈ plan.buffers, .declareView backend.placement buffer = statement) ∨
        statement = .callKernel plan.simpleName plan.parameters ∨ statement = .returnZero := by
  have hfilter : statement ∈ contents (plan.body backend flushCache) ↔
      statement ∈ (contents (plan.body backend flushCache)).filter (! ·.isAuxiliary) := by
    simp [h]
  rw [hfilter, filter_body]
  simp

/-- Only views, the context setup and the status declare anything in a body. -/
theorem declares_body :
    (contents (plan.body backend flushCache)).flatMap Statement.declares =
      backend.setupNames ++ plan.buffers.map Parameter.viewName ++ [statusLocal] := by
  have hchecks : (contents (plan.checks backend)).flatMap Statement.declares = [] := by
    rw [contents_checks]
    split <;> simp [Statement.declares, List.flatMap_map]
  have hviews : (contents (plan.views backend)).flatMap Statement.declares =
      plan.buffers.map Parameter.viewName := by
    rw [contents_views]
    simp only [List.flatMap_cons, List.flatMap_map, Statement.declares, List.nil_append]
    exact List.map_eq_flatMap.symm
  have hpost : (contents (backend.postChecks plan.buffers)).flatMap Statement.declares = [] := by
    rw [contents_postChecks]
    split <;> simp [postCheck, Statement.declares, List.flatMap_assoc]
  have hflush : (contents (flush backend flushCache)).flatMap Statement.declares = [] := by
    unfold flush
    split <;> rfl
  rw [body]
  simp only [Layout.contents_append, List.flatMap_append, hpost, hflush]
  split
  · next hempty =>
    have hbuffers : plan.buffers = [] := List.isEmpty_iff.mp hempty
    simp [hbuffers, call, Statement.declares, Backend.setupNames]
  · simp [hchecks, hviews, call, Statement.declares, Backend.setupNames]

/-- The scope holds the parameters, the locals of the context setup, the views and the
status, in this order. -/
theorem scope_eq (plan : Plan) (backend : Backend) (flushCache : Bool) :
    plan.scope backend flushCache =
      plan.publicParameters.map Parameter.name ++ backend.setupNames
        ++ plan.buffers.map Parameter.viewName ++ [statusLocal] := by
  have hopen (names : List String) :
      (names.map SourceLine.openNamespace).flatMap SourceLine.declares = [] := by
    simp [List.flatMap_map, SourceLine.declares]
  have hclose (names : List String) :
      (names.map SourceLine.closeNamespace).flatMap SourceLine.declares = [] := by
    simp [List.flatMap_map, SourceLine.declares]
  rw [scope, contents_wrapper]
  simp only [List.flatMap_append, List.flatMap_cons, hopen, hclose]
  simp [SourceLine.declares, List.flatMap_map, declares_body]

/-! ### Names that differ -/

/-- The context setup declares the locals that are reserved for it, the type of the record
and the user context. -/
theorem setupNames_perm (backend : Backend) :
    backend.setupNames.Perm
      (backend.reservedLocals ++ backend.recordNames ++ [contextName]) := by
  cases backend <;> decide

theorem setupNames_nodup (backend : Backend) : backend.setupNames.Nodup := by
  cases backend <;> decide

/-- Two lists of names are kept from parameters and views: the locals of every wrapper, and
what the context setup refers to. Whatever it declares is in one of them. -/
theorem mem_setupNames {name : String} (h : name ∈ backend.setupNames) :
    name ≠ statusLocal ∧
      (name ∈ fixedLocals backend ∨ name = contextRecord ∧ name ∈ backend.referencedNames) := by
  revert name
  cases backend <;> decide

theorem viewName_ne_contextRecord (buffer : Parameter) : buffer.viewName ≠ contextRecord := by
  intro heq
  have hlast :
      (buffer.name.toList ++ "_buffer".toList).getLast? = contextRecord.toList.getLast? := by
    rw [← heq, Parameter.viewName, String.toList_append]
  rw [List.getLast?_append_of_ne_nil _ (by decide)] at hlast
  exact absurd hlast (by decide)

theorem mem_parameters_of_public {parameter : Parameter}
    (h : parameter ∈ plan.publicParameters) : parameter ∈ plan.parameters :=
  List.mem_of_mem_filter h

section Accepted

variable {signature : Signature}

/-- The names in the scope of an accepted wrapper differ from each other. -/
theorem scope_nodup (accepted : ofSignature backend signature = .ok plan) :
    (plan.scope backend flushCache).Nodup := by
  have fit := namesFit accepted
  have hpublic : (plan.publicParameters.map Parameter.name).Nodup :=
    (List.filter_sublist.map Parameter.name).nodup (names_nodup accepted)
  have hstatus : statusLocal ∈ fixedLocals backend := by simp [fixedLocals]
  rw [scope_eq, List.append_assoc, List.append_assoc]
  refine hpublic.append ?_ ?_
  · -- The context setup, against the views and the status.
    refine (setupNames_nodup backend).append ?_ ?_
    · refine fit.views_nodup.append (List.nodup_singleton _) ?_
      simp only [List.disjoint_singleton, List.mem_map, not_exists, not_and]
      rintro buffer hbuffer heq
      exact fit.view_not_local buffer hbuffer (heq ▸ hstatus)
    · intro name hsetup hlater
      obtain ⟨hne, hsetup⟩ := mem_setupNames hsetup
      rcases List.mem_append.mp hlater with hview | hlast
      · obtain ⟨buffer, hbuffer, rfl⟩ := List.mem_map.mp hview
        rcases hsetup with hlocal | ⟨hrecord, -⟩
        · exact fit.view_not_local buffer hbuffer hlocal
        · exact viewName_ne_contextRecord buffer hrecord
      · exact hne (List.mem_singleton.mp hlast)
  · -- The parameters, against everything that is declared in the body.
    intro name hname hlater
    obtain ⟨parameter, hparameter, rfl⟩ := List.mem_map.mp hname
    rcases List.mem_append.mp hlater with hsetup | hlater
    · rcases (mem_setupNames hsetup).2 with hlocal | ⟨-, hreferenced⟩
      · exact fit.not_local parameter hparameter hlocal
      · exact fit.not_referenced parameter hparameter hreferenced
    · rcases List.mem_append.mp hlater with hview | hlast
      · obtain ⟨buffer, hbuffer, heq⟩ := List.mem_map.mp hview
        have hparameter' := List.mem_map_of_mem (f := Parameter.name)
          (mem_parameters_of_public hparameter)
        exact fit.view_not_parameter buffer hbuffer (heq ▸ hparameter')
      · exact fit.not_local parameter hparameter (List.mem_singleton.mp hlast ▸ hstatus)

theorem publicParameters_eq (accepted : ofSignature backend signature = .ok plan) :
    plan.publicParameters = signature.publicArguments.map Parameter.ofArgument := by
  obtain ⟨-, name, -, rfl, -⟩ := ofSignature_eq_ok_iff.mp accepted
  exact List.filter_map

theorem buffers_eq (accepted : ofSignature backend signature = .ok plan) :
    plan.buffers = signature.buffers.map Parameter.ofArgument := by
  obtain ⟨-, name, -, rfl, -⟩ := ofSignature_eq_ok_iff.mp accepted
  exact List.filter_map

/-- What stands in a scope, by the arguments of the signature and by the lists that the
backend publishes. -/
theorem scope_perm (accepted : ofSignature backend signature = .ok plan) :
    (plan.scope backend flushCache).Perm
      (signature.publicArguments.map (fun argument => Cpp.identifier argument.name)
        ++ signature.buffers.map (fun buffer => Cpp.identifier buffer.name ++ "_buffer")
        ++ backend.reservedLocals ++ backend.recordNames ++ [contextName, statusLocal]) := by
  have hpublic : plan.publicParameters.map Parameter.name =
      signature.publicArguments.map fun argument => Cpp.identifier argument.name := by
    simp [publicParameters_eq accepted, Parameter.ofArgument, Function.comp_def]
  have hviews : plan.buffers.map Parameter.viewName =
      signature.buffers.map fun buffer => Cpp.identifier buffer.name ++ "_buffer" := by
    simp [buffers_eq accepted, Parameter.ofArgument, Parameter.viewName, Function.comp_def]
  -- The wrapper declares the views after the context setup, and the lists name them before it.
  have hswap := List.perm_append_comm.trans ((setupNames_perm backend).append_left
    (signature.buffers.map fun buffer => Cpp.identifier buffer.name ++ "_buffer"))
  rw [scope_eq, hpublic, hviews]
  simpa using (hswap.append_right [statusLocal]).append_left
    (signature.publicArguments.map fun argument => Cpp.identifier argument.name)

/-- The context setup refers to names that are kept from parameters, and to texts that are
the name of nothing that a wrapper declares. -/
theorem mem_referencedNames (backend : Backend) :
    ∀ statement ∈ contents backend.contextSetup, ∀ name ∈ statement.refersTo,
      name ∈ backend.referencedNames ∨ Cpp.isIdentifier name = false := by
  cases backend <;> decide +kernel

/-- No parameter hides what the context setup refers to. -/
theorem not_mem_refersTo (accepted : ofSignature backend signature = .ok plan)
    {parameter : Parameter} (hparameter : parameter ∈ plan.publicParameters)
    {statement : Statement} (hstatement : statement ∈ contents backend.contextSetup) :
    parameter.name ∉ statement.refersTo := by
  intro hname
  have hpublic := hparameter
  rw [publicParameters_eq accepted] at hpublic
  obtain ⟨argument, -, rfl⟩ := List.mem_map.mp hpublic
  rcases mem_referencedNames backend _ hstatement _ hname with hreferenced | hother
  · exact (namesFit accepted).not_referenced _ hparameter hreferenced
  · exact Cpp.identifier_ne_of_not_isIdentifier hother rfl

/-- **Names of a wrapper.** Whatever its arguments are called, all that an accepted wrapper
declares in its scope has a name of its own, and no parameter has the name of a function or a
type that the context setup or the cleanup refers to. -/
theorem names_of_accepted (accepted : ofSignature backend signature = .ok plan)
    (flushCache : Bool) :
    (plan.scope backend flushCache).Nodup ∧
      (plan.scope backend flushCache).Perm
        (signature.publicArguments.map (fun argument => Cpp.identifier argument.name)
          ++ signature.buffers.map (fun buffer => Cpp.identifier buffer.name ++ "_buffer")
          ++ backend.reservedLocals ++ backend.recordNames ++ [contextName, statusLocal]) ∧
      ∀ argument ∈ signature.publicArguments,
        Cpp.identifier argument.name ≠ cacheCleanup ∧
          ∀ statement ∈ contents backend.contextSetup,
            Cpp.identifier argument.name ∉ statement.refersTo := by
  refine ⟨scope_nodup accepted, scope_perm accepted, fun argument hargument => ?_⟩
  have hparameter : Parameter.ofArgument argument ∈ plan.publicParameters := by
    rw [publicParameters_eq accepted]
    exact List.mem_map_of_mem hargument
  exact ⟨(namesFit accepted).not_cleanup _ hparameter,
    fun _ hstatement => not_mem_refersTo accepted hparameter hstatement⟩

/-- Names that are no identifiers as they stand, and a user context that is only marked. -/
theorem names_of_accepted_lossy :
    ∃ plan, ofSignature .cuda ⟨"ops::f", [.buffer "in.x" .f32 1, .buffer "2d" .u8 2,
        { Argument.scalar "in" .handle with marked := true }]⟩ = .ok plan ∧
      (plan.scope .cuda true).Nodup := by
  have accepted : ofSignature .cuda ⟨"ops::f", [.buffer "in.x" .f32 1, .buffer "2d" .u8 2,
      { Argument.scalar "in" .handle with marked := true }]⟩ = .ok _ := rfl
  exact ⟨_, accepted, (names_of_accepted accepted true).1⟩

end Accepted

/-! ### The name of the kernel -/

/-- The call of the kernel names something that the wrapper declares itself. -/
def HidesKernel (plan : Plan) (backend : Backend) (flushCache : Bool) : Prop :=
  ∃ kernel parameters, .callKernel kernel parameters ∈ contents (plan.body backend flushCache) ∧
    kernel ∈ plan.scope backend flushCache

/-- There is one call in a body, of the kernel by its simple name. -/
theorem callKernel_mem_body {kernel : String} {parameters : List Parameter} :
    .callKernel kernel parameters ∈ contents (plan.body backend flushCache) ↔
      kernel = plan.simpleName ∧ parameters = plan.parameters := by
  rw [mem_body_iff rfl]
  simp

theorem hidesKernel_iff :
    plan.HidesKernel backend flushCache ↔ plan.simpleName ∈ plan.scope backend flushCache := by
  simp [HidesKernel, callKernel_mem_body]

/-- **What hides a kernel.** In the wrappers that generation accepts, the kernel is never
hidden by a parameter. It is hidden exactly when it has the name of a local, of the record's
type or of a view, which nothing checks. -/
theorem hidesKernel_iff_of_accepted {generator : Generator} {signatures : List Signature}
    {plans : List Plan} (accepted : (generator.plan signatures).result = .ok plans)
    (hplan : plan ∈ plans) :
    plan.simpleName ∉ plan.publicParameters.map Parameter.name ∧
      (plan.HidesKernel generator.backend generator.options.flushCache ↔
        plan.simpleName ∈ fixedLocals generator.backend ∨
          plan.simpleName ∈ generator.backend.recordNames ∨
            ∃ buffer ∈ plan.buffers, plan.simpleName = buffer.viewName) := by
  obtain ⟨signature, -, keeps⟩ := Generator.exists_keeps_of_mem accepted hplan
  have hpublic : plan.simpleName ∉ plan.publicParameters.map Parameter.name := by
    rintro hname
    obtain ⟨parameter, hparameter, heq⟩ := List.mem_map.mp hname
    exact (namesFit keeps.planned).not_kernel parameter hparameter heq
  have hsetup : plan.simpleName ∈ generator.backend.setupNames ↔
      plan.simpleName ∈ generator.backend.reservedLocals ∨
        plan.simpleName ∈ generator.backend.recordNames ∨ plan.simpleName = contextName := by
    simp [(setupNames_perm generator.backend).mem_iff]
  refine ⟨hpublic, ?_⟩
  rw [hidesKernel_iff, scope_eq]
  simp only [List.mem_append, hpublic, hsetup, fixedLocals, List.mem_map, List.mem_cons,
    List.not_mem_nil, or_false, false_or, eq_comm (b := plan.simpleName)]
  exact iff_of_eq (by ac_rfl)

/-- A kernel that is hidden by the view of its only buffer. -/
theorem hidesKernel_of_view :
    ∃ plan, ((⟨.host, {}⟩ : Generator).plan [⟨"x_buffer", [.buffer "x" .f32 1]⟩]).result =
        .ok [plan] ∧ plan.HidesKernel .cpu false := by
  have accepted : ((⟨.host, {}⟩ : Generator).plan [⟨"x_buffer", [.buffer "x" .f32 1]⟩]).result =
      .ok [_] := rfl
  exact ⟨_, accepted, (hidesKernel_iff_of_accepted accepted List.mem_cons_self).2.mpr
    (.inr (.inr ⟨_, List.mem_cons_self, rfl⟩))⟩

/-- A kernel that is hidden by its own status. -/
theorem hidesKernel_by_status :
    ∃ plan, ((⟨.host, {}⟩ : Generator).plan [⟨"err", []⟩]).result = .ok [plan] ∧
      plan.HidesKernel .cpu false :=
  ⟨_, rfl, hidesKernel_iff.mpr (by decide)⟩

end Plan

end KernelBridge
