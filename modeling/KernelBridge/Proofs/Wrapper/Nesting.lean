import KernelBridge.Proofs.Wrapper.Outline

/-!
# Nesting of generated files

A file is nested well, and all functions that belong to it stand where they should: every
kernel is declared once and every wrapper defined once, in the namespaces of the kernel's
qualified name. The declaration of a kernel has the parameters that the call in its wrapper has
arguments for.

## Main definitions

* `Argument.IsPassedAs` — how an argument is declared, and what is passed for it
* `Signature.IsWrappedBy` — the declaration of a kernel and its wrapper

## Main results

* `Plan.filter_bodyLines` — the lines of a body that a reader of the outline sees
* `Generator.outline_of_generate` — the outline of a file
-/

namespace KernelBridge

open Layout (Step contents)

/-! ### What a body shows -/

theorem Statement.line_of_isAuxiliary {statement : Statement} (h : statement.isAuxiliary = true) :
    statement.line = .other := by
  cases statement <;> first | rfl | cases h

namespace Plan

variable {plan : Plan} {backend : Backend} {flushCache : Bool}

/-- The statements whose lines are more than other lines. -/
theorem filter_stepLine (steps : List (Step Statement)) :
    (steps.map Statement.stepLine).filter (· != .other) =
      ((contents steps).map Statement.line).filter (· != .other) := by
  induction steps with
  | nil => rfl
  | cons step rest ih =>
    cases step with
    | line statement =>
      rw [List.map_cons, List.filter_cons, Layout.contents_line_cons, List.map_cons,
        List.filter_cons, ih]
      rfl
    | _ => exact ih

/-- Besides other lines, a body sets up one view for each buffer and then calls the kernel. -/
theorem filter_bodyLines (plan : Plan) (backend : Backend) (flushCache : Bool) :
    (plan.bodyLines backend flushCache).filter (· != .other) =
      plan.buffers.map (fun buffer => Line.wraps buffer.viewName) ++
        [.calls plan.simpleName (plan.parameters.map Parameter.callText)] := by
  have hfilter (statements : List Statement) :
      (statements.map Statement.line).filter (· != .other) =
        ((statements.filter (! ·.isAuxiliary)).map Statement.line).filter (· != .other) := by
    rw [List.filter_map, List.filter_map, List.filter_filter]
    refine congrArg _ (List.filter_congr fun statement _ => ?_)
    cases haux : statement.isAuxiliary
    · simp
    · simp [Statement.line_of_isAuxiliary haux]
  rw [bodyLines, filter_stepLine, hfilter, filter_body]
  simp [Statement.line, Function.comp_def]

theorem filterMap_bodyLines {α : Type} {f : Line → Option α} (h : f .other = none) :
    (plan.bodyLines backend flushCache).filterMap f =
      (plan.buffers.map (fun buffer : Parameter => Line.wraps buffer.viewName) ++
        [Line.calls plan.simpleName (plan.parameters.map Parameter.callText)]).filterMap f := by
  rw [← filter_bodyLines plan backend flushCache, List.filterMap_filter]
  refine List.filterMap_congr fun line _ => ?_
  by_cases hother : line = .other <;> simp [hother, h]

/-- A wrapper calls its kernel once and calls nothing else. -/
theorem calls_definition : (plan.definition backend flushCache).calls =
    [(plan.simpleName, plan.parameters.map Parameter.callText)] := by
  rw [Definition.calls, definition, filterMap_bodyLines rfl, List.filterMap_append]
  simp

theorem views_definition : (plan.definition backend flushCache).views =
    plan.buffers.map Parameter.viewName := by
  rw [Definition.views, definition, filterMap_bodyLines rfl, List.filterMap_append]
  simp [List.filterMap_map]

end Plan

/-! ### Parameters and what is passed for them -/

/-- How the kernel's parameter for an argument is declared, and what the wrapper passes for it,
given the views that the wrapper sets up. -/
structure Argument.IsPassedAs (argument : Argument) (views : List String)
    (declared passed : String) : Prop where
  view : passed ∈ views ↔ ∃ name, declared = "struct halide_buffer_t *" ++ name
  context : passed = "__user_context" ↔ ∃ name, declared = "void const *" ++ name
  scalar : passed ∉ views → passed ≠ "__user_context" →
    declared = argument.type.cPrefix ++ passed
  isBuffer : passed ∈ views ↔ argument.isBuffer = true
  isContext : passed = "__user_context" ↔ argument.isContext = true

/-- Texts that begin differently are different. -/
theorem append_ne_append {front front' : String} (h : ¬ front.toList <+: front'.toList)
    (h' : ¬ front'.toList <+: front.toList) (back back' : String) :
    front ++ back ≠ front' ++ back' := by
  intro heq
  have hlists : front.toList ++ back.toList = front'.toList ++ back'.toList := by
    rw [← String.toList_append, heq, String.toList_append]
  have hbegins : front.toList <+: front'.toList ++ back'.toList :=
    hlists ▸ List.prefix_append _ _
  rcases List.prefix_or_prefix_of_prefix hbegins (List.prefix_append _ _) with hfront | hfront
  · exact h hfront
  · exact h' hfront

namespace Plan

section Accepted

variable {backend : Backend} {signature : Signature} {plan : Plan}

/-- No view has the name of the local that holds the user context. -/
theorem contextName_not_mem_views (fit : plan.NamesFit backend) :
    contextName ∉ plan.buffers.map Parameter.viewName := by
  intro hmem
  obtain ⟨buffer, hbuffer, hname⟩ := List.mem_map.mp hmem
  exact fit.view_not_local buffer hbuffer (by simp [hname, fixedLocals])

section Argument

variable {argument : Argument}

theorem isPassedAs_of_isContext (accepted : ofSignature backend signature = .ok plan)
    (hargument : Parameter.ofArgument argument ∈ plan.parameters)
    (hcontext : argument.isContext = true) :
    argument.IsPassedAs (plan.buffers.map Parameter.viewName)
      (Parameter.ofArgument argument).kernelText (Parameter.ofArgument argument).callText := by
  let parameter := Parameter.ofArgument argument
  have hview := contextName_not_mem_views (namesFit accepted)
  have hpassed : parameter.callText = contextName := if_pos hcontext
  have hdeclared : parameter.kernelText = "void const *" ++ parameter.name := if_pos hcontext
  have hvalue : argument.isBuffer = false :=
    context_not_buffer accepted parameter hargument hcontext
  rw [hpassed, hdeclared]
  exact {
    view := iff_of_false hview fun ⟨name, heq⟩ =>
      append_ne_append (by decide) (by decide) _ _ heq
    context := iff_of_true rfl ⟨_, rfl⟩
    scalar := fun _ hne => absurd rfl hne
    isBuffer := iff_of_false hview (by simp [hvalue])
    isContext := iff_of_true rfl hcontext }

theorem isPassedAs_of_isBuffer (fit : plan.NamesFit backend)
    (hargument : Parameter.ofArgument argument ∈ plan.parameters)
    (hcontext : ¬ argument.isContext = true) (hbuffer : argument.isBuffer = true) :
    argument.IsPassedAs (plan.buffers.map Parameter.viewName)
      (Parameter.ofArgument argument).kernelText (Parameter.ofArgument argument).callText := by
  let parameter := Parameter.ofArgument argument
  have hpassed : parameter.callText = parameter.viewName :=
    (if_neg hcontext).trans (if_pos hbuffer)
  have hdeclared : parameter.kernelText = "struct halide_buffer_t *" ++ parameter.name :=
    (if_neg hcontext).trans (if_pos hbuffer)
  have hmem : parameter.viewName ∈ plan.buffers.map Parameter.viewName :=
    List.mem_map_of_mem (List.mem_filter.mpr ⟨hargument, hbuffer⟩)
  have hlocal : parameter.viewName ≠ contextName := by
    intro heq
    exact contextName_not_mem_views fit (heq ▸ hmem)
  rw [hpassed, hdeclared]
  exact {
    view := iff_of_true hmem ⟨_, rfl⟩
    context := iff_of_false hlocal fun ⟨name, heq⟩ =>
      append_ne_append (by decide) (by decide) _ _ heq
    scalar := fun hno => absurd hmem hno
    isBuffer := iff_of_true hmem hbuffer
    isContext := iff_of_false hlocal hcontext }

theorem isPassedAs_of_scalar (fit : plan.NamesFit backend)
    (hargument : Parameter.ofArgument argument ∈ plan.parameters)
    (hcontext : ¬ argument.isContext = true) (hbuffer : ¬ argument.isBuffer = true) :
    argument.IsPassedAs (plan.buffers.map Parameter.viewName)
      (Parameter.ofArgument argument).kernelText (Parameter.ofArgument argument).callText := by
  let parameter := Parameter.ofArgument argument
  have hkind : argument.kind = .scalar := by
    cases hkind : argument.kind with
    | scalar => rfl
    | buffer => exact absurd (by simp [Argument.isBuffer, hkind]) hbuffer
  have hpassed : parameter.callText = parameter.name :=
    (if_neg hcontext).trans (if_neg hbuffer)
  have hdeclared : parameter.kernelText = argument.type.cPrefix ++ parameter.name := by
    have hwrapper : parameter.wrapperText = argument.type.cPrefix ++ parameter.name := by
      simp only [Parameter.wrapperText, parameter, Parameter.ofArgument, hkind]
    exact ((if_neg hcontext).trans (if_neg hbuffer)).trans hwrapper
  have hlocal : parameter.name ≠ contextName := by
    intro heq
    have hpublic : parameter ∈ plan.publicParameters :=
      List.mem_filter.mpr ⟨hargument, congrArg not (eq_false_of_ne_true hcontext)⟩
    exact fit.not_local parameter hpublic (by simp [heq, fixedLocals])
  have hno : parameter.name ∉ plan.buffers.map Parameter.viewName := by
    intro hmem
    obtain ⟨buffer, hmember, hname⟩ := List.mem_map.mp hmem
    exact fit.view_not_parameter buffer hmember (hname ▸ List.mem_map_of_mem hargument)
  have htype {front : String} (h : ¬ argument.type.cPrefix.toList <+: front.toList)
      (h' : ¬ front.toList <+: argument.type.cPrefix.toList) :
      ¬ ∃ name, argument.type.cPrefix ++ parameter.name = front ++ name := by
    rintro ⟨name, heq⟩
    exact append_ne_append h h' _ _ heq
  rw [hpassed, hdeclared]
  exact {
    view := iff_of_false hno
      (htype (by cases argument.type <;> decide) (by cases argument.type <;> decide))
    context := iff_of_false hlocal
      (htype (by cases argument.type <;> decide) (by cases argument.type <;> decide))
    scalar := fun _ _ => rfl
    isBuffer := iff_of_false hno hbuffer
    isContext := iff_of_false hlocal hcontext }

/-- The arguments of an accepted signature are declared and passed as they should be. -/
theorem isPassedAs (accepted : ofSignature backend signature = .ok plan)
    (hargument : Parameter.ofArgument argument ∈ plan.parameters) :
    argument.IsPassedAs (plan.buffers.map Parameter.viewName)
      (Parameter.ofArgument argument).kernelText (Parameter.ofArgument argument).callText := by
  by_cases hcontext : argument.isContext = true
  · exact isPassedAs_of_isContext accepted hargument hcontext
  · by_cases hbuffer : argument.isBuffer = true
    · exact isPassedAs_of_isBuffer (namesFit accepted) hargument hcontext hbuffer
    · exact isPassedAs_of_scalar (namesFit accepted) hargument hcontext hbuffer

end Argument

end Accepted

end Plan

/-! ### Kernels and wrappers -/

/-- The declaration of a kernel and its wrapper, by the kernel's signature. -/
structure Signature.IsWrappedBy (signature : Signature) (declaration : Site)
    (wrapper : Definition) : Prop where
  /-- Both stand in the namespaces of the kernel's qualified name. -/
  sites : ∃ name, Cpp.QualifiedName.parse signature.name = .ok name ∧
    declaration.name = name.simple ∧
    declaration.blocks =
      (if name.namespaces = [] then [.linkage] else name.namespaces.map Block.space) ∧
    wrapper.site.name = name.simple ++ "_th_" ∧
    wrapper.site.blocks = name.namespaces.map Block.space
  declaredName : declaration.qualifiedName = signature.name
  definedName : wrapper.site.qualifiedName = signature.name ++ "_th_"
  /-- The wrapper calls the kernel, with one argument for each of its parameters. -/
  call : ∃ passed, wrapper.calls = [(declaration.name, passed)] ∧
    declaration.parameters.length = passed.length ∧
    List.Forall₂ (fun argument texts => argument.IsPassedAs wrapper.views texts.1 texts.2)
      signature.arguments (declaration.parameters.zip passed)

theorem Plan.isWrappedBy {backend : Backend} {signature : Signature} {plan : Plan}
    (accepted : ofSignature backend signature = .ok plan) (flushCache : Bool) :
    signature.IsWrappedBy plan.declaredSite (plan.definition backend flushCache) := by
  obtain ⟨hname, hparse⟩ := parse_qualifiedName accepted
  have htext := Cpp.QualifiedName.text_of_parse hparse
  have hparameters := parameters_eq accepted
  refine ⟨⟨_, hparse, rfl, ?_, rfl, rfl⟩, ?_, ?_, ⟨_, calls_definition, ?_, ?_⟩⟩
  · simp [declaredSite, spaces]
  · rw [qualifiedName_declaredSite, ← htext]
    rfl
  · rw [qualifiedName_definition, ← htext]
    rfl
  · simp [declaredSite]
  · rw [views_definition, declaredSite, List.zip_map', hparameters, List.map_map,
      List.forall₂_map_right_iff, List.forall₂_same]
    intro argument hargument
    exact isPassedAs accepted (hparameters ▸ List.mem_map_of_mem hargument)

namespace Generator

/-- **A generated file is nested well.** Below the preamble of a file with declarations, every
closing line closes the innermost open block and no block stays open. First every kernel is
declared once, and then every wrapper is defined once. -/
theorem outline_of_generate {generator : Generator}
    (hdeclare : generator.options.declareKernels = true)
    {settings : Tracing.Performance} {elapsed : UInt64} {signatures : List Signature}
    {source : String}
    (generated : (generator.generate settings elapsed signatures).result = .ok source) :
    ∃ text declared wrapped, source = sourceText (preamble generator.target) ++ text ∧
      outline [] (readLines text) = some (declared ++ wrapped) ∧
      definitions declared = [] ∧ declarations wrapped = [] ∧
      (signatures.map Signature.name).Nodup ∧
      ∃ functions : List (Site × Definition),
        List.Forall₂ (fun signature function => signature.IsWrappedBy function.1 function.2)
          signatures functions ∧
        (functions.map Prod.fst).Perm (declarations declared) ∧
        functions.map Prod.snd = definitions wrapped := by
  obtain ⟨plans, accepted, rfl⟩ := generate_eq_ok_iff.mp generated
  obtain ⟨-, hkeeps, -⟩ := plan_eq_ok_iff.mp accepted
  obtain ⟨declared, wrapped, houtline, hdeclared, hnone, hempty, hwrapped, -, -⟩ :=
    outline_below generator plans (isNamed_of_accepted accepted)
  refine ⟨_, declared, wrapped, source_eq_append generator plans, houtline, hempty, hnone,
    nodup_names_of_accepted accepted, plans.map fun plan =>
      (plan.declaredSite, plan.definition generator.backend generator.options.flushCache),
    ?_, ?_, ?_⟩
  · rw [List.forall₂_map_right_iff]
    exact hkeeps.imp fun signature plan keeps => Plan.isWrappedBy keeps.planned _
  · -- The declarations are reordered: kernels without namespaces come first.
    have hperm : plans.Perm (generator.declared plans) := by
      rw [Generator.declared, if_pos hdeclare]
      exact (List.filter_append_perm _ plans).symm
    rw [hdeclared, List.map_map]
    exact hperm.map _
  · rw [hwrapped, List.map_map]
    rfl

/-- A file with kernels in repeated, in nested and in no namespaces, not in this order. -/
theorem outline_of_mixed_namespaces :
    ∃ source text declared wrapped,
      (generate ⟨.host, {}⟩ {} 0
        [⟨"ops::inner::g", [.buffer "x" .f32 1, .context, .scalar "x.y" .handle]⟩, ⟨"f", []⟩,
          ⟨"ops::h", [.buffer "in" .u8 2]⟩]).result = .ok source ∧
      source = sourceText (preamble .host) ++ text ∧
      outline [] (readLines text) = some (declared ++ wrapped) ∧
      ((declarations declared).map Site.qualifiedName).Perm ["ops::inner::g", "f", "ops::h"] ∧
      (definitions wrapped).map (fun wrapper => wrapper.site.qualifiedName) =
        ["ops::inner::g_th_", "f_th_", "ops::h_th_"] := by
  have generated : (generate ⟨.host, {}⟩ {} 0
      [⟨"ops::inner::g", [.buffer "x" .f32 1, .context, .scalar "x.y" .handle]⟩, ⟨"f", []⟩,
        ⟨"ops::h", [.buffer "in" .u8 2]⟩]).result = .ok _ := rfl
  obtain ⟨text, declared, wrapped, hsource, houtline, -, -, -, functions, hwrapped, hdeclared,
    hdefined⟩ := outline_of_generate rfl generated
  refine ⟨_, text, declared, wrapped, generated, hsource, houtline, ?_, ?_⟩
  · refine (hdeclared.map Site.qualifiedName).symm.trans ?_
    rcases hwrapped with - | ⟨hfirst, - | ⟨hsecond, - | ⟨hthird, - | -⟩⟩⟩
    simp [hfirst.declaredName, hsecond.declaredName, hthird.declaredName]
  · rw [← hdefined]
    rcases hwrapped with - | ⟨hfirst, - | ⟨hsecond, - | ⟨hthird, - | -⟩⟩⟩
    simp [hfirst.definedName, hsecond.definedName, hthird.definedName]

end Generator

end KernelBridge
