import Mathlib.Data.List.Forall2
import Mathlib.Data.List.Nodup
import KernelBridge.Proofs.FirstFault
import KernelBridge.Wrapper.Generator

/-!
# Accepted signatures

What generation has made sure of once it accepts a signature: the arguments have names of
their own and types that can be passed on, and no name of the wrapper gets in the way of
another. Each check is restated as the condition under which it is passed.

## Main definitions

* `Argument.IsPassable` — the argument has a type that a wrapper can pass on
* `Plan.NamesFit` — the names of a plan that pass the checks for collisions

## Main results

* `Signature.validate_eq_ok_iff` — the valid signatures
* `Plan.ofSignature_eq_ok_iff` — the signatures that have a plan, with the plan
* `Generator.plan_eq_ok_iff` — the lists of signatures that generation accepts
-/

namespace KernelBridge

open FirstFault

/-! ### Valid signatures -/

/-- The user context is a handle that is passed by value, and nothing else holds handles. -/
def Argument.IsPassable (argument : Argument) : Prop :=
  if argument.isContext then argument.isBuffer = false ∧ argument.type = .handle
  else argument.isBuffer = true → argument.type ≠ .handle

theorem Argument.check_eq_ok_iff {argument : Argument} {seen : List String} :
    argument.check seen = .ok () ↔
      argument.name ≠ "" ∧ Cpp.identifier argument.name ∉ seen ∧ argument.IsPassable := by
  unfold check IsPassable
  -- Five tests decide, and each combination of their outcomes is a computation.
  by_cases hname : argument.name = "" <;> by_cases hseen : Cpp.identifier argument.name ∈ seen <;>
    by_cases hcontext : argument.isContext = true <;>
    by_cases hbuffer : argument.isBuffer = true <;>
    by_cases htype : argument.type = .handle <;> simp [*]

theorem checkArguments_eq_ok_iff {arguments : List Argument} {seen : List String} :
    checkArguments seen arguments = .ok () ↔
      (∀ argument ∈ arguments, argument.name ≠ "" ∧ argument.IsPassable) ∧
        (arguments.map fun argument => Cpp.identifier argument.name).Nodup ∧
        ∀ argument ∈ arguments, Cpp.identifier argument.name ∉ seen := by
  induction arguments generalizing seen with
  | nil => simp [checkArguments]
  | cons argument rest ih =>
    rw [checkArguments, then_eq_ok_iff, Argument.check_eq_ok_iff, ih, ← fresh_cons_iff,
      List.forall_mem_cons]
    constructor
    · rintro ⟨⟨hname, hseen, hpass⟩, hrest, hfresh⟩
      exact ⟨⟨⟨hname, hpass⟩, hrest⟩, hseen, hfresh⟩
    · rintro ⟨⟨⟨hname, hpass⟩, hrest⟩, hseen, hfresh⟩
      exact ⟨⟨hname, hseen, hpass⟩, hrest, hfresh⟩

theorem qualifiedName_eq_ok_iff {text : String} {name : Cpp.QualifiedName} :
    qualifiedName text = .ok name ↔ Cpp.QualifiedName.parse text = .ok name :=
  mapError_eq_ok_iff

theorem Signature.validate_eq_ok_iff {signature : Signature} :
    signature.validate = .ok () ↔
      signature.name ≠ "" ∧ (∃ name, Cpp.QualifiedName.parse signature.name = .ok name) ∧
        checkArguments [] signature.arguments = .ok () ∧
        (signature.arguments.filter Argument.isContext).length ≤ 1 := by
  have hcontexts : ∀ fault : GenerationError,
      (if 1 < (signature.arguments.filter Argument.isContext).length then .error fault
        else .ok () : Except GenerationError Unit) = .ok () ↔
      (signature.arguments.filter Argument.isContext).length ≤ 1 := by
    intro fault
    rw [guard_eq_ok_iff, Nat.not_lt, and_iff_left rfl]
  by_cases hname : signature.name = ""
  · simp [validate, hname, bind, Except.bind, throw, throwThe, MonadExceptOf.throw]
  · -- The name, the arguments and the number of contexts are checked one after the other.
    have hsteps : signature.validate =
        qualifiedName signature.name >>= fun _ =>
          (checkArguments [] signature.arguments).mapError (.signature signature.name) >>= fun _ =>
            if 1 < (signature.arguments.filter Argument.isContext).length then
              .error (.signature signature.name .severalContexts)
            else .ok () := by
      rw [validate, if_neg (by simpa using hname)]
      rfl
    rw [hsteps, bind_eq_ok_iff]
    simp only [then_eq_ok_iff, mapError_eq_ok_iff, hcontexts, qualifiedName_eq_ok_iff,
      exists_and_right, ne_eq, hname, not_false_eq_true, true_and]

/-! ### Names that do not collide -/

namespace Plan

variable {backend : Backend} {plan : Plan}

theorem checkViews_eq_ok_iff {taken : List String} {buffers : List Parameter} :
    checkViews taken buffers = .ok () ↔
      (buffers.map Parameter.viewName).Nodup ∧ ∀ buffer ∈ buffers, buffer.viewName ∉ taken := by
  induction buffers generalizing taken with
  | nil => simp [checkViews]
  | cons buffer rest ih =>
    rw [checkViews, ← fresh_cons_iff]
    by_cases htaken : buffer.viewName ∈ taken
    · simp [htaken]
    · rw [if_neg (by simpa using htaken), ih, and_iff_right htaken]

/-- No parameter of the wrapper has a name that the wrapper needs for something else, and
every view gets a name of its own. -/
structure NamesFit (plan : Plan) (backend : Backend) : Prop where
  not_kernel : ∀ parameter ∈ plan.publicParameters, parameter.name ≠ plan.simpleName
  not_cleanup : ∀ parameter ∈ plan.publicParameters, parameter.name ≠ cacheCleanup
  not_referenced : ∀ parameter ∈ plan.publicParameters,
    parameter.name ∉ backend.referencedNames
  not_local : ∀ parameter ∈ plan.publicParameters, parameter.name ∉ fixedLocals backend
  views_nodup : (plan.buffers.map Parameter.viewName).Nodup
  view_not_local : ∀ buffer ∈ plan.buffers, buffer.viewName ∉ fixedLocals backend
  view_not_parameter : ∀ buffer ∈ plan.buffers,
    buffer.viewName ∉ plan.parameters.map Parameter.name

theorem checkHidden_eq_ok_iff {simpleName : String} {parameter : Parameter} :
    checkHidden backend simpleName parameter = .ok () ↔
      parameter.name ≠ simpleName ∧ parameter.name ≠ cacheCleanup ∧
        parameter.name ∉ backend.referencedNames := by
  unfold checkHidden
  split
  · next hkernel => simp [hkernel]
  · next hkernel =>
    split
    · next hhidden => simpa [hkernel, or_iff_not_imp_left] using hhidden
    · next hhidden => simpa [hkernel] using hhidden

theorem checkShadowed_eq_ok_iff {parameter : Parameter} :
    checkShadowed backend parameter = .ok () ↔ parameter.name ∉ fixedLocals backend := by
  unfold checkShadowed
  by_cases hlocal : parameter.name ∈ fixedLocals backend <;> simp [hlocal]

theorem checkCollisions_eq_ok_iff :
    plan.checkCollisions backend = .ok () ↔ plan.NamesFit backend := by
  rw [checkCollisions, then_eq_ok_iff, then_eq_ok_iff, forM_eq_ok_iff, forM_eq_ok_iff,
    checkViews_eq_ok_iff]
  simp only [checkHidden_eq_ok_iff, checkShadowed_eq_ok_iff, List.mem_append, not_or]
  constructor
  · rintro ⟨hhidden, hshadowed, hnodup, hviews⟩
    exact ⟨fun p hp => (hhidden p hp).1, fun p hp => (hhidden p hp).2.1,
      fun p hp => (hhidden p hp).2.2, hshadowed, hnodup, fun b hb => (hviews b hb).1,
      fun b hb => (hviews b hb).2⟩
  · rintro ⟨hkernel, hcleanup, hreferenced, hlocal, hnodup, hview, hview'⟩
    exact ⟨fun p hp => ⟨hkernel p hp, hcleanup p hp, hreferenced p hp⟩, hlocal, hnodup,
      fun b hb => ⟨hview b hb, hview' b hb⟩⟩

/-! ### Signatures that have a plan -/

/-- The plan of a signature whose qualified name has been taken apart. -/
def draft (signature : Signature) (name : Cpp.QualifiedName) : Plan :=
  ⟨signature.name, name.namespaces, name.simple, signature.arguments.map Parameter.ofArgument⟩

theorem ofSignature_eq_ok_iff {signature : Signature} :
    ofSignature backend signature = .ok plan ↔
      signature.validate = .ok () ∧
        ∃ name, Cpp.QualifiedName.parse signature.name = .ok name ∧
          plan = draft signature name ∧ plan.NamesFit backend := by
  rw [ofSignature, then_eq_ok_iff, bind_eq_ok_iff]
  refine and_congr_right fun _ => exists_congr fun name => ?_
  rw [qualifiedName_eq_ok_iff, then_eq_ok_iff, mapError_eq_ok_iff, checkCollisions_eq_ok_iff]
  refine and_congr_right fun _ => ?_
  constructor
  · rintro ⟨hfit, hplan⟩
    obtain rfl := Except.ok.inj hplan
    exact ⟨rfl, hfit⟩
  · rintro ⟨rfl, hfit⟩
    exact ⟨hfit, rfl⟩

section Accepted

variable {signature : Signature}

/-- The names of all arguments, the user context's included, differ from each other. -/
theorem names_nodup (accepted : ofSignature backend signature = .ok plan) :
    (plan.parameters.map Parameter.name).Nodup := by
  obtain ⟨hvalid, name, -, rfl, -⟩ := ofSignature_eq_ok_iff.mp accepted
  obtain ⟨-, -, harguments, -⟩ := Signature.validate_eq_ok_iff.mp hvalid
  simpa [draft, Parameter.ofArgument, Function.comp_def] using
    (checkArguments_eq_ok_iff.mp harguments).2.1

/-- A plan has one parameter for each argument, in order. -/
theorem parameters_eq (accepted : ofSignature backend signature = .ok plan) :
    plan.parameters = signature.arguments.map Parameter.ofArgument := by
  obtain ⟨-, name, -, rfl, -⟩ := ofSignature_eq_ok_iff.mp accepted
  rfl

/-- A plan keeps the kernel's qualified name, whole and in its parts. -/
theorem parse_qualifiedName (accepted : ofSignature backend signature = .ok plan) :
    plan.qualifiedName = signature.name ∧
      Cpp.QualifiedName.parse signature.name = .ok ⟨plan.namespaces, plan.simpleName⟩ := by
  obtain ⟨-, name, hparse, rfl, -⟩ := ofSignature_eq_ok_iff.mp accepted
  exact ⟨rfl, hparse⟩

theorem namesFit (accepted : ofSignature backend signature = .ok plan) :
    plan.NamesFit backend := by
  obtain ⟨-, name, -, rfl, hfit⟩ := ofSignature_eq_ok_iff.mp accepted
  exact hfit

/-- The user context is passed by value. -/
theorem context_not_buffer (accepted : ofSignature backend signature = .ok plan) :
    ∀ parameter ∈ plan.parameters, parameter.isContext = true → parameter.isBuffer = false := by
  obtain ⟨hvalid, name, -, rfl, -⟩ := ofSignature_eq_ok_iff.mp accepted
  obtain ⟨-, -, harguments, -⟩ := Signature.validate_eq_ok_iff.mp hvalid
  intro parameter hparameter hcontext
  obtain ⟨argument, hargument, rfl⟩ := List.mem_map.mp hparameter
  have hpass := ((checkArguments_eq_ok_iff.mp harguments).1 argument hargument).2
  change argument.isContext = true at hcontext
  rw [Argument.IsPassable, if_pos hcontext] at hpass
  exact hpass.1

theorem isContext_of_mem_buffers (accepted : ofSignature backend signature = .ok plan)
    {buffer : Parameter} (hbuffer : buffer ∈ plan.buffers) : buffer.isContext = false := by
  obtain ⟨hparameter, hkind⟩ := List.mem_filter.mp hbuffer
  by_contra hcontext
  have hvalue : buffer.isBuffer = false :=
    context_not_buffer accepted buffer hparameter (by simpa using hcontext)
  rw [hkind] at hvalue
  cases hvalue

end Accepted

end Plan

/-! ### Accepted lists of signatures -/

theorem firstRepeated_eq_none_iff {names seen : List String} :
    firstRepeated seen names = none ↔ names.Nodup ∧ ∀ name ∈ names, name ∉ seen := by
  induction names generalizing seen with
  | nil => simp [firstRepeated]
  | cons name rest ih =>
    have hfresh : (name ∉ seen ∧ rest.Nodup ∧ ∀ other ∈ rest, other ∉ name :: seen) ↔
        (name :: rest).Nodup ∧ ∀ other ∈ name :: rest, other ∉ seen := by
      have hnames := @fresh_cons_iff _ _ rest id name seen
      simpa only [List.map_id, id_eq] using hnames
    rw [firstRepeated, ← hfresh]
    by_cases hseen : name ∈ seen
    · simp [hseen]
    · rw [if_neg (by simpa using hseen), ih, and_iff_right hseen]

namespace Generator

variable {generator : Generator}

/-- A plan that generation keeps: the signature has it, and it takes a user context where the
backend needs one. -/
structure Keeps (generator : Generator) (signature : Signature) (plan : Plan) : Prop where
  planned : Plan.ofSignature generator.backend signature = .ok plan
  hasContext : generator.backend.requiresContext = true → plan.hasContext = true

theorem planOne_eq_ok_iff {signature : Signature} {plan : Plan} :
    (generator.planOne signature).result = .ok plan ↔ generator.Keeps signature plan := by
  unfold planOne
  cases hplan : Plan.ofSignature generator.backend signature with
  | error error =>
    refine ⟨fun h => (by cases h), fun h => ?_⟩
    rw [h.planned] at hplan
    cases hplan
  | ok found =>
    have hkeeps : generator.Keeps signature plan ↔
        found = plan ∧ (generator.backend.requiresContext = true → plan.hasContext = true) :=
      ⟨fun h => ⟨Except.ok.inj (hplan.symm.trans h.planned), h.hasContext⟩,
        fun ⟨heq, hcontext⟩ => ⟨heq ▸ hplan, hcontext⟩⟩
    rw [hkeeps]
    by_cases hcontext : found.hasContext = true
    · simp only [hcontext, if_true, Except.ok.injEq]
      exact ⟨fun heq => ⟨heq, fun _ => heq ▸ hcontext⟩, And.left⟩
    · by_cases hrequired : generator.backend.requiresContext = true
      · simp only [hcontext, hrequired, if_true]
        exact ⟨fun h => (by cases h), fun ⟨heq, h⟩ => absurd (heq ▸ h trivial) hcontext⟩
      · simp only [hcontext, hrequired]
        split_ifs <;> simp

theorem planEach_eq_ok_iff {signatures : List Signature} {plans : List Plan} :
    (generator.planEach signatures).result = .ok plans ↔
      List.Forall₂ generator.Keeps signatures plans := by
  induction signatures generalizing plans with
  | nil => simp [planEach, eq_comm]
  | cons signature rest ih =>
    rw [planEach, List.forall₂_cons_left_iff]
    cases hfirst : (generator.planOne signature).result with
    | error error =>
      refine ⟨fun h => (by cases h), fun ⟨plan, _, hkeeps, _⟩ => ?_⟩
      rw [planOne_eq_ok_iff.mpr hkeeps] at hfirst
      cases hfirst
    | ok plan =>
      have hplan {other} : generator.Keeps signature other ↔ plan = other := by
        rw [← planOne_eq_ok_iff, hfirst, Except.ok.injEq]
      cases hothers : (generator.planEach rest).result with
      | error error => simp [← ih, hothers, Except.map]
      | ok others => simp [← ih, hothers, hplan, Except.map, eq_comm]

/-- What every plan has in common with its signature, the lists have in common. -/
theorem map_of_keeps {α : Type} {f : Plan → α} {g : Signature → α} {signatures : List Signature}
    {plans : List Plan} (keeps : List.Forall₂ generator.Keeps signatures plans)
    (h : ∀ signature plan, generator.Keeps signature plan → f plan = g signature) :
    plans.map f = signatures.map g := by
  induction keeps with
  | nil => rfl
  | cons hfirst _ ih => rw [List.map_cons, List.map_cons, ih, h _ _ hfirst]

theorem map_qualifiedName_of_keeps {signatures : List Signature} {plans : List Plan}
    (keeps : List.Forall₂ generator.Keeps signatures plans) :
    plans.map Plan.qualifiedName = signatures.map Signature.name :=
  map_of_keeps keeps fun _ _ hkeeps => (Plan.parse_qualifiedName hkeeps.planned).1

/-- Generation accepts the lists whose signatures all have plans that it keeps, under
different names, on a target that can host wrappers. -/
theorem plan_eq_ok_iff {signatures : List Signature} {plans : List Plan} :
    (generator.plan signatures).result = .ok plans ↔
      generator.checkTarget = .ok () ∧ List.Forall₂ generator.Keeps signatures plans ∧
        (plans.map Plan.qualifiedName).Nodup := by
  have hdistinct {found : List Plan} :
      distinct found = .ok plans ↔ found = plans ∧ (plans.map Plan.qualifiedName).Nodup := by
    unfold distinct
    cases hrepeated : firstRepeated [] (found.map Plan.qualifiedName) with
    | some name =>
      refine ⟨fun h => (by cases h), fun ⟨heq, hnodup⟩ => ?_⟩
      rw [heq, firstRepeated_eq_none_iff.mpr ⟨hnodup, by simp⟩] at hrepeated
      cases hrepeated
    | none =>
      have hnodup := (firstRepeated_eq_none_iff.mp hrepeated).1
      exact ⟨fun h => ⟨Except.ok.inj h, Except.ok.inj h ▸ hnodup⟩, fun h => congrArg _ h.1⟩
  unfold plan
  cases htarget : generator.checkTarget with
  | error error => simp
  | ok =>
    change (generator.planEach signatures).result >>= distinct = _ ↔ _
    rw [bind_eq_ok_iff]
    simp only [planEach_eq_ok_iff, hdistinct, true_and]
    constructor
    · rintro ⟨_, hkeeps, rfl, hnodup⟩
      exact ⟨hkeeps, hnodup⟩
    · rintro ⟨hkeeps, hnodup⟩
      exact ⟨plans, hkeeps, rfl, hnodup⟩

/-- Every plan of an accepted list belongs to one of its signatures. -/
theorem exists_keeps_of_mem {signatures : List Signature} {plans : List Plan} {plan : Plan}
    (accepted : (generator.plan signatures).result = .ok plans) (hplan : plan ∈ plans) :
    ∃ signature ∈ signatures, generator.Keeps signature plan := by
  obtain ⟨-, hkeeps, -⟩ := plan_eq_ok_iff.mp accepted
  clear accepted
  induction hkeeps with
  | nil => cases hplan
  | cons hfirst _ ih =>
    rcases List.mem_cons.mp hplan with rfl | hrest
    · exact ⟨_, List.mem_cons_self, hfirst⟩
    · obtain ⟨signature, hsignature, hkeeps⟩ := ih hrest
      exact ⟨signature, List.mem_cons_of_mem _ hsignature, hkeeps⟩

/-- A run gives the file that the plans of the signatures ask for. -/
theorem generate_result (generator : Generator) (settings : Tracing.Performance)
    (elapsed : UInt64) (signatures : List Signature) :
    (generator.generate settings elapsed signatures).result =
      (generator.plan signatures).result.map generator.source := by
  unfold generate
  cases hplan : (generator.plan signatures).result <;> simp [hplan, Except.map]

theorem generate_eq_ok_iff {settings : Tracing.Performance} {elapsed : UInt64}
    {signatures : List Signature} {source : String} :
    (generator.generate settings elapsed signatures).result = .ok source ↔
      ∃ plans, (generator.plan signatures).result = .ok plans ∧
        generator.source plans = source := by
  rw [generate_result]
  cases (generator.plan signatures).result <;> simp [Except.map]

end Generator

end KernelBridge
