import KernelBridge.Proofs.Wrapper.Acceptance

/-!
# Validation and planning

Signatures are validated as a set when their document is read, and one by one when wrappers are
planned for them. The two agree: a list that is planned is a valid set, and a valid set can be
refused only for what a document cannot show, which is how the wrappers of a backend look.

## Main definitions

* `SignatureFault.IsCollision` — the faults of names that get in each other's way
* `Signature.Refusal` — why a valid signature gets no wrapper on a backend

## Main results

* `SignatureSet.validate_eq_ok_iff` — the valid sets
* `Generator.plan_eq_error_iff_of_valid` — a valid set is refused for its first refused signature
* `Generator.validation_agrees_with_planning` — validating and planning compared
-/

namespace KernelBridge

open FirstFault

/-! ### Valid sets -/

section Sets

variable {signatures : List Signature}

theorem checkFunctions_eq_ok_iff {seen : List String} :
    checkFunctions seen signatures = .ok () ↔
      (∀ signature ∈ signatures, signature.validate = .ok ()) ∧
        (signatures.map Signature.name).Nodup ∧
        ∀ signature ∈ signatures, signature.name ∉ seen := by
  induction signatures generalizing seen with
  | nil => simp [checkFunctions]
  | cons signature rest ih =>
    rw [checkFunctions, then_eq_ok_iff, ← fresh_cons_iff, List.forall_mem_cons]
    by_cases hseen : signature.name ∈ seen
    · simp [hseen, bind, Except.bind, throw, throwThe, MonadExceptOf.throw]
    · rw [if_neg (by simpa using hseen), ih, and_iff_right hseen, and_assoc]

/-- A set of the current version is valid iff its signatures are and have different names. -/
theorem SignatureSet.validate_eq_ok_iff :
    SignatureSet.validate { functions := signatures } = .ok () ↔
      (∀ signature ∈ signatures, signature.validate = .ok ()) ∧
        (signatures.map Signature.name).Nodup := by
  rw [validate, if_neg (by simp), checkFunctions_eq_ok_iff]
  simp

end Sets

/-! ### Faults of collisions -/

/-- The fault is that a name of the wrapper gets in the way of another one. -/
def SignatureFault.IsCollision : SignatureFault → Prop
  | hidesKernel _ | hidesReference _ _ | shadowsLocal _ _ | viewCollision _ _ => True
  | _ => False

namespace Plan

variable {backend : Backend} {plan : Plan} {fault : SignatureFault}

theorem isCollision_of_checkHidden {simpleName : String} {parameter : Parameter}
    (h : checkHidden backend simpleName parameter = .error fault) : fault.IsCollision := by
  unfold checkHidden at h
  split at h
  · cases h
    trivial
  · split at h <;> cases h
    trivial

theorem isCollision_of_checkShadowed {parameter : Parameter}
    (h : checkShadowed backend parameter = .error fault) : fault.IsCollision := by
  unfold checkShadowed at h
  split at h <;> cases h
  trivial

theorem isCollision_of_checkViews {taken : List String} {buffers : List Parameter}
    (h : checkViews taken buffers = .error fault) : fault.IsCollision := by
  induction buffers generalizing taken with
  | nil => cases h
  | cons buffer rest ih =>
    rw [checkViews] at h
    split at h
    · cases h
      trivial
    · exact ih h

/-- The checks for collisions find nothing else. -/
theorem isCollision_of_checkCollisions (h : plan.checkCollisions backend = .error fault) :
    fault.IsCollision := by
  rw [checkCollisions, bind_eq_error_iff] at h
  rcases h with hhidden | ⟨_, -, h⟩
  · obtain ⟨_, _, _, _, _, hfault⟩ := forM_eq_error_iff.mp hhidden
    exact isCollision_of_checkHidden hfault
  · rcases bind_eq_error_iff.mp h with hshadowed | ⟨_, -, hviews⟩
    · obtain ⟨_, _, _, _, _, hfault⟩ := forM_eq_error_iff.mp hshadowed
      exact isCollision_of_checkShadowed hfault
    · exact isCollision_of_checkViews hviews

end Plan

/-! ### Refusals of valid signatures -/

/-- Why a valid signature gets no wrapper on a backend. -/
inductive Signature.Refusal (backend : Backend) (signature : Signature) : GenerationError → Prop
  /-- Names of its wrapper collide. -/
  | collision {name : Cpp.QualifiedName} {fault : SignatureFault}
      (parsed : Cpp.QualifiedName.parse signature.name = .ok name)
      (collides : (Plan.draft signature name).checkCollisions backend = .error fault) :
      Refusal backend signature (.signature signature.name fault)
  /-- The kernel takes no user context, without which nothing can be wrapped for CUDA. -/
  | missingContext {name : Cpp.QualifiedName}
      (parsed : Cpp.QualifiedName.parse signature.name = .ok name)
      (fits : (Plan.draft signature name).NamesFit backend)
      (device : backend = .cuda) (lacks : signature.context? = none) :
      Refusal backend signature (.missingContextArgument signature.name backend)

namespace Signature.Refusal

variable {backend : Backend} {signature : Signature} {error : GenerationError}

/-- A refusal is no fault of a set of signatures. -/
theorem ne_schema (refusal : signature.Refusal backend error) (fault : SchemaFault) :
    error ≠ .schema fault := by
  rintro rfl
  cases refusal

/-- A refusal is no fault of the kernel's qualified name. -/
theorem ne_notIdentifier (refusal : signature.Refusal backend error) (function segment : String) :
    error ≠ .signature function (.notIdentifier segment) := by
  rintro rfl
  cases refusal with
  | collision _ collides => exact Plan.isCollision_of_checkCollisions collides

end Signature.Refusal

namespace Signature

section Parsed

variable {backend : Backend} {signature : Signature} {name : Cpp.QualifiedName}
  {error : GenerationError} (parsed : Cpp.QualifiedName.parse signature.name = .ok name)

include parsed

/-- Colliding names are refused whether there is a user context or not. -/
theorem refusal_iff_of_collides {fault : SignatureFault}
    (collides : (Plan.draft signature name).checkCollisions backend = .error fault) :
    signature.Refusal backend error ↔ error = .signature signature.name fault := by
  constructor
  · intro refusal
    cases refusal with
    | collision parsed' collides' =>
      obtain rfl := Except.ok.inj (parsed.symm.trans parsed')
      obtain rfl := Except.error.inj (collides.symm.trans collides')
      rfl
    | missingContext parsed' fits =>
      obtain rfl := Except.ok.inj (parsed.symm.trans parsed')
      rw [← Plan.checkCollisions_eq_ok_iff, collides] at fits
      cases fits
  · rintro rfl
    exact .collision parsed collides

/-- Without collisions only the user context can be missed. -/
theorem refusal_iff_of_fits (fits : (Plan.draft signature name).NamesFit backend) :
    signature.Refusal backend error ↔ signature.context? = none ∧ backend = .cuda ∧
      error = .missingContextArgument signature.name backend := by
  constructor
  · intro refusal
    cases refusal with
    | collision parsed' collides =>
      obtain rfl := Except.ok.inj (parsed.symm.trans parsed')
      rw [Plan.checkCollisions_eq_ok_iff.mpr fits] at collides
      cases collides
    | missingContext _ _ device lacks => exact ⟨lacks, device, rfl⟩
  · rintro ⟨lacks, device, rfl⟩
    exact .missingContext parsed fits device lacks

end Parsed

end Signature

/-! ### Planning -/

theorem Backend.requiresContext_iff {backend : Backend} :
    backend.requiresContext = true ↔ backend = .cuda := by
  cases backend <;> simp [requiresContext]

namespace Plan

theorem hasContext_draft (signature : Signature) (name : Cpp.QualifiedName) :
    (draft signature name).hasContext = signature.context?.isSome := by
  rw [hasContext, draft, List.any_map, Signature.context?, List.isSome_find?]
  rfl

/-- What is left of planning a valid signature are the checks for collisions. -/
theorem ofSignature_of_valid {backend : Backend} {signature : Signature}
    {name : Cpp.QualifiedName} (valid : signature.validate = .ok ())
    (parsed : Cpp.QualifiedName.parse signature.name = .ok name) :
    ofSignature backend signature =
      (((draft signature name).checkCollisions backend).mapError
        (.signature signature.name)).map fun _ => draft signature name := by
  rw [ofSignature, valid, qualifiedName_eq_ok_iff.mpr parsed]
  rfl

end Plan

namespace Generator

variable {generator : Generator} {signatures : List Signature} {error : GenerationError}

/-- A valid signature has no plan iff it is refused. -/
theorem planOne_eq_error_iff_of_valid {signature : Signature}
    (valid : signature.validate = .ok ()) :
    (generator.planOne signature).result = .error error ↔
      signature.Refusal generator.backend error := by
  obtain ⟨-, ⟨name, parsed⟩, -, -⟩ := Signature.validate_eq_ok_iff.mp valid
  rw [planOne, Plan.ofSignature_of_valid valid parsed]
  cases hcollisions : (Plan.draft signature name).checkCollisions generator.backend with
  | error fault =>
    rw [Signature.refusal_iff_of_collides parsed hcollisions]
    simp [Except.mapError, Except.map, eq_comm]
  | ok =>
    rw [Signature.refusal_iff_of_fits parsed (Plan.checkCollisions_eq_ok_iff.mp hcollisions)]
    simp only [Except.mapError, Except.map, Plan.hasContext_draft]
    cases hcontext : signature.context? with
    | some argument => simp
    | none =>
      by_cases hdevice : generator.backend = .cuda
      · simp [hdevice, Backend.requiresContext, Plan.draft, eq_comm]
      · -- Elsewhere the missing context is at most reported.
        have hrequired : generator.backend.requiresContext = false := by
          simpa [← Backend.requiresContext_iff] using hdevice
        simp only [hrequired, hdevice, Option.isSome_none, Bool.false_eq_true, if_false,
          false_and, and_false, iff_false]
        split <;> simp

/-- Planning a list stops at the first signature that has no plan. -/
theorem planEach_eq_error_iff :
    (generator.planEach signatures).result = .error error ↔
      ∃ before signature after, signatures = before ++ signature :: after ∧
        (∀ other ∈ before, ∃ plan, generator.Keeps other plan) ∧
        (generator.planOne signature).result = .error error := by
  -- Without the plans themselves, planning is a check of one signature after the other.
  let check (signature : Signature) := (generator.planOne signature).result.map fun _ => ()
  have hchecks : (generator.planEach signatures).result.map (fun _ => ()) =
      signatures.forM check := by
    induction signatures with
    | nil => rfl
    | cons signature rest ih =>
      change _ = check signature >>= fun _ => rest.forM check
      rw [planEach, ← ih]
      cases hfirst : (generator.planOne signature).result with
      | error => simp [check, hfirst, Except.map, bind, Except.bind]
      | ok plan =>
        cases hrest : (generator.planEach rest).result <;>
          simp [check, hfirst, hrest, Except.map, bind, Except.bind]
  have hforget {α : Type} {result : Except GenerationError α} :
      result.map (fun _ => ()) = .error error ↔ result = .error error := by
    cases result <;> simp [Except.map]
  have hpass {signature : Signature} :
      check signature = .ok () ↔ ∃ plan, generator.Keeps signature plan := by
    simp only [← planOne_eq_ok_iff, check]
    cases (generator.planOne signature).result <;> simp [Except.map]
  rw [← hforget, hchecks, forM_eq_error_iff]
  simp only [hpass, check, hforget]

/-- The plans of a valid set have different names, so all of them are kept. -/
theorem plan_result_of_valid
    (valid : SignatureSet.validate { functions := signatures } = .ok ())
    (target : generator.checkTarget = .ok ()) :
    (generator.plan signatures).result = (generator.planEach signatures).result := by
  obtain ⟨-, hnodup⟩ := SignatureSet.validate_eq_ok_iff.mp valid
  rw [plan, target]
  change (generator.planEach signatures).result.bind distinct = _
  cases hplans : (generator.planEach signatures).result with
  | error => rfl
  | ok plans =>
    change distinct plans = _
    rw [distinct, map_qualifiedName_of_keeps (planEach_eq_ok_iff.mp hplans),
      firstRepeated_eq_none_iff.mpr ⟨hnodup, by simp⟩]

/-- Of a valid set the first signature that is refused decides. -/
theorem plan_eq_error_iff_of_valid
    (valid : SignatureSet.validate { functions := signatures } = .ok ())
    (target : generator.checkTarget = .ok ()) :
    (generator.plan signatures).result = .error error ↔
      ∃ before signature after, signatures = before ++ signature :: after ∧
        (∀ other ∈ before, ∃ plan, generator.Keeps other plan) ∧
        signature.Refusal generator.backend error := by
  rw [plan_result_of_valid valid target, planEach_eq_error_iff]
  refine exists_congr fun before => exists_congr fun signature => exists_congr fun after => ?_
  refine and_congr_right fun hsplit => and_congr_right fun _ => ?_
  have hmember : signature ∈ signatures := by simp [hsplit]
  exact planOne_eq_error_iff_of_valid ((SignatureSet.validate_eq_ok_iff.mp valid).1 _ hmember)

/-- What is planned is a valid set. -/
theorem validate_of_plan {plans : List Plan}
    (accepted : (generator.plan signatures).result = .ok plans) :
    SignatureSet.validate { functions := signatures } = .ok () := by
  obtain ⟨-, hkeeps, hnodup⟩ := plan_eq_ok_iff.mp accepted
  rw [map_qualifiedName_of_keeps hkeeps] at hnodup
  have hvalid : List.Forall₂
      (fun signature plan => signature.validate = .ok () ∧ generator.Keeps signature plan)
      signatures plans :=
    hkeeps.imp fun _ _ keeps => ⟨(Plan.ofSignature_eq_ok_iff.mp keeps.planned).1, keeps⟩
  exact SignatureSet.validate_eq_ok_iff.mpr ⟨((List.forall₂_and_left _ _).mp hvalid).1, hnodup⟩

/-- **Validation and planning agree.** What is planned is a valid set. A valid set on a target
that can host wrappers is planned up to the first signature whose wrapper has colliding names,
or which takes no user context on CUDA: it is never refused as a set, nor for the name of a
kernel. Source is generated for exactly the lists that are planned. -/
theorem validation_agrees_with_planning (generator : Generator) (signatures : List Signature) :
    (∀ plans, (generator.plan signatures).result = .ok plans →
      SignatureSet.validate { functions := signatures } = .ok ()) ∧
    (SignatureSet.validate { functions := signatures } = .ok () →
      generator.checkTarget = .ok () →
      ∀ error, (generator.plan signatures).result = .error error →
        (∃ before signature after, signatures = before ++ signature :: after ∧
          (∀ other ∈ before, ∃ plan, generator.Keeps other plan) ∧
          signature.Refusal generator.backend error) ∧
        (∀ fault, error ≠ .schema fault) ∧
        ∀ function segment, error ≠ .signature function (.notIdentifier segment)) ∧
    ∀ settings elapsed,
      (∃ source, (generator.generate settings elapsed signatures).result = .ok source) ↔
        ∃ plans, (generator.plan signatures).result = .ok plans := by
  refine ⟨fun plans accepted => validate_of_plan accepted, fun valid target error refused => ?_,
    fun settings elapsed => ?_⟩
  · have hfirst := (plan_eq_error_iff_of_valid valid target).mp refused
    have ⟨_, _, _, _, _, refusal⟩ := hfirst
    exact ⟨hfirst, refusal.ne_schema, refusal.ne_notIdentifier⟩
  · simp only [generate_eq_ok_iff]
    constructor
    · rintro ⟨_, plans, accepted, -⟩
      exact ⟨plans, accepted⟩
    · rintro ⟨plans, accepted⟩
      exact ⟨_, plans, accepted, rfl⟩

/-- A valid set that is refused on CUDA for its second kernel, and not for its third one. -/
theorem validation_agrees_up_to_missing_context :
    ∃ error, (Generator.plan ⟨⟨.cuda, [.cuda, .userContext]⟩, {}⟩
      [⟨"ops::f", [.buffer "x" .f32 1, .context]⟩, ⟨"g", [.scalar "n" .i32]⟩,
        ⟨"h", [.context, .scalar "err" .i32]⟩]).result = .error error ∧
      error = .missingContextArgument "g" .cuda ∧
      ∀ fault, error ≠ .schema fault := by
  have refused : (Generator.plan ⟨⟨.cuda, [.cuda, .userContext]⟩, {}⟩
      [⟨"ops::f", [.buffer "x" .f32 1, .context]⟩, ⟨"g", [.scalar "n" .i32]⟩,
        ⟨"h", [.context, .scalar "err" .i32]⟩]).result = .error _ := rfl
  obtain ⟨-, hschema, -⟩ := (validation_agrees_with_planning _ _).2.1 rfl rfl _ refused
  exact ⟨_, refused, rfl, hschema⟩

end Generator

end KernelBridge
