import KernelBridge.Proofs.Cpp.QualifiedName
import KernelBridge.Proofs.Wrapper.Acceptance

/-!
# Signatures that can be wrapped

Whether a signature has a plan is decided by checks that go through its arguments one after the
other and remember what they have seen. What they ask for does not depend on the order: here it
is said without one, of the arguments as a collection.

## Main definitions

* `Signature.takenNames` — the names that the arguments of a wrapper may not have
* `Signature.IsWrappable` — what a signature must be like to have a plan on a backend

## Main results

* `Plan.namesFit_draft_iff` — the collisions that are left once all names differ
* `Signature.IsWrappable.of_perm` — the order of the arguments does not matter
* `Plan.exists_ofSignature_iff_wrappable` — the signatures that have a plan
-/

namespace KernelBridge

namespace Signature

/-- The names that the arguments of a wrapper for the backend may not have: the kernel's simple
name, and those that every wrapper or the backend's context setup needs. -/
def takenNames (signature : Signature) (backend : Backend) : List String :=
  (Cpp.segments signature.name).getLast?.toList
    ++ [cacheCleanup, statusLocal, contextName]
    ++ backend.reservedLocals ++ backend.referencedNames

/-- A signature that has a plan on a backend. -/
@[mk_iff]
structure IsWrappable (signature : Signature) (backend : Backend) : Prop where
  segments : ∀ segment ∈ Cpp.segments signature.name, Cpp.isIdentifier segment = true
  named : ∀ argument ∈ signature.arguments, argument.name ≠ ""
  distinct : (signature.arguments.map fun argument => Cpp.identifier argument.name).Nodup
  oneContext : signature.arguments.countP Argument.isContext ≤ 1
  /-- The user context is a handle that is passed by value. -/
  context : ∀ argument ∈ signature.arguments, argument.isContext = true →
    argument.kind = .scalar ∧ argument.type = .handle
  /-- No other buffer holds handles. -/
  elements : ∀ buffer ∈ signature.buffers, buffer.isContext = false → buffer.type ≠ .handle
  free : ∀ argument ∈ signature.publicArguments,
    Cpp.identifier argument.name ∉ signature.takenNames backend
  /-- The local of a buffer's view has a name that no argument has. -/
  views : ∀ buffer ∈ signature.buffers, ∀ argument ∈ signature.arguments,
    Cpp.identifier buffer.name ++ "_buffer" ≠ Cpp.identifier argument.name

instance (signature : Signature) (backend : Backend) :
    Decidable (signature.IsWrappable backend) :=
  decidable_of_iff' _ (isWrappable_iff signature backend)

variable {signature : Signature} {backend : Backend}

/-- The conditions on the arguments are conditions on single arguments, on pairs of them and
on their number, so their order does not matter. -/
theorem IsWrappable.of_perm {arguments : List Argument} (wrappable : signature.IsWrappable backend)
    (perm : arguments.Perm signature.arguments) :
    (⟨signature.name, arguments⟩ : Signature).IsWrappable backend where
  segments := wrappable.segments
  named argument hargument := wrappable.named argument (perm.mem_iff.mp hargument)
  distinct := (perm.map _).nodup_iff.mpr wrappable.distinct
  oneContext := by
    rw [perm.countP_eq]
    exact wrappable.oneContext
  context argument hargument := wrappable.context argument (perm.mem_iff.mp hargument)
  elements buffer hbuffer := wrappable.elements buffer ((perm.filter _).mem_iff.mp hbuffer)
  free argument hargument := wrappable.free argument ((perm.filter _).mem_iff.mp hargument)
  views buffer hbuffer argument hargument :=
    wrappable.views buffer ((perm.filter _).mem_iff.mp hbuffer) argument
      (perm.mem_iff.mp hargument)

end Signature

/-! ### Valid signatures -/

theorem Argument.isPassable_iff {argument : Argument} :
    argument.IsPassable ↔
      (argument.isContext = true → argument.kind = .scalar ∧ argument.type = .handle) ∧
        (argument.isContext = false → argument.isBuffer = true → argument.type ≠ .handle) := by
  have hkind : argument.isBuffer = false ↔ argument.kind = .scalar := by
    cases hkind : argument.kind <;> simp [isBuffer, hkind]
  unfold IsPassable
  split
  · next hcontext => simp [hcontext, hkind]
  · next hcontext => simp [hcontext]

/-- The checks of a signature, without the order in which they look at the arguments. -/
theorem Signature.validate_iff {signature : Signature} :
    signature.validate = .ok () ↔
      (∀ segment ∈ Cpp.segments signature.name, Cpp.isIdentifier segment = true) ∧
        (∀ argument ∈ signature.arguments, argument.name ≠ "" ∧ argument.IsPassable) ∧
        (signature.arguments.map fun argument => Cpp.identifier argument.name).Nodup ∧
        signature.arguments.countP Argument.isContext ≤ 1 := by
  have hname : (∀ segment ∈ Cpp.segments signature.name, Cpp.isIdentifier segment = true) →
      signature.name ≠ "" := by
    rintro hsegments hempty
    rw [hempty] at hsegments
    revert hsegments
    decide
  rw [validate_eq_ok_iff, Cpp.QualifiedName.exists_parse_iff, checkArguments_eq_ok_iff,
    List.countP_eq_length_filter]
  constructor
  · rintro ⟨-, hsegments, ⟨hall, hnodup, -⟩, hcontexts⟩
    exact ⟨hsegments, hall, hnodup, hcontexts⟩
  · rintro ⟨hsegments, hall, hnodup, hcontexts⟩
    exact ⟨hname hsegments, hsegments, ⟨hall, hnodup, by simp⟩, hcontexts⟩

/-! ### Collisions -/

namespace Plan

variable {backend : Backend} {signature : Signature} {name : Cpp.QualifiedName}

/-- No local that is not a view has a name like one. -/
theorem viewName_not_mem_fixedLocals (backend : Backend) (buffer : Parameter) :
    buffer.viewName ∉ fixedLocals backend := by
  have hends : ∀ other ∈ fixedLocals backend, ¬ "_buffer".toList <:+ other.toList := by
    cases backend <;> decide
  intro hmem
  refine hends _ hmem ?_
  rw [Parameter.viewName, String.toList_append]
  exact List.suffix_append _ _

/-- Views of buffers with different names have different names. -/
theorem nodup_viewNames {plan : Plan} (distinct : (plan.parameters.map Parameter.name).Nodup) :
    (plan.buffers.map Parameter.viewName).Nodup := by
  have hviews : plan.buffers.map Parameter.viewName =
      (plan.buffers.map Parameter.name).map (· ++ "_buffer") := by
    rw [List.map_map]
    rfl
  rw [hviews]
  refine List.Nodup.map (fun one other h => (String.append_left_inj "_buffer").mp h) ?_
  exact (List.filter_sublist.map Parameter.name).nodup distinct

/-- The names that no parameter of the wrapper may have. -/
theorem mem_takenNames_iff (parsed : Cpp.QualifiedName.parse signature.name = .ok name)
    {other : String} :
    other ∈ signature.takenNames backend ↔
      other = name.simple ∨ other = cacheCleanup ∨ other ∈ backend.referencedNames ∨
        other ∈ fixedLocals backend := by
  have hsimple : (Cpp.segments signature.name).getLast? = some name.simple := by
    rw [(Cpp.QualifiedName.parse_eq_ok_iff.mp parsed).1, Cpp.QualifiedName.path]
    exact List.getLast?_concat
  simp only [Signature.takenNames, hsimple, fixedLocals, Option.toList_some, List.mem_append,
    List.mem_cons, List.not_mem_nil, or_false]
  tauto

/-- If all arguments have names of their own, so have the views, and what is left to collide
with are the names that are taken by something else. -/
theorem namesFit_draft_iff (parsed : Cpp.QualifiedName.parse signature.name = .ok name)
    (distinct : (signature.arguments.map fun argument => Cpp.identifier argument.name).Nodup) :
    (draft signature name).NamesFit backend ↔
      (∀ argument ∈ signature.publicArguments,
        Cpp.identifier argument.name ∉ signature.takenNames backend) ∧
      ∀ buffer ∈ signature.buffers, ∀ argument ∈ signature.arguments,
        Cpp.identifier buffer.name ++ "_buffer" ≠ Cpp.identifier argument.name := by
  have hpublic : (draft signature name).publicParameters =
      signature.publicArguments.map Parameter.ofArgument :=
    List.filter_map
  have hbuffers : (draft signature name).buffers =
      signature.buffers.map Parameter.ofArgument :=
    List.filter_map
  have hnames : (draft signature name).parameters.map Parameter.name =
      signature.arguments.map fun argument => Cpp.identifier argument.name := by
    simp [draft, Parameter.ofArgument, Function.comp_def]
  have hviews : ((draft signature name).buffers.map Parameter.viewName).Nodup :=
    nodup_viewNames (hnames ▸ distinct)
  constructor
  · intro fit
    refine ⟨fun argument hargument => ?_, fun buffer hbuffer argument hargument heq => ?_⟩
    · have hmem : Parameter.ofArgument argument ∈ (draft signature name).publicParameters :=
        hpublic ▸ List.mem_map_of_mem hargument
      rw [mem_takenNames_iff parsed, not_or, not_or, not_or]
      exact ⟨fit.not_kernel _ hmem, fit.not_cleanup _ hmem, fit.not_referenced _ hmem,
        fit.not_local _ hmem⟩
    · refine fit.view_not_parameter (.ofArgument buffer) (hbuffers ▸ List.mem_map_of_mem hbuffer) ?_
      rw [hnames]
      exact List.mem_map.mpr ⟨argument, hargument, heq.symm⟩
  · rintro ⟨hfree, hapart⟩
    have hfree : ∀ parameter ∈ (draft signature name).publicParameters,
        parameter.name ≠ name.simple ∧ parameter.name ≠ cacheCleanup ∧
          parameter.name ∉ backend.referencedNames ∧ parameter.name ∉ fixedLocals backend := by
      rw [hpublic, List.forall_mem_map]
      intro argument hargument
      have htaken := hfree argument hargument
      rwa [mem_takenNames_iff parsed, not_or, not_or, not_or] at htaken
    refine ⟨fun parameter h => (hfree parameter h).1, fun parameter h => (hfree parameter h).2.1,
      fun parameter h => (hfree parameter h).2.2.1, fun parameter h => (hfree parameter h).2.2.2,
      hviews, fun buffer _ => viewName_not_mem_fixedLocals backend buffer, ?_⟩
    rw [hbuffers, hnames, List.forall_mem_map]
    rintro buffer hbuffer hmem
    obtain ⟨argument, hargument, heq⟩ := List.mem_map.mp hmem
    exact hapart buffer hbuffer argument hargument heq.symm

/-! ### Signatures that have a plan -/

theorem exists_ofSignature_iff :
    (∃ plan, ofSignature backend signature = .ok plan) ↔ signature.IsWrappable backend := by
  simp only [ofSignature_eq_ok_iff]
  constructor
  · rintro ⟨_, valid, name, parsed, rfl, fit⟩
    obtain ⟨hsegments, hall, hdistinct, hcontexts⟩ := Signature.validate_iff.mp valid
    obtain ⟨hfree, hviews⟩ := (namesFit_draft_iff parsed hdistinct).mp fit
    have hpassable (argument) (h : argument ∈ signature.arguments) :=
      Argument.isPassable_iff.mp (hall argument h).2
    refine ⟨hsegments, fun argument h => (hall argument h).1, hdistinct, hcontexts,
      fun argument h => (hpassable argument h).1, fun buffer h => ?_, hfree, hviews⟩
    obtain ⟨hmem, hbuffer⟩ := List.mem_filter.mp h
    exact fun hcontext => (hpassable buffer hmem).2 hcontext hbuffer
  · intro wrappable
    obtain ⟨name, parsed⟩ := Cpp.QualifiedName.exists_parse_iff.mpr wrappable.segments
    have hpassable (argument) (h : argument ∈ signature.arguments) : argument.IsPassable :=
      Argument.isPassable_iff.mpr ⟨wrappable.context argument h, fun hcontext hbuffer =>
        wrappable.elements argument (List.mem_filter.mpr ⟨h, hbuffer⟩) hcontext⟩
    exact ⟨_, Signature.validate_iff.mpr ⟨wrappable.segments,
        fun argument h => ⟨wrappable.named argument h, hpassable argument h⟩,
        wrappable.distinct, wrappable.oneContext⟩,
      name, parsed, rfl,
      (namesFit_draft_iff parsed wrappable.distinct).mpr ⟨wrappable.free, wrappable.views⟩⟩

/-- **Signatures that can be wrapped.** A signature has a plan on a backend iff its names and
types are as they should be, whatever the order of its arguments. Signatures with the same
arguments in another order have a plan as well, and a plan keeps the order that it is given. -/
theorem exists_ofSignature_iff_wrappable (backend : Backend) (signature : Signature) :
    ((∃ plan, ofSignature backend signature = .ok plan) ↔ signature.IsWrappable backend) ∧
    (∀ arguments : List Argument, arguments.Perm signature.arguments →
      ((∃ plan, ofSignature backend ⟨signature.name, arguments⟩ = .ok plan) ↔
        ∃ plan, ofSignature backend signature = .ok plan)) ∧
    ∀ plan, ofSignature backend signature = .ok plan →
      plan.parameters = signature.arguments.map fun argument =>
        ⟨Cpp.identifier argument.name, argument.kind, argument.type, argument.isContext⟩ := by
  refine ⟨exists_ofSignature_iff, fun arguments perm => ?_, fun plan accepted => ?_⟩
  · rw [exists_ofSignature_iff, exists_ofSignature_iff]
    exact ⟨fun wrappable => wrappable.of_perm perm.symm, fun wrappable => wrappable.of_perm perm⟩
  · obtain ⟨-, name, -, rfl, -⟩ := ofSignature_eq_ok_iff.mp accepted
    rfl

/-- A signature that is refused only because of a view, in whatever order its arguments stand. -/
example : ¬ Signature.IsWrappable ⟨"ops::f", [.buffer "a.b" .f32 1, .scalar "a_b_buffer" .i32]⟩
    .cpu := by
  decide +kernel

end Plan

end KernelBridge
