import KernelBridge.Proofs.Wrapper.Outline

/-!
# Clashes between functions

Generation makes sure that the kernels of a file have different names. The names of wrappers are
made from them, and the namespaces are parts of them, and neither is compared with anything. So
a file can hold two functions of one name, or a function with the name of a namespace. Which
kernels lead to that can be told from their names.

## Main definitions

* `NamesApart` — the kernels' names give no clash

## Main results

* `Plan.exists_openedPaths_iff` — the names that are names of namespaces
* `Generator.isClashFree_iff_namesApart` — the files without clashes
-/

namespace KernelBridge

/-- No wrapper has the name of a declared kernel, and no name of a function goes on as the name
of a kernel inside a namespace. -/
def NamesApart (declareKernels : Bool) (names : List String) : Prop :=
  ∀ one ∈ names, ∀ other ∈ names,
    (declareKernels = true → other ≠ one ++ "_th_" ∧ ¬ (one ++ "::").toList <+: other.toList) ∧
      ¬ (one ++ "_th_" ++ "::").toList <+: other.toList

instance (declareKernels : Bool) (names : List String) :
    Decidable (NamesApart declareKernels names) :=
  inferInstanceAs (Decidable (∀ one ∈ names, ∀ other ∈ names, _ ∧ _))

/-! ### Names of functions and of namespaces -/

namespace Plan

variable {plan other : Plan}

theorem isIdentifier_path (named : plan.IsNamed) :
    ∀ part ∈ plan.path, Cpp.isIdentifier part = true := by
  intro part hpart
  rcases List.mem_append.mp hpart with hspace | hsimple
  · exact named.namespaces part hspace
  · rw [List.mem_singleton.mp hsimple]
    exact named.simple

theorem isIdentifier_wrapperPath (named : plan.IsNamed) :
    ∀ part ∈ plan.wrapperPath, Cpp.isIdentifier part = true := by
  intro part hpart
  rcases List.mem_append.mp hpart with hspace | hwrapper
  · exact named.namespaces part hspace
  · rw [List.mem_singleton.mp hwrapper]
    exact Cpp.isIdentifier_append named.simple (by decide) (by decide)

/-- The namespaces that are opened around a kernel begin its qualified name. -/
theorem mem_openedPaths_iff {path : List String} :
    path ∈ plan.openedPaths ↔ path ≠ [] ∧ path <+: plan.path ∧ path.length < plan.path.length := by
  have hmem : path ∈ plan.openedPaths ↔ path ≠ [] ∧ path <+: plan.namespaces := by
    rw [openedPaths]
    cases plan.namespaces <;> cases path <;> simp [List.cons_prefix_cons, eq_comm, and_comm]
  have hproper : path <+: plan.namespaces ↔
      path <+: plan.path ∧ path.length < plan.path.length := by
    rw [Plan.path, List.prefix_concat_iff]
    constructor
    · intro hbegins
      exact ⟨.inr hbegins, by simpa [Nat.lt_succ_iff] using hbegins.length_le⟩
    · rintro ⟨heq, hlength⟩
      refine heq.resolve_left fun heq => ?_
      rw [heq] at hlength
      exact Nat.lt_irrefl _ hlength
  rw [hmem, hproper]

/-- A qualified name is that of a namespace around a kernel iff the kernel's qualified name goes
on behind it. -/
theorem exists_openedPaths_iff (named : plan.IsNamed) {parts : List String}
    (hparts : ∀ part ∈ parts, Cpp.isIdentifier part = true) (hsome : parts ≠ []) :
    (∃ path ∈ plan.openedPaths, Cpp.joined path = Cpp.joined parts) ↔
      (Cpp.joined parts ++ "::").toList <+: (Cpp.joined plan.path).toList := by
  rw [Cpp.joined_colons_prefix_iff hparts (isIdentifier_path named) hsome]
  constructor
  · rintro ⟨path, hpath, heq⟩
    obtain ⟨hne, hbegins, hlength⟩ := mem_openedPaths_iff.mp hpath
    have hidentifiers : ∀ part ∈ path, Cpp.isIdentifier part = true := fun part hpart =>
      isIdentifier_path named part (hbegins.mem hpart)
    obtain rfl := Cpp.joined_injective_of_isIdentifier hidentifiers hparts hne hsome heq
    exact ⟨hbegins, hlength⟩
  · rintro ⟨hbegins, hlength⟩
    exact ⟨parts, mem_openedPaths_iff.mpr ⟨hsome, hbegins, hlength⟩, rfl⟩

end Plan

namespace Generator

variable {generator : Generator} {signatures : List Signature} {plans : List Plan}

/-- The names of all functions of a file. -/
def fileNames (generator : Generator) (plans : List Plan) : List String :=
  (generator.declared plans).map (fun plan => Cpp.joined plan.path)
    ++ plans.map fun plan => Cpp.joined plan.wrapperPath

theorem mem_declared_iff {plan : Plan} :
    plan ∈ generator.declared plans ↔ generator.options.declareKernels = true ∧ plan ∈ plans := by
  unfold declared
  split
  · next hdeclare =>
    rw [(List.filter_append_perm _ plans).mem_iff]
    simp [hdeclare]
  · next hdeclare => simp [hdeclare]

/-- As kernels differ, the only functions of one name are a kernel and the wrapper of another
one. -/
theorem nodup_fileNames_iff (hnodup : (plans.map fun plan => Cpp.joined plan.path).Nodup) :
    (generator.fileNames plans).Nodup ↔
      (generator.options.declareKernels = true →
        ∀ one ∈ plans, ∀ other ∈ plans, Cpp.joined other.path ≠ Cpp.joined one.wrapperPath) := by
  have hdeclared : ((generator.declared plans).map fun plan => Cpp.joined plan.path).Nodup := by
    unfold declared
    split
    · exact (((List.filter_append_perm _ plans).map _).nodup_iff).mpr hnodup
    · exact List.nodup_nil
  have hwrappers : (plans.map fun plan => Cpp.joined plan.wrapperPath).Nodup := by
    have hsuffix : plans.map (fun plan => Cpp.joined plan.wrapperPath) =
        (plans.map fun plan => Cpp.joined plan.path).map (· ++ "_th_") := by
      simp [Plan.joined_wrapperPath]
    rw [hsuffix]
    exact hnodup.map fun name name' heq => by simpa using heq
  rw [fileNames, List.nodup_append]
  simp only [hdeclared, hwrappers, true_and, List.forall_mem_map, mem_declared_iff]
  constructor
  · intro h hdeclare one hone other hother
    exact h other ⟨hdeclare, hother⟩ one hone
  · intro h other hother one hone
    exact h hother.1 one hone other hother.2

/-- No namespace has the name of a function iff no kernel's name goes on behind it. -/
theorem not_mem_fileNames_iff (named : ∀ plan ∈ plans, plan.IsNamed) {paths : List (List String)}
    (hpaths : ∀ path, path ∈ paths ↔ ∃ plan ∈ plans, path ∈ plan.openedPaths) :
    (∀ path ∈ paths, Cpp.joined path ∉ generator.fileNames plans) ↔
      ∀ one ∈ plans, ∀ other ∈ plans,
        (generator.options.declareKernels = true →
          ¬ (Cpp.joined one.path ++ "::").toList <+: (Cpp.joined other.path).toList) ∧
        ¬ (Cpp.joined one.wrapperPath ++ "::").toList <+: (Cpp.joined other.path).toList := by
  -- A namespace around a kernel is named as a function iff the kernel's name goes on behind it.
  have hkernel {one other : Plan} (hone : one ∈ plans) (hother : other ∈ plans) :=
    Plan.exists_openedPaths_iff (named other hother) (Plan.isIdentifier_path (named one hone))
      (by simp [Plan.path])
  have hwrapper {one other : Plan} (hone : one ∈ plans) (hother : other ∈ plans) :=
    Plan.exists_openedPaths_iff (named other hother)
      (Plan.isIdentifier_wrapperPath (named one hone)) (by simp [Plan.wrapperPath])
  simp only [fileNames, List.mem_append, List.mem_map, mem_declared_iff, not_or, not_exists,
    not_and]
  constructor
  · intro h one hone other hother
    refine ⟨fun hdeclare hbegins => ?_, fun hbegins => ?_⟩
    · obtain ⟨path, hpath, heq⟩ := (hkernel hone hother).mpr hbegins
      exact (h path ((hpaths path).mpr ⟨other, hother, hpath⟩)).1 one ⟨hdeclare, hone⟩ heq.symm
    · obtain ⟨path, hpath, heq⟩ := (hwrapper hone hother).mpr hbegins
      exact (h path ((hpaths path).mpr ⟨other, hother, hpath⟩)).2 one hone heq.symm
  · intro h path hpath
    obtain ⟨other, hother, hopened⟩ := (hpaths path).mp hpath
    refine ⟨fun one hone heq => ?_, fun one hone heq => ?_⟩
    · exact (h one hone.2 other hother).1 hone.1
        ((hkernel hone.2 hother).mp ⟨path, hopened, heq.symm⟩)
    · exact (h one hone other hother).2 ((hwrapper hone hother).mp ⟨path, hopened, heq.symm⟩)

/-- The names of the kernels tell whether a file is free of clashes. -/
theorem outline_isClashFree_iff (accepted : (generator.plan signatures).result = .ok plans) :
    ∃ placed, outline [] (readLines (sourceText (generator.below plans))) = some placed ∧
      (IsClashFree placed ↔
        NamesApart generator.options.declareKernels (signatures.map Signature.name)) := by
  obtain ⟨first, second, houtline, hdeclared, hnone, -, hdefined, hall, hopened⟩ :=
    outline_below generator plans (isNamed_of_accepted accepted)
  have hnames : functionNames (first ++ second) = generator.fileNames plans := by
    rw [functionNames, declarations_append, hnone, hall, hdefined, hdeclared, fileNames]
    simp [Function.comp_def, Plan.qualifiedName_declaredSite, Plan.qualifiedName_definition,
      Plan.joined_wrapperPath]
  have hpaths : (plans.map fun plan => Cpp.joined plan.path).Nodup :=
    (map_path_of_accepted accepted).symm ▸ nodup_names_of_accepted accepted
  have hclashFree : IsClashFree (first ++ second) ↔ (generator.fileNames plans).Nodup ∧
      ∀ path ∈ openedNamespaces (first ++ second),
        Cpp.joined path ∉ generator.fileNames plans := by
    rw [← hnames]
    exact ⟨fun h => ⟨h.functions, h.namespaces⟩, fun h => ⟨h.1, h.2⟩⟩
  refine ⟨_, houtline, ?_⟩
  rw [hclashFree, nodup_fileNames_iff hpaths,
    not_mem_fileNames_iff (isNamed_of_accepted accepted) hopened, NamesApart,
    ← map_path_of_accepted accepted]
  simp only [List.forall_mem_map, ← Plan.joined_wrapperPath]
  constructor
  · intro ⟨hfunctions, hspaces⟩ one hone other hother
    exact ⟨fun hdeclare => ⟨hfunctions hdeclare one hone other hother,
      (hspaces one hone other hother).1 hdeclare⟩, (hspaces one hone other hother).2⟩
  · intro h
    exact ⟨fun hdeclare one hone other hother => ((h one hone other hother).1 hdeclare).1,
      fun one hone other hother => ⟨fun hdeclare => ((h one hone other hother).1 hdeclare).2,
        (h one hone other hother).2⟩⟩

/-- **Which files have clashes.** Below the preamble of a generated file, the names of all
functions differ from each other and from those of the namespaces exactly if the names of the
kernels are apart: nothing else is checked, and nothing less would do. -/
theorem isClashFree_iff_namesApart {settings : Tracing.Performance} {elapsed : UInt64}
    {source : String}
    (generated : (generator.generate settings elapsed signatures).result = .ok source) :
    ∃ text placed, source = sourceText (preamble generator.target) ++ text ∧
      outline [] (readLines text) = some placed ∧
      (IsClashFree placed ↔
        NamesApart generator.options.declareKernels (signatures.map Signature.name)) := by
  obtain ⟨plans, accepted, rfl⟩ := generate_eq_ok_iff.mp generated
  obtain ⟨placed, houtline, hiff⟩ := outline_isClashFree_iff accepted
  exact ⟨_, placed, source_eq_append generator plans, houtline, hiff⟩

/-- A file without clashes, although its kernels share namespaces and simple names. -/
theorem isClashFree_of_shared_names :
    ∃ source text placed,
      (generate ⟨.host, {}⟩ {} 0
        [⟨"a::f", []⟩, ⟨"f", [.buffer "a" .f32 1]⟩, ⟨"a::b::f", []⟩, ⟨"f_th", [.context]⟩]).result =
          .ok source ∧
      source = sourceText (preamble .host) ++ text ∧
      outline [] (readLines text) = some placed ∧ IsClashFree placed := by
  have generated : (generate ⟨.host, {}⟩ {} 0
      [⟨"a::f", []⟩, ⟨"f", [.buffer "a" .f32 1]⟩, ⟨"a::b::f", []⟩, ⟨"f_th", [.context]⟩]).result =
        .ok _ :=
    rfl
  obtain ⟨text, placed, hsource, houtline, hiff⟩ := isClashFree_iff_namesApart generated
  exact ⟨_, text, placed, generated, hsource, houtline, hiff.mpr (by decide +kernel)⟩

/-- A kernel with the name of another kernel's wrapper. -/
theorem clash_of_wrapper_name :
    ∃ source text placed,
      (generate ⟨.host, {}⟩ {} 0 [⟨"f", []⟩, ⟨"f_th_", []⟩]).result = .ok source ∧
      source = sourceText (preamble .host) ++ text ∧
      outline [] (readLines text) = some placed ∧ ¬ IsClashFree placed := by
  have accepted : ((⟨.host, {}⟩ : Generator).plan [⟨"f", []⟩, ⟨"f_th_", []⟩]).result = .ok _ := rfl
  obtain ⟨placed, houtline, hiff⟩ := outline_isClashFree_iff accepted
  exact ⟨_, _, placed, rfl, source_eq_append ⟨.host, {}⟩ _, houtline,
    hiff.not.mpr (by decide +kernel)⟩

/-- The other clash, of a kernel with the namespace around another one. -/
example : ¬ NamesApart true ["a", "a::b"] := by decide +kernel

end Generator

end KernelBridge
