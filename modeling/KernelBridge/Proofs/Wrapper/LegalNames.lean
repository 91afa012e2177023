import Mathlib.Data.List.DropRight
import KernelBridge.Proofs.Cpp.Keyword
import KernelBridge.Proofs.Wrapper.Nesting

/-!
# Names in generated files

The names of namespaces, kernels, wrappers, parameters and views are read from the text of a
file. Some of them are made by the generator, with a suffix or a prefix of its own, and those
are always legal. The others are given by the signatures, and they are legal unless they are
words that the check of identifiers does not know.

## Main definitions

* `sourceNames` — the names that a text shows
* `Signature.givenNames` — the names that a signature gives to a file
* `Plan.madeNames` — the names that are made for a wrapper

## Main results

* `Generator.mem_sourceNames_below` — the names that a file shows are given or made
* `Generator.illegal_name_iff` — the names in a file that C++ does not accept
-/

namespace KernelBridge

/-! ### Names in lines -/

/-- The characters with which the type in front of a name ends. -/
def Line.endsType (c : Char) : Bool := [' ', '*', '&'].contains c

/-- The name in an entry of a list of parameters: what stands behind its type. -/
def Line.entryName (entry : String) : String :=
  String.ofList (entry.toList.rtakeWhile fun c => !endsType c)

/-- The names in the first line of a block. -/
def Block.names : Block → List String
  | space name => [name]
  | linkage => []
  | wrapper name parameters => name :: parameters.map Line.entryName

/-- The names in the last line of a block. -/
def Block.Ending.names : Block.Ending → List String
  | space name => [name]
  | linkage | wrapper => []

/-- The names of namespaces, functions, parameters, arguments and views in a line. -/
def Line.names : Line → List String
  | opens block => block.names
  | closes ending => ending.names
  | declares name parameters => name :: parameters.map entryName
  | calls name arguments => name :: arguments
  | wraps view => [view]
  | other => []

/-- The names that a text shows. -/
def sourceNames (text : String) : List String := (readLines text).flatMap Line.names

/-- Whatever a block's last line names, its first line has named. -/
theorem Block.names_ending_subset (block : Block) : block.ending.names ⊆ block.names := by
  cases block with
  | space name => exact List.Subset.refl _
  | linkage => exact List.Subset.refl _
  | wrapper name parameters => exact List.nil_subset _

theorem Line.mem_names_enclosed {name : String} {blocks : List Block} {lines : List Line} :
    name ∈ (enclosed blocks lines).flatMap names ↔
      (∃ block ∈ blocks, name ∈ block.names) ∨ name ∈ lines.flatMap names := by
  induction blocks with
  | nil => simp [enclosed]
  | cons block inner ih =>
    have hending := @block.names_ending_subset name
    rw [enclosed, List.flatMap_append, List.flatMap_cons, List.mem_append, List.mem_append, ih]
    simp only [List.flatMap_cons, List.flatMap_nil, List.append_nil, names, List.mem_cons,
      exists_eq_or_imp]
    rw [or_iff_left_of_imp fun h => .inl (hending h), or_assoc]

/-- Other lines show no names. -/
theorem Line.mem_names_filter {name : String} {lines : List Line} :
    name ∈ (lines.filter (· != .other)).flatMap names ↔ name ∈ lines.flatMap names := by
  simp only [List.mem_flatMap, List.mem_filter, bne_iff_ne]
  refine exists_congr fun line => ⟨fun h => ⟨h.1.1, h.2⟩, fun h => ⟨⟨h.1, ?_⟩, h.2⟩⟩
  rintro rfl
  exact List.not_mem_nil h.2

/-! ### Names of parameters -/

namespace Parameter

/-- An identifier is found behind a type that ends with a blank or a sign. -/
theorem entryName_append {front name : String} (hname : Cpp.isIdentifier name = true)
    (hfront : front.toList.rtakeWhile (fun c => !Line.endsType c) = []) :
    Line.entryName (front ++ name) = name := by
  have hmarks : [' ', '*', '&'].all (fun c => !Cpp.isNext c) = true := by decide
  have hall : ∀ c ∈ name.toList.reverse, (!Line.endsType c) = true := by
    intro c hc
    have hnext : Cpp.isNext c = true := Cpp.isNext_of_mem hname (List.mem_reverse.mp hc)
    rw [Bool.not_eq_true', Line.endsType, List.contains_eq_mem, decide_eq_false_iff_not]
    intro hmem
    have hmark := List.all_eq_true.mp hmarks c hmem
    rw [hnext] at hmark
    cases hmark
  rw [List.rtakeWhile, List.reverse_eq_nil_iff] at hfront
  rw [Line.entryName, List.rtakeWhile, String.toList_append, List.reverse_append,
    List.takeWhile_append_of_pos hall, hfront]
  simp

variable {parameter : Parameter} (h : Cpp.isIdentifier parameter.name = true)

include h

theorem entryName_wrapperText : Line.entryName parameter.wrapperText = parameter.name := by
  unfold wrapperText
  cases parameter.kind with
  | buffer => exact entryName_append h (by decide)
  | scalar =>
    refine entryName_append h ?_
    cases parameter.type <;> decide

theorem entryName_kernelText : Line.entryName parameter.kernelText = parameter.name := by
  unfold kernelText
  split_ifs
  · exact entryName_append h (by decide)
  · exact entryName_append h (by decide)
  · exact entryName_wrapperText h

end Parameter

/-! ### Names of a plan -/

/-- The names that a signature gives to a file: those in the kernel's qualified name, and those
that stand for the arguments. Only a declaration has a parameter for the user context. -/
def Signature.givenNames (signature : Signature) (declared : Bool) : List String :=
  Cpp.segments signature.name
    ++ (signature.arguments.filter fun argument => declared || !argument.isContext).map
      fun argument => Cpp.identifier argument.name

namespace Plan

/-- The names that the plan has from its signature. -/
def givenNames (plan : Plan) (declared : Bool) : List String :=
  plan.path ++ (plan.parameters.filter fun parameter => declared || !parameter.isContext).map
    Parameter.name

/-- The names that are made for the wrapper. -/
def madeNames (plan : Plan) : List String :=
  plan.wrapperName :: plan.buffers.map Parameter.viewName
    ++ if plan.hasContext then [contextName] else []

variable {plan : Plan} {name : String}

theorem givenNames_eq {backend : Backend} {signature : Signature}
    (accepted : ofSignature backend signature = .ok plan) (declared : Bool) :
    plan.givenNames declared = signature.givenNames declared := by
  obtain ⟨-, parsed, hparse, rfl, -⟩ := ofSignature_eq_ok_iff.mp accepted
  have hpath : Cpp.segments signature.name = (draft signature parsed).path :=
    (Cpp.QualifiedName.parse_eq_ok_iff.mp hparse).1
  rw [givenNames, Signature.givenNames, hpath]
  simp [draft, List.filter_map, Parameter.ofArgument, Function.comp_def]

theorem mem_givenNames_iff {declared : Bool} :
    name ∈ plan.givenNames declared ↔ name ∈ plan.namespaces ∨ name = plan.simpleName ∨
      name ∈ (plan.parameters.filter fun parameter => declared || !parameter.isContext).map
        Parameter.name := by
  simp only [givenNames, path, List.mem_append, List.mem_singleton, or_assoc]

theorem mem_madeNames_iff :
    name ∈ plan.madeNames ↔ name = plan.wrapperName ∨ name ∈ plan.buffers.map Parameter.viewName ∨
      plan.hasContext = true ∧ name = contextName := by
  unfold madeNames
  split <;> simp [*]

/-- What is passed to the kernel is a parameter of the wrapper, a view, or the user context. -/
theorem of_mem_callTexts (h : name ∈ plan.parameters.map Parameter.callText) :
    name ∈ plan.publicParameters.map Parameter.name ∨
      name ∈ plan.buffers.map Parameter.viewName ∨
        plan.hasContext = true ∧ name = contextName := by
  obtain ⟨parameter, hparameter, rfl⟩ := List.mem_map.mp h
  unfold Parameter.callText
  split
  · next hcontext => exact .inr (.inr ⟨List.any_eq_true.mpr ⟨_, hparameter, hcontext⟩, rfl⟩)
  · next hcontext =>
    split
    · next hbuffer =>
      exact .inr (.inl (List.mem_map_of_mem (List.mem_filter.mpr ⟨hparameter, hbuffer⟩)))
    · exact .inl (List.mem_map_of_mem (List.mem_filter.mpr ⟨hparameter, by simpa using hcontext⟩))

theorem contextName_mem_callTexts (h : plan.hasContext = true) :
    contextName ∈ plan.parameters.map Parameter.callText := by
  obtain ⟨parameter, hparameter, hcontext⟩ := List.any_eq_true.mp h
  exact List.mem_map.mpr ⟨parameter, hparameter, if_pos hcontext⟩

theorem mem_names_declarationLines (named : plan.IsNamed) :
    name ∈ plan.declarationLines.flatMap Line.names ↔
      name = plan.simpleName ∨ name ∈ plan.parameters.map Parameter.name := by
  have hentries : plan.parameters.map (Line.entryName ∘ Parameter.kernelText) =
      plan.parameters.map Parameter.name :=
    List.map_congr_left fun parameter h => Parameter.entryName_kernelText (named.parameters _ h)
  simp [declarationLines, Line.names, ← hentries]

theorem mem_names_bodyLines (backend : Backend) (flushCache : Bool) :
    name ∈ (plan.bodyLines backend flushCache).flatMap Line.names ↔
      name ∈ plan.buffers.map Parameter.viewName ∨ name = plan.simpleName ∨
        name ∈ plan.parameters.map Parameter.callText := by
  rw [← Line.mem_names_filter, filter_bodyLines]
  simp [Line.names, List.flatMap_append, List.mem_flatMap, eq_comm]

theorem exists_mem_names_spaces :
    (∃ block ∈ plan.spaces, name ∈ block.names) ↔ name ∈ plan.namespaces := by
  simp [spaces, Block.names]

/-- A wrapper shows the names that are given to it and those that are made for it. -/
theorem mem_names_wrapperLines (named : plan.IsNamed) (backend : Backend) (flushCache : Bool) :
    name ∈ (plan.wrapperLines backend flushCache).flatMap Line.names ↔
      name ∈ plan.givenNames false ∨ name ∈ plan.madeNames := by
  have hgap : name ∉ plan.gapLines.flatMap Line.names := by
    unfold gapLines
    split <;> simp [Line.names]
  have hentries : plan.publicParameters.map (Line.entryName ∘ Parameter.wrapperText) =
      plan.publicParameters.map Parameter.name :=
    List.map_congr_left fun parameter h =>
      Parameter.entryName_wrapperText (named.parameters _ (List.mem_of_mem_filter h))
  have hwrapper : (∃ block ∈ [plan.wrapperBlock], name ∈ block.names) ↔
      name = plan.wrapperName ∨ name ∈ plan.publicParameters.map Parameter.name := by
    simp [wrapperBlock, Block.names, ← hentries]
  have hother : name ∉ [Line.other].flatMap Line.names := by simp [Line.names]
  simp only [wrapperLines, List.flatMap_append, List.mem_append, hgap, hother, or_false, false_or,
    Line.mem_names_enclosed, exists_mem_names_spaces, hwrapper, mem_names_bodyLines,
    mem_givenNames_iff, mem_madeNames_iff]
  constructor
  · rintro (hspace | (rfl | hpublic) | hview | rfl | hpassed)
    · exact .inl (.inl hspace)
    · exact .inr (.inl rfl)
    · exact .inl (.inr (.inr hpublic))
    · exact .inr (.inr (.inl hview))
    · exact .inl (.inr (.inl rfl))
    · rcases of_mem_callTexts hpassed with hpublic | hview | hcontext
      · exact .inl (.inr (.inr hpublic))
      · exact .inr (.inr (.inl hview))
      · exact .inr (.inr (.inr hcontext))
  · rintro ((hspace | rfl | hpublic) | (rfl | hview | ⟨hcontext, rfl⟩))
    · exact .inl hspace
    · exact .inr (.inr (.inr (.inl rfl)))
    · exact .inr (.inl (.inr hpublic))
    · exact .inr (.inl (.inl rfl))
    · exact .inr (.inr (.inl hview))
    · exact .inr (.inr (.inr (.inr (contextName_mem_callTexts hcontext))))

theorem mem_givenNames_of_declared (named : plan.IsNamed) :
    name ∈ plan.namespaces ∨ name ∈ plan.declarationLines.flatMap Line.names ↔
      name ∈ plan.givenNames true := by
  rw [mem_names_declarationLines named, mem_givenNames_iff]
  simp

/-- A declaration in its namespaces shows the names that are given to it. -/
theorem mem_names_namespacedDeclaration (named : plan.IsNamed) :
    name ∈ (Line.enclosed plan.spaces plan.declarationLines ++ [Line.other]).flatMap Line.names ↔
      name ∈ plan.givenNames true := by
  rw [List.flatMap_append, List.mem_append, Line.mem_names_enclosed, exists_mem_names_spaces,
    ← mem_givenNames_of_declared named]
  simp [Line.names]

theorem givenNames_false_subset (plan : Plan) (declared : Bool) :
    plan.givenNames false ⊆ plan.givenNames declared := by
  intro name hname
  rw [mem_givenNames_iff] at hname ⊢
  refine hname.imp_right (Or.imp_right fun h => ?_)
  obtain ⟨parameter, hparameter, rfl⟩ := List.mem_map.mp h
  obtain ⟨hmem, hpublic⟩ := List.mem_filter.mp hparameter
  refine List.mem_map_of_mem (List.mem_filter.mpr ⟨hmem, ?_⟩)
  rw [Bool.false_or] at hpublic
  rw [hpublic, Bool.or_true]

theorem isIdentifier_givenNames (named : plan.IsNamed) {declared : Bool}
    (h : name ∈ plan.givenNames declared) : Cpp.isIdentifier name = true := by
  rcases mem_givenNames_iff.mp h with hspace | rfl | hparameter
  · exact named.namespaces name hspace
  · exact named.simple
  · obtain ⟨parameter, hmem, rfl⟩ := List.mem_map.mp hparameter
    exact named.parameters parameter (List.mem_of_mem_filter hmem)

/-- The names that are made are legal, whatever they are made of. -/
theorem isLegal_of_mem_madeNames (named : plan.IsNamed) (h : name ∈ plan.madeNames) :
    Cpp.IsLegal name := by
  rcases mem_madeNames_iff.mp h with rfl | hview | ⟨-, rfl⟩
  · exact Cpp.isLegal_append named.simple (by decide) (by decide +kernel)
  · obtain ⟨buffer, hbuffer, rfl⟩ := List.mem_map.mp hview
    exact Cpp.isLegal_append (named.parameters buffer (List.mem_of_mem_filter hbuffer))
      (by decide) (by decide +kernel)
  · exact (Cpp.isLegal_iff_of_isIdentifier (by decide +kernel)).mpr
      (by simp [Cpp.overlookedWords_eq, contextName])

end Plan

/-! ### Names of a file -/

section Declarations

variable {plans : List Plan} (named : ∀ plan ∈ plans, plan.IsNamed) {name : String}

include named

/-- Declarations without namespaces show the names that are given to them. -/
theorem mem_names_linkage (hnone : ∀ plan ∈ plans, plan.namespaces = []) :
    name ∈ (if plans.isEmpty then []
      else Line.enclosed [.linkage] (plans.flatMap Plan.declarationLines) ++ [.other]).flatMap
        Line.names ↔
      ∃ plan ∈ plans, name ∈ plan.givenNames true := by
  have hinside : name ∈ (plans.flatMap Plan.declarationLines).flatMap Line.names ↔
      ∃ plan ∈ plans, name ∈ plan.givenNames true := by
    rw [List.flatMap_assoc, List.mem_flatMap]
    refine exists_congr fun plan => and_congr_right fun hplan => ?_
    rw [← Plan.mem_givenNames_of_declared (named plan hplan), hnone plan hplan]
    simp
  rw [← hinside]
  split
  · next hempty => simp [List.isEmpty_iff.mp hempty]
  · rw [List.flatMap_append, List.mem_append, Line.mem_names_enclosed]
    simp [Block.names, Line.names]

/-- The declarations show the names that are given to the kernels. -/
theorem mem_names_kernelDeclarationLines :
    name ∈ (kernelDeclarationLines plans).flatMap Line.names ↔
      ∃ plan ∈ plans, name ∈ plan.givenNames true := by
  let global := plans.filter fun plan => plan.namespaces.isEmpty
  let namespaced := plans.filter fun plan => !plan.namespaces.isEmpty
  have hglobal := @mem_names_linkage global
    (fun plan hplan => named plan (List.mem_of_mem_filter hplan)) name
    (fun plan hplan => List.isEmpty_iff.mp (List.mem_filter.mp hplan).2)
  have hnamespaced : name ∈ (namespaced.flatMap fun plan =>
      Line.enclosed plan.spaces plan.declarationLines ++ [.other]).flatMap Line.names ↔
      ∃ plan ∈ namespaced, name ∈ plan.givenNames true := by
    rw [List.flatMap_assoc, List.mem_flatMap]
    exact exists_congr fun plan => and_congr_right fun hplan =>
      Plan.mem_names_namespacedDeclaration (named plan (List.mem_of_mem_filter hplan))
  have hparts {p : Plan → Prop} :
      (∃ plan ∈ plans, p plan) ↔ (∃ plan ∈ global, p plan) ∨ ∃ plan ∈ namespaced, p plan := by
    rw [← exists_or]
    refine exists_congr fun plan => ?_
    rw [← or_and_right, ← List.mem_append, (List.filter_append_perm _ plans).mem_iff]
  rw [kernelDeclarationLines, List.partition_eq_filter_filter, List.flatMap_append,
    List.mem_append, hparts]
  exact or_congr hglobal hnamespaced

end Declarations

namespace Generator

variable {generator : Generator} {signatures : List Signature} {plans : List Plan}

/-- The names that a file shows below its preamble are those that are given to it and those that
are made for its wrappers. -/
theorem mem_sourceNames_below (named : ∀ plan ∈ plans, plan.IsNamed) {name : String} :
    name ∈ sourceNames (sourceText (generator.below plans)) ↔
      ∃ plan ∈ plans,
        name ∈ plan.givenNames generator.options.declareKernels ∨ name ∈ plan.madeNames := by
  have hend : name ∉ [Line.other].flatMap Line.names := by simp [Line.names]
  have hwrappers : name ∈ (plans.flatMap fun plan => plan.wrapperLines generator.backend
      generator.options.flushCache).flatMap Line.names ↔
      ∃ plan ∈ plans, name ∈ plan.givenNames false ∨ name ∈ plan.madeNames := by
    rw [List.flatMap_assoc, List.mem_flatMap]
    exact exists_congr fun plan => and_congr_right fun hplan =>
      Plan.mem_names_wrapperLines (named plan hplan) _ _
  rw [sourceNames, (generator.shows_below plans named).readLines, List.flatMap_append,
    List.mem_append, or_iff_left hend, List.flatMap_append, List.mem_append, hwrappers]
  split
  · next hdeclare =>
    rw [mem_names_kernelDeclarationLines named, hdeclare]
    constructor
    · rintro (⟨plan, hplan, hgiven⟩ | ⟨plan, hplan, hgiven | hmade⟩)
      · exact ⟨plan, hplan, .inl hgiven⟩
      · exact ⟨plan, hplan, .inl (plan.givenNames_false_subset true hgiven)⟩
      · exact ⟨plan, hplan, .inr hmade⟩
    · rintro ⟨plan, hplan, hgiven | hmade⟩
      · exact .inl ⟨plan, hplan, hgiven⟩
      · exact .inr ⟨plan, hplan, .inr hmade⟩
  · next hdeclare =>
    rw [eq_false_of_ne_true hdeclare]
    simp

/-- The names given to the plans are those of the signatures. -/
theorem flatMap_givenNames_of_keeps (keeps : List.Forall₂ generator.Keeps signatures plans)
    (declared : Bool) :
    plans.flatMap (·.givenNames declared) = signatures.flatMap (·.givenNames declared) := by
  rw [List.flatMap_def, List.flatMap_def,
    map_of_keeps keeps fun _ _ hkeeps => Plan.givenNames_eq hkeeps.planned declared]

/-- **The names that C++ does not accept.** Every name of a namespace, kernel, wrapper, parameter
or view in a file has the form of an identifier. It is legal unless a signature gives it and it
is a word that the check of identifiers does not know. -/
theorem illegal_name_iff {settings : Tracing.Performance} {elapsed : UInt64} {source : String}
    (generated : (generator.generate settings elapsed signatures).result = .ok source) :
    ∃ text, source = sourceText (preamble generator.target) ++ text ∧
      (∀ name ∈ sourceNames text, Cpp.HasForm name) ∧
      ∀ name, name ∈ sourceNames text ∧ ¬ Cpp.IsLegal name ↔
        name ∈ Cpp.overlookedWords ∧
          ∃ signature ∈ signatures,
            name ∈ signature.givenNames generator.options.declareKernels := by
  obtain ⟨plans, accepted, rfl⟩ := generate_eq_ok_iff.mp generated
  obtain ⟨-, hkeeps, -⟩ := plan_eq_ok_iff.mp accepted
  have named := isNamed_of_accepted accepted
  let declared := generator.options.declareKernels
  have hgiven {name : String} : (∃ plan ∈ plans, name ∈ plan.givenNames declared) ↔
      ∃ signature ∈ signatures, name ∈ signature.givenNames declared := by
    rw [← List.mem_flatMap, ← List.mem_flatMap, flatMap_givenNames_of_keeps hkeeps]
  refine ⟨_, source_eq_append generator plans, fun name hname => ?_, fun name => ?_⟩
  · obtain ⟨plan, hplan, hgiven | hmade⟩ := (mem_sourceNames_below named).mp hname
    · exact (Cpp.isIdentifier_iff.mp (Plan.isIdentifier_givenNames (named plan hplan) hgiven)).1
    · exact (Plan.isLegal_of_mem_madeNames (named plan hplan) hmade).form
  · rw [mem_sourceNames_below named, ← hgiven]
    constructor
    · rintro ⟨⟨plan, hplan, hgiven | hmade⟩, illegal⟩
      · have hcheck := Plan.isIdentifier_givenNames (named plan hplan) hgiven
        exact ⟨not_not.mp ((Cpp.isLegal_iff_of_isIdentifier hcheck).not.mp illegal), plan, hplan,
          hgiven⟩
      · exact absurd (Plan.isLegal_of_mem_madeNames (named plan hplan) hmade) illegal
    · rintro ⟨hword, plan, hplan, hgiven⟩
      have hcheck := Plan.isIdentifier_givenNames (named plan hplan) hgiven
      exact ⟨⟨plan, hplan, .inl hgiven⟩,
        (Cpp.isLegal_iff_of_isIdentifier hcheck).not.mpr (not_not.mpr hword)⟩

/-- Of an argument whose name is repaired into a keyword, and one that is kept from being one. -/
theorem illegal_name_of_repair :
    ∃ source text,
      (generate ⟨.host, {}⟩ {} 0
        [⟨"ops::f", [.buffer "static-cast" .f32 1, .scalar "class" .i32, .context]⟩]).result =
          .ok source ∧
      source = sourceText (preamble .host) ++ text ∧
      ∀ name, name ∈ sourceNames text ∧ ¬ Cpp.IsLegal name ↔ name = "static_cast" := by
  have generated : (generate ⟨.host, {}⟩ {} 0
      [⟨"ops::f", [.buffer "static-cast" .f32 1, .scalar "class" .i32, .context]⟩]).result =
        .ok _ :=
    rfl
  obtain ⟨text, hsource, -, hillegal⟩ := illegal_name_iff generated
  have hgiven : Signature.givenNames
      ⟨"ops::f", [.buffer "static-cast" .f32 1, .scalar "class" .i32, .context]⟩ true =
        ["ops", "f", "static_cast", "_class", "__user_context"] := by
    decide +kernel
  refine ⟨_, text, generated, hsource, fun name => (hillegal name).trans ?_⟩
  simp only [List.mem_singleton, exists_eq_left, hgiven]
  constructor
  · rintro ⟨hword, hname⟩
    simp only [List.mem_cons, List.not_mem_nil, or_false] at hname
    rcases hname with rfl | rfl | rfl | rfl | rfl
    case inr.inr.inl => rfl
    all_goals simp [Cpp.overlookedWords_eq] at hword
  · rintro rfl
    exact ⟨by simp [Cpp.overlookedWords_eq], by simp⟩

/-- A kernel named by a keyword. -/
theorem illegal_kernel_name :
    ∃ source text, (generate ⟨.host, {}⟩ {} 0 [⟨"typeid", []⟩]).result = .ok source ∧
      source = sourceText (preamble .host) ++ text ∧
      ∃ name ∈ sourceNames text, ¬ Cpp.IsLegal name := by
  let plan : Plan := ⟨"typeid", [], "typeid", []⟩
  have accepted : ((⟨.host, {}⟩ : Generator).plan [⟨"typeid", []⟩]).result = .ok [plan] := rfl
  have hmem : "typeid" ∈ sourceNames (sourceText (below ⟨.host, {}⟩ [plan])) :=
    (mem_sourceNames_below (isNamed_of_accepted accepted)).mpr
      ⟨plan, List.mem_cons_self, .inl (Plan.mem_givenNames_iff.mpr (.inr (.inl rfl)))⟩
  exact ⟨_, _, rfl, source_eq_append ⟨.host, {}⟩ [plan], "typeid", hmem,
    fun legal => legal.notKeyword (by decide)⟩

end Generator

end KernelBridge
