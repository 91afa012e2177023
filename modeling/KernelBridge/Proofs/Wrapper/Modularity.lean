import KernelBridge.Proofs.Wrapper.FileLines
import KernelBridge.Proofs.Wrapper.Header
import KernelBridge.Proofs.Wrapper.PlanList

/-!
# Modularity

A file is written in one go, and the depth of a line depends on all lines before it. But every
part of a file ends at the margin where it began, so that a file consists of texts that do not
depend on each other: one for the target, one for all declarations, and one for each wrapper.

## Main definitions

* `Target.preambleText`, `declarationsText`, `wrappersText` — the parts of a file
* `Signature.writtenWrapper` — the lines of the wrapper of a signature
* `IsInsertedBefore` — lines that are put in before the only line of a kind

## Main results

* `Generator.source_eq_parts` — a file is its parts one below the other
* `Statement.text_eq_return_iff` — only one statement has the text of a return
* `Plan.isInsertedBefore_returnLine` — what emptying the cache adds to a wrapper
* `Generator.generate_modular` — how the parts of a file depend on the run
-/

namespace KernelBridge

open Layout (Step IsLevel contents depthAfter joined rendered)

/-! ### Parts of a file -/

/-- The header comment and the includes, as text. -/
def Target.preambleText (target : Target) : String := sourceText (preamble target)

/-- The declarations of all kernels, as text. -/
def declarationsText (plans : List Plan) : String := sourceText (kernelDeclarations plans)

/-- The lines of a plan's wrapper, with their margins. -/
def Plan.writtenWrapper (plan : Plan) (backend : Backend) (flushCache : Bool) : List String :=
  rendered 0 ((plan.wrapper backend flushCache).map (Step.map SourceLine.text))

/-- The lines of the wrapper of a signature, if there is a plan for the backend. -/
def Signature.writtenWrapper (signature : Signature) (backend : Backend) (flushCache : Bool) :
    List String :=
  match Plan.ofSignature backend signature with
  | .ok plan => plan.writtenWrapper backend flushCache
  | .error _ => []

/-- The wrappers of some signatures, as text. -/
def wrappersText (backend : Backend) (flushCache : Bool) (signatures : List Signature) : String :=
  String.join (signatures.map fun signature => joined (signature.writtenWrapper backend flushCache))

theorem wrappersText_append (backend : Backend) (flushCache : Bool)
    (first second : List Signature) :
    wrappersText backend flushCache (first ++ second) =
      wrappersText backend flushCache first ++ wrappersText backend flushCache second := by
  simp [wrappersText]

theorem Signature.writtenWrapper_of_planned {signature : Signature} {plan : Plan}
    {backend : Backend} (planned : Plan.ofSignature backend signature = .ok plan)
    (flushCache : Bool) :
    signature.writtenWrapper backend flushCache = plan.writtenWrapper backend flushCache := by
  rw [writtenWrapper, planned]

section Level

variable (names : List String) (plans : List Plan) (plan : Plan)

theorem isLevel_openNamespaces : IsLevel (openNamespaces names) :=
  Layout.isLevel_map_line names SourceLine.openNamespace

theorem isLevel_closeNamespaces : IsLevel (closeNamespaces names) :=
  Layout.isLevel_map_line names.reverse SourceLine.closeNamespace

theorem Plan.isLevel_namespaceGap : IsLevel plan.namespaceGap := by
  unfold namespaceGap
  split <;> simp

theorem isLevel_kernelDeclarations : IsLevel (kernelDeclarations plans) := by
  have hglobal (global : List Plan) : IsLevel (global.flatMap Plan.declaration) :=
    Layout.isLevel_flatMap fun plan _ => by simp [Plan.declaration]
  have hnamespaced (namespaced : List Plan) :
      IsLevel (namespaced.flatMap Plan.namespacedDeclaration) :=
    Layout.isLevel_flatMap fun plan _ => by
      simp [Plan.namespacedDeclaration, Plan.declaration, isLevel_openNamespaces,
        isLevel_closeNamespaces]
  unfold kernelDeclarations
  split
  split <;> simp [hglobal, hnamespaced]

end Level

/-! ### Parts of a wrapper -/

namespace Plan

variable (plan : Plan) (backend : Backend) (flushCache : Bool)

/-- The lines of a wrapper before its body. -/
def opening : List (Step SourceLine) :=
  openNamespaces plan.namespaces ++ plan.namespaceGap
    ++ [.line .attributes, .line (.header plan.wrapperName plan.publicParameters)]

/-- The lines of a wrapper after its body. -/
def closing : List (Step SourceLine) :=
  [.line .footer, .blank] ++ closeNamespaces plan.namespaces ++ plan.namespaceGap

theorem map_text_wrapper : (plan.wrapper backend flushCache).map (Step.map SourceLine.text) =
    plan.opening.map (Step.map SourceLine.text)
      ++ .indent :: (plan.body backend flushCache).map (Step.map Statement.text)
      ++ .dedent :: plan.closing.map (Step.map SourceLine.text) := by
  have hbody (steps : List (Step Statement)) :
      (steps.map (Step.map SourceLine.statement)).map (Step.map SourceLine.text) =
        steps.map (Step.map Statement.text) := by
    rw [List.map_map]
    exact List.map_congr_left fun step _ => Step.map_map _ _ step
  rw [← hbody, wrapper, opening, closing]
  simp [Step.map]

theorem isLevel_opening : IsLevel plan.opening := by
  simp [opening, isLevel_openNamespaces, isLevel_namespaceGap]

theorem isLevel_closing : IsLevel plan.closing := by
  simp [closing, isLevel_closeNamespaces, isLevel_namespaceGap]

/-- A wrapper ends at the margin. -/
theorem depthAfter_wrapper :
    depthAfter 0 ((plan.wrapper backend flushCache).map (Step.map SourceLine.text)) = 0 := by
  rw [map_text_wrapper]
  exact Layout.depthAfter_nested (Layout.isLevel_map_map.mpr plan.isLevel_opening)
    (Layout.isLevel_map_map.mpr isLevel_body) (Layout.isLevel_map_map.mpr plan.isLevel_closing)

end Plan

/-- A file is its parts one below the other. No part depends on what stands above it, as each
of them ends at the margin. -/
theorem Generator.source_eq_parts (generator : Generator) (plans : List Plan) :
    generator.source plans = generator.target.preambleText
      ++ (if generator.options.declareKernels then declarationsText plans else "")
      ++ String.join (plans.map fun plan =>
        joined (plan.writtenWrapper generator.backend generator.options.flushCache)) := by
  have hdeclarations : depthAfter 0 ((if generator.options.declareKernels then
      kernelDeclarations plans else []).map (Step.map SourceLine.text)) = 0 := by
    refine Layout.depthAfter_of_isLevel (Layout.isLevel_map_map.mpr ?_)
    split
    · exact isLevel_kernelDeclarations plans
    · exact Layout.isLevel_nil
  have hwrappers : sourceText (plans.flatMap fun plan =>
      plan.wrapper generator.backend generator.options.flushCache) =
        String.join (plans.map fun plan =>
          joined (plan.writtenWrapper generator.backend generator.options.flushCache)) := by
    rw [sourceText, List.map_flatMap, Layout.text_flatMap fun plan _ => plan.depthAfter_wrapper _ _]
    simp only [Layout.text_eq_joined]
    rfl
  rw [source, lines, List.append_assoc, sourceText_append (depthAfter_preamble _),
    sourceText_append hdeclarations, hwrappers, ← String.append_assoc]
  congr 2
  split <;> rfl

/-! ### The return -/

/-- The line that ends the body of every wrapper. -/
def returnLine : String := "    return 0;"

/-- The lines that empty the memoization cache. -/
def Backend.flushLines (backend : Backend) : List String :=
  ["    // Flush cache",
    "    halide_memoization_cache_cleanup(" ++ backend.flushArgument ++ ");"]

/-- Some lines are the plain ones with others put in before the only line that is the mark. -/
def IsInsertedBefore (mark : String) (inserted plain lines : List String) : Prop :=
  ∃ before after, plain = before ++ mark :: after ∧
    lines = before ++ (inserted ++ mark :: after) ∧ mark ∉ before ∧ mark ∉ after

section Front

variable {front rest text : String}

theorem append_ne_of_front (h : ¬ front.toList <+: text.toList) : front ++ rest ≠ text := by
  rintro rfl
  exact h (String.toList_append ▸ List.prefix_append _ _)

theorem append_ne_of_back (h : ¬ rest.toList <:+ text.toList) : front ++ rest ≠ text := by
  rintro rfl
  exact h (String.toList_append ▸ List.suffix_append _ _)

end Front

/-- Only one statement has the text of a return. -/
theorem Statement.text_eq_return_iff {statement : Statement} :
    statement.text = "return 0;" ↔ statement = .returnZero := by
  constructor
  · intro h
    unfold text at h
    cases statement with
    | returnZero => rfl
    | detach buffer =>
      refine absurd h (append_ne_of_back ?_)
      rw [String.toList_ofList, String.toList_ofList]
      decide
    | declareLocal type name value =>
      simp only [LocalType.text, String.append_assoc] at h
      cases type <;>
      · refine absurd h (append_ne_of_front ?_)
        unfold LocalType.typeName
        rw [String.toList_ofList, String.toList_ofList]
        decide
    | _ =>
      simp only [String.append_assoc, contextLocal, statusLocal, cacheCleanup] at h
      refine absurd h (append_ne_of_front ?_)
      rw [String.toList_ofList, String.toList_ofList]
      decide
  · rintro rfl
    rfl

theorem Statement.indented_text_eq_returnLine_iff {statement : Statement} :
    Layout.indented 1 statement.text = returnLine ↔ statement = .returnZero := by
  rw [← text_eq_return_iff]
  by_cases hempty : statement.text = ""
  · rw [hempty]
    decide
  · have hmargin : returnLine = Layout.margin 1 ++ "return 0;" := by decide
    rw [hmargin, Layout.indented, if_neg (by simpa using hempty), String.append_right_inj]

/-- Without a margin, no line is a return. -/
theorem SourceLine.text_ne_returnLine {sourceLine : SourceLine}
    (h : ∀ statement, sourceLine ≠ .statement statement) : sourceLine.text ≠ returnLine := by
  unfold text returnLine
  cases sourceLine with
  | statement inner => exact absurd rfl (h inner)
  | openLinkage | closeLinkage | attributes | footer => decide
  | _ =>
    simp only [String.append_assoc]
    refine append_ne_of_front ?_
    rw [String.toList_ofList, String.toList_ofList]
    decide

theorem returnLine_not_mem_rendered {steps : List (Step SourceLine)} (level : IsLevel steps)
    (h : ∀ statement, .statement statement ∉ contents steps) :
    returnLine ∉ rendered 0 (steps.map (Step.map SourceLine.text)) := by
  intro hmem
  obtain hblank | ⟨sourceLine, hsource, hline⟩ := Layout.eq_of_mem_rendered level hmem
  · exact absurd hblank (by decide)
  · rw [Layout.indented_zero] at hline
    refine SourceLine.text_ne_returnLine (fun statement hstatement => ?_) hline.symm
    exact h statement (hstatement ▸ hsource)

namespace Plan

variable (plan : Plan) (backend : Backend) (flushCache : Bool)

theorem returnZero_not_mem_work : .returnZero ∉ contents (plan.work backend) := by
  intro hmem
  have hfilter : .returnZero ∈ (contents (plan.work backend)).filter (! ·.isAuxiliary) :=
    List.mem_filter.mpr ⟨hmem, rfl⟩
  rw [filter_work] at hfilter
  simp at hfilter

theorem isLevel_work : IsLevel (plan.work backend) := by
  have hbody := @isLevel_body plan backend false
  rw [body_eq_work, Layout.isLevel_append] at hbody
  exact hbody.1

theorem returnLine_not_mem_work :
    returnLine ∉ rendered 1 ((plan.work backend).map (Step.map Statement.text)) := by
  intro hmem
  obtain hblank | ⟨statement, hstatement, hline⟩ :=
    Layout.eq_of_mem_rendered (plan.isLevel_work backend) hmem
  · exact absurd hblank (by decide)
  · rw [Statement.indented_text_eq_returnLine_iff.mp hline.symm] at hstatement
    exact plan.returnZero_not_mem_work backend hstatement

/-- The lines of a wrapper before the cleanup and the return. -/
def linesBeforeReturn : List String :=
  rendered 0 (plan.opening.map (Step.map SourceLine.text))
    ++ rendered 1 ((plan.work backend).map (Step.map Statement.text))

/-- The lines of a wrapper after the return. -/
def linesAfterReturn : List String := rendered 0 (plan.closing.map (Step.map SourceLine.text))

/-- Only the lines of the cleanup depend on whether the cache is emptied. -/
theorem writtenWrapper_eq :
    plan.writtenWrapper backend flushCache = plan.linesBeforeReturn backend ++
      ((if flushCache then backend.flushLines else []) ++
        returnLine :: plan.linesAfterReturn) := by
  have hwork : depthAfter (0 + 1) ((plan.work backend).map (Step.map Statement.text)) = 1 :=
    Layout.depthAfter_of_isLevel (Layout.isLevel_map_map.mpr (plan.isLevel_work backend))
  have hend : rendered 1 ((flush backend flushCache ++ [Step.line Statement.returnZero]).map
      (Step.map Statement.text)) =
        (if flushCache then backend.flushLines else []) ++ [returnLine] := by
    cases flushCache <;> cases backend <;> decide
  rw [writtenWrapper, map_text_wrapper,
    Layout.rendered_nested (Layout.isLevel_map_map.mpr plan.isLevel_opening)
      (Layout.isLevel_map_map.mpr isLevel_body),
    body_eq_work, List.map_append, Layout.rendered_append, hwork, hend]
  simp [linesBeforeReturn, linesAfterReturn]

/-- Emptying the cache puts two lines before the return and leaves all others as they are. -/
theorem isInsertedBefore_returnLine :
    IsInsertedBefore returnLine backend.flushLines (plan.writtenWrapper backend false)
      (plan.writtenWrapper backend true) := by
  have hopening : returnLine ∉ rendered 0 (plan.opening.map (Step.map SourceLine.text)) :=
    returnLine_not_mem_rendered plan.isLevel_opening fun statement => by
      simp [opening, contents_openNamespaces, contents_namespaceGap]
  have hclosing : returnLine ∉ plan.linesAfterReturn :=
    returnLine_not_mem_rendered plan.isLevel_closing fun statement => by
      simp [closing, contents_closeNamespaces, contents_namespaceGap]
  have hbefore : returnLine ∉ plan.linesBeforeReturn backend :=
    List.not_mem_append hopening (plan.returnLine_not_mem_work backend)
  refine ⟨_, _, ?_, ?_, hbefore, hclosing⟩
  · exact plan.writtenWrapper_eq backend false
  · exact plan.writtenWrapper_eq backend true

end Plan

/-! ### Runs -/

namespace Generator

/-- The wrappers of some signatures are those of their plans. -/
theorem wrappersText_of_keeps {generator : Generator} {signatures : List Signature}
    {plans : List Plan} (keeps : List.Forall₂ generator.Keeps signatures plans)
    (flushCache : Bool) :
    wrappersText generator.backend flushCache signatures =
      String.join (plans.map fun plan =>
        joined (plan.writtenWrapper generator.backend flushCache)) := by
  induction keeps with
  | nil => rfl
  | cons hfirst _ ih =>
    rw [wrappersText, List.map_cons, String.join_cons,
      Signature.writtenWrapper_of_planned hfirst.planned, List.map_cons, String.join_cons, ← ih]
    rfl

/-- Whether the cache is emptied decides neither about acceptance nor about plans. -/
theorem generate_flushCache {target : Target} {options : GeneratorOptions}
    {signatures : List Signature} {plans : List Plan}
    (accepted : (plan ⟨target, options⟩ signatures).result = .ok plans)
    (settings : Tracing.Performance) (elapsed : UInt64) (flushCache : Bool) :
    (generate ⟨target, { options with flushCache }⟩ settings elapsed signatures).result =
      .ok (target.preambleText
        ++ (if options.declareKernels then declarationsText plans else "")
        ++ wrappersText target.backend flushCache signatures) := by
  obtain ⟨hosts, keeps, -⟩ := plan_eq_ok_iff.mp accepted
  have hplan : (plan ⟨target, { options with flushCache }⟩ signatures).result =
      (plan ⟨target, options⟩ signatures).result :=
    plan_congr rfl hosts hosts
  rw [generate_result, hplan, accepted]
  refine congrArg Except.ok ((source_eq_parts _ plans).trans ?_)
  exact congrArg _ (wrappersText_of_keeps keeps flushCache).symm

/-- **Modularity.** The file for two accepted lists is made up of one text for the target, one
for the plans if the kernels are declared, and the wrappers of both lists. Emptying the cache
changes nothing but that the wrapper of every signature has two more lines, right before its
only return. -/
theorem generate_modular (target : Target) (options : GeneratorOptions)
    (settings : Tracing.Performance) (elapsed : UInt64) (first second : List Signature)
    (source : String)
    (accepted : (generate ⟨target, options⟩ settings elapsed (first ++ second)).result =
      .ok source) :
    ∃ plans more : List Plan,
      (plan ⟨target, options⟩ first).result = .ok plans ∧
      (plan ⟨target, options⟩ second).result = .ok more ∧
      let shared := target.preambleText
        ++ (if options.declareKernels then declarationsText (plans ++ more) else "")
      let wrappers (flushCache : Bool) := wrappersText target.backend flushCache first
        ++ wrappersText target.backend flushCache second
      source = shared ++ wrappers options.flushCache ∧
      (∀ flushCache, (generate ⟨target, { options with flushCache }⟩ settings elapsed
        (first ++ second)).result = .ok (shared ++ wrappers flushCache)) ∧
      ∀ signature ∈ first ++ second,
        IsInsertedBefore returnLine target.backend.flushLines
          (signature.writtenWrapper target.backend false)
          (signature.writtenWrapper target.backend true) ∧
        ∀ flushCache, ∀ line ∈ signature.writtenWrapper target.backend flushCache,
          '\n' ∉ line.toList := by
  obtain ⟨plans, hplans, -⟩ := generate_eq_ok_iff.mp accepted
  obtain ⟨alone, rfl, hparts⟩ := plan_of_subperm hplans
  have hgenerate (flushCache : Bool) := generate_flushCache hplans settings elapsed flushCache
  simp only [List.map_append, wrappersText_append] at hgenerate
  refine ⟨first.map alone, second.map alone, ?_, ?_, ?_, hgenerate, fun signature hmem => ?_⟩
  · exact hparts first (List.sublist_append_left first second).subperm
  · exact hparts second (List.sublist_append_right first second).subperm
  · exact Except.ok.inj (accepted.symm.trans (hgenerate options.flushCache))
  · obtain ⟨-, keeps, -⟩ := plan_eq_ok_iff.mp hplans
    have hkeeps := (List.forall₂_same.mp (List.forall₂_map_right_iff.mp keeps)) signature hmem
    have hwritten (flushCache : Bool) : signature.writtenWrapper target.backend flushCache =
        (alone signature).writtenWrapper target.backend flushCache :=
      Signature.writtenWrapper_of_planned hkeeps.planned flushCache
    simp only [hwritten]
    exact ⟨Plan.isInsertedBefore_returnLine _ _, fun flushCache =>
      (Shows.wrapper (Plan.isNamed hkeeps.planned)).isLine⟩

/-- A kernel inside a namespace leaves the wrapper of the next one as it is. -/
theorem generate_modular_pair :
    let target : Target := ⟨.cuda, [.cuda, .userContext]⟩
    let first : List Signature := [⟨"ops::f", [.buffer "x" .f32 1, .context]⟩]
    let second : List Signature := [⟨"g", [.context]⟩]
    ∃ shared,
      (generate ⟨target, {}⟩ {} 0 (first ++ second)).result =
        .ok (shared ++ (wrappersText .cuda false first ++ wrappersText .cuda false second)) ∧
      (generate ⟨target, { flushCache := true }⟩ {} 0 (first ++ second)).result =
        .ok (shared ++ (wrappersText .cuda true first ++ wrappersText .cuda true second)) ∧
      ∀ signature ∈ first ++ second, IsInsertedBefore "    return 0;"
        ["    // Flush cache", "    halide_memoization_cache_cleanup(__user_context);"]
        (signature.writtenWrapper .cuda false) (signature.writtenWrapper .cuda true) := by
  intro target first second
  have accepted : (generate ⟨target, {}⟩ {} 0 (first ++ second)).result = .ok _ :=
    generate_eq_ok_iff.mpr ⟨_, rfl, rfl⟩
  obtain ⟨plans, more, -, -, hsource, hflush, hlines⟩ :=
    generate_modular target {} {} 0 first second _ accepted
  have hcleanup : Backend.flushLines .cuda =
      ["    // Flush cache", "    halide_memoization_cache_cleanup(__user_context);"] := by
    decide
  rw [hsource] at accepted
  refine ⟨_, accepted, ?_, ?_⟩
  · exact hflush true
  · rw [← hcleanup]
    exact fun signature hmem => (hlines signature hmem).1

end Generator

end KernelBridge
