import Mathlib.Data.List.Infix
import KernelBridge.Proofs.Wrapper.FileLines

/-!
# Outlines of generated files

Lines that open and close whole blocks can be read on their own: they add the same functions
and namespaces to every outline they stand in. A generated file is made up of such parts.

## Main definitions

* `Adds` — what lines add to an outline, given the blocks that are open at the first one
* `Plan.declaredSite`, `Plan.definition`, `Plan.openedPaths` — the functions and namespaces that
  belong to a plan

## Main results

* `Adds.enclosed`, `Adds.spaces`, `Adds.wrapper` — what stands in blocks
* `Adds.kernelDeclarations`, `Adds.wrappers` — what the two parts of a file add
* `outline_file` — the outline of a file below its preamble
-/

namespace KernelBridge

open Layout (Step)

/-- The line opens or closes no block, and declares nothing. -/
def Line.IsInner : Line → Prop
  | opens _ | closes _ | declares _ _ => False
  | _ => True

/-- The lines close all blocks that they open, and this is what they add to an outline: kernels
that are declared, wrappers that are defined, and namespaces that are opened. -/
def Adds (opened : List Block) (lines : List Line) (declared : List Site)
    (defined : List Definition) (namespaces : List (List String)) : Prop :=
  ∃ placed : List Placed,
    (∀ rest, outline opened (lines ++ rest) = (outline opened rest).map (placed ++ ·)) ∧
      declarations placed = declared ∧
      (∀ rest, definitions (placed ++ rest) = defined ++ definitions rest) ∧
      openedNamespaces placed = namespaces

/-! ### Steps of an outline -/

section Steps

variable {opened : List Block} {line : Line} {lines rest : List Line} {placed : List Placed}

theorem outline_cons_of_step {next : List Block} (h : line.step opened = some next) :
    outline opened (line :: rest) = (outline next rest).map (⟨opened, line⟩ :: ·) := by
  rw [outline, h, Option.map_eq_bind]
  rfl

theorem outline_opens (block : Block) :
    outline opened (.opens block :: rest) =
      (outline (block :: opened) rest).map (⟨opened, .opens block⟩ :: ·) :=
  outline_cons_of_step rfl

theorem outline_closes (block : Block) :
    outline (block :: opened) (.closes block.ending :: rest) =
      (outline opened rest).map (⟨block :: opened, .closes block.ending⟩ :: ·) :=
  outline_cons_of_step (if_pos rfl)

theorem outline_inner_append (h : ∀ line ∈ lines, line.IsInner) :
    outline opened (lines ++ rest) =
      (outline opened rest).map (lines.map (Placed.mk opened) ++ ·) := by
  induction lines with
  | nil => simp
  | cons line others ih =>
    obtain ⟨hline, hothers⟩ := List.forall_mem_cons.mp h
    have hstep : line.step opened = some opened := by
      cases line <;> first | rfl | exact hline.elim
    rw [List.cons_append, outline_cons_of_step hstep, ih hothers, Option.map_map]
    rfl

theorem declarations_append (placed more : List Placed) :
    declarations (placed ++ more) = declarations placed ++ declarations more :=
  List.filterMap_append

theorem openedNamespaces_append (placed more : List Placed) :
    openedNamespaces (placed ++ more) = openedNamespaces placed ++ openedNamespaces more :=
  List.filterMap_append

theorem definitions_cons (h : ∀ name parameters, line ≠ .opens (.wrapper name parameters)) :
    definitions (⟨opened, line⟩ :: placed) = definitions placed := by
  rw [definitions]
  split
  · next name parameters hline => exact absurd hline (h name parameters)
  · rfl

section Inner

variable (h : ∀ line ∈ lines, line.IsInner)

include h

theorem declarations_inner : declarations (lines.map (Placed.mk opened)) = [] := by
  refine List.filterMap_eq_nil_iff.mpr (List.forall_mem_map.mpr fun line hline => ?_)
  have hinner := h line hline
  cases line <;> first | rfl | exact hinner.elim

theorem openedNamespaces_inner : openedNamespaces (lines.map (Placed.mk opened)) = [] := by
  refine List.filterMap_eq_nil_iff.mpr (List.forall_mem_map.mpr fun line hline => ?_)
  have hinner := h line hline
  cases line <;> first | rfl | exact hinner.elim

theorem definitions_inner_append :
    definitions (lines.map (Placed.mk opened) ++ placed) = definitions placed := by
  induction lines with
  | nil => rfl
  | cons line others ih =>
    obtain ⟨hline, hothers⟩ := List.forall_mem_cons.mp h
    have hopens : ∀ name parameters, line ≠ .opens (.wrapper name parameters) := by
      rintro name parameters rfl
      exact hline
    exact (definitions_cons hopens).trans (ih hothers)

end Inner

end Steps

/-! ### Parts of an outline -/

namespace Adds

variable {opened : List Block} {lines more : List Line} {declared others : List Site}
  {defined otherDefined : List Definition} {namespaces otherNamespaces : List (List String)}

theorem nil (opened : List Block) : Adds opened [] [] [] [] := ⟨[], by simp, rfl, by simp, rfl⟩

theorem append (first : Adds opened lines declared defined namespaces)
    (second : Adds opened more others otherDefined otherNamespaces) :
    Adds opened (lines ++ more) (declared ++ others) (defined ++ otherDefined)
      (namespaces ++ otherNamespaces) := by
  obtain ⟨placed, houtline, rfl, hdefined, rfl⟩ := first
  obtain ⟨placed', houtline', rfl, hdefined', rfl⟩ := second
  refine ⟨placed ++ placed', fun rest => ?_, declarations_append _ _, fun rest => ?_,
    openedNamespaces_append _ _⟩
  · rw [List.append_assoc, houtline, houtline', Option.map_map]
    simp [Function.comp_def]
  · rw [List.append_assoc, hdefined, hdefined', List.append_assoc]

theorem flatMap {α : Type} {xs : List α} {lines : α → List Line} {declared : α → List Site}
    {defined : α → List Definition} {namespaces : α → List (List String)}
    (h : ∀ x ∈ xs, Adds opened (lines x) (declared x) (defined x) (namespaces x)) :
    Adds opened (xs.flatMap lines) (xs.flatMap declared) (xs.flatMap defined)
      (xs.flatMap namespaces) := by
  induction xs with
  | nil => exact nil opened
  | cons x rest ih =>
    obtain ⟨hx, hrest⟩ := List.forall_mem_cons.mp h
    exact hx.append (ih hrest)

/-- Parts that declare one kernel each. -/
theorem eachDeclared {α : Type} {xs : List α} {lines : α → List Line} {site : α → Site}
    {namespaces : α → List (List String)}
    (h : ∀ x ∈ xs, Adds opened (lines x) [site x] [] (namespaces x)) :
    Adds opened (xs.flatMap lines) (xs.map site) [] (xs.flatMap namespaces) := by
  have hnone : xs.flatMap (fun _ => ([] : List Definition)) = [] := by simp
  rw [List.map_eq_flatMap, ← hnone]
  exact flatMap h

/-- Parts that define one wrapper each. -/
theorem eachDefined {α : Type} {xs : List α} {lines : α → List Line} {site : α → Definition}
    {namespaces : α → List (List String)}
    (h : ∀ x ∈ xs, Adds opened (lines x) [] [site x] (namespaces x)) :
    Adds opened (xs.flatMap lines) [] (xs.map site) (xs.flatMap namespaces) := by
  have hnone : xs.flatMap (fun _ => ([] : List Site)) = [] := by simp
  rw [List.map_eq_flatMap, ← hnone]
  exact flatMap h

/-- Lines that open and close nothing add nothing. -/
theorem inner (h : ∀ line ∈ lines, line.IsInner) : Adds opened lines [] [] [] :=
  ⟨lines.map (Placed.mk opened), fun _ => outline_inner_append h, declarations_inner h,
    fun _ => definitions_inner_append h, openedNamespaces_inner h⟩

theorem other : Adds opened [.other] [] [] [] := inner (by simp [Line.IsInner])

theorem declares (name : String) (parameters : List String) :
    Adds opened [.declares name parameters] [⟨opened.reverse, name, parameters⟩] [] [] :=
  ⟨[⟨opened, .declares name parameters⟩], fun _ => outline_cons_of_step rfl, rfl,
    fun _ => definitions_cons (by simp), rfl⟩

/-- A block around lines, if it is no wrapper, adds what the lines add and the namespace that it
may be. -/
theorem enclosed (block : Block) (hblock : block.ending ≠ .wrapper)
    (h : Adds (block :: opened) lines declared defined namespaces) :
    Adds opened (Line.enclosed [block] lines) declared defined
      (openedNamespaces [⟨opened, .opens block⟩] ++ namespaces) := by
  obtain ⟨placed, houtline, rfl, hdefined, rfl⟩ := h
  have hopens : ∀ name parameters, Line.opens block ≠ .opens (.wrapper name parameters) := by
    rintro name parameters heq
    obtain rfl := Line.opens.inj heq
    exact hblock rfl
  refine ⟨⟨opened, .opens block⟩ :: (placed ++ [⟨block :: opened, .closes block.ending⟩]),
    fun rest => ?_, ?_, fun rest => ?_, ?_⟩
  · have hlines : Line.enclosed [block] lines ++ rest =
        .opens block :: (lines ++ (.closes block.ending :: rest)) := by
      simp [Line.enclosed]
    rw [hlines, outline_opens, houtline, outline_closes, Option.map_map, Option.map_map]
    simp [Function.comp_def]
  · change declarations (placed ++ [_]) = _
    rw [declarations_append]
    exact List.append_nil _
  · rw [List.cons_append, definitions_cons hopens, List.append_assoc, hdefined]
    exact congrArg _ (definitions_cons (by simp))
  · rw [← List.singleton_append, openedNamespaces_append, openedNamespaces_append]
    exact congrArg _ (List.append_nil _)

/-- A wrapper adds itself, with its lines as the body. -/
theorem wrapper (name : String) (parameters : List String) (h : ∀ line ∈ lines, line.IsInner) :
    Adds opened (Line.enclosed [.wrapper name parameters] lines) []
      [⟨⟨opened.reverse, name, parameters⟩, lines⟩] [] := by
  let header : Placed := ⟨opened, .opens (.wrapper name parameters)⟩
  let footer : Placed := ⟨.wrapper name parameters :: opened, .closes .wrapper⟩
  let body := lines.map (Placed.mk (.wrapper name parameters :: opened))
  refine ⟨header :: (body ++ [footer]), fun rest => ?_, ?_, fun rest => ?_, ?_⟩
  · have hlines : Line.enclosed [.wrapper name parameters] lines ++ rest =
        .opens (.wrapper name parameters) ::
          (lines ++ (.closes (Block.wrapper name parameters).ending :: rest)) := by
      simp [Line.enclosed]
    rw [hlines, outline_opens, outline_inner_append h, outline_closes, Option.map_map,
      Option.map_map]
    simp [Function.comp_def, header, body, footer, Block.ending]
  · change declarations (body ++ [_]) = _
    rw [declarations_append, declarations_inner h]
    rfl
  · -- The footer is the first line that closes a wrapper, so the body ends in front of it.
    have hbody : (body.map Placed.line) = lines := by simp [body, Function.comp_def]
    have hinner : ∀ line ∈ lines, (line != .closes .wrapper) = true := by
      intro line hline
      have hne : line ≠ .closes .wrapper := by
        rintro rfl
        exact h _ hline
      simpa using hne
    have htake : (((body ++ [footer]) ++ rest).map Placed.line).takeWhile
        (· != .closes .wrapper) = lines := by
      rw [List.append_assoc, List.map_append, hbody, List.takeWhile_append_of_pos hinner]
      simp [footer]
    have hrest : definitions ((body ++ [footer]) ++ rest) = definitions rest := by
      rw [List.append_assoc, definitions_inner_append h]
      exact definitions_cons (by simp)
    rw [List.cons_append, definitions]
    simp only [header]
    rw [htake, hrest]
    rfl
  · change openedNamespaces (body ++ [_]) = _
    rw [openedNamespaces_append, openedNamespaces_inner h]
    rfl

/-- Namespaces around lines that open none are opened one after the other. -/
theorem spaces (names : List String)
    (h : Adds ((names.map Block.space).reverse ++ opened) lines declared defined []) :
    Adds opened (Line.enclosed (names.map Block.space) lines) declared defined
      (names.inits.tail.map (Site.namespaces ⟨opened.reverse, "", []⟩ ++ ·)) := by
  -- The outermost namespace encloses the others, so the open blocks change from step to step.
  induction names generalizing opened with
  | nil => exact h
  | cons name rest ih =>
    have hinner := @ih (.space name :: opened) (by simpa using h)
    have hblock := enclosed (.space name) (by simp [Block.ending]) hinner
    have hinits : rest.inits = [] :: rest.inits.tail := by
      cases rest <;> simp
    have hnamespaces : Site.namespaces ⟨(.space name :: opened).reverse, "", []⟩ =
        Site.namespaces ⟨opened.reverse, "", []⟩ ++ [name] := by
      simp [Site.namespaces]
    have hpaths : (name :: rest).inits.tail.map (Site.namespaces ⟨opened.reverse, "", []⟩ ++ ·) =
        openedNamespaces [⟨opened, .opens (.space name)⟩] ++
          rest.inits.tail.map (Site.namespaces ⟨(.space name :: opened).reverse, "", []⟩ ++ ·) := by
      rw [List.inits_cons, List.tail_cons, hinits, hnamespaces]
      simp [openedNamespaces, Function.comp_def]
    rw [hpaths]
    simpa [Line.enclosed] using hblock

end Adds

/-! ### Files -/

namespace Plan

variable (plan : Plan) (backend : Backend) (flushCache : Bool)

/-- The kernel where it is declared. -/
def declaredSite : Site :=
  ⟨if plan.namespaces.isEmpty then [.linkage] else plan.spaces, plan.simpleName,
    plan.parameters.map Parameter.kernelText⟩

/-- The wrapper where it is defined. -/
def definition : Definition :=
  ⟨⟨plan.spaces, plan.wrapperName, plan.publicParameters.map Parameter.wrapperText⟩,
    plan.bodyLines backend flushCache⟩

/-- The namespaces that are opened around the kernel or its wrapper, from the outermost on. -/
def openedPaths : List (List String) := plan.namespaces.inits.tail

/-- The qualified name of the kernel, in parts. -/
def path : List String := plan.namespaces ++ [plan.simpleName]

/-- The qualified name of the wrapper, in parts. -/
def wrapperPath : List String := plan.namespaces ++ [plan.wrapperName]

theorem namespaces_spaces (name : String) (parameters : List String) :
    Site.namespaces ⟨plan.spaces, name, parameters⟩ = plan.namespaces := by
  simp [Site.namespaces, spaces, List.filterMap_map]

theorem qualifiedName_declaredSite : plan.declaredSite.qualifiedName = Cpp.joined plan.path := by
  have hnamespaces : plan.declaredSite.namespaces = plan.namespaces := by
    unfold declaredSite
    split
    · next hnone => simp [Site.namespaces, List.isEmpty_iff.mp hnone]
    · exact plan.namespaces_spaces _ _
  rw [Site.qualifiedName, hnamespaces]
  rfl

theorem joined_wrapperPath : Cpp.joined plan.wrapperPath = Cpp.joined plan.path ++ "_th_" := by
  unfold Cpp.joined wrapperPath path wrapperName
  cases plan.namespaces with
  | nil => simp
  | cons name rest =>
    rw [String.intercalate_append_of_ne_nil (by simp) (by simp),
      String.intercalate_append_of_ne_nil (by simp) (by simp)]
    simp [String.append_assoc]

theorem qualifiedName_definition :
    (plan.definition backend flushCache).site.qualifiedName = Cpp.joined plan.path ++ "_th_" := by
  rw [Site.qualifiedName, definition, namespaces_spaces, ← joined_wrapperPath]
  rfl

theorem isInner_stepLine (step : Step Statement) : (Statement.stepLine step).IsInner := by
  cases step with
  | line statement => cases statement <;> trivial
  | _ => trivial

theorem isInner_bodyLines : ∀ line ∈ plan.bodyLines backend flushCache, line.IsInner :=
  List.forall_mem_map.mpr fun step _ => isInner_stepLine step

theorem isInner_gapLines : ∀ line ∈ plan.gapLines, line.IsInner := by
  unfold gapLines
  split <;> simp [Line.IsInner]

end Plan

namespace Adds

variable {plan : Plan} {backend : Backend} {flushCache : Bool} {opened : List Block}

theorem declarationLines : Adds opened plan.declarationLines
    [⟨opened.reverse, plan.simpleName, plan.parameters.map Parameter.kernelText⟩] [] [] :=
  other.append (declares plan.simpleName (plan.parameters.map Parameter.kernelText))

/-- The kernels without namespaces are declared with C linkage. -/
theorem linkage {plans : List Plan} (h : ∀ plan ∈ plans, plan.namespaces = []) :
    Adds [] (Line.enclosed [.linkage] (plans.flatMap Plan.declarationLines) ++ [.other])
      (plans.map Plan.declaredSite) [] [] := by
  have hnone : plans.flatMap (fun _ => ([] : List (List String))) = [] := by simp
  have hinside : Adds [.linkage] (plans.flatMap Plan.declarationLines)
      (plans.map Plan.declaredSite) [] [] := by
    rw [← hnone]
    refine eachDeclared fun plan hplan => ?_
    have hsite : plan.declaredSite =
        ⟨[.linkage], plan.simpleName, plan.parameters.map Parameter.kernelText⟩ := by
      simp [Plan.declaredSite, h plan hplan]
    rw [hsite]
    exact declarationLines
  have hblock := (enclosed .linkage (by simp [Block.ending]) hinside).append other
  simpa [openedNamespaces] using hblock

/-- A kernel with namespaces is declared inside them. -/
theorem namespacedDeclaration (h : plan.namespaces ≠ []) :
    Adds [] (Line.enclosed plan.spaces plan.declarationLines ++ [.other]) [plan.declaredSite] []
      plan.openedPaths := by
  have hsite : plan.declaredSite =
      ⟨((plan.spaces).reverse ++ []).reverse, plan.simpleName,
        plan.parameters.map Parameter.kernelText⟩ := by
    simp [Plan.declaredSite, h]
  have hinside : Adds (plan.spaces.reverse ++ []) plan.declarationLines _ [] [] :=
    declarationLines
  have hspaces := (spaces plan.namespaces hinside).append other
  rw [hsite]
  simpa [Plan.openedPaths, Plan.spaces, Site.namespaces] using hspaces

/-- The declarations add every kernel once, those without namespaces first. -/
theorem kernelDeclarations (plans : List Plan) :
    Adds [] (kernelDeclarationLines plans)
      ((plans.filter (fun plan => plan.namespaces.isEmpty) ++
        plans.filter (fun plan => !plan.namespaces.isEmpty)).map Plan.declaredSite) []
      ((plans.filter fun plan => !plan.namespaces.isEmpty).flatMap Plan.openedPaths) := by
  let global := plans.filter fun plan => plan.namespaces.isEmpty
  have hglobal : Adds [] (if global.isEmpty then []
      else Line.enclosed [.linkage] (global.flatMap Plan.declarationLines) ++ [.other])
      (global.map Plan.declaredSite) [] [] := by
    split
    · next hempty =>
      rw [List.isEmpty_iff.mp hempty]
      exact nil []
    · exact linkage fun plan hplan => by simpa using (List.mem_filter.mp hplan).2
  let namespaced := plans.filter fun plan => !plan.namespaces.isEmpty
  have hnamespaced : Adds []
      (namespaced.flatMap fun plan => Line.enclosed plan.spaces plan.declarationLines ++ [.other])
      (namespaced.map Plan.declaredSite) [] (namespaced.flatMap Plan.openedPaths) :=
    eachDeclared fun plan hplan =>
      namespacedDeclaration (by simpa using (List.mem_filter.mp hplan).2)
  rw [kernelDeclarationLines, List.partition_eq_filter_filter, List.map_append]
  exact hglobal.append hnamespaced

/-- A wrapper is defined inside its namespaces. -/
theorem wrapperLines : Adds [] (plan.wrapperLines backend flushCache) []
    [plan.definition backend flushCache] plan.openedPaths := by
  have hgap {opened : List Block} : Adds opened plan.gapLines [] [] [] :=
    inner plan.isInner_gapLines
  have hwrapper : Adds (plan.spaces.reverse ++ []) _ [] _ [] :=
    wrapper plan.wrapperName (plan.publicParameters.map Parameter.wrapperText)
      (plan.isInner_bodyLines backend flushCache)
  have hinside := ((hgap.append other).append hwrapper).append other
  have hspaces := (spaces plan.namespaces hinside).append hgap
  simpa [Plan.wrapperLines, Plan.wrapperBlock, Plan.definition, Plan.openedPaths, Plan.spaces,
    Site.namespaces] using hspaces

/-- The wrappers add one definition each. -/
theorem wrappers (plans : List Plan) (backend : Backend) (flushCache : Bool) :
    Adds [] (plans.flatMap fun plan => plan.wrapperLines backend flushCache) []
      (plans.map fun plan => plan.definition backend flushCache)
      (plans.flatMap Plan.openedPaths) :=
  eachDefined fun _ _ => wrapperLines

end Adds

namespace Generator

section Accepted

variable {generator : Generator} {signatures : List Signature} {plans : List Plan}

theorem isNamed_of_accepted (accepted : (generator.plan signatures).result = .ok plans) :
    ∀ plan ∈ plans, plan.IsNamed := by
  intro plan hplan
  obtain ⟨signature, -, keeps⟩ := exists_keeps_of_mem accepted hplan
  exact Plan.isNamed keeps.planned

/-- The plans have the qualified names of the signatures, in order. -/
theorem map_path_of_accepted (accepted : (generator.plan signatures).result = .ok plans) :
    plans.map (fun plan => Cpp.joined plan.path) = signatures.map Signature.name := by
  obtain ⟨-, hkeeps, -⟩ := plan_eq_ok_iff.mp accepted
  rw [← map_qualifiedName_of_keeps hkeeps]
  refine List.map_congr_left fun plan hplan => ?_
  obtain ⟨signature, -, keeps⟩ := exists_keeps_of_mem accepted hplan
  obtain ⟨hname, hparse⟩ := Plan.parse_qualifiedName keeps.planned
  exact (Cpp.QualifiedName.text_of_parse hparse).trans hname.symm

/-- The signatures have different names. -/
theorem nodup_names_of_accepted (accepted : (generator.plan signatures).result = .ok plans) :
    (signatures.map Signature.name).Nodup := by
  obtain ⟨-, hkeeps, hnodup⟩ := plan_eq_ok_iff.mp accepted
  rwa [map_qualifiedName_of_keeps hkeeps] at hnodup

end Accepted

variable (generator : Generator) (plans : List Plan)

/-- The steps of a file below its preamble. -/
def below : List (Step SourceLine) :=
  (if generator.options.declareKernels then kernelDeclarations plans else [])
    ++ plans.flatMap fun plan => plan.wrapper generator.backend generator.options.flushCache

/-- A file is its preamble and what is below it. -/
theorem source_eq_append :
    generator.source plans =
      sourceText (preamble generator.target) ++ sourceText (generator.below plans) := by
  rw [source, lines, List.append_assoc, ← below, sourceText_append (depthAfter_preamble _)]

/-- The kernels that a file declares, in the order of their declarations. -/
def declared : List Plan :=
  if generator.options.declareKernels then
    plans.filter (fun plan => plan.namespaces.isEmpty) ++
      plans.filter (fun plan => !plan.namespaces.isEmpty)
  else []

/-- What is below the preamble shows its declarations first, and then one wrapper for each
plan. -/
theorem shows_below (named : ∀ plan ∈ plans, plan.IsNamed) :
    Shows 0 (generator.below plans)
      ((if generator.options.declareKernels then kernelDeclarationLines plans else []) ++
        plans.flatMap fun plan =>
          plan.wrapperLines generator.backend generator.options.flushCache) := by
  refine Shows.append ?_ (Shows.flatMap fun plan hplan => Shows.wrapper (named plan hplan))
  split
  · exact Shows.kernelDeclarations named
  · exact Shows.nil 0

/-- A file has an outline below its preamble: first come all declarations, and then one wrapper
for each plan. -/
theorem outline_below (named : ∀ plan ∈ plans, plan.IsNamed) :
    ∃ first second, outline [] (readLines (sourceText (generator.below plans))) =
        some (first ++ second) ∧
      declarations first = (generator.declared plans).map Plan.declaredSite ∧
      declarations second = [] ∧ definitions first = [] ∧
      definitions second =
        plans.map (fun plan => plan.definition generator.backend generator.options.flushCache) ∧
      definitions (first ++ second) = definitions second ∧
      ∀ path, path ∈ openedNamespaces (first ++ second) ↔
        ∃ plan ∈ plans, path ∈ plan.openedPaths := by
  have hdeclared : ∃ paths : List (List String), Adds []
      (if generator.options.declareKernels then kernelDeclarationLines plans else [])
      ((generator.declared plans).map Plan.declaredSite) [] paths ∧
        ∀ path ∈ paths, ∃ plan ∈ plans, path ∈ plan.openedPaths := by
    unfold declared
    split
    · refine ⟨_, Adds.kernelDeclarations plans, fun path hpath => ?_⟩
      obtain ⟨plan, hplan, hmem⟩ := List.mem_flatMap.mp hpath
      exact ⟨plan, List.mem_of_mem_filter hplan, hmem⟩
    · exact ⟨[], Adds.nil [], by simp⟩
  obtain ⟨paths, ⟨first, hfirst, hdeclarations, hdefinitions, rfl⟩, hpaths⟩ := hdeclared
  have hwrapped := (Adds.wrappers plans generator.backend generator.options.flushCache).append
    Adds.other
  obtain ⟨second, hsecond, hnone, hwrappers, hopened⟩ := hwrapped
  have hempty : definitions first = [] := by simpa [definitions] using hdefinitions []
  have hall : definitions second =
      plans.map fun plan => plan.definition generator.backend generator.options.flushCache := by
    simpa [definitions] using hwrappers []
  refine ⟨first, second, ?_, hdeclarations, hnone, hempty, hall, hdefinitions second,
    fun path => ?_⟩
  · -- What is left after both parts is nothing, with no block open.
    have hend := hsecond []
    rw [List.append_nil] at hend
    rw [(generator.shows_below plans named).readLines, List.append_assoc, hfirst, hend]
    simp [outline]
  · -- A declaration opens no namespace that its wrapper does not open as well.
    rw [openedNamespaces_append, hopened, List.append_nil, List.mem_append, List.mem_flatMap]
    exact or_iff_right_of_imp (hpaths path)

end Generator

end KernelBridge
