import KernelBridge.Proofs.Wrapper.Reading

/-!
# The lines of a file read back

Below its preamble a generated file is laid out in blocks that are opened and closed around
their lines. Every part of it is read back as its lines with the blocks around them.

## Main definitions

* `Line.enclosed` — lines with blocks around them
* `Shows` — what the lines that steps lay out are read as
* `Plan.declarationLines`, `Plan.wrapperLines` — the lines that belong to a plan

## Main results

* `Shows.readLines` — the lines of a text
* `Shows.kernelDeclarations`, `Shows.wrapper` — what the two parts of a file are read as
-/

namespace KernelBridge

open Layout (Step contents rendered depthAfter)

/-- The lines with blocks around them, from the outermost in. -/
def Line.enclosed : List Block → List Line → List Line
  | [], lines => lines
  | block :: inner, lines => .opens block :: enclosed inner lines ++ [.closes block.ending]

/-! ### Parts of a text -/

/-- What follows a part that ends at the margin begins there. -/
theorem sourceText_append {steps more : List (Step SourceLine)}
    (h : depthAfter 0 (steps.map (Step.map SourceLine.text)) = 0) :
    sourceText (steps ++ more) = sourceText steps ++ sourceText more := by
  rw [sourceText, List.map_append, Layout.text_append h, sourceText, sourceText]

theorem isLevel_preamble (target : Target) : Layout.IsLevel (preamble target) := by
  have hincludes (files : List String) :
      Layout.IsLevel (files.map fun file => Step.line (SourceLine.includeFile file)) :=
    Layout.isLevel_map_line files SourceLine.includeFile
  simp only [preamble, Layout.isLevel_append, Layout.isLevel_line_cons, Layout.isLevel_blank_cons,
    Layout.isLevel_nil, hincludes, and_self]

theorem depthAfter_preamble (target : Target) :
    depthAfter 0 ((preamble target).map (Step.map SourceLine.text)) = 0 :=
  Layout.depthAfter_of_isLevel (Layout.isLevel_map_map.mpr (isLevel_preamble target))

/-! ### Lines without a margin -/

namespace SourceLine

variable {name : String} {parameters : List Parameter}

/-- The line is one line of text, and without a margin it is read as given. -/
def IsRead (sourceLine : SourceLine) (line : Line) : Prop :=
  Line.read sourceLine.text.toList = line ∧ '\n' ∉ sourceLine.text.toList

theorem isRead_openNamespace (h : Cpp.isIdentifier name = true) :
    (openNamespace name).IsRead (.opens (.space name)) := by
  have hname := lineFeed_not_mem h
  have htext : (openNamespace name).text.toList =
      "namespace ".toList ++ (name.toList ++ " \x7b".toList) := by
    change ("namespace " ++ name ++ " \x7b").toList = _
    simp only [String.toList_append, List.append_assoc]
  constructor
  · rw [htext, Line.read, Line.readOpening, between_append "namespace " " \x7b"]
    simp
  · rw [htext]
    simp [hname]

theorem isRead_closeNamespace (h : Cpp.isIdentifier name = true) :
    (closeNamespace name).IsRead (.closes (.space name)) := by
  have hname := lineFeed_not_mem h
  have htext : (closeNamespace name).text.toList =
      "\x7d  // namespace ".toList ++ (name.toList ++ "".toList) := by
    change ("\x7d  // namespace " ++ name).toList = _
    simp
  have hopening (rest : List Char) :
      Line.readOpening ("\x7d  // namespace ".toList ++ rest) = none :=
    rfl
  constructor
  · rw [htext, Line.read, hopening, Line.readClosing, between_append "\x7d  // namespace " ""]
    simp
  · rw [htext]
    simp [hname]

theorem isRead_openLinkage : openLinkage.IsRead (.opens .linkage) := by
  unfold IsRead
  decide

theorem isRead_closeLinkage : closeLinkage.IsRead (.closes .linkage) := by
  unfold IsRead
  decide

theorem isRead_attributes : attributes.IsRead .other := by
  unfold IsRead
  decide

theorem isRead_footer : footer.IsRead (.closes .wrapper) := by
  unfold IsRead
  decide

section Function

variable (hname : Cpp.isIdentifier name = true)
  (hparameters : ∀ parameter ∈ parameters, Cpp.isIdentifier parameter.name = true)

include hname hparameters

theorem isRead_declaration : (declaration name parameters).IsRead
    (.declares name (parameters.map Parameter.kernelText)) := by
  have hentries := Parameter.areEntries_kernelText hparameters
  have hread := Line.read_function hname hentries
  have htext : (declaration name parameters).text.toList =
      "int ".toList ++ ((name ++ "(" ++ ", ".intercalate
        (parameters.map Parameter.kernelText)).toList ++ ");".toList) := by
    change ("int " ++ name ++ "(" ++ ", ".intercalate (parameters.map Parameter.kernelText)
      ++ ");").toList = _
    simp only [String.toList_append, List.append_assoc]
  have hopening (rest : List Char) : Line.readOpening ("int ".toList ++ rest) = none := rfl
  have hclosing (rest : List Char) : Line.readClosing ("int ".toList ++ rest) = none := rfl
  constructor
  · rw [htext, Line.read, hopening, hclosing, Line.readPlain, between_append "int " ");"]
    exact congrArg₂ Line.declares hread.1 hread.2
  · rw [htext, List.mem_append, List.mem_append, not_or, not_or]
    exact ⟨by decide, Line.lineFeed_not_mem_function hname hentries, by decide⟩

theorem isRead_header : (header name parameters).IsRead
    (.opens (.wrapper name (parameters.map Parameter.wrapperText))) := by
  have hentries := Parameter.areEntries_wrapperText hparameters
  have hread := Line.read_function hname hentries
  have htext : (header name parameters).text.toList =
      "inline int ".toList ++ ((name ++ "(" ++ ", ".intercalate
        (parameters.map Parameter.wrapperText)).toList ++ ") \x7b".toList) := by
    change ("inline int " ++ name ++ "(" ++ ", ".intercalate
      (parameters.map Parameter.wrapperText) ++ ") \x7b").toList = _
    simp only [String.toList_append, List.append_assoc]
  have hspace (rest : List Char) :
      between "namespace " " \x7b" ("inline int ".toList ++ rest) = none :=
    rfl
  constructor
  · rw [htext, Line.read, Line.readOpening, hspace, between_append "inline int " ") \x7b"]
    exact congrArg₂ (fun name parameters => Line.opens (.wrapper name parameters)) hread.1 hread.2
  · rw [htext, List.mem_append, List.mem_append, not_or, not_or]
    exact ⟨by decide, Line.lineFeed_not_mem_function hname hentries, by decide⟩

end Function

end SourceLine

/-! ### Parts of a layout -/

/-- Steps that end at the depth where they began lay out single lines, and these are read as
given. -/
structure Shows (depth : Nat) (steps : List (Step SourceLine)) (lines : List Line) : Prop where
  keepsDepth : depthAfter depth (steps.map (Step.map SourceLine.text)) = depth
  isLine : ∀ text ∈ rendered depth (steps.map (Step.map SourceLine.text)), '\n' ∉ text.toList
  isRead : (rendered depth (steps.map (Step.map SourceLine.text))).map
    (fun text => Line.read text.toList) = lines

namespace Shows

variable {depth : Nat} {steps more : List (Step SourceLine)} {lines others : List Line}

theorem nil (depth : Nat) : Shows depth [] [] := ⟨rfl, by simp [rendered], rfl⟩

theorem append (first : Shows depth steps lines) (second : Shows depth more others) :
    Shows depth (steps ++ more) (lines ++ others) := by
  refine ⟨?_, ?_, ?_⟩
  · rw [List.map_append, Layout.depthAfter_append, first.keepsDepth, second.keepsDepth]
  · rw [List.map_append, Layout.rendered_append, first.keepsDepth, List.forall_mem_append]
    exact ⟨first.isLine, second.isLine⟩
  · rw [List.map_append, Layout.rendered_append, first.keepsDepth, List.map_append, first.isRead,
      second.isRead]

theorem flatMap {α : Type} {xs : List α} {f : α → List (Step SourceLine)} {g : α → List Line}
    (h : ∀ x ∈ xs, Shows depth (f x) (g x)) : Shows depth (xs.flatMap f) (xs.flatMap g) := by
  induction xs with
  | nil => exact nil depth
  | cons x rest ih =>
    obtain ⟨hx, hrest⟩ := List.forall_mem_cons.mp h
    exact hx.append (ih hrest)

theorem blank (depth : Nat) : Shows depth [.blank] [.other] :=
  ⟨rfl, by simp [rendered, Step.map], rfl⟩

theorem line {sourceLine : SourceLine} {line : Line} (h : sourceLine.IsRead line) :
    Shows 0 [.line sourceLine] [line] := by
  refine ⟨rfl, ?_, ?_⟩
  · simpa [rendered, Step.map, Layout.indented_zero] using h.2
  · simpa [rendered, Step.map, Layout.indented_zero] using h.1

/-- Steps between an indentation and its end are shown one level deeper. -/
theorem indented (h : Shows (depth + 1) steps lines) :
    Shows depth (.indent :: steps ++ [.dedent]) lines := by
  have hsteps : (Step.indent :: steps ++ [Step.dedent]).map (Step.map SourceLine.text) =
      [.indent] ++ (steps.map (Step.map SourceLine.text) ++ [.dedent]) := by
    simp [Step.map]
  have hrendered : rendered depth ([.indent] ++ (steps.map (Step.map SourceLine.text) ++
      [.dedent])) = rendered (depth + 1) (steps.map (Step.map SourceLine.text)) := by
    rw [Layout.rendered_append, Layout.rendered_append]
    exact List.append_nil _
  refine ⟨?_, ?_, ?_⟩
  · rw [hsteps, Layout.depthAfter_append, Layout.depthAfter_append]
    change depthAfter (depthAfter (depth + 1) (steps.map (Step.map SourceLine.text)))
      [.dedent] = depth
    rw [h.keepsDepth]
    rfl
  · rw [hsteps, hrendered]
    exact h.isLine
  · rw [hsteps, hrendered]
    exact h.isRead

/-- The text of a part at the margin is read as its lines and an empty one. -/
theorem readLines (h : Shows 0 steps lines) : readLines (sourceText steps) = lines ++ [.other] := by
  rw [KernelBridge.readLines, sourceText, Layout.text_eq_joined, Layout.splitOn_joined h.isLine,
    List.map_append, List.map_map]
  exact congrArg (· ++ [Line.other]) h.isRead

/-- Namespaces around a part. -/
theorem namespaces {names : List String}
    (hnames : ∀ name ∈ names, Cpp.isIdentifier name = true) (h : Shows 0 steps lines) :
    Shows 0 (openNamespaces names ++ steps ++ closeNamespaces names)
      (Line.enclosed (names.map Block.space) lines) := by
  induction names with
  | nil => simpa [openNamespaces, closeNamespaces, Line.enclosed] using h
  | cons name rest ih =>
    obtain ⟨hname, hrest⟩ := List.forall_mem_cons.mp hnames
    have hopen := line (SourceLine.isRead_openNamespace hname)
    have hclose := line (SourceLine.isRead_closeNamespace hname)
    have hsteps : openNamespaces (name :: rest) ++ steps ++ closeNamespaces (name :: rest) =
        [.line (.openNamespace name)] ++ (openNamespaces rest ++ steps ++ closeNamespaces rest)
          ++ [.line (.closeNamespace name)] := by
      simp [openNamespaces, closeNamespaces]
    rw [hsteps]
    exact (hopen.append (ih hrest)).append hclose

end Shows

/-! ### Parts of a file -/

/-- What a step of a body is read as. -/
def Statement.stepLine : Step Statement → Line
  | .line statement => statement.line
  | _ => .other

theorem Statement.read_indented {statement : Statement} (h : statement.IsRead) :
    Line.read (Layout.indented 1 statement.text).toList = statement.line ∧
      '\n' ∉ (Layout.indented 1 statement.text).toList := by
  by_cases hempty : statement.text = ""
  · have hline : statement.line = .other := by
      rw [← h.1, hempty]
      rfl
    rw [hempty, hline]
    exact ⟨rfl, by decide⟩
  · have htext : (Layout.indented 1 statement.text).toList =
        "    ".toList ++ statement.text.toList := by
      simp [Layout.indented, Layout.margin, hempty]
    rw [htext]
    refine ⟨(Line.read_blank_cons _).trans h.1, ?_⟩
    rw [List.mem_append, not_or]
    exact ⟨by decide, h.2⟩

/-- Statements one level deep are read one by one. -/
theorem Shows.statements {steps : List (Step Statement)} (level : Layout.IsLevel steps)
    (h : ∀ statement ∈ contents steps, statement.IsRead) :
    Shows 1 (steps.map (Step.map SourceLine.statement)) (steps.map Statement.stepLine) := by
  induction steps with
  | nil => exact .nil 1
  | cons step rest ih =>
    obtain ⟨⟨hindent, hdedent⟩, hrest⟩ := List.forall_mem_cons.mp level
    cases step with
    | line statement =>
      obtain ⟨hstatement, hothers⟩ := List.forall_mem_cons.mp h
      obtain ⟨hread, hline⟩ := Statement.read_indented hstatement
      have hfirst : Shows 1 [.line (.statement statement)] [statement.line] :=
        ⟨rfl, List.forall_mem_singleton.mpr hline, congrArg (· :: []) hread⟩
      exact hfirst.append (ih hrest hothers)
    | blank => exact (Shows.blank 1).append (ih hrest h)
    | indent => exact absurd rfl hindent
    | dedent => exact absurd rfl hdedent

namespace Plan

variable (plan : Plan) (backend : Backend) (flushCache : Bool)

/-- The blocks of the kernel's namespaces, from the outermost in. -/
def spaces : List Block := plan.namespaces.map Block.space

/-- The lines that declare the kernel. -/
def declarationLines : List Line :=
  [.other, .declares plan.simpleName (plan.parameters.map Parameter.kernelText)]

/-- The line between namespaces and a wrapper. -/
def gapLines : List Line := if plan.namespaces.isEmpty then [] else [.other]

/-- The lines of the wrapper's body. -/
def bodyLines : List Line := (plan.body backend flushCache).map Statement.stepLine

/-- The block that the wrapper is. -/
def wrapperBlock : Block :=
  .wrapper plan.wrapperName (plan.publicParameters.map Parameter.wrapperText)

/-- The lines of the wrapper inside its namespaces. -/
def wrapperLines : List Line :=
  Line.enclosed plan.spaces
      (plan.gapLines ++ [.other]
        ++ Line.enclosed [plan.wrapperBlock] (plan.bodyLines backend flushCache) ++ [.other])
    ++ plan.gapLines

end Plan

/-- The lines of all declarations. -/
def kernelDeclarationLines (plans : List Plan) : List Line :=
  let (global, namespaced) := plans.partition fun plan => plan.namespaces.isEmpty
  (if global.isEmpty then []
    else Line.enclosed [.linkage] (global.flatMap Plan.declarationLines) ++ [.other])
  ++ namespaced.flatMap fun plan => Line.enclosed plan.spaces plan.declarationLines ++ [.other]

namespace Shows

variable {plan : Plan} {plans : List Plan} {backend : Backend} {flushCache : Bool}

theorem declaration (named : plan.IsNamed) :
    Shows 0 plan.declaration plan.declarationLines :=
  (line SourceLine.isRead_attributes).append
    (line (SourceLine.isRead_declaration named.simple named.parameters))

theorem namespaceGap (plan : Plan) : Shows 0 plan.namespaceGap plan.gapLines := by
  unfold Plan.namespaceGap Plan.gapLines
  split
  · exact nil 0
  · exact blank 0

/-- What a wrapper is read as. -/
theorem wrapper (named : plan.IsNamed) :
    Shows 0 (plan.wrapper backend flushCache) (plan.wrapperLines backend flushCache) := by
  have hpublic : ∀ parameter ∈ plan.publicParameters, Cpp.isIdentifier parameter.name = true :=
    fun parameter h => named.parameters parameter (List.mem_of_mem_filter h)
  have hname : Cpp.isIdentifier plan.wrapperName = true :=
    Cpp.isIdentifier_append named.simple (by decide) (by decide)
  have hheader := line (SourceLine.isRead_header hname hpublic)
  have hbody : Shows 0 (.indent :: (plan.body backend flushCache).map
      (Step.map SourceLine.statement) ++ [.dedent]) (plan.bodyLines backend flushCache) :=
    indented (statements Plan.isLevel_body (Plan.isRead_body named))
  have hinside := (((namespaceGap plan).append (line SourceLine.isRead_attributes)).append
    ((hheader.append hbody).append (line SourceLine.isRead_footer))).append (blank 0)
  have hwhole := (namespaces named.namespaces hinside).append (namespaceGap plan)
  simpa [Plan.wrapper, Plan.wrapperLines, Plan.spaces, Plan.wrapperBlock, Line.enclosed,
    Block.ending] using hwhole

/-- What the declarations are read as. -/
theorem kernelDeclarations (named : ∀ plan ∈ plans, plan.IsNamed) :
    Shows 0 (kernelDeclarations plans) (kernelDeclarationLines plans) := by
  rw [KernelBridge.kernelDeclarations, kernelDeclarationLines, List.partition_eq_filter_filter]
  have hglobal : Shows 0
      ((plans.filter fun plan => plan.namespaces.isEmpty).flatMap Plan.declaration)
      ((plans.filter fun plan => plan.namespaces.isEmpty).flatMap Plan.declarationLines) :=
    flatMap fun plan hplan => declaration (named plan (List.mem_of_mem_filter hplan))
  refine append ?_ (flatMap fun plan hplan => ?_)
  · split
    · exact nil 0
    · simpa [Line.enclosed, Block.ending] using
        (((line SourceLine.isRead_openLinkage).append hglobal).append
          (line SourceLine.isRead_closeLinkage)).append (blank 0)
  · have hplan := named plan (List.mem_of_mem_filter hplan)
    exact (namespaces hplan.namespaces (declaration hplan)).append (blank 0)

end Shows

end KernelBridge
