import KernelBridge.Wrapper.Body

/-!
# Wrapper source

A generated file opens with a header comment and its includes, declares every kernel, and
then defines one wrapper for each of them in the kernel's own namespaces.

## Main definitions

* `SourceLine` — the kinds of lines
* `preamble`, `kernelDeclarations`, `Plan.wrapper` — the parts of a file
* `sourceText` — the text of a file
-/

namespace KernelBridge

open Layout (Step)

/-- A line of a generated file. -/
inductive SourceLine where
  | remark (text : String)
  | includeFile (file : String)
  | openNamespace (name : String)
  | closeNamespace (name : String)
  | openLinkage
  | closeLinkage
  /-- The attributes of the function that follows. -/
  | attributes
  | declaration (kernel : String) (parameters : List Parameter)
  | header (wrapper : String) (parameters : List Parameter)
  | footer
  | statement (statement : Statement)
  deriving DecidableEq, Repr

/-- The text of a line. -/
def SourceLine.text : SourceLine → String
  | remark text => "// " ++ text
  | includeFile file => "#include " ++ file
  | openNamespace name => "namespace " ++ name ++ " \x7b"
  | closeNamespace name => "\x7d  // namespace " ++ name
  | openLinkage => "extern \"C\" \x7b"
  | closeLinkage => "\x7d  // extern \"C\""
  | attributes => "HALIDE_FUNCTION_ATTRS"
  | declaration kernel parameters =>
    "int " ++ kernel ++ "(" ++ ", ".intercalate (parameters.map Parameter.kernelText) ++ ");"
  | header wrapper parameters =>
    "inline int " ++ wrapper ++ "("
      ++ ", ".intercalate (parameters.map Parameter.wrapperText) ++ ") \x7b"
  | footer => "\x7d"
  | statement inner => inner.text

/-- The headers of the host framework that a backend needs. -/
def Backend.includes : Backend → List String
  | cpu => []
  | cuda => ["\"ATen/cuda/CUDAContext.h\""]
  | metal => ["\"ATen/mps/MPSStream.h\"", "<c10/core/Stream.h>"]

/-- The header comment and the includes. -/
def preamble (target : Target) : List (Step SourceLine) :=
  [.line (.remark ("Kernel wrappers for target " ++ target.text ++ ".")),
    .line (.remark "Generated by torchbridge-codegen; do not edit."),
    .blank]
  ++ (target.backend.includes ++ ["\"HalideBuffer.h\"", "\"HalidePyTorchHelpers.h\""]).map
    (fun file => Step.line (SourceLine.includeFile file))
  ++ [.blank]

/-- The lines that open the namespaces, from the outermost on. -/
def openNamespaces (names : List String) : List (Step SourceLine) :=
  names.map fun name => .line (.openNamespace name)

/-- The lines that close the namespaces, from the innermost on. -/
def closeNamespaces (names : List String) : List (Step SourceLine) :=
  names.reverse.map fun name => .line (.closeNamespace name)

namespace Plan

/-- The declaration of the kernel. -/
def declaration (plan : Plan) : List (Step SourceLine) :=
  [.line .attributes, .line (.declaration plan.simpleName plan.parameters)]

/-- The declaration of the kernel inside its namespaces. -/
def namespacedDeclaration (plan : Plan) : List (Step SourceLine) :=
  openNamespaces plan.namespaces ++ plan.declaration ++ closeNamespaces plan.namespaces
    ++ [.blank]

/-- A blank line, unless there are no namespaces. -/
def namespaceGap (plan : Plan) : List (Step SourceLine) :=
  if plan.namespaces.isEmpty then [] else [.blank]

/-- The wrapper inside the kernel's namespaces. -/
def wrapper (plan : Plan) (backend : Backend) (flushCache : Bool) : List (Step SourceLine) :=
  openNamespaces plan.namespaces ++ plan.namespaceGap
    ++ [.line .attributes, .line (.header plan.wrapperName plan.publicParameters), .indent]
    ++ (plan.body backend flushCache).map (Step.map SourceLine.statement)
    ++ [.dedent, .line .footer, .blank]
    ++ closeNamespaces plan.namespaces ++ plan.namespaceGap

end Plan

/-- The declarations of all kernels: those without namespaces first, together in one block
with C linkage, then the others one by one. -/
def kernelDeclarations (plans : List Plan) : List (Step SourceLine) :=
  let (global, namespaced) := plans.partition fun plan => plan.namespaces.isEmpty
  (if global.isEmpty then []
    else .line .openLinkage :: global.flatMap Plan.declaration
      ++ [.line .closeLinkage, .blank])
  ++ namespaced.flatMap Plan.namespacedDeclaration

/-- The text of a file's lines. -/
def sourceText (lines : List (Step SourceLine)) : String :=
  Layout.text (lines.map (Step.map SourceLine.text))

end KernelBridge
