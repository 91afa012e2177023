import KernelBridge.Tracing.Performance
import KernelBridge.Wrapper.Source

/-!
# Wrapper generation

One run turns the signatures of some kernels into one file of wrappers for a target, or
fails before anything is written. The file depends on the signatures, the target and the
options alone; what the run reports about itself is returned beside it.

## Main definitions

* `GeneratorOptions` — what can be chosen for a run
* `Generator` — a target and options
* `Generator.plan` — the plans of some signatures
* `Generator.generate` — the source of their wrappers
-/

namespace KernelBridge

/-- What can be chosen for a run. -/
structure GeneratorOptions where
  /-- Empty the memoization cache after every call. -/
  flushCache : Bool := false
  /-- Declare the kernels, so that their own header is not needed. -/
  declareKernels : Bool := true
  deriving DecidableEq, Repr

namespace GeneratorOptions

/-- The variable that asks for emptying the cache. -/
def flushVariable : String := "FLUSH_MEMOIZE_CACHE"

/-- The options by the value of that variable: a lone 1 asks for it, blanks around it or not. -/
def ofVariable (value : Option String) : GeneratorOptions :=
  { flushCache := value.any fun text => Text.trimmed text == "1" }

end GeneratorOptions

/-- A result with what was reported on the way to it. -/
structure Reported (α : Type) where
  events : List Tracing.Event
  result : Except GenerationError α

structure Generator where
  target : Target
  options : GeneratorOptions := {}
  deriving DecidableEq, Repr

/-- The first string that stands a second time. -/
def firstRepeated : (seen : List String) → List String → Option String
  | _, [] => none
  | seen, s :: rest => if seen.contains s then some s else firstRepeated (s :: seen) rest

namespace Generator

open Tracing (Event)

def backend (generator : Generator) : Backend := generator.target.backend

/-- On CUDA the target needs the feature that lets a wrapper pass a user context. -/
def checkTarget (generator : Generator) : Except GenerationError Unit :=
  if generator.backend = .cuda ∧ ¬ generator.target.has .userContext then
    .error (.missingContextFeature generator.target)
  else .ok ()

/-- The plan of one signature. A kernel without a user context is refused on a backend that
needs one, and reported on any other device. -/
def planOne (generator : Generator) (signature : Signature) : Reported Plan :=
  match Plan.ofSignature generator.backend signature with
  | .error error => ⟨[], .error error⟩
  | .ok plan =>
    if plan.hasContext then ⟨[], .ok plan⟩
    else if generator.backend.requiresContext then
      ⟨[], .error (.missingContextArgument plan.qualifiedName generator.backend)⟩
    else if generator.backend.IsGpu then
      ⟨[.contextParameterMissing plan.qualifiedName generator.backend], .ok plan⟩
    else ⟨[], .ok plan⟩

/-- The plans of the signatures in order, up to the first that has none. -/
def planEach (generator : Generator) : List Signature → Reported (List Plan)
  | [] => ⟨[], .ok []⟩
  | signature :: rest =>
    let first := generator.planOne signature
    match first.result with
    | .error error => ⟨first.events, .error error⟩
    | .ok plan =>
      let others := generator.planEach rest
      ⟨first.events ++ others.events, others.result.map (plan :: ·)⟩

/-- The plans, unless two kernels have one name. -/
def distinct (plans : List Plan) : Except GenerationError (List Plan) :=
  match firstRepeated [] (plans.map Plan.qualifiedName) with
  | some name => .error (.schema (.declaredTwice name))
  | none => .ok plans

/-- The plans of the signatures. -/
def plan (generator : Generator) (signatures : List Signature) : Reported (List Plan) :=
  match generator.checkTarget with
  | .error error => ⟨[], .error error⟩
  | .ok () =>
    let planned := generator.planEach signatures
    ⟨planned.events, planned.result.bind distinct⟩

/-- The lines of the file that the plans ask for. -/
def lines (generator : Generator) (plans : List Plan) : List (Layout.Step SourceLine) :=
  preamble generator.target
    ++ (if generator.options.declareKernels then kernelDeclarations plans else [])
    ++ plans.flatMap fun plan => plan.wrapper generator.backend generator.options.flushCache

/-- The text of the file that the plans ask for. -/
def source (generator : Generator) (plans : List Plan) : String :=
  sourceText (generator.lines plans)

/-- What is reported about a file that was written for the plans. -/
def sourceEvents (generator : Generator) (plans : List Plan) : List Event :=
  let bytes := (generator.source plans).utf8ByteSize
  plans.map (fun plan =>
    Event.wrapperEmitted plan.qualifiedName generator.backend plan.buffers.length)
  ++ [.sourceGenerated generator.target.text plans.length bytes,
    .generationRecorded generator.backend plans.length bytes]

/-- The name of the timed section around a run. -/
def sectionName : String := "generate_wrappers"

/-- The source of the wrappers of the signatures. `elapsed` is how long the run lasts. -/
def generate (generator : Generator) (settings : Tracing.Performance) (elapsed : UInt64)
    (signatures : List Signature) : Reported String :=
  let planned := generator.plan signatures
  let opened := Tracing.opening sectionName [("backend", .text generator.backend.name)]
  let closed := Tracing.Section.closing { name := sectionName } settings elapsed
  match planned.result with
  | .error error => ⟨opened ++ planned.events ++ closed, .error error⟩
  | .ok plans =>
    ⟨opened ++ planned.events ++ generator.sourceEvents plans ++ closed,
      .ok (generator.source plans)⟩

end Generator

end KernelBridge
