import KernelBridge.Proofs.Wrapper.PlanList
import KernelBridge.Proofs.Wrapper.Scope

/-!
# The log of a run

A run reports about the kernels while it plans their wrappers, and about the wrappers and the
file once it writes them. Planning can fail after some of its reports, so the log of a failed run
is not empty: it tells of the kernels before the first one that is rejected. Of wrappers and of
the file it tells only if there is a file.

## Main definitions

* `Tracing.entitled` — what a subscriber sees under some messages
* `Generator.writingRecords` — the records about wrappers and the file, by the result of the run
* `Generator.warningRecords` — the records about kernels that take no user context

## Main results

* `Generator.events_planEach`, `Generator.events_plan` — what is reported while planning
* `Generator.log_of_generate` — the log of a run
-/

namespace KernelBridge

open Tracing (Event Record named counted onBackend)

/-! ### Records -/

/-- What a subscriber sees of some events under some messages. -/
def Tracing.entitled (titles : List String) (events : List Event) : List Record :=
  (events.map Event.record).filter fun record => titles.contains record.title

/-- The message about a kernel that takes no user context. -/
def missingContextTitle : String :=
  "kernel has no user-context parameter; the runtime will not see the host stream"

/-- The messages about wrappers and the file. -/
def writingTitles : List String :=
  ["emitting wrapper", "generated wrapper source", "wrapper_generation"]

namespace Signature

/-- The record about the wrapper of a signature. -/
def emissionRecord (signature : Signature) (backend : Backend) : Record :=
  Tracing.event .debug "emitting wrapper"
    [named "function" signature.name, onBackend backend,
      counted "buffers" signature.buffers.length]

/-- The record about a kernel that takes no user context. -/
def warningRecord (signature : Signature) (backend : Backend) : Record :=
  Tracing.event .warn missingContextTitle
    [named "function" signature.name, onBackend backend]

end Signature

namespace Generator

/-- The two records about a file with some wrappers. -/
def fileRecords (generator : Generator) (wrappers bytes : Nat) : List Record := [
  Tracing.event .info "generated wrapper source"
    [named "target_string" generator.target.text, counted "wrappers" wrappers,
      counted "bytes" bytes],
  Tracing.event .debug "wrapper_generation"
    [named "event" "generation", onBackend generator.backend, counted "wrappers" wrappers,
      counted "source_bytes" bytes]]

/-- The records about wrappers and the file: one for each signature and two for the file, or none
if there is no file. -/
def writingRecords (generator : Generator) (signatures : List Signature) :
    Except GenerationError String → List Record
  | .ok source => signatures.map (·.emissionRecord generator.backend)
      ++ generator.fileRecords signatures.length source.utf8ByteSize
  | .error _ => []

/-- The signatures before the first one that is rejected on its own. -/
def acceptedPrefix (generator : Generator) (signatures : List Signature) : List Signature :=
  signatures.takeWhile fun signature => (generator.plan [signature]).result.isOk

/-- The records about kernels that take no user context: on Metal one for each such kernel before
the first signature that is rejected, and none elsewhere. -/
def warningRecords (generator : Generator) (signatures : List Signature) : List Record :=
  if generator.backend = .metal then
    ((generator.acceptedPrefix signatures).filter fun signature =>
      signature.context?.isNone).map (·.warningRecord .metal)
  else []

end Generator

/-! ### Events and messages -/

namespace Tracing

section Entitled

variable {titles : List String} {α : Type} {xs : List α} {f : α → Event}

@[simp] theorem entitled_append (events more : List Event) :
    entitled titles (events ++ more) = entitled titles events ++ entitled titles more := by
  simp [entitled]

theorem entitled_map_of_mem (h : ∀ x, (f x).record.title ∈ titles) :
    entitled titles (xs.map f) = xs.map fun x => (f x).record := by
  simp [entitled, List.filter_map, Function.comp_def, h]

theorem entitled_map_of_not_mem (h : ∀ x, (f x).record.title ∉ titles) :
    entitled titles (xs.map f) = [] := by
  simp [entitled, List.filter_map, Function.comp_def, h]

theorem entitled_opening (h : "perf" ∉ titles) (name : String)
    (details : List (String × FieldValue)) : entitled titles (opening name details) = [] := by
  unfold opening
  split <;> simp [entitled, Section.opened, Event.record, h]

theorem entitled_closing (h : "performance_span_complete" ∉ titles) (timed : Section)
    (settings : Performance) (elapsed : UInt64) :
    entitled titles (timed.closing settings elapsed) = [] := by
  unfold Section.closing
  split <;> simp [entitled, Event.record, event, h]

end Entitled

end Tracing

namespace Generator

variable {generator : Generator} {signatures : List Signature} {plans : List Plan}

/-! ### Planning -/

/-- Planning one signature reports it on Metal if it is planned without a user context. -/
theorem events_planOne (generator : Generator) (signature : Signature) :
    (generator.planOne signature).events =
      if generator.backend = .metal ∧ (generator.planOne signature).result.isOk = true ∧
        signature.context?.isNone = true
      then [.contextParameterMissing signature.name .metal] else [] := by
  unfold planOne
  cases hplan : Plan.ofSignature generator.backend signature with
  | error error => simp [Except.toBool]
  | ok plan =>
    have hname : plan.qualifiedName = signature.name := (Plan.parse_qualifiedName hplan).1
    have hcontext : plan.hasContext = signature.context?.isSome := by
      obtain ⟨-, name, -, rfl, -⟩ := Plan.ofSignature_eq_ok_iff.mp hplan
      exact Plan.hasContext_draft signature name
    cases hargument : signature.context? with
    | some argument => simp [hcontext, hargument]
    | none =>
      cases hbackend : generator.backend <;>
        simp [hcontext, hargument, hname, Backend.requiresContext, Except.toBool]

/-- Planning reports the signatures before the first one that is rejected. -/
theorem events_planEach (generator : Generator) (signatures : List Signature) :
    (generator.planEach signatures).events =
      if generator.backend = .metal then
        ((signatures.takeWhile fun signature =>
          (generator.planOne signature).result.isOk).filter fun signature =>
            signature.context?.isNone).map
          fun signature => Event.contextParameterMissing signature.name .metal
      else [] := by
  induction signatures with
  | nil => simp [planEach]
  | cons signature rest ih =>
    have hfirst := generator.events_planOne signature
    rw [planEach]
    cases hplan : (generator.planOne signature).result with
    | error error => simp [hfirst, hplan, Except.toBool]
    | ok plan =>
      rw [hplan] at hfirst
      by_cases hbackend : generator.backend = .metal
      · cases hargument : signature.context? <;>
          simp [hfirst, hplan, hbackend, hargument, ih, Except.toBool]
      · simp [hfirst, hbackend, ih]

/-- A target that cannot host wrappers rejects all signatures, and planning reports nothing. -/
theorem events_plan (generator : Generator) (signatures : List Signature) :
    (generator.plan signatures).events =
      if generator.backend = .metal then
        ((generator.acceptedPrefix signatures).filter fun signature =>
          signature.context?.isNone).map
            fun signature => Event.contextParameterMissing signature.name .metal
      else [] := by
  cases hosts : generator.checkTarget with
  | error error =>
    have hcuda : generator.backend = .cuda := by
      unfold checkTarget at hosts
      split at hosts
      · next h => exact h.1
      · cases hosts
    rw [plan, hosts, hcuda]
    simp
  | ok =>
    have halone (signature : Signature) : (generator.plan [signature]).result.isOk =
        (generator.planOne signature).result.isOk := by
      rw [plan_singleton hosts]
      cases (generator.planOne signature).result <;> rfl
    rw [plan, hosts, acceptedPrefix]
    simp only [halone]
    exact generator.events_planEach signatures

/-- The third signature repeats a name, so that the list is refused after all three were
reported. -/
example : (plan ⟨.ofBackend .metal, {}⟩ [⟨"f", []⟩, ⟨"g", [.context]⟩, ⟨"f", []⟩]).events =
    [.contextParameterMissing "f" .metal, .contextParameterMissing "f" .metal] := rfl

theorem entitled_plan_writing (generator : Generator) (signatures : List Signature) :
    Tracing.entitled writingTitles (generator.plan signatures).events = [] := by
  rw [events_plan]
  split
  · exact Tracing.entitled_map_of_not_mem fun signature => by
      simp [writingTitles, Event.record, Tracing.event]
  · rfl

theorem entitled_plan_missingContext (generator : Generator) (signatures : List Signature) :
    Tracing.entitled [missingContextTitle] (generator.plan signatures).events =
      generator.warningRecords signatures := by
  rw [events_plan, warningRecords]
  split
  · exact Tracing.entitled_map_of_mem fun signature => List.mem_singleton.mpr rfl
  · rfl

/-! ### Writing -/

/-- A file is reported by its wrappers in order, and then as a whole. -/
theorem entitled_sourceEvents_writing
    (accepted : (generator.plan signatures).result = .ok plans) :
    Tracing.entitled writingTitles (generator.sourceEvents plans) =
      generator.writingRecords signatures (.ok (generator.source plans)) := by
  obtain ⟨-, keeps, -⟩ := plan_eq_ok_iff.mp accepted
  have hlength : plans.length = signatures.length := keeps.length_eq.symm
  have hwrappers : plans.map (fun plan =>
      (Event.wrapperEmitted plan.qualifiedName generator.backend plan.buffers.length).record) =
        signatures.map (·.emissionRecord generator.backend) := by
    refine map_of_keeps keeps fun signature plan hkeeps => ?_
    rw [(Plan.parse_qualifiedName hkeeps.planned).1, Plan.buffers_eq hkeeps.planned,
      List.length_map]
    rfl
  rw [sourceEvents, Tracing.entitled_append,
    Tracing.entitled_map_of_mem fun plan => by simp [writingTitles, Event.record, Tracing.event],
    hwrappers, hlength]
  rfl

theorem entitled_sourceEvents_missingContext (generator : Generator) (plans : List Plan) :
    Tracing.entitled [missingContextTitle] (generator.sourceEvents plans) = [] := by
  rw [sourceEvents, Tracing.entitled_append,
    Tracing.entitled_map_of_not_mem fun plan => by
      simp [missingContextTitle, Event.record, Tracing.event]]
  rfl

/-- **The log of a run.** If there is a file, the run reports one wrapper for each signature, in
order, and then the file twice, with the number of its wrappers and of its bytes; otherwise it
reports none of these. On Metal it reports every kernel without a user context that comes before
the first signature that is rejected on its own, in order, even if the list is refused in the end;
elsewhere it reports none. -/
theorem log_of_generate (generator : Generator) (settings : Tracing.Performance)
    (elapsed : UInt64) (signatures : List Signature) :
    Tracing.entitled writingTitles (generator.generate settings elapsed signatures).events =
        generator.writingRecords signatures
          (generator.generate settings elapsed signatures).result ∧
      Tracing.entitled [missingContextTitle]
          (generator.generate settings elapsed signatures).events =
        generator.warningRecords signatures := by
  have hopened {titles : List String} (h : "perf" ∉ titles) :
      Tracing.entitled titles
        (Tracing.opening sectionName [("backend", .text generator.backend.name)]) = [] :=
    Tracing.entitled_opening h _ _
  have hclosed {titles : List String} (h : "performance_span_complete" ∉ titles) :
      Tracing.entitled titles
        (Tracing.Section.closing { name := sectionName } settings elapsed) = [] :=
    Tracing.entitled_closing h _ _ _
  have hplanned := generator.entitled_plan_writing signatures
  have hwarned := generator.entitled_plan_missingContext signatures
  unfold generate
  cases hplan : (generator.plan signatures).result with
  | error error =>
    simp only [hplan, Tracing.entitled_append]
    rw [hopened (by decide), hopened (by decide), hclosed (by decide), hclosed (by decide),
      hplanned, hwarned]
    exact ⟨rfl, by simp⟩
  | ok plans =>
    have hfile := entitled_sourceEvents_writing hplan
    have hsilent := generator.entitled_sourceEvents_missingContext plans
    simp only [hplan, Tracing.entitled_append]
    rw [hopened (by decide), hopened (by decide), hclosed (by decide), hclosed (by decide),
      hplanned, hwarned, hfile, hsilent]
    simp

end Generator

end KernelBridge
