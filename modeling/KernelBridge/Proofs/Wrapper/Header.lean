import KernelBridge.Proofs.Wrapper.Acceptance
import KernelBridge.Proofs.Wrapper.Layout

/-!
# The header comment

The text of a target is written into the first line of a generated file and nowhere else. So
targets of one backend get files that differ in their headers alone. A token of a target may
hold a line feed, though, and then what stands after it in the target's text is no part of the
comment any more.

## Main definitions

* `Target.header` — the header comment that names a target
* `Target.spill` — what of a target's text stands below the first line

## Main results

* `Generator.exists_source_eq` — files for one backend are equal below the header
* `Generator.sources_agree_iff_spill` — two runs for targets of one backend
-/

namespace KernelBridge

open Layout (Step firstLine belowFirstLine)

namespace Target

/-- What stands in the header comment before the text of the target. -/
def headerStem : String := "// Kernel wrappers for target "

/-- The header comment that names a target. -/
def header (target : Target) : String := headerStem ++ target.text ++ "."

/-- What stands in the text of a target below its first line, if there is a line feed. -/
def spill (target : Target) : Option String :=
  if '\n' ∈ target.text.toList then some (belowFirstLine target.text) else none

variable {target : Target} {rest : String}

theorem lineFeed_mem_header : '\n' ∈ target.header.toList ↔ '\n' ∈ target.text.toList := by
  have hstem : '\n' ∉ headerStem.toList := by decide
  simp [header, hstem]

theorem firstLine_header (h : '\n' ∉ target.text.toList) :
    firstLine (target.header ++ "\n" ++ rest) = target.header :=
  Layout.firstLine_append (lineFeed_mem_header.not.mpr h)

theorem belowFirstLine_header_of_not_mem (h : '\n' ∉ target.text.toList) :
    belowFirstLine (target.header ++ "\n" ++ rest) = rest :=
  Layout.belowFirstLine_append (lineFeed_mem_header.not.mpr h)

theorem belowFirstLine_header_of_mem (h : '\n' ∈ target.text.toList) :
    belowFirstLine (target.header ++ "\n" ++ rest) =
      belowFirstLine target.text ++ ("." ++ ("\n" ++ rest)) := by
  have hstem : ∀ c ∈ headerStem.toList, (c != '\n') = true :=
    Layout.forall_ne_of_not_mem (by decide)
  have hbelow : belowFirstLine (headerStem ++ target.text) = belowFirstLine target.text := by
    rw [belowFirstLine, String.toList_append, List.dropWhile_append_of_pos hstem, belowFirstLine]
  rw [header, String.append_assoc, String.append_assoc,
    Layout.belowFirstLine_append_of_mem (by simp [h]), hbelow]

/-- Below the first line two files with the same rest are equal iff their targets spill the
same. -/
theorem belowFirstLine_header_eq_iff {one other : Target} :
    belowFirstLine (one.header ++ "\n" ++ rest) = belowFirstLine (other.header ++ "\n" ++ rest) ↔
      one.spill = other.spill := by
  have hlonger (spilled : String) : spilled ++ ("." ++ ("\n" ++ rest)) ≠ rest := by
    intro h
    have hlength := congrArg String.length h
    have hend : "\n".length = 1 := rfl
    simp only [String.length_append] at hlength
    omega
  unfold spill
  by_cases hone : '\n' ∈ one.text.toList <;> by_cases hother : '\n' ∈ other.text.toList
  · rw [belowFirstLine_header_of_mem hone, belowFirstLine_header_of_mem hother]
    simp [hone, hother]
  · rw [belowFirstLine_header_of_mem hone, belowFirstLine_header_of_not_mem hother]
    simp [hone, hother, hlonger]
  · rw [belowFirstLine_header_of_not_mem hone, belowFirstLine_header_of_mem hother]
    simp [hone, hother, Ne.symm (hlonger _)]
  · rw [belowFirstLine_header_of_not_mem hone, belowFirstLine_header_of_not_mem hother]
    simp [hone, hother]

end Target

namespace Generator

variable {options : GeneratorOptions}

/-- Of a target that can host wrappers, only the backend decides about plans. -/
theorem plan_congr {one other : Generator} {signatures : List Signature}
    (same : one.backend = other.backend) (hone : one.checkTarget = .ok ())
    (hother : other.checkTarget = .ok ()) :
    (one.plan signatures).result = (other.plan signatures).result := by
  have hplanOne (signature : Signature) : one.planOne signature = other.planOne signature := by
    simp only [planOne, same]
  have hplanEach (list : List Signature) : one.planEach list = other.planEach list := by
    induction list with
    | nil => rfl
    | cons signature rest ih => simp only [planEach, hplanOne, ih]
  simp only [plan, hone, hother, hplanEach]

/-- The files that some plans ask for on the targets of one backend differ in their headers
alone. -/
theorem exists_source_eq (backend : Backend) (options : GeneratorOptions) (plans : List Plan) :
    ∃ rest, ∀ target : Target, target.backend = backend →
      (⟨target, options⟩ : Generator).source plans = target.header ++ "\n" ++ rest := by
  -- A target of the backend shows which lines there are below the header.
  obtain ⟨below, hbelow⟩ : ∃ below : List (Step SourceLine), ∀ target : Target,
      target.backend = backend → (⟨target, options⟩ : Generator).lines plans =
        .line (.remark ("Kernel wrappers for target " ++ target.text ++ ".")) :: below := by
    refine ⟨((⟨⟨backend, []⟩, options⟩ : Generator).lines plans).tail, ?_⟩
    rintro target rfl
    rfl
  refine ⟨sourceText below, fun target htarget => ?_⟩
  have hline : Layout.indented 0
      (SourceLine.text (.remark ("Kernel wrappers for target " ++ target.text ++ "."))) =
        target.header := by
    have hstem : Target.headerStem = "// " ++ "Kernel wrappers for target " := by decide
    rw [Layout.indented_zero, Target.header, hstem]
    simp only [String.append_assoc]
    rfl
  rw [source, hbelow target htarget, sourceText, List.map_cons, Step.map, Layout.text_eq_joined,
    Layout.rendered, hline, Layout.joined_cons, sourceText, Layout.text_eq_joined]

/-- **Targets reach the header.** On two targets of one backend that can both host wrappers,
both runs fail with one error, or both give a file. The files are equal below their first
lines iff what follows a line feed in the two targets' texts is equal, and a file for a target
without a line feed begins with the whole header comment as its first line. -/
theorem sources_agree_iff_spill {one other : Target} (same : one.backend = other.backend)
    (hone : (⟨one, options⟩ : Generator).checkTarget = .ok ())
    (hother : (⟨other, options⟩ : Generator).checkTarget = .ok ())
    (settings settings' : Tracing.Performance) (elapsed elapsed' : UInt64)
    (signatures : List Signature) :
    let first := (generate ⟨one, options⟩ settings elapsed signatures).result
    let second := (generate ⟨other, options⟩ settings' elapsed' signatures).result
    (∃ error, first = .error error ∧ second = .error error) ∨
      ∃ rest, first = .ok (one.header ++ "\n" ++ rest) ∧
        second = .ok (other.header ++ "\n" ++ rest) ∧
        (belowFirstLine (one.header ++ "\n" ++ rest) =
            belowFirstLine (other.header ++ "\n" ++ rest) ↔ one.spill = other.spill) ∧
        ∀ target ∈ [one, other], '\n' ∉ target.text.toList →
          firstLine (target.header ++ "\n" ++ rest) = target.header := by
  intro first second
  have hplans : ((⟨one, options⟩ : Generator).plan signatures).result =
      ((⟨other, options⟩ : Generator).plan signatures).result :=
    plan_congr same hone hother
  have hfirst := generate_result ⟨one, options⟩ settings elapsed signatures
  have hsecond := generate_result ⟨other, options⟩ settings' elapsed' signatures
  rw [← hplans] at hsecond
  cases hplan : ((⟨one, options⟩ : Generator).plan signatures).result with
  | error error =>
    rw [hplan] at hfirst hsecond
    exact .inl ⟨error, hfirst, hsecond⟩
  | ok plans =>
    obtain ⟨rest, hrest⟩ := exists_source_eq other.backend options plans
    rw [hplan] at hfirst hsecond
    refine .inr ⟨rest, ?_, ?_, Target.belowFirstLine_header_eq_iff, fun target _ =>
      Target.firstLine_header⟩
    · rw [← hrest one same]
      exact hfirst
    · rw [← hrest other rfl]
      exact hsecond

/-- Two spellings of a target give files that are equal below their first lines. -/
theorem sources_agree_of_spellings :
    ∃ one other, Target.parse "arm-64-cuda-user_context" = .ok one ∧
      Target.parse " host-user_context-cuda_capability_+070--cuda" = .ok other ∧
      ∃ source source',
        (generate ⟨one, {}⟩ {} 0 [⟨"ops::f", [.buffer "x" .f32 1, .context]⟩]).result =
          .ok source ∧
        (generate ⟨other, {}⟩ {} 7 [⟨"ops::f", [.buffer "x" .f32 1, .context]⟩]).result =
          .ok source' ∧
        belowFirstLine source = belowFirstLine source' ∧
        firstLine source = "// Kernel wrappers for target arm-64-cuda-user_context." := by
  have hone : Target.parse "arm-64-cuda-user_context" =
      .ok ⟨.cuda, [.other "arm", .other "64", .cuda, .userContext]⟩ := by
    decide +kernel
  have hother : Target.parse " host-user_context-cuda_capability_+070--cuda" =
      .ok ⟨.cuda, [.other "host", .userContext, .cudaCapability 70, .cuda]⟩ := by
    decide +kernel
  refine ⟨_, _, hone, hother, ?_⟩
  rcases @sources_agree_iff_spill {} ⟨.cuda, [.other "arm", .other "64", .cuda, .userContext]⟩
      ⟨.cuda, [.other "host", .userContext, .cudaCapability 70, .cuda]⟩ rfl rfl rfl
      {} {} 0 7 [⟨"ops::f", [.buffer "x" .f32 1, .context]⟩] with
    ⟨_, hfirst, -⟩ | ⟨rest, hfirst, hsecond, hbelow, hheader⟩
  · rw [generate_result] at hfirst
    cases hfirst
  · refine ⟨_, _, hfirst, hsecond, hbelow.mpr (by decide +kernel), ?_⟩
    rw [hheader _ List.mem_cons_self (by decide +kernel)]
    decide +kernel

/-- A line feed inside a token lets the text after it out of the header comment, so that a file
depends on the target below its first line. -/
theorem sources_differ_of_lineFeed :
    ∃ one other, Target.parse "host" = .ok one ∧ Target.parse "host-a\nb" = .ok other ∧
      one.backend = other.backend ∧ (⟨one, {}⟩ : Generator).checkTarget = .ok () ∧
      (⟨other, {}⟩ : Generator).checkTarget = .ok () ∧
      ∃ source source', (generate ⟨one, {}⟩ {} 0 []).result = .ok source ∧
        (generate ⟨other, {}⟩ {} 0 []).result = .ok source' ∧
        belowFirstLine source ≠ belowFirstLine source' := by
  have hone : Target.parse "host" = .ok ⟨.cpu, [.other "host"]⟩ := by decide +kernel
  have hother : Target.parse "host-a\nb" = .ok ⟨.cpu, [.other "host", .other "a\nb"]⟩ := by
    decide +kernel
  obtain ⟨rest, hrest⟩ := exists_source_eq .cpu {} []
  refine ⟨_, _, hone, hother, rfl, rfl, rfl, _, _, rfl, rfl, ?_⟩
  rw [hrest _ rfl, hrest _ rfl, Ne, Target.belowFirstLine_header_eq_iff]
  decide +kernel

end Generator

end KernelBridge
