import Mathlib.Data.List.Induction
import KernelBridge.Proofs.Target.Reading

/-!
# What strings are read as, and what all targets have in common

A string is blank, or it asks for two devices, or it is a target. Which of these holds is a
matter of its words alone: of whether there are any, whether the names of both devices are among
them, and which of the two stands first. Targets can also be built step by step, and those that
are read and those that are built keep the same invariant.

## Main definitions

* `Target.words` — the words of a string
* `Target.Conflicts` — words that ask for a second device after a first one
* `Target.requested` — the backend that words ask for
* `Target.IsConsistent` — distinct features, with the device of the backend and no other one
* `Target.build` — the target of a backend with some more features

## Main results

* `Target.parse_eq_empty_iff`, `Target.parse_eq_conflict_iff`, `Target.parse_eq_ok_iff_words` —
  the three outcomes of reading a string
* `Target.isConsistent_withFeature`, `Target.isConsistent_build` — the invariant of building
* `Target.parse_decided_and_isConsistent` — reading and building together
-/

namespace KernelBridge

open FirstFault

/-- A word chooses a device only by its name. -/
theorem Feature.backend?_ofToken {word : String} {backend : Backend} :
    (ofToken word).backend? = some backend ↔ backend.IsGpu ∧ word = backend.name := by
  rw [ofToken]
  split_ifs with hcuda hmetal huser
  · cases backend <;> simp [backend?, Backend.name, hcuda]
  · cases backend <;> simp [backend?, Backend.name, hmetal]
  · cases backend <;> simp [backend?, Backend.name, huser]
  · have hword : ∀ backend : Backend, ¬ (backend.IsGpu ∧ word = backend.name) := by
      rintro (_ | _ | _) <;> simp [Backend.name, hcuda, hmetal]
    refine iff_of_false ?_ (hword backend)
    cases capability? word <;> simp [backend?]

/-- There are two devices. -/
theorem Backend.eq_of_isGpu_of_ne {first second other : Backend} (hother : other.IsGpu)
    (hfirst : first.IsGpu) (hsecond : second.IsGpu) (hne : first ≠ second)
    (h : other ≠ second) : other = first := by
  cases first <;> cases second <;> cases other <;> simp_all

namespace Target

/-! ### Words -/

/-- The words of a string: what stands between its dashes and is not empty, without the blanks
at the two ends of the string. -/
def words (s : String) : List String := tokens (Text.trim s.toList)

/-- Among the words are the names of two devices. The second device is the one whose name stands
behind the other's when it comes for the first time. -/
structure Conflicts (words : List String) (first second : Backend) : Prop where
  isGpu : first.IsGpu ∧ second.IsGpu
  ne : first ≠ second
  order : ∃ before after, words = before ++ second.name :: after ∧
    first.name ∈ before ∧ second.name ∉ before

/-- The backend that words ask for: a device if it is named, else the host. -/
def requested (words : List String) : Backend :=
  if "cuda" ∈ words then .cuda else if "metal" ∈ words then .metal else .cpu

section Words

variable {s : String} {words : List String} {backend first second : Backend}

/-- Two devices are asked for exactly if both are named. -/
theorem exists_conflicts_iff :
    (∃ first second, Conflicts words first second) ↔ "cuda" ∈ words ∧ "metal" ∈ words := by
  constructor
  · rintro ⟨first, second, ⟨hfirst, hsecond⟩, hne, before, after, rfl, hmem, -⟩
    have hearlier : first.name ∈ before ++ second.name :: after := List.mem_append_left _ hmem
    have hlater : second.name ∈ before ++ second.name :: after := by simp
    cases first <;> cases second <;> simp_all [Backend.name]
  · rintro ⟨hcuda, hmetal⟩
    obtain ⟨before, after, rfl, hbefore⟩ := List.eq_append_cons_of_mem hmetal
    by_cases hfirst : "cuda" ∈ before
    · exact ⟨.cuda, .metal, by simp, by simp, before, after, rfl, hfirst, hbefore⟩
    · -- The name of the other device stands behind this one, and somewhere for the first time.
      have hafter : "cuda" ∈ after := by simpa [hfirst] using hcuda
      obtain ⟨between, rest, rfl, hbetween⟩ := List.eq_append_cons_of_mem hafter
      refine ⟨.metal, .cuda, by simp, by simp, before ++ "metal" :: between, rest, ?_, ?_, ?_⟩
      · simp [Backend.name]
      · simp [Backend.name]
      · simp [Backend.name, hfirst, hbetween]

/-- What words choose is what they name. -/
theorem chooses_map_ofToken_iff :
    Chooses (words.map Feature.ofToken) backend ↔
      (∀ other : Backend, other.IsGpu → other.name ∈ words → other = backend) ∧
        (backend.IsGpu → backend.name ∈ words) := by
  constructor
  · rintro ⟨honly, hgiven⟩
    refine ⟨fun other hother hmem => ?_, fun hgpu => ?_⟩
    · exact honly _ (List.mem_map_of_mem hmem) other (Feature.backend?_ofToken.mpr ⟨hother, rfl⟩)
    · obtain ⟨feature, hfeature, hchosen⟩ := hgiven hgpu
      obtain ⟨word, hword, rfl⟩ := List.mem_map.mp hfeature
      obtain ⟨-, rfl⟩ := Feature.backend?_ofToken.mp hchosen
      exact hword
  · rintro ⟨honly, hgiven⟩
    refine ⟨fun feature hfeature other hchosen => ?_, fun hgpu => ?_⟩
    · obtain ⟨word, hword, rfl⟩ := List.mem_map.mp hfeature
      obtain ⟨hother, rfl⟩ := Feature.backend?_ofToken.mp hchosen
      exact honly other hother hword
    · exact ⟨_, List.mem_map_of_mem (hgiven hgpu), Feature.backend?_ofToken.mpr ⟨hgpu, rfl⟩⟩

theorem chooses_map_ofToken_iff_requested :
    Chooses (words.map Feature.ofToken) backend ↔
      ¬ ("cuda" ∈ words ∧ "metal" ∈ words) ∧ backend = requested words := by
  have hall {p : Backend → Prop} : (∀ other, p other) ↔ p .cpu ∧ p .cuda ∧ p .metal :=
    ⟨fun h => ⟨h _, h _, h _⟩, fun ⟨hcpu, hcuda, hmetal⟩ other => by cases other <;> assumption⟩
  rw [chooses_map_ofToken_iff, hall, requested]
  by_cases hcuda : "cuda" ∈ words <;> by_cases hmetal : "metal" ∈ words <;>
    cases backend <;> simp [Backend.name, hcuda, hmetal]

/-- The choice fails at the first name of a second device. -/
theorem foldlM_chooseBackend_eq_error_iff :
    (words.map Feature.ofToken).foldlM chooseBackend .cpu =
        .error (.conflictingBackends first second) ↔
      Conflicts words first second := by
  have hstep {chosen : Backend} {word : String} :
      chooseBackend chosen (Feature.ofToken word) = .error (.conflictingBackends first second) ↔
        chosen = first ∧ first.IsGpu ∧ first ≠ second ∧ second.IsGpu ∧ word = second.name := by
    rw [← Feature.backend?_ofToken]
    cases hchosen : (Feature.ofToken word).backend? with
    | none => simp [chooseBackend_of_none hchosen]
    | some requested =>
      rw [chooseBackend_of_some hchosen]
      by_cases hallowed : chosen = .cpu ∨ chosen = requested
      · rw [if_pos hallowed]
        simp only [reduceCtorEq, Option.some.injEq, false_iff]
        rintro ⟨rfl, hgpu, hne, rfl⟩
        exact hallowed.elim hgpu hne
      · obtain ⟨hcpu, hne⟩ := not_or.mp hallowed
        rw [if_neg hallowed]
        simp only [Except.error.injEq, TargetError.conflictingBackends.injEq, Option.some.injEq]
        constructor
        · rintro ⟨rfl, rfl⟩
          exact ⟨rfl, hcpu, hne, rfl⟩
        · rintro ⟨rfl, -, -, rfl⟩
          exact ⟨rfl, rfl⟩
  rw [List.foldlM_map, foldlM_eq_error_iff]
  simp only [hstep]
  constructor
  · rintro ⟨before, word, after, _, hsplit, hbefore, rfl, hfirst, hne, hsecond, rfl⟩
    rw [← List.foldlM_map, foldlM_chooseBackend_cpu_eq_ok_iff, chooses_map_ofToken_iff] at hbefore
    obtain ⟨honly, hgiven⟩ := hbefore
    refine ⟨⟨hfirst, hsecond⟩, hne, before, after, hsplit, hgiven hfirst, fun hmem => ?_⟩
    exact hne (honly second hsecond hmem).symm
  · rintro ⟨⟨hfirst, hsecond⟩, hne, before, after, hsplit, hmem, hnew⟩
    refine ⟨before, second.name, after, first, hsplit, ?_, rfl, hfirst, hne, hsecond, rfl⟩
    rw [← List.foldlM_map, foldlM_chooseBackend_cpu_eq_ok_iff, chooses_map_ofToken_iff]
    refine ⟨fun other hother hname => ?_, fun _ => hmem⟩
    refine Backend.eq_of_isGpu_of_ne hother hfirst hsecond hne ?_
    rintro rfl
    exact hnew hname

end Words

/-! ### Outcomes of reading -/

/-- Leaving out repetitions keeps the first of equal features. -/
theorem collect_eq_eraseDups (features : List Feature) : collect features = features.eraseDups := by
  -- From the right: a feature is compared with all those that stand before it.
  induction features using List.reverseRecOn with
  | nil => rfl
  | append_singleton features last ih =>
    have hstep : collect (features ++ [last]) = addFeature (collect features) last := by
      simp [collect]
    have hmem : last ∈ collect features ↔ last ∈ features := mem_collect
    rw [hstep, addFeature, List.eraseDups_append, ← ih]
    by_cases h : last ∈ features <;> simp [hmem, h, List.removeAll, List.eraseDups_cons]

section Outcomes

variable {s : String} {target : Target} {first second : Backend}

/-- The backend and the features of a string that is not blank are read from its words. -/
theorem parse_of_visible (visible : Text.trim s.toList ≠ []) :
    parse s = ((words s).map Feature.ofToken).foldlM chooseBackend .cpu >>= fun backend =>
      .ok ⟨backend, ((words s).map Feature.ofToken).eraseDups⟩ := by
  rw [parse, if_neg (by simpa using visible), foldlM_addToken, ← collect_eq_eraseDups]
  rfl

theorem parse_of_blank (blank : Text.trim s.toList = []) : parse s = .error .empty := by
  rw [parse, if_pos (by simpa using blank)]

theorem words_of_blank (blank : Text.trim s.toList = []) : words s = [] := by
  rw [words, blank]
  rfl

theorem trim_ne_nil_iff :
    Text.trim s.toList ≠ [] ↔ ∃ c ∈ s.toList, Text.isBlank c = false := by
  simp [Text.trim_eq_nil_iff]

/-- Only a blank string is refused as empty. -/
theorem parse_eq_empty_iff :
    parse s = .error .empty ↔ ∀ c ∈ s.toList, Text.isBlank c = true := by
  rw [← Text.trim_eq_nil_iff]
  refine ⟨fun h => ?_, parse_of_blank⟩
  by_contra visible
  rw [parse_of_visible visible, bind_eq_error_iff, foldlM_eq_error_iff] at h
  obtain ⟨_, feature, _, chosen, -, -, hfault⟩ | ⟨_, -, hfault⟩ := h
  · -- The choice of a backend has no other fault than a conflict.
    rw [chooseBackend] at hfault
    split at hfault
    · cases hfault
    · split at hfault <;> cases hfault
  · cases hfault

/-- A string is refused for a conflict exactly if its words ask for two devices. -/
theorem parse_eq_conflict_iff :
    parse s = .error (.conflictingBackends first second) ↔ Conflicts (words s) first second := by
  by_cases blank : Text.trim s.toList = []
  · rw [parse_of_blank blank, words_of_blank blank]
    exact iff_of_false (by simp) fun ⟨_, _, _, _, hsplit, _, _⟩ => by simp at hsplit
  · rw [parse_of_visible blank, bind_eq_error_iff, ← foldlM_chooseBackend_eq_error_iff]
    simp

/-- A string is a target exactly if it is not blank and its words do not ask for two devices. -/
theorem parse_eq_ok_iff_words :
    parse s = .ok target ↔
      (∃ c ∈ s.toList, Text.isBlank c = false) ∧ ¬ ("cuda" ∈ words s ∧ "metal" ∈ words s) ∧
        target = ⟨requested (words s), ((words s).map Feature.ofToken).eraseDups⟩ := by
  rw [← trim_ne_nil_iff]
  by_cases blank : Text.trim s.toList = []
  · simp [parse_of_blank blank, blank]
  · rw [parse_of_visible blank, bind_eq_ok_iff]
    simp only [foldlM_chooseBackend_cpu_eq_ok_iff, chooses_map_ofToken_iff_requested,
      Except.ok.injEq]
    constructor
    · rintro ⟨_, ⟨halone, rfl⟩, rfl⟩
      exact ⟨blank, halone, rfl⟩
    · rintro ⟨-, halone, rfl⟩
      exact ⟨_, ⟨halone, rfl⟩, rfl⟩

end Outcomes

/-! ### The invariant of targets -/

/-- The features differ from each other, and the one that chooses a device is among them exactly
if it is the device of the backend. -/
structure IsConsistent (target : Target) : Prop where
  distinct : target.features.Nodup
  cuda_iff : .cuda ∈ target.features ↔ target.backend = .cuda
  metal_iff : .metal ∈ target.features ↔ target.backend = .metal

/-- The target of a backend with some more features, one after the other. -/
def build (backend : Backend) (features : List Feature) : Target :=
  features.foldl withFeature (ofBackend backend)

section Invariant

variable {target : Target} {feature : Feature} {backend : Backend} {features : List Feature}

/-- A target is consistent exactly if its features are distinct and choose its backend. -/
theorem isConsistent_iff_isCoherent : target.IsConsistent ↔ target.IsCoherent := by
  constructor
  · rintro ⟨distinct, hcuda, hmetal⟩
    refine ⟨distinct, fun feature hfeature other hchosen => ?_, fun hgpu => ?_⟩
    · cases feature with
      | cuda => exact Option.some.inj (hchosen.symm.trans (congrArg some (hcuda.mp hfeature).symm))
      | metal =>
        exact Option.some.inj (hchosen.symm.trans (congrArg some (hmetal.mp hfeature).symm))
      | _ => cases hchosen
    · cases hbackend : target.backend with
      | cpu => exact absurd hbackend hgpu
      | cuda => exact ⟨.cuda, hcuda.mpr hbackend, rfl⟩
      | metal => exact ⟨.metal, hmetal.mpr hbackend, rfl⟩
  · rintro ⟨distinct, honly, hgiven⟩
    refine ⟨distinct, ⟨fun h => (honly .cuda h .cuda rfl).symm, fun h => ?_⟩,
      ⟨fun h => (honly .metal h .metal rfl).symm, fun h => ?_⟩⟩
    · obtain ⟨feature, hfeature, hchosen⟩ := hgiven (by simp [h])
      simp_all [Feature.ofBackend?]
    · obtain ⟨feature, hfeature, hchosen⟩ := hgiven (by simp [h])
      simp_all [Feature.ofBackend?]

theorem isConsistent_ofBackend (backend : Backend) : (ofBackend backend).IsConsistent := by
  cases backend <;> exact ⟨by decide, by decide, by decide⟩

/-- One more feature stands behind all others. -/
theorem features_prefix_withFeature (target : Target) (feature : Feature) :
    target.features <+: (target.withFeature feature).features := by
  rw [withFeature, addFeature]
  split
  · split
    · exact List.prefix_rfl
    · exact List.prefix_append _ _
  · exact List.prefix_rfl

theorem isConsistent_withFeature (h : target.IsConsistent) (feature : Feature) :
    (target.withFeature feature).IsConsistent := by
  rw [withFeature]
  split
  · next hnone =>
    have hcuda : Feature.cuda ≠ feature := by
      rintro rfl
      cases hnone
    have hmetal : Feature.metal ≠ feature := by
      rintro rfl
      cases hnone
    exact ⟨nodup_addFeature h.distinct, by simp [mem_addFeature, hcuda, h.cuda_iff],
      by simp [mem_addFeature, hmetal, h.metal_iff]⟩
  · exact h

theorem isConsistent_foldl_withFeature (h : target.IsConsistent) (features : List Feature) :
    (features.foldl withFeature target).IsConsistent := by
  induction features generalizing target with
  | nil => exact h
  | cons feature rest ih => exact ih (isConsistent_withFeature h feature)

/-- Every target that is built is consistent. -/
theorem isConsistent_build (backend : Backend) (features : List Feature) :
    (build backend features).IsConsistent :=
  isConsistent_foldl_withFeature (isConsistent_ofBackend backend) features

theorem isConsistent_of_parse {s : String} (h : parse s = .ok target) : target.IsConsistent :=
  isConsistent_iff_isCoherent.mpr (isCoherent_of_parse h)

end Invariant

/-- **Reading and building.** A string is refused as empty exactly if it is blank, and for a
conflict exactly if both devices are among its words: the error names first the one that comes
first. Every other string is the target with the features of its words, where repetitions are
left out. Targets that are read or built are consistent, and building only adds features behind
those that are there. -/
theorem parse_decided_and_isConsistent (s : String) :
    (parse s = .error .empty ↔ ∀ c ∈ s.toList, Text.isBlank c = true) ∧
    (∀ first second, parse s = .error (.conflictingBackends first second) ↔
      Conflicts (words s) first second) ∧
    ((∃ first second, Conflicts (words s) first second) ↔
      "cuda" ∈ words s ∧ "metal" ∈ words s) ∧
    (∀ target, parse s = .ok target ↔
      (∃ c ∈ s.toList, Text.isBlank c = false) ∧ ¬ ("cuda" ∈ words s ∧ "metal" ∈ words s) ∧
        target = ⟨requested (words s), ((words s).map Feature.ofToken).eraseDups⟩) ∧
    (∀ target, parse s = .ok target → target.IsConsistent) ∧
    (∀ backend features, (build backend features).IsConsistent) ∧
    ∀ (target : Target) feature, (target.withFeature feature).backend = target.backend ∧
      target.features <+: (target.withFeature feature).features :=
  ⟨parse_eq_empty_iff, fun _ _ => parse_eq_conflict_iff, exists_conflicts_iff,
    fun _ => parse_eq_ok_iff_words, fun _ => isConsistent_of_parse, isConsistent_build,
    fun target feature =>
      ⟨withFeature_backend target feature, features_prefix_withFeature target feature⟩⟩

/-- Two spellings of one capability, and a device behind a word that only contains its name. -/
theorem parse_decided_of_spellings :
    ∃ target,
      parse " metal_2--cuda_capability_061-metal-cuda_capability_61-metal " = .ok target ∧
        target.features = [.other "metal_2", .cudaCapability 61, .metal] ∧
        target.IsConsistent := by
  have accepted : parse " metal_2--cuda_capability_061-metal-cuda_capability_61-metal " =
      .ok ⟨.metal, [.other "metal_2", .cudaCapability 61, .metal]⟩ := by
    decide +kernel
  obtain ⟨-, -, -, -, hconsistent, -, -⟩ := parse_decided_and_isConsistent
    " metal_2--cuda_capability_061-metal-cuda_capability_61-metal "
  exact ⟨_, accepted, rfl, hconsistent _ accepted⟩

end Target

end KernelBridge
