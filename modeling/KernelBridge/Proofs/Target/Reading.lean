import Mathlib.Algebra.Order.BigOperators.Group.List
import Mathlib.Algebra.Order.Ring.Nat
import KernelBridge.Proofs.FirstFault
import KernelBridge.Proofs.Target.Feature
import KernelBridge.Target.Basic

/-!
# Reading a target

A target string is read token by token, with the backend, the conflict between backends and
the features so far carried along together. Here the reading falls into its two halves: the
backend depends only on which features occur, and the features are those of the tokens with
every repetition left out.

## Main definitions

* `Target.Chooses` — the features choose a backend, or the host
* `Target.collect` — features with every repetition left out
* `Target.IsCoherent` — distinct features that choose the backend of the target
* `Target.blanks` — the number of blanks in a list of tokens

## Main results

* `Target.tokens_intercalate` — tokens with dashes between them fall apart into themselves
* `Target.parse_eq_ok_iff` — which target a string is read as
* `Target.isCoherent_of_parse`, `Target.isGenuine_of_parse` — what every target that is read
  has in common
* `Target.countP_text_le_of_parse` — reading a string and printing it gains no blanks
-/

namespace KernelBridge.Target

open Feature (IsToken)

/-! ### Tokens -/

section Tokens

variable {text : List Char} {words : List String}

/-- What stands between two dashes has no dash in it. -/
theorem not_mem_of_mem_splitOn {piece : List Char} (h : piece ∈ text.splitOn '-') :
    '-' ∉ piece := by
  rw [List.splitOn_eq_splitOnP] at h
  induction text generalizing piece with
  | nil => simp_all
  | cons c rest ih =>
    rw [List.splitOnP_cons_eq_if_modifyHead] at h
    split_ifs at h with hc
    · rcases List.mem_cons.mp h with rfl | hrest
      · simp
      · exact ih hrest
    · cases hpieces : rest.splitOnP (· == '-') with
      | nil => simp [hpieces] at h
      | cons first others =>
        rw [hpieces] at h ih
        rcases List.mem_cons.mp h with rfl | hother
        · -- The first piece of the rest goes on with this character.
          have hfirst : '-' ∉ first := ih List.mem_cons_self
          simpa using ⟨fun heq => hc (by simp [← heq]), hfirst⟩
        · exact ih (List.mem_cons_of_mem _ hother)

theorem isToken_of_mem_tokens {token : String} (h : token ∈ tokens text) : IsToken token := by
  obtain ⟨piece, hpiece, rfl⟩ := List.mem_map.mp h
  obtain ⟨hsplit, hempty⟩ := List.mem_filter.mp hpiece
  constructor
  · simpa using hempty
  · simpa using not_mem_of_mem_splitOn hsplit

/-- Tokens with dashes between them fall apart into themselves. -/
theorem tokens_intercalate (h : ∀ word ∈ words, IsToken word) :
    tokens ("-".intercalate words).toList = words := by
  cases words with
  | nil => rfl
  | cons word rest =>
    have hdash : ∀ piece ∈ (word :: rest).map String.toList, '-' ∉ piece := by
      simpa using fun other hother => (h other hother).2
    have hfull : ∀ piece ∈ (word :: rest).map String.toList, (!piece.isEmpty) = true := by
      simpa using fun other hother => (h other hother).1
    have hsplit : (['-'].intercalate ((word :: rest).map String.toList)).splitOn '-' =
        (word :: rest).map String.toList :=
      List.splitOn_intercalate '-' hdash (by simp)
    rw [tokens, String.toList_intercalate, show "-".toList = ['-'] from rfl, hsplit,
      List.filter_eq_self.mpr hfull]
    simp [Function.comp_def]

/-- The number of blanks in a list of tokens. -/
def blanks (words : List String) : Nat :=
  (words.map fun word => word.toList.countP Text.isBlank).sum

theorem countP_intercalate (pieces : List (List Char)) :
    (['-'].intercalate pieces).countP Text.isBlank = (pieces.map (·.countP Text.isBlank)).sum := by
  induction pieces with
  | nil => rfl
  | cons piece rest ih =>
    cases rest with
    | nil => simp
    | cons next rest =>
      have hdash : ['-'].countP Text.isBlank = 0 := by decide
      rw [List.intercalate_cons_cons, List.countP_append, List.countP_append, hdash, ih]
      simp

theorem blanks_intercalate (words : List String) :
    ("-".intercalate words).toList.countP Text.isBlank = blanks words := by
  rw [String.toList_intercalate, show "-".toList = ['-'] from rfl, countP_intercalate, blanks,
    List.map_map]
  rfl

/-- The blanks of a text are those of its tokens. -/
theorem blanks_tokens (text : List Char) : blanks (tokens text) = text.countP Text.isBlank := by
  have hempty (pieces : List (List Char)) :
      ((pieces.filter fun piece => !piece.isEmpty).map (·.countP Text.isBlank)).sum =
        (pieces.map (·.countP Text.isBlank)).sum := by
    induction pieces with
    | nil => rfl
    | cons piece rest ih => cases piece <;> simp_all
  have hpieces : ['-'].intercalate (text.splitOn '-') = text := List.intercalate_splitOn '-'
  calc
    blanks (tokens text)
        = ((text.splitOn '-').map (·.countP Text.isBlank)).sum := by
      rw [← hempty, blanks, tokens, List.map_map]
      simp [Function.comp_def]
    _ = (['-'].intercalate (text.splitOn '-')).countP Text.isBlank :=
      (countP_intercalate _).symm
    _ = text.countP Text.isBlank := by rw [hpieces]

end Tokens

/-! ### The features -/

/-- The features with every repetition left out. -/
def collect (features : List Feature) : List Feature := features.foldl addFeature []

section Collect

variable {seen features : List Feature} {feature : Feature}

theorem mem_foldl_addFeature :
    feature ∈ features.foldl addFeature seen ↔ feature ∈ seen ∨ feature ∈ features := by
  induction features generalizing seen with
  | nil => simp
  | cons head rest ih => simp [ih, mem_addFeature, or_assoc]

theorem mem_collect : feature ∈ collect features ↔ feature ∈ features := by
  simp [collect, mem_foldl_addFeature]

theorem nodup_addFeature (h : seen.Nodup) : (addFeature seen feature).Nodup := by
  rw [addFeature]
  split
  · exact h
  · next hnew =>
    have hnew : feature ∉ seen := by simpa using hnew
    exact List.nodup_append.mpr ⟨h, by simp, by rintro other hother _ hlast rfl; simp_all⟩

theorem nodup_foldl_addFeature (h : seen.Nodup) : (features.foldl addFeature seen).Nodup := by
  induction features generalizing seen with
  | nil => exact h
  | cons head rest ih => exact ih (nodup_addFeature h)

theorem nodup_collect (features : List Feature) : (collect features).Nodup :=
  nodup_foldl_addFeature List.nodup_nil

/-- Distinct features are collected as they stand. -/
theorem foldl_addFeature_of_nodup (h : (seen ++ features).Nodup) :
    features.foldl addFeature seen = seen ++ features := by
  induction features generalizing seen with
  | nil => simp
  | cons head rest ih =>
    have hnew : head ∉ seen := fun hmem =>
      (List.nodup_append.mp h).2.2 head hmem head (by simp) rfl
    have hadd : addFeature seen head = seen ++ [head] := by simp [addFeature, hnew]
    rw [List.foldl_cons, hadd, ih (by simpa using h)]
    simp

theorem collect_of_nodup (h : features.Nodup) : collect features = features :=
  foldl_addFeature_of_nodup (by simpa using h)

/-- Leaving features out makes no sum over them larger. -/
theorem sum_foldl_addFeature_le (weight : Feature → Nat) :
    ((features.foldl addFeature seen).map weight).sum ≤
      (seen.map weight).sum + (features.map weight).sum := by
  induction features generalizing seen with
  | nil => simp
  | cons head rest ih =>
    have hadd : ((addFeature seen head).map weight).sum ≤ (seen.map weight).sum + weight head := by
      rw [addFeature]
      split <;> simp
    calc
      ((rest.foldl addFeature (addFeature seen head)).map weight).sum
          ≤ ((addFeature seen head).map weight).sum + (rest.map weight).sum := ih
      _ ≤ (seen.map weight).sum + ((head :: rest).map weight).sum := by
        simp only [List.map_cons, List.sum_cons]
        omega

end Collect

/-! ### The backend -/

/-- Every feature that chooses a backend chooses this one, and the host is only chosen by
default. -/
structure Chooses (features : List Feature) (backend : Backend) : Prop where
  only : ∀ feature ∈ features, ∀ other, feature.backend? = some other → other = backend
  given : backend ≠ .cpu → ∃ feature ∈ features, feature.backend? = some backend

section Choose

variable {features : List Feature} {feature : Feature} {chosen backend : Backend}

theorem backend?_ne_some_cpu (feature : Feature) : feature.backend? ≠ some .cpu := by
  cases feature <;> simp [Feature.backend?]

theorem chooseBackend_of_none (h : feature.backend? = none) :
    chooseBackend chosen feature = .ok chosen := by
  rw [chooseBackend, h]

theorem chooseBackend_of_some {requested : Backend} (h : feature.backend? = some requested) :
    chooseBackend chosen feature =
      if chosen = .cpu ∨ chosen = requested then .ok requested
      else .error (.conflictingBackends chosen requested) := by
  rw [chooseBackend, h]
  cases chosen <;> simp

/-- The choice depends on which features occur, not on how often or in which order. -/
theorem foldlM_chooseBackend_eq_ok_iff :
    features.foldlM chooseBackend chosen = .ok backend ↔
      (∀ feature ∈ features, ∀ other, feature.backend? = some other → other = backend) ∧
        (chosen = backend ∨
          chosen = .cpu ∧ ∃ feature ∈ features, feature.backend? = some backend) := by
  induction features generalizing chosen with
  | nil => simp [pure, Except.pure]
  | cons head rest ih =>
    rw [List.foldlM_cons, List.forall_mem_cons, List.exists_mem_cons_iff]
    cases hhead : head.backend? with
    | none =>
      rw [chooseBackend_of_none hhead]
      change rest.foldlM chooseBackend chosen = _ ↔ _
      rw [ih]
      simp
    | some requested =>
      have hgpu : requested ≠ .cpu := fun hcpu => backend?_ne_some_cpu head (hcpu ▸ hhead)
      rw [chooseBackend_of_some hhead]
      split_ifs with hallowed
      · -- From here on the choice is made, and the rest has to agree with it.
        change rest.foldlM chooseBackend requested = _ ↔ _
        rw [ih]
        simp only [hgpu, false_and, or_false, Option.some.injEq, forall_eq']
        constructor
        · rintro ⟨hrest, rfl⟩
          exact ⟨⟨rfl, hrest⟩, hallowed.symm.imp_right fun hcpu => ⟨hcpu, .inl rfl⟩⟩
        · rintro ⟨⟨hrequested, hrest⟩, -⟩
          exact ⟨hrest, hrequested⟩
      · obtain ⟨hcpu, hother⟩ := not_or.mp hallowed
        change Except.error _ = _ ↔ _
        simp only [reduceCtorEq, Option.some.injEq, forall_eq', hcpu, false_and, or_false,
          false_iff]
        rintro ⟨⟨rfl, -⟩, hchosen⟩
        exact hother hchosen

theorem foldlM_chooseBackend_cpu_eq_ok_iff :
    features.foldlM chooseBackend .cpu = .ok backend ↔ Chooses features backend := by
  rw [foldlM_chooseBackend_eq_ok_iff]
  constructor
  · rintro ⟨honly, hchosen⟩
    refine ⟨honly, fun hgpu => ?_⟩
    rcases hchosen with hcpu | ⟨-, hgiven⟩
    · exact absurd hcpu.symm hgpu
    · exact hgiven
  · rintro ⟨honly, hgiven⟩
    refine ⟨honly, ?_⟩
    by_cases hcpu : .cpu = backend
    · exact .inl hcpu
    · exact .inr ⟨rfl, hgiven fun h => hcpu h.symm⟩

theorem Chooses.congr {others : List Feature} (h : Chooses features backend)
    (same : ∀ feature, feature ∈ others ↔ feature ∈ features) : Chooses others backend where
  only feature hmem := h.only feature ((same feature).mp hmem)
  given hgpu :=
    let ⟨feature, hmem, hchooses⟩ := h.given hgpu
    ⟨feature, (same feature).mpr hmem, hchooses⟩

end Choose

/-! ### What a string is read as -/

/-- The backend and the features of the tokens do not depend on each other. -/
theorem foldlM_addToken {words : List String} {chosen : Backend} {seen : List Feature} :
    words.foldlM addToken ⟨chosen, seen⟩ =
      (words.map Feature.ofToken).foldlM chooseBackend chosen >>= fun backend =>
        .ok ⟨backend, (words.map Feature.ofToken).foldl addFeature seen⟩ := by
  induction words generalizing chosen seen with
  | nil => rfl
  | cons word rest ih =>
    rw [List.foldlM_cons, List.map_cons, List.foldlM_cons, addToken]
    cases chooseBackend chosen (Feature.ofToken word) with
    | error => rfl
    | ok backend => exact ih

/-- What the tokens of a text mean, in order. -/
def meanings (text : List Char) : List Feature := (tokens text).map Feature.ofToken

section Parse

variable {s : String} {target : Target}

/-- A string that is not all blanks is read as the one target with the features that its
tokens mean and the backend that these choose. -/
theorem parse_eq_ok_iff :
    parse s = .ok target ↔
      Text.trim s.toList ≠ [] ∧ Chooses (meanings (Text.trim s.toList)) target.backend ∧
        target.features = collect (meanings (Text.trim s.toList)) := by
  rw [parse]
  by_cases hempty : Text.trim s.toList = []
  · simp [hempty]
  · have hsome : (Text.trim s.toList).isEmpty = false := by simpa using hempty
    simp only [hsome, Bool.false_eq_true, if_false, foldlM_addToken]
    rw [FirstFault.bind_eq_ok_iff, ← meanings]
    simp only [foldlM_chooseBackend_cpu_eq_ok_iff, Except.ok.injEq]
    constructor
    · rintro ⟨backend, hchooses, rfl⟩
      exact ⟨hempty, hchooses, rfl⟩
    · rintro ⟨-, hchooses, hfeatures⟩
      exact ⟨target.backend, hchooses, by rw [← collect, ← hfeatures]⟩

/-- Distinct features that choose the backend of the target. -/
structure IsCoherent (target : Target) : Prop where
  distinct : target.features.Nodup
  chooses : Chooses target.features target.backend

theorem isCoherent_of_parse (h : parse s = .ok target) : target.IsCoherent := by
  obtain ⟨-, hchooses, hfeatures⟩ := parse_eq_ok_iff.mp h
  constructor
  · rw [hfeatures]
    exact nodup_collect _
  · rw [hfeatures]
    exact hchooses.congr fun feature => mem_collect

theorem isGenuine_of_parse (h : parse s = .ok target) :
    ∀ feature ∈ target.features, feature.IsGenuine := by
  obtain ⟨-, -, hfeatures⟩ := parse_eq_ok_iff.mp h
  intro feature hmem
  rw [hfeatures, mem_collect] at hmem
  obtain ⟨token, htoken, rfl⟩ := List.mem_map.mp hmem
  exact Feature.isGenuine_ofToken (isToken_of_mem_tokens htoken)

/-- Reading a string and printing it gains no blanks. -/
theorem countP_text_le_of_parse (h : parse s = .ok target) :
    target.text.toList.countP Text.isBlank ≤ (Text.trim s.toList).countP Text.isBlank := by
  obtain ⟨-, -, hfeatures⟩ := parse_eq_ok_iff.mp h
  let weight (feature : Feature) : Nat := feature.token.toList.countP Text.isBlank
  calc
    target.text.toList.countP Text.isBlank
        = (target.features.map weight).sum := by
      rw [text, blanks_intercalate, blanks, List.map_map]
      rfl
    _ ≤ ((meanings (Text.trim s.toList)).map weight).sum := by
      rw [hfeatures, collect]
      have hsum := @sum_foldl_addFeature_le [] (meanings (Text.trim s.toList)) weight
      simpa using hsum
    _ ≤ blanks (tokens (Text.trim s.toList)) := by
      rw [meanings, blanks, List.map_map]
      exact List.sum_le_sum fun word _ => Feature.countP_token_ofToken_le word
    _ = (Text.trim s.toList).countP Text.isBlank := blanks_tokens _

end Parse

end KernelBridge.Target
