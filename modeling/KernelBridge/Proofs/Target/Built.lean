import KernelBridge.Proofs.Target.Outcome
import KernelBridge.Proofs.Target.RoundTrip

/-!
# Built targets that are read back

A target can be built with any text as one of its tokens: with the name of a device, with a text
that holds dashes, or with none at all. Such a token would be read as something else, and then
the target is not read back from its text. All other targets that are built are, unless the last
token ends with a blank, which is trimmed. The first token, `host`, protects the others from
being trimmed in front.

## Main definitions

* `Feature.IsUninterpreted` — a token that stands for itself
* `Target.IsReadable` — a target without any other token in disguise, and without a blank at the
  end of its text

## Main results

* `Feature.isGenuine_iff` — the features that are what their tokens mean
* `Target.isTrimmed_text_build_iff` — only the end of a built target's text can be trimmed
* `Target.parse_text_build_iff_isReadable` — the built targets that are read back
-/

namespace KernelBridge

namespace Feature

/-- The token has no meaning of its own, and it is one token. -/
structure IsUninterpreted (token : String) : Prop where
  ne_empty : token ≠ ""
  dash_not_mem : '-' ∉ token.toList
  read : ofToken token = .other token

/-- Only a token without a meaning can be in disguise. -/
theorem isGenuine_iff {feature : Feature} :
    feature.IsGenuine ↔ ∀ token, feature = .other token → IsUninterpreted token := by
  constructor
  · rintro ⟨⟨hempty, hdash⟩, read⟩ token rfl
    exact ⟨hempty, hdash, read⟩
  · intro h
    cases feature with
    | other token =>
      obtain ⟨hempty, hdash, read⟩ := h token rfl
      exact ⟨⟨hempty, hdash⟩, read⟩
    | cudaCapability version =>
      exact ⟨isToken_cudaCapability version, ofToken_token_cudaCapability version⟩
    | cuda => exact ⟨⟨by decide, by decide⟩, rfl⟩
    | metal => exact ⟨⟨by decide, by decide⟩, rfl⟩
    | userContext => exact ⟨⟨by decide, by decide⟩, rfl⟩

end Feature

namespace Target

/-- Every token without a meaning stands for itself, and the text does not end with a blank. -/
structure IsReadable (target : Target) : Prop where
  uninterpreted : ∀ token, .other token ∈ target.features → Feature.IsUninterpreted token
  visibleEnd : ∀ c ∈ target.text.toList.getLast?, Text.isBlank c = false

theorem forall_isGenuine_iff {features : List Feature} :
    (∀ feature ∈ features, feature.IsGenuine) ↔
      ∀ token, .other token ∈ features → Feature.IsUninterpreted token := by
  simp only [Feature.isGenuine_iff]
  constructor
  · intro h token hmem
    exact h _ hmem token rfl
  · rintro h _ hmem token rfl
    exact h token hmem

section Build

variable (backend : Backend) (features : List Feature)

/-- What a target is built with stands behind what its backend begins with. -/
theorem features_prefix_build :
    (ofBackend backend).features <+: (build backend features).features := by
  induction features using List.reverseRecOn with
  | nil => exact List.prefix_rfl
  | append_singleton features last ih =>
    rw [build, List.foldl_append]
    exact ih.trans (features_prefix_withFeature _ last)

theorem exists_features_build_eq_cons :
    ∃ rest, (build backend features).features = .other "host" :: rest := by
  obtain ⟨rest, hrest⟩ := features_prefix_build backend features
  exact ⟨_, hrest.symm⟩

/-- The text of a target that is built begins with the letters of `host`, so that only its end
can be trimmed. -/
theorem isTrimmed_text_build_iff :
    Text.IsTrimmed (build backend features).text.toList ↔
      ∀ c ∈ (build backend features).text.toList.getLast?, Text.isBlank c = false := by
  obtain ⟨rest, hrest⟩ := exists_features_build_eq_cons backend features
  have hhead : (build backend features).text.toList.head? = some 'h' := by
    rw [text, hrest, String.toList_intercalate]
    cases rest <;> rfl
  rw [Text.IsTrimmed, hhead]
  refine and_iff_right ?_
  rintro c ⟨⟩
  decide

/-- **Reading a built target.** A target that is built from a backend with any features is read
back from its text exactly if all its tokens without a meaning stand for themselves and the text
does not end with a blank. Otherwise reading its text fails or gives another target. -/
theorem parse_text_build_iff_isReadable :
    (parse (build backend features).text = .ok (build backend features) ↔
      (build backend features).IsReadable) ∧
    (¬ (build backend features).IsReadable →
      (∃ error, parse (build backend features).text = .error error) ∨
        ∃ other, parse (build backend features).text = .ok other ∧
          other ≠ build backend features) := by
  -- Two of the conditions on texts hold of all targets that are built: they are coherent, and
  -- they have a feature.
  have hcoherent := isConsistent_iff_isCoherent.mp (isConsistent_build backend features)
  have hsome : (build backend features).features ≠ [] := by
    obtain ⟨rest, hrest⟩ := exists_features_build_eq_cons backend features
    simp [hrest]
  have hread : parse (build backend features).text = .ok (build backend features) ↔
      (build backend features).IsReadable := by
    rw [parse_text_eq_ok_iff, forall_isGenuine_iff, isTrimmed_text_build_iff]
    constructor
    · rintro ⟨-, huninterpreted, -, hend⟩
      exact ⟨huninterpreted, hend⟩
    · rintro ⟨huninterpreted, hend⟩
      exact ⟨hcoherent, huninterpreted, hsome, hend⟩
  refine ⟨hread, fun hunreadable => ?_⟩
  cases hparsed : parse (build backend features).text with
  | error error => exact .inl ⟨error, rfl⟩
  | ok other =>
    refine .inr ⟨other, rfl, ?_⟩
    rintro rfl
    exact hunreadable (hread.mp hparsed)

end Build

/-- A token that is the name of a device, which is read as the device. -/
theorem parse_text_build_of_disguise :
    ∃ other, parse (build .cpu [.userContext, .other "cuda"]).text = .ok other ∧
      other ≠ build .cpu [.userContext, .other "cuda"] := by
  have hunreadable : ¬ (build .cpu [.userContext, .other "cuda"]).IsReadable := by
    intro hreadable
    have hread := (hreadable.uninterpreted "cuda" (by decide)).read
    exact absurd hread (by decide)
  have haccepted : parse (build .cpu [.userContext, .other "cuda"]).text =
      .ok ⟨.cuda, [.other "host", .userContext, .cuda]⟩ := by
    decide
  rcases (parse_text_build_iff_isReadable .cpu [.userContext, .other "cuda"]).2 hunreadable with
    ⟨error, hrefused⟩ | hother
  · rw [haccepted] at hrefused
    cases hrefused
  · exact hother

end Target

end KernelBridge
