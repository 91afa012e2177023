import KernelBridge.Proofs.Target.Reading

/-!
# Targets that are read back from their text

A target is printed with single dashes between its tokens, and reading trims the whole text
before it looks for dashes. So a target is read back from its text exactly if nothing is
trimmed: it has a token, the first token does not begin with a blank, and the last does not
end with one. A string may well be read as a target that is not of this kind, because the
blanks next to its outer dashes are not trimmed.

## Main results

* `Target.parse_text_eq_ok_iff` — which targets are read back from their text
* `Target.parse_text_iff_of_parse` — which strings survive being read, printed and read again
-/

namespace KernelBridge.Target

variable {s : String} {target : Target}

/-- Genuine features are what the tokens of their text mean. -/
theorem meanings_text (genuine : ∀ feature ∈ target.features, feature.IsGenuine) :
    meanings target.text.toList = target.features := by
  have htokens : tokens target.text.toList = target.features.map Feature.token :=
    tokens_intercalate (by simpa using fun feature hmem => (genuine feature hmem).isToken)
  rw [meanings, htokens, List.map_map]
  calc
    target.features.map (Feature.ofToken ∘ Feature.token)
        = target.features.map id :=
          List.map_congr_left fun feature hmem => (genuine feature hmem).read
    _ = target.features := List.map_id _

/-- The text of a target is empty only if it has no features. -/
theorem toList_text_ne_nil (genuine : ∀ feature ∈ target.features, feature.IsGenuine)
    (some : target.features ≠ []) : target.text.toList ≠ [] := by
  intro hempty
  have hmeanings := meanings_text genuine
  rw [hempty] at hmeanings
  exact some hmeanings.symm

/-- **Targets that are read back.** A target is read back from its text if it is coherent,
its features are genuine, and its text is not empty and is not changed by trimming; no other
target is. -/
theorem parse_text_eq_ok_iff :
    parse target.text = .ok target ↔
      target.IsCoherent ∧ (∀ feature ∈ target.features, feature.IsGenuine) ∧
        target.features ≠ [] ∧ Text.IsTrimmed target.text.toList := by
  constructor
  · intro h
    have hgenuine := isGenuine_of_parse h
    -- Whatever is trimmed would be blanks that the text has and its reading gives back.
    have htrim : Text.trim target.text.toList = target.text.toList :=
      Text.trim_eq_self_of_countP_le (countP_text_le_of_parse h)
    refine ⟨isCoherent_of_parse h, hgenuine, ?_, Text.trim_eq_self_iff.mp htrim⟩
    intro hnone
    obtain ⟨hsome, -, -⟩ := parse_eq_ok_iff.mp h
    rw [htrim, text, hnone] at hsome
    exact hsome rfl
  · rintro ⟨hcoherent, hgenuine, hsome, htrimmed⟩
    have htrim := Text.trim_eq_self_iff.mpr htrimmed
    rw [parse_eq_ok_iff, htrim, meanings_text hgenuine]
    refine ⟨toList_text_ne_nil hgenuine hsome, hcoherent.chooses, ?_⟩
    exact (collect_of_nodup hcoherent.distinct).symm

/-- **Round trip.** The target of a string is read back from its text exactly if it has a
token and its text neither begins nor ends with a blank. -/
theorem parse_text_iff_of_parse (accepted : parse s = .ok target) :
    parse target.text = .ok target ↔
      target.features ≠ [] ∧ Text.IsTrimmed target.text.toList := by
  rw [parse_text_eq_ok_iff]
  have hcoherent := isCoherent_of_parse accepted
  have hgenuine := isGenuine_of_parse accepted
  exact ⟨fun h => h.2.2, fun h => ⟨hcoherent, hgenuine, h⟩⟩

/-- A capability in another spelling, a repetition and blanks inside the text do no harm. -/
theorem parse_text_of_spellings :
    ∃ target,
      parse " host--cuda_capability_+061-cuda -cuda_capability_61-user_context " = .ok target ∧
        target.features =
          [.other "host", .cudaCapability 61, .other "cuda ", .userContext] ∧
        parse target.text = .ok target := by
  have accepted :
      parse " host--cuda_capability_+061-cuda -cuda_capability_61-user_context " =
        .ok ⟨.cpu, [.other "host", .cudaCapability 61, .other "cuda ", .userContext]⟩ := by
    decide +kernel
  have untrimmed :
      Text.trim "host-cuda_capability_61-cuda -user_context".toList =
        "host-cuda_capability_61-cuda -user_context".toList := by
    decide +kernel
  refine ⟨_, accepted, rfl, (parse_text_iff_of_parse accepted).mpr ⟨by simp, ?_⟩⟩
  exact Text.trim_eq_self_iff.mp untrimmed

/-- Dashes alone are a target without any text, and a blank after an outer dash is lost at the
second reading, which may even choose another backend. -/
theorem parse_text_of_outer_dashes :
    (parse "-" = .ok ⟨.cpu, []⟩ ∧ parse (text ⟨.cpu, []⟩) = .error .empty) ∧
      (parse "- cuda" = .ok ⟨.cpu, [.other " cuda"]⟩ ∧
        parse (text ⟨.cpu, [.other " cuda"]⟩) = .ok ⟨.cuda, [.cuda]⟩) := by
  decide

end KernelBridge.Target
