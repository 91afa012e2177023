import KernelBridge.Proofs.Target.Outcome
import KernelBridge.Proofs.Text.Numeral

/-!
# Printing what was read

The text of a target that was read from a string has the words of the string in their order,
without repetitions. Words are printed as they stood, but for one kind: the numeral of a
capability is kept as a number, and a number is printed without a sign and without needless
zeros. Two spellings of one capability are a repetition.

## Main definitions

* `Feature.IsRespelled` — a capability with a numeral that its number is not printed as
* `Feature.respelled` — the word that is printed for a word

## Main results

* `Feature.respelled_eq_self_iff` — the words that are printed as they stood
* `Target.text_of_parse` — what is printed for a string that is read
* `Target.text_keeps_words_iff` — the strings whose words are all printed as they stood
-/

namespace KernelBridge

/-! ### Words in another spelling -/

namespace Feature

/-- The word names a capability, by a numeral with a plus sign or with a needless zero. -/
def IsRespelled (word : String) : Prop :=
  ∃ numeral version, word.toList = capabilityStem.toList ++ numeral ∧
    Text.Denotes numeral version ∧ version < UInt32.size ∧ ¬ Text.IsPlain numeral

/-- The word that is printed for a word. -/
def respelled (word : String) : String := (ofToken word).token

variable {word other : String}

/-- A word names a capability iff it is the stem and a numeral of 32 bits. -/
theorem capability?_eq_some_iff {version : UInt32} :
    capability? word = some version ↔
      ∃ numeral, word.toList = capabilityStem.toList ++ numeral ∧
        Text.Denotes numeral version.toNat := by
  rw [capability?]
  simp only [Option.bind_eq_bind, Option.bind_eq_some_iff, afterStem?_eq_some_iff,
    Text.readUnsigned_eq_some_iff, Option.pure_def, Option.some.injEq]
  constructor
  · rintro ⟨numeral, hword, n, ⟨hnumeral, hsmall⟩, rfl⟩
    have hsize : n < UInt32.size := Nat.lt_of_le_sub_one (by decide) hsmall
    exact ⟨numeral, hword, by rwa [UInt32.toNat_ofNat_of_lt' hsize]⟩
  · rintro ⟨numeral, hword, hnumeral⟩
    exact ⟨numeral, hword, version.toNat, ⟨hnumeral, Nat.le_sub_one_of_lt version.toNat_lt⟩,
      UInt32.ofNat_toNat⟩

/-- A word that names a capability is none of the three words with a meaning of their own. -/
theorem ofToken_of_capability {version : UInt32} (h : capability? word = some version) :
    ofToken word = cudaCapability version := by
  obtain ⟨numeral, hword, -⟩ := capability?_eq_some_iff.mp h
  have hne {short : String} (hshort : short.toList.length < 16) : word ≠ short := by
    rintro rfl
    have hlength := congrArg List.length hword
    rw [List.length_append, show capabilityStem.toList.length = 16 by decide] at hlength
    omega
  rw [ofToken, if_neg (hne (by decide)), if_neg (hne (by decide)), if_neg (hne (by decide)), h]

theorem respelled_of_not_capability (h : capability? word = none) : respelled word = word := by
  rcases ofToken_cases word with hsame | ⟨version, hcapability⟩
  · exact hsame
  · -- A capability is only read where one is named.
    rw [ofToken] at hcapability
    split_ifs at hcapability
    rw [h] at hcapability
    cases hcapability

/-- A word is printed as it stood, unless it is a capability in another spelling. -/
theorem respelled_eq_self_iff : respelled word = word ↔ ¬ IsRespelled word := by
  cases hcapability : capability? word with
  | none =>
    refine iff_of_true (respelled_of_not_capability hcapability) ?_
    rintro ⟨numeral, version, hword, hnumeral, hsize, -⟩
    have hsome : capability? word = some (UInt32.ofNat version) :=
      capability?_eq_some_iff.mpr ⟨numeral, hword, by rwa [UInt32.toNat_ofNat_of_lt' hsize]⟩
    rw [hcapability] at hsome
    cases hsome
  | some version =>
    obtain ⟨numeral, hword, hnumeral⟩ := capability?_eq_some_iff.mp hcapability
    have hprinted : respelled word = word ↔ Nat.toDigits 10 version.toNat = numeral := by
      rw [respelled, ofToken_of_capability hcapability, ← String.toList_inj, hword,
        toList_token_cudaCapability, List.append_cancel_left_eq]
    rw [hprinted, hnumeral.toDigits_eq_iff]
    constructor
    · rintro hplain ⟨numeral', version', hword', -, -, hneedless⟩
      rw [hword, List.append_cancel_left_eq] at hword'
      exact hneedless (hword' ▸ hplain)
    · intro hkept
      by_contra hneedless
      exact hkept ⟨numeral, version.toNat, hword, hnumeral, version.toNat_lt, hneedless⟩

@[simp] theorem respelled_respelled (word : String) : respelled (respelled word) = respelled word :=
  congrArg token (ofToken_token_ofToken word)

/-- Words are printed alike iff they mean the same. -/
theorem respelled_eq_iff : respelled word = respelled other ↔ ofToken word = ofToken other := by
  constructor
  · intro h
    rw [← ofToken_token_ofToken word, ← ofToken_token_ofToken other]
    exact congrArg ofToken h
  · intro h
    exact congrArg token h

theorem isToken_respelled (h : IsToken word) : IsToken (respelled word) :=
  (isGenuine_ofToken h).isToken

end Feature

/-! ### Texts of targets that are read -/

namespace Target

open Feature (respelled IsRespelled IsToken)

/-- Where a function tells the members of a list apart, repetitions may be left out before or
after it. -/
theorem eraseDups_map {α β : Type} [BEq α] [LawfulBEq α] [BEq β] [LawfulBEq β] {f : α → β}
    {xs : List α} (h : ∀ x ∈ xs, ∀ y ∈ xs, f x = f y → x = y) :
    (xs.map f).eraseDups = xs.eraseDups.map f := by
  -- From the right: the last member is compared with all those in front of it.
  induction xs using List.reverseRecOn with
  | nil => rfl
  | append_singleton front last ih =>
    have hfront := ih fun x hx y hy =>
      h x (List.mem_append_left _ hx) y (List.mem_append_left _ hy)
    have hmem : f last ∈ front.map f ↔ last ∈ front := by
      constructor
      · intro hlast
        obtain ⟨x, hx, heq⟩ := List.mem_map.mp hlast
        have hsame := h x (List.mem_append_left _ hx) last (by simp) heq
        exact hsame ▸ hx
      · exact List.mem_map_of_mem
    rw [List.map_append, List.eraseDups_append, List.eraseDups_append, hfront, List.map_append]
    by_cases hlast : last ∈ front <;>
      simp [List.removeAll, hmem, hlast, List.eraseDups_cons]

/-- What is left of equal words once the features of the same meaning are. -/
theorem map_token_eraseDups (words : List String) :
    (words.map Feature.ofToken).eraseDups.map Feature.token =
      (words.map respelled).eraseDups := by
  have hinjective : ∀ x ∈ words.map Feature.ofToken, ∀ y ∈ words.map Feature.ofToken,
      x.token = y.token → x = y := by
    intro x hx y hy heq
    obtain ⟨word, -, rfl⟩ := List.mem_map.mp hx
    obtain ⟨other, -, rfl⟩ := List.mem_map.mp hy
    exact Feature.respelled_eq_iff.mp heq
  rw [← eraseDups_map hinjective, List.map_map]
  rfl

variable {s : String} {target : Target}

theorem isToken_of_mem_words {word : String} (h : word ∈ words s) : IsToken word :=
  isToken_of_mem_tokens h

/-- What is printed for a string that is read: its words as they are spelled, without
repetitions. -/
theorem text_of_parse (accepted : parse s = .ok target) :
    target.text = "-".intercalate ((words s).map respelled).eraseDups := by
  obtain ⟨-, -, rfl⟩ := parse_eq_ok_iff_words.mp accepted
  rw [text, map_token_eraseDups]

/-- Words with dashes between them are told apart by the text that they make up. -/
theorem intercalate_injective {one other : List String} (hone : ∀ word ∈ one, IsToken word)
    (hother : ∀ word ∈ other, IsToken word) (h : "-".intercalate one = "-".intercalate other) :
    one = other := by
  rw [← tokens_intercalate hone, h, tokens_intercalate hother]

/-- **Texts of targets that are read.** The text of a target that a string is read as has the
words of the string in their order, each as it is spelled in print and only once. It has all of
them as they stood, and only repetitions are missing, iff none of them is a capability in another
spelling. -/
theorem text_keeps_words_iff (accepted : parse s = .ok target) :
    target.text = "-".intercalate ((words s).map respelled).eraseDups ∧
      (target.text = "-".intercalate (words s).eraseDups ↔
        ∀ word ∈ words s, ¬ IsRespelled word) := by
  have htext := text_of_parse accepted
  refine ⟨htext, ?_⟩
  simp only [← Feature.respelled_eq_self_iff]
  constructor
  · intro hkept word hword
    have hprinted : ∀ word ∈ ((words s).map respelled).eraseDups, IsToken word := by
      intro word hmem
      obtain ⟨origin, horigin, rfl⟩ := List.mem_map.mp (List.mem_eraseDups.mp hmem)
      exact Feature.isToken_respelled (isToken_of_mem_words horigin)
    have hwords : ∀ word ∈ (words s).eraseDups, IsToken word := fun word hword =>
      isToken_of_mem_words (List.mem_eraseDups.mp hword)
    have hsame := intercalate_injective hprinted hwords (htext.symm.trans hkept)
    have hmem : word ∈ ((words s).map respelled).eraseDups := by
      rw [hsame]
      exact List.mem_eraseDups.mpr hword
    obtain ⟨origin, -, rfl⟩ := List.mem_map.mp (List.mem_eraseDups.mp hmem)
    exact Feature.respelled_respelled origin
  · intro hall
    have hsame : (words s).map respelled = words s :=
      (List.map_congr_left hall).trans (List.map_id _)
    rw [htext, hsame]

/-- Repetitions and needless dashes are left out, and every word is kept as it stood, also a
numeral that names no capability. -/
theorem text_keeps_words_of_repetitions :
    ∃ target, parse " cuda_capability_61--+07-cuda_capability_61-+07- " = .ok target ∧
      target.text = "cuda_capability_61-+07" := by
  have accepted : parse " cuda_capability_61--+07-cuda_capability_61-+07- " =
      .ok ⟨.cpu, [.cudaCapability 61, .other "+07"]⟩ := by
    decide +kernel
  have hwords : words " cuda_capability_61--+07-cuda_capability_61-+07- " =
      ["cuda_capability_61", "+07", "cuda_capability_61", "+07"] := by
    decide +kernel
  have hplain : ∀ word ∈ words " cuda_capability_61--+07-cuda_capability_61-+07- ",
      ¬ IsRespelled word := by
    simp only [hwords, ← Feature.respelled_eq_self_iff]
    decide +kernel
  refine ⟨_, accepted, ?_⟩
  rw [(text_keeps_words_iff accepted).2.mpr hplain, hwords]
  decide +kernel

/-- The zeros of a capability's numeral are lost, and so is a second spelling of it. -/
theorem text_loses_spelling :
    (∃ target, parse "cuda_capability_061" = .ok target ∧
      target.text = "cuda_capability_61" ∧
      target.text ≠ "-".intercalate (words "cuda_capability_061").eraseDups) ∧
    ∃ target, parse "cuda_capability_61-cuda_capability_+61" = .ok target ∧
      target.text = "cuda_capability_61" ∧
      target.text ≠ "-".intercalate (words "cuda_capability_61-cuda_capability_+61").eraseDups := by
  have hzero : parse "cuda_capability_061" = .ok ⟨.cpu, [.cudaCapability 61]⟩ := by decide +kernel
  have hsign : parse "cuda_capability_61-cuda_capability_+61" =
      .ok ⟨.cpu, [.cudaCapability 61]⟩ := by
    decide +kernel
  exact ⟨⟨_, hzero, by decide +kernel, by decide +kernel⟩,
    ⟨_, hsign, by decide +kernel, by decide +kernel⟩⟩

end Target

end KernelBridge
