import Mathlib.Data.List.Basic
import KernelBridge.Target.Feature
import KernelBridge.Text.Blank

/-!
# Features and their tokens

A feature is printed as a token, and a token is read as a feature. The token of a capability
may be spelled in several ways, with a sign or leading zeros, but all of them are read as the
same feature, and that one is printed in one way.

## Main definitions

* `Feature.IsToken` — a text that can stand between two dashes
* `Feature.IsGenuine` — a feature that is what its own token means

## Main results

* `Feature.ofToken_token_ofToken` — what a token means is printed as a token of that meaning
* `Feature.isGenuine_ofToken` — every token means a genuine feature
* `Feature.countP_token_ofToken_le` — a token is never printed with more blanks than it had
-/

namespace KernelBridge.Feature

/-- The text can stand between two dashes of a target string. -/
def IsToken (token : String) : Prop := token ≠ "" ∧ '-' ∉ token.toList

/-- The feature is what its own token means, and that is one token. -/
structure IsGenuine (feature : Feature) : Prop where
  isToken : IsToken feature.token
  read : ofToken feature.token = feature

/-! ### Capabilities -/

theorem afterStem?_eq_some_iff {stem text rest : List Char} :
    afterStem? stem text = some rest ↔ text = stem ++ rest := by
  induction stem generalizing text with
  | nil => simp [afterStem?]
  | cons s stem ih =>
    cases text with
    | nil => simp [afterStem?]
    | cons c text =>
      by_cases hc : c = s
      · simp [afterStem?, hc, ih]
      · simp [afterStem?, hc]

theorem toList_token_cudaCapability (version : UInt32) :
    (cudaCapability version).token.toList =
      capabilityStem.toList ++ Nat.toDigits 10 version.toNat := by
  rw [token, String.toList_append, Nat.toString_eq_repr, Nat.toList_repr]

/-- The token of a capability is none of the shorter words. -/
theorem token_cudaCapability_ne {version : UInt32} {word : String}
    (short : word.toList.length < 16) : (cudaCapability version).token ≠ word := by
  intro h
  have hstem : capabilityStem.toList.length = 16 := by decide
  have hlength : (cudaCapability version).token.toList.length = word.toList.length := by rw [h]
  rw [toList_token_cudaCapability, List.length_append] at hlength
  omega

theorem capability?_token_cudaCapability (version : UInt32) :
    capability? (cudaCapability version).token = some version := by
  have hstem : afterStem? capabilityStem.toList (cudaCapability version).token.toList =
      some (Nat.toDigits 10 version.toNat) :=
    afterStem?_eq_some_iff.mpr (toList_token_cudaCapability version)
  have hnumeral : Text.readUnsigned (UInt32.size - 1) (Nat.toDigits 10 version.toNat) =
      some version.toNat :=
    Text.readUnsigned_toDigits (Nat.le_sub_one_of_lt version.toNat_lt)
  rw [capability?, hstem, Option.bind_eq_bind, Option.bind_some, hnumeral]
  simp

theorem ofToken_token_cudaCapability (version : UInt32) :
    ofToken (cudaCapability version).token = cudaCapability version := by
  rw [ofToken, if_neg (token_cudaCapability_ne (by decide)),
    if_neg (token_cudaCapability_ne (by decide)), if_neg (token_cudaCapability_ne (by decide)),
    capability?_token_cudaCapability]

/-! ### What a token means -/

/-- A token is one of the three words, or the spelling of a capability, or it stands for
itself. -/
theorem ofToken_cases (token : String) :
    (ofToken token).token = token ∨ ∃ version, ofToken token = cudaCapability version := by
  rw [ofToken]
  split_ifs with hcuda hmetal huser
  · exact .inl hcuda.symm
  · exact .inl hmetal.symm
  · exact .inl huser.symm
  · cases capability? token with
    | some version => exact .inr ⟨version, rfl⟩
    | none => exact .inl rfl

/-- What a token means is printed as a token with that meaning. -/
theorem ofToken_token_ofToken (token : String) :
    ofToken (ofToken token).token = ofToken token := by
  rcases ofToken_cases token with hsame | ⟨version, hcapability⟩
  · rw [hsame]
  · rw [hcapability, ofToken_token_cudaCapability]

theorem isToken_cudaCapability (version : UInt32) :
    IsToken (cudaCapability version).token := by
  constructor
  · exact token_cudaCapability_ne (by decide)
  · intro hdash
    rw [toList_token_cudaCapability, List.mem_append] at hdash
    rcases hdash with hstem | hdigits
    · exact absurd hstem (by decide)
    · have hdigit := Nat.isDigit_of_mem_toDigits (by decide) (by decide) hdigits
      exact absurd hdigit (by decide)

/-- Every token means a genuine feature. -/
theorem isGenuine_ofToken {token : String} (h : IsToken token) : (ofToken token).IsGenuine := by
  refine ⟨?_, ofToken_token_ofToken token⟩
  rcases ofToken_cases token with hsame | ⟨version, hcapability⟩
  · rwa [hsame]
  · rw [hcapability]
    exact isToken_cudaCapability version

/-! ### Blanks in tokens -/

theorem countP_isBlank_cudaCapability (version : UInt32) :
    (cudaCapability version).token.toList.countP Text.isBlank = 0 := by
  have hstem : capabilityStem.toList.countP Text.isBlank = 0 := by decide
  have hdigits : (Nat.toDigits 10 version.toNat).countP Text.isBlank = 0 := by
    apply List.countP_eq_zero.mpr
    intro c hc
    have hdigit := Nat.isDigit_of_mem_toDigits (by decide) (by decide) hc
    simp [Text.isBlank_eq_false_of_isDigit hdigit]
  rw [toList_token_cudaCapability, List.countP_append, hstem, hdigits]

/-- A token is never printed with more blanks than it had. -/
theorem countP_token_ofToken_le (token : String) :
    (ofToken token).token.toList.countP Text.isBlank ≤ token.toList.countP Text.isBlank := by
  rcases ofToken_cases token with hsame | ⟨version, hcapability⟩
  · exact Nat.le_of_eq (by rw [hsame])
  · rw [hcapability, countP_isBlank_cudaCapability]
    exact Nat.zero_le _

end KernelBridge.Feature
