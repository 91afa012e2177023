import KernelBridge.Backend
import KernelBridge.Text.Unsigned

/-!
# Target features

A target string is a list of tokens. Some choose the backend or a capability of it; the
others, such as an architecture or the word `host`, are kept as they are.

## Main definitions

* `Feature` — what a token means
* `Feature.ofToken`, `Feature.token` — from a token to its meaning and back
* `Feature.backend?` — the backend that the feature chooses
-/

namespace KernelBridge

/-- One token of a target string. -/
inductive Feature where
  | cuda
  | metal
  /-- Kernels take a leading opaque argument that the runtime hands to its hooks. -/
  | userContext
  | cudaCapability (version : UInt32)
  /-- A token without a meaning here. -/
  | other (token : String)
  deriving DecidableEq, Repr

namespace Feature

/-- What stands before the version in the token of a capability. -/
def capabilityStem : String := "cuda_capability_"

/-- What follows the stem at the head of the text. -/
def afterStem? : (stem text : List Char) → Option (List Char)
  | [], text => some text
  | _ :: _, [] => none
  | s :: stem, c :: text => if c = s then afterStem? stem text else none

/-- The capability that a token names: the stem and a numeral of at most 32 bits. -/
def capability? (token : String) : Option UInt32 := do
  let version ← afterStem? capabilityStem.toList token.toList
  return UInt32.ofNat (← Text.readUnsigned (UInt32.size - 1) version)

/-- The meaning of a token. -/
def ofToken (token : String) : Feature :=
  if token = "cuda" then cuda
  else if token = "metal" then metal
  else if token = "user_context" then userContext
  else
    match capability? token with
    | some version => cudaCapability version
    | none => other token

/-- The token of a feature. -/
def token : Feature → String
  | cuda => "cuda"
  | metal => "metal"
  | userContext => "user_context"
  | cudaCapability version => capabilityStem ++ toString version.toNat
  | other token => token

/-- The backend that the feature chooses. -/
def backend? : Feature → Option Backend
  | cuda => some .cuda
  | metal => some .metal
  | _ => none

/-- The feature that chooses a backend; the host needs none. -/
def ofBackend? : Backend → Option Feature
  | .cpu => none
  | .cuda => some cuda
  | .metal => some metal

@[simp] theorem backend?_eq_some_iff {feature : Feature} {backend : Backend} :
    feature.backend? = some backend ↔ ofBackend? backend = some feature := by
  cases feature <;> cases backend <;> simp [backend?, ofBackend?]

end Feature

end KernelBridge
