import KernelBridge.Target.Feature

/-!
# Targets

A target is a backend together with the features it was asked for with. It is written as
a string of tokens with dashes between them, such as `host-cuda-user_context`.

## Main definitions

* `Target` — a backend and distinct features in the order of the tokens
* `Target.ofBackend`, `Target.withFeature` — building a target step by step
* `Target.parse` — the target of a string
* `Target.text` — the string of a target
-/

namespace KernelBridge

/-- A backend and the features it was asked for with. -/
structure Target where
  backend : Backend
  features : List Feature
  deriving DecidableEq, Repr

/-- Why a string names no target. -/
inductive TargetError where
  | empty
  | conflictingBackends (first second : Backend)
  deriving DecidableEq, Repr

def TargetError.message : TargetError → String
  | .empty => "empty target string"
  | .conflictingBackends first second =>
    "target requests more than one GPU backend: " ++ first.name ++ " and " ++ second.name

namespace Target

/-- The target of a backend on the host, with no other feature. -/
def ofBackend (backend : Backend) : Target :=
  ⟨backend, .other "host" :: (Feature.ofBackend? backend).toList⟩

/-- The host alone. -/
def host : Target := ofBackend .cpu

instance : Inhabited Target := ⟨host⟩

/-- Whether the target has the feature. -/
def has (target : Target) (feature : Feature) : Bool := target.features.contains feature

/-- The features with one more at their end, unless it is among them. -/
def addFeature (features : List Feature) (feature : Feature) : List Feature :=
  if features.contains feature then features else features ++ [feature]

/-- The target with one more feature. Features that choose a backend change nothing. -/
def withFeature (target : Target) (feature : Feature) : Target :=
  if feature.backend?.isNone then
    { target with features := addFeature target.features feature }
  else target

/-- The backend chosen so far, after one more feature. -/
def chooseBackend (chosen : Backend) (feature : Feature) : Except TargetError Backend :=
  match feature.backend? with
  | none => .ok chosen
  | some requested =>
    if chosen.IsGpu ∧ chosen ≠ requested then .error (.conflictingBackends chosen requested)
    else .ok requested

/-- The target after one more token. -/
def addToken (target : Target) (token : String) : Except TargetError Target := do
  let feature := Feature.ofToken token
  let backend ← chooseBackend target.backend feature
  return ⟨backend, addFeature target.features feature⟩

/-- The tokens of a target string: what stands between dashes and is not empty. -/
def tokens (text : List Char) : List String :=
  ((text.splitOn '-').filter fun token => !token.isEmpty).map String.ofList

/-- The target of a string. Blanks around the string are dropped. -/
def parse (text : String) : Except TargetError Target :=
  let trimmed := Text.trim text.toList
  if trimmed.isEmpty then .error .empty
  else (tokens trimmed).foldlM addToken ⟨.cpu, []⟩

/-- The string of a target: its tokens with dashes between them. -/
def text (target : Target) : String := "-".intercalate (target.features.map Feature.token)

@[simp] theorem has_iff {target : Target} {feature : Feature} :
    target.has feature = true ↔ feature ∈ target.features := by
  simp [has]

theorem mem_addFeature {features : List Feature} {feature added : Feature} :
    feature ∈ addFeature features added ↔ feature ∈ features ∨ feature = added := by
  rw [addFeature]
  split
  · next h =>
    have h : added ∈ features := by simpa using h
    exact ⟨Or.inl, fun hmem => hmem.elim id fun heq => heq ▸ h⟩
  · simp

theorem withFeature_backend (target : Target) (feature : Feature) :
    (target.withFeature feature).backend = target.backend := by
  rw [withFeature]; split <;> rfl

end Target

end KernelBridge
