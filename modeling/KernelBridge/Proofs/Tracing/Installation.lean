import Mathlib.Data.List.Basic
import KernelBridge.Tracing.Config

/-!
# Settings and subscribers

A process has one subscriber at most and one set of performance settings. A configuration with a
valid filter puts its settings in place before it is known whether its subscriber can be
installed. So the settings are not tied to the subscriber: over a sequence of attempts the first
valid configuration gives the subscriber, and the last one gives the settings.

## Main definitions

* `Config.isValid` — the configuration has a filter
* `Process`, `Process.setUp` — a process, and one attempt to install a subscriber in it
* `Process.setUpAll` — attempts one after the other

## Main results

* `Config.install_settings` — when the settings stay as they were, and when they change
* `Process.subscriber_setUpAll`, `Process.settings_setUpAll` — what attempts leave
-/

namespace KernelBridge.Tracing

/-- The largest number stands for no threshold, also if it is given as one. -/
theorem Performance.threshold?_set (enabled : Bool) (threshold : Option UInt64) :
    (set enabled threshold).threshold? = threshold.filter (· != noThreshold) := by
  cases threshold with
  | none => rfl
  | some value =>
    unfold threshold? set
    by_cases hvalue : value = noThreshold <;> simp [hvalue, Option.filter]

namespace Config

/-- The configuration has a filter: it fixes no directives, or valid ones. -/
def isValid (config : Config) : Bool :=
  config.directives.all fun directives => (Filter.parse directives).isSome

section Install

variable {config : Config} {env : Environment} {taken : Bool} {before : Performance}

/-- An environment makes no configuration invalid. -/
theorem filter_eq_error_iff {error : SetupError} : config.filter env = .error error ↔
    config.isValid = false ∧ error = .invalidFilter := by
  unfold filter isValid
  cases config.directives with
  | none => cases (env fallbackVariable).bind Filter.parse <;> simp
  | some directives => cases hparse : Filter.parse directives <;> simp [hparse, eq_comm]

theorem install_of_not_isValid (h : config.isValid = false) :
    config.install env taken before = (.error .invalidFilter, before) := by
  rw [install, subscribe, filter_eq_error_iff.mpr ⟨h, rfl⟩]

theorem install_of_isValid (h : config.isValid = true) : config.install env taken before =
    (if taken then .error .alreadyInstalled else .ok (), config.settings) := by
  cases hfilter : config.filter env with
  | error error =>
    rw [(filter_eq_error_iff.mp hfilter).1] at h
    cases h
  | ok filter => rw [install, subscribe, hfilter]

end Install

/-- **When the settings stay as they were.** An attempt that succeeds leaves the settings of its
configuration. One that fails keeps the settings if the filter is invalid; if the process has a
subscriber already, the configuration's settings are in place all the same, so they are kept only
if they were the same before. -/
theorem install_settings (config : Config) (env : Environment) (taken : Bool)
    (before : Performance) :
    ((config.install env taken before).1 = .ok () →
      (config.install env taken before).2.enabled = config.performanceTracing ∧
        (config.install env taken before).2.threshold? =
          config.performanceThreshold.filter (· != noThreshold)) ∧
    ∀ error, (config.install env taken before).1 = .error error →
      ((config.install env taken before).2 = before ↔
        error = .invalidFilter ∨ config.settings = before) ∧
      (error = .alreadyInstalled →
        taken = true ∧ (config.install env taken before).2 = config.settings) := by
  cases hvalid : config.isValid with
  | false =>
    rw [install_of_not_isValid hvalid]
    refine ⟨fun h => (by cases h), fun error h => ?_⟩
    obtain rfl := Except.error.inj h
    simp
  | true =>
    rw [install_of_isValid hvalid]
    refine ⟨fun _ => ⟨rfl, Performance.threshold?_set _ _⟩, fun error h => ?_⟩
    cases taken with
    | false => cases h
    | true =>
      obtain rfl := Except.error.inj h
      simp

/-- An attempt with an invalid filter, and one that comes too late but changes the settings. -/
theorem install_settings_twice :
    let invalid : Config := { Config.ci with directives := some "[" }
    (invalid.install .empty true {}).1 = .error .invalidFilter ∧
      (invalid.install .empty true {}).2 = {} ∧
      (Config.ci.install .empty true {}).1 = .error .alreadyInstalled ∧
      (Config.ci.install .empty true {}).2 ≠ {} := by
  intro invalid
  have hinvalid : (invalid.install .empty true {}).1 = .error .invalidFilter := by decide +kernel
  have htaken : (Config.ci.install .empty true {}).1 = .error .alreadyInstalled := rfl
  exact ⟨hinvalid, ((install_settings invalid .empty true {}).2 _ hinvalid).1.mpr (.inl rfl),
    htaken, ((install_settings Config.ci .empty true {}).2 _ htaken).1.not.mpr (by decide)⟩

/-- An attempt that fails and changes the settings. -/
theorem settings_of_late_attempt :
    ∃ error, (Config.ci.install .empty true {}).1 = .error error ∧
      (Config.ci.install .empty true {}).2 ≠ {} :=
  ⟨.alreadyInstalled, rfl, by decide⟩

end Config

/-! ### Attempts one after the other -/

/-- A process, as far as tracing is concerned. -/
structure Process where
  /-- The configuration of its subscriber, if it has one. -/
  subscriber : Option Config := none
  settings : Performance := {}

namespace Process

/-- The process after an attempt to install a subscriber. -/
def setUp (process : Process) (attempt : Config × Environment) : Process :=
  let (result, settings) :=
    attempt.1.install attempt.2 process.subscriber.isSome process.settings
  match result with
  | .ok () => ⟨some attempt.1, settings⟩
  | .error _ => { process with settings }

/-- The process after attempts one after the other. -/
def setUpAll (process : Process) (attempts : List (Config × Environment)) : Process :=
  attempts.foldl setUp process

variable {process : Process} {attempt : Config × Environment}

theorem setUp_of_not_isValid (h : attempt.1.isValid = false) : process.setUp attempt = process := by
  rw [setUp, Config.install_of_not_isValid h]

/-- Whoever comes first gives the subscriber, and whoever comes last the settings. -/
theorem setUp_of_isValid (h : attempt.1.isValid = true) :
    process.setUp attempt = ⟨process.subscriber.or (some attempt.1), attempt.1.settings⟩ := by
  rw [setUp, Config.install_of_isValid h]
  cases process.subscriber <;> rfl

/-- The subscriber is that of the first valid configuration. -/
theorem subscriber_setUpAll (process : Process) (attempts : List (Config × Environment)) :
    (process.setUpAll attempts).subscriber =
      process.subscriber.or ((attempts.map Prod.fst).find? Config.isValid) := by
  induction attempts generalizing process with
  | nil => simp [setUpAll]
  | cons attempt rest ih =>
    change ((process.setUp attempt).setUpAll rest).subscriber = _
    rw [ih, List.map_cons, List.find?_cons]
    cases hvalid : attempt.1.isValid with
    | false => rw [setUp_of_not_isValid hvalid]
    | true => rw [setUp_of_isValid hvalid, Option.or_assoc, Option.some_or]

/-- The settings are those of the last valid configuration, whether it gave the subscriber or
not. -/
theorem settings_setUpAll (process : Process) (attempts : List (Config × Environment)) :
    (process.setUpAll attempts).settings =
      ((((attempts.map Prod.fst).filter Config.isValid).getLast?.map Config.settings).getD
        process.settings) := by
  induction attempts generalizing process with
  | nil => rfl
  | cons attempt rest ih =>
    change ((process.setUp attempt).setUpAll rest).settings = _
    rw [ih, List.map_cons]
    cases hvalid : attempt.1.isValid with
    | false => rw [setUp_of_not_isValid hvalid, List.filter_cons_of_neg (by simp [hvalid])]
    | true =>
      rw [setUp_of_isValid hvalid, List.filter_cons_of_pos hvalid, List.getLast?_cons]
      cases ((rest.map Prod.fst).filter Config.isValid).getLast? <;> rfl

end Process

end KernelBridge.Tracing
