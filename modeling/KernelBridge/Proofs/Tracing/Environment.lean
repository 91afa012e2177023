import KernelBridge.Proofs.Text.Numeral
import KernelBridge.Tracing.Config

/-!
# Configurations of environments

One variable of an environment chooses a preset, and each of four others may replace one part of
it. What a variable gives is a function of its value alone, and a value that gives nothing leaves
the part to the preset. So the variables do not depend on each other, except that JSON takes the
colours away that the preset has.

## Main definitions

* `Tracing.Config.preset` — the configuration that the profile of an environment stands for
* `Tracing.Config.directivesOf`, `Tracing.Config.outputOf`, `Tracing.Config.switchOf`,
  `Tracing.Config.thresholdOf` — what the value of a variable gives, if anything

## Main results

* `Tracing.Config.ofEnvironment_eq` — a configuration part by part
* `Tracing.Config.directivesOf_eq_none_iff`, `Tracing.Config.outputOf_eq_none_iff`,
  `Tracing.Config.thresholdOf_eq_none_iff` — the values that give nothing
* `Tracing.Config.variables_act_independently` — one variable changed
-/

namespace KernelBridge

namespace Environment

variable {env : Environment} {name other : String} {value : Option String}

@[simp] theorem set_self : (env.set name value) name = value := if_pos rfl

theorem set_of_ne (h : other ≠ name) : (env.set name value) other = env other := if_neg h

end Environment

namespace Tracing.Config

/-! ### What a value gives -/

/-- The configuration that the profile of an environment stands for. -/
def preset (env : Environment) (debug : Bool := true) : Config :=
  ofProfile (env profileVariable) debug

/-- Directives, unless they are blank. -/
def directivesOf (value : Option String) : Option String :=
  value.filter fun text => !(Text.trim text.toList).isEmpty

/-- The output of that name. -/
def outputOf (value : Option String) : Option Output := value.bind Output.parse?

/-- Whether timed sections are shown: any value says so, or says that they are not. -/
def switchOf (value : Option String) : Option Bool := value.map isAffirmative

/-- The threshold, if it is a numeral of 64 bits. -/
def thresholdOf (value : Option String) : Option UInt64 :=
  (value.bind fun text => Text.readUnsigned (UInt64.size - 1) text.toList).map UInt64.ofNat

section Given

variable {text : String}

theorem directivesOf_eq_none_iff :
    directivesOf (some text) = none ↔ ∀ c ∈ text.toList, Text.isBlank c = true := by
  rw [← Text.trim_eq_nil_iff]
  simp [directivesOf]

theorem outputOf_eq_none_iff :
    outputOf (some text) = none ↔
      Text.lowered (Text.trimmed text) ∉ ["compact", "pretty", "json"] := by
  rw [outputOf, Option.bind_some, Output.parse?]
  split <;> simp_all

theorem thresholdOf_eq_none_iff :
    thresholdOf (some text) = none ↔ ∀ n < UInt64.size, ¬ Text.Denotes text.toList n := by
  have hlimit (n : Nat) : n ≤ UInt64.size - 1 ↔ n < UInt64.size :=
    Nat.le_sub_one_iff_lt (by decide)
  rw [thresholdOf, Option.map_eq_none_iff, Option.bind_some, Text.readUnsigned_eq_none_iff]
  simp only [hlimit]

end Given

/-! ### Parts of a configuration -/

section Parts

variable (config : Config) (value : Option String)

theorem withDirectives_eq :
    config.withDirectives value =
      { config with directives := (directivesOf value).or config.directives } := by
  cases value with
  | none => rfl
  | some text =>
    rw [withDirectives, directivesOf, Option.filter_some]
    cases (Text.trim text.toList).isEmpty <;> rfl

theorem withPerformance_eq :
    config.withPerformance value =
      { config with performanceTracing := (switchOf value).getD config.performanceTracing } := by
  cases value <;> rfl

theorem withThreshold_eq :
    config.withThreshold value =
      { config with
        performanceThreshold := (thresholdOf value).or config.performanceThreshold } := by
  rw [withThreshold, thresholdOf]
  cases value.bind fun text => Text.readUnsigned (UInt64.size - 1) text.toList <;> rfl

/-- Colours are what the configuration had, unless the output is JSON now. -/
theorem withFormat_eq (plain : config.output = .json → config.ansi = false) :
    config.withFormat value =
      { config with
        output := (outputOf value).getD config.output
        ansi := config.ansi && (outputOf value).getD config.output != .json } := by
  rw [withFormat, ← outputOf]
  cases outputOf value with
  | some output => rfl
  | none =>
    have hansi : (config.ansi && config.output != .json) = config.ansi := by
      by_cases hjson : config.output = .json
      · simp [hjson, plain hjson]
      · simp [hjson]
    simp only [Option.getD_none, hansi]

end Parts

section OfEnvironment

variable (env : Environment) (debug : Bool)

theorem preset_cases :
    preset env debug = desk debug ∨ preset env debug = ci ∨ preset env debug = performance := by
  rw [preset, ofProfile]
  split
  · exact .inr (.inl rfl)
  · exact .inr (.inr rfl)
  · exact .inl rfl

/-- No preset has both JSON and colours. -/
theorem ansi_preset (h : (preset env debug).output = .json) :
    (preset env debug).ansi = false := by
  rcases preset_cases env debug with hpreset | hpreset | hpreset <;> rw [hpreset] at h ⊢
  · cases h
  · rfl
  · rfl

/-- Each part of a configuration is given by one variable, or else by the preset. -/
theorem ofEnvironment_eq :
    ofEnvironment env debug =
      { preset env debug with
        directives := (directivesOf (env directivesVariable)).or (preset env debug).directives
        output := (outputOf (env formatVariable)).getD (preset env debug).output
        ansi := (preset env debug).ansi &&
          (outputOf (env formatVariable)).getD (preset env debug).output != .json
        performanceTracing :=
          (switchOf (env performanceVariable)).getD (preset env debug).performanceTracing
        performanceThreshold :=
          (thresholdOf (env thresholdVariable)).or (preset env debug).performanceThreshold } := by
  have hformat (directives : Option String) :=
    withFormat_eq { preset env debug with directives } (env formatVariable)
      (ansi_preset env debug)
  rw [ofEnvironment, ← preset, withDirectives_eq, hformat, withPerformance_eq, withThreshold_eq]

/-- No other variable chooses the preset. -/
theorem preset_set {name : String} (h : name ≠ profileVariable) (value : Option String) :
    preset (env.set name value) debug = preset env debug := by
  rw [preset, Environment.set_of_ne h.symm, preset]

end OfEnvironment

section Change

variable (env : Environment) (debug : Bool) (value : Option String)

theorem ofEnvironment_set_directives :
    ofEnvironment (env.set directivesVariable value) debug =
      { ofEnvironment env debug with
        directives := (directivesOf value).or (preset env debug).directives } := by
  simp (disch := decide) only [ofEnvironment_eq, preset_set, Environment.set_self,
    Environment.set_of_ne]

theorem ofEnvironment_set_format :
    ofEnvironment (env.set formatVariable value) debug =
      { ofEnvironment env debug with
        output := (outputOf value).getD (preset env debug).output
        ansi := (preset env debug).ansi &&
          (outputOf value).getD (preset env debug).output != .json } := by
  simp (disch := decide) only [ofEnvironment_eq, preset_set, Environment.set_self,
    Environment.set_of_ne]

theorem ofEnvironment_set_performance :
    ofEnvironment (env.set performanceVariable value) debug =
      { ofEnvironment env debug with
        performanceTracing := (switchOf value).getD (preset env debug).performanceTracing } := by
  simp (disch := decide) only [ofEnvironment_eq, preset_set, Environment.set_self,
    Environment.set_of_ne]

theorem ofEnvironment_set_threshold :
    ofEnvironment (env.set thresholdVariable value) debug =
      { ofEnvironment env debug with
        performanceThreshold :=
          (thresholdOf value).or (preset env debug).performanceThreshold } := by
  simp (disch := decide) only [ofEnvironment_eq, preset_set, Environment.set_self,
    Environment.set_of_ne]

end Change

/-- **Variables act independently.** However the library was built, the configuration of an
environment never joins JSON with colours. Another value for the variable with directives changes
the directives alone, and another value for the switch or the threshold that part alone. Another
output changes the output and the colours, of which it leaves those of the preset or none. Blank
directives, an output of no known name and a threshold that is no numeral of 64 bits act as if
their variables were not set. -/
theorem variables_act_independently (env : Environment) (debug : Bool) :
    ((ofEnvironment env debug).output = .json → (ofEnvironment env debug).ansi = false) ∧
    (∀ value, ofEnvironment (env.set directivesVariable value) debug =
      { ofEnvironment env debug with
        directives := (directivesOf value).or (preset env debug).directives }) ∧
    (∀ value, ofEnvironment (env.set formatVariable value) debug =
      { ofEnvironment env debug with
        output := (outputOf value).getD (preset env debug).output
        ansi := (preset env debug).ansi &&
          (outputOf value).getD (preset env debug).output != .json } ∧
      ((ofEnvironment (env.set formatVariable value) debug).ansi = true →
        (ofEnvironment (env.set formatVariable none) debug).ansi = true)) ∧
    (∀ value, ofEnvironment (env.set performanceVariable value) debug =
      { ofEnvironment env debug with
        performanceTracing := (switchOf value).getD (preset env debug).performanceTracing }) ∧
    (∀ value, ofEnvironment (env.set thresholdVariable value) debug =
      { ofEnvironment env debug with
        performanceThreshold := (thresholdOf value).or (preset env debug).performanceThreshold }) ∧
    (∀ text : String, (∀ c ∈ text.toList, Text.isBlank c = true) →
      ofEnvironment (env.set directivesVariable (some text)) debug =
        ofEnvironment (env.set directivesVariable none) debug) ∧
    (∀ text, Text.lowered (Text.trimmed text) ∉ ["compact", "pretty", "json"] →
      ofEnvironment (env.set formatVariable (some text)) debug =
        ofEnvironment (env.set formatVariable none) debug) ∧
    ∀ text : String, (∀ n < UInt64.size, ¬ Text.Denotes text.toList n) →
      ofEnvironment (env.set thresholdVariable (some text)) debug =
        ofEnvironment (env.set thresholdVariable none) debug := by
  refine ⟨?_, ofEnvironment_set_directives env debug, ?_,
    ofEnvironment_set_performance env debug, ofEnvironment_set_threshold env debug, ?_, ?_, ?_⟩
  · intro hjson
    rw [ofEnvironment_eq] at hjson ⊢
    simp [show (outputOf (env formatVariable)).getD (preset env debug).output = .json from hjson]
  · intro value
    refine ⟨ofEnvironment_set_format env debug value, ?_⟩
    rw [ofEnvironment_set_format, ofEnvironment_set_format]
    intro hansi
    -- Colours are left only where the preset has them, and then its output is not JSON.
    obtain ⟨hpreset, -⟩ := Bool.and_eq_true _ _ ▸ hansi
    have hplain : (preset env debug).output ≠ .json := by
      intro hjson
      rw [ansi_preset env debug hjson] at hpreset
      cases hpreset
    simp [outputOf, hpreset, hplain]
  · intro text hblank
    rw [ofEnvironment_set_directives, ofEnvironment_set_directives,
      directivesOf_eq_none_iff.mpr hblank]
    rfl
  · intro text hname
    rw [ofEnvironment_set_format, ofEnvironment_set_format, outputOf_eq_none_iff.mpr hname]
    rfl
  · intro text hnumeral
    rw [ofEnvironment_set_threshold, ofEnvironment_set_threshold,
      thresholdOf_eq_none_iff.mpr hnumeral]
    rfl

/-- With the profile for measurements: directives of one wide space, a name that is not the one
of an output, and a threshold one above the largest of 64 bits. -/
theorem variables_act_independently_of_useless_values :
    let env := Environment.ofList [(profileVariable, "Performance"), (formatVariable, " JSON ")]
    ofEnvironment (env.set directivesVariable (some "\u3000")) =
        ofEnvironment (env.set directivesVariable none) ∧
      ofEnvironment (env.set formatVariable (some "pretty-json")) =
        ofEnvironment (env.set formatVariable none) ∧
      ofEnvironment (env.set thresholdVariable (some "18446744073709551616")) =
        ofEnvironment (env.set thresholdVariable none) ∧
      (ofEnvironment (env.set performanceVariable (some "YES"))).ansi = false := by
  intro env
  obtain ⟨-, -, -, hperformance, -, hdirectives, hformat, hthreshold⟩ :=
    variables_act_independently env true
  have hblank : "\u3000".toList.all Text.isBlank = true := by decide
  refine ⟨hdirectives _ (List.all_eq_true.mp hblank), hformat _ (by decide), hthreshold _ ?_, ?_⟩
  · intro n hn
    have hnone : Text.readUnsigned (UInt64.size - 1) "18446744073709551616".toList = none := by
      decide +kernel
    exact Text.readUnsigned_eq_none_iff.mp hnone n (Nat.le_sub_one_of_lt hn)
  · rw [hperformance]
    decide

end Tracing.Config

end KernelBridge
