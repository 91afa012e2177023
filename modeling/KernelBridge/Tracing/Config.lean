import KernelBridge.Environment
import KernelBridge.Tracing.Filter
import KernelBridge.Tracing.Performance

/-!
# Tracing configuration

One configuration says which events are shown and how. There are presets for work at a
desk, for continuous integration and for measuring, and environment variables that choose
a preset and change parts of it. Only the preset for a desk depends on how the library was
built; where nothing is said of that, it was built for debugging.

## Main definitions

* `Tracing.Config` — the configuration
* `Tracing.Config.ofEnvironment` — the configuration that an environment asks for
* `Tracing.Config.subscribe` — the filter and the performance settings of a configuration
* `Tracing.Config.install` — the same, for the whole process
-/

namespace KernelBridge.Tracing

/-- How events are written. -/
inductive Output where
  | compact
  | pretty
  | json
  deriving DecidableEq, Repr

/-- The output of a name in any case, blanks around it or not. -/
def Output.parse? (text : String) : Option Output :=
  match Text.lowered (Text.trimmed text) with
  | "compact" => some compact
  | "pretty" => some pretty
  | "json" => some json
  | _ => none

/-- Which moments of a span are shown as events. -/
structure SpanEvents where
  created : Bool := false
  entered : Bool := false
  left : Bool := false
  closed : Bool := false
  deriving DecidableEq, Repr

namespace SpanEvents

/-- No moment at all. -/
def none : SpanEvents := {}

/-- The moment after which a span is not entered again. -/
def close : SpanEvents := { closed := true }

end SpanEvents

/-- What is shown, and how. -/
structure Config where
  /-- The directives of the filter, if they are fixed. -/
  directives : Option String
  /-- The directives to fall back on. -/
  defaultDirective : String
  /-- Show where an event comes from. -/
  includeTargets : Bool
  /-- Use colours. -/
  ansi : Bool
  spanEvents : SpanEvents
  output : Output
  performanceTracing : Bool
  /-- The threshold for all timed sections in microseconds. -/
  performanceThreshold : Option UInt64
  deriving DecidableEq, Repr

/-- Why no subscriber was made. -/
inductive SetupError where
  | invalidFilter
  /-- The process has a subscriber already. -/
  | alreadyInstalled
  deriving DecidableEq, Repr

def SetupError.message : SetupError → String
  | invalidFilter => "invalid tracing directive"
  | alreadyInstalled => "failed to install global tracing subscriber"

namespace Config

/-- For work at a desk: colours, one event on several lines, and timed sections shown by a library
that was built for debugging. -/
def desk (debug : Bool := true) : Config where
  directives := none
  defaultDirective := "info"
  includeTargets := true
  ansi := true
  spanEvents := .none
  output := .pretty
  performanceTracing := debug
  performanceThreshold := none

/-- For continuous integration: JSON, and no timed sections. -/
def ci : Config :=
  { Config.desk with ansi := false, output := .json, performanceTracing := false }

/-- For measuring: JSON, timed sections, spans shown when they close, and more of the library's own
work. -/
def performance : Config :=
  { Config.desk with
    directives := some "torchbridge_codegen=debug,torchbridge_runtime=debug"
    ansi := false
    spanEvents := .close
    output := .json
    performanceTracing := true }

/-! ### Environment variables -/

def profileVariable : String := "TORCHBRIDGE_TRACING_PROFILE"
def directivesVariable : String := "TORCHBRIDGE_TRACING_DIRECTIVES"
def formatVariable : String := "TORCHBRIDGE_TRACING_FORMAT"
def performanceVariable : String := "TORCHBRIDGE_PERF_TRACING"
def thresholdVariable : String := "TORCHBRIDGE_PERF_THRESHOLD_US"

/-- The variable with directives that counts where the configuration fixes none. -/
def fallbackVariable : String := "RUST_LOG"

/-- The preset of a profile's name in any case; without a known name, the one for a desk. -/
def ofProfile (profile : Option String) (debug : Bool := true) : Config :=
  match profile.map Text.lowered with
  | some "ci" => ci
  | some "performance" => performance
  | _ => Config.desk debug

/-- The configuration with the directives of a variable, unless they are blank. -/
def withDirectives (config : Config) : Option String → Config
  | none => config
  | some text =>
    if (Text.trim text.toList).isEmpty then config else { config with directives := some text }

/-- The configuration with the output that a variable names. JSON has no colours. -/
def withFormat (config : Config) (format : Option String) : Config :=
  match format.bind Output.parse? with
  | none => config
  | some output => { config with output, ansi := config.ansi && output != .json }

/-- The values that turn timed sections on. -/
def isAffirmative (text : String) : Bool :=
  Text.sameLetters text "true" || text == "1" || Text.sameLetters text "yes"

/-- The configuration with the switch for timed sections that a variable sets. -/
def withPerformance (config : Config) : Option String → Config
  | none => config
  | some text => { config with performanceTracing := isAffirmative text }

/-- The configuration with the threshold that a variable gives. -/
def withThreshold (config : Config) (threshold : Option String) : Config :=
  match threshold.bind fun text => Text.readUnsigned (UInt64.size - 1) text.toList with
  | none => config
  | some threshold => { config with performanceThreshold := some (UInt64.ofNat threshold) }

/-- The configuration that an environment asks for, of a library that was built for debugging or
not. -/
def ofEnvironment (env : Environment) (debug : Bool := true) : Config :=
  ofProfile (env profileVariable) debug
    |>.withDirectives (env directivesVariable)
    |>.withFormat (env formatVariable)
    |>.withPerformance (env performanceVariable)
    |>.withThreshold (env thresholdVariable)

/-! ### Subscribers -/

/-- The filter of a configuration. Without directives of its own the environment's count if
they are valid, else the default ones. -/
def filter (config : Config) (env : Environment) : Except SetupError Filter :=
  match config.directives with
  | some directives =>
    match Filter.parse directives with
    | some filter => .ok filter
    | none => .error .invalidFilter
  | none =>
    match (env fallbackVariable).bind Filter.parse with
    | some filter => .ok filter
    | none => .ok (Filter.parseLossy config.defaultDirective)

/-- The performance settings of a configuration. -/
def settings (config : Config) : Performance :=
  .set config.performanceTracing config.performanceThreshold

/-- The subscriber of a configuration, and the performance settings afterwards. They stay
as they were if the filter is invalid. -/
def subscribe (config : Config) (env : Environment) (before : Performance) :
    Except SetupError Filter × Performance :=
  match config.filter env with
  | .error error => (.error error, before)
  | .ok filter => (.ok filter, config.settings)

/-- The subscriber of a configuration for the whole process, and the performance settings
afterwards. They are those of the configuration as soon as the filter is valid, also if the
process has a subscriber already. -/
def install (config : Config) (env : Environment) (taken : Bool) (before : Performance) :
    Except SetupError Unit × Performance :=
  match config.subscribe env before with
  | (.error error, after) => (.error error, after)
  | (.ok _, after) => (if taken then .error .alreadyInstalled else .ok (), after)

end Config

end KernelBridge.Tracing
