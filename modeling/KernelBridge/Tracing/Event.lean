import KernelBridge.Backend
import KernelBridge.Bridge.Config
import KernelBridge.Handle

/-!
# Events

Everything the library reports about its own work, in the order in which it happens.
Durations are left out: they differ from run to run.

## Main definitions

* `Tracing.Event` — what can be reported
* `Tracing.Record` — an event as a subscriber sees it
* `Tracing.Event.record` — the severity, message and fields of an event
-/

namespace KernelBridge.Tracing

/-- How severe an event is, from the most verbose level on. -/
inductive Level where
  | trace
  | debug
  | info
  | warn
  | error
  deriving DecidableEq, Repr

/-- The level as a subscriber writes it. -/
def Level.name : Level → String
  | trace => "TRACE"
  | debug => "DEBUG"
  | info => "INFO"
  | warn => "WARN"
  | error => "ERROR"

/-- The value of a field. -/
inductive FieldValue where
  | text (value : String)
  | number (value : Int)
  deriving DecidableEq, Repr

/-- What a subscriber sees: a new span or an event, with named fields. -/
structure Record where
  isSpan : Bool
  title : String
  level : Level
  fields : List (String × FieldValue)
  deriving DecidableEq, Repr

/-- What the library reports. -/
inductive Event where
  /-- A timed section begins. -/
  | sectionOpened (level : Level) (name : String) (details : List (String × FieldValue))
  /-- A timed section ends, and lasted long enough to be reported. -/
  | sectionComplete
  | blockTimed (operation : String)
  | generationRecorded (backend : Backend) (wrappers sourceBytes : Nat)
  | invocationRecorded (kernel : String) (backend : Backend) (buffers : Nat)
  /-- A kernel on a device takes no user context. -/
  | contextParameterMissing (function : String) (backend : Backend)
  | wrapperEmitted (function : String) (backend : Backend) (buffers : Nat)
  | sourceGenerated (target : String) (wrappers bytes : Nat)
  | bridgeInstalled (backend : Backend)
  | bridgeUninstalled (backend : Backend)
  | runtimeRegistered
  | hookMissing (backend : Backend) (hook : String)
  | flushSkipped
  | cudaContextAcquired (context : Handle)
  | cudaStreamAcquired (stream : Handle)
  | metalContextAcquired (device queue : Handle)
  | streamTableMissing
  | preRunCommitted
  | preRunSkipped
  | devicesDiffer (requested host : Handle) (policy : Bridge.MismatchPolicy)
  | abortingOnMismatch (error : String)
  | kernelInvoked (kernel : String) (backend : Backend) (buffers : Nat)
  | flushUnanswered (kernel : String)
  | callFailed (kernel : String) (backend : Backend) (error : String)
  deriving DecidableEq, Repr

/-- A field with a text. -/
def named (name : String) (value : String) : String × FieldValue := (name, .text value)

/-- A field with a count. -/
def counted (name : String) (value : Nat) : String × FieldValue := (name, .number value)

/-- The field that names a backend. -/
def onBackend (backend : Backend) : String × FieldValue := named "backend" backend.name

/-- An event that is no span. -/
def event (level : Level) (title : String) (fields : List (String × FieldValue)) : Record :=
  ⟨false, title, level, fields⟩

/-- How a subscriber sees an event. -/
def Event.record : Event → Record
  | sectionOpened level name details => ⟨true, "perf", level, named "name" name :: details⟩
  | sectionComplete => event .debug "performance_span_complete" []
  | blockTimed operation => event .trace "timed_block_complete" [named "operation" operation]
  | generationRecorded backend wrappers sourceBytes =>
    event .debug "wrapper_generation" [named "event" "generation", onBackend backend,
      counted "wrappers" wrappers, counted "source_bytes" sourceBytes]
  | invocationRecorded kernel backend buffers =>
    event .debug "kernel_invocation" [named "event" "invocation", named "kernel" kernel,
      onBackend backend, counted "buffers" buffers]
  | contextParameterMissing function backend =>
    event .warn
      "kernel has no user-context parameter; the runtime will not see the host stream"
      [named "function" function, onBackend backend]
  | wrapperEmitted function backend buffers =>
    event .debug "emitting wrapper" [named "function" function, onBackend backend,
      counted "buffers" buffers]
  | sourceGenerated target wrappers bytes =>
    event .info "generated wrapper source" [named "target_string" target,
      counted "wrappers" wrappers, counted "bytes" bytes]
  | bridgeInstalled backend => event .info "context bridge installed" [onBackend backend]
  | bridgeUninstalled backend => event .debug "context bridge uninstalled" [onBackend backend]
  | runtimeRegistered => event .info "cuda bridge registered with kernel runtime setters" []
  | hookMissing backend hook =>
    event .warn "kernel runtime hook dispatched with no bridge installed"
      [onBackend backend, named "hook" hook]
  | flushSkipped => event .debug "no memoization cleanup registered; flush skipped" []
  | cudaContextAcquired context =>
    event .trace "cuda acquire_context" [named "ctx" context.text]
  | cudaStreamAcquired stream => event .trace "cuda get_stream" [named "stream" stream.text]
  | metalContextAcquired device queue =>
    event .trace "metal acquire_context" [named "device" device.text, named "queue" queue.text]
  | streamTableMissing =>
    event .warn "metal user context present but no stream ops are registered" []
  | preRunCommitted => event .trace "metal pre_run commit" []
  | preRunSkipped =>
    event .warn "metal pre_run skipped; queued host work may be ordered after the kernel" []
  | devicesDiffer requested host policy =>
    event .error "devices don't match; the host stream's device is authoritative"
      [named "requested" requested.text, named "host" host.text, named "policy" policy.label]
  | abortingOnMismatch cause => event .error "aborting on device mismatch" [named "err" cause]
  | kernelInvoked kernel backend buffers =>
    event .debug "invoking kernel" [named "kernel" kernel, onBackend backend,
      counted "buffers" buffers]
  | flushUnanswered kernel =>
    event .warn "cache flush requested but no memoization cleanup is registered"
      [named "kernel" kernel]
  | callFailed kernel backend cause =>
    event .error "wrapper call failed" [named "kernel" kernel, onBackend backend,
      named "err" cause]

end KernelBridge.Tracing
