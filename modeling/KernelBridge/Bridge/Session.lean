import KernelBridge.Bridge.Error
import KernelBridge.Bridge.Registry
import KernelBridge.Tracing.Performance

/-!
# Sessions

All work with the registry happens in a session. It changes what is registered, calls back
into programs and streams, and reports events; a device that does not match may end the
process in the middle of it.

## Main definitions

* `Bridge.Call` — one call back into a program
* `Bridge.State` — what a session changes
* `Bridge.Session` — a computation in a session
* `Bridge.report`, `Bridge.callBack` — the two ways in which a session is seen from outside

## Main results

* `Bridge.Session.bind_of_ok`, `Bridge.Session.bind_of_error` — a sequence of two computations
  by the result of the first
-/

namespace KernelBridge.Bridge

/-- The hooks that a kernel runtime has setters for. -/
inductive RuntimeSlot where
  | acquireContext
  | releaseContext
  | getStream
  deriving DecidableEq, Repr

/-- One call back into the program that uses the bridge. -/
inductive Call where
  /-- A foreign hook or cleanup, for the device of a user context. -/
  | handler (label : String) (device : Option Int32)
  | askedForDevice (stream : String)
  | askedForQueue (stream : String)
  | committed (stream : String) (flush : Bool)
  /-- Work was handed over to the serial queue of a stream. -/
  | serialBegun (stream : String)
  | serialEnded (stream : String)
  | runtimeSetter (slot : RuntimeSlot)
  deriving DecidableEq, Repr

/-- What a session changes. -/
structure State where
  registry : Registry := {}
  /-- The hooks of a kernel runtime that offers setters only: those that its setters were given
  last, as a setter keeps what it is given and does nothing else. -/
  runtime : CudaHooks := {}
  performance : Tracing.Performance := {}
  /-- What was reported, in order. -/
  log : List Tracing.Event := []
  /-- What was called back, in order. -/
  calls : List Call := []

/-- The process has been ended. -/
structure Aborted where
  cause : Error
  deriving DecidableEq, Repr

/-- A computation in a session. -/
abbrev Session := EStateM Aborted State

namespace State

/-- The state after some more events have been reported. -/
def logged (state : State) (events : List Tracing.Event) : State :=
  { state with log := state.log ++ events }

/-- The state after one more call back. -/
def called (state : State) (call : Call) : State :=
  { state with calls := state.calls ++ [call] }

section Fields

variable (state : State) (events : List Tracing.Event) (call : Call)

@[simp] theorem registry_logged : (state.logged events).registry = state.registry := rfl

@[simp] theorem performance_logged :
    (state.logged events).performance = state.performance := rfl

@[simp] theorem calls_logged : (state.logged events).calls = state.calls := rfl

@[simp] theorem registry_called : (state.called call).registry = state.registry := rfl

@[simp] theorem performance_called :
    (state.called call).performance = state.performance := rfl

@[simp] theorem logged_nil : state.logged [] = state := by simp [logged]

@[simp] theorem logged_logged (more : List Tracing.Event) :
    (state.logged events).logged more = state.logged (events ++ more) := by
  simp [logged]

end Fields

end State

/-- Reports an event. -/
def report (event : Tracing.Event) : Session Unit :=
  modify fun state => state.logged [event]

/-- Reports events in order. -/
def reportAll (events : List Tracing.Event) : Session Unit :=
  modify fun state => state.logged events

/-- Calls back into the program. -/
def callBack (call : Call) : Session Unit :=
  modify fun state => state.called call

/-- What is registered. -/
def registry : Session Registry := return (← get).registry

/-- Changes what is registered. -/
def changeRegistry (f : Registry → Registry) : Session Unit :=
  modify fun state => { state with registry := f state.registry }

/-! ### What the computations do to a state -/

namespace Session

variable {α β : Type} {first : Session α} {next : α → Session β} {start left : State}

@[simp] theorem pure_apply (a : α) (state : State) :
    (pure a : Session α) state = .ok a state := rfl

@[simp] theorem report_apply (event : Tracing.Event) (state : State) :
    report event state = .ok () (state.logged [event]) := rfl

@[simp] theorem reportAll_apply (events : List Tracing.Event) (state : State) :
    reportAll events state = .ok () (state.logged events) := rfl

@[simp] theorem callBack_apply (call : Call) (state : State) :
    callBack call state = .ok () (state.called call) := rfl

@[simp] theorem registry_apply (state : State) : registry state = .ok state.registry state := rfl

/-- A computation that returns hands its value and its state on. -/
theorem bind_of_ok {a : α} (h : first start = .ok a left) :
    (first >>= next) start = next a left := by
  change EStateM.bind first next start = _
  rw [EStateM.bind, h]

/-- A computation that ends the process is the end of the sequence. -/
theorem bind_of_error {cause : Aborted} (h : first start = .error cause left) :
    (first >>= next) start = .error cause left := by
  change EStateM.bind first next start = _
  rw [EStateM.bind, h]

end Session

end KernelBridge.Bridge
