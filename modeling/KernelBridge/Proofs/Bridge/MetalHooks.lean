import KernelBridge.Bridge.Metal

/-!
# What the Metal hooks answer

Every Metal hook of the bridge begins by looking for the stream of its user context. There is
none for a call on the host; there may be one to which no table leads; or it is reached, and
then the hooks answer with what the stream gives out. Here it is said for each of the three
what the hooks answer and which calls back they make. They change nothing but the log.

Before a kernel runs, the host's work is committed from the serial queue of the stream. The
stream is looked for again there, so that the answer depends on what the queue does in between.

## Main definitions

* `Session.Returns`, `Session.Aborts` — how a computation ends that leaves the registry alone,
  and which calls back it makes
* `HostStream.KeepsBridges`, `HostStream.RunsWorkOnce` — what a serial queue may do
* `Metal.AnswersForHost`, `Metal.AnswersWithoutTable`, `Metal.AnswersForStream` — the answers of
  the hooks in the three cases

## Main results

* `returns_dispatchSync` — work is called back for as often as the serial queue runs it
* `metalHooks_answer` — one of the three cases holds, whatever is registered
-/

namespace KernelBridge.Bridge

/-! ### Computations by their calls back -/

/-- The state after some more events and calls back. -/
def State.after (state : State) (events : List Tracing.Event) (calls : List Call) : State :=
  { state.logged events with calls := state.calls ++ calls }

section After

variable (state : State) (events : List Tracing.Event) (calls : List Call)

@[simp] theorem State.registry_after : (state.after events calls).registry = state.registry := rfl

@[simp] theorem State.after_nil : state.after [] [] = state := by
  simp [after, logged]

@[simp] theorem State.after_after (moreEvents : List Tracing.Event) (moreCalls : List Call) :
    (state.after events calls).after moreEvents moreCalls =
      state.after (events ++ moreEvents) (calls ++ moreCalls) := by
  simp [after, logged]

end After

namespace Session

/-- The computation returns this after these calls back. But for the log the rest of the state
is as it was. -/
def Returns (computation : Session α) (state : State) (a : α) (calls : List Call) : Prop :=
  ∃ events, computation state = .ok a (state.after events calls)

/-- The computation ends the process for this reason after these calls back. -/
def Aborts (computation : Session α) (state : State) (cause : Error) (calls : List Call) : Prop :=
  ∃ events, computation state = .error ⟨cause⟩ (state.after events calls)

variable {α β : Type} {first : Session α} {next : α → Session β} {state : State} {a : α} {b : β}
  {calls more : List Call}

theorem Returns.bind (h : first.Returns state a calls)
    (hnext : ∀ left : State, left.registry = state.registry → (next a).Returns left b more) :
    (first >>= next).Returns state b (calls ++ more) := by
  obtain ⟨events, hfirst⟩ := h
  obtain ⟨others, hothers⟩ := hnext (state.after events calls) rfl
  refine ⟨events ++ others, ?_⟩
  rw [bind_of_ok hfirst, hothers, State.after_after]

theorem Returns.bind_aborts {cause : Error} (h : first.Returns state a calls)
    (hnext : ∀ left : State, left.registry = state.registry → (next a).Aborts left cause more) :
    (first >>= next).Aborts state cause (calls ++ more) := by
  obtain ⟨events, hfirst⟩ := h
  obtain ⟨others, hothers⟩ := hnext (state.after events calls) rfl
  refine ⟨events ++ others, ?_⟩
  rw [bind_of_ok hfirst, hothers, State.after_after]

theorem returns_pure : (pure a : Session α).Returns state a [] :=
  ⟨[], by rw [State.after_nil, pure_apply]⟩

theorem aborts_throw {cause : Error} : (throw ⟨cause⟩ : Session α).Aborts state cause [] :=
  ⟨[], by rw [State.after_nil]; rfl⟩

theorem returns_registry : registry.Returns state state.registry [] :=
  ⟨[], by rw [State.after_nil, registry_apply]⟩

theorem returns_report (event : Tracing.Event) : (report event).Returns state () [] :=
  ⟨[event], by simp [State.after, State.logged]⟩

theorem returns_callBack (call : Call) : (callBack call).Returns state () [call] :=
  ⟨[], by simp [State.after, State.called]⟩

/-- Steps that all leave the registry alone make their calls back one after the other. -/
theorem returns_forM {σ : Type} {steps : List σ} {step : σ → Session Unit}
    {made : σ → List Call}
    (h : ∀ member ∈ steps, ∀ left : State, left.registry = state.registry →
      (step member).Returns left () (made member)) :
    (steps.forM step).Returns state () (steps.flatMap made) := by
  induction steps generalizing state with
  | nil => exact returns_pure
  | cons head rest ih =>
    obtain ⟨hhead, hrest⟩ := List.forall_mem_cons.mp h
    refine (hhead state rfl).bind fun left hleft => ih fun member hmember later hlater => ?_
    exact hrest member hmember later (hlater.trans hleft)

end Session

open Session

/-! ### Streams -/

namespace HostStream

/-- What a stream answers to a question. -/
def handle (stream : HostStream) : StreamQuestion → Handle
  | .device => stream.device
  | .commandQueue => stream.queue

/-- The call back with which a stream is asked. -/
def asked (stream : HostStream) : StreamQuestion → Call
  | .device => .askedForDevice stream.name
  | .commandQueue => .askedForQueue stream.name

/-- Waiting for the stream's serial queue takes down no bridge. -/
def KeepsBridges (stream : HostStream) : Prop :=
  ∀ backend, SerialStep.uninstall backend ∈ stream.serial → backend = .cpu

/-- The serial queue does what the bridge expects of it: it runs the work that is handed over
once, and takes down no bridge. -/
structure RunsWorkOnce (stream : HostStream) : Prop where
  once : stream.serial.count .work = 1
  keeps : stream.KeepsBridges

end HostStream

/-- The calls back of one step of a serial queue, if the work makes these. -/
def SerialStep.made (calls : List Call) : SerialStep → List Call
  | work => calls
  | uninstall _ => []

section Streams

variable {state : State} {stream : HostStream} {work : Session Unit} {calls : List Call}

theorem returns_ask (question : StreamQuestion) :
    (stream.ask question).Returns state (stream.handle question) [stream.asked question] := by
  cases question with
  | device => exact (returns_callBack _).bind fun _ _ => returns_pure
  | commandQueue => exact (returns_callBack _).bind fun _ _ => returns_pure

/-- Steps of a serial queue make the calls back of the work as often as they run it. -/
theorem SerialStep.flatMap_made (steps : List SerialStep) :
    steps.flatMap (SerialStep.made calls) =
      (List.replicate (steps.count .work) calls).flatten := by
  induction steps with
  | nil => rfl
  | cons step rest ih =>
    cases step with
    | work => simp [ih, SerialStep.made, List.replicate_succ]
    | uninstall backend => simp [ih, SerialStep.made]

/-- A serial queue that takes down no bridge makes the calls back of the work as often as it
runs it, between its own first and last one. -/
theorem returns_dispatchSync (keeps : stream.KeepsBridges)
    (hwork : ∀ left : State, left.registry = state.registry → work.Returns left () calls) :
    (stream.dispatchSync work).Returns state ()
      (.serialBegun stream.name
        :: ((List.replicate (stream.serial.count .work) calls).flatten
          ++ [.serialEnded stream.name])) := by
  rw [← SerialStep.flatMap_made]
  refine (returns_callBack _).bind fun begun hbegun =>
    Returns.bind (a := ()) ?_ fun left _ => returns_callBack _
  refine returns_forM fun step hstep left hleft => ?_
  cases step with
  | work => exact hwork left (hleft.trans hbegun)
  | uninstall backend =>
    obtain rfl := keeps backend hstep
    exact returns_report (.bridgeUninstalled .cpu)

end Streams

/-! ### Devices that match -/

section Match

variable {state : State} {requested host : Handle} {policy : MismatchPolicy}

theorem returns_checkDeviceMatch
    (h : policy = .report ∨ requested = .null ∨ requested = host) :
    (checkDeviceMatch requested host policy).Returns state (.ok ()) [] := by
  unfold checkDeviceMatch
  by_cases hmatch : (requested.isNull || requested == host) = true
  · rw [if_pos hmatch]
    exact returns_pure
  · -- Another device is let through only if the policy is to report it.
    obtain rfl : policy = .report := h.resolve_right (by simpa using hmatch)
    rw [if_neg hmatch]
    exact (returns_report _).bind fun _ _ => returns_pure

theorem returns_checkDeviceMatch_error (hnull : requested ≠ .null) (hother : requested ≠ host) :
    (checkDeviceMatch requested host .abort).Returns state
      (.error (.deviceMismatch requested host)) [] := by
  unfold checkDeviceMatch
  rw [if_neg (by simp [hnull, hother])]
  exact (returns_report _).bind fun _ _ => returns_pure

end Match

/-! ### The hooks -/

namespace Metal

section Hooks

variable {user : Option UserContext} {state : State}

/-- Without places to write to, nothing is looked for. -/
theorem returns_acquireContext_unwritable :
    (acquireContext user false).Returns state (.invalidArgument, none) [] :=
  returns_pure

/-! #### A call on the host -/

/-- The answers for a call on the host: no device, no queue, and no calls back. -/
structure AnswersForHost (user : Option UserContext) (state : State) : Prop where
  acquireContext : (acquireContext user true).Returns state (.success, some (.null, .null)) []
  defaultDevice : (defaultDevice user).Returns state .null []
  newCommandQueue : ∀ requested, (newCommandQueue requested user).Returns state .null []
  preRun : (preRun user).Returns state () []

theorem returns_hostStream_none (h : user.bind UserContext.hostStream? = none) :
    (hostStream user).Returns state (.ok none) [] := by
  rw [hostStream, h]
  exact returns_pure

theorem answersForHost (h : user.bind UserContext.hostStream? = none) :
    AnswersForHost user state where
  acquireContext := (returns_hostStream_none h).bind fun _ _ =>
    (returns_report _).bind fun _ _ => returns_pure
  defaultDevice := (returns_hostStream_none h).bind fun _ _ => returns_pure
  newCommandQueue _ := (returns_hostStream_none h).bind fun _ _ => returns_pure
  preRun := (returns_hostStream_none h).bind fun _ _ => returns_pure

/-! #### A stream that is not reached -/

/-- The answers if no table leads to the stream: acquiring fails with the status -2 and writes
nothing, and the other hooks answer as on the host. -/
structure AnswersWithoutTable (user : Option UserContext) (state : State) : Prop where
  acquireContext : ∃ status : HookStatus, status.code = -2 ∧
    (acquireContext user true).Returns state (status, none) []
  defaultDevice : (defaultDevice user).Returns state .null []
  newCommandQueue : ∀ requested, (newCommandQueue requested user).Returns state .null []
  preRun : (preRun user).Returns state () []

section WithoutTable

variable {stream : HostStream} (h : user.bind UserContext.hostStream? = some stream)
  (htable : state.registry.streamTable = none)

include h htable

theorem returns_hostStream_error : (hostStream user).Returns state (.error .notInstalled) [] := by
  rw [hostStream, h]
  refine returns_registry.bind fun left _ => ?_
  rw [htable]
  exact (returns_report _).bind fun _ _ => returns_pure

theorem answersWithoutTable : AnswersWithoutTable user state where
  acquireContext :=
    ⟨.notInstalled, by decide, (returns_hostStream_error h htable).bind fun _ _ => returns_pure⟩
  defaultDevice := (returns_hostStream_error h htable).bind fun _ _ => returns_pure
  newCommandQueue _ := (returns_hostStream_error h htable).bind fun _ _ => returns_pure
  preRun := (returns_hostStream_error h htable).bind fun _ _ => returns_report _

end WithoutTable

/-! #### A stream that is reached -/

/-- The answers if a table leads to the stream: the device and the queue that the stream gives
out through the table. -/
structure AnswersForStream (user : Option UserContext) (state : State) (table : StreamTable)
    (stream : HostStream) : Prop where
  acquireContext : (acquireContext user true).Returns state
    (.success, some (stream.handle table.device, stream.handle table.commandQueue))
    [stream.asked table.device, stream.asked table.commandQueue]
  defaultDevice : (defaultDevice user).Returns state (stream.handle table.device)
    [stream.asked table.device]
  /-- A device is let through under the policy to report, or if it is null or the stream's. -/
  newCommandQueue : ∀ requested,
    state.registry.config.mismatchPolicy = .report ∨ requested = .null ∨
      requested = stream.handle table.device →
    (Metal.newCommandQueue requested user).Returns state (stream.handle table.commandQueue)
      [stream.asked table.device, stream.asked table.commandQueue]
  /-- Any other device ends the process before the stream is asked for its queue. -/
  otherDevice : ∀ requested,
    state.registry.config.mismatchPolicy = .abort → requested ≠ .null →
      requested ≠ stream.handle table.device →
    (Metal.newCommandQueue requested user).Aborts state
      (.deviceMismatch requested (stream.handle table.device)) [stream.asked table.device]
  /-- The queue for the default device is the one that is acquired. -/
  queueOfDefaultDevice :
    (do Metal.newCommandQueue (← Metal.defaultDevice user) user : Session Handle).Returns state
      (stream.handle table.commandQueue)
      [stream.asked table.device, stream.asked table.device, stream.asked table.commandQueue]
  /-- The host's work is committed once, without a flush, from within the serial queue. -/
  preRun : stream.RunsWorkOnce → (preRun user).Returns state ()
    [.serialBegun stream.name, .committed stream.name (table.commitFlag false),
      .serialEnded stream.name]

section Reached

variable {stream : HostStream} {table : StreamTable}
  (h : user.bind UserContext.hostStream? = some stream)
  (htable : state.registry.streamTable = some table)

include h htable

theorem returns_hostStream_some :
    (hostStream user).Returns state (.ok (some (table, stream))) [] := by
  rw [hostStream, h]
  refine returns_registry.bind fun left _ => ?_
  rw [htable]
  exact returns_pure

theorem returns_acquireContext :
    (acquireContext user true).Returns state
      (.success, some (stream.handle table.device, stream.handle table.commandQueue))
      [stream.asked table.device, stream.asked table.commandQueue] := by
  refine (returns_hostStream_some h htable).bind fun _ _ => ?_
  refine (returns_ask _).bind fun _ _ => (returns_ask _).bind fun _ _ => ?_
  exact (returns_report _).bind fun _ _ => returns_pure

theorem returns_defaultDevice :
    (defaultDevice user).Returns state (stream.handle table.device)
      [stream.asked table.device] :=
  (returns_hostStream_some h htable).bind fun _ _ => returns_ask _

theorem returns_newCommandQueue {requested : Handle}
    (matching : state.registry.config.mismatchPolicy = .report ∨ requested = .null ∨
      requested = stream.handle table.device) :
    (newCommandQueue requested user).Returns state (stream.handle table.commandQueue)
      [stream.asked table.device, stream.asked table.commandQueue] := by
  refine (returns_hostStream_some h htable).bind fun found hfound => ?_
  refine (returns_ask _).bind fun asked hasked => returns_registry.bind fun known _ => ?_
  rw [← hfound, ← hasked] at matching
  exact (returns_checkDeviceMatch matching).bind fun _ _ => returns_ask _

theorem aborts_newCommandQueue {requested : Handle}
    (policy : state.registry.config.mismatchPolicy = .abort) (hnull : requested ≠ .null)
    (hother : requested ≠ stream.handle table.device) :
    (newCommandQueue requested user).Aborts state
      (.deviceMismatch requested (stream.handle table.device)) [stream.asked table.device] := by
  refine (returns_hostStream_some h htable).bind_aborts fun found hfound => ?_
  refine (returns_ask _).bind_aborts fun asked hasked =>
    returns_registry.bind_aborts fun known _ => ?_
  rw [hasked, hfound, policy]
  refine (returns_checkDeviceMatch_error hnull hother).bind_aborts fun _ _ => ?_
  exact (returns_report _).bind_aborts fun _ _ => aborts_throw

theorem returns_queueOfDefaultDevice :
    (do newCommandQueue (← defaultDevice user) user : Session Handle).Returns state
      (stream.handle table.commandQueue)
      [stream.asked table.device, stream.asked table.device,
        stream.asked table.commandQueue] := by
  refine (returns_defaultDevice h htable).bind fun left hleft => ?_
  rw [← hleft] at htable
  exact returns_newCommandQueue h htable (.inr (.inr rfl))

theorem returns_commitQueued :
    (commitQueued user).Returns state ()
      [.committed stream.name (table.commitFlag false)] :=
  (returns_hostStream_some h htable).bind fun _ _ => returns_callBack _

/-- The host's work is committed as often as the serial queue runs the work that is handed
over: the stream is still reached there. -/
theorem returns_preRun (keeps : stream.KeepsBridges) :
    (preRun user).Returns state ()
      (.serialBegun stream.name
        :: ((List.replicate (stream.serial.count .work)
              [.committed stream.name (table.commitFlag false)]).flatten
          ++ [.serialEnded stream.name])) := by
  refine (returns_hostStream_some h htable).bind fun found hfound => ?_
  refine (returns_report _).bind fun begun hbegun => ?_
  refine returns_dispatchSync keeps fun left hleft => returns_commitQueued h ?_
  rw [hleft, hbegun, hfound, htable]

theorem answersForStream : AnswersForStream user state table stream where
  acquireContext := returns_acquireContext h htable
  defaultDevice := returns_defaultDevice h htable
  newCommandQueue _ := returns_newCommandQueue h htable
  otherDevice _ := aborts_newCommandQueue h htable
  queueOfDefaultDevice := returns_queueOfDefaultDevice h htable
  preRun serial := by
    have hcommits := returns_preRun h htable serial.keeps
    rwa [serial.once] at hcommits

end Reached

end Hooks

end Metal

/-- **Answers of the Metal hooks.** Whatever is registered, the hooks answer for the host if the
user context names no stream, as without a table if no table leads to the stream, and for the
stream otherwise. Without places to write to, a context is never acquired. -/
theorem metalHooks_answer (user : Option UserContext) (state : State) :
    (∃ status : HookStatus, status.code = -1 ∧
      (Metal.acquireContext user false).Returns state (status, none) []) ∧
    match user.bind UserContext.hostStream?, state.registry.streamTable with
    | none, _ => Metal.AnswersForHost user state
    | some _, none => Metal.AnswersWithoutTable user state
    | some stream, some table => Metal.AnswersForStream user state table stream := by
  refine ⟨⟨.invalidArgument, by decide, Metal.returns_acquireContext_unwritable⟩, ?_⟩
  cases hstream : user.bind UserContext.hostStream? with
  | none => exact Metal.answersForHost hstream
  | some stream =>
    cases htable : state.registry.streamTable with
    | none => exact Metal.answersWithoutTable hstream htable
    | some table => exact Metal.answersForStream hstream htable

/-- A table that gives out the queue for the device, under the policy to abort: the stream's own
device is refused, and what the table gives out for it is let through. -/
theorem metalHooks_answer_exchanged :
    let stream : HostStream := ⟨"s", ⟨0xd0⟩, ⟨0xc0⟩, [.uninstall .cpu, .work]⟩
    let user : Option UserContext := some (.metal 3 (some stream))
    let state : State :=
      { registry := { streamTable := some ⟨.commandQueue, .device, id⟩, config := .strict } }
    (Metal.newCommandQueue ⟨0xd0⟩ user).Aborts state (.deviceMismatch ⟨0xd0⟩ ⟨0xc0⟩)
        [.askedForQueue "s"] ∧
      (Metal.newCommandQueue ⟨0xc0⟩ user).Returns state ⟨0xd0⟩
        [.askedForQueue "s", .askedForDevice "s"] ∧
      (Metal.preRun user).Returns state ()
        [.serialBegun "s", .committed "s" false, .serialEnded "s"] := by
  intro stream user state
  have answers : Metal.AnswersForStream user state ⟨.commandQueue, .device, id⟩ stream :=
    (metalHooks_answer user state).2
  have serial : stream.RunsWorkOnce := ⟨by decide, by simp [HostStream.KeepsBridges, stream]⟩
  exact ⟨answers.otherDevice _ rfl (by decide) (by decide),
    answers.newCommandQueue _ (.inr (.inr rfl)), answers.preRun serial⟩

end KernelBridge.Bridge
