import KernelBridge.Proofs.Invocation.Answers

/-!
# Kernels that ask, and kernels that call kernels

A kernel is followed here through everything it asks of its runtime and through every call of
another kernel that it makes on the way. Whatever it does in between, and however the calls
are nested, each request is answered for the call whose user context comes with it, as long
as nobody changes what is registered.

## Main definitions

* `Script` — a kernel as the tree of what it does next, by what it has been answered
* `Script.perform` — the tree as a computation, with a record of all requests
* `Script.Behaves` — every request that is made on the way can be answered

## Main results

* `Script.answers_of_behaves` — a script that behaves comes to its end with the right answers
* `Invocation.run_answers` — a call of a kernel that behaves is not ended by any request, and
  the answer to each is that for the device of the call whose user context it comes with
-/

namespace KernelBridge

open Bridge (Session State Registry UserContext Request Answer)

/-! ### Scripts -/

/-- What a kernel does besides asking and calling. It does not change what is registered. -/
structure Effect where
  change : State → State
  keeps : ∀ state, (change state).registry = state.registry

/-- What a kernel does, one thing after the other. User contexts are named by the calls that
handed them over, the innermost first; none stands for the null context. -/
inductive Script where
  | finish (status : Int32) (views : List BufferView)
  | work (effect : Effect) (next : State → Script)
  | ask (passed : Option Nat) (request : Request)
      (next : Except Bridge.Error Answer → Script)
  | invoke (invocation : Invocation) (elapsed : UInt64)
      (kernel : List BufferView → Option UserContext → Script)
      (next : Except Bridge.Error Int32 → Script)

/-- A call that has not ended yet: its device, and the user context that its kernel got. -/
structure Scope where
  device : HostDevice
  user : Option UserContext

/-- The null user context, which belongs to no call. -/
def Scope.null : Scope := ⟨.cpu, none⟩

/-- The call whose user context is passed on. -/
def Scope.find (scopes : List Scope) (passed : Option Nat) : Scope :=
  (passed.bind (scopes[·]?)).getD .null

/-- A request with its answer, and the device of the call whose user context came with it. -/
structure Asked where
  device : HostDevice
  request : Request
  answer : Except Bridge.Error Answer

/-- The request was answered, and the answer is that for the device. -/
def Asked.IsRight (registry : Registry) (asked : Asked) : Prop :=
  asked.answer = .ok (asked.request.answerFor registry asked.device)

/-- All requests of a record were answered, each for its device. -/
def Asked.AllRight (registry : Registry) (record : List Asked) : Prop :=
  ∀ asked ∈ record, asked.IsRight registry

namespace Script

/-- What a kernel returns that has asked more before. -/
def recorded (before : List Asked) (returned : KernelReturn (List Asked)) :
    KernelReturn (List Asked) :=
  { returned with report := before ++ returned.report }

/-- Does what a script says, and reports what was asked on the way. -/
def perform : Script → List Scope → Session (KernelReturn (List Asked))
  | finish status views, _ => return { status, views, report := [] }
  | work effect next, scopes => do
    modify effect.change
    perform (next (← get)) scopes
  | ask passed request next, scopes => do
    let scope := Scope.find scopes passed
    let answer ← request.perform scope.user
    recorded [⟨scope.device, request, answer⟩] <$> perform (next answer) scopes
  | invoke invocation elapsed kernel next, scopes => do
    let outcome ← invocation.run elapsed fun views user =>
      perform (kernel views user) (⟨invocation.device, user⟩ :: scopes)
    recorded (outcome.report.getD []) <$> perform (next outcome.result) scopes

/-- The kernel of a call on a device, which is made inside of other calls. -/
def within (kernel : List BufferView → Option UserContext → Script) (device : HostDevice)
    (scopes : List Scope) : Kernel (List Asked) :=
  fun views user => (kernel views user).perform (⟨device, user⟩ :: scopes)

/-- Every request that the script comes to can be answered for the device of the call whose
user context is passed. Calls inside are followed if their kernels are called at all. -/
def Behaves : Script → List Scope → State → Prop
  | finish _ _, _, _ => True
  | work effect next, scopes, state =>
    (next (effect.change state)).Behaves scopes (effect.change state)
  | ask passed request next, scopes, state =>
    request.Suits state.registry (Scope.find scopes passed).device ∧
      ∀ answer left, request.perform (Scope.find scopes passed).user state = .ok answer left →
        (next answer).Behaves scopes left
  | invoke invocation elapsed kernel next, scopes, state =>
    (∀ views user, invocation.Admits state.registry views user →
      (kernel views user).Behaves (⟨invocation.device, user⟩ :: scopes)
        (invocation.entered state)) ∧
      ∀ outcome left,
        invocation.run elapsed (within kernel invocation.device scopes) state =
            .ok outcome left →
          (next outcome.result).Behaves scopes left

end Script

/-! ### A call whose kernel leaves the registry alone -/

namespace Invocation

variable {α : Type} {invocation : Invocation} {elapsed : UInt64} {kernel : Kernel α}
  {user : Option UserContext} {views : List BufferView} {start state flushed : State}

theorem Flushes.registry_eq (h : invocation.Flushes user state flushed) :
    flushed.registry = state.registry := by
  cases h <;> rfl

/-- What keeps a kernel from being called and what it is called with exclude each other. -/
theorem Admits.not_refusal {error : Bridge.Error}
    (h : invocation.Admits start.registry views user) :
    ¬ invocation.Refusal start.registry error := by
  intro refusal
  have hready := checkPreconditions_eq_ok_iff.mpr h.ready
  rcases (refusal_iff.mp refusal).2 with hfault | ⟨-, hmissing, -⟩
  · rw [hready] at hfault
    cases hfault
  · rw [h.installed] at hmissing
    cases hmissing

/-- A call comes to its end and leaves what is registered as it was if its kernel does. What
the kernel reports is the report of the call. -/
theorem run_of_kernel_keeps {P : α → Prop}
    (kept : ∀ views user, invocation.Admits start.registry views user →
      ∃ returned, (kernel views user).Yields (invocation.entered start) returned ∧
        P returned.report) :
    ∃ outcome, (invocation.run elapsed kernel).Yields start outcome ∧
      (∀ report ∈ outcome.report, P report) ∧
      ∀ views user, invocation.Admits start.registry views user → outcome.report.isSome := by
  have returns {views : List BufferView} {user : Option UserContext}
      {returned : KernelReturn α} {left : State}
      (admits : invocation.Admits start.registry views user)
      (called : kernel views user (invocation.entered start) = .ok returned left) :
      left.registry = start.registry ∧ P returned.report := by
    obtain ⟨other, ⟨final, hreturned, hfinal⟩, hreport⟩ := kept views user admits
    rw [called] at hreturned
    obtain ⟨rfl, rfl⟩ := EStateM.Result.ok.inj hreturned
    exact ⟨hfinal, hreport⟩
  obtain ⟨result, ends⟩ := invocation.exists_ends elapsed kernel start
  have hrun := run_of_ends ends
  cases ends with
  | lacksStream lacks =>
    refine ⟨_, ⟨_, hrun, rfl⟩, by simp, fun views user admits => ?_⟩
    exact absurd lacks admits.lends.not_lacksStream
  | refused refusal =>
    refine ⟨_, ⟨_, hrun, rfl⟩, by simp, fun views user admits => ?_⟩
    exact absurd refusal admits.not_refusal
  | aborted admits called =>
    obtain ⟨returned, ⟨left, hreturned, -⟩, -⟩ := kept _ _ admits
    rw [called] at hreturned
    cases hreturned
  | kernelFailed admits called failed =>
    obtain ⟨hleft, hreport⟩ := returns admits called
    exact ⟨_, ⟨_, hrun, hleft⟩, by simpa using hreport, fun _ _ _ => rfl⟩
  | hostDirty admits called =>
    obtain ⟨hleft, hreport⟩ := returns admits called
    exact ⟨_, ⟨_, hrun, hleft⟩, by simpa using hreport, fun _ _ _ => rfl⟩
  | finished admits called succeeded clean flushes =>
    -- Only here the cleanup may run, and it changes nothing that is registered.
    obtain ⟨hleft, hreport⟩ := returns admits called
    exact ⟨_, ⟨_, hrun, flushes.registry_eq.trans hleft⟩, by simpa using hreport,
      fun _ _ _ => rfl⟩

end Invocation

/-! ### The answers -/

namespace Script

variable {scopes : List Scope} {state : State} {registry : Registry}

/-- The null context is that of the host, and other contexts lend the devices of their calls. -/
theorem lends_find (lends : ∀ scope ∈ scopes, scope.device.Lends scope.user)
    (passed : Option Nat) :
    (Scope.find scopes passed).device.Lends (Scope.find scopes passed).user := by
  rw [Scope.find]
  cases hfound : passed.bind (scopes[·]?) with
  | none => exact .host
  | some scope =>
    obtain ⟨level, -, hlevel⟩ := Option.bind_eq_some_iff.mp hfound
    exact lends scope (List.mem_of_getElem? hlevel)

/-- What was right before stays right with what is recorded on the way. -/
theorem allRight_recorded {before : List Asked} {returned : KernelReturn (List Asked)}
    (hbefore : Asked.AllRight registry before)
    (hreturned : Asked.AllRight registry returned.report) :
    Asked.AllRight registry (recorded before returned).report := by
  intro asked hasked
  rcases List.mem_append.mp hasked with hasked | hasked
  · exact hbefore asked hasked
  · exact hreturned asked hasked

/-- **Answers to a script.** A script that behaves comes to its end, leaves what is registered
as it was, and gets the right answer to every request. -/
theorem answers_of_behaves (script : Script) (scopes : List Scope) (state : State)
    (lends : ∀ scope ∈ scopes, scope.device.Lends scope.user)
    (behaves : script.Behaves scopes state) :
    ∃ returned, (script.perform scopes).Yields state returned ∧
      Asked.AllRight state.registry returned.report := by
  -- A call inside has more scopes than the calls around it, so these are general.
  induction script generalizing scopes state with
  | finish status views => exact ⟨_, Session.yields_pure, by simp [Asked.AllRight]⟩
  | work effect next ih =>
    obtain ⟨returned, ⟨left, hnext, hleft⟩, hright⟩ :=
      ih (effect.change state) scopes (effect.change state) lends behaves
    rw [effect.keeps] at hleft hright
    exact ⟨returned, ⟨left, hnext, hleft⟩, hright⟩
  | ask passed request next ih =>
    obtain ⟨suits, hnext⟩ := behaves
    obtain ⟨left, hasked, hkept⟩ := suits.perform (lends_find lends passed)
    obtain ⟨returned, hreturned, hright⟩ := ih _ scopes left lends (hnext _ left hasked)
    rw [hkept] at hright
    refine ⟨_, Session.yields_bind_of_ok hasked hkept (hreturned.map _),
      allRight_recorded ?_ hright⟩
    simp [Asked.AllRight, Asked.IsRight]
  | invoke invocation elapsed kernel next ihkernel ihnext =>
    obtain ⟨hinside, hnext⟩ := behaves
    have hkernel : ∀ views user, invocation.Admits state.registry views user →
        ∃ returned, (within kernel invocation.device scopes views user).Yields
            (invocation.entered state) returned ∧
          Asked.AllRight state.registry returned.report := by
      intro views user admits
      refine ihkernel views user _ _ ?_ (hinside views user admits)
      exact List.forall_mem_cons.mpr ⟨admits.lends, lends⟩
    obtain ⟨outcome, ⟨left, hran, hkept⟩, hreport, -⟩ :=
      Invocation.run_of_kernel_keeps hkernel
    obtain ⟨returned, hreturned, hright⟩ :=
      ihnext _ scopes left lends (hnext outcome left hran)
    rw [hkept] at hright
    refine ⟨_, Session.yields_bind_of_ok hran hkept (hreturned.map _),
      allRight_recorded ?_ hright⟩
    cases hcalled : outcome.report with
    | none => simp [Asked.AllRight]
    | some report => exact hreport report hcalled

/-- The same for a call whose kernel is a script, made inside of other calls. -/
theorem run_within {invocation : Invocation} {elapsed : UInt64}
    {kernel : List BufferView → Option UserContext → Script}
    (lends : ∀ scope ∈ scopes, scope.device.Lends scope.user)
    (behaves : ∀ views user, invocation.Admits state.registry views user →
      (kernel views user).Behaves (⟨invocation.device, user⟩ :: scopes)
        (invocation.entered state)) :
    ∃ outcome,
      (invocation.run elapsed (within kernel invocation.device scopes)).Yields state outcome ∧
      (∀ report ∈ outcome.report, Asked.AllRight state.registry report) ∧
      ∀ views user, invocation.Admits state.registry views user → outcome.report.isSome := by
  refine Invocation.run_of_kernel_keeps fun views user admits => ?_
  refine answers_of_behaves _ _ _ ?_ (behaves views user admits)
  exact List.forall_mem_cons.mpr ⟨admits.lends, lends⟩

/-! ### Scripts that behave -/

/-- A script that asks for something suitable behaves if it goes on well with the right
answer. -/
theorem behaves_ask {passed : Option Nat} {request : Request}
    {next : Except Bridge.Error Answer → Script}
    (lends : ∀ scope ∈ scopes, scope.device.Lends scope.user)
    (suits : request.Suits state.registry (Scope.find scopes passed).device)
    (hnext : ∀ left : State, left.registry = state.registry →
      (next (.ok (request.answerFor state.registry (Scope.find scopes passed).device))).Behaves
        scopes left) :
    (ask passed request next).Behaves scopes state := by
  refine ⟨suits, fun answer left hasked => ?_⟩
  obtain ⟨other, hright, hkept⟩ := suits.perform (lends_find lends passed)
  rw [hasked] at hright
  obtain ⟨rfl, rfl⟩ := EStateM.Result.ok.inj hright
  exact hnext left hkept

/-- A script that calls a kernel behaves if the kernel does, and if it goes on well however
the call ends. -/
theorem behaves_invoke {invocation : Invocation} {elapsed : UInt64}
    {kernel : List BufferView → Option UserContext → Script}
    {next : Except Bridge.Error Int32 → Script}
    (lends : ∀ scope ∈ scopes, scope.device.Lends scope.user)
    (hkernel : ∀ views user, invocation.Admits state.registry views user →
      (kernel views user).Behaves (⟨invocation.device, user⟩ :: scopes)
        (invocation.entered state))
    (hnext : ∀ result, ∀ left : State, left.registry = state.registry →
      (next result).Behaves scopes left) :
    (invoke invocation elapsed kernel next).Behaves scopes state := by
  refine ⟨hkernel, fun outcome left hran => ?_⟩
  obtain ⟨other, ⟨final, hended, hkept⟩, -⟩ := run_within lends hkernel
  rw [hran] at hended
  obtain ⟨rfl, rfl⟩ := EStateM.Result.ok.inj hended
  exact hnext outcome.result left hkept

end Script

/-- **Answers inside a call.** Whatever a kernel asks of its runtime, and whatever calls it
makes inside, the call comes to its end, leaves what is registered as it was, and every
request on the way is answered for the call whose user context came with it. -/
theorem Invocation.run_answers (invocation : Invocation) (elapsed : UInt64)
    (kernel : List BufferView → Option UserContext → Script) (start : State)
    (behaves : ∀ views user, invocation.Admits start.registry views user →
      (kernel views user).Behaves [⟨invocation.device, user⟩] (invocation.entered start)) :
    ∃ outcome left,
      invocation.run elapsed (Script.within kernel invocation.device []) start =
        .ok outcome left ∧
      left.registry = start.registry ∧
      (∀ views user, invocation.Admits start.registry views user → outcome.report.isSome) ∧
      ∀ report ∈ outcome.report, ∀ asked ∈ report,
        asked.answer = .ok (asked.request.answerFor start.registry asked.device) := by
  obtain ⟨outcome, ⟨left, hran, hkept⟩, hreport, hcalled⟩ :=
    Script.run_within (by simp) behaves
  exact ⟨outcome, left, hran, hkept, hcalled, hreport⟩

/-! ### A Metal call inside of a CUDA call -/

namespace Nested

/-- The device of the inner call. -/
def inner : HostDevice := .metal 3 (some ⟨"s", ⟨0xd0⟩, ⟨0xc0⟩, [.work]⟩)

/-- The call of the CUDA kernel. -/
def outer : Invocation := { kernel := "context", device := .cuda (-1) ⟨0xa0⟩ ⟨0xb0⟩ }

/-- A Metal kernel that asks for a queue of the device that it is told, and then looks at the
stream of the call around its own and at the null context. -/
def queueOfDevice (views : List BufferView) (_user : Option UserContext) : Script :=
  .ask (some 0) .metalDefaultDevice fun
    | .ok (.handle device) =>
      .ask (some 0) (.metalNewCommandQueue device) fun _ =>
        .ask (some 1) (.cudaGetStream .null) fun _ =>
          .ask none (.getDevice .metal) fun _ => .finish 0 views
    | _ => .finish 1 views

/-- A CUDA kernel that calls that one between taking its context and giving it back. -/
def contextAround (views : List BufferView) (_user : Option UserContext) : Script :=
  .ask (some 0) (.cudaAcquireContext true) fun _ =>
    .invoke { kernel := "queue", device := inner } 0 queueOfDevice fun _ =>
      .ask (some 0) .cudaReleaseContext fun _ => .finish 0 views

/-- Both bridges are installed, and another device than the stream's ends the process. -/
def start : State :=
  { registry := { cuda := .bridge, metal := .bridge, streamTable := some {}, config := .strict } }

theorem behaves_queueOfDevice {state : State} {views : List BufferView}
    {user outerUser : Option UserContext} (hstate : state.registry = start.registry)
    (hlends : inner.Lends user) (houter : outer.device.Lends outerUser) :
    (queueOfDevice views user).Behaves [⟨inner, user⟩, ⟨outer.device, outerUser⟩] state := by
  have lends : ∀ scope ∈ ([⟨inner, user⟩, ⟨outer.device, outerUser⟩] : List Scope),
      scope.device.Lends scope.user := by
    simpa using ⟨hlends, houter⟩
  have hmetal : start.registry.Bridged .metal := ⟨rfl, {}, rfl⟩
  have hcuda : start.registry.Bridged .cuda := rfl
  refine Script.behaves_ask lends ⟨by rwa [hstate], .inr rfl, nofun, nofun⟩ fun told htold => ?_
  rw [hstate] at htold ⊢
  refine Script.behaves_ask lends ⟨by rwa [htold], .inr rfl, ?_, nofun⟩ fun made hmade => ?_
  · rintro requested ⟨⟩
    rw [htold]
    exact .inr (.inr rfl)
  rw [htold] at hmade
  refine Script.behaves_ask lends ⟨by rwa [hmade], .inr rfl, nofun, nofun⟩ fun seen hseen => ?_
  rw [hmade] at hseen
  refine Script.behaves_ask lends ⟨by rwa [hseen], .inl rfl, nofun, nofun⟩ fun _ _ => ?_
  trivial

theorem behaves_contextAround {state : State} {views : List BufferView}
    {user : Option UserContext} (hstate : state.registry = start.registry)
    (hlends : outer.device.Lends user) :
    (contextAround views user).Behaves [⟨outer.device, user⟩] state := by
  have lends : ∀ scope ∈ ([⟨outer.device, user⟩] : List Scope),
      scope.device.Lends scope.user := by
    simpa using hlends
  have hcuda : start.registry.Bridged .cuda := rfl
  refine Script.behaves_ask lends ⟨by rwa [hstate], .inr rfl, nofun, nofun⟩ fun taken htaken => ?_
  rw [hstate] at htaken
  refine Script.behaves_invoke lends (fun inside innerUser admits => ?_)
    fun result returned hreturned => ?_
  · exact behaves_queueOfDevice htaken admits.lends hlends
  rw [htaken] at hreturned
  refine Script.behaves_ask lends ⟨by rwa [hreturned], .inr rfl, nofun, nofun⟩ fun _ _ => ?_
  trivial

end Nested

open Nested in
/-- The inner kernel gets its queue although the policy is strict, and both kernels get the
answers for their own calls. -/
theorem Invocation.run_answers_nested :
    (∀ views user, outer.Admits start.registry views user →
      (contextAround views user).Behaves [⟨outer.device, user⟩] (outer.entered start)) ∧
      ∃ outcome left,
        outer.run 0 (Script.within contextAround outer.device []) start = .ok outcome left ∧
        left.registry = start.registry ∧
        (∀ views user, outer.Admits start.registry views user → outcome.report.isSome) ∧
        ∀ report ∈ outcome.report, ∀ asked ∈ report,
          asked.answer = .ok (asked.request.answerFor start.registry asked.device) := by
  have behaves : ∀ views user, outer.Admits start.registry views user →
      (contextAround views user).Behaves [⟨outer.device, user⟩] (outer.entered start) :=
    fun views user admits => behaves_contextAround rfl admits.lends
  exact ⟨behaves, Invocation.run_answers outer 0 contextAround start behaves⟩

open Nested in
example :
    (match outer.run 0 (Script.within contextAround outer.device []) start with
      | .ok outcome _ => outcome.report
      | .error _ _ => none) =
      some
        [⟨outer.device, .cudaAcquireContext true, .ok (.handle ⟨0xa0⟩)⟩,
          ⟨inner, .metalDefaultDevice, .ok (.handle ⟨0xd0⟩)⟩,
          ⟨inner, .metalNewCommandQueue ⟨0xd0⟩, .ok (.handle ⟨0xc0⟩)⟩,
          ⟨outer.device, .cudaGetStream .null, .ok (.handle ⟨0xb0⟩)⟩,
          ⟨.cpu, .getDevice .metal, .ok (.ordinal 0)⟩,
          ⟨outer.device, .cudaReleaseContext, .ok .done⟩] := by
  rfl

end KernelBridge
