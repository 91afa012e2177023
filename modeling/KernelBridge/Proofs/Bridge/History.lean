import Mathlib.Data.List.Induction
import KernelBridge.Bridge.Operation
import KernelBridge.Proofs.Bridge.Slot

/-!
# What the registry holds after a history

What is registered is accounted for here by the operations that have been performed, oldest
first. For each operation it is said which slots it owns and from which registry they are
filled; what a slot holds after a history is then what the last operation that owns it has
put there, and an operation answers with what its slots held just before.

## Main definitions

* `Operation.owns`, `Operation.source` — the slots that an operation replaces, and with what
* `Operation.reply` — its answer, by what the slots hold
* `Operation.backend?`, `Operation.InstallsStreams`, `Operation.ClearsStreams` — the backend
  that it is about, and what it does to the table that leads to the host's streams
* `Operation.Changes` — what one operation does to a state
* `held`, `runtimeHeld`, `StreamsInstalled` — what a history leaves in a slot, in the setters
  of a kernel runtime, and whether it leaves a table of streams
* `Accounts` — everything that is said about one operation after a history

## Main results

* `accounts_of_history` — after every history, what is registered, what the next operation
  answers and what it leaves alone
-/

namespace KernelBridge.Bridge

namespace Operation

/-- The slots that an operation fills or clears. -/
def owns : Operation → Slot → Bool
  | setCudaAcquireContext _, slot => slot == .cudaAcquireContext
  | setCudaReleaseContext _, slot => slot == .cudaReleaseContext
  | setCudaGetStream _, slot => slot == .cudaGetStream
  | setCudaGetDevice _, slot => slot == .cudaGetDevice
  | setMetalPreRun _, slot => slot == .metalPreRun
  | setCudaHooks _, slot | installCuda, slot | enterInstallCuda, slot | registerRuntime, slot
  | enterRegisterRuntime true, slot | uninstall .cuda, slot => slot.backend? == some .cuda
  | setMetalHooks _, slot => slot.backend? == some .metal
  | installMetal _, slot | enterInstallMetal (some _), slot | uninstall .metal, slot =>
    slot.backend? == some .metal || slot == .streamTable
  | setCleanup _, slot => slot == .cleanup
  | setConfig _, slot => slot == .config
  | reset, _ => true
  | uninstall .cpu, _ | enterInstallMetal none, _ | enterRegisterRuntime false, _ => false

/-- The registry from which an operation fills its slots. Slots that are cleared are filled
from the default registry. -/
def source : Operation → Registry
  | setCudaAcquireContext hook => { cuda := { acquireContext := some hook } }
  | setCudaReleaseContext hook => { cuda := { releaseContext := some hook } }
  | setCudaGetStream hook => { cuda := { getStream := some hook } }
  | setCudaGetDevice hook => { cuda := { getDevice := some hook } }
  | setMetalPreRun hook => { metal := { preRun := some hook } }
  | setCudaHooks hooks => { cuda := hooks }
  | setMetalHooks hooks => { metal := hooks }
  | installCuda | registerRuntime | enterInstallCuda | enterRegisterRuntime _ =>
    { cuda := .bridge }
  | installMetal table | enterInstallMetal (some table) =>
    { metal := .bridge, streamTable := some table }
  | setCleanup cleanup => { cleanup := some cleanup }
  | setConfig config => { config }
  | uninstall _ | reset | enterInstallMetal none => {}

/-- The operation goes through the setters of a kernel runtime. -/
def usesRuntime : Operation → Bool
  | registerRuntime | enterRegisterRuntime true => true
  | _ => false

/-- The answer of an operation: what its slots hold, or the status of an entry point. The
setters of a kernel runtime answer for the runtime. -/
def reply (held : (slot : Slot) → slot.Content) (runtime : CudaHooks) : Operation → Reply
  | setCudaAcquireContext _ => .wasCudaAcquireContext (held .cudaAcquireContext)
  | setCudaReleaseContext _ => .wasCudaReleaseContext (held .cudaReleaseContext)
  | setCudaGetStream _ => .wasCudaGetStream (held .cudaGetStream)
  | setCudaGetDevice _ => .wasCudaGetDevice (held .cudaGetDevice)
  | setMetalPreRun _ => .wasMetalPreRun (held .metalPreRun)
  | setCudaHooks _ =>
    .wereCudaHooks
      { acquireContext := held .cudaAcquireContext
        releaseContext := held .cudaReleaseContext
        getStream := held .cudaGetStream
        getDevice := held .cudaGetDevice }
  | setMetalHooks _ =>
    .wereMetalHooks
      { acquireContext := held .metalAcquireContext
        releaseContext := held .metalReleaseContext
        preRun := held .metalPreRun
        defaultDevice := held .metalDefaultDevice
        newCommandQueue := held .metalNewCommandQueue
        getDevice := held .metalGetDevice }
  | setCleanup _ => .wasCleanup (held .cleanup)
  | setConfig _ => .wasConfig (held .config)
  | registerRuntime => .wereRuntimeHooks runtime
  | installCuda | installMetal _ | uninstall _ | reset | enterInstallCuda => .done
  | enterInstallMetal none | enterRegisterRuntime false => .status .invalidArgument
  | enterInstallMetal (some _) | enterRegisterRuntime true => .status .success

/-- The backend that an operation is about. -/
def backend? : Operation → Option Backend
  | setCudaAcquireContext _ | setCudaReleaseContext _ | setCudaGetStream _
  | setCudaGetDevice _ | setCudaHooks _ | installCuda | registerRuntime | enterInstallCuda
  | enterRegisterRuntime _ => some .cuda
  | setMetalPreRun _ | setMetalHooks _ | installMetal _ | enterInstallMetal _ => some .metal
  | uninstall backend => some backend
  | reset | setCleanup _ | setConfig _ => none

/-- The operation installs a table that leads to the host's streams. -/
def InstallsStreams (operation : Operation) : Prop :=
  ∃ table, operation = installMetal table ∨ operation = enterInstallMetal (some table)

/-- The operation takes down the table that leads to the host's streams. -/
def ClearsStreams (operation : Operation) : Prop :=
  operation = uninstall .metal ∨ operation = reset

/-! ### One operation -/

/-- What an operation does: its answer, and what is registered afterwards. An entry point that
refuses does nothing at all. -/
structure Changes (operation : Operation) (state : State) (reply : Reply) (left : State) :
    Prop where
  answers : reply = operation.reply state.registry.read state.runtime.settable
  slots : ∀ slot, left.registry.read slot =
    if operation.owns slot then operation.source.read slot else state.registry.read slot
  runtime : left.runtime.settable =
    if operation.usesRuntime then CudaHooks.bridge.settable else state.runtime.settable
  refused : reply = .status .invalidArgument → left = state

/-- Every operation comes to its end. -/
theorem exists_changes (operation : Operation) (state : State) :
    ∃ reply left, operation.perform state = .ok reply left ∧
      operation.Changes state reply left := by
  cases operation with
  | uninstall backend =>
    cases backend <;> exact ⟨_, _, rfl, rfl, fun slot => by cases slot <;> rfl, rfl, nofun⟩
  | enterInstallMetal table =>
    cases table with
    | none => exact ⟨_, _, rfl, rfl, fun slot => by cases slot <;> rfl, rfl, fun _ => rfl⟩
    | some table => exact ⟨_, _, rfl, rfl, fun slot => by cases slot <;> rfl, rfl, nofun⟩
  | enterRegisterRuntime settersGiven =>
    cases settersGiven with
    | false => exact ⟨_, _, rfl, rfl, fun slot => by cases slot <;> rfl, rfl, fun _ => rfl⟩
    | true => exact ⟨_, _, rfl, rfl, fun slot => by cases slot <;> rfl, rfl, nofun⟩
  | _ => exact ⟨_, _, rfl, rfl, fun slot => by cases slot <;> rfl, rfl, nofun⟩

section Changes

variable {operation : Operation} {state left : State} {reply : Reply} {backend : Backend}
  {slot : Slot}

theorem owns_streamTable_iff :
    operation.owns .streamTable ↔ operation.InstallsStreams ∨ operation.ClearsStreams := by
  cases operation with
  | uninstall backend =>
    cases backend <;> simp [owns, Slot.backend?, InstallsStreams, ClearsStreams]
  | enterInstallMetal table =>
    cases table <;> simp [owns, InstallsStreams, ClearsStreams]
  | enterRegisterRuntime settersGiven =>
    cases settersGiven <;> simp [owns, Slot.backend?, InstallsStreams, ClearsStreams]
  | _ => simp [owns, Slot.backend?, InstallsStreams, ClearsStreams]

/-- An operation on one backend owns slots of that backend, and perhaps the table of streams. -/
theorem backend?_of_owns (howns : operation.owns slot)
    (hbackend : operation.backend? = some backend) :
    slot.backend? = some backend ∨ slot = .streamTable := by
  fun_cases operation.owns slot <;> grind [owns, backend?, Slot.backend?]

/-- A table of streams is registered after an operation that installs one, and stays unless an
operation takes it down. -/
theorem Changes.fills_streamTable_iff (h : operation.Changes state reply left) :
    left.registry.Fills .streamTable ↔
      operation.InstallsStreams ∨
        ¬ operation.ClearsStreams ∧ state.registry.Fills .streamTable := by
  rw [Registry.Fills, h.slots]
  by_cases hinstalls : operation.InstallsStreams
  · obtain ⟨table, rfl | rfl⟩ := hinstalls
    all_goals simp [owns, source, Registry.read, InstallsStreams]
  by_cases hclears : operation.ClearsStreams
  · rcases hclears with rfl | rfl
    all_goals simp [owns, source, Registry.read, InstallsStreams, ClearsStreams]
  · -- No other operation owns the table.
    have howns : ¬ operation.owns .streamTable := by
      rw [owns_streamTable_iff]
      exact not_or.mpr ⟨hinstalls, hclears⟩
    simp [howns, hinstalls, hclears, Registry.Fills]

theorem Changes.registry_eq_of_reset (h : Changes .reset state reply left) :
    left.registry = {} :=
  Registry.ext_read fun slot => h.slots slot

end Changes

end Operation

/-! ### A history -/

/-- What a slot holds after a history, oldest operation first: what the last operation that
owns the slot has put there. -/
def held (history : List Operation) (slot : Slot) : slot.Content :=
  match (history.filter (·.owns slot)).getLast? with
  | some operation => operation.source.read slot
  | none => ({} : Registry).read slot

/-- What the setters of a kernel runtime would give back after a history. -/
def runtimeHeld (history : List Operation) (runtime : CudaHooks) : CudaHooks :=
  if history.any (·.usesRuntime) then CudaHooks.bridge.settable else runtime.settable

/-- A table of streams has been installed and not been taken down since. -/
def StreamsInstalled (history : List Operation) : Prop :=
  ∃ before operation after, history = before ++ operation :: after ∧
    operation.InstallsStreams ∧ ∀ later ∈ after, ¬ later.ClearsStreams

section History

variable {history : List Operation} {operation : Operation} {slot : Slot}

theorem held_concat :
    held (history ++ [operation]) slot =
      if operation.owns slot then operation.source.read slot else held history slot := by
  rw [held, List.filter_append, List.getLast?_append]
  cases howns : operation.owns slot <;> simp [howns, held]

theorem runtimeHeld_concat {runtime : CudaHooks} :
    runtimeHeld (history ++ [operation]) runtime =
      if operation.usesRuntime then CudaHooks.bridge.settable
      else runtimeHeld history runtime := by
  cases huses : operation.usesRuntime <;> simp [runtimeHeld, huses]

theorem streamsInstalled_concat :
    StreamsInstalled (history ++ [operation]) ↔
      operation.InstallsStreams ∨ ¬ operation.ClearsStreams ∧ StreamsInstalled history := by
  constructor
  · rintro ⟨before, installing, after, hsplit, hinstalls, hafter⟩
    rcases List.eq_nil_or_concat after with rfl | ⟨rest, last, rfl⟩
    · -- The installing operation is the last of all.
      obtain ⟨rfl, hlast⟩ := List.append_inj' hsplit rfl
      obtain rfl := List.singleton_inj.mp hlast
      exact .inl hinstalls
    · -- It is in the history, and the last operation comes after it.
      have hsplit' : history ++ [operation] = (before ++ installing :: rest) ++ [last] := by
        simpa using hsplit
      obtain ⟨rfl, hlast⟩ := List.append_inj' hsplit' rfl
      obtain rfl := List.singleton_inj.mp hlast
      refine .inr ⟨hafter operation (by simp), before, installing, rest, rfl, hinstalls, ?_⟩
      intro later hlater
      exact hafter later (by simp [hlater])
  · rintro (hinstalls | ⟨hclears, before, installing, after, rfl, hinstalls, hafter⟩)
    · exact ⟨history, operation, [], rfl, hinstalls, by simp⟩
    · refine ⟨before, installing, after ++ [operation], by simp, hinstalls, ?_⟩
      intro later hlater
      rcases List.mem_append.mp hlater with hlater | hlater
      · exact hafter later hlater
      · rwa [List.mem_singleton.mp hlater]

/-- The state with nothing registered. -/
def State.unregistered (state : State) : State := { state with registry := {} }

variable {start before after : State} {replies : List Reply} {reply : Reply}

/-- What is registered after a history that began with nothing registered. -/
structure Leaves (start : State) (history : List Operation) (left : State) : Prop where
  slots : ∀ slot, left.registry.read slot = held history slot
  runtime : left.runtime.settable = runtimeHeld history start.runtime
  streams : left.registry.Fills .streamTable ↔ StreamsInstalled history

theorem leaves_nil : Leaves start [] start.unregistered where
  slots _ := rfl
  runtime := rfl
  streams := by simp [Registry.Fills, StreamsInstalled, State.unregistered]

theorem Leaves.concat (h : Leaves start history before)
    (changes : operation.Changes before reply after) :
    Leaves start (history ++ [operation]) after where
  slots slot := by rw [changes.slots, held_concat, h.slots]
  runtime := by rw [changes.runtime, runtimeHeld_concat, h.runtime]
  streams := by rw [changes.fills_streamTable_iff, streamsInstalled_concat, h.streams]

theorem mapM_perform_concat
    (hhistory : history.mapM Operation.perform start = .ok replies before)
    (hlast : operation.perform before = .ok reply after) :
    (history ++ [operation]).mapM Operation.perform start = .ok (replies ++ [reply]) after := by
  have hone : [operation].mapM Operation.perform before = .ok [reply] after := by
    rw [List.mapM_cons, List.mapM_nil]
    exact Session.bind_of_ok hlast
  rw [List.mapM_append, Session.bind_of_ok hhistory, Session.bind_of_ok hone]
  rfl

/-- Every history comes to its end and leaves what its last operations have put in the slots. -/
theorem exists_leaves (start : State) (history : List Operation) :
    ∃ replies left, history.mapM Operation.perform start.unregistered = .ok replies left ∧
      Leaves start history left := by
  -- The last operation is performed in the state that the others leave.
  induction history using List.reverseRecOn with
  | nil => exact ⟨[], _, rfl, leaves_nil⟩
  | append_singleton history operation ih =>
    obtain ⟨replies, before, hhistory, hleaves⟩ := ih
    obtain ⟨reply, after, hlast, hchanges⟩ := operation.exists_changes before
    exact ⟨_, after, mapM_perform_concat hhistory hlast, hleaves.concat hchanges⟩

/-- The account of one operation after a history that began with nothing registered. -/
structure Accounts (start : State) (history : List Operation) (operation : Operation)
    (before : State) (reply : Reply) (after : State) : Prop where
  /-- Every slot holds what the last operation that owns it has put there. -/
  slots : ∀ slot, before.registry.read slot = held history slot
  /-- The answer is what the slots, and the setters of the runtime, held just before. -/
  answers : reply = operation.reply (held history) (runtimeHeld history start.runtime)
  refused : ∀ status, reply = .status status → status.code = -1 → after = before
  /-- An operation on one backend leaves everything else as it was. -/
  others : ∀ backend, operation.backend? = some backend →
    ∀ slot, slot.backend? ≠ some backend →
      ¬ (slot = .streamTable ∧ (operation.InstallsStreams ∨ operation.ClearsStreams)) →
        after.registry.read slot = before.registry.read slot
  restored : operation = .reset → after.registry = {}
  host : before.registry.isInstalled .cpu
  cuda : before.registry.isInstalled .cuda ↔
    ∀ slot : Slot, slot.backend? = some .cuda → before.registry.Fills slot
  metal : before.registry.isInstalled .metal ↔
    (∀ slot : Slot, slot.backend? = some .metal → before.registry.Fills slot) ∧
      StreamsInstalled history

/-- **Account of a history.** Whatever is done to the registry, one operation after the other:
each slot holds what the last operation that owns it has put there, each answer is what was
held just before, and no operation reaches beyond its slots. -/
theorem accounts_of_history (start : State) (history : List Operation) (operation : Operation) :
    ∃ replies before reply after,
      history.mapM Operation.perform start.unregistered = .ok replies before ∧
      operation.perform before = .ok reply after ∧
      (history ++ [operation]).mapM Operation.perform start.unregistered =
        .ok (replies ++ [reply]) after ∧
      Accounts start history operation before reply after := by
  obtain ⟨replies, before, hhistory, hleaves⟩ := exists_leaves start history
  obtain ⟨reply, after, hlast, hchanges⟩ := operation.exists_changes before
  have hheld : before.registry.read = held history := funext hleaves.slots
  refine ⟨replies, before, reply, after, hhistory, hlast, mapM_perform_concat hhistory hlast,
    ?_⟩
  exact
    { slots := hleaves.slots
      answers := by rw [hchanges.answers, hheld, hleaves.runtime]
      refused := by
        intro status hreply hcode
        rw [HookStatus.code_eq_neg_one_iff.mp hcode] at hreply
        exact hchanges.refused hreply
      others := by
        intro backend hbackend slot hslot hstreams
        rw [hchanges.slots, if_neg]
        intro howns
        rcases Operation.backend?_of_owns howns hbackend with hsame | rfl
        · exact hslot hsame
        · exact hstreams ⟨rfl, Operation.owns_streamTable_iff.mp howns⟩
      restored := by
        rintro rfl
        exact hchanges.registry_eq_of_reset
      host := rfl
      cuda := Registry.isInstalled_cuda_iff
      metal := by rw [Registry.isInstalled_metal_iff, hleaves.streams] }

end History

end KernelBridge.Bridge
