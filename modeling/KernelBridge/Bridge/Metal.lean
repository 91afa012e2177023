import KernelBridge.Bridge.Operation

/-!
# The Metal hooks of the bridge

The stream of the host framework owns the device and the queue that kernels have to use.
The bridge reaches the stream of the current user context through the registered table
and never looks inside it.

## Main definitions

* `checkDeviceMatch` — the device that is asked for against the stream's own
* `Metal.hostStream` — the stream of a user context, and the table that leads to it
* `Metal.acquireContext`, `Metal.releaseContext`, `Metal.preRun`, `Metal.defaultDevice`,
  `Metal.newCommandQueue`, `Metal.getDevice` — the hooks
-/

namespace KernelBridge.Bridge

/-- Asks a stream for a handle. -/
def HostStream.ask (stream : HostStream) : StreamQuestion → Session Handle
  | .device => do callBack (.askedForDevice stream.name); return stream.device
  | .commandQueue => do callBack (.askedForQueue stream.name); return stream.queue

/-- Tells a stream to commit what is queued. -/
def HostStream.commit (stream : HostStream) (flush : Bool) : Session Unit :=
  callBack (.committed stream.name flush)

/-- Hands work over to the serial queue of a stream and waits for it. -/
def HostStream.dispatchSync (stream : HostStream) (work : Session Unit) : Session Unit := do
  callBack (.serialBegun stream.name)
  stream.serial.forM fun
    | .work => work
    | .uninstall backend => uninstall backend
  callBack (.serialEnded stream.name)

/-- Compares the device that is asked for with the stream's own. No device in particular is
always right; another one is reported, and is an error if the policy is to abort. -/
def checkDeviceMatch (requested host : Handle) (policy : MismatchPolicy) :
    Session (Except Error Unit) := do
  if requested.isNull || requested == host then return .ok ()
  report (.devicesDiffer requested host policy)
  match policy with
  | .report => return .ok ()
  | .abort => return .error (.deviceMismatch requested host)

namespace Metal

/-- The stream of a user context and the table that leads to it. There is none for a call on
the host, and a stream without a table is an error. -/
def hostStream (user : Option UserContext) :
    Session (Except HookStatus (Option (StreamTable × HostStream))) := do
  match user.bind UserContext.hostStream? with
  | none => return .ok none
  | some stream =>
    match (← registry).streamTable with
    | some table => return .ok (some (table, stream))
    | none =>
      report .streamTableMissing
      return .error .notInstalled

/-- The device and the queue that the call has to use, written if there are places for both. -/
def acquireContext (user : Option UserContext) (writable : Bool) :
    Session (HookStatus × Option (Handle × Handle)) := do
  if !writable then return (.invalidArgument, none)
  match ← hostStream user with
  | .error status => return (status, none)
  | .ok none =>
    report (.metalContextAcquired .null .null)
    return (.success, some (.null, .null))
  | .ok (some (table, stream)) =>
    let device ← stream.ask table.device
    let queue ← stream.ask table.commandQueue
    report (.metalContextAcquired device queue)
    return (.success, some (device, queue))

/-- There is nothing to release. -/
def releaseContext (_user : Option UserContext) : HookStatus := .success

/-- Commits what is queued on the stream, without waiting for it. -/
def commitQueued (user : Option UserContext) : Session Unit := do
  match ← hostStream user with
  | .ok (some (table, stream)) => stream.commit (table.commitFlag false)
  | _ => return ()

/-- Before a kernel runs, what the host has queued is committed from the stream's own serial
queue, so that the kernel's work comes after it. -/
def preRun (user : Option UserContext) : Session Unit := do
  match ← hostStream user with
  | .ok (some (_, stream)) =>
    report .preRunCommitted
    stream.dispatchSync (commitQueued user)
  | .ok none => return ()
  | .error _ => report .preRunSkipped

/-- The device of the stream, or null. -/
def defaultDevice (user : Option UserContext) : Session Handle := do
  match ← hostStream user with
  | .ok (some (table, stream)) => stream.ask table.device
  | _ => return .null

/-- The queue of the stream, or null; none is ever created. If another device than the
stream's is asked for and the policy is to abort, the process ends. -/
def newCommandQueue (device : Handle) (user : Option UserContext) : Session Handle := do
  match ← hostStream user with
  | .ok (some (table, stream)) =>
    let host ← stream.ask table.device
    match ← checkDeviceMatch device host (← registry).config.mismatchPolicy with
    | .ok () => stream.ask table.commandQueue
    | .error error =>
      report (.abortingOnMismatch error.message)
      throw ⟨error⟩
  | _ => return .null

/-- The device that the call has to use. -/
def getDevice (user : Option UserContext) : Int32 :=
  (user.map UserContext.deviceId).getD 0

end Metal

end KernelBridge.Bridge
