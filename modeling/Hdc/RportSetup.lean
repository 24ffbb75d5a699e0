import Hdc.ForwardMessages
import Hdc.ForwardSetup
import Hdc.ServerHandlers

/- The set-up of a reverse port forward on the host (`handle_server_rport` in
   `hdc/src/server.rs`), up to the point where its entry is registered: `ForwardInit` is sent,
   the daemon's checks of the local port are answered, and `ForwardSuccess` ends it. All it
   sends goes through `send_to_session`. -/
namespace Hdc
open Rust Wire

structure RportJob where
  sessionId : UInt32
  channelId : UInt32
  /-- Where the daemon listens. -/
  remoteSpec : String
  /-- Where the host connects. -/
  localSpec : String
  deriving DecidableEq, Repr

/-- The handler up to the registration of its response channel. -/
def rportStart (sessionId channelId : UInt32) (params : List String) : IoResult RportJob :=
  if params.length < 3 then
    .error ⟨.invalidInput, "Invalid rport parameters. Usage: rport tcp:remote tcp:local"⟩
  else
    let remoteSpec := params.getD 1 ""
    let localSpec := params.getD 2 ""
    match parseForwardPort localSpec with
    | .error e => .error e
    | .ok _ => .ok ⟨sessionId, channelId, remoteSpec, localSpec⟩

theorem rportStart_ids {sessionId c : UInt32} {params : List String} {job : RportJob}
    (h : rportStart sessionId c params = .ok job) :
    job.sessionId = sessionId ∧ job.channelId = c := by
  simp only [rportStart] at h
  repeat' split at h
  all_goals cases h
  exact ⟨rfl, rfl⟩

/-- The payload of `ForwardInit`, and the key of the entry. -/
def RportJob.taskString (job : RportJob) : String := job.remoteSpec ++ " " ++ job.localSpec

def RportJob.initMsg (job : RportJob) : TaskMessage :=
  ⟨job.channelId, .forwardInit, utf8 job.taskString⟩

/-- A message of the daemon, as the two loops of `handle_server_rport` read it. -/
inductive RportTask where
  | check (forwardId : UInt32) (localSpec : String)
  | activeSlave (forwardId : UInt32) (localSpec : String)
  | data (forwardId : UInt32) (data : List UInt8)
  | freeContext (forwardId : UInt32)
  | success
  | closed
  | other
  deriving DecidableEq, Repr

def readRportTask (task : TaskMessage) : RportTask :=
  match task.command with
  | .forwardCheck =>
    match hostReadRportSpec task.payload with
    | some (forwardId, localSpec) => .check forwardId localSpec
    | none => .other
  | .forwardActiveSlave =>
    match hostReadRportSpec task.payload with
    | some (forwardId, localSpec) => .activeSlave forwardId localSpec
    | none => .other
  | .forwardData =>
    if 4 ≤ task.payload.length then .data (readId task.payload) (task.payload.drop 4) else .other
  | .forwardFreeContext =>
    if 4 ≤ task.payload.length then .freeContext (readId task.payload) else .other
  | .forwardSuccess => .success
  | .kernelChannelClose => .closed
  | _ => .other

/-- Where the handler stands. -/
inductive RportSetupPhase where
  | start
  /-- `ForwardInit` is to be sent. -/
  | init
  | waiting
  /-- A `ForwardCheckResult` is to be sent. -/
  | reply (forwardId : UInt32) (ok : Bool)
  /-- The client is to be told. -/
  | tell
  /-- The response channel is to be taken off. -/
  | unregister (e : IoError)
  | ended (result : IoResult Unit)
  deriving DecidableEq, Repr

inductive RportSetupAct where
  | next
  /-- A message arrives; `reachable` is whether the port of a check accepts connections. -/
  | recv (task : TaskMessage) (reachable : Bool)
  | closed
  | timeout
  | tell (outcome : IoResult Unit)
  deriving DecidableEq, Repr

/-- The act is the arrival of a message. -/
def ServerAct.receives : ServerAct RportSetupAct → Bool
  | .own (.recv _ _) => true
  | _ => false

/-- The match of the loop. -/
def onRportTask (task : TaskMessage) (reachable : Bool) : RportSetupPhase :=
  match readRportTask task with
  | .check forwardId localSpec => .reply forwardId ((parseForwardPort localSpec).isOk && reachable)
  | .success => .tell
  | .closed => .unregister ⟨.connectionAborted, "Channel closed by daemon"⟩
  | _ => .waiting

/-- The echoes of the daemon are shown to the client. -/
def rportEcho (task : TaskMessage) : List String :=
  match task.command with
  | .kernelEcho | .kernelEchoRaw => [fromUtf8Lossy task.payload]
  | _ => []

def RportJob.sending (job : RportJob) : RportSetupPhase → Option (Sending RportSetupPhase)
  | .init => some {
      route := .sendToSession, sessionId := job.sessionId
      msg := job.initMsg
      next := .waiting
      failed := .unregister }
  | .reply forwardId ok => some {
      route := .sendToSession, sessionId := job.sessionId
      msg := hostCheckResult job.channelId forwardId ok
      next := .waiting
      failed := fun _ => .waiting }
  | _ => none

def RportJob.step (job : RportJob) :
    RportSetupPhase → RportSetupAct → Option (RportSetupPhase × SetupOut)
  | .start, .next => some (.init, { registered := [job.channelId] })
  | .waiting, .recv task reachable => some (onRportTask task reachable, { texts := rportEcho task })
  | .waiting, .closed => some (.unregister ⟨.connectionAborted, "Response channel closed"⟩, {})
  | .waiting, .timeout | .reply _ _, .timeout =>
    some (.unregister ⟨.timedOut, "Timeout waiting for ForwardSuccess"⟩, {})
  | .tell, .tell (.ok ()) =>
    some (.ended (.ok ()), { texts := [forwardResultOk], mayEnd := true })
  | .tell, .tell (.error e) => some (.unregister e, {})
  | .unregister e, .next => some (.ended (.error e), { unregistered := [job.channelId] })
  | _, _ => none

/-- `handle_server_rport`, from the registration of its response channel to that of its entry. -/
def rportSetup (job : RportJob) : ServerHandler RportSetupPhase RportSetupAct SetupOut where
  sending := job.sending
  step := job.step

end Hdc
