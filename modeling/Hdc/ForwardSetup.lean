import Hdc.ForwardMessages
import Hdc.ServerHandlers

/- The setup of a port forward on the host (`handle_server_forward` in
   `hdc/src/server.rs`), up to the point where its listener takes connections.

   There are three flows. A forward to anything but a debugger starts with `ForwardCheck`
   and waits for the daemon's result; whatever goes wrong there, it falls back to
   `ForwardInit`, waits for the daemon's own `ForwardCheck` and answers it. A forward to a
   debugger starts with `ForwardInit` and checks once more at the end.

   `forwardSetup` is all three, on either transport. The answer to the daemon's check goes
   through `UsbMap` alone (`send_forward_check_result`). -/
namespace Hdc
open Rust Wire

/-! Parameters. -/

def parseForwardPort (spec : String) : IoResult UInt16 :=
  match splitOnce ':' spec with
  | none => .error ⟨.invalidInput, "Invalid forward spec, expected proto:port"⟩
  | some (proto, port) =>
    if proto ≠ "tcp" then
      .error ⟨.invalidInput, "Host only supports tcp: forward spec, got " ++ proto⟩
    else match parseU16 port with
      | .ok port => .ok port
      | .error e => .error ⟨.invalidInput, "Invalid port number: " ++ e⟩

structure ForwardJob where
  sessionId : UInt32
  channelId : UInt32
  /-- `get_forward_listen_ip`. -/
  listenIp : String
  localSpec : String
  localPort : UInt16
  remoteSpec : String
  deriving DecidableEq, Repr

/-- The remote nodes that a daemon is asked for. -/
def remoteSchemas : List String :=
  ["tcp:", "ark:", "jdwp:", "localabstract:", "localreserved:", "localfilesystem:", "dev:"]

/-- The handler up to the registration of its response channel. -/
def forwardStart (sessionId channelId : UInt32) (listenIp : String) (params : List String) :
    IoResult ForwardJob :=
  if params.length < 3 then
    .error ⟨.invalidInput, "Invalid forward parameters. Usage: " ++
      "fport tcp:local tcp:remote|ark:pid@bundle|jdwp:pid"⟩
  else
    let localSpec := params.getD 1 ""
    let remoteSpec := params.getD 2 ""
    if !startsWith localSpec "tcp:" then
      .error ⟨.invalidInput, "Local forward node must be tcp:<port>"⟩
    else
      match parseForwardPort localSpec with
      | .error e => .error e
      | .ok localPort =>
        if !remoteSchemas.any (startsWith remoteSpec) then
          .error ⟨.invalidInput, "Unsupported remote forward node: " ++ remoteSpec⟩
        else .ok ⟨sessionId, channelId, listenIp, localSpec, localPort, remoteSpec⟩

theorem forwardStart_ids {sessionId c : UInt32} {listenIp : String} {params : List String}
    {job : ForwardJob} (h : forwardStart sessionId c listenIp params = .ok job) :
    job.sessionId = sessionId ∧ job.channelId = c := by
  simp only [forwardStart] at h
  repeat' split at h
  all_goals cases h
  exact ⟨rfl, rfl⟩

namespace ForwardJob
variable (job : ForwardJob)

def isDebugForward : Bool := startsWith job.remoteSpec "ark:" || startsWith job.remoteSpec "jdwp:"

/-- The `init_msg` of the two `ForwardInit` flows. -/
def initMsg : TaskMessage :=
  ⟨job.channelId, .forwardInit, utf8 (job.localSpec ++ " " ++ job.remoteSpec)⟩

def bindError (e : IoError) : IoError :=
  ⟨.addrInUse, "Failed to bind " ++ job.listenIp ++ ":" ++ toString job.localPort ++ ": " ++ e.msg⟩

end ForwardJob

/-! The machine. -/

/-- Where the handler stands. `ctxId` is the id of the forward's context, drawn by the host
in the first flow and by the daemon in the others, and `spec` the remote node as the daemon
named it. -/
inductive SetupPhase where
  | start
  -- the `ForwardCheck` flow
  | bindFirst
  | check (ctxId : UInt32)
  | waitResult (ctxId : UInt32)
  | tellFirst (ctxId : UInt32)
  -- the `ForwardInit` flows
  | init
  | waitCheck
  | bind (ctxId : UInt32) (spec : String)
  /-- `ForwardCheckResult` is to be sent, with the flag set. -/
  | confirm (ctxId : UInt32) (spec : String)
  /-- `ForwardCheckResult` is to be sent, with the flag clear, since binding has failed. -/
  | refuse (ctxId : UInt32) (e : IoError)
  | waitSuccess (ctxId : UInt32) (spec : String)
  | followUp (ctxId : UInt32) (spec : String)
  | waitFollowUp (ctxId : UInt32) (spec : String)
  | tell (ctxId : UInt32) (spec : String)
  /-- The response channel is to be taken off after a refusal. -/
  | unregister (e : IoError)
  | ended (result : IoResult (UInt32 × String))
  deriving DecidableEq, Repr

inductive SetupAct where
  | next
  /-- The listener is bound, and a context id drawn; or binding fails. -/
  | bind (outcome : IoResult UInt32)
  /-- The client's channel takes the result, or does not. -/
  | tell (outcome : IoResult Unit)
  | recv (task : TaskMessage)
  | closed
  | timeout
  deriving DecidableEq, Repr

/-- The texts sent to the client, whether its channel may then be ended, and the response
channels registered and taken off. -/
structure SetupOut where
  texts : List String := []
  mayEnd : Bool := false
  registered : List UInt32 := []
  unregistered : List UInt32 := []
  deriving DecidableEq, Repr

def forwardResultOk : String := "Forwardport result:OK\r\n"

/-- The loop that waits for the result of the host's check. -/
def onCheckResult (ctxId : UInt32) (task : TaskMessage) : SetupPhase :=
  match task.command with
  | .forwardCheckResult =>
    match hostReadCheckResult task.payload with
    | some (respCtxId, ok) =>
      if respCtxId = ctxId then (if ok then .tellFirst ctxId else .init) else .waitResult ctxId
    | none => .waitResult ctxId
  | .kernelChannelClose => .init
  | _ => .waitResult ctxId

def setupAborted : IoError :=
  ⟨.connectionAborted, "Channel closed by daemon during forward setup"⟩

/-- The loop that waits for the daemon's check. -/
def onDaemonCheck (task : TaskMessage) : SetupPhase :=
  match task.command with
  | .forwardCheck =>
    match hostReadForwardCheck task.payload with
    | .ok (ctxId, spec) => .bind ctxId spec
    | .error e => .ended (.error e)
  | .kernelChannelClose => .ended (.error setupAborted)
  | _ => .waitCheck

/-- Whether the loop that waits for `ForwardSuccess` is over. -/
def endsSuccessWait (task : TaskMessage) : Bool :=
  match task.command with
  | .forwardSuccess => true
  | .kernelEcho | .kernelEchoRaw => contains (fromUtf8Lossy task.payload) "Forwardport result"
  | _ => false

/-- Whether the loop that waits for the result of the second check is over. -/
def endsFollowUpWait (ctxId : UInt32) (task : TaskMessage) : Bool :=
  match task.command with
  | .forwardCheckResult =>
    match hostReadCheckResult task.payload with
    | some (respCtxId, _) => respCtxId == ctxId
    | none => false
  | .kernelChannelClose => true
  | _ => false

/-- What follows the wait for `ForwardSuccess`, however it ends. -/
def ForwardJob.afterSuccess (job : ForwardJob) (ctxId : UInt32) (spec : String) : SetupPhase :=
  if job.isDebugForward then .followUp ctxId spec else .tell ctxId spec

def ForwardJob.sending (job : ForwardJob) : SetupPhase → Option (Sending SetupPhase)
  | .check ctxId => some {
      route := .sendToSession, sessionId := job.sessionId
      msg := hostForwardCheck job.channelId ctxId job.remoteSpec
      next := .waitResult ctxId
      failed := fun _ => .init }
  | .init => some {
      route := .sendToSession, sessionId := job.sessionId
      msg := job.initMsg
      next := .waitCheck
      failed := fun e => .ended (.error e) }
  | .confirm ctxId spec => some {
      route := .usbMap, sessionId := job.sessionId
      msg := hostCheckResult job.channelId ctxId true
      next := .waitSuccess ctxId spec
      failed := fun e => .ended (.error e) }
  | .refuse ctxId e => some {
      route := .usbMap, sessionId := job.sessionId
      msg := hostCheckResult job.channelId ctxId false
      next := .unregister e
      failed := fun _ => .unregister e }
  | .followUp ctxId spec => some {
      route := .sendToSession, sessionId := job.sessionId
      msg := hostForwardCheck job.channelId ctxId spec
      next := .waitFollowUp ctxId spec
      failed := fun e => .ended (.error e) }
  | _ => none

def ForwardJob.step (job : ForwardJob) : SetupPhase → SetupAct → Option (SetupPhase × SetupOut)
  | .start, .next =>
    some (if job.isDebugForward then .init else .bindFirst, { registered := [job.channelId] })
  | .bindFirst, .bind (.ok ctxId) => some (.check ctxId, { registered := [ctxId] })
  | .bindFirst, .bind (.error _) => some (.init, {})
  | .waitResult ctxId, .recv task => some (onCheckResult ctxId task, {})
  | .waitResult _, .closed => some (.init, {})
  | .waitResult _, .timeout => some (.init, {})
  | .tellFirst ctxId, .tell (.ok ()) =>
    some (.ended (.ok (ctxId, job.remoteSpec)), { texts := [forwardResultOk], mayEnd := true })
  -- the listener is dropped, and bound once more after the daemon's check
  | .tellFirst _, .tell (.error _) => some (.init, {})
  | .waitCheck, .recv task => some (onDaemonCheck task, {})
  | .waitCheck, .closed =>
    some (.ended (.error ⟨.connectionAborted,
      "Response channel closed while waiting for ForwardCheck"⟩), {})
  | .waitCheck, .timeout =>
    some (.ended (.error ⟨.timedOut, "Timeout waiting for ForwardCheck from daemon"⟩), {})
  | .bind ctxId spec, .bind (.ok _) => some (.confirm ctxId spec, {})
  | .bind ctxId _, .bind (.error e) => some (.refuse ctxId (job.bindError e), {})
  | .unregister e, .next => some (.ended (.error e), { unregistered := [job.channelId] })
  | .waitSuccess ctxId spec, .recv task =>
    some (if endsSuccessWait task then job.afterSuccess ctxId spec else .waitSuccess ctxId spec, {})
  | .waitSuccess ctxId spec, .closed => some (job.afterSuccess ctxId spec, {})
  | .waitSuccess ctxId spec, .timeout => some (job.afterSuccess ctxId spec, {})
  -- the result of the second check is logged, not used
  | .waitFollowUp ctxId spec, .recv task =>
    some (if endsFollowUpWait ctxId task then .tell ctxId spec else .waitFollowUp ctxId spec, {})
  | .waitFollowUp ctxId spec, .closed => some (.tell ctxId spec, {})
  | .waitFollowUp ctxId spec, .timeout => some (.tell ctxId spec, {})
  | .tell ctxId spec, .tell (.ok ()) =>
    some (.ended (.ok (ctxId, spec)), { texts := [forwardResultOk], mayEnd := true })
  | .tell _ _, .tell (.error e) => some (.ended (.error e), {})
  | _, _ => none

/-- `handle_server_forward`, from its registration on. -/
def forwardSetup (job : ForwardJob) : ServerHandler SetupPhase SetupAct SetupOut where
  sending := job.sending
  step := job.step

end Hdc
