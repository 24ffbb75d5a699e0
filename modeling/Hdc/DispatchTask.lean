import Hdc.AppHost
import Hdc.RportSetup
import Hdc.TcpBookkeeping

/- `dispatch_task` of the host's server (`hdc/src/server.rs`), for the commands that need a daemon.

   A `DispatchRun` is one call. Most arms resolve the device and hand over to a handler; if that
   returns an error, the client is told and its channel ended. `JdwpTrack`, `JdwpList` and the
   default arm send their message themselves. The default arm is that of every command without one
   of its own.

   While a call runs the links of the server are as it finds them: a writer, a sender or the
   client's socket takes what is sent to it, or fails. Other tasks leave the maps alone, and the
   table of forwards is that of `Hdc.ForwardRegistrations`. -/
namespace Hdc
open Rust Wire

/-! The call. -/

structure DispatchCall where
  cmd : HdcCommand
  connectKey : String
  channelId : UInt32
  params : List String
  deriving DecidableEq, Repr

/-- What a call finds. `writerTakes`, `senderTakes` and `clientTakes` are the outcomes of a write
to the socket of a session, of a send to the writer task of a USB session and of a write to the
client. -/
structure DispatchEnv where
  connectMap : ConnectMap
  writerTakes : Nat → IoResult Unit
  senderTakes : Nat → IoResult Unit
  clientTakes : IoResult Unit
  fs : Fs
  /-- `get_forward_listen_ip`. -/
  listenIp : String
  percent : UInt64 → UInt64 → UInt8

inductive CallPhase where
  | start
  -- in a handler
  | fileSend (sessionId : UInt32) (job : SendJob) (phase : SendPhase)
  | fileRecv (sessionId : UInt32) (job : RecvJob) (state : RecvState)
  | install (sessionId : UInt32) (args : InstallArgs) (state : Install)
  | forward (job : ForwardJob) (phase : SetupPhase)
  | rport (job : RportJob) (phase : RportSetupPhase)
  | flashd (job : FlashdJob) (phase : FlashdPhase)
  /-- In the loop of `collect_daemon_response_then_close`. -/
  | collect (sessionId : UInt32)
  | returned (result : IoResult Unit)
  deriving DecidableEq, Repr

/-- The maps, what has been sent to the daemon and to the client, and how far the call is. -/
structure DispatchRun where
  tcp : TcpMapInner
  usb : UsbMap
  sent : List TaskMessage
  texts : List String
  phase : CallPhase

def DispatchRun.start (tcp : TcpMapInner) (usb : UsbMap) : DispatchRun := ⟨tcp, usb, [], [], .start⟩

/-- What drives a call: its own next step, or what the daemon, the file system or the network
answers to a handler. -/
inductive CallAct where
  | call
  /-- The message of a handler's phase is sent. -/
  | send
  | file (act : HostAct)
  | install (act : InstallAct)
  | setup (act : SetupAct)
  | rport (act : RportSetupAct)
  | flashd (act : FlashdAct)
  | recv (task : TaskMessage)
  /-- The response channel is closed, or idle for two seconds. -/
  | idle
  deriving DecidableEq, Repr

def failText (e : IoError) : String := "[Fail]" ++ e.msg ++ "\r\n"

/-- All commands but those that `dispatch_task` answers without a daemon. -/
def needsDaemon : HdcCommand → Bool
  | .kernelTargetList | .kernelTargetDiscover | .kernelCheckDevice | .kernelTargetConnect
  | .kernelCheckServer | .clientVersion | .kernelEnableKeepalive | .kernelWaitFor
  | .kernelTargetReconnect | .spawnSub | .forwardList | .forwardRportList | .forwardRemove
  | .forwardRportRemove => false
  | _ => true

/-- The payload of the default arm: the name of the command is not sent with most of them. -/
def taskPayload (cmd : HdcCommand) (params : List String) : List UInt8 :=
  match cmd with
  | .unityExecute | .unityReboot | .unityRemount | .unityRunmode | .unityRootrun | .unityHilog
  | .unityBugreportInit | .appUninstall =>
    if 1 < params.length then utf8 (String.intercalate " " params.tail) else []
  | _ => utf8 (String.intercalate " " params)

namespace DispatchRun
section
variable (env : DispatchEnv) (call : DispatchCall) (r : DispatchRun)

/-! Sends. -/

/-- `TcpMap::send_to_session`. -/
def tcpSend (sessionId : UInt32) : IoResult Unit :=
  match r.tcp.sessionWriters sessionId with
  | some wr => env.writerTakes wr
  | none => .error ⟨.notFound, "session not found"⟩

/-- `UsbMap::send_to_session`. -/
def usbSend (sessionId : UInt32) : IoResult Unit :=
  match r.usb.sessionSenders sessionId with
  | some tx => env.senderTakes tx
  | none => .error ⟨.notFound, "usb session not found"⟩

/-- `send_to_session`, which the default arm has a copy of. -/
def sendToSession (sessionId : UInt32) : IoResult Unit :=
  match r.tcpSend env sessionId with
  | .ok () => .ok ()
  | .error _ => r.usbSend env sessionId

/-- What a handler sends, on its route. -/
def sendOn (sessionId : UInt32) : Route → IoResult Unit
  | .sendToSession => r.sendToSession env sessionId
  | .usbMap => r.usbSend env sessionId

/-- `TcpMap::send_channel_message`, on the client's channel. -/
def sendChannelMessage : IoResult Unit :=
  if r.tcp.channelWriters call.channelId then env.clientTakes
  else .error ⟨.notFound, "channel not found"⟩

def returns (result : IoResult Unit) : DispatchRun := { r with phase := .returned result }

/-- A text whose outcome is ignored. -/
def tell (text : String) : DispatchRun :=
  match r.sendChannelMessage env call with
  | .ok () => { r with texts := r.texts ++ [text] }
  | .error _ => r

/-- A text that is followed by a `?`. -/
def tellOr (text : String) (next : DispatchRun → DispatchRun) : DispatchRun :=
  match r.sendChannelMessage env call with
  | .ok () => next { r with texts := r.texts ++ [text] }
  | .error e => r.returns (.error e)

def maybeEndChannel : DispatchRun :=
  if r.tcp.isKeepAlive call.channelId then r
  else { r with tcp := r.tcp.endChannel call.channelId }

def associate (sessionId : UInt32) : DispatchRun :=
  { r with tcp := r.tcp.associateChannelWithSession call.channelId sessionId }

def register (sessionId channelId : UInt32) : DispatchRun :=
  { r with usb := r.usb.registerResponseChannel sessionId channelId call.connectKey }

def unregister (sessionId channelId : UInt32) : DispatchRun :=
  { r with usb := r.usb.unregisterResponseChannel sessionId channelId }

/-- The client is told, if it can be, and its channel ended. -/
def fails (text : String) : DispatchRun :=
  ((r.tell env call text).maybeEndChannel call).returns (.ok ())

/-- What the arms do with the result of their handler. -/
def handlerReturns : IoResult Unit → DispatchRun
  | .ok () => r.returns (.ok ())
  | .error e => r.fails env call (failText e)

/-! Handlers. -/

/-- The end of `handle_server_file_send` and `handle_server_file_recv`. -/
def fileEnds (sessionId : UInt32) (result : IoResult Unit) : DispatchRun :=
  let r := match result with
    | .ok () => r.maybeEndChannel call
    | .error _ => r
  (r.unregister sessionId call.channelId).handlerReturns env call result

/-- The messages and texts of a step, each of them with a `?`. -/
def fileOut (sessionId : UInt32) (out : HostOut) : IoResult DispatchRun := do
  if out.messages ≠ [] then r.sendToSession env sessionId
  if out.texts ≠ [] then r.sendChannelMessage env call
  return { r with sent := r.sent ++ out.messages, texts := r.texts ++ out.texts }

/-- A step of one of the two. -/
def stepFile {σ : Type} (sessionId : UInt32) (result : σ → Option (IoResult Unit))
    (phase : σ → CallPhase) (step : Option (σ × HostOut)) : Option DispatchRun :=
  step.map fun (s, out) =>
    match r.fileOut env call sessionId out with
    | .error e => r.fileEnds env call sessionId (.error e)
    | .ok r =>
      match result s with
      | some result => r.fileEnds env call sessionId result
      | none => { r with phase := phase s }

def tellAll (texts : List String) : DispatchRun := texts.foldl (fun r => r.tell env call) r

/-- What a step of one of the other handlers does to the client and to the response channels. -/
def setupOut (sessionId : UInt32) (out : SetupOut) : DispatchRun :=
  let r := r.tellAll env call out.texts
  let r := if out.mayEnd then r.maybeEndChannel call else r
  let r := out.registered.foldl (fun r => r.register call sessionId) r
  out.unregistered.foldl (fun r => r.unregister sessionId) r

/-- A handler goes on, or returns. -/
def goesOn {σ : Type} (result : σ → Option (IoResult Unit)) (phase : σ → CallPhase) (s : σ) :
    DispatchRun :=
  match result s with
  | some result => r.handlerReturns env call result
  | none => { r with phase := phase s }

/-- The message of a handler's phase is sent. -/
def stepSend {σ α ω : Type} (h : ServerHandler σ α ω) (result : σ → Option (IoResult Unit))
    (phase : σ → CallPhase) (s : σ) : Option DispatchRun :=
  (h.sending s).map fun p =>
    match r.sendOn env p.sessionId p.route with
    | .ok () => { r with sent := r.sent ++ [p.msg] }.goesOn env call result phase p.next
    | .error e => r.goesOn env call result phase (p.failed e)

/-- Another step of a handler. -/
def stepOwn {σ α ω : Type} (h : ServerHandler σ α ω) (sessionId : UInt32) (out : ω → SetupOut)
    (result : σ → Option (IoResult Unit)) (phase : σ → CallPhase) (s : σ) (act : α) :
    Option DispatchRun :=
  (h.step s act).map fun (s, o) =>
    (r.setupOut env call sessionId (out o)).goesOn env call result phase s

end
end DispatchRun

/-! Results and outputs of the handlers. -/

def SendPhase.result : SendPhase → Option (IoResult Unit)
  | .ended result => some result
  | _ => none

def RecvState.result (s : RecvState) : Option (IoResult Unit) :=
  match s.phase with
  | .ended result => some result
  | _ => none

def Install.result (s : Install) : Option (IoResult Unit) :=
  match s.phase with
  | .ended result => some result
  | _ => none

/-- Once it is set up, a forward leaves its listener behind and returns. -/
def SetupPhase.result : SetupPhase → Option (IoResult Unit)
  | .ended (.ok _) => some (.ok ())
  | .ended (.error e) => some (.error e)
  | _ => none

def RportSetupPhase.result : RportSetupPhase → Option (IoResult Unit)
  | .ended result => some result
  | _ => none

def FlashdPhase.result : FlashdPhase → Option (IoResult Unit)
  | .ended result => some result
  | _ => none

def InstallOut.setup (channelId : UInt32) (out : InstallOut) : SetupOut where
  texts := out.texts
  mayEnd := out.mayEnd
  unregistered := if out.unregister then [channelId] else []

def FlashdOut.setup (channelId : UInt32) (out : FlashdOut) : SetupOut where
  texts := out.texts
  mayEnd := out.mayEnd
  registered := if out.registered then [channelId] else []
  unregistered := if out.unregistered then [channelId] else []

/-! The arms. -/

namespace DispatchRun
section
variable (env : DispatchEnv) (call : DispatchCall) (r : DispatchRun)

/-- The arms with a handler: the device is resolved, and the handler started on its session. -/
def withSession (start : UInt32 → IoResult DispatchRun) : DispatchRun :=
  match resolveConnectKey env.connectMap call.connectKey with
  | .error e => r.fails env call (failText e)
  | .ok actualKey =>
    match env.connectMap.getSessionId actualKey with
    | none => r.fails env call "[Fail]Session not found\r\n"
    | some sessionId =>
      match start sessionId with
      | .ok r => r
      | .error e => r.fails env call (failText e)

def startFileSend (sessionId : UInt32) : IoResult DispatchRun := do
  let job ← sendStart call.channelId call.params env.fs
  return { r.register call sessionId call.channelId with phase := .fileSend sessionId job .wakeup }

def startFileRecv (sessionId : UInt32) : IoResult DispatchRun := do
  let job ← recvStart call.channelId call.params
  return { r.register call sessionId call.channelId with
    phase := .fileRecv sessionId job ⟨.init, none⟩ }

def startInstall (sessionId : UInt32) : IoResult DispatchRun := do
  let args ← installStart call.params
  return { r.register call sessionId call.channelId with
    phase := .install sessionId args (.start args) }

def startForward (sessionId : UInt32) : IoResult DispatchRun := do
  let job ← forwardStart sessionId call.channelId env.listenIp call.params
  return { r with phase := .forward job .start }

def startRport (sessionId : UInt32) : IoResult DispatchRun := do
  let job ← rportStart sessionId call.channelId call.params
  return { r with phase := .rport job .start }

def startFlashd (sessionId : UInt32) : IoResult DispatchRun :=
  .ok { r with phase := .flashd ⟨sessionId, call.channelId, call.cmd, call.params⟩ .start }

/-- The arms without: the session is resolved, and `next` sends the message. -/
def withResolved (next : UInt32 → DispatchRun) : DispatchRun :=
  match resolveSessionId env.connectMap call.connectKey with
  | .error e => r.tellOr env call (failText e) fun r => (r.maybeEndChannel call).returns (.ok ())
  | .ok sessionId => next sessionId

/-- `JdwpTrack`. The task that streams the daemon's messages is that of `dispatchTrack`. -/
def trackArm (sessionId : UInt32) : DispatchRun :=
  let r := r.register call sessionId call.channelId
  match r.sendToSession env sessionId with
  | .error e => r.tellOr env call (trackFailed e) fun r =>
      ((r.maybeEndChannel call).unregister sessionId call.channelId).returns (.ok ())
  | .ok () =>
    let r := { r with sent := r.sent ++ [jdwpTrack call.channelId call.params] }
    (r.associate call sessionId).returns (.ok ())

/-- `JdwpList`. The channel is associated with the session in either case. -/
def listArm (sessionId : UInt32) : DispatchRun :=
  match r.sendToSession env sessionId with
  | .error e => r.tellOr env call (trackFailed e) fun r =>
      ((r.maybeEndChannel call).associate call sessionId).returns (.ok ())
  | .ok () =>
    let msg : TaskMessage := ⟨call.channelId, .jdwpList, []⟩
    let r := { r with sent := r.sent ++ [msg] }
    (r.associate call sessionId).returns (.ok ())

/-- The end of the default arm, whether the message has been sent or not. -/
def taskSent (sessionId : UInt32) : DispatchRun :=
  let r := r.associate call sessionId
  if call.cmd = .appUninstall then
    { r.register call sessionId call.channelId with phase := .collect sessionId }
  else r.returns (.ok ())

/-- The default arm. -/
def taskArm (sessionId : UInt32) : DispatchRun :=
  match r.sendToSession env sessionId with
  | .error e => r.tellOr env call (trackFailed e) fun r => r.taskSent call sessionId
  | .ok () =>
    let msg : TaskMessage := ⟨call.channelId, call.cmd, taskPayload call.cmd call.params⟩
    { r with sent := r.sent ++ [msg] }.taskSent call sessionId

/-- `match cmd`. -/
def dispatch : DispatchRun :=
  match call.cmd with
  | .fileInit => r.withSession env call (r.startFileSend env call)
  | .fileRecvInit => r.withSession env call (r.startFileRecv call)
  | .appInit => r.withSession env call (r.startInstall call)
  | .forwardInit => r.withSession env call (r.startForward env call)
  | .forwardRportInit => r.withSession env call (r.startRport call)
  | .flashdUpdateInit | .flashdFlashInit | .flashdErase | .flashdFormat =>
    r.withSession env call (r.startFlashd call)
  | .jdwpTrack => r.withResolved env call (r.trackArm env call)
  | .jdwpList => r.withResolved env call (r.listArm env call)
  | _ => r.withResolved env call (r.taskArm env call)

/-- The end of `collect_daemon_response_then_close`. -/
def collected (sessionId : UInt32) : DispatchRun :=
  ((r.unregister sessionId call.channelId).maybeEndChannel call).returns (.ok ())

end
end DispatchRun

/-- A handler that tells the client something with a `?` goes on as the client takes it. -/
def CallAct.told : CallAct → Option (IoResult Unit)
  | .install (.tell outcome) | .setup (.tell outcome) | .rport (.tell outcome) => some outcome
  | _ => none

/-- A step in each of the phases. -/
def DispatchRun.stepPhase (env : DispatchEnv) (call : DispatchCall) (r : DispatchRun)
    (act : CallAct) : Option DispatchRun :=
  match r.phase, act with
  | .start, .call => if needsDaemon call.cmd then some (r.dispatch env call) else none
  | .fileSend sessionId job phase, .file act =>
    r.stepFile env call sessionId SendPhase.result (.fileSend sessionId job)
      (sendStep job phase act)
  | .fileRecv sessionId job state, .file act =>
    r.stepFile env call sessionId RecvState.result (.fileRecv sessionId job)
      (recvStep job state act)
  | .install sessionId args state, .send =>
    r.stepSend env call (appInstall sessionId call.channelId args) Install.result
      (.install sessionId args) state
  | .install sessionId args state, .install act =>
    r.stepOwn env call (appInstall sessionId call.channelId args) sessionId
      (InstallOut.setup call.channelId) Install.result (.install sessionId args) state act
  | .forward job phase, .send =>
    r.stepSend env call (forwardSetup job) SetupPhase.result (.forward job) phase
  | .forward job phase, .setup act =>
    r.stepOwn env call (forwardSetup job) job.sessionId id SetupPhase.result (.forward job) phase
      act
  | .rport job phase, .send =>
    r.stepSend env call (rportSetup job) RportSetupPhase.result (.rport job) phase
  | .rport job phase, .rport act =>
    r.stepOwn env call (rportSetup job) job.sessionId id RportSetupPhase.result (.rport job) phase
      act
  | .flashd job phase, .send =>
    r.stepSend env call (flashd env.percent job) FlashdPhase.result (.flashd job) phase
  | .flashd job phase, .flashd act =>
    r.stepOwn env call (flashd env.percent job) job.sessionId (FlashdOut.setup call.channelId)
      FlashdPhase.result (.flashd job) phase act
  | .collect sessionId, .recv task =>
    some (if task.command = .kernelChannelClose then r.collected call sessionId
      else r.tell env call (fromUtf8Lossy task.payload))
  | .collect sessionId, .idle => some (r.collected call sessionId)
  | _, _ => none

/-- `dispatch_task`, for the commands that need a daemon. -/
def dispatchStep (env : DispatchEnv) (call : DispatchCall) (r : DispatchRun) (act : CallAct) :
    Option DispatchRun :=
  if act.told.all (· = r.sendChannelMessage env call) then r.stepPhase env call act else none

end Hdc
