import Hdc.HandshakeAgreement
import Hdc.ServerHandlers
import Hdc.TcpBookkeeping

/- Where the host's server takes a message of a daemon after the authentication: the routing in the
   reader task of `start_tcp_daemon_session` and in the read loop of `start_usb_session`
   (`hdc/src/server.rs`).

   Both try a handshake, a handler registered for the channel and the commands for a client, but
   not in the same order, and only the TCP reader drops heartbeats. `routing_eq_iff` says for which
   messages that shows; `readers_emit_alike` carries it over to all that a reader is given. -/
namespace Hdc
open Rust Wire Lts

/-- The maps a reader works on. `listening` are the response channels whose receiver has not been
dropped. -/
structure ReaderServer where
  tcp : TcpMapInner
  usb : UsbMap
  listening : UInt32 → UInt32 → Bool

/-- What comes of a message outside the maps. -/
inductive ReaderEffect where
  /-- The handler that waits on the channel receives the message. -/
  | toHandler (channelId : UInt32) (task : TaskMessage)
  /-- The bytes are written to the client. -/
  | toClient (channelId : UInt32) (data : List UInt8)
  /-- The message is given to `send_to_session` of the session's own map. -/
  | toDaemon (reply : TaskMessage)
  deriving DecidableEq, Repr

namespace ReaderServer

/-- `UsbMap::route_response`, which says `true` (`some`) for a handler that no longer listens
too. -/
def routeResponse (s : ReaderServer) (sessionId : UInt32) (task : TaskMessage) :
    Option (List ReaderEffect) :=
  (s.usb.responseChannels sessionId task.channelId).map fun _ =>
    if s.listening sessionId task.channelId then [.toHandler task.channelId task] else []

/-- `TcpMap::send_channel_message`, whose outcome is not looked at. -/
def sendChannelMessage (s : ReaderServer) (channelId : UInt32) (data : List UInt8) :
    List ReaderEffect :=
  if s.tcp.channelWriters channelId then [.toClient channelId (lengthPrefixed data)] else []

end ReaderServer

section
variable (env : HostEnv) (sessionId : UInt32) (connectKey : String) (s : ReaderServer)
  (task : TaskMessage)

/-- The answer to a handshake after the authentication: a challenge that can be signed is. -/
def signedReply : List ReaderEffect :=
  match SessionHandShake.deserialize task.payload with
  | .ok daemonHs =>
    if daemonHs.authType = authTypeSignature then
      match env.rsaSignChallenge daemonHs.buf with
      | .ok signature =>
        let replyHs : SessionHandShake := {
          banner := handshakeMessage
          authType := authTypeSignature
          sessionId
          connectKey
          buf := signature
          version := getVersion ++ "47d583e40754ffe6" }
        [.toDaemon (handshakeTask replyHs)]
      | .error _ => []
    else []
  | .error _ => []

/-- The reader task of `start_tcp_daemon_session`. -/
def tcpRouting : ReaderServer × List ReaderEffect :=
  if task.command = .heartbeatMsg then (s, [])
  else match s.routeResponse sessionId task with
    | some handled => (s, handled)
    | none =>
      if task.command = .kernelHandshake then (s, signedReply env sessionId connectKey task)
      else if task.command = .kernelEcho then
        let payload := if task.payload = [] then task.payload else task.payload.tail
        (s, s.sendChannelMessage task.channelId payload)
      else if task.command = .kernelEchoRaw then
        (s, s.sendChannelMessage task.channelId task.payload)
      else if task.command = .kernelChannelClose then
        ({ s with tcp := s.tcp.endChannel task.channelId }, [])
      else if task.command = .fileInit ∨ task.command = .fileCheck ∨
          task.command = .unityBugreportInit then (s, [])
      else (s, s.sendChannelMessage task.channelId task.payload)

/-- The read loop of `start_usb_session`. -/
def usbRouting : ReaderServer × List ReaderEffect :=
  if task.command = .kernelHandshake then (s, signedReply env sessionId connectKey task)
  else match s.routeResponse sessionId task with
    | some handled => (s, handled)
    | none =>
      if task.command = .kernelEcho then
        let payload := if task.payload = [] then task.payload else task.payload.tail
        (s, s.sendChannelMessage task.channelId payload)
      else if task.command = .kernelEchoRaw then
        (s, s.sendChannelMessage task.channelId task.payload)
      else if task.command = .kernelChannelClose then
        ({ s with tcp := s.tcp.endChannel task.channelId }, [])
      else if task.command = .fileInit ∨ task.command = .fileCheck ∨
          task.command = .unityBugreportInit then (s, [])
      else (s, s.sendChannelMessage task.channelId task.payload)

/-- The message is a challenge that the host can sign. -/
def Signable : Prop :=
  ∃ daemonHs signature, SessionHandShake.deserialize task.payload = .ok daemonHs ∧
    daemonHs.authType = authTypeSignature ∧ env.rsaSignChallenge daemonHs.buf = .ok signature

/-- A heartbeat has neither a handler nor a client to go to, and a handshake comes on a channel
that no command has registered, or that nobody listens on while there is nothing to sign. -/
def RoutesAlike : Prop :=
  match task.command with
  | .heartbeatMsg =>
    match s.usb.responseChannels sessionId task.channelId with
    | some _ => s.listening sessionId task.channelId = false
    | none => s.tcp.channelWriters task.channelId = false
  | .kernelHandshake =>
    ∀ registered, s.usb.responseChannels sessionId task.channelId = some registered →
      s.listening sessionId task.channelId = false ∧ ¬ Signable env task
  | _ => True

end

section
variable {env : HostEnv} {sessionId : UInt32} {connectKey : String} {s : ReaderServer}
  {task : TaskMessage}

theorem sendChannelMessage_eq_nil {channelId : UInt32} {data : List UInt8} :
    s.sendChannelMessage channelId data = [] ↔ s.tcp.channelWriters channelId = false := by
  simp [ReaderServer.sendChannelMessage]

theorem signedReply_eq_nil :
    signedReply env sessionId connectKey task = [] ↔ ¬ Signable env task := by
  unfold signedReply Signable
  cases SessionHandShake.deserialize task.payload with
  | error e => simp
  | ok daemonHs =>
    by_cases htype : daemonHs.authType = authTypeSignature
    · cases hsign : env.rsaSignChallenge daemonHs.buf <;> simp [htype, hsign]
    · simp [htype]

/-- A message that is given to a handler is not answered. -/
theorem toHandler_ne_signedReply {channelId : UInt32} :
    [ReaderEffect.toHandler channelId task] ≠ signedReply env sessionId connectKey task := by
  unfold signedReply
  repeat' split
  all_goals simp

/-- Apart from heartbeats and handshakes the order of the tests does not matter. -/
theorem routing_eq_of_ne (hheartbeat : task.command ≠ .heartbeatMsg)
    (hhandshake : task.command ≠ .kernelHandshake) :
    tcpRouting env sessionId connectKey s task = usbRouting env sessionId connectKey s task := by
  simp only [tcpRouting, usbRouting, if_neg hheartbeat, if_neg hhandshake]

theorem routing_heartbeat_iff (h : task.command = .heartbeatMsg) :
    tcpRouting env sessionId connectKey s task = usbRouting env sessionId connectKey s task ↔
      RoutesAlike env sessionId s task := by
  simp only [tcpRouting, usbRouting, RoutesAlike, ReaderServer.routeResponse, h, if_true,
    reduceCtorEq, if_false, or_self]
  cases s.usb.responseChannels sessionId task.channelId with
  | none =>
    simp only [Option.map_none, Prod.mk.injEq, true_and]
    exact eq_comm.trans sendChannelMessage_eq_nil
  | some registered => cases s.listening sessionId task.channelId <;> simp

theorem routing_handshake_iff (h : task.command = .kernelHandshake) :
    tcpRouting env sessionId connectKey s task = usbRouting env sessionId connectKey s task ↔
      RoutesAlike env sessionId s task := by
  simp only [tcpRouting, usbRouting, RoutesAlike, ReaderServer.routeResponse, h, if_true,
    reduceCtorEq, if_false]
  cases s.usb.responseChannels sessionId task.channelId with
  | none => simp
  | some registered =>
    cases s.listening sessionId task.channelId with
    | true => simp [toHandler_ne_signedReply]
    | false =>
      simp only [Option.map_some, Bool.false_eq_true, if_false, Prod.mk.injEq, true_and,
        Option.some.injEq, forall_eq']
      exact eq_comm.trans signedReply_eq_nil

theorem RoutesAlike.of_ne (hheartbeat : task.command ≠ .heartbeatMsg)
    (hhandshake : task.command ≠ .kernelHandshake) : RoutesAlike env sessionId s task := by
  unfold RoutesAlike
  split
  · exact absurd ‹_› hheartbeat
  · exact absurd ‹_› hhandshake
  · trivial

theorem RoutesAlike.routing_eq (h : RoutesAlike env sessionId s task) :
    tcpRouting env sessionId connectKey s task = usbRouting env sessionId connectKey s task := by
  by_cases hheartbeat : task.command = .heartbeatMsg
  · exact (routing_heartbeat_iff hheartbeat).mpr h
  by_cases hhandshake : task.command = .kernelHandshake
  · exact (routing_handshake_iff hhandshake).mpr h
  exact routing_eq_of_ne hheartbeat hhandshake

end

/-- The two readers do the same with a message exactly if it is neither a heartbeat that somebody
waits for, nor a handshake on the channel of a command. -/
theorem routing_eq_iff (env : HostEnv) (sessionId : UInt32) (connectKey : String)
    (s : ReaderServer) (task : TaskMessage) :
    tcpRouting env sessionId connectKey s task = usbRouting env sessionId connectKey s task ↔
      RoutesAlike env sessionId s task := by
  refine ⟨fun heq => ?_, RoutesAlike.routing_eq⟩
  by_cases hheartbeat : task.command = .heartbeatMsg
  · exact (routing_heartbeat_iff hheartbeat).mp heq
  by_cases hhandshake : task.command = .kernelHandshake
  · exact (routing_handshake_iff hhandshake).mp heq
  exact .of_ne hheartbeat hhandshake

/-! All that a reader is given. -/

/-- The readers as machines with output. -/
def tcpReads (env : HostEnv) (sessionId : UInt32) (connectKey : String) (s : ReaderServer)
    (task : TaskMessage) : Option (ReaderServer × List ReaderEffect) :=
  some (tcpRouting env sessionId connectKey s task)

def usbReads (env : HostEnv) (sessionId : UInt32) (connectKey : String) (s : ReaderServer)
    (task : TaskMessage) : Option (ReaderServer × List ReaderEffect) :=
  some (usbRouting env sessionId connectKey s task)

/-- Each message is routed alike in the state that the TCP reader meets it in. -/
def RunAlike (env : HostEnv) (sessionId : UInt32) (connectKey : String) :
    ReaderServer → List TaskMessage → Prop
  | _, [] => True
  | s, task :: tasks => RoutesAlike env sessionId s task ∧
      RunAlike env sessionId connectKey (tcpRouting env sessionId connectKey s task).1 tasks

theorem readers_emit_alike {env : HostEnv} {sessionId : UInt32} {connectKey : String}
    (tasks : List TaskMessage) (s : ReaderServer) (h : RunAlike env sessionId connectKey s tasks) :
    emitted (tcpReads env sessionId connectKey) s tasks =
      emitted (usbReads env sessionId connectKey) s tasks := by
  induction tasks generalizing s with
  | nil => rfl
  | cons task tasks ih =>
    obtain ⟨halike, hrest⟩ := h
    simp only [emitted, tcpReads, usbReads, ← halike.routing_eq]
    exact congrArg _ (ih _ hrest)

/-- A client on channel 7, and a command that waits on channel 8 of session 5. -/
def waitingServer : ReaderServer where
  tcp := TcpMapInner.new.startChannel 7
  usb := UsbMap.new.registerResponseChannel 5 8 "SN1"
  listening := fun _ _ => true

/-- A host that can sign. -/
def signingHost : HostEnv where
  encryptChannel := false
  getPublicKeyInfo := .ok ""
  base64Decode := fun _ => .ok []
  decryptPsk := fun _ => .ok []
  rsaSignChallenge := fun _ => .ok "signed"

/-- A challenge on the channel of the command. -/
def lateChallenge : TaskMessage where
  channelId := 8
  command := .kernelHandshake
  payload := SessionHandShake.serialize ⟨handshakeMessage, authTypeSignature, 5, "", "nonce", ""⟩

/-- Over USB a heartbeat reaches the client, as an empty message; over TCP a challenge on the
channel of a command reaches the command, and is not answered. -/
theorem routing_differs :
    (tcpRouting signingHost 5 "SN1" waitingServer ⟨7, .heartbeatMsg, []⟩).2 = [] ∧
    (usbRouting signingHost 5 "SN1" waitingServer ⟨7, .heartbeatMsg, []⟩).2 =
      [.toClient 7 [0, 0, 0, 0]] ∧
    (tcpRouting signingHost 5 "SN1" waitingServer lateChallenge).2 =
      [.toHandler 8 lateChallenge] ∧
    (usbRouting signingHost 5 "SN1" waitingServer lateChallenge).2 =
      [.toDaemon (handshakeTask ⟨handshakeMessage, authTypeSignature, 5, "SN1", "signed",
        getVersion ++ "47d583e40754ffe6"⟩)] := by
  decide

end Hdc
