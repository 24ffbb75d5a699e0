import Hdc.Bytes
import Hdc.ConnectMap
import Hdc.Packet

/- How a handler of the server reaches the daemon of a session (`hdc/src/server.rs`), and
   the handlers that stream between a client and a daemon: the bridge of the interactive
   shell, and the two ways to follow `track-jpid`.

   A session is known to `TcpMap` or to `UsbMap`. `send_to_session` tries the one and then
   the other; a handler that calls the method of `UsbMap` itself reaches the sessions of that
   map only. So a `ServerHandler` is given by the message each of its phases is to send, with the
   `Route` it takes, and by its other steps, which do not see the maps. -/
namespace Hdc
open Rust Wire

/-! Sending to a session. -/

/-- `session_writers` of `TcpMap` and `session_senders` of `UsbMap`. -/
structure SessionMaps where
  writers : List UInt32
  senders : List UInt32
  deriving DecidableEq, Repr

section
variable (maps : SessionMaps) (sessionId : UInt32)

/-- `TcpMap::send_to_session`; `outcome` is that of the writer, if there is one. -/
def SessionMaps.tcpSend (outcome : IoResult Unit) : IoResult Unit :=
  if sessionId ∈ maps.writers then outcome else .error ⟨.notFound, "session not found"⟩

/-- `UsbMap::send_to_session`. -/
def SessionMaps.usbSend (outcome : IoResult Unit) : IoResult Unit :=
  if sessionId ∈ maps.senders then outcome else .error ⟨.notFound, "usb session not found"⟩

/-- `send_to_session`. -/
def SessionMaps.sendToSession (outcome : IoResult Unit) : IoResult Unit :=
  match maps.tcpSend sessionId outcome with
  | .ok () => .ok ()
  | .error _ => maps.usbSend sessionId outcome

/-- The session of a TCP daemon, and of a USB daemon. -/
def OverTcp : Prop := sessionId ∈ maps.writers ∧ sessionId ∉ maps.senders

def OverUsb : Prop := sessionId ∉ maps.writers ∧ sessionId ∈ maps.senders

instance : Decidable (OverTcp maps sessionId) := inferInstanceAs (Decidable (_ ∧ _))

instance : Decidable (OverUsb maps sessionId) := inferInstanceAs (Decidable (_ ∧ _))

end

section
variable {maps : SessionMaps} {sessionId : UInt32}

theorem OverTcp.usbSend (h : OverTcp maps sessionId) (outcome : IoResult Unit) :
    maps.usbSend sessionId outcome = .error ⟨.notFound, "usb session not found"⟩ :=
  if_neg h.2

theorem OverUsb.usbSend (h : OverUsb maps sessionId) (outcome : IoResult Unit) :
    maps.usbSend sessionId outcome = outcome :=
  if_pos h.2

theorem OverTcp.send_ok (h : OverTcp maps sessionId) :
    maps.sendToSession sessionId (.ok ()) = .ok () := by
  rw [SessionMaps.sendToSession, SessionMaps.tcpSend, if_pos h.1]

theorem OverTcp.send_error (h : OverTcp maps sessionId) (e : IoError) :
    maps.sendToSession sessionId (.error e) = .error ⟨.notFound, "usb session not found"⟩ := by
  rw [SessionMaps.sendToSession, SessionMaps.tcpSend, if_pos h.1]
  exact h.usbSend _

theorem OverUsb.send_eq (h : OverUsb maps sessionId) (outcome : IoResult Unit) :
    maps.sendToSession sessionId outcome = outcome := by
  rw [SessionMaps.sendToSession, SessionMaps.tcpSend, if_neg h.1]
  exact h.usbSend _

end

/-! Handlers. -/

/-- Which of the two a handler calls. -/
inductive Route where
  | sendToSession
  | usbMap
  deriving DecidableEq, Repr

def Route.send (maps : SessionMaps) (sessionId : UInt32) (outcome : IoResult Unit) :
    Route → IoResult Unit
  | .sendToSession => maps.sendToSession sessionId outcome
  | .usbMap => maps.usbSend sessionId outcome

/-- A message that is to be sent, and where the handler goes on. -/
structure Sending (σ : Type) where
  route : Route
  sessionId : UInt32
  msg : TaskMessage
  next : σ
  failed : IoError → σ

/-- A handler with states `σ`, driven by `α`, with an output `ω` that is not for the daemon. -/
structure ServerHandler (σ α ω : Type) where
  sending : σ → Option (Sending σ)
  step : σ → α → Option (σ × ω)

inductive ServerAct (α : Type) where
  /-- The message is sent; `outcome` is that of the map that has the session. -/
  | send (outcome : IoResult Unit)
  | own (act : α)
  deriving DecidableEq, Repr

/-- A step of a handler, with the messages that reach the daemon. -/
def ServerHandler.deliver {σ α ω : Type} (h : ServerHandler σ α ω) (maps : SessionMaps) (s : σ) :
    ServerAct α → Option (σ × List TaskMessage)
  | .send outcome => (h.sending s).map fun p =>
      match p.route.send maps p.sessionId outcome with
      | .ok () => (p.next, [p.msg])
      | .error e => (p.failed e, [])
  | .own act => (h.step s act).map fun (s', _) => (s', [])

/-- A step is one of the handler's own, a send, or a send that fails. -/
theorem ServerHandler.deliver_cases {σ α ω : Type} {h : ServerHandler σ α ω} {maps : SessionMaps} {s s' : σ}
    {act : ServerAct α} {sent : List TaskMessage} (hst : h.deliver maps s act = some (s', sent)) :
    (∃ a out, act = .own a ∧ h.step s a = some (s', out) ∧ sent = []) ∨
    (∃ outcome p, act = .send outcome ∧ h.sending s = some p ∧
      p.route.send maps p.sessionId outcome = .ok () ∧ s' = p.next ∧ sent = [p.msg]) ∨
    (∃ outcome p e, act = .send outcome ∧ h.sending s = some p ∧
      p.route.send maps p.sessionId outcome = .error e ∧ s' = p.failed e ∧ sent = []) := by
  cases act with
  | own a =>
    obtain ⟨⟨_, out⟩, hstep, heq⟩ := Option.map_eq_some_iff.mp hst
    cases heq
    exact .inl ⟨a, out, rfl, hstep, rfl⟩
  | send outcome =>
    obtain ⟨p, hp, heq⟩ := Option.map_eq_some_iff.mp hst
    right
    split at heq
    · rename_i hok
      cases heq
      exact .inl ⟨outcome, p, rfl, hp, hok, rfl, rfl⟩
    · rename_i e herror
      cases heq
      exact .inr ⟨outcome, p, e, rfl, hp, herror, rfl, rfl⟩

/-- A message with its length in front. -/
def lengthPrefixed (payload : List UInt8) : List UInt8 := be 4 payload.length ++ payload

theorem length_lengthPrefixed (payload : List UInt8) :
    (lengthPrefixed payload).length = 4 + payload.length := by
  rw [lengthPrefixed, List.length_append, be_length]

/-! The interactive shell. -/

inductive ShellPhase where
  /-- The session is to be looked up. -/
  | start
  /-- `ShellInit` is to be sent. -/
  | init
  /-- The text is to be written, since there is no way to the daemon. -/
  | failing (text : String)
  /-- In the loop over the client's messages. -/
  | reading
  | sending (data : List UInt8)
  /-- The loop is over, and the reader of the daemon's messages is awaited. -/
  | joining
  | ended
  deriving DecidableEq, Repr

/-- `reader` is whether the task that reads the daemon's messages runs, `registered` whether
the response channel is. -/
structure ShellBridge where
  phase : ShellPhase
  reader : Bool
  registered : Bool
  deriving DecidableEq, Repr

def ShellBridge.fresh : ShellBridge := ⟨.start, false, false⟩

inductive ShellAct where
  | next
  /-- `recv_channel_message` returns a message, or fails. -/
  | client (data : List UInt8)
  | clientEnd
  /-- The reader takes a message; `ok` is whether the write to the client succeeds. -/
  | recv (task : TaskMessage) (ok : Bool)
  | closed
  deriving DecidableEq, Repr

/-- `run_server_shell_bridge`, where `found` is the result of its `get_session_id`. The output
is what is written to the client. -/
def shellBridge (found : Option UInt32) (channelId : UInt32) :
    ServerHandler ShellBridge ShellAct (List UInt8) where
  sending b := found.bind fun sessionId =>
    match b.phase with
    | .init => some {
        route := .usbMap, sessionId
        msg := ⟨channelId, .shellInit, []⟩
        next := { b with phase := .reading, reader := true }
        failed := fun e => { b with phase := .failing ("[Fail]" ++ e.msg ++ "\r\n") } }
    | .sending data => some {
        route := .usbMap, sessionId
        msg := ⟨channelId, .shellData, data⟩
        next := { b with phase := .reading }
        failed := fun _ => { b with phase := .joining } }
    | _ => none
  step b act :=
    match b.phase, act with
    | .start, .next =>
      match found with
      | some _ => some ({ b with phase := .init, registered := true }, [])
      | none => some ({ b with phase := .failing "[Fail]No device connected\r\n" }, [])
    | .failing text, .next => some ({ b with phase := .ended, registered := false }, utf8 text)
    | .joining, .next =>
      if b.reader then none else some ({ b with phase := .ended, registered := false }, [])
    | .reading, .client data => some ({ b with phase := .sending data }, [])
    | .reading, .clientEnd => some ({ b with phase := .joining }, [])
    | _, .recv task ok =>
      if b.reader then
        match task.command with
        | .shellData | .kernelEcho | .kernelEchoRaw =>
          some (if ok then (b, lengthPrefixed task.payload) else ({ b with reader := false }, []))
        | .kernelChannelClose => some ({ b with reader := false }, [])
        | _ => some (b, [])
      else none
    | _, .closed => if b.reader then some ({ b with reader := false }, []) else none
    | _, _ => none

/-! `track-jpid`. -/

/-- Only the option character is sent. -/
def trackPayload (params : List String) : List UInt8 :=
  if "-a" ∈ params then utf8 "a" else if "-p" ∈ params then utf8 "p" else []

def jdwpTrack (channelId : UInt32) (params : List String) : TaskMessage :=
  ⟨channelId, .jdwpTrack, trackPayload params⟩

/-- The log level in front of an echo is not passed on. -/
def stripLevel (task : TaskMessage) : List UInt8 :=
  if task.command = .kernelEcho ∧ task.payload ≠ [] then task.payload.tail else task.payload

inductive TrackPhase where
  | start
  /-- `JdwpTrack` is to be sent. -/
  | track
  | failing (text : String)
  /-- The reader streams the daemon's messages. -/
  | streaming
  /-- The client has closed its socket, and the reader is awaited. -/
  | joining
  | ended
  deriving DecidableEq, Repr

structure Track where
  phase : TrackPhase
  reader : Bool
  registered : Bool
  deriving DecidableEq, Repr

def Track.fresh : Track := ⟨.start, false, false⟩

inductive TrackAct where
  /-- The next thing to do; `ok` is whether the client takes the text there is for it. -/
  | next (ok : Bool)
  /-- The client's socket is read, to its end or not. -/
  | client (isEnd : Bool)
  | recv (task : TaskMessage) (ok : Bool)
  | closed
  deriving DecidableEq, Repr

/-- The task that streams the daemon's messages. -/
def Track.read (t : Track) (task : TaskMessage) (ok : Bool) : Option (Track × List UInt8) :=
  if t.reader then
    some (if task.command = .kernelChannelClose ∨ ok = false then ({ t with reader := false }, [])
      else (t, lengthPrefixed (stripLevel task)))
  else none

def trackFailed (e : IoError) : String := "[Fail]Send to daemon failed: " ++ e.msg ++ "\r\n"

/-- `handle_deveco_jdwp_track`, where `found` is the result of `get_session_id("any")`. -/
def devecoTrack (found : Option UInt32) (channelId : UInt32) (params : List String) :
    ServerHandler Track TrackAct (List UInt8) where
  sending t := found.bind fun sessionId =>
    match t.phase with
    | .track => some {
        route := .usbMap, sessionId
        msg := jdwpTrack channelId params
        next := { t with phase := .streaming, reader := true }
        failed := fun e => { t with phase := .failing (trackFailed e) } }
    | _ => none
  step t act :=
    match t.phase, act with
    | .start, .next _ =>
      match found with
      | some _ => some ({ t with phase := .track, registered := true }, [])
      | none => some ({ t with phase := .failing "[Fail]No device connected\r\n" }, [])
    | .failing text, .next ok =>
      some ({ t with phase := .ended, registered := false }, if ok then utf8 text else [])
    | .joining, .next _ =>
      if t.reader then none else some ({ t with phase := .ended, registered := false }, [])
    | .streaming, .client isEnd =>
      some ({ t with phase := if isEnd then .joining else .streaming }, [])
    | _, .recv task ok => t.read task ok
    | _, .closed => if t.reader then some ({ t with reader := false }, []) else none
    | _, _ => none

/-- The `JdwpTrack` arm of `dispatch_task`, where `found` is the result of
`resolve_session_id`. If the client cannot be told of a failure the arm returns that error,
with the response channel left as it is. -/
def dispatchTrack (found : IoResult UInt32) (channelId : UInt32) (params : List String) :
    ServerHandler Track TrackAct (List UInt8) where
  sending t := found.toOption.bind fun sessionId =>
    match t.phase with
    | .track => some {
        route := .sendToSession, sessionId
        msg := jdwpTrack channelId params
        next := { t with phase := .streaming, reader := true }
        failed := fun e => { t with phase := .failing (trackFailed e) } }
    | _ => none
  step t act :=
    match t.phase, act with
    | .start, .next _ =>
      match found with
      | .ok _ => some ({ t with phase := .track, registered := true }, [])
      | .error e => some ({ t with phase := .failing ("[Fail]" ++ e.msg ++ "\r\n") }, [])
    | .failing text, .next ok =>
      some (if ok then ({ t with phase := .ended, registered := false }, lengthPrefixed (utf8 text))
        else ({ t with phase := .ended }, []))
    | .streaming, .next _ =>
      if t.reader then none else some ({ t with phase := .ended, registered := false }, [])
    | _, .recv task ok => t.read task ok
    | _, .closed => if t.reader then some ({ t with reader := false }, []) else none
    | _, _ => none

end Hdc
