import Hdc.ForwardMap
import Hdc.LiveSessions

/- The maps of the host's server that are keyed by a session id (`TcpMap`, `UsbMap` and
   `ForwardMap` in `hdc/src/server.rs`), and all that writes to them: the sessions from their
   start to their cleanup, and the commands of the clients.

   A session registers what it needs under its id, a command under the id it has looked up in the
   `ConnectMap`, which may be long ago. Nothing in the maps says whose id that is. `Owned` is what
   holds as long as no two devices have had the same one (`OwnIds`); the host draws ids at random,
   but a USB session goes on under the id its device has answered with. -/
namespace Hdc
open Rust Lts

/-! The maps. -/

/-- Writers and ciphers by session id, with the session they were made for; client channels that
have a writer, and the sessions that channels are associated with. -/
structure TcpMap where
  sessionWriters : UInt32 → Option Nat
  sessionCiphers : UInt32 → Option Nat
  channelWriters : UInt32 → Bool
  channelSessions : UInt32 → Option UInt32

namespace TcpMap

def new : TcpMap := ⟨fun _ => none, fun _ => none, fun _ => false, fun _ => none⟩

def startSession (m : TcpMap) (id : UInt32) (wr : Nat) : TcpMap :=
  { m with sessionWriters := Function.update m.sessionWriters id (some wr) }

def startChannel (m : TcpMap) (id : UInt32) : TcpMap :=
  { m with channelWriters := Function.update m.channelWriters id true }

def endSession (m : TcpMap) (id : UInt32) : TcpMap :=
  { m with sessionWriters := Function.update m.sessionWriters id none }

def endChannel (m : TcpMap) (id : UInt32) : TcpMap :=
  { m with channelWriters := Function.update m.channelWriters id false }

def setSessionCipher (m : TcpMap) (sessionId : UInt32) (cipher : Nat) : TcpMap :=
  { m with sessionCiphers := Function.update m.sessionCiphers sessionId (some cipher) }

def takeChannelWriter (m : TcpMap) (channelId : UInt32) : TcpMap :=
  { m with
    channelSessions := Function.update m.channelSessions channelId none
    channelWriters := Function.update m.channelWriters channelId false }

def associateChannelWithSession (m : TcpMap) (channelId sessionId : UInt32) : TcpMap :=
  { m with channelSessions := Function.update m.channelSessions channelId (some sessionId) }

def closeSessionChannels (m : TcpMap) (sessionId : UInt32) : TcpMap :=
  { m with
    channelSessions := fun c => if m.channelSessions c = some sessionId then none else m.channelSessions c
    channelWriters := fun c => if m.channelSessions c = some sessionId then false else m.channelWriters c }

end TcpMap

/-- Senders by session id, with the session whose writer task has the other end; response
channels by session and channel id, with the device whose command is waiting at the other end. -/
structure UsbMap where
  sessionSenders : UInt32 → Option Nat
  responseChannels : UInt32 → UInt32 → Option String

namespace UsbMap

def new : UsbMap := ⟨fun _ => none, fun _ _ => none⟩

def startSession (m : UsbMap) (id : UInt32) (tx : Nat) : UsbMap :=
  { m with sessionSenders := Function.update m.sessionSenders id (some tx) }

def endSession (m : UsbMap) (id : UInt32) : UsbMap :=
  { m with sessionSenders := Function.update m.sessionSenders id none }

def endSessionWithCleanup (m : UsbMap) (id : UInt32) : UsbMap where
  sessionSenders := Function.update m.sessionSenders id none
  responseChannels := Function.update m.responseChannels id fun _ => none

/-- The entry of `(session_id, channel_id)` is set. -/
def setResponseChannel (m : UsbMap) (sessionId channelId : UInt32) (tx : Option String) : UsbMap :=
  let channels := Function.update (m.responseChannels sessionId) channelId tx
  { m with responseChannels := Function.update m.responseChannels sessionId channels }

def registerResponseChannel (m : UsbMap) (sessionId channelId : UInt32) (tx : String) : UsbMap :=
  m.setResponseChannel sessionId channelId (some tx)

def unregisterResponseChannel (m : UsbMap) (sessionId channelId : UInt32) : UsbMap :=
  m.setResponseChannel sessionId channelId none

theorem endSessionWithCleanup_response (m : UsbMap) (id id' c : UInt32) :
    (m.endSessionWithCleanup id).responseChannels id' c =
      if id' = id then none else m.responseChannels id' c := by
  simp only [endSessionWithCleanup, Function.update_apply]
  split <;> rfl

theorem setResponseChannel_response (m : UsbMap) (id c : UInt32) (tx : Option String)
    (id' c' : UInt32) : (m.setResponseChannel id c tx).responseChannels id' c' =
      if id' = id ∧ c' = c then tx else m.responseChannels id' c' := by
  simp only [setResponseChannel, Function.update_apply]
  by_cases hid : id' = id
  · simp [hid, Function.update_apply]
  · rw [if_neg hid, if_neg fun h => hid h.1]

end UsbMap

/-! The server. -/

/-- How far the cleanup of a session has come, after the entry in the `ConnectMap`. -/
inductive Cleanup where
  | idle
  /-- `end_session`, or `end_session_with_cleanup`. -/
  | endSession
  | closeChannels
  | removeForwards
  | done
  deriving DecidableEq, Repr

/-- `resolved` are the devices that commands have looked up, with the ids they have found. -/
structure HostServer where
  host : HostSessions
  tcp : TcpMap
  usb : UsbMap
  forwards : ForwardMap
  resolved : List (String × UInt32)
  cleanup : Nat → Cleanup

def HostServer.init : HostServer := ⟨.init, .new, .new, .new, [], fun _ => .idle⟩

inductive MapAct where
  | session (act : SessionAct)
  /-- Session `i` has accepted a PSK. -/
  | setCipher (i : Nat)
  /-- `end_session`, before session `i` fails. -/
  | endStarting (i : Nat)
  /-- Session `i` registers its sender. -/
  | openSender (i : Nat)
  /-- The writer task of session `i` is over. -/
  | writerEnds (i : Nat)
  /-- The next step of the cleanup of session `i`. -/
  | cleanup (i : Nat)
  | startChannel (channelId : UInt32)
  | endChannel (channelId : UInt32)
  | takeChannelWriter (channelId : UInt32)
  /-- A command looks up the session of a device. -/
  | resolve (key : String)
  -- what a command does with the id it has found for a device
  | associate (key : String) (sessionId channelId : UInt32)
  | register (key : String) (sessionId channelId : UInt32)
  | unregister (sessionId channelId : UInt32)
  | endResolved (key : String) (sessionId : UInt32)
  | forward (entry : ForwardEntry)
  /-- `remove_forward_entry`, for a client. -/
  | removeForward (connectKeyFilter spec : String)
  /-- An iteration gives the entries in another order. -/
  | reorder (entries : List ForwardEntry)
  deriving DecidableEq, Repr

/-- What a step of a session does to the writers. -/
def HostServer.tcpAfter (s : HostServer) : SessionAct → TcpMap
  | .tconn _ sessionId => s.tcp.startSession sessionId s.host.sessions.length
  | _ => s.tcp

/-- The cleanup starts with the entry in the `ConnectMap`. -/
def cleanupAfter (cleanup : Nat → Cleanup) : SessionAct → Nat → Cleanup
  | .remove i => Function.update cleanup i .endSession
  | _ => cleanup

/-- The task of a session returns at the end of its cleanup. -/
def HostServer.mayStep (s : HostServer) : SessionAct → Bool
  | .forget i => s.cleanup i = .idle || s.cleanup i = .done
  | _ => true

def HostServer.setCleanup (s : HostServer) (i : Nat) (stage : Cleanup) : HostServer :=
  { s with cleanup := Function.update s.cleanup i stage }

/-- The cleanup of a session, one operation after the other. That of a TCP session, in its reader
task, has only one. -/
def HostServer.cleanupStep (s : HostServer) (i : Nat) (sess : HostSession) : Option HostServer :=
  match sess.transport, s.cleanup i with
  | .tcp, .endSession => some { s.setCleanup i .done with tcp := s.tcp.endSession sess.sessionId }
  | .usb, .endSession =>
    some { s.setCleanup i .closeChannels with usb := s.usb.endSessionWithCleanup sess.sessionId }
  | .usb, .closeChannels =>
    some { s.setCleanup i .removeForwards with tcp := s.tcp.closeSessionChannels sess.sessionId }
  | .usb, .removeForwards =>
    some { s.setCleanup i .done with forwards := (removeForwardEntry s.forwards sess.key "").1 }
  | _, _ => none

def mapStep (s : HostServer) : MapAct → Option HostServer
  | .session act =>
    if s.mayStep act then
      (sessionStep s.host act).map fun host =>
        { s with host, tcp := s.tcpAfter act, cleanup := cleanupAfter s.cleanup act }
    else none
  | .setCipher i =>
    (s.host.inPhase i .starting).bind fun sess =>
      match sess.transport with
      | .tcp => some { s with tcp := s.tcp.setSessionCipher sess.sessionId i }
      | .usb => none
  | .endStarting i =>
    (s.host.inPhase i .starting).bind fun sess =>
      match sess.transport with
      | .tcp => some { s with tcp := s.tcp.endSession sess.sessionId }
      | .usb => none
  | .openSender i =>
    (s.host.inPhase i .running).bind fun sess =>
      match sess.transport with
      | .tcp => none
      | .usb => some { s with usb := s.usb.startSession sess.sessionId i }
  | .writerEnds i =>
    s.host.sessions[i]?.bind fun sess =>
      match sess.transport with
      | .tcp => none
      | .usb => some { s with usb := s.usb.endSession sess.sessionId }
  | .cleanup i => s.host.sessions[i]?.bind (s.cleanupStep i)
  | .startChannel channelId => some { s with tcp := s.tcp.startChannel channelId }
  | .endChannel channelId => some { s with tcp := s.tcp.endChannel channelId }
  | .takeChannelWriter channelId => some { s with tcp := s.tcp.takeChannelWriter channelId }
  | .resolve key =>
    -- `resolve_connect_key` has put the key of a device for `any`
    if key = "any" then none
    else (s.host.connectMap.getSessionId key).map fun sessionId =>
      { s with resolved := (key, sessionId) :: s.resolved }
  | .associate key sessionId channelId =>
    if (key, sessionId) ∈ s.resolved then
      some { s with tcp := s.tcp.associateChannelWithSession channelId sessionId }
    else none
  | .register key sessionId channelId =>
    if (key, sessionId) ∈ s.resolved then
      some { s with usb := s.usb.registerResponseChannel sessionId channelId key }
    else none
  | .unregister sessionId channelId =>
    some { s with usb := s.usb.unregisterResponseChannel sessionId channelId }
  | .endResolved key sessionId =>
    if (key, sessionId) ∈ s.resolved then some { s with tcp := s.tcp.endSession sessionId } else none
  | .forward entry =>
    if (entry.connectKey, entry.sessionId) ∈ s.resolved then
      some { s with forwards := s.forwards.insert entry }
    else none
  | .removeForward connectKeyFilter spec =>
    some { s with forwards := (removeForwardEntry s.forwards connectKeyFilter spec).1 }
  | .reorder entries => (s.forwards.reorder entries).map fun forwards => { s with forwards }

/-! Whose ids these are. -/

/-- Session `i` has the id it goes on under. -/
def HostSessions.Settled (s : HostSessions) (i : Nat) (sess : HostSession) : Prop :=
  s.sessions[i]? = some sess ∧ (sess.transport = .tcp ∨ sess.phase ≠ .starting)

/-- A session of the device has, or has had, the id; entries of devices that no session has been
set up with carry a zero. -/
def HostSessions.Knows (s : HostSessions) (key : String) (sessionId : UInt32) : Prop :=
  sessionId = 0 ∨ ∃ i sess, s.Settled i sess ∧ sess.key = key ∧ sess.sessionId = sessionId

/-- The two sessions are of one device. -/
def HostSession.SameDevice (a b : HostSession) : Prop := a.key = b.key ∧ a.transport = b.transport

/-- An id that only sessions of one device have had, and that is not zero. -/
def HostSessions.OwnId (s : HostSessions) (key : String) (transport : Transport)
    (sessionId : UInt32) : Prop :=
  sessionId ≠ 0 ∧
    ∀ sess ∈ s.sessions, sess.sessionId = sessionId → sess.key = key ∧ sess.transport = transport

instance (s : HostSessions) (key : String) (transport : Transport) (sessionId : UInt32) :
    Decidable (s.OwnId key transport sessionId) :=
  inferInstanceAs (Decidable (_ ∧ _))

/-- No session is given an id that a session of another device has, or has had. -/
def OwnIds (s : HostServer) : MapAct → Prop
  | .session (.tconn addr sessionId) => s.host.OwnId addr .tcp sessionId
  | .session (.adopt serial _ sessionId) => s.host.OwnId serial .usb sessionId
  | .session (.authenticated i sessionId _) =>
    ∀ sess ∈ s.host.inPhase i .starting, sess.transport = .usb →
      s.host.OwnId sess.key .usb sessionId
  | _ => True

instance (s : HostServer) : ∀ act, Decidable (OwnIds s act)
  | .session (.tconn ..) | .session (.adopt ..) => inferInstanceAs (Decidable (HostSessions.OwnId ..))
  | .session (.authenticated i sessionId _) => inferInstanceAs (Decidable
      (∀ sess ∈ s.host.inPhase i .starting, sess.transport = .usb → s.host.OwnId sess.key .usb sessionId))
  | .session (.failed _) | .session (.disconnect _) | .session (.remove _) | .session (.forget _)
  | .session (.discover _) | .session (.discoverPut _) | .session (.reconnect _)
  | .session (.reconnectRemove _) | .setCipher _ | .endStarting _ | .openSender _ | .writerEnds _
  | .cleanup _ | .startChannel _ | .endChannel _ | .takeChannelWriter _ | .resolve _
  | .associate .. | .register .. | .unregister .. | .endResolved .. | .forward _
  | .removeForward .. | .reorder _ => inferInstanceAs (Decidable True)

/-- Session ids tell devices apart, and the entries of the `ConnectMap` have those of their
devices. -/
structure HostSessions.Ids (s : HostSessions) : Prop where
  nonzero : ∀ sess ∈ s.sessions, sess.sessionId ≠ 0
  unique : ∀ a ∈ s.sessions, ∀ b ∈ s.sessions, a.sessionId = b.sessionId → a.SameDevice b
  entry : ∀ key info, s.connectMap.get key = some info → s.Knows key info.sessionId
  connected : ∀ key info, s.connectMap.get key = some info → info.connStatus = .connected →
    info.sessionId ≠ 0

/-- Session `i` has the id, and is of a device with this transport. -/
def HostSessions.Holds (s : HostSessions) (transport : Transport) (id : UInt32) (i : Nat) : Prop :=
  ∃ sess, s.Settled i sess ∧ sess.transport = transport ∧ sess.sessionId = id

/-- All that is registered under an id is of sessions and commands of one device. -/
structure Owned (s : HostServer) : Prop where
  ids : s.host.Ids
  resolved : ∀ p ∈ s.resolved, s.host.Knows p.1 p.2
  writer : ∀ id i, s.tcp.sessionWriters id = some i → s.host.Holds .tcp id i
  cipher : ∀ id i, s.tcp.sessionCiphers id = some i → s.host.Holds .tcp id i
  sender : ∀ id i, s.usb.sessionSenders id = some i → s.host.Holds .usb id i
  response : ∀ id c key, s.usb.responseChannels id c = some key → s.host.Knows key id
  forward : ∀ entry ∈ s.forwards.entries, s.host.Knows entry.connectKey entry.sessionId

theorem Owned.init : Owned .init where
  ids := ⟨by simp [HostServer.init, HostSessions.init], by simp [HostServer.init, HostSessions.init],
    by rintro key info ⟨⟩, by rintro key info ⟨⟩⟩
  resolved := by rintro p ⟨⟩
  writer := by rintro id i ⟨⟩
  cipher := by rintro id i ⟨⟩
  sender := by rintro id i ⟨⟩
  response := by rintro id c key ⟨⟩
  forward := by rintro entry ⟨⟩

/-- A session that has its id keeps it, with its device. -/
structure Retains (s s' : HostSessions) : Prop where
  settled : ∀ i sess, s.Settled i sess → ∃ sess', s'.Settled i sess' ∧ sess'.SameDevice sess ∧
    sess'.sessionId = sess.sessionId

theorem Retains.refl (s : HostSessions) : Retains s s :=
  ⟨fun _ sess h => ⟨sess, h, ⟨rfl, rfl⟩, rfl⟩⟩

theorem Retains.of_sessions {s s' : HostSessions} (h : s'.sessions = s.sessions) : Retains s s' := by
  refine ⟨fun i sess hs => ⟨sess, ?_, ⟨rfl, rfl⟩, rfl⟩⟩
  rw [HostSessions.Settled, h]
  exact hs

theorem Retains.append {s s' : HostSessions} {new : HostSession}
    (h : s'.sessions = s.sessions ++ [new]) : Retains s s' := by
  refine ⟨fun i sess hs => ⟨sess, ⟨?_, hs.2⟩, ⟨rfl, rfl⟩, rfl⟩⟩
  rw [h, List.getElem?_append_left (List.getElem?_eq_some_iff.mp hs.1).1]
  exact hs.1

/-- A session moves on; if it does not keep its id, it had not been given it before. -/
theorem Retains.set {s s' : HostSessions} {i : Nat} {old new : HostSession}
    (hold : s.sessions[i]? = some old) (h : s'.sessions = s.sessions.set i new)
    (hdevice : new.SameDevice old) (hphase : new.phase ≠ .starting)
    (hid : new.sessionId = old.sessionId ∨ old.transport = .usb ∧ old.phase = .starting) :
    Retains s s' := by
  refine ⟨fun j sess hs => ?_⟩
  by_cases hij : i = j
  · subst hij
    obtain rfl : old = sess := Option.some_inj.mp (hold.symm.trans hs.1)
    refine ⟨new, ⟨?_, Or.inr hphase⟩, hdevice, ?_⟩
    · rw [h, List.getElem?_set_self (List.getElem?_eq_some_iff.mp hold).1]
    · rcases hid with hid | ⟨husb, hstarting⟩
      · exact hid
      · rcases hs.2 with htcp | hsettled
        · rw [husb] at htcp
          cases htcp
        · exact absurd hstarting hsettled
  · refine ⟨sess, ⟨?_, hs.2⟩, ⟨rfl, rfl⟩, rfl⟩
    rw [h, List.getElem?_set_ne hij]
    exact hs.1

theorem HostSessions.Knows.mono {s s' : HostSessions} {key : String} {id : UInt32}
    (h : s.Knows key id) (hretains : Retains s s') : s'.Knows key id := by
  rcases h with hzero | ⟨i, sess, hsettled, hkey, hid⟩
  · exact Or.inl hzero
  · obtain ⟨sess', hsettled', hdevice, hid'⟩ := hretains.settled i sess hsettled
    exact Or.inr ⟨i, sess', hsettled', hdevice.1.trans hkey, hid'.trans hid⟩

theorem HostSessions.Holds.mono {s s' : HostSessions} {transport : Transport} {id : UInt32} {i : Nat}
    (h : s.Holds transport id i) (hretains : Retains s s') : s'.Holds transport id i := by
  obtain ⟨sess, hsettled, htransport, hid⟩ := h
  obtain ⟨sess', hsettled', hdevice, hid'⟩ := hretains.settled i sess hsettled
  exact ⟨sess', hsettled', hdevice.2.trans htransport, hid'.trans hid⟩

/-! What a step of a session does to ids. -/

/-- No entry of `m'` is connected that was not so in `m`, and none has an id that it did not
have in `m`, except for zero. -/
def Weakens (m m' : ConnectMap) : Prop :=
  ∀ key info, m'.get key = some info → m.get key = some info ∨
    info.connStatus ≠ .connected ∧
      (info.sessionId = 0 ∨ ∃ old, m.get key = some old ∧ old.sessionId = info.sessionId)

theorem Weakens.refl (m : ConnectMap) : Weakens m m := fun _ _ h => Or.inl h

theorem Weakens.remove (m : ConnectMap) (key : String) : Weakens m (m.remove key) := by
  intro key' info h
  rw [ConnectMap.get_remove] at h
  split at h
  · cases h
  · exact Or.inl h

theorem Weakens.put (m : ConnectMap) (key : String) {info : DaemonInfo}
    (hstatus : info.connStatus ≠ .connected) (hid : info.sessionId = 0) :
    Weakens m (m.put key info) := by
  intro key' info' h
  rw [ConnectMap.get_put] at h
  split at h
  · cases h
    exact Or.inr ⟨hstatus, Or.inl hid⟩
  · exact Or.inl h

theorem Weakens.offline (m : ConnectMap) (key : String) :
    Weakens m (m.updateStatus key .offline) := by
  intro key' info h
  rw [ConnectMap.get_updateStatus] at h
  split at h
  · obtain ⟨old, hold, rfl⟩ := Option.map_eq_some_iff.mp h
    exact Or.inr ⟨by simp, Or.inr ⟨old, hold, rfl⟩⟩
  · exact Or.inl h

/-- The id a session goes on under once it is authenticated. -/
def HostSession.idAfter (sess : HostSession) (sessionId : UInt32) : UInt32 :=
  match sess.transport with
  | .tcp => sess.sessionId
  | .usb => sessionId

/-- The session is entered in the `ConnectMap`. -/
def SessionAct.enters : SessionAct → Bool
  | .authenticated .. => true
  | _ => false

inductive IdMove (s s' : HostSessions) : SessionAct → Prop
  | kept {act : SessionAct} (hact : act.enters = false) (hsess : s'.sessions = s.sessions)
    (hmap : Weakens s.connectMap s'.connectMap) : IdMove s s' act
  | moved {act : SessionAct} {i : Nat} {old : HostSession} {phase : SessionPhase}
    (hact : act.enters = false) (hold : s.sessions[i]? = some old) (hphase : phase ≠ .starting)
    (hsess : s'.sessions = s.sessions.set i { old with phase })
    (hmap : Weakens s.connectMap s'.connectMap) : IdMove s s' act
  | tconn {addr : String} {sessionId : UInt32}
    (hsess : s'.sessions = s.sessions ++ [⟨.tcp, addr, sessionId, .starting⟩])
    (hmap : Weakens s.connectMap s'.connectMap) : IdMove s s' (.tconn addr sessionId)
  | adopt {serial address : String} {sessionId : UInt32}
    (hsess : s'.sessions = s.sessions ++ [⟨.usb, serial, sessionId, .starting⟩])
    (hmap : Weakens s.connectMap s'.connectMap) : IdMove s s' (.adopt serial address sessionId)
  | entered {i : Nat} {sessionId : UInt32} {devName : String} {sess : HostSession}
    (hold : s.inPhase i .starting = some sess)
    (hsess : s'.sessions =
      s.sessions.set i { sess with sessionId := sess.idAfter sessionId, phase := .running })
    (hmap : s'.connectMap =
      s.connectMap.put sess.key ⟨sess.idAfter sessionId, sess.connType, .connected, devName⟩) :
    IdMove s s' (.authenticated i sessionId devName)

theorem sessionStep_idMove {s s' : HostSessions} {act : SessionAct}
    (h : sessionStep s act = some s') : IdMove s s' act := by
  cases act with
  | tconn addr sessionId =>
    cases h
    exact .tconn rfl (.refl _)
  | adopt serial address sessionId =>
    rw [sessionStep] at h
    split at h <;> cases h
    exact .adopt rfl (.put _ _ (by simp) rfl)
  | authenticated i sessionId devName =>
    obtain ⟨sess, hsess, rfl⟩ := Option.map_eq_some_iff.mp h
    exact .entered hsess rfl rfl
  | failed i =>
    obtain ⟨sess, hsess, rfl⟩ := Option.map_eq_some_iff.mp h
    refine .moved rfl (inPhase_eq_some.mp hsess).1 (by simp) rfl ?_
    dsimp only
    split
    · exact .refl _
    · exact .offline _ _
  | disconnect i =>
    obtain ⟨sess, hsess, rfl⟩ := Option.map_eq_some_iff.mp h
    exact .moved rfl (inPhase_eq_some.mp hsess).1 (by simp) rfl (.refl _)
  | remove i =>
    obtain ⟨sess, hsess, rfl⟩ := Option.map_eq_some_iff.mp h
    exact .moved rfl (inPhase_eq_some.mp hsess).1 (by simp) rfl (.remove _ _)
  | forget i =>
    obtain ⟨sess, hsess, h⟩ := Option.bind_eq_some_iff.mp h
    cases htransport : sess.transport with
    | tcp =>
      rw [htransport] at h
      cases h
    | usb =>
      rw [htransport] at h
      cases h
      have hsessions : s.sessions.set i ⟨.usb, sess.key, sess.sessionId, .forgotten⟩ =
          s.sessions.set i { sess with phase := .forgotten } := by rw [← htransport]
      exact .moved rfl (inPhase_eq_some.mp hsess).1 (by simp) hsessions (.refl _)
  | discover addr =>
    rw [sessionStep] at h
    split at h <;> cases h <;> exact .kept rfl rfl (.refl _)
  | discoverPut addr =>
    rw [sessionStep] at h
    split at h <;> cases h
    exact .kept rfl rfl (.put _ _ (by simp) rfl)
  | reconnect key =>
    rw [sessionStep] at h
    split at h <;> cases h <;> exact .kept rfl rfl (.refl _)
  | reconnectRemove key =>
    rw [sessionStep] at h
    split at h <;> cases h
    exact .kept rfl rfl (.remove _ _)

theorem IdMove.retains {s s' : HostSessions} {act : SessionAct} (h : IdMove s s' act) :
    Retains s s' := by
  cases h with
  | kept hact hsess hmap => exact .of_sessions hsess
  | moved hact hold hphase hsess hmap => exact .set hold hsess ⟨rfl, rfl⟩ hphase (Or.inl rfl)
  | tconn hsess hmap => exact .append hsess
  | adopt hsess hmap => exact .append hsess
  | entered hold hsess hmap =>
    rename_i sess
    obtain ⟨hold, hphase⟩ := inPhase_eq_some.mp hold
    refine .set hold hsess ⟨rfl, rfl⟩ (by simp) ?_
    cases htransport : sess.transport with
    | tcp => exact Or.inl (by simp [HostSession.idAfter, htransport])
    | usb => exact Or.inr ⟨rfl, hphase⟩

/-- One session is new or has changed, and its id is its own. -/
theorem unique_of_new {l l' : List HostSession} {new : HostSession}
    (hsub : ∀ a ∈ l', a ∈ l ∨ a = new)
    (hnew : ∀ a ∈ l, a.sessionId = new.sessionId → a.SameDevice new)
    (hunique : ∀ a ∈ l, ∀ b ∈ l, a.sessionId = b.sessionId → a.SameDevice b) :
    ∀ a ∈ l', ∀ b ∈ l', a.sessionId = b.sessionId → a.SameDevice b := by
  intro a ha b hb hid
  rcases hsub a ha with ha | rfl
  · rcases hsub b hb with hb | rfl
    · exact hunique a ha b hb hid
    · exact hnew a ha hid
  · rcases hsub b hb with hb | rfl
    · obtain ⟨hkey, htransport⟩ := hnew b hb hid.symm
      exact ⟨hkey.symm, htransport.symm⟩
    · exact ⟨rfl, rfl⟩

/-- The entries of a map that has become weaker are known as before. -/
theorem HostSessions.Ids.weaken {s s' : HostSessions} (h : s.Ids) (hretains : Retains s s')
    (hmap : Weakens s.connectMap s'.connectMap) (hnonzero : ∀ sess ∈ s'.sessions, sess.sessionId ≠ 0)
    (hunique : ∀ a ∈ s'.sessions, ∀ b ∈ s'.sessions, a.sessionId = b.sessionId → a.SameDevice b) :
    s'.Ids where
  nonzero := hnonzero
  unique := hunique
  entry key info hget := by
    rcases hmap key info hget with hget | ⟨-, hzero | ⟨old, hget, hid⟩⟩
    · exact (h.entry key info hget).mono hretains
    · exact Or.inl hzero
    · rw [← hid]
      exact (h.entry key old hget).mono hretains
  connected key info hget hconnected := by
    rcases hmap key info hget with hget | ⟨hnot, -⟩
    · exact h.connected key info hget hconnected
    · exact absurd hconnected hnot

theorem HostSessions.Ids.append {s s' : HostSessions} (h : s.Ids) (new : HostSession)
    (hown : s.OwnId new.key new.transport new.sessionId) (hsess : s'.sessions = s.sessions ++ [new])
    (hmap : Weakens s.connectMap s'.connectMap) : s'.Ids := by
  have hsub : ∀ a ∈ s'.sessions, a ∈ s.sessions ∨ a = new := by
    rw [hsess]
    simp
  refine h.weaken (.append hsess) hmap ?_ (unique_of_new hsub hown.2 h.unique)
  intro sess hsess
  rcases hsub sess hsess with hmem | rfl
  · exact h.nonzero sess hmem
  · exact hown.1

theorem IdMove.ids {s : HostServer} {s' : HostSessions} {act : SessionAct} (hmove : IdMove s.host s' act)
    (h : s.host.Ids) (hown : OwnIds s (.session act)) : s'.Ids := by
  have hretains := hmove.retains
  cases hmove with
  | kept hact hsess hmap =>
    refine h.weaken hretains hmap ?_ ?_
    · rw [hsess]
      exact h.nonzero
    · rw [hsess]
      exact h.unique
  | moved hact hold hphase hsess hmap =>
    rename_i i old phase
    have hmem := List.mem_of_getElem? hold
    have hsub : ∀ a ∈ s'.sessions, a ∈ s.host.sessions ∨ a = { old with phase } := by
      rw [hsess]
      exact fun a => List.mem_or_eq_of_mem_set
    refine h.weaken hretains hmap ?_ (unique_of_new hsub (fun a ha => h.unique a ha old hmem) h.unique)
    intro sess hsess
    rcases hsub sess hsess with hsess | rfl
    · exact h.nonzero sess hsess
    · exact h.nonzero old hmem
  | tconn hsess hmap =>
    rename_i addr sessionId
    exact h.append ⟨.tcp, addr, sessionId, .starting⟩ hown hsess hmap
  | adopt hsess hmap =>
    rename_i serial address sessionId
    exact h.append ⟨.usb, serial, sessionId, .starting⟩ hown hsess hmap
  | entered hold hsess hmap =>
    rename_i i sessionId devName sess
    obtain ⟨hget, hphase⟩ := inPhase_eq_some.mp hold
    have hmem := List.mem_of_getElem? hget
    -- the id of the session is its own: that of a TCP session was so from its start
    have hid : s.host.OwnId sess.key sess.transport (sess.idAfter sessionId) := by
      cases htransport : sess.transport with
      | tcp =>
        simp only [HostSession.idAfter, htransport]
        refine ⟨h.nonzero sess hmem, fun a ha heq => ?_⟩
        rw [← htransport]
        exact h.unique a ha sess hmem heq
      | usb =>
        simp only [HostSession.idAfter, htransport]
        exact hown sess hold htransport
    have hsub : ∀ a ∈ s'.sessions, a ∈ s.host.sessions ∨
        a = { sess with sessionId := sess.idAfter sessionId, phase := .running } := by
      rw [hsess]
      exact fun a => List.mem_or_eq_of_mem_set
    have hself : s'.Settled i { sess with sessionId := sess.idAfter sessionId, phase := .running } := by
      refine ⟨?_, Or.inr (by simp)⟩
      rw [hsess, List.getElem?_set_self (List.getElem?_eq_some_iff.mp hget).1]
    refine ⟨?_, unique_of_new hsub hid.2 h.unique, ?_, ?_⟩
    · intro a ha
      rcases hsub a ha with ha | rfl
      · exact h.nonzero a ha
      · exact hid.1
    · intro key info hinfo
      rw [hmap, ConnectMap.get_put] at hinfo
      split at hinfo
      · rename_i hkey
        cases hinfo
        exact Or.inr ⟨i, _, hself, hkey.symm, rfl⟩
      · exact (h.entry key info hinfo).mono hretains
    · intro key info hinfo hconnected
      rw [hmap, ConnectMap.get_put] at hinfo
      split at hinfo
      · cases hinfo
        exact hid.1
      · exact h.connected key info hinfo hconnected

/-! What every step keeps. -/

theorem update_cases {α β : Type} [DecidableEq α] {f : α → β} {a b : α} {v x : β}
    (h : Function.update f a v b = x) : b = a ∧ v = x ∨ f b = x := by
  by_cases hab : b = a
  · subst hab
    rw [Function.update_self] at h
    exact Or.inl ⟨rfl, h⟩
  · rw [Function.update_of_ne hab] at h
    exact Or.inr h

/-- Taking something out of a map adds nothing to it. -/
theorem of_update_none {α β : Type} [DecidableEq α] {f : α → Option β} {a b : α} {x : β}
    (h : Function.update f a none b = some x) : f b = some x := by
  rcases update_cases h with ⟨-, ⟨⟩⟩ | h
  exact h

theorem removeForwardEntry_subset (m : ForwardMap) (connectKeyFilter spec : String) :
    ∀ entry ∈ (removeForwardEntry m connectKeyFilter spec).1.entries, entry ∈ m.entries :=
  fun _ h => (removeForwardEntry_perm m connectKeyFilter spec).subset (List.mem_append_right _ h)

namespace Owned
variable {s : HostServer} (h : Owned s)
include h

/-- A step of the sessions. -/
theorem session {host : HostSessions} (hids : host.Ids) (hretains : Retains s.host host)
    (cleanup : Nat → Cleanup) : Owned { s with host, cleanup } where
  ids := hids
  resolved p hp := (h.resolved p hp).mono hretains
  writer id i hi := (h.writer id i hi).mono hretains
  cipher id i hi := (h.cipher id i hi).mono hretains
  sender id i hi := (h.sender id i hi).mono hretains
  response id c key hkey := (h.response id c key hkey).mono hretains
  forward entry hentry := (h.forward entry hentry).mono hretains

theorem startTcpSession {id : UInt32} {i : Nat} (hi : s.host.Holds .tcp id i) :
    Owned { s with tcp := s.tcp.startSession id i } := by
  refine { h with writer := fun id' j hj => ?_ }
  rcases update_cases hj with ⟨rfl, heq⟩ | hj
  · cases heq
    exact hi
  · exact h.writer id' j hj

theorem endTcpSession (id : UInt32) : Owned { s with tcp := s.tcp.endSession id } :=
  { h with writer := fun id' i hi => h.writer id' i (of_update_none hi) }

theorem setSessionCipher {id : UInt32} {i : Nat} (hi : s.host.Holds .tcp id i) :
    Owned { s with tcp := s.tcp.setSessionCipher id i } := by
  refine { h with cipher := fun id' j hj => ?_ }
  rcases update_cases hj with ⟨rfl, heq⟩ | hj
  · cases heq
    exact hi
  · exact h.cipher id' j hj

/-- Client channels are of no account. -/
theorem channels (channelWriters : UInt32 → Bool) (channelSessions : UInt32 → Option UInt32) :
    Owned { s with tcp := { s.tcp with channelWriters, channelSessions } } :=
  { h with }

theorem startUsbSession {id : UInt32} {i : Nat} (hi : s.host.Holds .usb id i) :
    Owned { s with usb := s.usb.startSession id i } := by
  refine { h with sender := fun id' j hj => ?_ }
  rcases update_cases hj with ⟨rfl, heq⟩ | hj
  · cases heq
    exact hi
  · exact h.sender id' j hj

theorem endUsbSession (id : UInt32) : Owned { s with usb := s.usb.endSession id } :=
  { h with sender := fun id' i hi => h.sender id' i (of_update_none hi) }

theorem setResponseChannel {id c : UInt32} {tx : Option String}
    (htx : ∀ key, tx = some key → s.host.Knows key id) :
    Owned { s with usb := s.usb.setResponseChannel id c tx } := by
  refine { h with response := fun id' c' key hkey => ?_ }
  change (s.usb.setResponseChannel id c tx).responseChannels id' c' = some key at hkey
  rw [UsbMap.setResponseChannel_response] at hkey
  split at hkey
  · rename_i heq
    rw [heq.1]
    exact htx key hkey
  · exact h.response id' c' key hkey

theorem endSessionWithCleanup (id : UInt32) :
    Owned { s with usb := s.usb.endSessionWithCleanup id } := by
  refine { h with
    sender := fun id' i hi => h.sender id' i (of_update_none hi)
    response := fun id' c key hkey => ?_ }
  change (s.usb.endSessionWithCleanup id).responseChannels id' c = some key at hkey
  rw [UsbMap.endSessionWithCleanup_response] at hkey
  split at hkey
  · cases hkey
  · exact h.response id' c key hkey

theorem setForwards {forwards : ForwardMap}
    (hforwards : ∀ entry ∈ forwards.entries, entry ∈ s.forwards.entries ∨
      s.host.Knows entry.connectKey entry.sessionId) : Owned { s with forwards } := by
  refine { h with forward := fun entry hentry => ?_ }
  rcases hforwards entry hentry with hold | hnew
  · exact h.forward entry hold
  · exact hnew

theorem setCleanup (i : Nat) (stage : Cleanup) : Owned (s.setCleanup i stage) := { h with }

end Owned

theorem getSessionId_of_ne {m : ConnectMap} {key : String} (hkey : key ≠ "any") :
    m.getSessionId key = (m.get key).map DaemonInfo.sessionId := by
  rw [ConnectMap.getSessionId, if_neg hkey]

theorem Owned.cleanupStep {s s' : HostServer} {i : Nat} {sess : HostSession} (h : Owned s)
    (hst : s.cleanupStep i sess = some s') : Owned s' := by
  unfold HostServer.cleanupStep at hst
  split at hst
  · cases hst
    exact (h.endTcpSession _).setCleanup i .done
  · cases hst
    exact (h.endSessionWithCleanup _).setCleanup i .closeChannels
  · cases hst
    exact (h.channels _ _).setCleanup i .removeForwards
  · cases hst
    exact (h.setForwards fun entry hentry =>
      Or.inl (removeForwardEntry_subset _ sess.key "" entry hentry)).setCleanup i .done
  · cases hst

theorem mapStep_owned {s s' : HostServer} {act : MapAct} (h : Owned s) (hown : OwnIds s act)
    (hst : mapStep s act = some s') : Owned s' := by
  cases act with
  | session act =>
    rw [mapStep] at hst
    split at hst
    · obtain ⟨host, hhost, rfl⟩ := Option.map_eq_some_iff.mp hst
      have hmove := sessionStep_idMove hhost
      have hsession := h.session (hmove.ids h.ids hown) hmove.retains (cleanupAfter s.cleanup act)
      cases act with
      | tconn addr sessionId =>
        cases hhost
        refine hsession.startTcpSession ⟨⟨.tcp, addr, sessionId, .starting⟩, ⟨?_, Or.inl rfl⟩, rfl, rfl⟩
        simp
      | _ => exact hsession
    · cases hst
  | setCipher i =>
    obtain ⟨sess, hsess, hst⟩ := Option.bind_eq_some_iff.mp hst
    split at hst
    · rename_i htcp
      cases hst
      exact h.setSessionCipher ⟨sess, ⟨(inPhase_eq_some.mp hsess).1, Or.inl htcp⟩, htcp, rfl⟩
    · cases hst
  | endStarting i =>
    obtain ⟨sess, hsess, hst⟩ := Option.bind_eq_some_iff.mp hst
    split at hst <;> cases hst
    exact h.endTcpSession _
  | openSender i =>
    obtain ⟨sess, hsess, hst⟩ := Option.bind_eq_some_iff.mp hst
    obtain ⟨hget, hphase⟩ := inPhase_eq_some.mp hsess
    split at hst
    · cases hst
    · rename_i husb
      cases hst
      exact h.startUsbSession ⟨sess, ⟨hget, Or.inr (by simp [hphase])⟩, husb, rfl⟩
  | writerEnds i =>
    obtain ⟨sess, hsess, hst⟩ := Option.bind_eq_some_iff.mp hst
    split at hst <;> cases hst
    exact h.endUsbSession _
  | cleanup i =>
    obtain ⟨sess, hsess, hst⟩ := Option.bind_eq_some_iff.mp hst
    exact h.cleanupStep hst
  | startChannel channelId =>
    cases hst
    exact h.channels _ _
  | endChannel channelId =>
    cases hst
    exact h.channels _ _
  | takeChannelWriter channelId =>
    cases hst
    exact h.channels _ _
  | resolve key =>
    rw [mapStep] at hst
    split at hst
    · cases hst
    · rename_i hkey
      rw [getSessionId_of_ne hkey, Option.map_map] at hst
      obtain ⟨info, hinfo, rfl⟩ := Option.map_eq_some_iff.mp hst
      refine { h with resolved := fun p hp => ?_ }
      rcases List.mem_cons.mp hp with rfl | hp
      · exact h.ids.entry key info hinfo
      · exact h.resolved p hp
  | associate key sessionId channelId =>
    rw [mapStep] at hst
    split at hst <;> cases hst
    exact h.channels _ _
  | register key sessionId channelId =>
    rw [mapStep] at hst
    split at hst
    · rename_i hmem
      cases hst
      refine h.setResponseChannel fun key' hkey' => ?_
      cases hkey'
      exact h.resolved _ hmem
    · cases hst
  | unregister sessionId channelId =>
    cases hst
    exact h.setResponseChannel (by simp)
  | endResolved key sessionId =>
    rw [mapStep] at hst
    split at hst <;> cases hst
    exact h.endTcpSession _
  | forward entry =>
    rw [mapStep] at hst
    split at hst
    · rename_i hmem
      cases hst
      refine h.setForwards fun entry' hentry' => ?_
      rcases List.mem_cons.mp hentry' with rfl | hentry'
      · exact Or.inr (h.resolved _ hmem)
      · exact Or.inl (List.mem_of_mem_filter hentry')
    · cases hst
  | removeForward connectKeyFilter spec =>
    cases hst
    exact h.setForwards fun entry hentry => Or.inl (removeForwardEntry_subset _ _ _ entry hentry)
  | reorder entries =>
    obtain ⟨forwards, hforwards, rfl⟩ := Option.map_eq_some_iff.mp hst
    rw [ForwardMap.reorder] at hforwards
    split at hforwards
    · rename_i hperm
      cases hforwards
      exact h.setForwards fun entry hentry => Or.inl (hperm.subset hentry)
    · cases hforwards

theorem cleanupStep_host {s s' : HostServer} {i : Nat} {sess : HostSession}
    (h : s.cleanupStep i sess = some s') : s'.host = s.host := by
  unfold HostServer.cleanupStep at h
  split at h <;> cases h <;> rfl

/-- Only the sessions and the commands of `Hdc.LiveSessions` write to the `ConnectMap`. -/
theorem mapStep_host {s s' : HostServer} {act : MapAct} (h : mapStep s act = some s') :
    (∀ act', act ≠ .session act') ∧ s'.host = s.host ∨
      ∃ act', act = .session act' ∧ IdMove s.host s'.host act' := by
  cases act with
  | session act =>
    rw [mapStep] at h
    split at h
    · obtain ⟨host, hhost, rfl⟩ := Option.map_eq_some_iff.mp h
      exact Or.inr ⟨act, rfl, sessionStep_idMove hhost⟩
    · cases h
  | setCipher i | endStarting i | openSender i | writerEnds i =>
    obtain ⟨sess, -, h⟩ := Option.bind_eq_some_iff.mp h
    split at h <;> cases h
    exact Or.inl ⟨by simp, rfl⟩
  | cleanup i =>
    obtain ⟨sess, -, h⟩ := Option.bind_eq_some_iff.mp h
    exact Or.inl ⟨by simp, cleanupStep_host h⟩
  | startChannel | endChannel | takeChannelWriter | unregister | removeForward =>
    cases h
    exact Or.inl ⟨by simp, rfl⟩
  | resolve key =>
    rw [mapStep] at h
    split at h
    · cases h
    · obtain ⟨id, -, rfl⟩ := Option.map_eq_some_iff.mp h
      exact Or.inl ⟨by simp, rfl⟩
  | associate | register | endResolved | forward =>
    rw [mapStep] at h
    split at h <;> cases h
    exact Or.inl ⟨by simp, rfl⟩
  | reorder entries =>
    obtain ⟨forwards, -, rfl⟩ := Option.map_eq_some_iff.mp h
    exact Or.inl ⟨by simp, rfl⟩

theorem mapStep_retains {s s' : HostServer} {act : MapAct} (h : mapStep s act = some s') :
    Retains s.host s'.host := by
  rcases mapStep_host h with ⟨-, hhost⟩ | ⟨act', -, hmove⟩
  · rw [hhost]
    exact .refl _
  · exact hmove.retains

/-- In every run in which no two devices are given the same id. -/
theorem owned_of_reaches {s : HostServer} (h : Reaches mapStep OwnIds .init s) : Owned s :=
  h.invariant mapStep_owned .init

end Hdc
