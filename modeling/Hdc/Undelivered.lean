import Hdc.DispatchTask
import Hdc.Lts

/- What becomes of a client whose command cannot be sent to a daemon: the device is not resolved, or
   neither `TcpMap` nor `UsbMap` has a way to its session.

   A handler that cannot send gives up within a few steps, whatever the daemon does
   (`GetsNowhere`), and its arm tells the client and ends the channel. So do the arms for
   `track-jpid` and `jpid`. The default arm tells the client that the message could not be sent and
   leaves the channel to a daemon that has never heard of it; only an `uninstall` goes on to end it.
   `undeliverable_told_iff` has both. -/
namespace Hdc
open Rust Wire Lts

/-! Calls that reach no daemon. -/

/-- The device is not resolved, or its session is reached through neither map. -/
def Undeliverable (env : DispatchEnv) (call : DispatchCall) (r : DispatchRun) : Prop :=
  ∀ sessionId, resolveSessionId env.connectMap call.connectKey = .ok sessionId →
    r.tcpSend env sessionId ≠ .ok () ∧ r.usbSend env sessionId ≠ .ok ()

/-- The client has been sent a text that starts with `[Fail]`. -/
def DispatchRun.Told (r : DispatchRun) : Prop := ∃ text ∈ r.texts, startsWith text "[Fail]" = true

/-- The channel has no writer and is not kept alive. -/
def DispatchRun.Ended (r : DispatchRun) (channelId : UInt32) : Prop :=
  r.tcp.channelWriters channelId = false ∧ r.tcp.isKeepAlive channelId = false

def DispatchRun.Returned (r : DispatchRun) : Prop := ∃ result, r.phase = .returned result

/-- The commands with an arm of their own, which ends the channel. -/
def hasArm : HdcCommand → Bool
  | .fileInit | .fileRecvInit | .appInit | .forwardInit | .forwardRportInit | .flashdUpdateInit
  | .flashdFlashInit | .flashdErase | .flashdFormat | .jdwpTrack | .jdwpList => true
  | _ => false

/-- The call ends the channel of a client whose command it cannot send. -/
def EndsUnsent (env : DispatchEnv) (call : DispatchCall) : Prop :=
  hasArm call.cmd = true ∨ call.cmd = .appUninstall ∨
    ∀ sessionId, resolveSessionId env.connectMap call.connectKey ≠ .ok sessionId

/-- The client's channel takes what is sent to it. -/
def ClientTakes (env : DispatchEnv) (call : DispatchCall) (tcp : TcpMapInner) : Prop :=
  tcp.channelWriters call.channelId = true ∧ env.clientTakes = .ok ()

section
variable {env : DispatchEnv} {call : DispatchCall} {tcp : TcpMapInner} {usb : UsbMap}
  {r r' : DispatchRun}

/-- The call has not touched the links, nor told the client anything. -/
structure LinksKept (call : DispatchCall) (tcp : TcpMapInner) (usb : UsbMap) (r : DispatchRun) :
    Prop where
  writers : r.tcp.sessionWriters = tcp.sessionWriters
  senders : r.usb.sessionSenders = usb.sessionSenders
  channel : r.tcp.channelWriters call.channelId = tcp.channelWriters call.channelId
  keepAlive : r.tcp.isKeepAlive call.channelId = false
  texts : r.texts = []

/-- How a call that reaches no daemon returns. -/
structure Unsent (env : DispatchEnv) (call : DispatchCall) (tcp : TcpMapInner) (r : DispatchRun) :
    Prop where
  told : ClientTakes env call tcp → r.Told
  silent : ¬ ClientTakes env call tcp → r.texts = []
  ended : EndsUnsent env call → ClientTakes env call tcp → r.Ended call.channelId
  left : ¬ EndsUnsent env call →
    r.tcp.channelWriters call.channelId = tcp.channelWriters call.channelId

theorem startsWith_append (pat s : String) : startsWith (pat ++ s) pat = true := by
  simp [startsWith, String.toList_append]

theorem failText_startsWith (e : IoError) : startsWith (failText e) "[Fail]" = true := by
  rw [failText, String.append_assoc]
  exact startsWith_append _ _

theorem trackFailed_startsWith (e : IoError) : startsWith (trackFailed e) "[Fail]" = true := by
  have hlit : "[Fail]Send to daemon failed: " = "[Fail]" ++ "Send to daemon failed: " := by
    decide
  have hsplit : trackFailed e = "[Fail]" ++ ("Send to daemon failed: " ++ (e.msg ++ "\r\n")) := by
    unfold trackFailed
    simp only [hlit, String.append_assoc]
  exact hsplit ▸ startsWith_append _ _

/-! The ends of a call. -/

theorem LinksKept.start (hkeep : tcp.isKeepAlive call.channelId = false) :
    LinksKept call tcp usb (.start tcp usb) :=
  ⟨rfl, rfl, rfl, hkeep, rfl⟩

/-- The sends to a session depend on the links alone. -/
theorem LinksKept.tcpSend (h : LinksKept call tcp usb r) (sessionId : UInt32) :
    r.tcpSend env sessionId = (DispatchRun.start tcp usb).tcpSend env sessionId := by
  rw [DispatchRun.tcpSend, h.writers]
  rfl

theorem LinksKept.usbSend (h : LinksKept call tcp usb r) (sessionId : UInt32) :
    r.usbSend env sessionId = (DispatchRun.start tcp usb).usbSend env sessionId := by
  rw [DispatchRun.usbSend, h.senders]
  rfl

theorem error_of_ne_ok {x : IoResult Unit} (h : x ≠ .ok ()) : ∃ e, x = .error e := by
  cases x with
  | ok u => exact absurd rfl h
  | error e => exact ⟨e, rfl⟩

/-- No send of the call to its session succeeds. -/
theorem Undeliverable.sendOn (hno : Undeliverable env call (.start tcp usb))
    (h : LinksKept call tcp usb r) {sessionId : UInt32}
    (hid : resolveSessionId env.connectMap call.connectKey = .ok sessionId) (route : Route) :
    ∃ e, r.sendOn env sessionId route = .error e := by
  obtain ⟨htcp, husb⟩ := hno sessionId hid
  rw [← h.tcpSend] at htcp
  rw [← h.usbSend] at husb
  obtain ⟨e, he⟩ := error_of_ne_ok htcp
  obtain ⟨e', he'⟩ := error_of_ne_ok husb
  cases route with
  | sendToSession => exact ⟨e', by rw [DispatchRun.sendOn, DispatchRun.sendToSession, he, he']⟩
  | usbMap => exact ⟨e', he'⟩

theorem LinksKept.client (h : LinksKept call tcp usb r) (env : DispatchEnv) :
    ClientTakes env call tcp ∧ r.sendChannelMessage env call = .ok () ∨
    ¬ ClientTakes env call tcp ∧ ∃ e, r.sendChannelMessage env call = .error e := by
  rw [DispatchRun.sendChannelMessage, h.channel]
  cases hch : tcp.channelWriters call.channelId with
  | false => exact .inr ⟨by simp [ClientTakes, hch], _, rfl⟩
  | true =>
    cases hcl : env.clientTakes with
    | ok u => exact .inl ⟨⟨hch, hcl⟩, rfl⟩
    | error e => exact .inr ⟨by simp [ClientTakes, hcl], e, rfl⟩

theorem maybeEndChannel_eq (r : DispatchRun) (hkeep : r.tcp.isKeepAlive call.channelId = false) :
    r.maybeEndChannel call = { r with tcp := r.tcp.endChannel call.channelId } := by
  rw [DispatchRun.maybeEndChannel, hkeep]
  rfl

theorem ended_of_endChannel (r' : DispatchRun) (h : r.tcp = r'.tcp.endChannel call.channelId) :
    r.Ended call.channelId := by
  constructor <;> rw [h] <;>
    simp [TcpMapInner.endChannel, TcpMap.endChannel, TcpMapInner.isKeepAlive]

/-- A text whose outcome is ignored. -/
theorem tell_cases (h : LinksKept call tcp usb r) (env : DispatchEnv) (text : String) :
    ClientTakes env call tcp ∧ r.tell env call text = { r with texts := [text] } ∨
    ¬ ClientTakes env call tcp ∧ r.tell env call text = r := by
  rcases h.client env with ⟨htakes, hsend⟩ | ⟨htakes, e, hsend⟩
  · refine .inl ⟨htakes, ?_⟩
    rw [DispatchRun.tell, hsend, h.texts]
    rfl
  · refine .inr ⟨htakes, ?_⟩
    rw [DispatchRun.tell, hsend]

/-- The end of the arms that ignore whether the client takes the text. -/
theorem fails_unsent (h : LinksKept call tcp usb r) (hends : EndsUnsent env call) {text : String}
    (htext : startsWith text "[Fail]" = true) : Unsent env call tcp (r.fails env call text) := by
  rcases tell_cases h env text with ⟨htakes, htell⟩ | ⟨htakes, htell⟩
  · rw [DispatchRun.fails, htell, maybeEndChannel_eq { r with texts := [text] } h.keepAlive]
    exact ⟨fun _ => ⟨text, List.mem_singleton_self text, htext⟩, fun hnot => absurd htakes hnot,
      fun _ _ => ended_of_endChannel r rfl, fun hnot => absurd hends hnot⟩
  · rw [DispatchRun.fails, htell, maybeEndChannel_eq r h.keepAlive]
    exact ⟨fun htake => absurd htake htakes, fun _ => h.texts, fun _ htake => absurd htake htakes,
      fun hnot => absurd hends hnot⟩

/-- The text that is followed by a `?`: the client takes it and the call goes on, or the call
returns the error. -/
theorem tellOr_cases (h : LinksKept call tcp usb r) (env : DispatchEnv) (text : String)
    (next : DispatchRun → DispatchRun) :
    ClientTakes env call tcp ∧ r.tellOr env call text next = next { r with texts := [text] } ∨
    ¬ ClientTakes env call tcp ∧ ∃ e, r.tellOr env call text next = r.returns (.error e) := by
  rcases h.client env with ⟨htakes, hsend⟩ | ⟨htakes, e, hsend⟩
  · refine .inl ⟨htakes, ?_⟩
    rw [DispatchRun.tellOr, hsend, h.texts]
    rfl
  · refine .inr ⟨htakes, e, ?_⟩
    rw [DispatchRun.tellOr, hsend]

/-- The client has not taken the text. -/
theorem returns_unsent (h : LinksKept call tcp usb r) (htakes : ¬ ClientTakes env call tcp)
    (result : IoResult Unit) : Unsent env call tcp (r.returns result) :=
  ⟨fun htake => absurd htake htakes, fun _ => h.texts, fun _ htake => absurd htake htakes,
    fun _ => h.channel⟩

/-! Handlers that cannot send. -/

theorem LinksKept.setPhase (h : LinksKept call tcp usb r) (phase : CallPhase) :
    LinksKept call tcp usb { r with phase } :=
  ⟨h.writers, h.senders, h.channel, h.keepAlive, h.texts⟩

theorem LinksKept.register (h : LinksKept call tcp usb r) (sessionId channelId : UInt32) :
    LinksKept call tcp usb (r.register call sessionId channelId) :=
  ⟨h.writers, h.senders, h.channel, h.keepAlive, h.texts⟩

theorem LinksKept.unregister (h : LinksKept call tcp usb r) (sessionId channelId : UInt32) :
    LinksKept call tcp usb (r.unregister sessionId channelId) :=
  ⟨h.writers, h.senders, h.channel, h.keepAlive, h.texts⟩

theorem LinksKept.foldl {f : DispatchRun → UInt32 → DispatchRun}
    (hf : ∀ r c, LinksKept call tcp usb r → LinksKept call tcp usb (f r c)) :
    ∀ {r : DispatchRun} (channels : List UInt32), LinksKept call tcp usb r →
      LinksKept call tcp usb (channels.foldl f r)
  | _, [], h => h
  | _, c :: channels, h => LinksKept.foldl hf channels (hf _ c h)

/-- A step that tells the client nothing only touches response channels. -/
theorem LinksKept.setupOut (h : LinksKept call tcp usb r) (sessionId : UInt32) {out : SetupOut}
    (htexts : out.texts = []) (hend : out.mayEnd = false) :
    LinksKept call tcp usb (r.setupOut env call sessionId out) := by
  rw [DispatchRun.setupOut, htexts, hend]
  refine .foldl (fun r c h => h.unregister sessionId c) _ ?_
  exact .foldl (fun r c h => h.register sessionId c) _ h

/-- A handler that, as long as it cannot send, keeps to the states with a number of steps `left`,
tells the client nothing and returns an error in the end. -/
structure GetsNowhere {σ α ω : Type} (h : ServerHandler σ α ω) (sessionId : UInt32)
    (out : ω → SetupOut) (result : σ → Option (IoResult Unit)) (left : σ → Option Nat) : Prop where
  going : ∀ s n, left s = some n → result s = none
  sends : ∀ s n p, left s = some n → h.sending s = some p → p.sessionId = sessionId ∧
    ∀ e, (∃ e', result (p.failed e) = some (.error e')) ∨ ∃ m < n, left (p.failed e) = some m
  steps : ∀ s n act s' o, left s = some n → h.step s act = some (s', o) →
    (out o).texts = [] ∧ (out o).mayEnd = false ∧
      ((∃ e, result s' = some (.error e)) ∨ ∃ m < n, left s' = some m)

/-- Where a call is after a step that cannot send: nearer to the end of its handler, or returned. -/
def Nearer (env : DispatchEnv) (call : DispatchCall) (tcp : TcpMapInner) (usb : UsbMap)
    (left : CallPhase → Option Nat) (n : Nat) (r : DispatchRun) : Prop :=
  (∃ m < n, left r.phase = some m) ∧ LinksKept call tcp usb r ∨
    r.Returned ∧ Unsent env call tcp r

section
variable {σ α ω : Type} {h : ServerHandler σ α ω} {sessionId : UInt32} {out : ω → SetupOut}
  {result : σ → Option (IoResult Unit)} {left : σ → Option Nat} {phase : σ → CallPhase}
  {callLeft : CallPhase → Option Nat} {s : σ} {n : Nat}

theorem fails_nearer (hun : LinksKept call tcp usb r) (hends : EndsUnsent env call) (e : IoError) :
    Nearer env call tcp usb callLeft n (r.fails env call (failText e)) :=
  .inr ⟨⟨.ok (), rfl⟩, fails_unsent hun hends (failText_startsWith e)⟩

theorem GetsNowhere.goesOn (hg : GetsNowhere h sessionId out result left)
    (hphase : ∀ s, callLeft (phase s) = left s) (hun : LinksKept call tcp usb r)
    (hends : EndsUnsent env call)
    (hs : (∃ e, result s = some (.error e)) ∨ ∃ m < n, left s = some m) :
    Nearer env call tcp usb callLeft n (r.goesOn env call result phase s) := by
  rcases hs with ⟨e, hres⟩ | ⟨m, hm, hleft⟩
  · rw [DispatchRun.goesOn, hres]
    exact fails_nearer hun hends e
  · rw [DispatchRun.goesOn, hg.going s m hleft]
    exact .inl ⟨⟨m, hm, (hphase s).trans hleft⟩, hun.setPhase _⟩

theorem GetsNowhere.stepSend (hg : GetsNowhere h sessionId out result left)
    (hphase : ∀ s, callLeft (phase s) = left s) (hun : LinksKept call tcp usb r)
    (hends : EndsUnsent env call) (hno : Undeliverable env call (.start tcp usb))
    (hid : resolveSessionId env.connectMap call.connectKey = .ok sessionId)
    (hleft : left s = some n) (hst : r.stepSend env call h result phase s = some r') :
    Nearer env call tcp usb callLeft n r' := by
  obtain ⟨p, hp, rfl⟩ := Option.map_eq_some_iff.mp hst
  obtain ⟨hsession, hfailed⟩ := hg.sends s n p hleft hp
  obtain ⟨e, he⟩ := hno.sendOn hun hid p.route
  rw [hsession, he]
  exact hg.goesOn hphase hun hends (hfailed e)

theorem GetsNowhere.stepOwn (hg : GetsNowhere h sessionId out result left)
    (hphase : ∀ s, callLeft (phase s) = left s) (hun : LinksKept call tcp usb r)
    (hends : EndsUnsent env call) (hleft : left s = some n) {act : α}
    (hst : r.stepOwn env call h sessionId out result phase s act = some r') :
    Nearer env call tcp usb callLeft n r' := by
  obtain ⟨⟨s', o⟩, hs', rfl⟩ := Option.map_eq_some_iff.mp hst
  obtain ⟨htexts, hmay, hnext⟩ := hg.steps s n act s' o hleft hs'
  exact hg.goesOn hphase (hun.setupOut sessionId htexts hmay) hends hnext

end

/-- The steps that are left to an install which cannot send. -/
def Install.stepsLeft (s : Install) : Option Nat :=
  match s.phase, s.packages, s.haps with
  | .nextPackage, _ :: _, _ => some 6
  | .createDir _, _, _ => some 5
  | .extract .., _, _ => some 4
  | .nextHap, _, _ :: _ => some 3
  | .init _, _, _ => some 2
  | .cleanup (.error _), _, _ => some 1
  | _, _, _ => none

def SetupPhase.stepsLeft : SetupPhase → Option Nat
  | .start => some 4
  | .bindFirst => some 3
  | .check _ => some 2
  | .init => some 1
  | _ => none

def RportSetupPhase.stepsLeft : RportSetupPhase → Option Nat
  | .start => some 3
  | .init => some 2
  | .unregister _ => some 1
  | _ => none

def FlashdPhase.stepsLeft : FlashdPhase → Option Nat
  | .start => some 4
  | .metadata _ => some 3
  | .check .. => some 2
  | .command => some 2
  | .unregister (.error _) => some 1
  | _ => none

theorem forward_getsNowhere (job : ForwardJob) :
    GetsNowhere (forwardSetup job) job.sessionId id SetupPhase.result SetupPhase.stepsLeft where
  going s n hs := by
    cases s <;> first | rfl | cases hs
  sends s n p hs hp := by
    cases s <;> cases hs <;> cases hp
    · exact ⟨rfl, fun e => .inr ⟨1, by decide, rfl⟩⟩
    · exact ⟨rfl, fun e => .inl ⟨e, rfl⟩⟩
  steps s n act s' o hs hst := by
    cases s <;> cases hs
    case start =>
      cases act <;> cases hst
      refine ⟨rfl, rfl, .inr ?_⟩
      split
      · exact ⟨1, by decide, rfl⟩
      · exact ⟨3, by decide, rfl⟩
    case bindFirst =>
      cases act <;> try cases hst
      rename_i outcome
      cases outcome <;> cases hst
      · exact ⟨rfl, rfl, .inr ⟨1, by decide, rfl⟩⟩
      · exact ⟨rfl, rfl, .inr ⟨2, by decide, rfl⟩⟩
    case check => cases act <;> cases hst
    case init => cases act <;> cases hst

theorem rport_getsNowhere (job : RportJob) :
    GetsNowhere (rportSetup job) job.sessionId id RportSetupPhase.result
      RportSetupPhase.stepsLeft where
  going s n hs := by
    cases s <;> first | rfl | cases hs
  sends s n p hs hp := by
    cases s <;> cases hs <;> cases hp
    exact ⟨rfl, fun e => .inr ⟨1, by decide, rfl⟩⟩
  steps s n act s' o hs hst := by
    cases s <;> cases hs <;> cases act <;> cases hst
    · exact ⟨rfl, rfl, .inr ⟨2, by decide, rfl⟩⟩
    · exact ⟨rfl, rfl, .inl ⟨_, rfl⟩⟩

theorem flashd_begin (job : FlashdJob) : ∃ m < 4, job.begin.stepsLeft = some m := by
  unfold FlashdJob.begin
  split
  · exact ⟨1, by decide, rfl⟩
  · exact ⟨3, by decide, rfl⟩
  · exact ⟨2, by decide, rfl⟩

theorem flashd_getsNowhere (percent : UInt64 → UInt64 → UInt8) (job : FlashdJob)
    (channelId : UInt32) :
    GetsNowhere (flashd percent job) job.sessionId (FlashdOut.setup channelId) FlashdPhase.result
      FlashdPhase.stepsLeft where
  going s n hs := by
    cases s <;> first | rfl | cases hs
  sends s n p hs hp := by
    cases s <;> first | cases hs | skip
    all_goals cases hp
    · exact ⟨rfl, fun e => .inr ⟨1, by decide, rfl⟩⟩
    · exact ⟨rfl, fun e => .inr ⟨1, by decide, rfl⟩⟩
  steps s n act s' o hs hst := by
    cases s with
    | start =>
      cases hs
      cases act <;> cases hst
      exact ⟨rfl, rfl, .inr (flashd_begin job)⟩
    | metadata localPath =>
      cases hs
      cases act <;> cases hst
      · exact ⟨rfl, rfl, .inr ⟨2, by decide, rfl⟩⟩
      · exact ⟨rfl, rfl, .inr ⟨1, by decide, rfl⟩⟩
    | check | command => cases act <;> cases hst
    | unregister result =>
      cases result <;> cases hs
      cases act <;> cases hst
      exact ⟨rfl, rfl, .inl ⟨_, rfl⟩⟩
    | _ => cases hs

theorem install_getsNowhere (sessionId channelId : UInt32) (args : InstallArgs) :
    GetsNowhere (appInstall sessionId channelId args) sessionId (InstallOut.setup channelId)
      Install.result Install.stepsLeft where
  going := by
    rintro ⟨phase, haps, packages, dirs⟩ n hs
    cases phase with
    | ended result => cases hs
    | _ => rfl
  sends := by
    rintro ⟨phase, haps, packages, dirs⟩ n p hs hp
    cases phase with
    | init hap =>
      cases hs
      cases hp
      exact ⟨rfl, fun e => .inr ⟨1, by decide, rfl⟩⟩
    | check | data => cases hs
    | _ => cases hp
  steps := by
    rintro ⟨phase, haps, packages, dirs⟩ n act s' o hs hst
    cases phase with
    | nextPackage =>
      cases packages <;> cases hs
      cases act <;> cases hst
      refine ⟨rfl, rfl, .inr ?_⟩
      split
      · exact ⟨5, by decide, rfl⟩
      · exact ⟨3, by decide, rfl⟩
    | createDir appPath =>
      cases hs
      cases act <;> cases hst
      · exact ⟨rfl, rfl, .inr ⟨4, by decide, rfl⟩⟩
      · exact ⟨rfl, rfl, .inr ⟨1, by decide, rfl⟩⟩
    | extract appPath dir =>
      cases hs
      cases act <;> cases hst
      · rename_i found
        refine ⟨rfl, rfl, .inr ?_⟩
        cases found with
        | nil => exact ⟨1, by decide, rfl⟩
        | cons hap haps => exact ⟨3, by decide, rfl⟩
      · exact ⟨rfl, rfl, .inr ⟨1, by decide, rfl⟩⟩
    | nextHap =>
      cases haps <;> cases hs
      cases act <;> cases hst
      · exact ⟨rfl, rfl, .inr ⟨2, by decide, rfl⟩⟩
      · exact ⟨rfl, rfl, .inr ⟨1, by decide, rfl⟩⟩
    | init hap => cases act <;> cases hst
    | cleanup result =>
      cases result <;> cases hs
      cases act <;> cases hst
      exact ⟨rfl, rfl, .inl ⟨_, rfl⟩⟩
    | _ => cases hs

/-- The steps that are left to a call in a handler for the session. -/
def CallPhase.stepsLeft (sessionId : UInt32) : CallPhase → Option Nat
  | .fileSend id _ phase => if id = sessionId ∧ phase = .wakeup then some 1 else none
  | .fileRecv id _ state => if id = sessionId ∧ state.phase = .init then some 1 else none
  | .install id _ state => if id = sessionId then state.stepsLeft else none
  | .forward job phase => if job.sessionId = sessionId then phase.stepsLeft else none
  | .rport job phase => if job.sessionId = sessionId then phase.stepsLeft else none
  | .flashd job phase => if job.sessionId = sessionId then phase.stepsLeft else none
  | _ => none

section
variable {sessionId : UInt32} {n : Nat} {left : CallPhase → Option Nat}

/-- A step of a file transfer that cannot send fails, whether it was to send or not. -/
theorem stepFile_nearer {σ : Type} {result : σ → Option (IoResult Unit)} {phase : σ → CallPhase}
    {step : Option (σ × HostOut)} (hun : LinksKept call tcp usb r) (hends : EndsUnsent env call)
    (hno : Undeliverable env call (.start tcp usb))
    (hid : resolveSessionId env.connectMap call.connectKey = .ok sessionId)
    (hstep : ∀ s out, step = some (s, out) →
      out.messages ≠ [] ∨ out = {} ∧ ∃ e, result s = some (.error e))
    (hst : r.stepFile env call sessionId result phase step = some r') :
    Nearer env call tcp usb left n r' := by
  obtain ⟨⟨s, out⟩, hs, rfl⟩ := Option.map_eq_some_iff.mp hst
  rcases hstep s out hs with hmessages | ⟨rfl, e, hres⟩
  · obtain ⟨e, he⟩ := hno.sendOn hun hid .sendToSession
    have hout : r.fileOut env call sessionId out = .error e := by
      rw [DispatchRun.fileOut, if_pos hmessages]
      exact congrArg (· >>= _) he
    simp only [hout]
    exact fails_nearer (hun.unregister sessionId call.channelId) hends e
  · have hout : r.fileOut env call sessionId {} =
        .ok { r with sent := r.sent ++ [], texts := r.texts ++ [] } := rfl
    simp only [hout, hres, List.append_nil]
    exact fails_nearer (hun.unregister sessionId call.channelId) hends e

theorem wakeup_step {job : SendJob} {act : HostAct} {phase : SendPhase} {out : HostOut}
    (h : sendStep job .wakeup act = some (phase, out)) :
    out.messages ≠ [] ∨ out = {} ∧ ∃ e, phase.result = some (.error e) := by
  cases act <;> cases h
  · exact .inl (by simp)
  · exact .inr ⟨rfl, _, rfl⟩

theorem init_step {job : RecvJob} {act : HostAct} {state state' : RecvState} {out : HostOut}
    (hinit : state.phase = .init) (h : recvStep job state act = some (state', out)) :
    out.messages ≠ [] ∨ out = {} ∧ ∃ e, state'.result = some (.error e) := by
  obtain ⟨phase, loop⟩ := state
  cases hinit
  cases act <;> cases h
  · exact .inl (by simp)
  · exact .inr ⟨rfl, _, rfl⟩

theorem waiting_step (hun : LinksKept call tcp usb r) (hends : EndsUnsent env call)
    (hno : Undeliverable env call (.start tcp usb))
    (hid : resolveSessionId env.connectMap call.connectKey = .ok sessionId)
    (hleft : r.phase.stepsLeft sessionId = some n) {act : CallAct}
    (hst : r.stepPhase env call act = some r') :
    Nearer env call tcp usb (CallPhase.stepsLeft sessionId) n r' := by
  unfold DispatchRun.stepPhase at hst
  cases hphase : r.phase with
  | fileSend id job phase =>
    rw [hphase] at hleft hst
    obtain ⟨⟨rfl, rfl⟩, -⟩ := Option.ite_none_right_eq_some.mp hleft
    cases act <;> try cases hst
    exact stepFile_nearer hun hends hno hid (fun s out => wakeup_step) hst
  | fileRecv id job state =>
    rw [hphase] at hleft hst
    obtain ⟨⟨rfl, hinit⟩, -⟩ := Option.ite_none_right_eq_some.mp hleft
    cases act <;> try cases hst
    exact stepFile_nearer hun hends hno hid (fun s out => init_step hinit) hst
  | install id args state =>
    rw [hphase] at hleft hst
    obtain ⟨rfl, hsteps⟩ := Option.ite_none_right_eq_some.mp hleft
    have hsame : ∀ s, CallPhase.stepsLeft id (.install id args s) = s.stepsLeft :=
      fun s => if_pos rfl
    cases act <;> try cases hst
    · exact (install_getsNowhere _ _ _).stepSend hsame hun hends hno hid hsteps hst
    · exact (install_getsNowhere _ _ _).stepOwn hsame hun hends hsteps hst
  | forward job phase =>
    rw [hphase] at hleft hst
    obtain ⟨rfl, hsteps⟩ := Option.ite_none_right_eq_some.mp hleft
    have hsame : ∀ s, CallPhase.stepsLeft job.sessionId (.forward job s) = s.stepsLeft :=
      fun s => if_pos rfl
    cases act <;> try cases hst
    · exact (forward_getsNowhere job).stepSend hsame hun hends hno hid hsteps hst
    · exact (forward_getsNowhere job).stepOwn hsame hun hends hsteps hst
  | rport job phase =>
    rw [hphase] at hleft hst
    obtain ⟨rfl, hsteps⟩ := Option.ite_none_right_eq_some.mp hleft
    have hsame : ∀ s, CallPhase.stepsLeft job.sessionId (.rport job s) = s.stepsLeft :=
      fun s => if_pos rfl
    cases act <;> try cases hst
    · exact (rport_getsNowhere job).stepSend hsame hun hends hno hid hsteps hst
    · exact (rport_getsNowhere job).stepOwn hsame hun hends hsteps hst
  | flashd job phase =>
    rw [hphase] at hleft hst
    obtain ⟨rfl, hsteps⟩ := Option.ite_none_right_eq_some.mp hleft
    have hsame : ∀ s, CallPhase.stepsLeft job.sessionId (.flashd job s) = s.stepsLeft :=
      fun s => if_pos rfl
    cases act <;> try cases hst
    · exact (flashd_getsNowhere env.percent job call.channelId).stepSend hsame hun
        hends hno hid hsteps hst
    · exact (flashd_getsNowhere env.percent job call.channelId).stepOwn hsame hun
        hends hsteps hst
  | start | collect | returned =>
    rw [hphase] at hleft
    cases hleft

/-- A call in a handler that cannot send has a step to take, whatever the daemon does. -/
theorem waiting_enabled (env : DispatchEnv) (call : DispatchCall)
    (hleft : r.phase.stepsLeft sessionId = some n) :
    ∃ act r', act.told = none ∧ r.stepPhase env call act = some r' := by
  unfold DispatchRun.stepPhase
  cases hphase : r.phase with
  | fileSend id job phase =>
    rw [hphase] at hleft
    obtain ⟨⟨-, rfl⟩, -⟩ := Option.ite_none_right_eq_some.mp hleft
    exact ⟨.file (.next 0), _, rfl, rfl⟩
  | fileRecv id job state =>
    rw [hphase] at hleft
    obtain ⟨⟨-, hinit⟩, -⟩ := Option.ite_none_right_eq_some.mp hleft
    obtain ⟨phase, loop⟩ := state
    cases hinit
    exact ⟨.file (.next 0), _, rfl, rfl⟩
  | install id args state =>
    rw [hphase] at hleft
    obtain ⟨-, hleft⟩ := Option.ite_none_right_eq_some.mp hleft
    obtain ⟨phase, haps, packages, dirs⟩ := state
    cases phase with
    | nextPackage =>
      cases packages <;> cases hleft
      exact ⟨.install .next, _, rfl, rfl⟩
    | createDir => exact ⟨.install (.tempDir ""), _, rfl, rfl⟩
    | extract => exact ⟨.install (.extracted []), _, rfl, rfl⟩
    | nextHap =>
      cases haps <;> cases hleft
      exact ⟨.install (.metadata []), _, rfl, rfl⟩
    | init => exact ⟨.send, _, rfl, rfl⟩
    | cleanup => exact ⟨.install .next, _, rfl, rfl⟩
    | _ => cases hleft
  | forward job phase =>
    rw [hphase] at hleft
    obtain ⟨-, hleft⟩ := Option.ite_none_right_eq_some.mp hleft
    cases phase with
    | start => exact ⟨.setup .next, _, rfl, rfl⟩
    | bindFirst => exact ⟨.setup (.bind (.ok 0)), _, rfl, rfl⟩
    | check | init => exact ⟨.send, _, rfl, rfl⟩
    | _ => cases hleft
  | rport job phase =>
    rw [hphase] at hleft
    obtain ⟨-, hleft⟩ := Option.ite_none_right_eq_some.mp hleft
    cases phase with
    | start | unregister => exact ⟨.rport .next, _, rfl, rfl⟩
    | init => exact ⟨.send, _, rfl, rfl⟩
    | _ => cases hleft
  | flashd job phase =>
    rw [hphase] at hleft
    obtain ⟨-, hleft⟩ := Option.ite_none_right_eq_some.mp hleft
    cases phase with
    | start | unregister => exact ⟨.flashd .next, _, rfl, rfl⟩
    | metadata => exact ⟨.flashd (.metadata []), _, rfl, rfl⟩
    | check | command => exact ⟨.send, _, rfl, rfl⟩
    | _ => cases hleft
  | start | collect | returned =>
    rw [hphase] at hleft
    cases hleft

end

/-! The whole call. -/

/-- Where a call that reaches no daemon stands. -/
inductive CallStage (env : DispatchEnv) (call : DispatchCall) (tcp : TcpMapInner) (usb : UsbMap)
    (r : DispatchRun) : Prop
  /-- In a handler that has not sent anything yet. -/
  | waiting {sessionId : UInt32} {n : Nat}
      (hid : resolveSessionId env.connectMap call.connectKey = .ok sessionId)
      (harm : hasArm call.cmd = true) (hleft : r.phase.stepsLeft sessionId = some n)
      (hun : LinksKept call tcp usb r)
  /-- The client of an `uninstall` has been told, and what the daemon says is awaited. -/
  | collecting {sessionId : UInt32} (hcmd : call.cmd = .appUninstall)
      (hphase : r.phase = .collect sessionId) (htakes : ClientTakes env call tcp) (htold : r.Told)
      (hkeep : r.tcp.isKeepAlive call.channelId = false)
  | returned (hreturned : r.Returned) (hunsent : Unsent env call tcp r)

theorem resolveSessionId_of {m : ConnectMap} {key actualKey : String}
    (h : resolveConnectKey m key = .ok actualKey) :
    resolveSessionId m key = match m.getSessionId actualKey with
      | some sessionId => .ok sessionId
      | none => .error ⟨.notFound, s!"Device {actualKey} is not connected"⟩ := by
  rw [resolveSessionId, h]
  rfl

/-- A handler has been started for the session, and has sent nothing. -/
def Starts (call : DispatchCall) (tcp : TcpMapInner) (usb : UsbMap)
    (start : UInt32 → IoResult DispatchRun) : Prop :=
  ∀ sessionId r', start sessionId = .ok r' →
    LinksKept call tcp usb r' ∧ ∃ n, r'.phase.stepsLeft sessionId = some n

/-- The arms with a handler. -/
theorem withSession_stage {start : UInt32 → IoResult DispatchRun} (harm : hasArm call.cmd = true)
    (hun : LinksKept call tcp usb r) (hstart : Starts call tcp usb start) :
    CallStage env call tcp usb (r.withSession env call start) := by
  have hfails : ∀ text, startsWith text "[Fail]" = true →
      CallStage env call tcp usb (r.fails env call text) := fun text htext =>
    .returned ⟨.ok (), rfl⟩ (fails_unsent hun (.inl harm) htext)
  unfold DispatchRun.withSession
  split
  · exact hfails _ (failText_startsWith _)
  · rename_i hkey
    have hres := resolveSessionId_of hkey
    split
    · exact hfails _ (by decide)
    · rename_i hid
      rw [hid] at hres
      split
      · rename_i hr
        obtain ⟨hun', n, hleft⟩ := hstart _ _ hr
        exact .waiting hres harm hleft hun'
      · exact hfails _ (failText_startsWith _)

/-- A text with a `?`, after which the channel is ended. -/
theorem tellOr_stage {text : String} {next : DispatchRun → DispatchRun}
    (hun : LinksKept call tcp usb r) (htext : startsWith text "[Fail]" = true)
    (hnext : ∀ r', r'.texts = [text] → r'.tcp.isKeepAlive call.channelId = false →
      (next r').Returned ∧ (next r').texts = [text] ∧ (next r').Ended call.channelId)
    (hends : EndsUnsent env call) : CallStage env call tcp usb (r.tellOr env call text next) := by
  rcases tellOr_cases hun env text next with ⟨htakes, htell⟩ | ⟨htakes, e, htell⟩
  · obtain ⟨hreturned, htexts, hended⟩ := hnext { r with texts := [text] } rfl hun.keepAlive
    rw [htell]
    exact .returned hreturned ⟨fun _ => ⟨text, by rw [htexts]; exact List.mem_singleton_self text,
      htext⟩, fun hnot => absurd htakes hnot, fun _ _ => hended, fun hnot => absurd hends hnot⟩
  · rw [htell]
    exact .returned ⟨.error e, rfl⟩ (returns_unsent hun htakes _)

/-- The arms without. -/
theorem withResolved_stage {next : UInt32 → DispatchRun} (hun : LinksKept call tcp usb r)
    (hnext : ∀ sessionId, resolveSessionId env.connectMap call.connectKey = .ok sessionId →
      CallStage env call tcp usb (next sessionId)) :
    CallStage env call tcp usb (r.withResolved env call next) := by
  unfold DispatchRun.withResolved
  split
  · rename_i e he
    refine tellOr_stage hun (failText_startsWith e) (fun r' htexts hkeep => ?_)
      (.inr (.inr fun sessionId hid => by cases he.symm.trans hid))
    rw [maybeEndChannel_eq r' hkeep]
    exact ⟨⟨.ok (), rfl⟩, htexts, ended_of_endChannel r' rfl⟩
  · rename_i hid
    exact hnext _ hid

theorem trackArm_stage (hun : LinksKept call tcp usb r) (harm : hasArm call.cmd = true)
    (hno : Undeliverable env call (.start tcp usb)) {sessionId : UInt32}
    (hid : resolveSessionId env.connectMap call.connectKey = .ok sessionId) :
    CallStage env call tcp usb (r.trackArm env call sessionId) := by
  have hun := hun.register sessionId call.channelId
  obtain ⟨e, he⟩ := hno.sendOn hun hid .sendToSession
  change DispatchRun.sendToSession env _ sessionId = _ at he
  simp only [DispatchRun.trackArm, he]
  refine tellOr_stage hun (trackFailed_startsWith e) (fun r' htexts hkeep => ?_) (.inl harm)
  rw [maybeEndChannel_eq r' hkeep]
  exact ⟨⟨.ok (), rfl⟩, htexts, ended_of_endChannel r' rfl⟩

theorem listArm_stage (hun : LinksKept call tcp usb r) (harm : hasArm call.cmd = true)
    (hno : Undeliverable env call (.start tcp usb)) {sessionId : UInt32}
    (hid : resolveSessionId env.connectMap call.connectKey = .ok sessionId) :
    CallStage env call tcp usb (r.listArm env call sessionId) := by
  obtain ⟨e, he⟩ := hno.sendOn hun hid .sendToSession
  change DispatchRun.sendToSession env _ sessionId = _ at he
  simp only [DispatchRun.listArm, he]
  refine tellOr_stage hun (trackFailed_startsWith e) (fun r' htexts hkeep => ?_) (.inl harm)
  rw [maybeEndChannel_eq r' hkeep]
  -- the channel is ended and then associated with the session
  exact ⟨⟨.ok (), rfl⟩, htexts,
    ended_of_endChannel (r := { r' with tcp := r'.tcp.endChannel call.channelId }) r' rfl⟩

/-- The default arm leaves the channel as it is, unless it is for an `uninstall`. -/
theorem taskArm_stage (hun : LinksKept call tcp usb r) (harm : hasArm call.cmd = false)
    (hno : Undeliverable env call (.start tcp usb)) {sessionId : UInt32}
    (hid : resolveSessionId env.connectMap call.connectKey = .ok sessionId) :
    CallStage env call tcp usb (r.taskArm env call sessionId) := by
  obtain ⟨e, he⟩ := hno.sendOn hun hid .sendToSession
  change DispatchRun.sendToSession env _ sessionId = _ at he
  simp only [DispatchRun.taskArm, he]
  have htext := trackFailed_startsWith e
  rcases tellOr_cases hun env (trackFailed e) (fun r => r.taskSent call sessionId) with
    ⟨htakes, htell⟩ | ⟨htakes, e', htell⟩
  · rw [htell, DispatchRun.taskSent]
    split
    · rename_i hcmd
      exact .collecting hcmd rfl htakes ⟨_, List.mem_singleton_self _, htext⟩ hun.keepAlive
    · rename_i hcmd
      have hleft : ¬ EndsUnsent env call := by
        rintro (harm' | hcmd' | hres)
        · rw [harm] at harm'
          cases harm'
        · exact hcmd hcmd'
        · exact hres sessionId hid
      exact .returned ⟨.ok (), rfl⟩ ⟨fun _ => ⟨_, List.mem_singleton_self _, htext⟩,
        fun hnot => absurd htakes hnot, fun hends => absurd hends hleft, fun _ => hun.channel⟩
  · rw [htell]
    exact .returned ⟨.error e', rfl⟩ (returns_unsent hun htakes _)

theorem dispatch_default (harm : hasArm call.cmd = false) :
    r.dispatch env call = r.withResolved env call (r.taskArm env call) := by
  unfold DispatchRun.dispatch
  cases hcmd : call.cmd <;> first | rfl | (rw [hcmd] at harm; cases harm)

/-! How the handlers start. -/

section
variable (hun : LinksKept call tcp usb r)
include hun

theorem startFileSend_starts : Starts call tcp usb (r.startFileSend env call) := by
  intro sessionId r' h
  obtain ⟨job, -, hr⟩ := bind_eq_ok.mp h
  cases hr
  exact ⟨(hun.register _ _).setPhase _, 1, if_pos ⟨rfl, rfl⟩⟩

theorem startFileRecv_starts : Starts call tcp usb (r.startFileRecv call) := by
  intro sessionId r' h
  obtain ⟨job, -, hr⟩ := bind_eq_ok.mp h
  cases hr
  exact ⟨(hun.register _ _).setPhase _, 1, if_pos ⟨rfl, rfl⟩⟩

theorem startInstall_starts : Starts call tcp usb (r.startInstall call) := by
  intro sessionId r' h
  obtain ⟨args, hargs, hr⟩ := bind_eq_ok.mp h
  cases hr
  -- there is a package to install
  have hleft : (Install.start args).stepsLeft = some 6 := by
    obtain ⟨package, packages, hpackages⟩ :=
      List.exists_cons_of_ne_nil (installStart_packages hargs)
    simp only [Install.start, Install.stepsLeft, hpackages]
  exact ⟨(hun.register _ _).setPhase _, 6, (if_pos rfl).trans hleft⟩

theorem startForward_starts : Starts call tcp usb (r.startForward env call) := by
  intro sessionId r' h
  obtain ⟨job, hjob, hr⟩ := bind_eq_ok.mp h
  cases hr
  exact ⟨hun.setPhase _, 4, if_pos (forwardStart_ids hjob).1⟩

theorem startRport_starts : Starts call tcp usb (r.startRport call) := by
  intro sessionId r' h
  obtain ⟨job, hjob, hr⟩ := bind_eq_ok.mp h
  cases hr
  exact ⟨hun.setPhase _, 3, if_pos (rportStart_ids hjob).1⟩

theorem startFlashd_starts : Starts call tcp usb (r.startFlashd call) := by
  intro sessionId r' h
  cases h
  exact ⟨hun.setPhase _, 4, if_pos rfl⟩

end

theorem dispatch_stage (hun : LinksKept call tcp usb r)
    (hno : Undeliverable env call (.start tcp usb)) :
    CallStage env call tcp usb (r.dispatch env call) := by
  cases harm : hasArm call.cmd with
  | false =>
    rw [dispatch_default harm]
    exact withResolved_stage hun fun sessionId hid => taskArm_stage hun harm hno hid
  | true =>
    unfold DispatchRun.dispatch
    cases hcmd : call.cmd with
    | fileInit => exact withSession_stage harm hun (startFileSend_starts hun)
    | fileRecvInit => exact withSession_stage harm hun (startFileRecv_starts hun)
    | appInit => exact withSession_stage harm hun (startInstall_starts hun)
    | forwardInit => exact withSession_stage harm hun (startForward_starts hun)
    | forwardRportInit => exact withSession_stage harm hun (startRport_starts hun)
    | flashdUpdateInit | flashdFlashInit | flashdErase | flashdFormat =>
      exact withSession_stage harm hun (startFlashd_starts hun)
    | jdwpTrack => exact withResolved_stage hun fun sessionId hid => trackArm_stage hun harm hno hid
    | jdwpList => exact withResolved_stage hun fun sessionId hid => listArm_stage hun harm hno hid
    | _ =>
      rw [hcmd] at harm
      cases harm

/-- A text leaves the maps and the phase alone. -/
theorem tell_frame (r : DispatchRun) (text : String) :
    (r.tell env call text).phase = r.phase ∧ (r.tell env call text).tcp = r.tcp ∧
      ∀ told ∈ r.texts, told ∈ (r.tell env call text).texts := by
  unfold DispatchRun.tell
  split
  · exact ⟨rfl, rfl, fun told htold => List.mem_append_left _ htold⟩
  · exact ⟨rfl, rfl, fun told htold => htold⟩

theorem collect_stage {sessionId : UInt32} {act : CallAct} (hcmd : call.cmd = .appUninstall)
    (hphase : r.phase = .collect sessionId) (htakes : ClientTakes env call tcp) (htold : r.Told)
    (hkeep : r.tcp.isKeepAlive call.channelId = false)
    (hst : r.stepPhase env call act = some r') : CallStage env call tcp usb r' := by
  have hcollected : CallStage env call tcp usb (r.collected call sessionId) := by
    rw [DispatchRun.collected, maybeEndChannel_eq (r.unregister sessionId call.channelId) hkeep]
    exact .returned ⟨.ok (), rfl⟩ ⟨fun _ => htold, fun hnot => absurd htakes hnot,
      fun _ _ => ended_of_endChannel r rfl, fun hnot => absurd (.inr (.inl hcmd)) hnot⟩
  unfold DispatchRun.stepPhase at hst
  rw [hphase] at hst
  cases act <;> cases hst
  · split
    · exact hcollected
    · rename_i task _
      obtain ⟨hsame, htcp, htexts⟩ := tell_frame r (fromUtf8Lossy task.payload)
      obtain ⟨text, hmem, htext⟩ := htold
      exact .collecting hcmd (hsame.trans hphase) htakes ⟨text, htexts text hmem, htext⟩
        (htcp ▸ hkeep)
  · exact hcollected

theorem Nearer.stage {sessionId : UInt32} {n : Nat}
    (hid : resolveSessionId env.connectMap call.connectKey = .ok sessionId)
    (harm : hasArm call.cmd = true)
    (h : Nearer env call tcp usb (CallPhase.stepsLeft sessionId) n r) :
    CallStage env call tcp usb r := by
  rcases h with ⟨⟨m, -, hleft⟩, hun⟩ | ⟨hreturned, hunsent⟩
  · exact .waiting hid harm hleft hun
  · exact .returned hreturned hunsent

theorem returned_stuck (h : r.Returned) (act : CallAct) : r.stepPhase env call act = none := by
  obtain ⟨result, hphase⟩ := h
  unfold DispatchRun.stepPhase
  rw [hphase]

/-- What a step makes of a call that reaches no daemon. -/
theorem CallStage.step (hno : Undeliverable env call (.start tcp usb)) {act : CallAct}
    (h : CallStage env call tcp usb r) (hst : r.stepPhase env call act = some r') :
    CallStage env call tcp usb r' := by
  cases h with
  | waiting hid harm hleft hun =>
    exact (waiting_step hun (.inl harm) hno hid hleft hst).stage hid harm
  | collecting hcmd hphase htakes htold hkeep =>
    exact collect_stage hcmd hphase htakes htold hkeep hst
  | returned hreturned hunsent =>
    rw [returned_stuck hreturned] at hst
    cases hst

theorem start_step (hno : Undeliverable env call (.start tcp usb)) {act : CallAct}
    (hkeep : tcp.isKeepAlive call.channelId = false)
    (hst : (DispatchRun.start tcp usb).stepPhase env call act = some r') :
    CallStage env call tcp usb r' := by
  cases act <;> try cases hst
  change (if needsDaemon call.cmd then some _ else none) = some r' at hst
  obtain ⟨-, hr⟩ := Option.ite_none_right_eq_some.mp hst
  cases hr
  exact dispatch_stage (.start hkeep) hno

/-- A run of such a call. -/
theorem stage_of_reaches (hno : Undeliverable env call (.start tcp usb))
    (hkeep : tcp.isKeepAlive call.channelId = false)
    (hrun : Reaches (dispatchStep env call) anyStep (.start tcp usb) r) :
    r = .start tcp usb ∨ CallStage env call tcp usb r := by
  have hstep : ∀ {r act r'}, (r = .start tcp usb ∨ CallStage env call tcp usb r) → anyStep r act →
      dispatchStep env call r act = some r' →
        r' = .start tcp usb ∨ CallStage env call tcp usb r' := by
    rintro r act r' (rfl | h) - hst
    · exact .inr (start_step hno hkeep (Option.ite_none_right_eq_some.mp hst).2)
    · exact .inr (h.step hno (Option.ite_none_right_eq_some.mp hst).2)
  exact hrun.invariant hstep (.inl rfl)

/-! The call returns. -/

theorem reaches_of_stepPhase {act : CallAct} (hact : act.told = none)
    (hst : r.stepPhase env call act = some r') :
    Reaches (dispatchStep env call) anyStep r r' := by
  refine .single act trivial ?_
  rw [dispatchStep, hact]
  exact hst

/-- By induction on the steps that are left. -/
theorem waiting_returns (hno : Undeliverable env call (.start tcp usb)) {sessionId : UInt32}
    (hid : resolveSessionId env.connectMap call.connectKey = .ok sessionId)
    (harm : hasArm call.cmd = true) {n : Nat} (hleft : r.phase.stepsLeft sessionId = some n)
    (hun : LinksKept call tcp usb r) :
    ∃ r', Reaches (dispatchStep env call) anyStep r r' ∧ r'.Returned := by
  induction n using Nat.strong_induction_on generalizing r with
  | _ n ih =>
    obtain ⟨act, r', hact, hst⟩ := waiting_enabled env call hleft
    have hfirst := reaches_of_stepPhase hact hst
    rcases waiting_step hun (.inl harm) hno hid hleft hst with
      ⟨⟨m, hm, hleft'⟩, hun'⟩ | ⟨hret, -⟩
    · obtain ⟨r'', hrest, hret⟩ := ih m hm hleft' hun'
      exact ⟨r'', hfirst.trans hrest, hret⟩
    · exact ⟨r', hfirst, hret⟩

theorem CallStage.returns (hno : Undeliverable env call (.start tcp usb))
    (h : CallStage env call tcp usb r) :
    ∃ r', Reaches (dispatchStep env call) anyStep r r' ∧ r'.Returned := by
  cases h with
  | waiting hid harm hleft hun => exact waiting_returns hno hid harm hleft hun
  | collecting hcmd hphase =>
    rename_i sessionId _ _ _
    have hst : r.stepPhase env call .idle = some (r.collected call sessionId) := by
      unfold DispatchRun.stepPhase
      rw [hphase]
    exact ⟨_, reaches_of_stepPhase rfl hst, .ok (), rfl⟩
  | returned hreturned => exact ⟨r, .refl, hreturned⟩

theorem stepPhase_call (env : DispatchEnv) (tcp : TcpMapInner) (usb : UsbMap)
    (hcmd : needsDaemon call.cmd = true) :
    (DispatchRun.start tcp usb).stepPhase env call .call =
      some ((DispatchRun.start tcp usb).dispatch env call) :=
  if_pos hcmd

theorem start_returns (hcmd : needsDaemon call.cmd = true)
    (hkeep : tcp.isKeepAlive call.channelId = false)
    (hno : Undeliverable env call (.start tcp usb)) :
    ∃ r', Reaches (dispatchStep env call) anyStep (.start tcp usb) r' ∧ r'.Returned := by
  have hst := stepPhase_call env tcp usb hcmd
  obtain ⟨r', hrest, hret⟩ := (start_step hno hkeep hst).returns hno
  exact ⟨r', (reaches_of_stepPhase rfl hst).trans hrest, hret⟩

end

/-- The client is told that its command has failed, and its channel is ended, by the time the call
returns. -/
def ToldAndEnded (env : DispatchEnv) (call : DispatchCall) (tcp : TcpMapInner) (usb : UsbMap) :
    Prop :=
  ∀ r, Reaches (dispatchStep env call) anyStep (.start tcp usb) r → r.Returned →
    r.Told ∧ r.Ended call.channelId

/-- A call that reaches no daemon returns, whatever has happened so far; and by then the client has
been told and its channel is ended exactly if the channel takes the text, and the command has an arm
of its own, is an `uninstall`, or has no session to be sent to. -/
theorem undeliverable_told_iff (env : DispatchEnv) (call : DispatchCall) (tcp : TcpMapInner)
    (usb : UsbMap) (hcmd : needsDaemon call.cmd = true)
    (hkeep : tcp.isKeepAlive call.channelId = false)
    (hno : Undeliverable env call (.start tcp usb)) :
    (∀ r, Reaches (dispatchStep env call) anyStep (.start tcp usb) r →
      ∃ r', Reaches (dispatchStep env call) anyStep r r' ∧ r'.Returned) ∧
    (ToldAndEnded env call tcp usb ↔ ClientTakes env call tcp ∧ EndsUnsent env call) := by
  -- what holds of every run that has returned
  have hunsent : ∀ r, Reaches (dispatchStep env call) anyStep (.start tcp usb) r → r.Returned →
      Unsent env call tcp r := by
    intro r hrun hreturned
    rcases stage_of_reaches hno hkeep hrun with rfl | h
    · obtain ⟨result, hphase⟩ := hreturned
      cases hphase
    · cases h with
      | waiting hid harm hleft =>
        obtain ⟨result, hphase⟩ := hreturned
        rw [hphase] at hleft
        cases hleft
      | collecting hcmd hphase =>
        obtain ⟨result, hphase'⟩ := hreturned
        cases hphase.symm.trans hphase'
      | returned hreturned hunsent => exact hunsent
  refine ⟨fun r hrun => ?_, fun htold => ?_, fun ⟨htakes, hends⟩ r hrun hreturned => ?_⟩
  · rcases stage_of_reaches hno hkeep hrun with rfl | h
    · exact start_returns hcmd hkeep hno
    · exact h.returns hno
  · obtain ⟨r, hrun, hreturned⟩ := start_returns hcmd hkeep hno
    obtain ⟨⟨text, hmem, -⟩, hended⟩ := htold r hrun hreturned
    have h := hunsent r hrun hreturned
    have htakes : ClientTakes env call tcp := by
      by_contra hnot
      rw [h.silent hnot] at hmem
      cases hmem
    refine ⟨htakes, ?_⟩
    by_contra hnot
    have hchannel := (h.left hnot).symm.trans hended.1
    cases hchannel.symm.trans htakes.1
  · have h := hunsent r hrun hreturned
    exact ⟨h.told htakes, h.ended hends htakes⟩

/-- A daemon has been discovered and no session set up with it; the client is on channel 3. -/
def discoveredOnly : DispatchEnv where
  connectMap := ConnectMap.new.put "10.0.0.2:5555" ⟨0, .tcp, .ready, ""⟩
  writerTakes _ := .ok ()
  senderTakes _ := .ok ()
  clientTakes := .ok ()
  fs path := if path = "/tmp/a.txt" then some (utf8 "hello") else none
  listenIp := "127.0.0.1"
  percent _ _ := 0

def oneChannel : TcpMapInner := TcpMapInner.new.startChannel 3

def commandTo (cmd : HdcCommand) (params : List String) : DispatchCall :=
  ⟨cmd, "10.0.0.2:5555", 3, params⟩

theorem discoveredOnly_undeliverable (cmd : HdcCommand) (params : List String) :
    Undeliverable discoveredOnly (commandTo cmd params) (.start oneChannel .new) := by
  intro sessionId _
  exact ⟨by simp [DispatchRun.tcpSend, DispatchRun.start, oneChannel, TcpMapInner.startChannel,
    TcpMapInner.new, TcpMap.startChannel, TcpMap.new],
    by simp [DispatchRun.usbSend, DispatchRun.start, UsbMap.new]⟩

theorem file_send_told :
    ToldAndEnded discoveredOnly (commandTo .fileInit ["file", "send", "/tmp/a.txt", "/data/a.txt"])
      oneChannel .new :=
  (undeliverable_told_iff _ _ _ _ (by decide) (by decide)
    (discoveredOnly_undeliverable _ _)).2.mpr ⟨⟨by decide, rfl⟩, .inl (by decide)⟩

/-- A shell command for the same daemon. -/
def shellCall : DispatchCall := commandTo .unityExecute ["shell", "ls"]

def shellDispatched : DispatchRun :=
  (DispatchRun.start oneChannel .new).dispatch discoveredOnly shellCall

/-- The client is told, and waits for an end of the channel that does not come. -/
theorem shell_left_waiting :
    needsDaemon shellCall.cmd = true ∧ oneChannel.isKeepAlive shellCall.channelId = false ∧
    Undeliverable discoveredOnly shellCall (.start oneChannel .new) ∧
    ¬ ToldAndEnded discoveredOnly shellCall oneChannel .new ∧
    ∃ r, Reaches (dispatchStep discoveredOnly shellCall) anyStep (.start oneChannel .new) r ∧
      r.phase = .returned (.ok ()) ∧
      r.texts = ["[Fail]Send to daemon failed: usb session not found\r\n"] ∧
      r.tcp.channelWriters shellCall.channelId = true := by
  have hrun : Reaches (dispatchStep discoveredOnly shellCall) anyStep (.start oneChannel .new)
      shellDispatched := reaches_of_stepPhase rfl (stepPhase_call _ _ _ (by decide))
  have hphase : shellDispatched.phase = .returned (.ok ()) := by decide
  have hopen : shellDispatched.tcp.channelWriters shellCall.channelId = true := by decide
  refine ⟨by decide, by decide, discoveredOnly_undeliverable _ _, fun htold => ?_,
    shellDispatched, hrun, hphase, by decide, hopen⟩
  cases hopen.symm.trans (htold shellDispatched hrun ⟨_, hphase⟩).2.1

end Hdc
