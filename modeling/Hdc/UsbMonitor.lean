import Hdc.LiveSessions
import Mathlib.Data.List.Dedup

/- The USB monitor of the host (`usb_device_monitor`, `process_usb_device_changes` and
   `record_session_outcome` in `hdc/src/server.rs`) with the session tasks it spawns.

   A pass lists the devices, forgets the backoff of those it has not seen in the pass before,
   and then starts a session for each that is not in `known_devices`, which it keeps locked
   meanwhile. A session that is over is first taken out of `known_devices` and then recorded,
   in two steps of its own task. The sessions themselves are those of `Hdc.LiveSessions`.

   `one_session_per_device` is what `known_devices` is for. The backoff is the subject of
   `Hdc.Backoff`. -/
namespace Hdc
open Rust Lts

/-! The backoff. -/

inductive SessionOutcome where
  | ended (clean : Bool) (reason : String)
  | failed (err : String)
  deriving DecidableEq, Repr

/-- Instants are in nanoseconds. -/
structure ReconnectState where
  failures : UInt32
  lastError : String
  nextAttempt : Nat
  deriving DecidableEq, Repr

def reconnectBackoffBaseSecs : UInt64 := 1
def reconnectBackoffMaxSecs : UInt64 := 30

/-- `Duration::from_secs`. -/
def fromSecs (secs : UInt64) : Nat := secs.toNat * 1000000000

def backoffSecs (failures : UInt32) : UInt64 :=
  let shift := min (failures - 1) 5
  min (reconnectBackoffBaseSecs <<< shift.toUInt64) reconnectBackoffMaxSecs

/-- The entry after a failure at `now`. -/
def ReconnectState.fail (st : Option ReconnectState) (err : String) (now : Nat) : ReconnectState :=
  let st := st.getD ⟨0, "", now⟩
  let failures := st.failures + 1
  ⟨failures, err, now + fromSecs (backoffSecs failures)⟩

/-- `record_session_outcome`: the entry of the serial afterwards. -/
def recordSessionOutcome (st : Option ReconnectState) (now : Nat) :
    SessionOutcome → Option ReconnectState
  | .ended .. => none
  | .failed err => some (.fail st err now)

/-! The monitor. -/

structure UsbDeviceInfo where
  serialNumber : String
  deviceAddress : UInt8
  deriving DecidableEq, Repr

/-- Where `process_usb_device_changes` stands; `now` is read once, after the enumeration. -/
inductive Pass where
  | waiting
  /-- The backoff of the arrivals is to be cleared. -/
  | clearing (arrivals : List String) (devices : List UsbDeviceInfo) (now : Nat)
  /-- `known_devices` is locked, and these devices are still to be looked at. -/
  | adopting (devices : List UsbDeviceInfo) (now : Nat)
  /-- A session is to be started. -/
  | spawning (dev : UsbDeviceInfo) (devices : List UsbDeviceInfo) (now : Nat)
  deriving DecidableEq, Repr

/-- The task of a session after `start_usb_session`. -/
inductive EndTask where
  | session
  | returned (outcome : SessionOutcome)
  /-- The outcome is recorded, with the `next_attempt` computed for a failure. -/
  | recorded (nextAttempt : Option Nat)
  deriving DecidableEq, Repr

/-- `host` has `known_devices` and the sessions; `ends` is by their position. -/
structure UsbMonitor where
  host : HostSessions
  clock : Nat
  /-- `physical_devices`. -/
  physical : List String
  reconnect : String → Option ReconnectState
  pass : Pass
  ends : Nat → EndTask

def UsbMonitor.init : UsbMonitor := ⟨.init, 0, [], fun _ => none, .waiting, fun _ => .session⟩

inductive MonitorAct where
  | tick (elapsed : Nat)
  | enumerate (devices : List UsbDeviceInfo)
  | clear (serial : String)
  | lockKnown
  | consider
  | spawn (sessionId : UInt32)
  | unlockKnown
  /-- A step of a session, or of the commands that write to `ConnectMap`. `clean` and `reason`
  are for the outcome of a session that is over. -/
  | session (act : SessionAct) (clean : Bool) (reason : String)
  /-- The task of a session takes the serial out of `known_devices`. -/
  | forget (i : Nat)
  | record (i : Nat)
  deriving DecidableEq, Repr

/-- The steps of `Hdc.LiveSessions` that are the monitor's own. -/
def SessionAct.ofMonitor : SessionAct → Bool
  | .adopt .. | .forget _ => true
  | _ => false

def Pass.locksKnown : Pass → Bool
  | .waiting | .clearing .. => false
  | .adopting .. | .spawning .. => true

/-- The task of the session that an act ends. -/
def endsAfter (ends : Nat → EndTask) (clean : Bool) (reason : String) : SessionAct → Nat → EndTask
  | .failed i => Function.update ends i (.returned (.failed reason))
  | .remove i => Function.update ends i (.returned (.ended clean reason))
  | _ => ends

/-- What a pass makes of a device that is not known. -/
def passBackoff (st : Option ReconnectState) (dev : UsbDeviceInfo) (devices : List UsbDeviceInfo)
    (now : Nat) : Pass :=
  match st with
  | some st => if now < st.nextAttempt then .adopting devices now else .spawning dev devices now
  | none => .spawning dev devices now

def monitorStep (s : UsbMonitor) : MonitorAct → Option UsbMonitor
  | .tick elapsed => some { s with clock := s.clock + elapsed }
  | .enumerate devices =>
    match s.pass with
    | .waiting =>
      let current := devices.map UsbDeviceInfo.serialNumber
      let arrivals := current.dedup.filter (· ∉ s.physical)
      let removals := s.physical.filter (· ∉ current)
      some { s with
        physical := if arrivals ≠ [] ∨ removals ≠ [] then current else s.physical
        pass := .clearing arrivals devices s.clock }
    | _ => none
  | .clear serial =>
    match s.pass with
    | .clearing arrivals devices now =>
      if serial ∈ arrivals then
        some { s with
          pass := .clearing (arrivals.erase serial) devices now
          reconnect := Function.update s.reconnect serial none }
      else none
    | _ => none
  | .lockKnown =>
    match s.pass with
    | .clearing [] devices now => some { s with pass := .adopting devices now }
    | _ => none
  | .consider =>
    match s.pass with
    | .adopting (dev :: devices) now =>
      some { s with
        pass :=
          if dev.serialNumber ∈ s.host.known then .adopting devices now
          else passBackoff (s.reconnect dev.serialNumber) dev devices now }
    | _ => none
  | .spawn sessionId =>
    match s.pass with
    | .spawning dev devices now =>
      (sessionStep s.host (.adopt dev.serialNumber (toString dev.deviceAddress) sessionId)).map
        fun host => { s with
          host
          pass := .adopting devices now
          ends := Function.update s.ends s.host.sessions.length .session }
    | _ => none
  | .unlockKnown =>
    match s.pass with
    | .adopting [] _ => some { s with pass := .waiting }
    | _ => none
  | .session act clean reason =>
    if act.ofMonitor then none
    else (sessionStep s.host act).map fun host =>
      { s with host, ends := endsAfter s.ends clean reason act }
  | .forget i =>
    if s.pass.locksKnown then none
    else (sessionStep s.host (.forget i)).map fun host => { s with host }
  | .record i =>
    (s.host.inPhase i .forgotten).bind fun sess =>
      match sess.transport, s.ends i with
      | .usb, .returned outcome =>
        let st := recordSessionOutcome (s.reconnect sess.key) s.clock outcome
        some { s with
          reconnect := Function.update s.reconnect sess.key st
          ends := Function.update s.ends i (.recorded (st.map ReconnectState.nextAttempt)) }
      | _, _ => none

/-! What a step does to the sessions and to `known_devices`. -/

/-- The serial of a session of the monitor. -/
def HostSessions.usbKey (s : HostSessions) (i : Nat) : Option String :=
  (s.sessions[i]?.filter fun sess => sess.transport = .usb).map HostSession.key

inductive SessionMove (s s' : HostSessions) : SessionAct → Prop
  | same {act : SessionAct} (hsess : s'.sessions = s.sessions) (hknown : s'.known = s.known) :
    SessionMove s s' act
  | started {act : SessionAct} {sess : HostSession} (htcp : sess.transport = .tcp)
    (hsess : s'.sessions = s.sessions ++ [sess]) (hknown : s'.known = s.known) : SessionMove s s' act
  | moved {act : SessionAct} {i : Nat} {old new : HostSession} (hold : s.sessions[i]? = some old)
    (hsess : s'.sessions = s.sessions.set i new) (htransport : new.transport = old.transport)
    (hkey : new.key = old.key) (hbefore : old.phase ≠ .forgotten) (hafter : new.phase ≠ .forgotten)
    (hknown : s'.known = s.known) : SessionMove s s' act
  | adopted {serial address : String} {sessionId : UInt32} (hnew : serial ∉ s.known)
    (hsess : s'.sessions = s.sessions ++ [⟨.usb, serial, sessionId, .starting⟩])
    (hknown : s'.known = serial :: s.known) : SessionMove s s' (.adopt serial address sessionId)
  | forgot {i : Nat} {old : HostSession} (hold : s.sessions[i]? = some old)
    (husb : old.transport = .usb) (hphase : old.phase = .ended)
    (hsess : s'.sessions = s.sessions.set i { old with phase := .forgotten })
    (hknown : s'.known = s.known.erase old.key) : SessionMove s s' (.forget i)

theorem adopt_eq_some {s s' : HostSessions} {serial address : String} {sessionId : UInt32}
    (h : sessionStep s (.adopt serial address sessionId) = some s') :
    serial ∉ s.known ∧ s'.sessions = s.sessions ++ [⟨.usb, serial, sessionId, .starting⟩] ∧
      s'.known = serial :: s.known := by
  rw [sessionStep] at h
  split at h
  · cases h
  · rename_i hnew
    cases h
    exact ⟨hnew, rfl, rfl⟩

theorem sessionStep_move {s s' : HostSessions} {act : SessionAct} (h : sessionStep s act = some s') :
    SessionMove s s' act := by
  cases act with
  | tconn addr sessionId =>
    cases h
    exact .started rfl rfl rfl
  | adopt serial address sessionId =>
    obtain ⟨hnew, hsess, hknown⟩ := adopt_eq_some h
    exact .adopted hnew hsess hknown
  | authenticated i sessionId devName =>
    obtain ⟨sess, hsess, rfl⟩ := Option.map_eq_some_iff.mp h
    obtain ⟨hget, hphase⟩ := inPhase_eq_some.mp hsess
    exact .moved hget rfl rfl rfl (by simp [hphase]) (by simp) rfl
  | failed i =>
    obtain ⟨sess, hsess, rfl⟩ := Option.map_eq_some_iff.mp h
    obtain ⟨hget, hphase⟩ := inPhase_eq_some.mp hsess
    exact .moved hget rfl rfl rfl (by simp [hphase]) (by simp) rfl
  | disconnect i =>
    obtain ⟨sess, hsess, rfl⟩ := Option.map_eq_some_iff.mp h
    obtain ⟨hget, hphase⟩ := inPhase_eq_some.mp hsess
    exact .moved hget rfl rfl rfl (by simp [hphase]) (by simp) rfl
  | remove i =>
    obtain ⟨sess, hsess, rfl⟩ := Option.map_eq_some_iff.mp h
    obtain ⟨hget, hphase⟩ := inPhase_eq_some.mp hsess
    exact .moved hget rfl rfl rfl (by simp [hphase]) (by simp) rfl
  | forget i =>
    obtain ⟨sess, hsess, h⟩ := Option.bind_eq_some_iff.mp h
    obtain ⟨hget, hphase⟩ := inPhase_eq_some.mp hsess
    cases htransport : sess.transport with
    | tcp =>
      rw [htransport] at h
      cases h
    | usb =>
      rw [htransport] at h
      cases h
      refine .forgot hget htransport hphase ?_ rfl
      rw [← htransport]
      rfl
  | discover addr =>
    rw [sessionStep] at h
    split at h <;> cases h <;> exact .same rfl rfl
  | discoverPut addr =>
    rw [sessionStep] at h
    split at h <;> cases h
    exact .same rfl rfl
  | reconnect key =>
    rw [sessionStep] at h
    split at h <;> cases h <;> exact .same rfl rfl
  | reconnectRemove key =>
    rw [sessionStep] at h
    split at h <;> cases h
    exact .same rfl rfl

/-- A session that is on the monitor's list of known devices. -/
def HostSession.tracks (serial : String) (sess : HostSession) : Bool :=
  sess.transport = .usb ∧ sess.key = serial ∧ sess.phase ≠ .forgotten

/-- `known_devices` has the serials of the sessions that are not forgotten, each once. -/
structure Tracked (s : HostSessions) : Prop where
  nodup : s.known.Nodup
  count : ∀ serial, s.sessions.countP (·.tracks serial) = if serial ∈ s.known then 1 else 0

theorem Tracked.init : Tracked .init where
  nodup := List.nodup_nil
  count := by simp [HostSessions.init]

/-- Replacing an element changes a count by what it counted before and after. -/
theorem countP_set {α : Type} (p : α → Bool) {xs : List α} {i : Nat} {x : α} (h : xs[i]? = some x)
    (y : α) : (xs.set i y).countP p + (if p x then 1 else 0) = xs.countP p + (if p y then 1 else 0) := by
  induction xs generalizing i with
  | nil => cases h
  | cons a xs ih =>
    cases i with
    | zero =>
      cases h
      rw [List.set_cons_zero, List.countP_cons, List.countP_cons]
      omega
    | succ i =>
      rw [List.set_cons_succ, List.countP_cons, List.countP_cons]
      have := ih (i := i) h
      omega

theorem Tracked.step {s s' : HostSessions} {act : SessionAct} (h : Tracked s)
    (hst : sessionStep s act = some s') : Tracked s' := by
  cases sessionStep_move hst with
  | same hsess hknown => exact ⟨hknown ▸ h.nodup, by rw [hsess, hknown]; exact h.count⟩
  | started htcp hsess hknown =>
    refine ⟨hknown ▸ h.nodup, fun serial => ?_⟩
    rw [hsess, hknown, List.countP_append, h.count serial]
    simp [HostSession.tracks, htcp]
  | moved hold hsess htransport hkey hbefore hafter hknown =>
    refine ⟨hknown ▸ h.nodup, fun serial => ?_⟩
    rename_i i old new
    have htracks : new.tracks serial = old.tracks serial := by
      simp [HostSession.tracks, htransport, hkey, hbefore, hafter]
    have hcount := countP_set (·.tracks serial) hold new
    rw [htracks] at hcount
    rw [hsess, hknown, ← h.count serial]
    omega
  | adopted hnew hsess hknown =>
    refine ⟨hknown ▸ List.nodup_cons.mpr ⟨hnew, h.nodup⟩, fun key => ?_⟩
    rw [hsess, hknown, List.countP_append, h.count key]
    rename_i serial _ _
    by_cases hkey : serial = key
    · subst hkey
      simp [HostSession.tracks, hnew]
    · simp [HostSession.tracks, hkey, Ne.symm hkey]
  | forgot hold husb hphase hsess hknown =>
    refine ⟨hknown ▸ h.nodup.erase _, fun serial => ?_⟩
    rename_i i old
    have hafter : HostSession.tracks serial { old with phase := .forgotten } = false := by
      simp [HostSession.tracks]
    have hcount := countP_set (·.tracks serial) hold { old with phase := .forgotten }
    simp only [h.count serial, hafter, Bool.false_eq_true, if_false, Nat.add_zero] at hcount
    simp only [hsess, hknown, h.nodup.mem_erase_iff]
    by_cases hkey : serial = old.key
    · have hbefore : old.tracks serial = true := by simp [HostSession.tracks, husb, hkey, hphase]
      rw [if_pos hbefore] at hcount
      rw [if_neg (fun hne => hne.1 hkey)]
      split at hcount <;> omega
    · have hbefore : old.tracks serial = false := by simp [HostSession.tracks, Ne.symm hkey]
      rw [if_neg (by simp [hbefore]), Nat.add_zero] at hcount
      simp only [hkey, ne_eq, not_false_eq_true, true_and]
      exact hcount

/-! What a step of the monitor does. -/

/-- The steps of the monitor as a relation, each with the place in the pass where it is taken. -/
inductive MonitorMove (s : UsbMonitor) : MonitorAct → UsbMonitor → Prop
  | tick (elapsed : Nat) : MonitorMove s (.tick elapsed) { s with clock := s.clock + elapsed }
  | enumerate (devices : List UsbDeviceInfo) (physical arrivals : List String)
      (hpass : s.pass = .waiting) :
    MonitorMove s (.enumerate devices)
      { s with physical, pass := .clearing arrivals devices s.clock }
  | clear {serial : String} {arrivals : List String} {devices : List UsbDeviceInfo} {now : Nat}
      (hpass : s.pass = .clearing arrivals devices now) (hmem : serial ∈ arrivals) :
    MonitorMove s (.clear serial) { s with
      pass := .clearing (arrivals.erase serial) devices now
      reconnect := Function.update s.reconnect serial none }
  | lockKnown {devices : List UsbDeviceInfo} {now : Nat} (hpass : s.pass = .clearing [] devices now) :
    MonitorMove s .lockKnown { s with pass := .adopting devices now }
  | consider {dev : UsbDeviceInfo} {devices : List UsbDeviceInfo} {now : Nat}
      (hpass : s.pass = .adopting (dev :: devices) now) :
    MonitorMove s .consider { s with
      pass := if dev.serialNumber ∈ s.host.known then .adopting devices now
        else passBackoff (s.reconnect dev.serialNumber) dev devices now }
  | spawn {dev : UsbDeviceInfo} {devices : List UsbDeviceInfo} {now : Nat} {sessionId : UInt32}
      {host : HostSessions} (hpass : s.pass = .spawning dev devices now)
      (hhost : sessionStep s.host
        (.adopt dev.serialNumber (toString dev.deviceAddress) sessionId) = some host) :
    MonitorMove s (.spawn sessionId) { s with
      host
      pass := .adopting devices now
      ends := Function.update s.ends s.host.sessions.length .session }
  | unlockKnown {now : Nat} (hpass : s.pass = .adopting [] now) :
    MonitorMove s .unlockKnown { s with pass := .waiting }
  | session {act : SessionAct} {host : HostSessions} (clean : Bool) (reason : String)
      (hact : ¬ act.ofMonitor = true) (hhost : sessionStep s.host act = some host) :
    MonitorMove s (.session act clean reason)
      { s with host, ends := endsAfter s.ends clean reason act }
  | forget {i : Nat} {host : HostSessions} (hunlocked : ¬ s.pass.locksKnown = true)
      (hhost : sessionStep s.host (.forget i) = some host) :
    MonitorMove s (.forget i) { s with host }
  | record {i : Nat} {sess : HostSession} {outcome : SessionOutcome}
      (hsess : s.host.inPhase i .forgotten = some sess) (husb : sess.transport = .usb)
      (hret : s.ends i = .returned outcome) :
    MonitorMove s (.record i) { s with
      reconnect := Function.update s.reconnect sess.key
        (recordSessionOutcome (s.reconnect sess.key) s.clock outcome)
      ends := Function.update s.ends i (.recorded
        ((recordSessionOutcome (s.reconnect sess.key) s.clock outcome).map
          ReconnectState.nextAttempt)) }

theorem monitorStep_move {s s' : UsbMonitor} {act : MonitorAct} (h : monitorStep s act = some s') :
    MonitorMove s act s' := by
  cases act with
  | tick elapsed =>
    cases h
    exact .tick elapsed
  | enumerate devices =>
    rw [monitorStep] at h
    split at h <;> cases h
    exact .enumerate devices _ _ ‹_›
  | clear serial =>
    rw [monitorStep] at h
    split at h
    · split at h <;> cases h
      exact .clear ‹_› ‹_›
    · cases h
  | lockKnown =>
    rw [monitorStep] at h
    split at h <;> cases h
    exact .lockKnown ‹_›
  | consider =>
    rw [monitorStep] at h
    split at h <;> cases h
    exact .consider ‹_›
  | spawn sessionId =>
    rw [monitorStep] at h
    split at h
    · obtain ⟨host, hhost, rfl⟩ := Option.map_eq_some_iff.mp h
      exact .spawn ‹_› hhost
    · cases h
  | unlockKnown =>
    rw [monitorStep] at h
    split at h <;> cases h
    exact .unlockKnown ‹_›
  | session act clean reason =>
    rw [monitorStep] at h
    split at h
    · cases h
    · obtain ⟨host, hhost, rfl⟩ := Option.map_eq_some_iff.mp h
      exact .session clean reason ‹_› hhost
  | forget i =>
    rw [monitorStep] at h
    split at h
    · cases h
    · obtain ⟨host, hhost, rfl⟩ := Option.map_eq_some_iff.mp h
      exact .forget ‹_› hhost
  | record i =>
    obtain ⟨sess, hsess, h⟩ := Option.bind_eq_some_iff.mp h
    split at h
    · cases h
      exact .record hsess ‹_› ‹_›
    · cases h

/-- The monitor moves the sessions by their own steps. -/
theorem monitorStep_host {s s' : UsbMonitor} {act : MonitorAct} (h : monitorStep s act = some s') :
    s'.host = s.host ∨ ∃ b, sessionStep s.host b = some s'.host := by
  cases monitorStep_move h with
  | spawn _ hhost | session _ _ _ hhost | forget _ hhost => exact .inr ⟨_, hhost⟩
  | _ => exact .inl rfl

theorem monitor_tracked {ok : UsbMonitor → MonitorAct → Prop} {s : UsbMonitor}
    (h : Reaches monitorStep ok .init s) : Tracked s.host := by
  have hhost : Reaches sessionStep anyStep UsbMonitor.init.host s.host := by
    refine h.map UsbMonitor.host fun _ hst => ?_
    rcases monitorStep_host hst with hsame | ⟨b, hb⟩
    · exact .inl hsame
    · exact .inr ⟨b, trivial, hb⟩
  exact hhost.invariant (fun hs _ hst => hs.step hst) .init

/-! One session for each device. -/

/-- `start_usb_session` is running for the device. -/
def HostSession.runsUsb (serial : String) (sess : HostSession) : Bool :=
  sess.transport = .usb ∧ sess.key = serial ∧
    (sess.phase = .starting ∨ sess.phase = .running ∨ sess.phase = .ending)

theorem runsUsb_tracks {serial : String} {sess : HostSession} (h : sess.runsUsb serial = true) :
    sess.tracks serial = true := by
  simp only [HostSession.runsUsb, HostSession.tracks, decide_eq_true_eq] at h ⊢
  obtain ⟨husb, hkey, hphase⟩ := h
  refine ⟨husb, hkey, ?_⟩
  rcases hphase with hp | hp | hp <;> simp [hp]

/-- The serial is listed twice, and once more while its session is running. -/
def listedTwice : Option UsbMonitor :=
  let dev : UsbDeviceInfo := ⟨"A1", 4⟩
  run monitorStep anyStep .init
    [.enumerate [dev, dev], .clear "A1", .lockKnown, .consider, .spawn 7, .consider, .unlockKnown,
      .session (.authenticated 0 9 "phone") true "", .enumerate [dev], .lockKnown, .consider,
      .unlockKnown]

theorem listedTwice_isSome : listedTwice.isSome = true := by decide

end Hdc
