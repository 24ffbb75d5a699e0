import Hdc.ConnectMap
import Hdc.Lts
import Mathlib.Logic.Function.Basic

/- Who writes to the host's `ConnectMap` (`hdc/src/server.rs`): `start_tcp_daemon_session`
   and its reader task, `target discover` and `target reconnect` of `dispatch_task`, the USB
   monitor and `start_usb_session`. Each is a task of its own, and each takes the lock of the
   map for one operation at a time, so `sessionStep` interleaves single operations.

   No writer looks at whose entry it overwrites or removes. `addressable_step_iff` says what
   follows: a step keeps every live session addressable exactly when it does not overwrite or
   remove the entry of one (`KeepsEntries`), and nothing in the code sees to that. -/
namespace Hdc
open Rust Lts

/-! Sessions. -/

/-- The transport of a session, which decides how it starts and what it cleans up. -/
inductive Transport where
  | tcp
  | usb
  deriving DecidableEq, Repr

inductive SessionPhase where
  /-- Connecting and authenticating. -/
  | starting
  /-- In the reader loop. -/
  | running
  /-- A read has failed and the entry is to be removed. -/
  | ending
  /-- `start_usb_session` has returned, or the reader task is over. -/
  | ended
  /-- The USB monitor has taken the device off its list. -/
  | forgotten
  deriving DecidableEq, Repr

structure HostSession where
  transport : Transport
  key : String
  sessionId : UInt32
  phase : SessionPhase
  deriving DecidableEq, Repr

/-- The host. `known` are the USB devices that the monitor has adopted; `discovering` are the
addresses a discovery has found absent and is about to enter, `reconnecting` the keys whose
entry a reconnect is about to remove. `current` is for the statement only: the session that
was entered last under a key. -/
structure HostSessions where
  connectMap : ConnectMap
  sessions : List HostSession
  known : List String
  discovering : List String
  reconnecting : List String
  current : String → Option Nat

def HostSessions.init : HostSessions := ⟨.new, [], [], [], [], fun _ => none⟩

/-! Steps. -/

inductive SessionAct where
  /-- `start_tcp_daemon_session` has connected to `addr`. -/
  | tconn (addr : String) (sessionId : UInt32)
  /-- The monitor adopts a device and spawns its session. -/
  | adopt (serial address : String) (sessionId : UInt32)
  /-- Session `i` is authenticated and enters its device. A USB daemon may have given it
  another id. -/
  | authenticated (i : Nat) (sessionId : UInt32) (devName : String)
  /-- Session `i` cannot be set up. -/
  | failed (i : Nat)
  /-- The daemon of session `i` disconnects, and its reader notices. -/
  | disconnect (i : Nat)
  /-- The end of session `i` removes the entry. -/
  | remove (i : Nat)
  | forget (i : Nat)
  /-- `contains_key` of a discovery, and the `put` it is followed by. -/
  | discover (addr : String)
  | discoverPut (addr : String)
  /-- `get_session_id` of a reconnect, and the `remove` it is followed by. -/
  | reconnect (key : String)
  | reconnectRemove (key : String)
  deriving DecidableEq, Repr

/-- The session `i`, if it is in `phase`. -/
def HostSessions.inPhase (s : HostSessions) (i : Nat) (phase : SessionPhase) : Option HostSession :=
  s.sessions[i]?.filter fun sess => sess.phase = phase

def HostSessions.set (s : HostSessions) (i : Nat) (sess : HostSession) : HostSessions :=
  { s with sessions := s.sessions.set i sess }

def HostSession.connType (sess : HostSession) : ConnectType :=
  match sess.transport with
  | .tcp => .tcp
  | .usb => .usb sess.key

def sessionStep (s : HostSessions) : SessionAct → Option HostSessions
  | .tconn addr sessionId =>
    some { s with sessions := s.sessions ++ [⟨.tcp, addr, sessionId, .starting⟩] }
  | .adopt serial address sessionId =>
    if serial ∈ s.known then none
    else some { s with
      known := serial :: s.known
      connectMap := s.connectMap.put serial ⟨0, .usb address, .ready, ""⟩
      sessions := s.sessions ++ [⟨.usb, serial, sessionId, .starting⟩] }
  | .authenticated i sessionId devName =>
    (s.inPhase i .starting).map fun sess =>
      let sessionId := match sess.transport with
        | .tcp => sess.sessionId
        | .usb => sessionId
      { s.set i { sess with sessionId, phase := .running } with
        connectMap := s.connectMap.put sess.key ⟨sessionId, sess.connType, .connected, devName⟩
        current := Function.update s.current sess.key (some i) }
  | .failed i =>
    (s.inPhase i .starting).map fun sess =>
      { s.set i { sess with phase := .ended } with
        connectMap := match sess.transport with
          | .tcp => s.connectMap
          | .usb => s.connectMap.updateStatus sess.key .offline }
  | .disconnect i =>
    (s.inPhase i .running).map fun sess => s.set i { sess with phase := .ending }
  | .remove i =>
    (s.inPhase i .ending).map fun sess =>
      { s.set i { sess with phase := .ended } with connectMap := s.connectMap.remove sess.key }
  | .forget i =>
    (s.inPhase i .ended).bind fun sess =>
      match sess.transport with
      | .tcp => none
      | .usb => some { s.set i { sess with phase := .forgotten } with known := s.known.erase sess.key }
  | .discover addr =>
    if s.connectMap.containsKey addr then some s
    else some { s with discovering := addr :: s.discovering }
  | .discoverPut addr =>
    if addr ∈ s.discovering then
      some { s with
        discovering := s.discovering.erase addr
        connectMap := s.connectMap.put addr ⟨0, .tcp, .ready, ""⟩ }
    else none
  | .reconnect key =>
    match s.connectMap.getSessionId key with
    | some _ => some { s with reconnecting := key :: s.reconnecting }
    | none => some s
  | .reconnectRemove key =>
    if key ∈ s.reconnecting then
      some { s with
        reconnecting := s.reconnecting.erase key
        connectMap := s.connectMap.remove key }
    else none

/-! The property and the condition. -/

/-- Session `i` runs its reader loop and no later one has been entered under its key. -/
def HostSessions.Live (s : HostSessions) (i : Nat) (sess : HostSession) : Prop :=
  s.sessions[i]? = some sess ∧ sess.phase = .running ∧ s.current sess.key = some i

/-- Every live session is in the map, under its key, with its id, as connected. -/
def Addressable (s : HostSessions) : Prop :=
  ∀ i sess, s.Live i sess → ∃ info, s.connectMap.get sess.key = some info ∧
    info.sessionId = sess.sessionId ∧ info.connStatus = .connected

/-- The live session of a key. -/
def HostSessions.liveOn (s : HostSessions) (key : String) : Option HostSession :=
  (s.current key).bind fun i => s.sessions[i]?.filter fun sess =>
    sess.phase = .running ∧ sess.key = key

/-- The step does not write over the entry of a live session. -/
def KeepsEntries (s : HostSessions) : SessionAct → Prop
  | .adopt key _ _ | .discoverPut key | .reconnectRemove key => s.liveOn key = none
  | .failed i => ∀ sess ∈ s.inPhase i .starting, sess.transport = .usb → s.liveOn sess.key = none
  | .remove i => ∀ sess ∈ s.inPhase i .ending, s.liveOn sess.key = none
  | .tconn .. | .authenticated .. | .disconnect _ | .forget _ | .discover _ | .reconnect _ => True

theorem liveOn_eq_some {s : HostSessions} {key : String} {sess : HostSession} :
    s.liveOn key = some sess ↔ ∃ i, s.Live i sess ∧ sess.key = key := by
  simp only [HostSessions.liveOn, HostSessions.Live, Option.bind_eq_some_iff,
    Option.filter_eq_some_iff, decide_eq_true_eq]
  constructor
  · rintro ⟨i, hcur, hsess, hphase, rfl⟩
    exact ⟨i, ⟨hsess, hphase, hcur⟩, rfl⟩
  · rintro ⟨i, ⟨hsess, hphase, hcur⟩, rfl⟩
    exact ⟨i, hcur, hsess, hphase, rfl⟩

/-- The entry of a session that can be addressed. -/
def Entered (m : ConnectMap) (sess : HostSession) : Prop :=
  ∃ info, m.get sess.key = some info ∧ info.sessionId = sess.sessionId ∧
    info.connStatus = .connected

theorem addressable_iff {s : HostSessions} :
    Addressable s ↔ ∀ key sess, s.liveOn key = some sess → Entered s.connectMap sess := by
  constructor
  · intro h key sess hlive
    obtain ⟨i, hi, -⟩ := liveOn_eq_some.mp hlive
    exact h i sess hi
  · intro h i sess hlive
    exact h sess.key sess (liveOn_eq_some.mpr ⟨i, hlive, rfl⟩)

/-! What a step does to the live sessions. -/

theorem inPhase_eq_some {s : HostSessions} {i : Nat} {phase : SessionPhase} {sess : HostSession} :
    s.inPhase i phase = some sess ↔ s.sessions[i]? = some sess ∧ sess.phase = phase := by
  simp only [HostSessions.inPhase, Option.filter_eq_some_iff, decide_eq_true_eq]

section
variable {s s' : HostSessions}

/-- A session that starts is not live yet. -/
theorem liveOn_append (sess : HostSession) (hsess : s'.sessions = s.sessions ++ [sess])
    (hcur : s'.current = s.current) (hphase : sess.phase ≠ .running) : s'.liveOn = s.liveOn := by
  funext key
  simp only [HostSessions.liveOn, hsess, hcur]
  congr 1
  funext i
  rcases Nat.lt_trichotomy i s.sessions.length with hi | rfl | hi
  · rw [List.getElem?_append_left hi]
  · simp [hphase]
  · have hlen : (s.sessions ++ [sess]).length ≤ i := by rw [List.length_append]; exact hi
    rw [List.getElem?_eq_none hlen, List.getElem?_eq_none (Nat.le_of_lt hi)]

/-- A session that moves on without having run or running stays out of the live ones. -/
theorem liveOn_set {i : Nat} {old : HostSession} (new : HostSession) (hold : s.sessions[i]? = some old)
    (hsess : s'.sessions = s.sessions.set i new) (hcur : s'.current = s.current)
    (ho : old.phase ≠ .running) (hn : new.phase ≠ .running) : s'.liveOn = s.liveOn := by
  funext key
  simp only [HostSessions.liveOn, hsess, hcur]
  congr 1
  funext j
  by_cases hj : i = j
  · subst hj
    rw [List.getElem?_set_self (List.getElem?_eq_some_iff.mp hold).1, hold,
      Option.filter_some_neg (by simp [hn]), Option.filter_some_neg (by simp [ho])]
  · rw [List.getElem?_set_ne hj]

/-- A session whose reader stops is no longer live; the others are as before. -/
theorem liveOn_of_stopped {i : Nat} {new : HostSession}
    (hsess : s'.sessions = s.sessions.set i new) (hcur : s'.current = s.current)
    (hn : new.phase ≠ .running) {key : String} {sess : HostSession}
    (h : s'.liveOn key = some sess) : s.liveOn key = some sess := by
  simp only [HostSessions.liveOn, hsess, hcur, Option.bind_eq_some_iff,
    Option.filter_eq_some_iff] at h ⊢
  obtain ⟨j, hj, hget, hrun⟩ := h
  by_cases hij : i = j
  · subst hij
    obtain ⟨hlt, heq⟩ := List.getElem?_eq_some_iff.mp hget
    rw [List.getElem_set_self] at heq
    subst heq
    simp [hn] at hrun
  · rw [List.getElem?_set_ne hij] at hget
    exact ⟨j, hj, hget, hrun⟩

/-- A session that is entered is the live one of its key. -/
theorem liveOn_entered {i : Nat} {old new : HostSession} (hold : s.sessions[i]? = some old)
    (hsess : s'.sessions = s.sessions.set i new) (hkey : new.key = old.key)
    (hcur : s'.current = Function.update s.current old.key (some i)) (hn : new.phase = .running)
    (key : String) : s'.liveOn key = if key = old.key then some new else s.liveOn key := by
  have hself : (s.sessions.set i new)[i]? = some new :=
    List.getElem?_set_self (List.getElem?_eq_some_iff.mp hold).1
  simp only [HostSessions.liveOn, hsess, hcur]
  by_cases h : key = old.key
  · subst h
    simp [hself, hn, hkey]
  · rw [Function.update_of_ne h, if_neg h]
    congr 1
    funext j
    by_cases hj : i = j
    · subst hj
      rw [hself, hold, Option.filter_some_neg (by simp [hkey, Ne.symm h]),
        Option.filter_some_neg (by simp [Ne.symm h])]
    · rw [List.getElem?_set_ne hj]

/-! What a step does to the map. -/

/-- `m'` differs from `m` at `key` only, where it has no connected device. -/
structure Spoils (m m' : ConnectMap) (key : String) : Prop where
  at_key : ∀ info, m'.get key = some info → info.connStatus ≠ .connected
  elsewhere : ∀ key', key' ≠ key → m'.get key' = m.get key'

theorem Spoils.remove (m : ConnectMap) (key : String) : Spoils m (m.remove key) key where
  at_key := by simp [ConnectMap.get_remove]
  elsewhere := by
    intro key' hne
    rw [ConnectMap.get_remove, if_neg hne]

theorem Spoils.put (m : ConnectMap) (key : String) {info : DaemonInfo}
    (hinfo : info.connStatus ≠ .connected) : Spoils m (m.put key info) key where
  at_key := by
    intro info' h
    rw [ConnectMap.get_put, if_pos rfl, Option.some.injEq] at h
    rw [← h]
    exact hinfo
  elsewhere := by
    intro key' hne
    rw [ConnectMap.get_put, if_neg hne]

theorem Spoils.offline (m : ConnectMap) (key : String) :
    Spoils m (m.updateStatus key .offline) key where
  at_key := by
    intro info' h
    rw [ConnectMap.get_updateStatus, if_pos rfl] at h
    obtain ⟨info, -, rfl⟩ := Option.map_eq_some_iff.mp h
    simp
  elsewhere := by
    intro key' hne
    rw [ConnectMap.get_updateStatus, if_neg hne]

/-- Sessions that start or stop leave the others addressable. -/
theorem addressable_started (sess : HostSession) (h : Addressable s)
    (hsess : s'.sessions = s.sessions ++ [sess]) (hcur : s'.current = s.current)
    (hphase : sess.phase ≠ .running) (hmap : s'.connectMap = s.connectMap) : Addressable s' := by
  rw [addressable_iff] at h ⊢
  rw [liveOn_append sess hsess hcur hphase, hmap]
  exact h

theorem addressable_stopped {i : Nat} {new : HostSession} (h : Addressable s)
    (hsess : s'.sessions = s.sessions.set i new) (hcur : s'.current = s.current)
    (hn : new.phase ≠ .running) (hmap : s'.connectMap = s.connectMap) : Addressable s' := by
  rw [addressable_iff] at h ⊢
  intro key sess hs
  rw [hmap]
  exact h key sess (liveOn_of_stopped hsess hcur hn hs)

/-- Spoiling a key leaves the live sessions addressable exactly if none of them has it. -/
theorem addressable_spoils_iff {key : String} (h : Addressable s) (hlive : s'.liveOn = s.liveOn)
    (hmap : Spoils s.connectMap s'.connectMap key) : Addressable s' ↔ s.liveOn key = none := by
  rw [addressable_iff] at h ⊢
  rw [hlive]
  constructor
  · intro h'
    cases hkey : s.liveOn key with
    | none => rfl
    | some sess =>
      obtain ⟨info, hget, -, hstatus⟩ := h' key sess hkey
      obtain ⟨_, -, rfl⟩ := liveOn_eq_some.mp hkey
      exact absurd hstatus (hmap.at_key info hget)
  · intro hnone key' sess hs
    obtain ⟨_, -, rfl⟩ := liveOn_eq_some.mp hs
    have hne : sess.key ≠ key := by
      rintro rfl
      rw [hnone] at hs
      cases hs
    obtain ⟨info, hget, hrest⟩ := h _ sess hs
    exact ⟨info, (hmap.elsewhere _ hne).trans hget, hrest⟩

/-- A session that is entered can be addressed, and so can those of the other keys. -/
theorem addressable_entered {i : Nat} {old new : HostSession} {info : DaemonInfo}
    (h : Addressable s) (hold : s.sessions[i]? = some old)
    (hsess : s'.sessions = s.sessions.set i new) (hkey : new.key = old.key)
    (hcur : s'.current = Function.update s.current old.key (some i)) (hn : new.phase = .running)
    (hmap : s'.connectMap = s.connectMap.put old.key info) (hid : info.sessionId = new.sessionId)
    (hinfo : info.connStatus = .connected) : Addressable s' := by
  rw [addressable_iff] at h ⊢
  intro key sess hs
  rw [liveOn_entered hold hsess hkey hcur hn] at hs
  split at hs
  · cases hs
    refine ⟨info, ?_, hid, hinfo⟩
    rw [hmap, hkey, ConnectMap.get_put, if_pos rfl]
  · rename_i hne
    obtain ⟨info', hget, hrest⟩ := h key sess hs
    obtain ⟨_, -, rfl⟩ := liveOn_eq_some.mp hs
    refine ⟨info', ?_, hrest⟩
    rw [hmap, ConnectMap.get_put, if_neg hne]
    exact hget

end

/-- One step: the live sessions stay addressable exactly if it keeps their entries. -/
theorem addressable_step_iff {s s' : HostSessions} {act : SessionAct} (h : Addressable s)
    (hst : sessionStep s act = some s') : Addressable s' ↔ KeepsEntries s act := by
  cases act with
  | tconn addr sessionId =>
    cases hst
    exact iff_of_true
      (addressable_started ⟨.tcp, addr, sessionId, .starting⟩ h rfl rfl (by simp) rfl) trivial
  | adopt serial address sessionId =>
    simp only [sessionStep] at hst
    split at hst
    · cases hst
    cases hst
    exact addressable_spoils_iff h
      (liveOn_append ⟨.usb, serial, sessionId, .starting⟩ rfl rfl (by simp))
      (Spoils.put _ _ (by simp))
  | authenticated i sessionId devName =>
    obtain ⟨sess, hsess, rfl⟩ := Option.map_eq_some_iff.mp hst
    exact iff_of_true
      (addressable_entered h (inPhase_eq_some.mp hsess).1 rfl rfl rfl rfl rfl rfl rfl) trivial
  | failed i =>
    obtain ⟨⟨transport, key, sessionId, phase⟩, hsess, rfl⟩ := Option.map_eq_some_iff.mp hst
    obtain ⟨hget, rfl⟩ := inPhase_eq_some.mp hsess
    simp only [KeepsEntries, hsess, Option.mem_def, Option.some.injEq, forall_eq']
    cases transport with
    | tcp =>
      refine iff_of_true (addressable_stopped h rfl rfl ?_ rfl) (by simp)
      simp
    | usb =>
      simp only [true_imp_iff]
      exact addressable_spoils_iff h
        (liveOn_set ⟨.usb, key, sessionId, .ended⟩ hget rfl rfl (by simp) (by simp))
        (Spoils.offline _ _)
  | disconnect i =>
    obtain ⟨sess, hsess, rfl⟩ := Option.map_eq_some_iff.mp hst
    refine iff_of_true (addressable_stopped h rfl rfl ?_ rfl) trivial
    simp
  | remove i =>
    obtain ⟨sess, hsess, rfl⟩ := Option.map_eq_some_iff.mp hst
    obtain ⟨hget, hphase⟩ := inPhase_eq_some.mp hsess
    simp only [KeepsEntries, hsess, Option.mem_def, Option.some.injEq, forall_eq']
    exact addressable_spoils_iff h (liveOn_set _ hget rfl rfl (by simp [hphase]) (by simp))
      (Spoils.remove _ _)
  | forget i =>
    obtain ⟨sess, hsess, hst⟩ := Option.bind_eq_some_iff.mp hst
    obtain ⟨hget, hphase⟩ := inPhase_eq_some.mp hsess
    cases htransport : sess.transport with
    | tcp =>
      rw [htransport] at hst
      cases hst
    | usb =>
      simp only [htransport] at hst
      cases hst
      refine iff_of_true (addressable_stopped h rfl rfl ?_ rfl) trivial
      simp
  | discover addr =>
    simp only [sessionStep] at hst
    split at hst <;> cases hst <;> exact iff_of_true h trivial
  | discoverPut addr =>
    simp only [sessionStep] at hst
    split at hst
    · cases hst
      exact addressable_spoils_iff h rfl (Spoils.put _ _ (by decide))
    · cases hst
  | reconnect key =>
    simp only [sessionStep] at hst
    split at hst <;> cases hst <;> exact iff_of_true h trivial
  | reconnectRemove key =>
    simp only [sessionStep] at hst
    split at hst
    · cases hst
      exact addressable_spoils_iff h rfl (Spoils.remove _ _)
    · cases hst

instance (s : HostSessions) : ∀ act, Decidable (KeepsEntries s act)
  | .adopt key _ _ | .discoverPut key | .reconnectRemove key =>
    inferInstanceAs (Decidable (s.liveOn key = none))
  | .failed i =>
    inferInstanceAs (Decidable (∀ sess ∈ s.inPhase i .starting, sess.transport = .usb → s.liveOn sess.key = none))
  | .remove i => inferInstanceAs (Decidable (∀ sess ∈ s.inPhase i .ending, s.liveOn sess.key = none))
  | .tconn .. | .authenticated .. | .disconnect _ | .forget _ | .discover _ | .reconnect _ =>
    inferInstanceAs (Decidable True)

/-- The live sessions are addressable as long as every step keeps their entries, and the first
step that does not leaves one that is not. -/
theorem live_session_addressable {s : HostSessions}
    (h : Reaches sessionStep KeepsEntries .init s) :
    Addressable s ∧ ∀ act s', sessionStep s act = some s' → (Addressable s' ↔ KeepsEntries s act) := by
  have hinit : Addressable .init := by
    intro i sess hlive
    simp [HostSessions.Live, HostSessions.init] at hlive
  have hs : Addressable s :=
    h.invariant (fun hs hok hst => (addressable_step_iff hs hst).mpr hok) hinit
  exact ⟨hs, fun act s' hst => addressable_step_iff hs hst⟩

/-- A daemon is connected twice, and the first session ends before the second starts. -/
def reconnected : Option HostSessions :=
  run sessionStep KeepsEntries .init
    [.tconn "127.0.0.1:5555" 1, .authenticated 0 0 "phone", .disconnect 0, .remove 0,
      .tconn "127.0.0.1:5555" 2, .authenticated 1 0 "phone"]

theorem reconnected_isSome : reconnected.isSome = true := by decide

theorem live_session_addressable_reconnected :
    Addressable (reconnected.get reconnected_isSome) ∧
    (reconnected.get reconnected_isSome).liveOn "127.0.0.1:5555" =
      some ⟨.tcp, "127.0.0.1:5555", 2, .running⟩ :=
  ⟨(live_session_addressable (.of_run (Option.some_get (x := reconnected) reconnected_isSome).symm)).1,
    by decide⟩

/-- A daemon is connected twice, and the first session ends after the second has started. -/
def overlapping : Option HostSessions :=
  run sessionStep anyStep .init
    [.tconn "127.0.0.1:5555" 1, .authenticated 0 0 "phone", .tconn "127.0.0.1:5555" 2,
      .authenticated 1 0 "phone", .disconnect 0, .remove 0]

theorem overlapping_isSome : overlapping.isSome = true := by decide

/-- The end of the older session has removed the entry of the newer one, which is still live. -/
theorem overlapping_not_addressable :
    let s := overlapping.get overlapping_isSome
    Reaches sessionStep anyStep .init s ∧
    s.Live 1 ⟨.tcp, "127.0.0.1:5555", 2, .running⟩ ∧ s.connectMap.get "127.0.0.1:5555" = none ∧
    ¬ Addressable s := by
  have hlive : (overlapping.get overlapping_isSome).Live 1 ⟨.tcp, "127.0.0.1:5555", 2, .running⟩ := by
    unfold HostSessions.Live
    decide
  have hget : (overlapping.get overlapping_isSome).connectMap.get "127.0.0.1:5555" = none := by
    decide
  refine ⟨.of_run (Option.some_get (x := overlapping) overlapping_isSome).symm, hlive, hget, ?_⟩
  intro h
  obtain ⟨info, hinfo, -⟩ := h 1 _ hlive
  rw [hget] at hinfo
  cases hinfo

end Hdc
