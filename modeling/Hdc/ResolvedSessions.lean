import Hdc.ServerMaps

/- Whether the session id that a command is given for a device (`resolve_session_id` in
   `hdc/src/server.rs`) is one that messages can be sent to.

   The entries of the `ConnectMap` and the two maps of the transports are written by different
   operations. A `ServerOp` is one of these as a whole: a discovery, the adoption of a USB device,
   an authentication, its failure, a disconnect, a reconnect; `OpMove` is what it does to the
   sessions that run, to the entries and to the maps. Between operations every `Connected` entry has
   its session (`TracksSessions`), as long as no two sessions run under one id. But the lookup takes
   any entry, and those that are `Ready` or `Offline` have a zero or no session at all. -/
namespace Hdc
open Rust Lts

/-! Operations. -/

inductive ServerOp where
  /-- `target discover` finds a daemon. -/
  | discover (addr : String)
  | adopt (serial address : String) (sessionId : UInt32)
  /-- A TCP daemon is connected and authenticated, with a PSK or without. -/
  | connectTcp (addr : String) (sessionId : UInt32) (psk : Bool) (devName : String)
  /-- A TCP daemon is connected and not authenticated; the error exits end the session, the sends
  that fail do not. -/
  | failTcp (addr : String) (sessionId : UInt32) (psk endsSession : Bool)
  /-- USB session `i` is authenticated, under the id its daemon has answered with. -/
  | authenticateUsb (i : Nat) (sessionId : UInt32) (devName : String)
  | failUsb (i : Nat)
  /-- The writer task of USB session `i` ends with an error, while the reader goes on. -/
  | writeFails (i : Nat)
  /-- Session `i` ends, with its cleanup. -/
  | disconnect (i : Nat)
  /-- The monitor takes the device of USB session `i` off its list. -/
  | forget (i : Nat)
  /-- `target reconnect`, for a device. -/
  | reconnect (key : String)
  deriving DecidableEq, Repr

/-- The cleanup of a session, after the entry in the `ConnectMap`. -/
def cleanupActs (transport : Transport) (i : Nat) : List MapAct :=
  match transport with
  | .tcp => [.cleanup i]
  -- the writer task is awaited after `end_session_with_cleanup`
  | .usb => [.cleanup i, .writerEnds i, .cleanup i, .cleanup i]

/-- A reconnect of a device ends the session it has the id of, and does nothing if it has none. -/
def reconnectActs (key : String) : Option UInt32 → List MapAct
  | some sessionId => [.resolve key, .session (.reconnect key), .endResolved key sessionId,
      .session (.reconnectRemove key)]
  | none => []

/-- An operation in single steps. -/
def ServerOp.acts (s : HostServer) : ServerOp → List MapAct
  | .discover addr => .session (.discover addr) ::
      if s.host.connectMap.containsKey addr then [] else [.session (.discoverPut addr)]
  | .adopt serial address sessionId => [.session (.adopt serial address sessionId)]
  | .connectTcp addr sessionId psk devName =>
    let i := s.host.sessions.length
    .session (.tconn addr sessionId) :: ((if psk then [.setCipher i] else []) ++
      [.session (.authenticated i sessionId devName)])
  | .failTcp addr sessionId psk endsSession =>
    let i := s.host.sessions.length
    .session (.tconn addr sessionId) :: ((if psk then [.setCipher i] else []) ++
      ((if endsSession then [.endStarting i] else []) ++ [.session (.failed i)]))
  | .authenticateUsb i sessionId devName =>
    [.session (.authenticated i sessionId devName), .openSender i]
  | .failUsb i => [.session (.failed i)]
  | .writeFails i => [.writerEnds i]
  | .disconnect i => .session (.disconnect i) :: .session (.remove i) ::
      (s.host.sessions[i]?.map fun sess => cleanupActs sess.transport i).getD []
  | .forget i => [.session (.forget i)]
  | .reconnect key => reconnectActs key (s.host.connectMap.getSessionId key)

def serverStep (s : HostServer) (op : ServerOp) : Option HostServer :=
  run mapStep anyStep s (op.acts s)

/-- No session that runs has the id. -/
def HostServer.Unused (s : HostServer) (id : UInt32) : Prop :=
  ∀ sess ∈ s.host.sessions, sess.phase = .running → sess.sessionId ≠ id

instance (s : HostServer) (id : UInt32) : Decidable (s.Unused id) :=
  inferInstanceAs (Decidable (∀ sess ∈ s.host.sessions, _))

/-- Sessions that run under the id of the device are of that device. -/
def HostServer.OwnSession (s : HostServer) (key : String) : Prop :=
  ∀ sess ∈ s.host.sessions, sess.phase = .running →
    s.host.connectMap.getSessionId key = some sess.sessionId → sess.key = key

instance (s : HostServer) (key : String) : Decidable (s.OwnSession key) :=
  inferInstanceAs (Decidable (∀ sess ∈ s.host.sessions, _))

/-- Sessions get ids that no other has while it runs, a reconnect is not for an id that another
device has, and no write to a USB device fails while its reader goes on. -/
def FreshIds (s : HostServer) : ServerOp → Prop
  | .connectTcp _ sessionId _ _ | .failTcp _ sessionId _ _ | .authenticateUsb _ sessionId _ =>
    s.Unused sessionId
  | .reconnect key => s.OwnSession key
  | .writeFails _ => False
  | _ => True

instance (s : HostServer) : ∀ op, Decidable (FreshIds s op)
  | .connectTcp .. | .failTcp .. | .authenticateUsb .. =>
    inferInstanceAs (Decidable (HostServer.Unused ..))
  | .reconnect _ => inferInstanceAs (Decidable (HostServer.OwnSession ..))
  | .writeFails _ => inferInstanceAs (Decidable False)
  | .discover _ | .adopt .. | .failUsb _ | .disconnect _ | .forget _ =>
    inferInstanceAs (Decidable True)

/-- States between operations are among those of the single steps. -/
theorem serverStep_reaches {ok : HostServer → ServerOp → Prop} {s s' : HostServer}
    (h : Reaches serverStep ok s s') : Reaches mapStep anyStep s s' := by
  induction h with
  | refl => exact .refl
  | tail _ _ hst ih => exact ih.trans (.of_run hst)

/-! Sessions that run, and what is registered for them. -/

def HostServer.Running (s : HostServer) (i : Nat) (sess : HostSession) : Prop :=
  s.host.sessions[i]? = some sess ∧ sess.phase = .running

/-- The map of the transport has the id. -/
def HostServer.Registered (s : HostServer) : Transport → UInt32 → Prop
  | .tcp, id => s.tcp.sessionWriters id ≠ none
  | .usb, id => s.usb.sessionSenders id ≠ none

/-- What an operation does, as seen from the sessions that run. -/
inductive OpMove (s s' : HostServer) : Prop
  /-- No session starts or stops running, no entry becomes `Connected`, and ids of sessions that
  run stay registered. -/
  | kept (hrunning : ∀ i sess, s'.Running i sess ↔ s.Running i sess)
      (hmap : Weakens s.host.connectMap s'.host.connectMap)
      (hregistered : ∀ transport id, ¬ s.Unused id → s.Registered transport id →
        s'.Registered transport id)
  /-- A session is registered and entered as `Connected`. -/
  | entered (i : Nat) (sess : HostSession) (info : DaemonInfo)
      (hrunning : ∀ j sess', s'.Running j sess' ↔ s.Running j sess' ∨ j = i ∧ sess' = sess)
      (hunused : s.Unused sess.sessionId)
      (hmap : s'.host.connectMap = s.host.connectMap.put sess.key info)
      (hid : info.sessionId = sess.sessionId)
      (hnew : s'.Registered sess.transport sess.sessionId)
      (hregistered : ∀ transport id, s.Registered transport id → s'.Registered transport id)
  /-- A session ends, and its entry and what is registered under its id are gone. -/
  | left (i : Nat) (sess : HostSession) (hold : s.Running i sess)
      (hrunning : ∀ j sess', s'.Running j sess' ↔ j ≠ i ∧ s.Running j sess')
      (hmap : s'.host.connectMap = s.host.connectMap.remove sess.key)
      (hregistered : ∀ transport id, id ≠ sess.sessionId → s.Registered transport id →
        s'.Registered transport id)
  /-- The entry of a device is removed and what is registered under its id is gone, while its
  session runs on. -/
  | dropped (key : String) (droppedId : UInt32)
      (hrunning : ∀ i sess, s'.Running i sess ↔ s.Running i sess)
      (hown : ∀ i sess, s.Running i sess → sess.sessionId = droppedId → sess.key = key)
      (hmap : s'.host.connectMap = s.host.connectMap.remove key)
      (hregistered : ∀ transport id, id ≠ droppedId → s.Registered transport id →
        s'.Registered transport id)

/-- Sessions that run have ids of their own, and every `Connected` entry is that of a session which
runs and is registered. -/
structure TracksSessions (s : HostServer) : Prop where
  distinct : ∀ i j a b, s.Running i a → s.Running j b → a.sessionId = b.sessionId → i = j
  connected : ∀ key info, s.host.connectMap.get key = some info → info.connStatus = .connected →
    ∃ i sess, s.Running i sess ∧ sess.key = key ∧ sess.sessionId = info.sessionId ∧
      s.Registered sess.transport info.sessionId

theorem TracksSessions.init : TracksSessions .init where
  distinct := by
    rintro i j a b ⟨ha, -⟩
    simp [HostServer.init, HostSessions.init] at ha
  connected := by
    rintro key info ⟨⟩

section
variable {s s' : HostServer}

theorem not_unused_of_running {i : Nat} {sess : HostSession} (h : s.Running i sess) :
    ¬ s.Unused sess.sessionId :=
  fun hunused => hunused sess (List.mem_of_getElem? h.1) h.2 rfl

theorem OpMove.tracksSessions (hmove : OpMove s s') (h : TracksSessions s) : TracksSessions s' := by
  cases hmove with
  | kept hrunning hmap hregistered =>
    refine ⟨fun i j a b ha hb => ?_, fun key info hget hconnected => ?_⟩
    · exact h.distinct i j a b ((hrunning i a).mp ha) ((hrunning j b).mp hb)
    · rcases hmap key info hget with hget | ⟨hnot, -⟩
      · obtain ⟨i, sess, hrun, hkey, hid, hreg⟩ := h.connected key info hget hconnected
        exact ⟨i, sess, (hrunning i sess).mpr hrun, hkey, hid,
          hregistered _ _ (hid ▸ not_unused_of_running hrun) hreg⟩
      · exact absurd hconnected hnot
  | entered i sess info hrunning hunused hmap hid hnew hregistered =>
    refine ⟨fun j k a b ha hb heq => ?_, fun key info' hget hconnected => ?_⟩
    · rcases (hrunning j a).mp ha with ha | ⟨rfl, rfl⟩
      · rcases (hrunning k b).mp hb with hb | ⟨rfl, rfl⟩
        · exact h.distinct j k a b ha hb heq
        · exact absurd hunused (heq ▸ not_unused_of_running ha)
      · rcases (hrunning k b).mp hb with hb | ⟨rfl, -⟩
        · exact absurd hunused (heq ▸ not_unused_of_running hb)
        · rfl
    · rw [hmap, ConnectMap.get_put] at hget
      split at hget
      · rename_i hkey
        cases hget
        exact ⟨i, sess, (hrunning i sess).mpr (.inr ⟨rfl, rfl⟩), hkey.symm, hid.symm, hid ▸ hnew⟩
      · obtain ⟨j, sess', hrun, hkey, hid', hreg⟩ := h.connected key info' hget hconnected
        exact ⟨j, sess', (hrunning j sess').mpr (.inl hrun), hkey, hid', hregistered _ _ hreg⟩
  | left i sess hold hrunning hmap hregistered =>
    refine ⟨fun j k a b ha hb => ?_, fun key info hget hconnected => ?_⟩
    · exact h.distinct j k a b ((hrunning j a).mp ha).2 ((hrunning k b).mp hb).2
    · rw [hmap, ConnectMap.get_remove] at hget
      split at hget
      · cases hget
      · rename_i hne
        obtain ⟨j, sess', hrun, hkey, hid, hreg⟩ := h.connected key info hget hconnected
        have hother : j ≠ i := by
          rintro rfl
          cases hrun.1.symm.trans hold.1
          exact hne hkey.symm
        refine ⟨j, sess', (hrunning j sess').mpr ⟨hother, hrun⟩, hkey, hid, ?_⟩
        refine hregistered _ _ (fun heq => hother ?_) hreg
        exact h.distinct j i sess' sess hrun hold (hid.trans heq)
  | dropped droppedKey droppedId hrunning hown hmap hregistered =>
    refine ⟨fun i j a b ha hb => ?_, fun key info hget hconnected => ?_⟩
    · exact h.distinct i j a b ((hrunning i a).mp ha) ((hrunning j b).mp hb)
    · rw [hmap, ConnectMap.get_remove] at hget
      split at hget
      · cases hget
      · rename_i hne
        obtain ⟨i, sess, hrun, hkey, hid, hreg⟩ := h.connected key info hget hconnected
        refine ⟨i, sess, (hrunning i sess).mpr hrun, hkey, hid, ?_⟩
        refine hregistered _ _ (fun heq => hne ?_) hreg
        exact hkey.symm.trans (hown i sess hrun (hid.trans heq))

/-! What the single steps do. -/

/-- Only what is registered under the ids in `touched` may have gone. -/
structure Keeps (s s' : HostServer) (touched : UInt32 → Prop) : Prop where
  host : s'.host = s.host
  registered : ∀ transport id, ¬ touched id → s.Registered transport id → s'.Registered transport id

theorem Keeps.refl {touched : UInt32 → Prop} : Keeps s s touched := ⟨rfl, fun _ _ _ h => h⟩

theorem Keeps.trans {t : HostServer} {touched : UInt32 → Prop} (h : Keeps s t touched)
    (h' : Keeps t s' touched) : Keeps s s' touched :=
  ⟨h'.host.trans h.host, fun transport id hid hreg =>
    h'.registered transport id hid (h.registered transport id hid hreg)⟩

/-- The step takes things of session `i` out of the maps. -/
def MapAct.releases (i : Nat) : MapAct → Bool
  | .endStarting j | .writerEnds j | .cleanup j => j = i
  | _ => false

theorem update_none_ne {f : UInt32 → Option Nat} {id id' : UInt32} (hne : id' ≠ id)
    (h : f id' ≠ none) : Function.update f id none id' ≠ none := by
  rw [Function.update_of_ne hne]
  exact h

theorem update_some_ne {f : UInt32 → Option Nat} {id id' : UInt32} {i : Nat} (h : f id' ≠ none) :
    Function.update f id (some i) id' ≠ none := by
  rw [Function.update_apply]
  split
  · exact Option.some_ne_none i
  · exact h

theorem keeps_endTcp (id : UInt32) : Keeps s { s with tcp := s.tcp.endSession id } (· = id) := by
  refine ⟨rfl, fun transport id' hne hreg => ?_⟩
  cases transport with
  | tcp => exact update_none_ne hne hreg
  | usb => exact hreg

theorem keeps_endUsb (id : UInt32) (responseChannels : UInt32 → UInt32 → Option String) :
    Keeps s { s with usb := { s.usb.endSession id with responseChannels } } (· = id) := by
  refine ⟨rfl, fun transport id' hne hreg => ?_⟩
  cases transport with
  | tcp => exact hreg
  | usb => exact update_none_ne hne hreg

theorem cleanupStep_keeps {i : Nat} {sess : HostSession} (h : s.cleanupStep i sess = some s') :
    Keeps s s' (· = sess.sessionId) := by
  unfold HostServer.cleanupStep at h
  split at h <;> cases h
  · exact ⟨rfl, (keeps_endTcp (s := s) sess.sessionId).registered⟩
  · exact ⟨rfl, (keeps_endUsb (s := s) sess.sessionId _).registered⟩
  · exact ⟨rfl, fun transport id _ hreg => by cases transport <;> exact hreg⟩
  · exact ⟨rfl, fun transport id _ hreg => by cases transport <;> exact hreg⟩

theorem mapStep_keeps {i : Nat} {sess : HostSession} {act : MapAct} (hact : act.releases i)
    (hsess : s.host.sessions[i]? = some sess) (h : mapStep s act = some s') :
    Keeps s s' (· = sess.sessionId) := by
  cases act <;> simp only [MapAct.releases, Bool.false_eq_true, decide_eq_true_eq] at hact
  case endStarting j =>
    subst hact
    obtain ⟨sess', hsess', h⟩ := Option.bind_eq_some_iff.mp h
    cases hsess.symm.trans (inPhase_eq_some.mp hsess').1
    split at h <;> cases h
    exact keeps_endTcp _
  case writerEnds j =>
    subst hact
    obtain ⟨sess', hsess', h⟩ := Option.bind_eq_some_iff.mp h
    cases hsess.symm.trans hsess'
    split at h <;> cases h
    exact keeps_endUsb _ _
  case cleanup j =>
    subst hact
    obtain ⟨sess', hsess', h⟩ := Option.bind_eq_some_iff.mp h
    cases hsess.symm.trans hsess'
    exact cleanupStep_keeps h

/-- A list of such steps. -/
theorem run_keeps {i : Nat} {sess : HostSession} {acts : List MapAct}
    (hacts : ∀ act ∈ acts, act.releases i) (hsess : s.host.sessions[i]? = some sess)
    (h : run mapStep anyStep s acts = some s') : Keeps s s' (· = sess.sessionId) := by
  induction acts generalizing s with
  | nil =>
    cases h
    exact .refl
  | cons act acts ih =>
    obtain ⟨-, t, hst, hrun⟩ := run_cons_some h
    have hkeeps := mapStep_keeps (hacts act List.mem_cons_self) hsess hst
    rw [← hkeeps.host] at hsess
    exact hkeeps.trans
      (ih (fun act' hact' => hacts act' (List.mem_cons_of_mem act hact')) hsess hrun)

/-- The cipher is of no account. -/
theorem run_setCipher {i : Nat} {psk : Bool}
    (h : run mapStep anyStep s (if psk then [.setCipher i] else []) = some s') :
    Keeps s s' (fun _ => False) := by
  cases psk with
  | false =>
    cases h
    exact .refl
  | true =>
    obtain ⟨-, t, hst, hrun⟩ := run_cons_some h
    cases hrun
    obtain ⟨sess, -, hst⟩ := Option.bind_eq_some_iff.mp hst
    split at hst <;> cases hst
    exact ⟨rfl, fun transport id _ hreg => by cases transport <;> exact hreg⟩

theorem mapStep_resolve {key : String} (h : mapStep s (.resolve key) = some s') :
    Keeps s s' (fun _ => False) := by
  rw [mapStep] at h
  split at h
  · cases h
  · obtain ⟨sessionId, -, rfl⟩ := Option.map_eq_some_iff.mp h
    exact ⟨rfl, fun transport id _ hreg => by cases transport <;> exact hreg⟩

theorem mapStep_endResolved {key : String} {sessionId : UInt32}
    (h : mapStep s (.endResolved key sessionId) = some s') : Keeps s s' (· = sessionId) := by
  rw [mapStep] at h
  split at h <;> cases h
  exact keeps_endTcp _

theorem mapStep_session {act : SessionAct} (h : mapStep s (.session act) = some s') :
    ∃ host, sessionStep s.host act = some host ∧
      s' = { s with host, tcp := s.tcpAfter act, cleanup := cleanupAfter s.cleanup act } := by
  rw [mapStep] at h
  split at h
  · obtain ⟨host, hhost, rfl⟩ := Option.map_eq_some_iff.mp h
    exact ⟨host, hhost, rfl⟩
  · cases h

/-- Steps of a session other than its start register nothing. -/
theorem session_registered {act : SessionAct} (hact : ∀ addr id, act ≠ .tconn addr id)
    (h : mapStep s (.session act) = some s') (transport : Transport) (id : UInt32)
    (hreg : s.Registered transport id) : s'.Registered transport id := by
  obtain ⟨host, -, rfl⟩ := mapStep_session h
  cases act with
  | tconn addr id => exact absurd rfl (hact addr id)
  | _ => cases transport <;> exact hreg

theorem running_append (new : HostSession) (h : s'.host.sessions = s.host.sessions ++ [new])
    (j : Nat) (sess : HostSession) :
    s'.Running j sess ↔
      s.Running j sess ∨ (j = s.host.sessions.length ∧ sess = new) ∧ new.phase = .running := by
  rw [HostServer.Running, h]
  rcases Nat.lt_trichotomy j s.host.sessions.length with hj | rfl | hj
  · rw [List.getElem?_append_left hj]
    simp [HostServer.Running, Nat.ne_of_lt hj]
  · simp only [List.getElem?_concat_length, Option.some_inj, HostServer.Running,
      List.getElem?_eq_none (Nat.le_refl s.host.sessions.length)]
    grind
  · have hlen : (s.host.sessions ++ [new]).length ≤ j := by rw [List.length_append]; exact hj
    simp [HostServer.Running, List.getElem?_eq_none hlen, List.getElem?_eq_none (Nat.le_of_lt hj),
      Nat.ne_of_gt hj]

theorem running_set {i : Nat} {old : HostSession} (new : HostSession)
    (hold : s.host.sessions[i]? = some old)
    (h : s'.host.sessions = s.host.sessions.set i new) (j : Nat) (sess : HostSession) :
    s'.Running j sess ↔
      j ≠ i ∧ s.Running j sess ∨ (j = i ∧ sess = new) ∧ new.phase = .running := by
  rw [HostServer.Running, h]
  by_cases hj : i = j
  · subst hj
    rw [List.getElem?_set_self (List.getElem?_eq_some_iff.mp hold).1]
    grind
  · rw [List.getElem?_set_ne hj]
    simp [HostServer.Running, Ne.symm hj]

/-! What the operations do. -/

/-- The sessions that run stay the same, and no entry becomes `Connected`. -/
structure Unentered (s s' : HostServer) : Prop where
  running : ∀ i sess, s'.Running i sess ↔ s.Running i sess
  map : Weakens s.host.connectMap s'.host.connectMap

theorem Unentered.of_sessions (hsess : s'.host.sessions = s.host.sessions)
    (hmap : Weakens s.host.connectMap s'.host.connectMap) : Unentered s s' :=
  ⟨fun i sess => by rw [HostServer.Running, hsess]; rfl, hmap⟩

theorem Unentered.append (new : HostSession) (hnew : new.phase ≠ .running)
    (hsess : s'.host.sessions = s.host.sessions ++ [new])
    (hmap : Weakens s.host.connectMap s'.host.connectMap) : Unentered s s' :=
  ⟨fun i sess => by simp [running_append new hsess i sess, hnew], hmap⟩

theorem Unentered.set {i : Nat} {old : HostSession} (new : HostSession)
    (hold : s.host.sessions[i]? = some old) (ho : old.phase ≠ .running) (hn : new.phase ≠ .running)
    (hsess : s'.host.sessions = s.host.sessions.set i new)
    (hmap : Weakens s.host.connectMap s'.host.connectMap) : Unentered s s' := by
  refine ⟨fun j sess => ?_, hmap⟩
  rw [running_set new hold hsess j sess]
  constructor
  · rintro (⟨-, hrun⟩ | ⟨-, hrun⟩)
    · exact hrun
    · exact absurd hrun hn
  · intro hrun
    refine .inl ⟨?_, hrun⟩
    rintro rfl
    cases hold.symm.trans hrun.1
    exact ho hrun.2

theorem mapStep_tconn {addr : String} {sessionId : UInt32}
    (h : mapStep s (.session (.tconn addr sessionId)) = some s') :
    s'.host.sessions = s.host.sessions ++ [⟨.tcp, addr, sessionId, .starting⟩] ∧
    s'.host.connectMap = s.host.connectMap ∧ s'.Registered .tcp sessionId ∧
    ∀ transport id, s.Registered transport id → s'.Registered transport id := by
  obtain ⟨host, hhost, rfl⟩ := mapStep_session h
  cases hhost
  refine ⟨rfl, rfl, ?_, fun transport id hreg => ?_⟩
  · simp [HostServer.Registered, HostServer.tcpAfter, TcpMap.startSession]
  · cases transport with
    | tcp => exact update_some_ne hreg
    | usb => exact hreg

theorem mapStep_authenticated {i : Nat} {sessionId : UInt32} {devName : String}
    (h : mapStep s (.session (.authenticated i sessionId devName)) = some s') :
    IdMove s.host s'.host (.authenticated i sessionId devName) := by
  obtain ⟨host, hhost, rfl⟩ := mapStep_session h
  exact sessionStep_idMove hhost

theorem discover_move {addr : String} (h : serverStep s (.discover addr) = some s') :
    OpMove s s' := by
  obtain ⟨-, t, hst, hrun⟩ := run_cons_some h
  have hkeep := session_registered (by simp) hst
  obtain ⟨host, hhost, rfl⟩ := mapStep_session hst
  rw [sessionStep] at hhost
  split at hhost
  · rename_i hc
    cases hhost
    rw [if_pos hc] at hrun
    cases hrun
    exact .kept (fun _ _ => .rfl) (.refl _) fun transport id _ => hkeep transport id
  · rename_i hc
    cases hhost
    rw [if_neg hc] at hrun
    obtain ⟨-, u, hput, hend⟩ := run_cons_some hrun
    cases hend
    have hkeep' := session_registered (by simp) hput
    obtain ⟨host, hhost, rfl⟩ := mapStep_session hput
    rw [sessionStep] at hhost
    split at hhost <;> cases hhost
    exact .kept (fun _ _ => .rfl) (.put _ _ (by simp) rfl)
      fun transport id _ hreg => hkeep' transport id (hkeep transport id hreg)

/-- A step of a session that does not run and will not. -/
theorem session_move {act : SessionAct} (hact : ∀ addr id, act ≠ .tconn addr id)
    (hunentered : ∀ t, mapStep s (.session act) = some t → Unentered s t)
    (h : run mapStep anyStep s [.session act] = some s') : OpMove s s' := by
  obtain ⟨-, t, hst, hrun⟩ := run_cons_some h
  cases hrun
  obtain ⟨hrunning, hmap⟩ := hunentered s' hst
  exact .kept hrunning hmap fun transport id _ => session_registered hact hst transport id

theorem adopt_move {serial address : String} {sessionId : UInt32}
    (h : serverStep s (.adopt serial address sessionId) = some s') : OpMove s s' := by
  refine session_move (by simp) (fun t hst => ?_) h
  obtain ⟨host, hhost, rfl⟩ := mapStep_session hst
  rw [sessionStep] at hhost
  split at hhost <;> cases hhost
  exact .append _ (by simp) rfl (.put _ _ (by simp) rfl)

theorem failed_unentered {i : Nat} (h : mapStep s (.session (.failed i)) = some s') :
    Unentered s s' := by
  obtain ⟨host, hhost, rfl⟩ := mapStep_session h
  obtain ⟨sess, hsess, rfl⟩ := Option.map_eq_some_iff.mp hhost
  obtain ⟨hold, hphase⟩ := inPhase_eq_some.mp hsess
  refine .set _ hold (by simp [hphase]) (by simp) rfl ?_
  dsimp only
  split
  · exact .refl _
  · exact .offline _ _

theorem forget_move {i : Nat} (h : serverStep s (.forget i) = some s') : OpMove s s' := by
  refine session_move (by simp) (fun t hst => ?_) h
  obtain ⟨host, hhost, rfl⟩ := mapStep_session hst
  obtain ⟨sess, hsess, hhost⟩ := Option.bind_eq_some_iff.mp hhost
  obtain ⟨hold, hphase⟩ := inPhase_eq_some.mp hsess
  split at hhost <;> cases hhost
  exact .set _ hold (by simp [hphase]) (by simp) rfl (.refl _)

theorem connectTcp_move {addr : String} {sessionId : UInt32} {psk : Bool} {devName : String}
    (hunused : s.Unused sessionId)
    (h : serverStep s (.connectTcp addr sessionId psk devName) = some s') : OpMove s s' := by
  obtain ⟨-, t, htconn, h⟩ := run_cons_some h
  obtain ⟨u, hcipher, h⟩ := run_append_some h
  obtain ⟨-, v, hauth, h⟩ := run_cons_some h
  cases h
  obtain ⟨hsessions, hentries, hnew, hkeep⟩ := mapStep_tconn htconn
  have hcipher := run_setCipher hcipher
  have hregistered : ∀ transport id, t.Registered transport id → s'.Registered transport id :=
    fun transport id hreg => session_registered (by simp) hauth transport id
      (hcipher.registered transport id not_false hreg)
  cases mapStep_authenticated hauth with
  | kept hact | moved hact => cases hact
  | entered hold hsess hmap =>
    obtain ⟨hlast, -⟩ := inPhase_eq_some.mp hold
    rw [hcipher.host, hsessions, List.getElem?_concat_length] at hlast
    cases hlast
    rw [hcipher.host] at hsess hmap
    refine .entered s.host.sessions.length ⟨.tcp, addr, sessionId, .running⟩ _ (fun j sess => ?_)
      hunused (hentries ▸ hmap) rfl (hregistered .tcp sessionId hnew) fun transport id hreg =>
        hregistered transport id (hkeep transport id hreg)
    have happend : s'.host.sessions = s.host.sessions ++ [⟨.tcp, addr, sessionId, .running⟩] := by
      rw [hsess, hsessions]
      simp [HostSession.idAfter]
    rw [running_append (s := s) _ happend j sess]
    simp

theorem failTcp_move {addr : String} {sessionId : UInt32} {psk endsSession : Bool}
    (hunused : s.Unused sessionId)
    (h : serverStep s (.failTcp addr sessionId psk endsSession) = some s') : OpMove s s' := by
  obtain ⟨-, t, htconn, h⟩ := run_cons_some h
  obtain ⟨u, hcipher, h⟩ := run_append_some h
  obtain ⟨v, hends, h⟩ := run_append_some h
  obtain ⟨-, w, hfailed, h⟩ := run_cons_some h
  cases h
  obtain ⟨hsessions, hentries, -, hkeep⟩ := mapStep_tconn htconn
  have hcipher := run_setCipher hcipher
  have hstarting : u.host.sessions[s.host.sessions.length]? =
      some ⟨.tcp, addr, sessionId, .starting⟩ := by
    rw [hcipher.host, hsessions, List.getElem?_concat_length]
  have hends : Keeps u v (· = sessionId) :=
    run_keeps (fun act hact => by cases endsSession <;> simp_all [MapAct.releases]) hstarting hends
  have hhost : v.host = t.host := hends.host.trans hcipher.host
  rw [← hhost] at hsessions hentries
  have hstart : Unentered s v := .append _ (by simp) hsessions (hentries ▸ .refl _)
  have hend := failed_unentered hfailed
  refine .kept (fun i sess => (hend.running i sess).trans (hstart.running i sess)) ?_ ?_
  · rw [← hentries]
    exact hend.map
  · intro transport id hused hreg
    refine session_registered (by simp) hfailed transport id ?_
    refine hends.registered transport id (fun heq => hused (heq ▸ hunused)) ?_
    exact hcipher.registered transport id not_false (hkeep transport id hreg)

theorem mapStep_disconnect {i : Nat} (h : mapStep s (.session (.disconnect i)) = some s') :
    ∃ sess, s.Running i sess ∧
      s'.host.sessions = s.host.sessions.set i { sess with phase := .ending } ∧
      s'.host.connectMap = s.host.connectMap := by
  obtain ⟨host, hhost, rfl⟩ := mapStep_session h
  obtain ⟨sess, hsess, rfl⟩ := Option.map_eq_some_iff.mp hhost
  exact ⟨sess, inPhase_eq_some.mp hsess, rfl, rfl⟩

theorem mapStep_remove {i : Nat} (h : mapStep s (.session (.remove i)) = some s') :
    ∃ sess, s.host.sessions[i]? = some sess ∧
      s'.host.sessions = s.host.sessions.set i { sess with phase := .ended } ∧
      s'.host.connectMap = s.host.connectMap.remove sess.key := by
  obtain ⟨host, hhost, rfl⟩ := mapStep_session h
  obtain ⟨sess, hsess, rfl⟩ := Option.map_eq_some_iff.mp hhost
  exact ⟨sess, (inPhase_eq_some.mp hsess).1, rfl, rfl⟩

theorem mapStep_reconnect {key : String} (h : mapStep s (.session (.reconnect key)) = some s') :
    s'.host.sessions = s.host.sessions ∧ s'.host.connectMap = s.host.connectMap := by
  obtain ⟨host, hhost, rfl⟩ := mapStep_session h
  rw [sessionStep] at hhost
  split at hhost <;> cases hhost <;> exact ⟨rfl, rfl⟩

theorem mapStep_reconnectRemove {key : String}
    (h : mapStep s (.session (.reconnectRemove key)) = some s') :
    s'.host.sessions = s.host.sessions ∧
      s'.host.connectMap = s.host.connectMap.remove key := by
  obtain ⟨host, hhost, rfl⟩ := mapStep_session h
  rw [sessionStep] at hhost
  split at hhost <;> cases hhost
  exact ⟨rfl, rfl⟩

/-- The sender is registered under the id of the session. -/
theorem mapStep_openSender {i : Nat} (h : mapStep s (.openSender i) = some s') :
    s'.host = s.host ∧ ∃ sess, s.Running i sess ∧ sess.transport = .usb ∧
      s'.Registered .usb sess.sessionId ∧
      ∀ transport id, s.Registered transport id → s'.Registered transport id := by
  obtain ⟨sess, hsess, h⟩ := Option.bind_eq_some_iff.mp h
  split at h
  · cases h
  · rename_i htransport
    cases h
    refine ⟨rfl, sess, inPhase_eq_some.mp hsess, htransport, ?_, fun transport id hreg => ?_⟩
    · simp [HostServer.Registered, UsbMap.startSession]
    · cases transport with
      | tcp => exact hreg
      | usb => exact update_some_ne hreg

theorem authenticateUsb_move {i : Nat} {sessionId : UInt32} {devName : String}
    (hunused : s.Unused sessionId)
    (h : serverStep s (.authenticateUsb i sessionId devName) = some s') : OpMove s s' := by
  obtain ⟨-, t, hauth, h⟩ := run_cons_some h
  obtain ⟨-, u, hopen, h⟩ := run_cons_some h
  cases h
  obtain ⟨hhost, new, ⟨hnew, -⟩, husb, hsender, hkeep⟩ := mapStep_openSender hopen
  cases mapStep_authenticated hauth with
  | kept hact | moved hact => cases hact
  | entered hold hsess hmap =>
    rename_i sess
    obtain ⟨hold, hphase⟩ := inPhase_eq_some.mp hold
    rw [hsess, List.getElem?_set_self (List.getElem?_eq_some_iff.mp hold).1] at hnew
    cases hnew
    have hid : sess.idAfter sessionId = sessionId := by
      rw [HostSession.idAfter, show sess.transport = .usb from husb]
    rw [hid] at hsender hsess hmap
    refine .entered i { sess with sessionId, phase := .running } _ (fun j sess' => ?_) hunused
      (by rw [hhost]; exact hmap) rfl (husb ▸ hsender) fun transport id hreg =>
        hkeep transport id (session_registered (by simp) hauth transport id hreg)
    rw [running_set (s := s) _ hold (by rw [hhost]; exact hsess) j sess']
    -- the session was starting, and no other has its place
    have hother : s.Running j sess' → j ≠ i := by
      rintro hrun rfl
      cases hold.symm.trans hrun.1
      exact absurd (hphase.symm.trans hrun.2) (by simp)
    grind

theorem cleanupActs_releases (transport : Transport) (i : Nat) :
    ∀ act ∈ cleanupActs transport i, act.releases i := by
  cases transport <;> simp [cleanupActs, MapAct.releases]

theorem disconnect_move {i : Nat} (h : serverStep s (.disconnect i) = some s') : OpMove s s' := by
  obtain ⟨-, t, hdisconnect, h⟩ := run_cons_some h
  obtain ⟨-, u, hremove, h⟩ := run_cons_some h
  obtain ⟨sess, hrun, hsess, hmap⟩ := mapStep_disconnect hdisconnect
  obtain ⟨ending, hending, hsess', hmap'⟩ := mapStep_remove hremove
  have hlt := (List.getElem?_eq_some_iff.mp hrun.1).1
  rw [hsess, List.getElem?_set_self hlt] at hending
  cases hending
  rw [hsess, List.set_set] at hsess'
  have hself : u.host.sessions[i]? = some { sess with phase := .ended } := by
    rw [hsess', List.getElem?_set_self hlt]
  rw [hrun.1] at h
  have hended := run_keeps (cleanupActs_releases sess.transport i) hself h
  refine .left i sess hrun (fun j sess' => ?_) ?_ fun transport id hne hreg => ?_
  · rw [running_set (s := s) _ hrun.1 (by rw [hended.host]; exact hsess') j sess']
    simp
  · rw [hended.host, hmap', hmap]
  · refine hended.registered transport id hne ?_
    refine session_registered (by simp) hremove transport id ?_
    exact session_registered (by simp) hdisconnect transport id hreg

theorem reconnect_move {key : String} (hown : s.OwnSession key)
    (h : serverStep s (.reconnect key) = some s') : OpMove s s' := by
  change run mapStep anyStep s (reconnectActs key (s.host.connectMap.getSessionId key)) = _ at h
  cases hid : s.host.connectMap.getSessionId key with
  | none =>
    rw [hid] at h
    cases h
    exact .kept (fun _ _ => .rfl) (.refl _) fun _ _ _ hreg => hreg
  | some sessionId =>
    rw [hid] at h
    obtain ⟨-, t, hresolve, h⟩ := run_cons_some h
    obtain ⟨-, u, hreconnect, h⟩ := run_cons_some h
    obtain ⟨-, v, hend, h⟩ := run_cons_some h
    obtain ⟨-, w, hremove, h⟩ := run_cons_some h
    cases h
    have hresolved := mapStep_resolve hresolve
    have hlookup := session_registered (by simp) hreconnect
    have hended := mapStep_endResolved hend
    have hremoved := session_registered (by simp) hremove
    obtain ⟨hsess, hmap⟩ := mapStep_reconnect hreconnect
    obtain ⟨hsess', hmap'⟩ := mapStep_reconnectRemove hremove
    rw [hended.host, hsess, hresolved.host] at hsess'
    rw [hended.host, hmap, hresolved.host] at hmap'
    refine .dropped key sessionId (fun i sess => ?_) (fun i sess hrun heq => ?_) hmap'
      fun transport id hne hreg => ?_
    · rw [HostServer.Running, hsess']
      rfl
    · exact hown sess (List.mem_of_getElem? hrun.1) hrun.2 (heq ▸ hid)
    · refine hremoved transport id (hended.registered transport id hne ?_)
      exact hlookup transport id (hresolved.registered transport id not_false hreg)

theorem serverStep_move {op : ServerOp} (hfresh : FreshIds s op) (h : serverStep s op = some s') :
    OpMove s s' := by
  cases op with
  | discover addr => exact discover_move h
  | adopt serial address sessionId => exact adopt_move h
  | connectTcp addr sessionId psk devName => exact connectTcp_move hfresh h
  | failTcp addr sessionId psk endsSession => exact failTcp_move hfresh h
  | authenticateUsb i sessionId devName => exact authenticateUsb_move hfresh h
  | failUsb i => exact session_move (by simp) (fun t => failed_unentered) h
  | writeFails i => exact hfresh.elim
  | disconnect i => exact disconnect_move h
  | forget i => exact forget_move h
  | reconnect key => exact reconnect_move hfresh h

end

/-- Between operations, as long as sessions get ids of their own. -/
theorem tracksSessions_of_reaches {s : HostServer} (hrun : Reaches serverStep FreshIds .init s) :
    TracksSessions s := by
  have hstep : ∀ {t op t'}, TracksSessions t → FreshIds t op → serverStep t op = some t' →
      TracksSessions t' :=
    fun h hfresh hst => (serverStep_move hfresh hst).tracksSessions h
  exact hrun.invariant hstep .init

/-! The lookup. -/

namespace ConnectMap

theorem get_of_mem {m : ConnectMap} {e : String × DaemonInfo} (h : e ∈ m.entries) :
    m.get e.1 = some e.2 := by
  obtain ⟨before, after, hsplit⟩ := List.append_of_mem h
  refine List.lookup_eq_some_iff.mpr ⟨before, after, hsplit, fun p hp => ?_⟩
  have hnodup := m.nodup
  rw [hsplit, List.map_append, List.map_cons] at hnodup
  have hne := (List.nodup_append.mp hnodup).2.2 p.1 (List.mem_map_of_mem hp) e.1 (by simp)
  simpa using Ne.symm hne

/-- The entry whose id `get_session_id` returns. -/
def chosen (m : ConnectMap) (connectKey : String) : Option DaemonInfo :=
  if connectKey = "any" then
    match m.entries.find? isConnected with
    | some e => some e.2
    | none => if m.entries.length = 1 then m.entries.head?.map Prod.snd else none
  else m.get connectKey

theorem getSessionId_eq_chosen (m : ConnectMap) (key : String) :
    m.getSessionId key = (m.chosen key).map DaemonInfo.sessionId := by
  unfold getSessionId chosen
  split
  · cases m.entries.find? isConnected with
    | some e => rfl
    | none =>
      dsimp only
      split
      · rw [Option.map_map]
        rfl
      · rfl
  · rfl

theorem chosen_get {m : ConnectMap} {key : String} {info : DaemonInfo}
    (h : m.chosen key = some info) : ∃ key', m.get key' = some info := by
  unfold chosen at h
  split at h
  · split at h
    · rename_i e he
      cases h
      exact ⟨e.1, get_of_mem (List.mem_of_find?_eq_some he)⟩
    · split at h
      · obtain ⟨e, he, rfl⟩ := Option.map_eq_some_iff.mp h
        exact ⟨e.1, get_of_mem (List.mem_of_head? he)⟩
      · cases h
  · exact ⟨key, h⟩

end ConnectMap

/-- The device a command for `connectKey` goes to. -/
def resolvedDevice (connectMap : ConnectMap) (connectKey : String) : Option DaemonInfo :=
  (resolveConnectKey connectMap connectKey).toOption.bind connectMap.chosen

/-- The id is that of the device, whatever the status of the device is. -/
theorem resolveSessionId_ok_iff {m : ConnectMap} {key : String} {id : UInt32} :
    resolveSessionId m key = .ok id ↔
      ∃ info, resolvedDevice m key = some info ∧ info.sessionId = id := by
  unfold resolveSessionId resolvedDevice
  cases resolveConnectKey m key with
  | error e => simp [bind, Except.bind, Except.toOption]
  | ok actualKey =>
    simp only [bind, Except.bind, Except.toOption, Option.bind_some,
      ConnectMap.getSessionId_eq_chosen]
    cases m.chosen actualKey with
    | none => simp
    | some info => simp [pure, Except.pure]

/-- Messages to the id have a writer or a sender. -/
def HostServer.HasSession (s : HostServer) (id : UInt32) : Prop :=
  s.tcp.sessionWriters id ≠ none ∨ s.usb.sessionSenders id ≠ none

instance (s : HostServer) (id : UInt32) : Decidable (s.HasSession id) :=
  inferInstanceAs (Decidable (_ ∨ _))

theorem hasSession_of_registered {s : HostServer} {transport : Transport} {id : UInt32}
    (h : s.Registered transport id) : s.HasSession id := by
  cases transport with
  | tcp => exact .inl h
  | usb => exact .inr h

/-- A command for `connectKey` gets an id that has a session, and an error if its device has
none. -/
structure ResolvesLive (s : HostServer) (connectKey : String) : Prop where
  live : ∀ id, resolveSessionId s.host.connectMap connectKey = .ok id → s.HasSession id
  refused : ∀ info, resolvedDevice s.host.connectMap connectKey = some info →
    info.connStatus ≠ .connected →
    ∃ actualKey, resolveConnectKey s.host.connectMap connectKey = .ok actualKey ∧
      resolveSessionId s.host.connectMap connectKey =
        .error ⟨.notFound, s!"Device {actualKey} is not connected"⟩

/-- A command is given a session exactly if its device is `Connected`: nothing else in the lookup
sees to it. -/
theorem resolved_live_iff (s : HostServer) (connectKey : String)
    (hrun : Reaches serverStep FreshIds .init s) :
    ResolvesLive s connectKey ↔
      ∀ info, resolvedDevice s.host.connectMap connectKey = some info →
        info.connStatus = .connected := by
  constructor
  · intro h info hinfo
    by_contra hstatus
    obtain ⟨actualKey, -, herror⟩ := h.refused info hinfo hstatus
    have hok := resolveSessionId_ok_iff.mpr ⟨info, hinfo, rfl⟩
    cases herror.symm.trans hok
  · intro hconnected
    refine ⟨fun id hid => ?_, fun info hinfo hstatus => absurd (hconnected info hinfo) hstatus⟩
    obtain ⟨info, hinfo, rfl⟩ := resolveSessionId_ok_iff.mp hid
    obtain ⟨actualKey, -, hchosen⟩ := Option.bind_eq_some_iff.mp hinfo
    obtain ⟨key, hget⟩ := ConnectMap.chosen_get hchosen
    obtain ⟨i, sess, -, -, -, hreg⟩ :=
      (tracksSessions_of_reaches hrun).connected key info hget (hconnected info hinfo)
    exact hasSession_of_registered hreg

/-- A phone on USB, a daemon on TCP that has gone again, and one that has only been discovered. -/
def phoneAndDiscovered : Option HostServer :=
  run serverStep FreshIds .init [.adopt "SN1" "1-2" 7, .connectTcp "10.0.0.3:5555" 8 true "board",
    .authenticateUsb 0 9 "phone", .disconnect 1, .discover "10.0.0.2:5555"]

theorem phoneAndDiscovered_isSome : phoneAndDiscovered.isSome := by decide

theorem resolved_live_phone :
    ResolvesLive (phoneAndDiscovered.get phoneAndDiscovered_isSome) "SN1" ∧
    (resolveSessionId (phoneAndDiscovered.get phoneAndDiscovered_isSome).host.connectMap
      "SN1").toOption = some 9 := by
  refine ⟨(resolved_live_iff _ "SN1"
    (.of_run (Option.some_get phoneAndDiscovered_isSome).symm)).mpr ?_, by decide⟩
  decide

theorem not_resolvesLive {s : HostServer} {connectKey : String} {id : UInt32}
    (hid : (resolveSessionId s.host.connectMap connectKey).toOption = some id)
    (hnone : ¬ s.HasSession id) : ¬ ResolvesLive s connectKey := by
  intro h
  refine hnone (h.live id ?_)
  cases hres : resolveSessionId s.host.connectMap connectKey with
  | error e =>
    rw [hres] at hid
    cases hid
  | ok id' =>
    rw [hres] at hid
    cases hid
    rfl

/-- A daemon that has been discovered, and a phone that could not be authenticated. -/
def discoveredAndOffline : Option HostServer :=
  run serverStep FreshIds .init [.discover "10.0.0.2:5555", .adopt "SN2" "1-3" 7, .failUsb 0]

theorem discoveredAndOffline_isSome : discoveredAndOffline.isSome := by decide

/-- A command for either of them is given session zero, which is none. -/
theorem resolved_zero_session :
    ∃ s, Reaches serverStep FreshIds .init s ∧ ¬ s.HasSession 0 ∧
      (s.host.connectMap.get "10.0.0.2:5555").map DaemonInfo.connStatus = some .ready ∧
      (resolveSessionId s.host.connectMap "10.0.0.2:5555").toOption = some 0 ∧
      ¬ ResolvesLive s "10.0.0.2:5555" ∧
      (s.host.connectMap.get "SN2").map DaemonInfo.connStatus = some .offline ∧
      (resolveSessionId s.host.connectMap "SN2").toOption = some 0 ∧ ¬ ResolvesLive s "SN2" := by
  have hrun : Reaches serverStep FreshIds .init
      (discoveredAndOffline.get discoveredAndOffline_isSome) :=
    .of_run (Option.some_get discoveredAndOffline_isSome).symm
  have hnone : ¬ (discoveredAndOffline.get discoveredAndOffline_isSome).HasSession 0 := by
    decide
  exact ⟨_, hrun, hnone, by decide, by decide,
    not_resolvesLive (by decide) hnone, by decide, by decide,
    not_resolvesLive (by decide) hnone⟩

end Hdc
