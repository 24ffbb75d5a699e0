import Hdc.AuthGate
import Hdc.ServerMaps

/- Whether session ids tell the devices of a host apart (`hdc/src/server.rs`). Data for a device
   goes where `send_to_session` finds the id of its entry, and what a device sends goes to the
   handler that is registered under the id of its session. A USB session takes its id from the
   device, and nothing compares it with those of the others.

   `distinct_sessions` says that ids do tell devices apart as long as no session is given one
   that a session of another device has had, and which step it is after which two connected
   devices share an id. -/
namespace Hdc
open Rust Lts

/-- No two connected devices have the same session id. -/
def DistinctSessions (m : ConnectMap) : Prop :=
  ∀ key key' info info', m.get key = some info → m.get key' = some info' →
    info.connStatus = .connected → info'.connStatus = .connected →
    info.sessionId = info'.sessionId → key = key'

/-- The session whose connection `send_to_session` hands the data to. -/
def HostServer.sendToSession (s : HostServer) (sessionId : UInt32) : Option Nat :=
  match s.tcp.sessionWriters sessionId with
  | some i => some i
  | none => s.usb.sessionSenders sessionId

/-- The device whose command gets what session `sess` receives on a channel. -/
def HostServer.routeResponse (s : HostServer) (sess : HostSession) (channelId : UInt32) :
    Option String :=
  s.usb.responseChannels sess.sessionId channelId

/-- No connected device has the id under which another is entered. -/
def KeepsDistinct (s : HostServer) : MapAct → Prop
  | .session (.authenticated i sessionId _) =>
    ∀ sess ∈ s.host.inPhase i .starting, ∀ key info, s.host.connectMap.get key = some info →
      info.connStatus = .connected → info.sessionId = sess.idAfter sessionId → key = sess.key
  | _ => True

theorem DistinctSessions.weaken {m m' : ConnectMap} (h : DistinctSessions m) (hmap : Weakens m m') :
    DistinctSessions m' := by
  intro key key' info info' hinfo hinfo' hconn hconn' hid
  rcases hmap key info hinfo with hold | ⟨hnot, -⟩
  · rcases hmap key' info' hinfo' with hold' | ⟨hnot, -⟩
    · exact h key key' info info' hold hold' hconn hconn' hid
    · exact absurd hconn' hnot
  · exact absurd hconn hnot

/-- Entering a connected device keeps ids distinct exactly if no other has its id. -/
theorem distinctSessions_put_iff {m : ConnectMap} (h : DistinctSessions m) {key : String}
    {info : DaemonInfo} (hconn : info.connStatus = .connected) :
    DistinctSessions (m.put key info) ↔ ∀ key' info', m.get key' = some info' →
      info'.connStatus = .connected → info'.sessionId = info.sessionId → key' = key := by
  constructor
  · intro hput key' info' hget hconn' hid
    by_contra hne
    exact hne (hput key' key info' info (by rw [ConnectMap.get_put, if_neg hne, hget])
      (by rw [ConnectMap.get_put, if_pos rfl]) hconn' hconn hid)
  · intro hother key₁ key₂ info₁ info₂ hget₁ hget₂ hconn₁ hconn₂ hid
    rw [ConnectMap.get_put] at hget₁ hget₂
    split at hget₁
    · rename_i heq₁
      cases hget₁
      split at hget₂
      · rename_i heq₂
        rw [heq₁, heq₂]
      · rw [heq₁]
        exact (hother key₂ info₂ hget₂ hconn₂ hid.symm).symm
    · split at hget₂
      · rename_i heq₂
        cases hget₂
        rw [heq₂]
        exact hother key₁ info₁ hget₁ hconn₁ hid
      · exact h key₁ key₂ info₁ info₂ hget₁ hget₂ hconn₁ hconn₂ hid

theorem keepsDistinct_session {s : HostServer} {act : SessionAct} (h : act.enters = false) :
    KeepsDistinct s (.session act) := by
  cases act with
  | authenticated i sessionId devName => cases h
  | _ => trivial

/-- One step keeps the ids of connected devices distinct exactly if it does not enter a device
under the id of another. -/
theorem distinctSessions_step_iff {s s' : HostServer} {act : MapAct}
    (h : DistinctSessions s.host.connectMap) (hst : mapStep s act = some s') :
    DistinctSessions s'.host.connectMap ↔ KeepsDistinct s act := by
  rcases mapStep_host hst with ⟨hact, hhost⟩ | ⟨act', rfl, hmove⟩
  · rw [hhost]
    refine iff_of_true h ?_
    cases act with
    | session act => exact absurd rfl (hact act)
    | _ => trivial
  · cases hmove with
    | kept hact hsess hmap => exact iff_of_true (h.weaken hmap) (keepsDistinct_session hact)
    | moved hact hold hphase hsess hmap =>
      exact iff_of_true (h.weaken hmap) (keepsDistinct_session hact)
    | tconn hsess hmap => exact iff_of_true (h.weaken hmap) trivial
    | adopt hsess hmap => exact iff_of_true (h.weaken hmap) trivial
    | entered hold hsess hmap =>
      rw [hmap, distinctSessions_put_iff h rfl]
      simp only [KeepsDistinct, hold, Option.mem_def, Option.some.injEq, forall_eq']

/-! Where ids are owned. -/

section
variable {s : HostServer}

/-- A session that has the id of a device is one of this device. -/
theorem Owned.key_eq (h : Owned s) {key : String} {id : UInt32} (hknows : s.host.Knows key id)
    {sess : HostSession} (hsess : sess ∈ s.host.sessions) (hid : sess.sessionId = id) :
    sess.key = key := by
  rcases hknows with rfl | ⟨i, other, hsettled, hkey, hother⟩
  · exact absurd hid (h.ids.nonzero sess hsess)
  · have hmem := List.mem_of_getElem? hsettled.1
    rw [(h.ids.unique sess hsess other hmem (hid.trans hother.symm)).1, hkey]

theorem Owned.distinct (h : Owned s) : DistinctSessions s.host.connectMap := by
  intro key key' info info' hinfo hinfo' hconn hconn' hid
  rcases h.ids.entry key info hinfo with hzero | ⟨i, sess, hsettled, rfl, hsess⟩
  · exact absurd hzero (h.ids.connected key info hinfo hconn)
  · exact h.key_eq (h.ids.entry key' info' hinfo') (List.mem_of_getElem? hsettled.1)
      (hsess.trans hid)

theorem Owned.queued (h : Owned s) {key : String} {id : UInt32} (hresolved : (key, id) ∈ s.resolved)
    {i : Nat} (hi : s.sendToSession id = some i) :
    ∃ sess, s.host.sessions[i]? = some sess ∧ sess.key = key := by
  have hholds : ∃ transport, s.host.Holds transport id i := by
    rw [HostServer.sendToSession] at hi
    split at hi
    · rename_i j hj
      cases hi
      exact ⟨.tcp, h.writer id i hj⟩
    · exact ⟨.usb, h.sender id i hi⟩
  obtain ⟨transport, sess, hsettled, -, hid⟩ := hholds
  exact ⟨sess, hsettled.1,
    h.key_eq (h.resolved _ hresolved) (List.mem_of_getElem? hsettled.1) hid⟩

theorem Owned.routed (h : Owned s) {i : Nat} {sess : HostSession}
    (hsess : s.host.sessions[i]? = some sess) {c : UInt32} {key : String}
    (hroute : s.routeResponse sess c = some key) : key = sess.key :=
  (h.key_eq (h.response _ _ _ hroute) (List.mem_of_getElem? hsess) rfl).symm

end

/-- As long as no session is given the id of a session of another device, connected devices have
distinct ids, data is queued to the device it was sent for, and replies are routed to commands of
the device they come from. From there on, connected devices have distinct ids until one is entered
under the id of another. -/
theorem distinct_sessions {s : HostServer} (h : Reaches mapStep OwnIds .init s) :
    DistinctSessions s.host.connectMap ∧
    (∀ key id i, (key, id) ∈ s.resolved → s.sendToSession id = some i →
      ∃ sess, s.host.sessions[i]? = some sess ∧ sess.key = key) ∧
    (∀ (i : Nat) sess c key, s.host.sessions[i]? = some sess → s.routeResponse sess c = some key →
      key = sess.key) ∧
    ∀ act s', mapStep s act = some s' →
      (DistinctSessions s'.host.connectMap ↔ KeepsDistinct s act) := by
  have howned := owned_of_reaches h
  refine ⟨howned.distinct, ?_, ?_, ?_⟩
  · intro key id i hresolved hsend
    exact howned.queued hresolved hsend
  · intro i sess c key hsess hroute
    exact howned.routed hsess hroute
  · intro act s' hst
    exact distinctSessions_step_iff howned.distinct hst

/-- Two USB devices and a TCP daemon, each with an id of its own. -/
def threeDevices : Option HostServer :=
  run mapStep OwnIds .init [.session (.adopt "usb1" "1" 1), .session (.adopt "usb2" "2" 2),
    .session (.authenticated 0 7 "phone"), .openSender 0, .session (.authenticated 1 8 "watch"),
    .openSender 1, .session (.tconn "10.0.0.2:5555" 3), .session (.authenticated 2 0 "tablet"),
    .resolve "usb1", .register "usb1" 7 5]

theorem threeDevices_isSome : threeDevices.isSome = true := by decide

theorem distinct_sessions_three :
    let s := threeDevices.get threeDevices_isSome
    ("usb1", 7) ∈ s.resolved ∧ s.sendToSession 7 = some 0 ∧
      ∃ sess, s.host.sessions[0]? = some sess ∧ sess.key = "usb1" := by
  have hqueued := (distinct_sessions
    (.of_run (Option.some_get (x := threeDevices) threeDevices_isSome).symm)).2.1
  have hresolved : ("usb1", 7) ∈ (threeDevices.get threeDevices_isSome).resolved := by decide
  have hsend : (threeDevices.get threeDevices_isSome).sendToSession 7 = some 0 := by decide
  exact ⟨hresolved, hsend, hqueued "usb1" 7 0 hresolved hsend⟩

/-- A device that lets the host in at once, under the session id 7. -/
def sevens : List (AuthTurn (UInt32 × TaskMessage)) :=
  [⟨.message (7, deviceHandshake authTypeOk ""), .ok ()⟩]

/-- Two such devices. -/
def twoSevens : Option HostServer :=
  run mapStep anyStep .init [.session (.adopt "usb1" "1" 1), .session (.adopt "usb2" "2" 2),
    .session (.authenticated 0 7 ""), .openSender 0, .session (.authenticated 1 7 ""), .openSender 1,
    .resolve "usb1", .register "usb1" 7 5]

theorem twoSevens_isSome : twoSevens.isSome = true := by decide

/-- Both are connected with session id 7, data for the first is queued to the second, and a reply
of the second goes to the handler of the first. -/
theorem shared_session_id :
    (startUsbSession plainHost "usb1" 1 (.ok ()) (.ok ()) (.ok ()) sevens).1 =
      [.put "usb1" ⟨7, .usb "usb1", .connected, ""⟩] ∧
    (startUsbSession plainHost "usb2" 2 (.ok ()) (.ok ()) (.ok ()) sevens).1 =
      [.put "usb2" ⟨7, .usb "usb2", .connected, ""⟩] ∧
    ∃ s, Reaches mapStep anyStep .init s ∧
      s.host.connectMap.get "usb1" = some ⟨7, .usb "usb1", .connected, ""⟩ ∧
      s.host.connectMap.get "usb2" = some ⟨7, .usb "usb2", .connected, ""⟩ ∧
      ("usb1", 7) ∈ s.resolved ∧ s.sendToSession 7 = some 1 ∧
      s.host.sessions[1]? = some ⟨.usb, "usb2", 7, .running⟩ ∧
      s.routeResponse ⟨.usb, "usb2", 7, .running⟩ 5 = some "usb1" := by
  refine ⟨by decide, by decide, twoSevens.get twoSevens_isSome,
    .of_run (Option.some_get (x := twoSevens) twoSevens_isSome).symm, ?_⟩
  decide

end Hdc
