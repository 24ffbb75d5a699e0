import Hdc.ForwardLink
import Hdc.ForwardMessages
import Hdc.Lts
import Mathlib.Logic.Function.Basic

/- A port forward: the dispatcher of `handle_server_forward` and the bridges of its
   connections on the host, the main loop and the tasks of the daemon, and one
   session between them that delivers every message, in order.

   A connection is known by its forward id on both sides; the ids are distinct, so
   a bridge is started under an id once. Every message is on the forward's channel,
   which has no rport listener.

   `Fport.link` looks at the connection of one id, and every step of the forward is
   a step of that connection or no step at all (`fportStep_link`). So what
   `Hdc.ForwardLink` proves of one connection holds of each of them, in any
   interleaving. `fport_loses_banner` is the run that the side condition leaves out: a
   server that speaks first is cut short. -/
namespace Hdc
open Rust Wire Lts

/-- The dispatcher's match: the connection a message is for, and what becomes of it. -/
def dispatchForward (task : TaskMessage) : Option (UInt32 × HostItem) :=
  match task.command with
  | .forwardData =>
    if 4 ≤ task.payload.length then
      some (readId task.payload, .deliver (task.payload.drop 4))
    else none
  | .forwardActiveMaster =>
    if 4 ≤ task.payload.length then some (readId task.payload, .deliver []) else none
  | .forwardFreeContext =>
    if 4 ≤ task.payload.length then some (readId task.payload, .release) else none
  | _ => none

/-- What the bridge of connection `id` sends. -/
def DaemonItem.message (channelId : UInt32) (remoteSpec : String) (id : UInt32) :
    DaemonItem → TaskMessage
  | .activeSlave => hostActiveSlave channelId id remoteSpec
  | .data bytes => forwardData channelId id bytes
  | .freeContext => forwardFreeContext channelId id

/-- `forward_conns` and `fport_senders` are the `registered` fields of the two sides. -/
structure Fport where
  bridges : UInt32 → Bridge
  conns : UInt32 → Endpoint
  handler : Handler (UInt32 × String)
  toDaemon : List TaskMessage
  toHost : List TaskMessage

def Fport.init : Fport := ⟨fun _ => .fresh, fun _ => .fresh, .idle, [], []⟩

inductive FportAct where
  | host (id : UInt32) (act : BridgeAct)
  | dispatch
  | daemon (id : UInt32) (act : CopyAct)
  | free (id : UInt32)
  | take
  | connect (ok : Bool)
  | reply
  | closeChannel
  deriving DecidableEq, Repr

section
variable (channelId : UInt32) (remoteSpec : String)

def fportStep (s : Fport) : FportAct → Option Fport
  | .host id act =>
    (bridgeStep (s.bridges id) act).map fun (bridge, out) =>
      { s with
        bridges := Function.update s.bridges id bridge
        toDaemon := s.toDaemon ++ (out.map (DaemonItem.message channelId remoteSpec id)).toList }
  | .dispatch =>
    match s.toHost with
    | task :: toHost =>
      match dispatchForward task with
      | some (id, item) =>
        let bridge := s.bridges id
        some { s with
          toHost
          bridges := Function.update s.bridges id
            { bridge with socket := bridge.socket.dispatch item } }
      | none => some { s with toHost }
    | [] => none
  | .daemon id act =>
    (copyStep false (s.conns id) act).map fun (conn, out) =>
      { s with
        conns := Function.update s.conns id conn
        toHost := s.toHost ++ (out.map (forwardData channelId id)).toList }
  | .free id =>
    if (s.conns id).reader = .over then
      some { s with
        conns := Function.update s.conns id { s.conns id with reader := .ended }
        toHost := s.toHost ++ [forwardFreeContext channelId id] }
    else none
  | .take =>
    match s.handler, s.toDaemon with
    | .idle, msg :: toDaemon =>
      match decodeForwardTask false msg with
      | .activeSlave id spec => some { s with toDaemon, handler := .connecting (id, spec) }
      | .data id data =>
        some { s with toDaemon, conns := Function.update s.conns id ((s.conns id).deliver data) }
      | .freeContext id =>
        some { s with toDaemon, conns := Function.update s.conns id (s.conns id).unregister }
      -- the other arms use neither the senders nor the tasks, and no bridge sends to them
      | _ => some { s with toDaemon }
    | _, _ => none
  | .connect ok =>
    match s.handler with
    | .connecting (id, spec) =>
      some (if ok then
        { s with
          handler := .connected (id, spec)
          conns := Function.update s.conns id (s.conns id).start }
        else { s with handler := .refused (id, spec) })
    | _ => none
  | .reply =>
    match s.handler with
    | .connected (id, spec) =>
      some { s with
        handler := .idle, toHost := s.toHost ++ [daemonActiveMaster channelId id spec] }
    | .refused (id, _) =>
      some { s with handler := .idle, toHost := s.toHost ++ [forwardFreeContext channelId id] }
    | _ => none
  | .closeChannel =>
    match s.handler with
    | .idle => some { s with conns := fun id => (s.conns id).unregister }
    | _ => none

end

/-- The handler is to send the `ForwardActiveMaster` of connection `id`. -/
def Handler.owesMaster (id : UInt32) : Handler (UInt32 × String) → Bool
  | .connected (i, _) => i == id
  | _ => false

/-- The steps but one: no reader of the daemon sends data for a connection whose
`ForwardActiveMaster` is still to be sent. -/
def Fport.NoEarlyData (s : Fport) : FportAct → Prop
  | .daemon id .send => s.handler.owesMaster id = false
  | _ => True

instance (s : Fport) (act : FportAct) : Decidable (s.NoEarlyData act) := by
  unfold Fport.NoEarlyData
  split <;> infer_instance

/-! The connection of one id. -/

def Handler.view (id : UInt32) : Handler (UInt32 × String) → Handler Unit
  | .idle => .idle
  | .connecting (i, _) => if i = id then .connecting () else .idle
  | .connected (i, _) => if i = id then .connected () else .idle
  | .refused (i, _) => if i = id then .refused () else .idle

/-- What a message to the daemon, or to the host, is for connection `id`. -/
def daemonItem (id : UInt32) (msg : TaskMessage) : Option DaemonItem :=
  match decodeForwardTask false msg with
  | .activeSlave i _ => if i = id then some .activeSlave else none
  | .data i data => if i = id then some (.data data) else none
  | .freeContext i => if i = id then some .freeContext else none
  | _ => none

def hostItem (id : UInt32) (task : TaskMessage) : Option HostItem :=
  (dispatchForward task).bind fun (i, item) => if i = id then some item else none

def Fport.link (s : Fport) (id : UInt32) : Link where
  bridge := s.bridges id
  conn := s.conns id
  handler := s.handler.view id
  toDaemon := s.toDaemon.filterMap (daemonItem id)
  toHost := s.toHost.filterMap (hostItem id)

section
variable (channelId : UInt32) (remoteSpec : String) (id i : UInt32)

theorem daemonItem_message (item : DaemonItem) :
    daemonItem id (item.message channelId remoteSpec i) = if i = id then some item else none := by
  cases item with
  | activeSlave =>
    simp only [daemonItem, DaemonItem.message, decodeForwardTask_activeSlave_lossy]
  | data bytes => simp only [daemonItem, DaemonItem.message, decodeForwardTask_data]
  | freeContext => simp only [daemonItem, DaemonItem.message, decodeForwardTask_freeContext]

theorem hostItem_forwardData (data : List UInt8) :
    hostItem id (forwardData channelId i data) = if i = id then some (.deliver data) else none := by
  have hread : dispatchForward (forwardData channelId i data) = some (i, .deliver data) := by
    show (if 4 ≤ (be 4 i.toNat ++ data).length then
      some (readId (be 4 i.toNat ++ data), HostItem.deliver ((be 4 i.toNat ++ data).drop 4))
      else none) = _
    rw [if_pos (by simp), readId_be, List.drop_left' (be_length 4 _)]
  rw [hostItem, hread, Option.bind_some]

theorem hostItem_activeMaster (spec : String) :
    hostItem id (daemonActiveMaster channelId i spec) =
      if i = id then some (.deliver []) else none := by
  have hread : dispatchForward (daemonActiveMaster channelId i spec) = some (i, .deliver []) := by
    show (if 4 ≤ (specPayload i spec).length then
      some (readId (specPayload i spec), HostItem.deliver []) else none) = _
    rw [if_pos (by simp; omega), readId_specPayload]
  rw [hostItem, hread, Option.bind_some]

theorem hostItem_freeContext :
    hostItem id (forwardFreeContext channelId i) = if i = id then some .release else none := by
  have hread : dispatchForward (forwardFreeContext channelId i) = some (i, .release) := by
    show (if 4 ≤ (be 4 i.toNat).length then
      some (readId (be 4 i.toNat), HostItem.release) else none) = _
    have hid := readId_be i []
    rw [List.append_nil] at hid
    rw [if_pos (by simp), hid]
  rw [hostItem, hread, Option.bind_some]

end

/-! Every step is one of the connection's, or none of its business. -/

/-- A step that connection `id` takes, meeting its side condition, or does not see. -/
def Fport.Matched (s s' : Fport) (id : UInt32) : Prop :=
  s'.link id = s.link id ∨
    ∃ act, (s.link id).NoEarlyData act ∧ linkStep (s.link id) act = some (s'.link id)

section
variable {channelId : UInt32} {remoteSpec : String} {s s' : Fport} (id : UInt32)

theorem host_link {i : UInt32} {act : BridgeAct}
    (h : fportStep channelId remoteSpec s (.host i act) = some s') : s.Matched s' id := by
  unfold fportStep at h
  rw [Option.map_eq_some_iff] at h
  obtain ⟨⟨bridge, out⟩, hb, rfl⟩ := h
  by_cases hi : i = id
  · subst hi
    refine .inr ⟨.host act, by simp [Link.NoEarlyData], ?_⟩
    simp only [Fport.link, linkStep, hb, Option.map_some, Function.update_self]
    cases out <;> simp [daemonItem_message]
  · left
    simp only [Fport.link, Function.update_of_ne (Ne.symm hi)]
    cases out <;> simp [daemonItem_message, hi]

theorem dispatch_link (h : fportStep channelId remoteSpec s .dispatch = some s') :
    s.Matched s' id := by
  unfold fportStep at h
  dsimp only at h
  split at h
  · rename_i task toHost htoHost
    split at h
    · rename_i i item hitem
      cases h
      by_cases hi : i = id
      · subst hi
        refine .inr ⟨.dispatch, by simp [Link.NoEarlyData], ?_⟩
        have hhost : hostItem i task = some item := by simp [hostItem, hitem]
        simp only [Fport.link, linkStep, htoHost, List.filterMap_cons, hhost, Function.update_self]
      · left
        have hhost : hostItem id task = none := by simp [hostItem, hitem, hi]
        simp only [Fport.link, htoHost, List.filterMap_cons, hhost,
          Function.update_of_ne (Ne.symm hi)]
    · rename_i hitem
      cases h
      left
      have hhost : hostItem id task = none := by simp [hostItem, hitem]
      simp only [Fport.link, htoHost, List.filterMap_cons, hhost]
  · cases h

theorem daemon_link {i : UInt32} {act : CopyAct} (hok : s.NoEarlyData (.daemon i act))
    (h : fportStep channelId remoteSpec s (.daemon i act) = some s') : s.Matched s' id := by
  unfold fportStep at h
  rw [Option.map_eq_some_iff] at h
  obtain ⟨⟨conn, out⟩, hc, rfl⟩ := h
  by_cases hi : i = id
  · subst hi
    refine .inr ⟨.daemon act, ?_, ?_⟩
    · intro hact
      cases hact
      have howes : s.handler.owesMaster i = false := hok
      show s.handler.view i ≠ _
      revert howes
      cases s.handler <;> simp [Handler.owesMaster, Handler.view] <;> split <;> simp_all
    · simp only [Fport.link, linkStep, hc, Option.map_some, Function.update_self]
      cases out <;> simp [hostItem_forwardData]
  · left
    simp only [Fport.link, Function.update_of_ne (Ne.symm hi)]
    cases out <;> simp [hostItem_forwardData, hi]

theorem free_link {i : UInt32} (h : fportStep channelId remoteSpec s (.free i) = some s') :
    s.Matched s' id := by
  unfold fportStep at h
  rw [Option.ite_none_right_eq_some] at h
  obtain ⟨hreader, h⟩ := h
  cases h
  by_cases hi : i = id
  · subst hi
    refine .inr ⟨.free, by simp [Link.NoEarlyData], ?_⟩
    simp [Fport.link, linkStep, hreader, hostItem_freeContext]
  · left
    simp [Fport.link, Function.update_of_ne (Ne.symm hi), hostItem_freeContext, hi]

theorem take_link (h : fportStep channelId remoteSpec s .take = some s') : s.Matched s' id := by
  unfold fportStep at h
  dsimp only at h
  split at h
  · rename_i msg toDaemon hhandler htoDaemon
    split at h
    · rename_i i spec hmsg
      cases h
      by_cases hi : i = id
      · subst hi
        refine .inr ⟨.take, by simp [Link.NoEarlyData], ?_⟩
        simp [Fport.link, linkStep, hhandler, htoDaemon, daemonItem, hmsg, Handler.view]
      · left
        simp [Fport.link, hhandler, htoDaemon, daemonItem, hmsg, Handler.view, hi]
    · rename_i i data hmsg
      cases h
      by_cases hi : i = id
      · subst hi
        refine .inr ⟨.take, by simp [Link.NoEarlyData], ?_⟩
        simp [Fport.link, linkStep, hhandler, htoDaemon, daemonItem, hmsg, Handler.view]
      · left
        simp [Fport.link, htoDaemon, daemonItem, hmsg, hi, Function.update_of_ne (Ne.symm hi)]
    · rename_i i hmsg
      cases h
      by_cases hi : i = id
      · subst hi
        refine .inr ⟨.take, by simp [Link.NoEarlyData], ?_⟩
        simp [Fport.link, linkStep, hhandler, htoDaemon, daemonItem, hmsg, Handler.view]
      · left
        simp [Fport.link, htoDaemon, daemonItem, hmsg, hi, Function.update_of_ne (Ne.symm hi)]
    · rename_i hslave hdata hfree
      cases h
      left
      have hitem : daemonItem id msg = none := by
        unfold daemonItem
        split <;> simp_all
      simp [Fport.link, htoDaemon, hitem]
  · cases h

theorem connect_link {ok : Bool} (h : fportStep channelId remoteSpec s (.connect ok) = some s') :
    s.Matched s' id := by
  unfold fportStep at h
  dsimp only at h
  split at h
  · rename_i i spec hhandler
    cases h
    by_cases hi : i = id
    · subst hi
      refine .inr ⟨.connect ok, by simp [Link.NoEarlyData], ?_⟩
      cases ok <;> simp [Fport.link, linkStep, hhandler, Handler.view]
    · left
      cases ok <;> simp [Fport.link, hhandler, Handler.view, hi, Function.update_of_ne (Ne.symm hi)]
  · cases h

theorem reply_link (h : fportStep channelId remoteSpec s .reply = some s') : s.Matched s' id := by
  unfold fportStep at h
  dsimp only at h
  split at h
  · rename_i i spec hhandler
    cases h
    by_cases hi : i = id
    · subst hi
      refine .inr ⟨.reply, by simp [Link.NoEarlyData], ?_⟩
      simp [Fport.link, linkStep, hhandler, Handler.view, hostItem_activeMaster]
    · left
      simp [Fport.link, hhandler, Handler.view, hi, hostItem_activeMaster]
  · rename_i i spec hhandler
    cases h
    by_cases hi : i = id
    · subst hi
      refine .inr ⟨.reply, by simp [Link.NoEarlyData], ?_⟩
      simp [Fport.link, linkStep, hhandler, Handler.view, hostItem_freeContext]
    · left
      simp [Fport.link, hhandler, Handler.view, hi, hostItem_freeContext]
  · cases h

theorem closeChannel_link (h : fportStep channelId remoteSpec s .closeChannel = some s') :
    s.Matched s' id := by
  unfold fportStep at h
  dsimp only at h
  split at h
  · cases h
    exact .inr ⟨.closeChannel, by simp [Link.NoEarlyData], rfl⟩
  · cases h

theorem fportStep_link {act : FportAct} (hok : s.NoEarlyData act)
    (h : fportStep channelId remoteSpec s act = some s') : s.Matched s' id := by
  cases act with
  | host i act => exact host_link id h
  | dispatch => exact dispatch_link id h
  | daemon i act => exact daemon_link id hok h
  | free i => exact free_link id h
  | take => exact take_link id h
  | connect ok => exact connect_link id h
  | reply => exact reply_link id h
  | closeChannel => exact closeChannel_link id h

end

/-- Each connection of a forward runs as it would alone. -/
theorem Fport.link_reaches {channelId : UInt32} {remoteSpec : String} {s : Fport}
    (h : Reaches (fportStep channelId remoteSpec) Fport.NoEarlyData .init s) (id : UInt32) :
    Reaches linkStep Link.NoEarlyData .init (s.link id) :=
  h.map (Fport.link · id) (fun hok hstep => fportStep_link id hok hstep)

/-- The bytes written on either side of a connection are a prefix of those the other
side's peer has sent. -/
def Fport.Faithful (s : Fport) (id : UInt32) : Prop :=
  (s.bridges id).socket.written <+: (s.conns id).sent ∧
    (s.conns id).written <+: (s.bridges id).socket.sent

instance (s : Fport) (id : UInt32) : Decidable (s.Faithful id) := inferInstanceAs (Decidable (_ ∧ _))

/-- In every run of a forward in which no reader of the daemon sends data before its
connection's `ForwardActiveMaster`, at every moment and for every connection the two
streams are delivered as they were sent. -/
theorem fport_faithful (channelId : UInt32) (remoteSpec : String) {s : Fport}
    (h : Reaches (fportStep channelId remoteSpec) Fport.NoEarlyData .init s) (id : UInt32) :
    s.Faithful id := by
  have hinv := LinkInv.of_reaches (Fport.link_reaches h id)
  exact ⟨hinv.up.written, hinv.down.written⟩

/-- A connection is set up, with what its tasks do before `ForwardActiveMaster` is sent. -/
def exampleOpen (id : UInt32) (early : List FportAct) : List FportAct :=
  [.host id .accept, .host id .activate, .take, .connect true] ++ early ++ [.reply]

/-- The daemon's reader reads `n` bytes and sends them. -/
def exampleUp (id : UInt32) (n : Nat) : List FportAct := [.daemon id (.read n), .daemon id .send]

/-- Two connections at once: the client of the first sends two bytes, and gets the
first of three bytes back. -/
def exampleForward : Option Fport :=
  run (fportStep 1 "tcp:80") Fport.NoEarlyData .init
    (exampleOpen 7 [] ++ exampleOpen 9 [.daemon 7 (.peerSends [1, 2, 3]), .daemon 7 (.read 3)] ++
      [.dispatch, .dispatch, .host 7 .await, .host 9 .await,
        .host 7 (.copy (.peerSends [5, 6])), .host 7 (.copy (.read 2)), .daemon 7 .send,
        .host 7 (.copy .send), .take, .daemon 7 .receive, .daemon 7 (.write 2), .dispatch,
        .host 7 (.copy .receive), .host 7 (.copy (.write 1))])

theorem exampleForward_isSome : exampleForward.isSome = true := by decide

theorem fport_faithful_pair :
    ((exampleForward.get exampleForward_isSome).bridges 7).socket.written = [1] ∧
    ((exampleForward.get exampleForward_isSome).conns 7).written = [5, 6] ∧
    (exampleForward.get exampleForward_isSome).Faithful 7 :=
  ⟨by decide, by decide, fport_faithful 1 "tcp:80"
    (.of_run (Option.some_get (x := exampleForward) exampleForward_isSome).symm) 7⟩

/-- A server that speaks first: its first byte is sent before `ForwardActiveMaster`,
the second after it. -/
def bannerRun : Option Fport :=
  run (fportStep 1 "tcp:22") anyStep .init
    (exampleOpen 7 (.daemon 7 (.peerSends [1, 2]) :: exampleUp 7 1) ++ exampleUp 7 1 ++
      [.dispatch, .dispatch, .dispatch, .host 7 .await, .host 7 .await,
        .host 7 (.copy .receive), .host 7 (.copy (.write 1))])

theorem bannerRun_isSome : bannerRun.isSome = true := by decide

/-- The client gets the second byte only. -/
theorem fport_loses_banner :
    Reaches (fportStep 1 "tcp:22") anyStep .init (bannerRun.get bannerRun_isSome) ∧
      ((bannerRun.get bannerRun_isSome).bridges 7).socket.written = [2] ∧
      ((bannerRun.get bannerRun_isSome).conns 7).sent = [1, 2] ∧
      ¬ (bannerRun.get bannerRun_isSome).Faithful 7 :=
  ⟨.of_run (Option.some_get (x := bannerRun) bannerRun_isSome).symm,
    by decide, by decide, by decide⟩

end Hdc
