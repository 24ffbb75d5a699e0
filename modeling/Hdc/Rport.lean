import Hdc.ForwardMessages
import Hdc.Lts
import Hdc.RportLink
import Hdc.RportSetup
import Mathlib.Logic.Function.Basic

/- A reverse port forward: the listener, its dispatcher and its connections on the daemon
   (`run_rport_listener`, `run_rport_connection` and the routing of `handle_forward_task` in
   `hdcd/src/forward.rs`), the set-up loop, the dispatcher and the bridges on the host
   (`handle_server_rport`, `run_rport_bridge` in `hdc/src/server.rs`), and one session between
   them that delivers every message, in order.

   The runs begin when `ForwardInit` has arrived and the listener is spawned. Its entry in
   `rport_listeners` is made after that, and may be lost at any time: to a close of the
   channel, to another listener on it, or to that listener's `cleanup_rport_listener`. A
   connection is accepted under an id once. -/
namespace Hdc
open Rust Wire Lts

/-! The daemon's listener. -/

/-- What the listener's queue holds. -/
inductive ListenerMsg where
  | msg (msg : RportMsg)
  | shutdown
  deriving DecidableEq, Repr

/-- What a connection's queue holds. -/
inductive RportConnMsg where
  | activeMaster
  | data (data : List UInt8)
  | shutdown
  deriving DecidableEq, Repr

/-- The listener's entry in `rport_listeners`: to be made, there, or removed. -/
inductive Registration where
  | pending
  | listed
  | gone
  deriving DecidableEq, Repr

/-- Where `run_rport_listener` stands. -/
inductive ListenerPhase where
  /-- `ForwardCheck` is to be sent. -/
  | asking
  /-- Waiting for its result. -/
  | waiting
  /-- `ForwardSuccess` is to be sent. -/
  | confirming
  | accepting
  /-- The accept loop is over, and the connections are to be shut down. -/
  | draining
  /-- The dispatcher is to be aborted. -/
  | stopping
  /-- `cleanup_rport_listener` is to be called. -/
  | cleaning
  | ended
  deriving DecidableEq, Repr

inductive DispatcherPhase where
  | notSpawned
  | running
  | ended
  deriving DecidableEq, Repr

/-- The tasks of `run_rport_listener`: itself and its dispatcher, which takes over the queue. -/
structure ListenerTask where
  phase : ListenerPhase
  /-- `abort_handle.abort()` has been called. -/
  aborting : Bool
  rx : List ListenerMsg
  dispatcher : DispatcherPhase
  deriving DecidableEq, Repr

def ListenerTask.spawned : ListenerTask := ⟨.asking, false, [], .notSpawned⟩

/-- `listener.tx.send(msg)`. -/
def ListenerTask.push (l : ListenerTask) (msg : ListenerMsg) : ListenerTask :=
  { l with rx := l.rx ++ [msg] }

/-- What `handle_channel_close` does to a listener it finds. -/
def ListenerTask.close (l : ListenerTask) : ListenerTask :=
  { l with rx := l.rx ++ [.shutdown], aborting := true }

inductive ListenerAct where
  | ask (ok : Bool)
  /-- The next message, or the end of the queue, while waiting for the check's result. -/
  | await
  | confirm (ok : Bool)
  | acceptFail
  /-- The accept loop sees that the dispatcher has ended. -/
  | dispatcherEnds
  | drain
  | stopDispatcher
  | cleanup
  | aborted
  /-- The dispatcher takes the next message, or the end of the queue. -/
  | dispatch
  deriving DecidableEq, Repr

/-- What a step of the listener does outside of it. -/
inductive ListenerEffect where
  | quiet
  | send (msg : TaskMessage)
  /-- Every connection gets `Shutdown`, and `conns` is emptied. -/
  | shutdownConns
  /-- `cleanup_rport_listener`. -/
  | unlist
  /-- A message for a connection. -/
  | pass (msg : RportMsg)
  deriving DecidableEq, Repr

/-- The loop that waits for the check's result, over one message. -/
def ListenerPhase.onCheck (listenerId : UInt32) : ListenerMsg → ListenerPhase
  | .msg (.checkResult ctxId ok) =>
    if ctxId = listenerId then if ok then .confirming else .cleaning else .waiting
  | .shutdown => .cleaning
  | _ => .waiting

/-- The `ForwardSuccess` of the listener. -/
def daemonForwardSuccess (channelId : UInt32) (remoteSpec localSpec : String) : TaskMessage :=
  ⟨channelId, .forwardSuccess, utf8 ("0|" ++ remoteSpec ++ " " ++ localSpec)⟩

/-- `run_rport_listener`, but for the connections it accepts. `hasSender` is whether the
sender of its queue, which is the one of its entry, is still there. -/
def listenerStep (channelId listenerId : UInt32) (remoteSpec localSpec : String) (hasSender : Bool)
    (l : ListenerTask) : ListenerAct → Option (ListenerTask × ListenerEffect)
  | .ask ok =>
    if l.phase = .asking then
      some (if ok then
        ({ l with phase := .waiting }, .send (daemonForwardCheck channelId listenerId localSpec))
        else ({ l with phase := .cleaning }, .quiet))
    else none
  | .await =>
    if l.phase = .waiting then
      match l.rx with
      | m :: rx => some ({ l with rx, phase := .onCheck listenerId m }, .quiet)
      | [] => if hasSender then none else some ({ l with phase := .cleaning }, .quiet)
    else none
  | .confirm ok =>
    if l.phase = .confirming then
      some ({ l with phase := .accepting, dispatcher := .running },
        if ok then .send (daemonForwardSuccess channelId remoteSpec localSpec) else .quiet)
    else none
  | .acceptFail => if l.phase = .accepting then some ({ l with phase := .draining }, .quiet) else none
  | .dispatcherEnds =>
    if l.phase = .accepting ∧ l.dispatcher = .ended then some ({ l with phase := .draining }, .quiet)
    else none
  | .drain =>
    if l.phase = .draining then some ({ l with phase := .stopping }, .shutdownConns) else none
  | .stopDispatcher =>
    if l.phase = .stopping then some ({ l with phase := .cleaning, dispatcher := .ended }, .quiet)
    else none
  | .cleanup => if l.phase = .cleaning then some ({ l with phase := .ended }, .unlist) else none
  | .aborted => if l.aborting then some ({ l with phase := .ended }, .quiet) else none
  | .dispatch =>
    if l.dispatcher = .running then
      match l.rx with
      | .shutdown :: rx => some ({ l with rx, dispatcher := .ended }, .quiet)
      | .msg m :: rx => some ({ l with rx }, .pass m)
      | [] => if hasSender then none else some ({ l with dispatcher := .ended }, .quiet)
    else none

/-! Its connections. -/

/-- What connection `id` sends. -/
def DaemonItem.rportMessage (channelId : UInt32) (localSpec : String) (id : UInt32) :
    DaemonItem → TaskMessage
  | .activeSlave => daemonActiveSlave channelId id localSpec
  | .data bytes => forwardData channelId id bytes
  | .freeContext => forwardFreeContext channelId id

/-- The steps of a connection that are its own. -/
def RportConnAct.own : RportConnAct → Bool
  | .activate | .activateFail | .giveUp | .copy _ | .join | .free => true
  | _ => false

/-- What a connection does with what it receives; `none` is the end of its queue. -/
def RportConn.reaction (c : RportConn) : Option RportConnMsg → RportConnAct
  | some .activeMaster => if c.phase = .waiting then .activated else .skip none
  | some (.data data) => if c.phase = .waiting then .skip (some data) else .take data
  | some .shutdown | none => if c.phase = .waiting then .giveUp else .stop

/-! The host. -/

/-- The set-up, the dispatcher, or neither. -/
inductive RportHostPhase where
  | setup (phase : RportSetupPhase)
  | dispatching
  | ended
  deriving DecidableEq, Repr

/-- Where the set-up leads to. -/
def RportSetupPhase.host : RportSetupPhase → RportHostPhase
  | .ended (.ok ()) => .dispatching
  | .ended (.error _) => .ended
  | phase => .setup phase

/-- The `master_msg` of `run_rport_bridge`. -/
def hostActiveMaster (channelId forwardId : UInt32) : TaskMessage :=
  ⟨channelId, .forwardActiveMaster, be 4 forwardId.toNat⟩

/-- What the bridge of connection `id` sends. -/
def RportItem.message (channelId id : UInt32) : RportItem → TaskMessage
  | .activeMaster => hostActiveMaster channelId id
  | .data bytes => forwardData channelId id bytes
  | .freeContext => forwardFreeContext channelId id

/-! The two together. -/

/-- `conns` and `forward_conns` are the `registered` fields of the two sides. -/
structure Rport where
  registration : Registration
  listener : ListenerTask
  conns : UInt32 → RportConn
  /-- The queues of the connections. -/
  inbox : UInt32 → List RportConnMsg
  toDaemon : List TaskMessage
  toHost : List TaskMessage
  host : RportHostPhase
  bridges : UInt32 → RportBridge

def Rport.init : Rport where
  registration := .pending
  listener := .spawned
  conns := fun _ => .fresh
  inbox := fun _ => []
  toDaemon := []
  toHost := []
  host := .setup .waiting
  bridges := fun _ => .fresh

inductive RportAct where
  | insert
  /-- The entry is removed or replaced on behalf of another listener. -/
  | unlist
  /-- `handle_channel_close`. -/
  | close
  /-- The daemon's main loop takes the next message. -/
  | take
  | listener (act : ListenerAct)
  | accept (id : UInt32)
  | conn (id : UInt32) (act : RportConnAct)
  /-- A connection receives the next message, or the end of its queue. -/
  | receive (id : UInt32)
  /-- The host takes the next message; `reachable` is whether the port of a check accepts
  connections. -/
  | host (reachable : Bool)
  /-- Another step of the set-up. -/
  | setup (act : ServerAct RportSetupAct)
  | hostEnds
  | bridge (id : UInt32) (act : RportBridgeAct)
  deriving DecidableEq, Repr

namespace Rport

/-- The dispatcher's `tx.send(msg)` on the sender in `conns`, if there is one. -/
def feed (s : Rport) (id : UInt32) (msg : RportConnMsg) : Rport :=
  if (s.conns id).socket.registered then
    { s with inbox := Function.update s.inbox id (s.inbox id ++ [msg]) }
  else s

def unregister (s : Rport) (id : UInt32) : Rport :=
  { s with
    conns := Function.update s.conns id
      { s.conns id with socket := (s.conns id).socket.unregister } }

/-- The dispatcher's match, but for `Shutdown`. -/
def pass (s : Rport) : RportMsg → Rport
  | .activeMaster id => s.feed id .activeMaster
  | .data id data => s.feed id (.data data)
  | .freeContext id => s.unregister id
  | .checkResult _ _ => s

def onEffect (s : Rport) : ListenerEffect → Rport
  | .quiet => s
  | .send msg => { s with toHost := s.toHost ++ [msg] }
  | .shutdownConns =>
    { s with
      conns := fun id => { s.conns id with socket := (s.conns id).socket.unregister }
      inbox := fun id =>
        if (s.conns id).socket.registered then s.inbox id ++ [.shutdown] else s.inbox id }
  | .unlist => { s with registration := if s.registration = .listed then .gone else s.registration }
  | .pass msg => s.pass msg

/-- The answer to a `ForwardCheck`. -/
def replyCheck (channelId : UInt32) (s : Rport) (forwardId : UInt32) (localSpec : String)
    (reachable : Bool) : Rport :=
  let ok := (parseForwardPort localSpec).isOk && reachable
  { s with toDaemon := s.toDaemon ++ [hostCheckResult channelId forwardId ok] }

def setBridge (s : Rport) (id : UInt32) (bridge : RportBridge) : Rport :=
  { s with bridges := Function.update s.bridges id bridge }

/-- The match of the dispatcher. -/
def onDispatcherTask (channelId : UInt32) (s : Rport) (reachable : Bool) : RportTask → Rport
  | .check forwardId localSpec => s.replyCheck channelId forwardId localSpec reachable
  | .activeSlave id localSpec =>
    s.setBridge id ⟨if (parseForwardPort localSpec).isOk then .connecting else .closed, .fresh⟩
  | .data id data =>
    s.setBridge id { s.bridges id with socket := (s.bridges id).socket.deliver data }
  | .freeContext id =>
    s.setBridge id { s.bridges id with socket := (s.bridges id).socket.unregister }
  | _ => s

/-- A message for the host. It stays in the queue while the set-up is not waiting for one. -/
def onHostTask (channelId : UInt32) (s : Rport) (reachable : Bool) (task : TaskMessage) : Option Rport :=
  match s.host with
  | .setup .waiting => some { s with host := .setup (onRportTask task reachable) }
  | .setup _ => none
  | .dispatching => some (s.onDispatcherTask channelId reachable (readRportTask task))
  | .ended => some s

end Rport

section
variable (maps : SessionMaps) (job : RportJob) (listenerId : UInt32) (remoteSpec localSpec : String)

/-- `job` is the host's, and `remoteSpec` and `localSpec` are as the daemon reads them. -/
def rportStep (s : Rport) : RportAct → Option Rport
  | .insert => if s.registration = .pending then some { s with registration := .listed } else none
  | .unlist => if s.registration = .listed then some { s with registration := .gone } else none
  | .close =>
    if s.registration = .listed then some { s with registration := .gone, listener := s.listener.close }
    else none
  | .take =>
    match s.toDaemon with
    | msg :: toDaemon =>
      -- the main loop is in `handle_rport_init` until the entry is made
      if s.registration = .pending then none
      else match decodeForwardTask (s.registration == .listed) msg with
        | .toListener m => some { s with toDaemon, listener := s.listener.push (.msg m) }
        -- the other arms know nothing of a listener, and no bridge sends to them before
        -- the entry is gone
        | _ => some { s with toDaemon }
    | [] => none
  | .listener act =>
    (listenerStep job.channelId listenerId remoteSpec localSpec (s.registration != .gone) s.listener act).map
      fun (listener, effect) => { s with listener : Rport }.onEffect effect
  | .accept id =>
    if s.listener.phase = .accepting then
      (rportConnStep (s.conns id) .accept).map fun (conn, _) =>
        { s with conns := Function.update s.conns id conn }
    else none
  | .conn id act =>
    if act.own then
      (rportConnStep (s.conns id) act).map fun (conn, out) =>
        { s with
          conns := Function.update s.conns id conn
          toHost := s.toHost ++ (out.map (DaemonItem.rportMessage job.channelId localSpec id)).toList }
    else none
  | .receive id =>
    let conn := s.conns id
    if s.inbox id = [] ∧ conn.socket.registered then none
    else
      (rportConnStep conn (conn.reaction (s.inbox id).head?)).map fun (conn, _) =>
        { s with
          conns := Function.update s.conns id conn
          inbox := Function.update s.inbox id (s.inbox id).tail }
  | .host reachable =>
    match s.toHost with
    | task :: toHost => { s with toHost : Rport }.onHostTask job.channelId reachable task
    | [] => none
  | .setup act =>
    -- messages are taken from the queue
    if act.receives then none
    else
      match s.host with
      | .setup phase =>
        ((rportSetup job).deliver maps phase act).map fun (phase, sent) =>
          { s with host := phase.host, toDaemon := s.toDaemon ++ sent }
      | _ => none
  | .hostEnds => some { s with host := .ended }
  | .bridge id act =>
    (rportBridgeStep (s.bridges id) act).map fun (bridge, out) =>
      { s with
        bridges := Function.update s.bridges id bridge
        toDaemon := s.toDaemon ++ (out.map (RportItem.message job.channelId id)).toList }

end

/-! What has not begun. -/

def ListenerPhase.Early (p : ListenerPhase) : Prop := p = .asking ∨ p = .waiting ∨ p = .confirming

/-- There is no connection before the accept loop, and no bridge before the dispatcher; and
nothing waits for a connection that was not accepted. -/
structure RportOk (s : Rport) : Prop where
  idle : ∀ id, (s.conns id).phase = .idle → s.inbox id = [] ∧ (s.conns id).socket.registered = false
  early : s.listener.phase.Early → s.listener.dispatcher = .notSpawned ∧ ∀ id, (s.conns id).phase = .idle
  setup : ∀ phase, s.host = .setup phase → ∀ id, (s.bridges id).phase = .idle

theorem RportOk.init : RportOk .init where
  idle := fun _ _ => ⟨rfl, rfl⟩
  early := fun _ => ⟨rfl, fun _ => rfl⟩
  setup := fun _ _ _ => rfl

/-- A connection does not return to its beginning. -/
theorem rportConnStep_idle {c c' : RportConn} {act : RportConnAct} {out : Option DaemonItem}
    (h : rportConnStep c act = some (c', out)) (hidle : c'.phase = .idle) :
    c.phase = .idle ∧ c'.socket.registered = c.socket.registered := by
  cases act with
  | copy act =>
    obtain ⟨-, heq⟩ := Option.ite_none_left_eq_some.mp h
    obtain ⟨⟨socket, data⟩, hcopy, heq⟩ := Option.map_eq_some_iff.mp heq
    cases heq
    exact ⟨hidle, (copyStep_frame hcopy).2.1⟩
  | _ =>
    obtain ⟨-, heq⟩ := Option.ite_none_right_eq_some.mp h
    cases heq
    first
      | exact ⟨hidle, rfl⟩
      | cases hidle

/-- And does not leave it by itself. -/
theorem rportConnStep_stays {c c' : RportConn} {act : RportConnAct} {out : Option DaemonItem}
    (h : rportConnStep c act = some (c', out)) (hact : act ≠ .accept) (hidle : c.phase = .idle) :
    c'.phase = .idle := by
  cases act with
  | accept => exact absurd rfl hact
  | copy act =>
    obtain ⟨-, heq⟩ := Option.ite_none_left_eq_some.mp h
    obtain ⟨⟨socket, data⟩, -, heq⟩ := Option.map_eq_some_iff.mp heq
    cases heq
    exact hidle
  | _ =>
    obtain ⟨hphase, heq⟩ := Option.ite_none_right_eq_some.mp h
    cases heq
    first
      | exact hidle
      | simp [hidle] at hphase

theorem reaction_ne_accept (c : RportConn) (msg : Option RportConnMsg) : c.reaction msg ≠ .accept := by
  unfold RportConn.reaction
  split <;> split <;> simp

/-- A bridge that was not spawned does nothing. -/
theorem rportBridgeStep_idle {b b' : RportBridge} {act : RportBridgeAct} {out : Option RportItem}
    (h : rportBridgeStep b act = some (b', out)) (hidle : b.phase = .idle) : b'.phase = .idle := by
  cases act with
  | copy act =>
    obtain ⟨⟨socket, data⟩, -, heq⟩ := Option.map_eq_some_iff.mp h
    cases heq
    exact hidle
  | _ =>
    obtain ⟨hphase, -⟩ := Option.ite_none_right_eq_some.mp h
    simp [hidle] at hphase

section
variable {s s' : Rport}

/-- A step of one connection, which may take from its queue. -/
theorem RportOk.of_conn (h : RportOk s) {id : UInt32} {act : RportConnAct} {conn : RportConn}
    {out : Option DaemonItem} (hconn : rportConnStep (s.conns id) act = some (conn, out))
    (hearly : s.listener.phase.Early → act ≠ .accept) {queue : List RportConnMsg}
    (hqueue : s.inbox id = [] → queue = []) (toHost : List TaskMessage) :
    RportOk { s with
      conns := Function.update s.conns id conn, inbox := Function.update s.inbox id queue, toHost } where
  idle := by
    intro i hi
    by_cases hid : i = id
    · subst hid
      simp only [Function.update_self] at hi ⊢
      obtain ⟨hbefore, hsame⟩ := rportConnStep_idle hconn hi
      obtain ⟨hinbox, hregistered⟩ := h.idle i hbefore
      exact ⟨hqueue hinbox, hsame.trans hregistered⟩
    · simp only [Function.update_of_ne hid] at hi ⊢
      exact h.idle i hi
  early := by
    intro he
    obtain ⟨hdispatcher, hall⟩ := h.early he
    refine ⟨hdispatcher, fun i => ?_⟩
    by_cases hid : i = id
    · subst hid
      simp only [Function.update_self]
      exact rportConnStep_stays hconn (hearly he) (hall i)
    · simp only [Function.update_of_ne hid]
      exact hall i
  setup := h.setup

theorem RportOk.feed (h : RportOk s) (id : UInt32) (msg : RportConnMsg) : RportOk (s.feed id msg) := by
  unfold Rport.feed
  split
  · rename_i hregistered
    refine { h with idle := fun i hi => ?_ }
    have hid : i ≠ id := by
      rintro rfl
      simp [(h.idle i hi).2] at hregistered
    simp only [Function.update_of_ne hid]
    exact h.idle i hi
  · exact h

theorem RportOk.unregister (h : RportOk s) (id : UInt32) : RportOk (s.unregister id) where
  idle := by
    intro i
    by_cases hid : i = id
    · subst hid
      simp only [Rport.unregister, Function.update_self]
      exact fun hi => ⟨(h.idle i hi).1, rfl⟩
    · simp only [Rport.unregister, Function.update_of_ne hid]
      exact h.idle i
  early := by
    intro he
    obtain ⟨hdispatcher, hall⟩ := h.early he
    refine ⟨hdispatcher, fun i => ?_⟩
    by_cases hid : i = id
    · subst hid
      simp only [Rport.unregister, Function.update_self]
      exact hall i
    · simp only [Rport.unregister, Function.update_of_ne hid]
      exact hall i
  setup := h.setup

theorem RportOk.pass (h : RportOk s) (m : RportMsg) : RportOk (s.pass m) := by
  cases m with
  | checkResult ctxId ok => exact h
  | activeMaster id => exact h.feed id .activeMaster
  | data id data => exact h.feed id (.data data)
  | freeContext id => exact h.unregister id

theorem RportOk.onEffect (h : RportOk s) (effect : ListenerEffect) : RportOk (s.onEffect effect) := by
  cases effect with
  | quiet => exact h
  | send msg => exact { h with }
  | shutdownConns =>
    refine { h with idle := fun i hi => ⟨?_, rfl⟩, early := h.early }
    obtain ⟨hinbox, hregistered⟩ := h.idle i hi
    show (if (s.conns i).socket.registered then s.inbox i ++ [.shutdown] else s.inbox i) = []
    rw [hregistered, hinbox]
    rfl
  | unlist => exact { h with }
  | pass msg => exact h.pass msg

theorem RportOk.onDispatcherTask (h : RportOk s) (hhost : s.host = .dispatching) (channelId : UInt32)
    (reachable : Bool) (task : RportTask) : RportOk (s.onDispatcherTask channelId reachable task) := by
  have hlate : ∀ phase, s.host ≠ .setup phase := by simp [hhost]
  cases task with
  | activeSlave id spec => exact { h with setup := fun phase hs => absurd hs (hlate phase) }
  | data id data => exact { h with setup := fun phase hs => absurd hs (hlate phase) }
  | freeContext id => exact { h with setup := fun phase hs => absurd hs (hlate phase) }
  | check id spec => exact { h with }
  | _ => exact h

theorem RportOk.onHostTask (h : RportOk s) {channelId : UInt32} {reachable : Bool} {task : TaskMessage}
    (hst : s.onHostTask channelId reachable task = some s') : RportOk s' := by
  unfold Rport.onHostTask at hst
  split at hst
  · rename_i hsetup
    cases hst
    exact { h with setup := fun _ _ => h.setup .waiting hsetup }
  · cases hst
  · rename_i hhost
    cases hst
    exact h.onDispatcherTask hhost channelId reachable _
  · cases hst
    exact h

/-- A listener that is early after a step was so before it, and has no dispatcher. -/
theorem listenerStep_early {channelId listenerId : UInt32} {remoteSpec localSpec : String}
    {hasSender : Bool} {l l' : ListenerTask} {act : ListenerAct} {effect : ListenerEffect}
    (h : listenerStep channelId listenerId remoteSpec localSpec hasSender l act = some (l', effect))
    (hspawned : l.phase.Early → l.dispatcher = .notSpawned) (hearly : l'.phase.Early) :
    l.phase.Early ∧ l'.dispatcher = .notSpawned := by
  cases act with
  | ask ok =>
    obtain ⟨hphase, heq⟩ := Option.ite_none_right_eq_some.mp h
    have he : l.phase.Early := .inl hphase
    cases ok <;> cases heq <;> exact ⟨he, hspawned he⟩
  | await =>
    obtain ⟨hphase, heq⟩ := Option.ite_none_right_eq_some.mp h
    have he : l.phase.Early := .inr (.inl hphase)
    repeat' split at heq
    all_goals cases heq
    all_goals exact ⟨he, hspawned he⟩
  | dispatch =>
    obtain ⟨hrunning, heq⟩ := Option.ite_none_right_eq_some.mp h
    have hkeep : l'.phase = l.phase := by
      repeat' split at heq
      all_goals cases heq
      all_goals rfl
    rw [hkeep] at hearly
    simp [hspawned hearly] at hrunning
  | _ =>
    obtain ⟨-, heq⟩ := Option.ite_none_right_eq_some.mp h
    cases heq
    simp [ListenerPhase.Early] at hearly

variable {maps : SessionMaps} {job : RportJob} {listenerId : UInt32} {remoteSpec localSpec : String}

theorem RportOk.step (h : RportOk s) {act : RportAct}
    (hst : rportStep maps job listenerId remoteSpec localSpec s act = some s') : RportOk s' := by
  cases act with
  | insert =>
    obtain ⟨-, heq⟩ := Option.ite_none_right_eq_some.mp hst
    cases heq
    exact { h with }
  | unlist =>
    obtain ⟨-, heq⟩ := Option.ite_none_right_eq_some.mp hst
    cases heq
    exact { h with }
  | close =>
    obtain ⟨-, heq⟩ := Option.ite_none_right_eq_some.mp hst
    cases heq
    exact { h with early := h.early }
  | take =>
    simp only [rportStep] at hst
    repeat' split at hst
    all_goals cases hst
    all_goals exact { h with early := h.early }
  | listener act =>
    obtain ⟨⟨listener, effect⟩, hlistener, heq⟩ := Option.map_eq_some_iff.mp hst
    cases heq
    have hmoved : RportOk { s with listener } := { h with
      early := by
        intro he
        obtain ⟨hbefore, hdispatcher⟩ := listenerStep_early hlistener (fun he => (h.early he).1) he
        exact ⟨hdispatcher, (h.early hbefore).2⟩ }
    exact hmoved.onEffect effect
  | accept i =>
    obtain ⟨haccepting, heq⟩ := Option.ite_none_right_eq_some.mp hst
    obtain ⟨⟨conn, out⟩, hconn, heq⟩ := Option.map_eq_some_iff.mp heq
    cases heq
    have hlate : ¬ s.listener.phase.Early := by simp [haccepting, ListenerPhase.Early]
    have hkeep : s.inbox i = [] → s.inbox i = [] := id
    simpa using h.of_conn hconn (fun he => absurd he hlate) hkeep s.toHost
  | conn i act =>
    obtain ⟨hown, heq⟩ := Option.ite_none_right_eq_some.mp hst
    obtain ⟨⟨conn, out⟩, hconn, heq⟩ := Option.map_eq_some_iff.mp heq
    cases heq
    have hact : act ≠ .accept := by
      rintro rfl
      cases hown
    have hkeep : s.inbox i = [] → s.inbox i = [] := id
    simpa using h.of_conn hconn (fun _ => hact) hkeep _
  | receive id =>
    obtain ⟨-, heq⟩ := Option.ite_none_left_eq_some.mp hst
    obtain ⟨⟨conn, out⟩, hconn, heq⟩ := Option.map_eq_some_iff.mp heq
    cases heq
    exact h.of_conn hconn (fun _ => reaction_ne_accept _ _) (by simp +contextual) s.toHost
  | host reachable =>
    simp only [rportStep] at hst
    split at hst
    · rename_i task toHost htoHost
      have hpopped : RportOk { s with toHost } := { h with }
      exact hpopped.onHostTask hst
    · cases hst
  | setup act =>
    obtain ⟨-, heq⟩ := Option.ite_none_left_eq_some.mp hst
    split at heq
    · rename_i phase hsetup
      obtain ⟨⟨phase', sent⟩, -, heq⟩ := Option.map_eq_some_iff.mp heq
      cases heq
      exact { h with setup := fun _ _ => h.setup phase hsetup }
    · cases heq
  | hostEnds =>
    cases hst
    exact { h with setup := by simp }
  | bridge id act =>
    obtain ⟨⟨bridge, out⟩, hbridge, heq⟩ := Option.map_eq_some_iff.mp hst
    cases heq
    refine { h with setup := fun phase hs i => ?_ }
    by_cases hid : i = id
    · subst hid
      simp only [Function.update_self]
      exact rportBridgeStep_idle hbridge (h.setup phase hs i)
    · simp only [Function.update_of_ne hid]
      exact h.setup phase hs i

end

end Hdc
