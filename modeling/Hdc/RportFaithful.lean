import Hdc.Lts
import Hdc.Rport
import Hdc.RportLink

/- A reverse port forward delivers what it reads. `Rport.link` looks at the connection of one
   id: its pipe is what its own queue, the listener's queue and the session hold for it, as
   far as there is still somebody to pass it on. Every step is a step of that connection or
   none (`rportStep_link`), so what `Hdc.RportLink` proves of one connection holds of each of
   them, in any interleaving. -/
namespace Hdc
open Rust Wire Lts

/-! The connection of one id. -/

/-- What a message carries for connection `id`: `ForwardActiveMaster`, or data. -/
def RportMsg.lead? (id : UInt32) : RportMsg → Option (Option (List UInt8))
  | .activeMaster i => if i = id then some none else none
  | .data i bytes => if i = id then some (some bytes) else none
  | _ => none

def ListenerMsg.lead? (id : UInt32) : ListenerMsg → Option (Option (List UInt8))
  | .msg m => m.lead? id
  | .shutdown => none

def RportConnMsg.lead? : RportConnMsg → Option (Option (List UInt8))
  | .activeMaster => some none
  | .data bytes => some (some bytes)
  | .shutdown => none

def daemonLead? (id : UInt32) (msg : TaskMessage) : Option (Option (List UInt8)) :=
  match decodeForwardTask true msg with
  | .toListener m => m.lead? id
  | _ => none

/-- What a message to the host is for connection `id`. -/
def rportItem? (id : UInt32) (task : TaskMessage) : Option DaemonItem :=
  match readRportTask task with
  | .activeSlave i _ => if i = id then some .activeSlave else none
  | .data i data => if i = id then some (.data data) else none
  | .freeContext i => if i = id then some .freeContext else none
  | _ => none

/-- `conns` has the connection's sender, or will have it. -/
def RportConn.awaited (c : RportConn) : Bool := c.socket.registered || c.phase = .idle

namespace Rport
variable (s : Rport) (id : UInt32)

/-- What the listener's queue holds is passed on to the connection. -/
def alive : Bool := s.listener.dispatcher != .ended && (s.conns id).awaited

/-- And so is what the session holds. -/
def isOpen : Bool := s.alive id && s.registration != .gone

/-- What the three queues hold for the connection. -/
def held : List (Option (List UInt8)) := (s.inbox id).filterMap RportConnMsg.lead?

def queued : List (Option (List UInt8)) :=
  if s.alive id then s.listener.rx.filterMap (ListenerMsg.lead? id) else []

def coming : List (Option (List UInt8)) :=
  if s.isOpen id then s.toDaemon.filterMap (daemonLead? id) else []

def link : RportLink where
  conn := s.conns id
  pipe := s.held id ++ s.queued id ++ s.coming id
  isOpen := s.isOpen id
  bridge := s.bridges id
  hosting := s.host != .ended
  toHost := s.toHost.filterMap (rportItem? id)

end Rport

/-! Messages. -/

section
variable (channelId : UInt32) (spec : String) (id i : UInt32)

theorem rportItem?_rportMessage (item : DaemonItem) :
    rportItem? id (item.rportMessage channelId spec i) = if i = id then some item else none := by
  have hid := readId_be i []
  rw [List.append_nil] at hid
  cases item with
  | activeSlave =>
    have hread : hostReadRportSpec (specPayload i spec) =
        some (i, trimEndMatches (Char.ofNat 0) (fromUtf8Lossy (utf8 spec ++ [0]))) := by
      rw [hostReadRportSpec, if_pos (by simp), readId_specPayload, specPayload_drop]
    simp only [rportItem?, readRportTask, DaemonItem.rportMessage, daemonActiveSlave, hread]
  | data bytes =>
    have hlen : 4 ≤ (be 4 i.toNat ++ bytes).length := by simp
    simp only [rportItem?, readRportTask, DaemonItem.rportMessage, forwardData, if_pos hlen, readId_be,
      List.drop_left' (be_length 4 i.toNat)]
  | freeContext =>
    have hlen : 4 ≤ (be 4 i.toNat).length := by simp
    simp only [rportItem?, readRportTask, DaemonItem.rportMessage, forwardFreeContext, if_pos hlen, hid]

theorem rportItem?_check (listenerId : UInt32) :
    rportItem? id (daemonForwardCheck channelId listenerId spec) = none := by
  simp only [rportItem?, readRportTask, daemonForwardCheck]
  cases hostReadRportSpec (specPayload listenerId spec) <;> rfl

theorem daemonLead?_message (item : RportItem) :
    daemonLead? id (item.message channelId i) = if i = id then item.lead? else none := by
  have hid := readId_be i []
  rw [List.append_nil] at hid
  have hlen : 4 ≤ (be 4 i.toNat).length := by simp
  cases item with
  | activeMaster =>
    simp only [daemonLead?, decodeForwardTask, routeToListener, RportItem.message, hostActiveMaster,
      if_pos hlen, hid, if_true, Option.getD_some, RportMsg.lead?, RportItem.lead?]
  | data bytes =>
    have hlen : 4 ≤ (be 4 i.toNat ++ bytes).length := by simp
    simp only [daemonLead?, decodeForwardTask, routeToListener, RportItem.message, forwardData,
      if_pos hlen, readId_be, List.drop_left' (be_length 4 i.toNat), if_true, Option.getD_some,
      RportMsg.lead?, RportItem.lead?]
  | freeContext =>
    simp only [daemonLead?, decodeForwardTask, routeToListener, RportItem.message, forwardFreeContext,
      if_pos hlen, hid, if_true, Option.getD_some, RportMsg.lead?, RportItem.lead?, ite_self]

theorem daemonLead?_checkResult (ctxId : UInt32) (ok : Bool) :
    daemonLead? id (hostCheckResult channelId ctxId ok) = none := by
  rw [daemonLead?, decodeForwardTask_checkResult]
  rfl

end

/-- Without a listener no message goes to one. -/
theorem decodeForwardTask_unrouted (msg : TaskMessage) (m : RportMsg) :
    decodeForwardTask false msg ≠ .toListener m := by
  simp only [decodeForwardTask, Bool.false_eq_true, if_false, Option.getD_none, matchForwardTask]
  split <;> (try split) <;> simp

/-! The entry in `conns`. -/

section
variable {c c' : RportConn} {act : RportConnAct} {out : Option DaemonItem}

theorem rportConnStep_awaited (h : rportConnStep c act = some (c', out)) (hcuts : act.cuts = false) :
    c'.awaited = c.awaited := by
  cases act with
  | copy act =>
    obtain ⟨-, heq⟩ := Option.ite_none_left_eq_some.mp h
    obtain ⟨⟨socket, data⟩, hcopy, heq⟩ := Option.map_eq_some_iff.mp heq
    cases heq
    simp only [RportConn.awaited, (copyStep_frame hcopy).2.1]
  | activateFail => cases hcuts
  | giveUp => cases hcuts
  | join => cases hcuts
  | _ =>
    obtain ⟨hphase, heq⟩ := Option.ite_none_right_eq_some.mp h
    cases heq
    first
      | rfl
      | simp [RportConn.awaited, hphase]

/-- Nothing is sent on receiving something. -/
theorem rportConnStep_reaction {msg : Option RportConnMsg}
    (h : rportConnStep c (c.reaction msg) = some (c', out)) : out = none := by
  unfold RportConn.reaction at h
  split at h <;> split at h
  all_goals
    obtain ⟨-, heq⟩ := Option.ite_none_right_eq_some.mp h
    cases heq
    rfl

theorem rportConnStep_cuts (h : rportConnStep c act = some (c', out)) (hcuts : act.cuts = true) :
    c'.awaited = false := by
  cases act with
  | activateFail =>
    obtain ⟨-, heq⟩ := Option.ite_none_right_eq_some.mp h
    cases heq
    rfl
  | giveUp =>
    obtain ⟨-, heq⟩ := Option.ite_none_right_eq_some.mp h
    cases heq
    rfl
  | join =>
    obtain ⟨-, heq⟩ := Option.ite_none_right_eq_some.mp h
    cases heq
    rfl
  | _ => cases hcuts

end

/-! Every step is one of the connection's, or none of its business. -/

/-- A step that connection `id` takes or does not see. -/
def Rport.Matched (s s' : Rport) (id : UInt32) : Prop :=
  s'.link id = s.link id ∨ ∃ act, rportLinkStep (s.link id) act = some (s'.link id)

section
variable {s s' : Rport} {id : UInt32}

/-- What a connection sees of the forward. -/
theorem Rport.link_congr (hregistration : (s'.registration != .gone) = (s.registration != .gone))
    (hdispatcher : (s'.listener.dispatcher != .ended) = (s.listener.dispatcher != .ended))
    (hconn : s'.conns id = s.conns id) (hinbox : s'.inbox id = s.inbox id) (hhost : s'.host = s.host)
    (hbridge : s'.bridges id = s.bridges id)
    (hrx : s'.listener.rx.filterMap (ListenerMsg.lead? id) =
      s.listener.rx.filterMap (ListenerMsg.lead? id))
    (htoDaemon : s'.toDaemon.filterMap (daemonLead? id) = s.toDaemon.filterMap (daemonLead? id))
    (htoHost : s'.toHost.filterMap (rportItem? id) = s.toHost.filterMap (rportItem? id)) :
    s'.link id = s.link id := by
  have halive : s'.alive id = s.alive id := by simp only [Rport.alive, hdispatcher, hconn]
  unfold Rport.link Rport.held Rport.queued Rport.coming Rport.isOpen
  rw [halive, hregistration, hconn, hinbox, hhost, hbridge, hrx, htoDaemon, htoHost]

theorem Rport.pipe_of_dead (h : s.alive id = false) : s.queued id = [] ∧ s.coming id = [] := by
  simp [Rport.queued, Rport.coming, Rport.isOpen, h]

/-- The dispatcher's end cuts the pipe after the connection's own queue. -/
theorem dispatcherEnded_link {listener : ListenerTask} (hended : listener.dispatcher = .ended) :
    s.Matched { s with listener } id := by
  refine .inr ⟨.cut (s.held id).length, ?_⟩
  simp [rportLinkStep, Rport.link, Rport.held, Rport.queued, Rport.coming, Rport.isOpen, Rport.alive, hended]

/-- The loss of the entry cuts it after the listener's queue. -/
theorem unlisted_link {listener : ListenerTask} (hdispatcher : listener.dispatcher = s.listener.dispatcher)
    (hrx : listener.rx.filterMap (ListenerMsg.lead? id) = s.listener.rx.filterMap (ListenerMsg.lead? id)) :
    s.Matched { s with registration := .gone, listener } id := by
  refine .inr ⟨.cut (s.held id ++ s.queued id).length, ?_⟩
  simp only [rportLinkStep, Rport.link, List.take_left]
  simp [Rport.held, Rport.queued, Rport.coming, Rport.isOpen, Rport.alive, hrx, hdispatcher]

/-- Taking the sender out of `conns` cuts it after the connection's own queue. -/
theorem unregistered_link (hphase : (s.conns id).phase ≠ .idle)
    (hconn : s'.conns id = { s.conns id with socket := (s.conns id).socket.unregister })
    (hheld : s'.held id = s.held id) (hbridges : s'.bridges = s.bridges) (hhost : s'.host = s.host)
    (htoHost : s'.toHost = s.toHost) : s.Matched s' id := by
  have hdead : s'.alive id = false := by
    simp [Rport.alive, hconn, RportConn.awaited, Endpoint.unregister, hphase]
  obtain ⟨hqueued, hcoming⟩ := Rport.pipe_of_dead hdead
  refine .inr ⟨.unregister (s.held id).length, ?_⟩
  simp [rportLinkStep, Rport.link, hqueued, hcoming, hconn, hheld, hbridges, hhost, htoHost, Rport.isOpen,
    hdead]

/-- What the listener's queue holds is of no interest to a connection it is not passed on to. -/
theorem dead_link (hdead : s.alive id = false) {listener : ListenerTask}
    (hdispatcher : listener.dispatcher = s.listener.dispatcher) :
    Rport.link { s with listener } id = s.link id := by
  have hdead' : Rport.alive { s with listener } id = false := by
    rw [← hdead]
    simp only [Rport.alive, hdispatcher]
  obtain ⟨hqueued, hcoming⟩ := Rport.pipe_of_dead hdead
  obtain ⟨hqueued', hcoming'⟩ := Rport.pipe_of_dead hdead'
  simp only [Rport.link, Rport.isOpen, hqueued, hcoming, hqueued', hcoming', hdead, hdead', Bool.false_and]
  rfl

/-- Nor is what it holds for others. -/
theorem foreign_link {m : ListenerMsg} {listener : ListenerTask}
    (hrx : s.listener.rx = m :: listener.rx) (hlead : m.lead? id = none)
    (hdispatcher : listener.dispatcher = s.listener.dispatcher) :
    Rport.link { s with listener } id = s.link id :=
  Rport.link_congr rfl (by rw [hdispatcher]) rfl rfl rfl rfl (by simp [hrx, hlead]) rfl rfl

/-- What is taken from it before there is a connection is lost. -/
theorem lost_link (hidle : (s.conns id).phase = .idle) (hinbox : s.inbox id = []) {m : ListenerMsg}
    {listener : ListenerTask} (hrx : s.listener.rx = m :: listener.rx)
    (hdispatcher : listener.dispatcher = s.listener.dispatcher) : s.Matched { s with listener } id := by
  cases hlead : m.lead? id with
  | none => exact .inl (foreign_link hrx hlead hdispatcher)
  | some lead =>
    by_cases halive : s.alive id = true
    · refine .inr ⟨.lose, ?_⟩
      have halive' : Rport.alive { s with listener } id = true := by
        rw [← halive]
        simp only [Rport.alive, hdispatcher]
      simp [rportLinkStep, Rport.link, hidle, Rport.held, hinbox, Rport.queued, halive, halive', hrx, hlead,
        Rport.coming, Rport.isOpen]
    · exact .inl (dead_link (by simpa using halive) hdispatcher)

/-! The daemon. -/

variable {maps : SessionMaps} {job : RportJob} {listenerId : UInt32} {remoteSpec localSpec : String}

/-- A message moves from the session to the listener's queue. -/
theorem routed_link {msg : TaskMessage} {toDaemon : List TaskMessage}
    (hlisted : s.registration = .listed) (htoDaemon : s.toDaemon = msg :: toDaemon) {m : RportMsg}
    (hm : decodeForwardTask true msg = .toListener m) :
    Rport.link { s with toDaemon, listener := s.listener.push (.msg m) } id = s.link id := by
  have hlead : daemonLead? id msg = m.lead? id := by simp only [daemonLead?, hm]
  have halive : Rport.alive { s with toDaemon, listener := s.listener.push (.msg m) } id = s.alive id := rfl
  have hmoved : (s.listener.rx ++ [ListenerMsg.msg m]).filterMap (ListenerMsg.lead? id) ++
      toDaemon.filterMap (daemonLead? id) =
      s.listener.rx.filterMap (ListenerMsg.lead? id) ++ s.toDaemon.filterMap (daemonLead? id) := by
    rw [htoDaemon, List.filterMap_append, List.append_assoc]
    cases hmsg : m.lead? id <;> simp [ListenerMsg.lead?, hmsg, hlead]
  unfold Rport.link Rport.queued Rport.coming Rport.isOpen
  rw [halive]
  cases s.alive id with
  | false => rfl
  | true =>
    simp only [hlisted, List.append_assoc]
    exact congrArg (fun leads => RportLink.mk _ (s.held id ++ leads) _ _ _ _) hmoved

theorem rport_take_link
    (h : rportStep maps job listenerId remoteSpec localSpec s .take = some s') :
    s'.link id = s.link id := by
  simp only [rportStep] at h
  split at h
  · rename_i msg toDaemon htoDaemon
    obtain ⟨hpending, h⟩ := Option.ite_none_left_eq_some.mp h
    by_cases hlisted : s.registration = .listed
    · split at h
      · rename_i m hm
        cases h
        exact routed_link hlisted htoDaemon (by simpa [hlisted] using hm)
      · rename_i hm
        cases h
        have hlead : daemonLead? id msg = none := by
          simp only [hlisted, beq_self_eq_true] at hm
          unfold daemonLead?
          split
          · rename_i m hm'
            exact absurd hm' (hm m)
          · rfl
        exact Rport.link_congr rfl rfl rfl rfl rfl rfl rfl (by simp [htoDaemon, hlead]) rfl
    · have hgone : s.registration = .gone := by
        cases hr : s.registration <;> simp_all
      split at h
      · rename_i m hm
        simp only [hgone] at hm
        exact absurd hm (decodeForwardTask_unrouted msg m)
      · cases h
        simp [Rport.link, Rport.held, Rport.queued, Rport.coming, Rport.isOpen, Rport.alive, hgone]
  · cases h

/-- What the connections do not change. -/
structure Rport.Frame (s s' : Rport) : Prop where
  registration : s'.registration = s.registration
  listener : s'.listener = s.listener
  toDaemon : s'.toDaemon = s.toDaemon
  host : s'.host = s.host
  bridges : s'.bridges = s.bridges

/-- A step of the connection, which takes the front of its own queue or leaves it. -/
theorem conn_link (hframe : s.Frame s') {act : RportConnAct} {out : Option DaemonItem}
    (hconn : rportConnStep (s.conns id) act = some (s'.conns id, out))
    (hheld : s.held id = act.takes.toList ++ s'.held id)
    (htoHost : s'.toHost.filterMap (rportItem? id) = s.toHost.filterMap (rportItem? id) ++ out.toList) :
    s.Matched s' id := by
  refine .inr ⟨.conn act (s.held id).length, ?_⟩
  cases hcuts : act.cuts with
  | true =>
    have htakes : act.takes = none := by
      cases act <;> first | rfl | cases hcuts
    have hdead : s'.alive id = false := by simp [Rport.alive, rportConnStep_cuts hconn hcuts]
    obtain ⟨hqueued, hcoming⟩ := Rport.pipe_of_dead hdead
    rw [htakes] at hheld
    rw [rportLinkStep_cuts hconn htakes hcuts]
    simp [Rport.link, Rport.isOpen, hdead, hqueued, hcoming, hheld, htoHost, hframe.host, hframe.bridges]
  | false =>
    have halive : s'.alive id = s.alive id := by
      simp only [Rport.alive, hframe.listener, rportConnStep_awaited hconn hcuts]
    have hqueued : s'.queued id = s.queued id := by
      unfold Rport.queued
      rw [halive, hframe.listener]
    have hopen : s'.isOpen id = s.isOpen id := by simp only [Rport.isOpen, halive, hframe.registration]
    have hcoming : s'.coming id = s.coming id := by
      unfold Rport.coming
      rw [hopen, hframe.toDaemon]
    cases htakes : act.takes with
    | none =>
      rw [htakes] at hheld
      rw [rportLinkStep_quiet hconn htakes hcuts]
      simp [Rport.link, hopen, hqueued, hcoming, hheld, htoHost, hframe.host, hframe.bridges]
    | some lead =>
      have hpipe : (s.link id).pipe = lead :: (s'.held id ++ s.queued id ++ s.coming id) := by
        simp [Rport.link, hheld, htakes]
      rw [rportLinkStep_takes hconn htakes hpipe]
      simp [Rport.link, hopen, hqueued, hcoming, htoHost, hframe.host, hframe.bridges]

theorem rport_accept_link {i : UInt32}
    (h : rportStep maps job listenerId remoteSpec localSpec s (.accept i) = some s') :
    s.Matched s' id := by
  obtain ⟨-, heq⟩ := Option.ite_none_right_eq_some.mp h
  obtain ⟨⟨conn, out⟩, hconn, heq⟩ := Option.map_eq_some_iff.mp heq
  cases heq
  by_cases hi : i = id
  · subst hi
    have hout : out = none := by
      obtain ⟨-, hout⟩ := Option.ite_none_right_eq_some.mp hconn
      cases hout
      rfl
    exact conn_link ⟨rfl, rfl, rfl, rfl, rfl⟩ (by simpa using hconn) rfl (by simp [hout])
  · have hother := Function.update_of_ne (Ne.symm hi) conn s.conns
    exact .inl (Rport.link_congr rfl rfl hother rfl rfl rfl rfl rfl rfl)

theorem rport_conn_link {i : UInt32} {act : RportConnAct}
    (h : rportStep maps job listenerId remoteSpec localSpec s (.conn i act) = some s') :
    s.Matched s' id := by
  obtain ⟨hown, heq⟩ := Option.ite_none_right_eq_some.mp h
  obtain ⟨⟨conn, out⟩, hconn, heq⟩ := Option.map_eq_some_iff.mp heq
  cases heq
  by_cases hi : i = id
  · subst hi
    have htakes : act.takes = none := by
      cases act <;> first | rfl | cases hown
    refine conn_link ⟨rfl, rfl, rfl, rfl, rfl⟩ (by simpa using hconn) (by rw [htakes]; rfl) ?_
    cases out <;> simp [rportItem?_rportMessage]
  · left
    refine Rport.link_congr rfl rfl (Function.update_of_ne (Ne.symm hi) _ _) rfl rfl rfl rfl rfl ?_
    cases out <;> simp [rportItem?_rportMessage, hi]

/-- What is received is what the reaction to it takes. -/
theorem reaction_takes (c : RportConn) (queue : List RportConnMsg) :
    queue.filterMap RportConnMsg.lead? =
      (c.reaction queue.head?).takes.toList ++ queue.tail.filterMap RportConnMsg.lead? := by
  cases queue with
  | nil => by_cases hc : c.phase = .waiting <;> simp [RportConn.reaction, RportConnAct.takes, hc]
  | cons msg queue =>
    cases msg <;> by_cases hc : c.phase = .waiting <;>
      simp [RportConn.reaction, RportConnAct.takes, RportConnMsg.lead?, hc, List.filterMap_cons]

theorem rport_receive_link {i : UInt32}
    (h : rportStep maps job listenerId remoteSpec localSpec s (.receive i) = some s') :
    s.Matched s' id := by
  obtain ⟨-, heq⟩ := Option.ite_none_left_eq_some.mp h
  obtain ⟨⟨conn, out⟩, hconn, heq⟩ := Option.map_eq_some_iff.mp heq
  cases heq
  by_cases hi : i = id
  · subst hi
    have hout : out = none := rportConnStep_reaction hconn
    refine conn_link ⟨rfl, rfl, rfl, rfl, rfl⟩ (by simpa using hconn) ?_ (by simp [hout])
    simp only [Rport.held, Function.update_self]
    exact reaction_takes (s.conns i) (s.inbox i)
  · exact .inl (Rport.link_congr rfl rfl (Function.update_of_ne (Ne.symm hi) _ _)
      (Function.update_of_ne (Ne.symm hi) _ _) rfl rfl rfl rfl rfl)

theorem shutdownConns_link (hok : RportOk s) : s.Matched (s.onEffect .shutdownConns) id := by
  by_cases hregistered : (s.conns id).socket.registered = true
  · refine unregistered_link ?_ rfl ?_ rfl rfl rfl
    · intro hidle
      simp [(hok.idle id hidle).2] at hregistered
    · simp [Rport.held, Rport.onEffect, hregistered, RportConnMsg.lead?]
  · left
    have hsame : (s.conns id).socket.unregister = (s.conns id).socket := by
      simp only [Endpoint.unregister]
      rw [← (by simpa using hregistered : (s.conns id).socket.registered = false)]
    exact Rport.link_congr rfl rfl (by simp [Rport.onEffect, hsame])
      (by simp [Rport.onEffect, hregistered]) rfl rfl rfl rfl rfl

/-- The dispatcher passes a message on. -/
theorem feed_link (hok : RportOk s) (hrunning : s.listener.dispatcher = .running) {m : ListenerMsg}
    {listener : ListenerTask} (hrx : s.listener.rx = m :: listener.rx)
    (hdispatcher : listener.dispatcher = s.listener.dispatcher) {i : UInt32} {msg : RportConnMsg}
    {lead : Option (List UInt8)} (hlead : m.lead? id = if i = id then some lead else none)
    (hmsg : msg.lead? = some lead) : s.Matched (Rport.feed { s with listener } i msg) id := by
  unfold Rport.feed
  by_cases hi : i = id
  · subst hi
    rw [if_pos rfl] at hlead
    by_cases hregistered : (s.conns i).socket.registered = true
    · rw [if_pos hregistered]
      left
      have halive : s.alive i = true := by simp [Rport.alive, hrunning, RportConn.awaited, hregistered]
      simp_all [Rport.link, Rport.held, Rport.queued, Rport.coming, Rport.isOpen, Rport.alive]
    · rw [if_neg hregistered]
      by_cases hidle : (s.conns i).phase = .idle
      · exact lost_link hidle (hok.idle i hidle).1 hrx hdispatcher
      · refine .inl (dead_link ?_ hdispatcher)
        simp [Rport.alive, RportConn.awaited, hregistered, hidle]
  · rw [if_neg hi] at hlead
    left
    have hforeign := foreign_link hrx hlead hdispatcher
    split
    · rw [← hforeign]
      exact Rport.link_congr rfl rfl rfl (Function.update_of_ne (Ne.symm hi) _ _) rfl rfl rfl rfl rfl
    · exact hforeign

theorem freeContext_link (hok : RportOk s) {i : UInt32} {listener : ListenerTask}
    (hrx : s.listener.rx = .msg (.freeContext i) :: listener.rx)
    (hdispatcher : listener.dispatcher = s.listener.dispatcher) :
    s.Matched (Rport.unregister { s with listener } i) id := by
  have hforeign : Rport.link { s with listener } id = s.link id := foreign_link hrx rfl hdispatcher
  by_cases hi : i = id
  · subst hi
    by_cases hidle : (s.conns i).phase = .idle
    · left
      have hsame : (s.conns i).socket.unregister = (s.conns i).socket := by
        simp only [Endpoint.unregister]
        rw [← (hok.idle i hidle).2]
      rw [← hforeign]
      simp [Rport.unregister, hsame]
    · exact unregistered_link hidle (by simp [Rport.unregister]) rfl rfl rfl rfl
  · left
    rw [← hforeign]
    exact Rport.link_congr rfl rfl (Function.update_of_ne (Ne.symm hi) _ _) rfl rfl rfl rfl rfl rfl

theorem pass_link (hok : RportOk s) (hrunning : s.listener.dispatcher = .running) {m : RportMsg}
    {listener : ListenerTask} (hrx : s.listener.rx = .msg m :: listener.rx)
    (hdispatcher : listener.dispatcher = s.listener.dispatcher) :
    s.Matched (Rport.pass { s with listener } m) id := by
  cases m with
  | checkResult ctxId ok => exact .inl (foreign_link hrx rfl hdispatcher)
  | activeMaster i => exact feed_link hok hrunning hrx hdispatcher rfl rfl
  | data i bytes => exact feed_link hok hrunning hrx hdispatcher rfl rfl
  | freeContext i => exact freeContext_link hok hrx hdispatcher

/-- A step of the listener that a connection does not notice. -/
theorem phase_link (phase : ListenerPhase) :
    Rport.link { s with listener := { s.listener with phase } } id = s.link id :=
  Rport.link_congr rfl rfl rfl rfl rfl rfl rfl rfl rfl

theorem rport_listener_link (hok : RportOk s) {act : ListenerAct}
    (h : rportStep maps job listenerId remoteSpec localSpec s (.listener act) = some s') :
    s.Matched s' id := by
  obtain ⟨⟨listener, effect⟩, hlistener, heq⟩ := Option.map_eq_some_iff.mp h
  cases heq
  cases act with
  | ask ok =>
    obtain ⟨-, heq⟩ := Option.ite_none_right_eq_some.mp hlistener
    cases ok <;> cases heq
    · exact .inl (phase_link .cleaning)
    · exact .inl (Rport.link_congr rfl rfl rfl rfl rfl rfl rfl rfl (by simp [Rport.onEffect, rportItem?_check]))
  | await =>
    obtain ⟨hwaiting, heq⟩ := Option.ite_none_right_eq_some.mp hlistener
    split at heq
    · rename_i m rx hrx
      cases heq
      have hidle := (hok.early (.inr (.inl hwaiting))).2 id
      exact lost_link hidle (hok.idle id hidle).1 hrx rfl
    · obtain ⟨-, heq⟩ := Option.ite_none_left_eq_some.mp heq
      cases heq
      exact .inl (phase_link .cleaning)
  | confirm ok =>
    obtain ⟨hconfirming, heq⟩ := Option.ite_none_right_eq_some.mp hlistener
    have hspawn := (hok.early (.inr (.inr hconfirming))).1
    have hsuccess : rportItem? id (daemonForwardSuccess job.channelId remoteSpec localSpec) = none := rfl
    cases ok <;> cases heq
    · exact .inl (Rport.link_congr rfl (by rw [hspawn]; rfl) rfl rfl rfl rfl rfl rfl rfl)
    · exact .inl (Rport.link_congr rfl (by rw [hspawn]; rfl) rfl rfl rfl rfl rfl rfl
        (by simp [Rport.onEffect, hsuccess]))
  | acceptFail =>
    obtain ⟨-, heq⟩ := Option.ite_none_right_eq_some.mp hlistener
    cases heq
    exact .inl (phase_link .draining)
  | dispatcherEnds =>
    obtain ⟨-, heq⟩ := Option.ite_none_right_eq_some.mp hlistener
    cases heq
    exact .inl (phase_link .draining)
  | drain =>
    obtain ⟨-, heq⟩ := Option.ite_none_right_eq_some.mp hlistener
    cases heq
    -- a connection does not see the phase of its listener
    have hmatched : s.Matched (s.onEffect .shutdownConns) id := shutdownConns_link hok
    exact hmatched
  | stopDispatcher =>
    obtain ⟨-, heq⟩ := Option.ite_none_right_eq_some.mp hlistener
    cases heq
    exact dispatcherEnded_link rfl
  | cleanup =>
    obtain ⟨-, heq⟩ := Option.ite_none_right_eq_some.mp hlistener
    cases heq
    simp only [Rport.onEffect]
    split
    · exact unlisted_link rfl rfl
    · exact .inl (phase_link .ended)
  | aborted =>
    obtain ⟨-, heq⟩ := Option.ite_none_right_eq_some.mp hlistener
    cases heq
    exact .inl (phase_link .ended)
  | dispatch =>
    obtain ⟨hrunning, heq⟩ := Option.ite_none_right_eq_some.mp hlistener
    split at heq
    · cases heq
      exact dispatcherEnded_link rfl
    · rename_i m rx hrx
      cases heq
      exact pass_link hok hrunning hrx rfl
    · obtain ⟨-, heq⟩ := Option.ite_none_left_eq_some.mp heq
      cases heq
      exact dispatcherEnded_link rfl

/-! The host. -/

/-- A message that is not for the connection. -/
theorem popped_link {task : TaskMessage} {toHost : List TaskMessage} (htoHost : s.toHost = task :: toHost)
    (hitem : rportItem? id task = none) : Rport.link { s with toHost } id = s.link id :=
  Rport.link_congr rfl rfl rfl rfl rfl rfl rfl rfl (by simp [htoHost, hitem])

/-- One that finds no dispatcher. -/
theorem missed_link {task : TaskMessage} {toHost : List TaskMessage} (htoHost : s.toHost = task :: toHost)
    (hmiss : s.host = .ended ∨ (s.bridges id).phase = .idle) : s.Matched { s with toHost } id := by
  cases hitem : rportItem? id task with
  | none => exact .inl (popped_link htoHost hitem)
  | some item =>
    refine .inr ⟨.miss, ?_⟩
    have hhead : (s.link id).toHost = item :: toHost.filterMap (rportItem? id) := by
      simp [Rport.link, htoHost, hitem]
    have hmiss' : (s.link id).hosting = false ∨ (s.link id).bridge.phase = .idle :=
      hmiss.imp_left (fun hended => by simp [Rport.link, hended])
    simp only [rportLinkStep, hhead, if_pos hmiss']
    rfl

/-- One that the dispatcher takes. -/
theorem dispatched_link {task : TaskMessage} {toHost : List TaskMessage}
    (htoHost : s.toHost = task :: toHost) (hhost : s.host = .dispatching) {i : UInt32} {item : DaemonItem}
    (hitem : rportItem? id task = if i = id then some item else none) (isPort : Bool) :
    s.Matched (Rport.setBridge { s with toHost } i ((s.link i).dispatchItem isPort item)) id := by
  by_cases hi : i = id
  · subst hi
    rw [if_pos rfl] at hitem
    refine .inr ⟨.dispatch isPort, ?_⟩
    have hhead : (s.link i).toHost = item :: toHost.filterMap (rportItem? i) := by
      simp [Rport.link, htoHost, hitem]
    have hhosting : (s.link i).hosting = true := by simp [Rport.link, hhost]
    simp only [rportLinkStep, hhead, if_pos hhosting]
    simp only [Rport.link, Rport.setBridge, Function.update_self]
    rfl
  · rw [if_neg hi] at hitem
    left
    rw [← popped_link htoHost hitem]
    exact Rport.link_congr rfl rfl rfl rfl rfl (Function.update_of_ne (Ne.symm hi) _ _) rfl rfl rfl

theorem replyCheck_link (channelId forwardId : UInt32) (spec : String) (reachable : Bool) :
    (s.replyCheck channelId forwardId spec reachable).link id = s.link id :=
  Rport.link_congr rfl rfl rfl rfl rfl rfl rfl
    (by simp [Rport.replyCheck, daemonLead?_checkResult]) rfl

theorem hostEnds_link : s.Matched { s with host := .ended } id := .inr ⟨.hostEnds, rfl⟩

/-- Nor does a connection see where the set-up stands, unless it ends. -/
theorem rport_phase_link {host : RportHostPhase} (hlive : s.host ≠ .ended) : s.Matched { s with host } id := by
  by_cases hhost : host = .ended
  · rw [hhost]
    exact hostEnds_link
  · left
    simp only [Rport.link, bne_iff_ne.mpr hlive, bne_iff_ne.mpr hhost]
    rfl

theorem daemonLead?_init (job : RportJob) : daemonLead? id job.initMsg = none := rfl

/-- What the set-up sends is for the listener itself. -/
theorem setup_sent {phase phase' : RportSetupPhase} {act : ServerAct RportSetupAct} {sent : List TaskMessage}
    (h : (rportSetup job).deliver maps phase act = some (phase', sent)) :
    sent.filterMap (daemonLead? id) = [] := by
  obtain ⟨_, _, -, -, rfl⟩ | ⟨_, p, -, hp, -, -, rfl⟩ | ⟨_, _, _, -, -, -, -, rfl⟩ := ServerHandler.deliver_cases h
  · rfl
  · have hmsg : daemonLead? id p.msg = none := by
      cases phase <;> cases hp
      · exact daemonLead?_init job
      · exact daemonLead?_checkResult _ _ _ _
    simp [hmsg]
  · rfl

theorem rport_setup_link {act : ServerAct RportSetupAct}
    (h : rportStep maps job listenerId remoteSpec localSpec s (.setup act) = some s') :
    s.Matched s' id := by
  obtain ⟨-, heq⟩ := Option.ite_none_left_eq_some.mp h
  split at heq
  · rename_i phase hsetup
    obtain ⟨⟨phase', sent⟩, hdeliver, heq⟩ := Option.map_eq_some_iff.mp heq
    cases heq
    have hsent : (s.toDaemon ++ sent).filterMap (daemonLead? id) = s.toDaemon.filterMap (daemonLead? id) := by
      rw [List.filterMap_append, setup_sent hdeliver, List.append_nil]
    have hlink : Rport.link { s with toDaemon := s.toDaemon ++ sent } id = s.link id :=
      Rport.link_congr rfl rfl rfl rfl rfl rfl rfl hsent rfl
    have hmatched : Rport.Matched { s with toDaemon := s.toDaemon ++ sent }
        { s with toDaemon := s.toDaemon ++ sent, host := phase'.host } id :=
      rport_phase_link (by simp [hsetup])
    rwa [Rport.Matched, hlink] at hmatched
  · cases heq

/-- The messages of the set-up are not for a connection. -/
theorem onRportTask_link (hok : RportOk s) {phase : RportSetupPhase} (hsetup : s.host = .setup phase)
    (reachable : Bool) {task : TaskMessage} {toHost : List TaskMessage} (htoHost : s.toHost = task :: toHost) :
    s.Matched { s with toHost, host := .setup (onRportTask task reachable) } id := by
  have hlink : Rport.link { s with toHost, host := .setup (onRportTask task reachable) } id =
      Rport.link { s with toHost } id := by
    simp only [Rport.link, hsetup]
    rfl
  rw [Rport.Matched, hlink]
  exact missed_link htoHost (.inr (hok.setup phase hsetup id))

theorem onDispatcherTask_link (hhost : s.host = .dispatching) (channelId : UInt32) (reachable : Bool)
    {task : TaskMessage} {toHost : List TaskMessage} (htoHost : s.toHost = task :: toHost) :
    s.Matched (Rport.onDispatcherTask channelId { s with toHost } reachable (readRportTask task)) id := by
  cases hread : readRportTask task with
  | check forwardId spec =>
    have hitem : rportItem? id task = none := by simp only [rportItem?, hread]
    refine .inl ((replyCheck_link channelId forwardId spec reachable).trans (popped_link htoHost hitem))
  | activeSlave i spec =>
    have hitem : rportItem? id task = if i = id then some .activeSlave else none := by
      simp only [rportItem?, hread]
    exact dispatched_link htoHost hhost hitem (parseForwardPort spec).isOk
  | data i bytes =>
    have hitem : rportItem? id task = if i = id then some (.data bytes) else none := by
      simp only [rportItem?, hread]
    exact dispatched_link htoHost hhost hitem false
  | freeContext i =>
    have hitem : rportItem? id task = if i = id then some .freeContext else none := by
      simp only [rportItem?, hread]
    exact dispatched_link htoHost hhost hitem false
  | _ =>
    have hitem : rportItem? id task = none := by simp only [rportItem?, hread]
    exact .inl (popped_link htoHost hitem)

theorem rport_host_link (hok : RportOk s) {reachable : Bool}
    (h : rportStep maps job listenerId remoteSpec localSpec s (.host reachable) = some s') :
    s.Matched s' id := by
  simp only [rportStep] at h
  split at h
  · rename_i task toHost htoHost
    unfold Rport.onHostTask at h
    split at h
    · rename_i hhost
      cases h
      exact onRportTask_link (s := s) hok hhost reachable htoHost
    · cases h
    · rename_i hhost
      cases h
      exact onDispatcherTask_link (s := s) hhost job.channelId reachable htoHost
    · rename_i hhost
      cases h
      exact missed_link htoHost (.inl hhost)
  · cases h

theorem rport_bridge_link {i : UInt32} {act : RportBridgeAct}
    (h : rportStep maps job listenerId remoteSpec localSpec s (.bridge i act) = some s') :
    s.Matched s' id := by
  obtain ⟨⟨bridge, out⟩, hbridge, heq⟩ := Option.map_eq_some_iff.mp h
  cases heq
  have htoDaemon : (s.toDaemon ++ (out.map (RportItem.message job.channelId i)).toList).filterMap
      (daemonLead? id) = s.toDaemon.filterMap (daemonLead? id) ++
        if i = id then (out.bind RportItem.lead?).toList else [] := by
    cases out with
    | none => simp
    | some item => by_cases hi : i = id <;> cases hlead : item.lead? <;> simp [daemonLead?_message, hi, hlead]
  by_cases hi : i = id
  · subst hi
    rw [if_pos rfl] at htoDaemon
    refine .inr ⟨.bridge act, ?_⟩
    have hstep : rportBridgeStep (s.link i).bridge act = some (bridge, out) := hbridge
    simp only [rportLinkStep, hstep, Option.map_some]
    cases hopen : s.isOpen i with
    | false =>
      have hopen' : Rport.isOpen { s with
        bridges := Function.update s.bridges i bridge
        toDaemon := s.toDaemon ++ (out.map (RportItem.message job.channelId i)).toList } i = false := hopen
      simp [Rport.link, Rport.held, Rport.queued, Rport.coming, hopen, hopen', Rport.alive]
    | true =>
      have hopen' : Rport.isOpen { s with
        bridges := Function.update s.bridges i bridge
        toDaemon := s.toDaemon ++ (out.map (RportItem.message job.channelId i)).toList } i = true := hopen
      simp [Rport.link, Rport.held, Rport.queued, Rport.coming, hopen, hopen', Rport.alive, htoDaemon]
  · rw [if_neg hi, List.append_nil] at htoDaemon
    exact .inl (Rport.link_congr rfl rfl rfl rfl rfl (Function.update_of_ne (Ne.symm hi) _ _) rfl htoDaemon rfl)

/-! Every step. -/

theorem rportStep_link (hok : RportOk s) {act : RportAct}
    (h : rportStep maps job listenerId remoteSpec localSpec s act = some s') : s.Matched s' id := by
  cases act with
  | insert =>
    obtain ⟨hpending, heq⟩ := Option.ite_none_right_eq_some.mp h
    cases heq
    exact .inl (Rport.link_congr (by rw [hpending]; rfl) rfl rfl rfl rfl rfl rfl rfl rfl)
  | unlist =>
    obtain ⟨-, heq⟩ := Option.ite_none_right_eq_some.mp h
    cases heq
    exact unlisted_link rfl rfl
  | close =>
    obtain ⟨-, heq⟩ := Option.ite_none_right_eq_some.mp h
    cases heq
    exact unlisted_link rfl (by simp [ListenerTask.close, ListenerMsg.lead?])
  | take => exact .inl (rport_take_link h)
  | listener act => exact rport_listener_link hok h
  | accept i => exact rport_accept_link h
  | conn i act => exact rport_conn_link h
  | receive i => exact rport_receive_link h
  | host reachable => exact rport_host_link hok h
  | setup act => exact rport_setup_link h
  | hostEnds =>
    cases h
    exact hostEnds_link
  | bridge i act => exact rport_bridge_link h

end

/-- Each connection of a reverse forward runs as it would alone. -/
theorem Rport.link_reaches {maps : SessionMaps} {job : RportJob} {listenerId : UInt32}
    {remoteSpec localSpec : String} {s : Rport}
    (h : Reaches (rportStep maps job listenerId remoteSpec localSpec) anyStep .init s) (id : UInt32) :
    Reaches rportLinkStep anyStep .init (s.link id) := by
  have hok := h.with_invariant (fun hok _ hst => RportOk.step hok hst) .init
  refine hok.map (Rport.link · id) fun hok hst => ?_
  exact (rportStep_link hok.1 hst).imp_right fun ⟨act, hact⟩ => ⟨act, trivial, hact⟩

/-- The bytes written on either side of a connection are a prefix of those read on the other. -/
def Rport.Faithful (s : Rport) (id : UInt32) : Prop :=
  (s.bridges id).socket.written <+: (s.conns id).socket.read ∧
    (s.conns id).socket.written <+: (s.bridges id).socket.read

instance Rport.decidableFaithful (s : Rport) (id : UInt32) : Decidable (s.Faithful id) := inferInstanceAs (Decidable (_ ∧ _))

/-- In every run of a reverse forward, at every moment and for every connection, what is
written on one side is what has been read on the other, from its start. -/
theorem rport_faithful (maps : SessionMaps) (job : RportJob) (listenerId : UInt32)
    (remoteSpec localSpec : String) {s : Rport}
    (h : Reaches (rportStep maps job listenerId remoteSpec localSpec) anyStep .init s) (id : UInt32) :
    s.Faithful id := by
  have hinv := RportInv.of_reaches (Rport.link_reaches h id)
  exact ⟨hinv.up.written, hinv.down.written⟩

/-- The check is answered, a connection is opened, and both its ends send; the host has read
two of its three bytes, of which one has been written. -/
def exampleRport : Option Rport :=
  run (rportStep ⟨[9], []⟩ ⟨9, 1, "tcp:8080", "tcp:18080"⟩ 5 "tcp:8080" "tcp:18080") anyStep .init
    ([.insert, .listener (.ask true), .host true, .setup (.send (.ok ())), .take, .listener .await,
      .listener (.confirm true), .host true, .setup (.own (.tell (.ok ()))),
      .accept 7, .conn 7 .activate, .host true, .bridge 7 (.connect true),
      .bridge 7 .activate, .take, .listener .dispatch, .receive 7, .bridge 7 .spawn,
      .bridge 7 (.copy (.peerSends [1, 2, 3])), .bridge 7 (.copy (.read 2)), .bridge 7 (.copy .send), .take,
      .listener .dispatch, .receive 7,
      .conn 7 (.copy (.write 1)), .conn 7 (.copy (.peerSends [5, 6])), .conn 7 (.copy (.read 2)),
      .conn 7 (.copy .send), .host true, .bridge 7 (.copy .receive), .bridge 7 (.copy (.write 2))])

theorem exampleRport_isSome : exampleRport.isSome = true := by decide

theorem rport_faithful_pair :
    ((exampleRport.get exampleRport_isSome).bridges 7).socket.written = [5, 6] ∧
    ((exampleRport.get exampleRport_isSome).conns 7).socket.written = [1] ∧
    (exampleRport.get exampleRport_isSome).Faithful 7 :=
  ⟨by decide, by decide, rport_faithful ⟨[9], []⟩ ⟨9, 1, "tcp:8080", "tcp:18080"⟩ 5
    "tcp:8080" "tcp:18080" (.of_run (Option.some_get (x := exampleRport) exampleRport_isSome).symm) 7⟩

end Hdc
