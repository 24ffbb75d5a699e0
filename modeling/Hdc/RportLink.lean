import Hdc.ForwardCopy
import Hdc.ForwardLink
import Hdc.Lts
import Mathlib.Data.List.ReduceOption

/- One connection of a reverse port forward, on its own: the daemon's task for it
   (`run_rport_connection` in `hdcd/src/forward.rs`) and the host's bridge
   (`run_rport_bridge` in `hdc/src/server.rs`).

   What the host sends to the connection passes three queues: the session, the listener's
   and the connection's own. Here they are one `pipe`, which is open as long as all that
   passes messages on is in place; once one of them is gone the pipe is cut, for good.
   `Hdc.Rport` has the queues and any number of connections, and `Hdc.RportFaithful` looks at
   each of them as a `RportLink`.

   Unlike a port forward (`Hdc.ForwardLink`) this needs no condition on the schedule. The
   host's reader is spawned after `ForwardActiveMaster` has been sent, so what it sends
   stands behind it in the pipe; and the daemon's reader is spawned when that message has
   arrived, so what it sends finds the host's entry in place. -/
namespace Hdc
open Lts

/-! The daemon's task. -/

/-- Where `run_rport_connection` stands; `idle` is before the connection is accepted. -/
inductive RportConnPhase where
  | idle
  /-- The sender is in `conns`, and `ForwardActiveSlave` is to be sent. -/
  | activating
  /-- Waiting for `ForwardActiveMaster`. -/
  | waiting
  /-- The two tasks are spawned. -/
  | bridging
  /-- The connection is over, and `ForwardFreeContext` is to be sent. -/
  | freeing
  | closed
  deriving DecidableEq, Repr

/-- `socket.registered` is whether `conns` has the sender. Its queue is not used: what the
connection receives is more than data. -/
structure RportConn where
  phase : RportConnPhase
  socket : Endpoint
  deriving DecidableEq, Repr

def RportConn.fresh : RportConn := ⟨.idle, .fresh⟩

inductive RportConnAct where
  | accept
  | activate
  | activateFail
  /-- `ForwardActiveMaster` is received. -/
  | activated
  /-- `Shutdown` or the end of the queue is received, or the time is up. -/
  | giveUp
  /-- The writer receives data. -/
  | take (data : List UInt8)
  /-- The writer receives `Shutdown` or the end of the queue. -/
  | stop
  /-- Data is received while `ForwardActiveMaster` is awaited, or the latter by the writer. -/
  | skip (lead : Option (List UInt8))
  | copy (act : CopyAct)
  | join
  | free
  deriving DecidableEq, Repr

/-- The returns before the tasks are spawned: the sender is removed and the receiver
dropped. -/
def RportConn.leave (c : RportConn) (phase : RportConnPhase) : RportConn :=
  ⟨phase, { c.socket with registered := false, writer := .ended }⟩

def rportConnStep (c : RportConn) : RportConnAct → Option (RportConn × Option DaemonItem)
  | .accept =>
    if c.phase = .idle then
      some (⟨.activating, { c.socket with connected := true, registered := true }⟩, none)
    else none
  | .activate =>
    if c.phase = .activating then some ({ c with phase := .waiting }, some .activeSlave) else none
  | .activateFail => if c.phase = .activating then some (c.leave .closed, none) else none
  | .activated =>
    if c.phase = .waiting then
      some (⟨.bridging, { c.socket with reader := .reading, writer := .receiving }⟩, none)
    else none
  | .giveUp => if c.phase = .waiting then some (c.leave .freeing, none) else none
  | .take data =>
    if c.socket.writer = .receiving then
      some ({ c with socket := { c.socket with writer := .writing data } }, none)
    else none
  | .stop =>
    if c.socket.writer = .receiving then
      some ({ c with socket := { c.socket with writer := .ended } }, none)
    else none
  | .skip lead =>
    if c.phase = .waiting ∧ lead ≠ none ∨ c.socket.writer = .receiving ∧ lead = none then
      some (c, none)
    else none
  | .copy act =>
    if act = .receive then none
    else (copyStep false c.socket act).map fun (socket, out) => ({ c with socket }, out.map .data)
  | .join =>
    if c.phase = .bridging ∧ c.socket.reader = .over ∧ c.socket.writer = .ended then
      some (⟨.freeing, c.socket.unregister⟩, none)
    else none
  | .free => if c.phase = .freeing then some ({ c with phase := .closed }, some .freeContext) else none

/-! The host's bridge. -/

/-- Where `run_rport_bridge` stands; `idle` is before `ForwardActiveSlave` has arrived. -/
inductive RportBridgePhase where
  | idle
  | connecting
  /-- The local port does not answer, and `ForwardFreeContext` is to be sent. -/
  | refused
  /-- The sender is in `forward_conns`, and `ForwardActiveMaster` is to be sent. -/
  | activating
  | activated
  /-- The two tasks are spawned. -/
  | bridging
  | freeing
  | closed
  deriving DecidableEq, Repr

structure RportBridge where
  phase : RportBridgePhase
  socket : Endpoint
  deriving DecidableEq, Repr

def RportBridge.fresh : RportBridge := ⟨.idle, .fresh⟩

/-- What the bridge sends to the daemon. -/
inductive RportItem where
  | activeMaster
  | data (data : List UInt8)
  | freeContext
  deriving DecidableEq, Repr

inductive RportBridgeAct where
  | connect (ok : Bool)
  | refuse
  | activate
  | activateFail
  | spawn
  | copy (act : CopyAct)
  | join
  | free
  deriving DecidableEq, Repr

def rportBridgeStep (b : RportBridge) : RportBridgeAct → Option (RportBridge × Option RportItem)
  | .connect ok =>
    if b.phase = .connecting then
      some (if ok then ⟨.activating, { b.socket with connected := true, registered := true }⟩
        else { b with phase := .refused }, none)
    else none
  | .refuse =>
    if b.phase = .refused then some ({ b with phase := .closed }, some .freeContext) else none
  | .activate =>
    if b.phase = .activating then some ({ b with phase := .activated }, some .activeMaster) else none
  | .activateFail =>
    if b.phase = .activating then
      some (⟨.closed, { b.socket with registered := false, writer := .ended, queue := [] }⟩, none)
    else none
  | .spawn =>
    if b.phase = .activated then
      some (⟨.bridging, { b.socket with reader := .reading, writer := .receiving }⟩, none)
    else none
  | .copy act =>
    (copyStep false b.socket act).map fun (socket, out) => ({ b with socket }, out.map .data)
  | .join =>
    if b.phase = .bridging ∧ b.socket.reader = .over ∧ b.socket.writer = .ended then
      some (⟨.freeing, b.socket.unregister⟩, none)
    else none
  | .free => if b.phase = .freeing then some ({ b with phase := .closed }, some .freeContext) else none

/-! The connection. -/

/-- What the pipe carries: `ForwardActiveMaster`, or data. -/
def RportItem.lead? : RportItem → Option (Option (List UInt8))
  | .activeMaster => some none
  | .data bytes => some (some bytes)
  | .freeContext => none

/-- `hosting` is whether the host's dispatcher runs. -/
structure RportLink where
  conn : RportConn
  pipe : List (Option (List UInt8))
  isOpen : Bool
  bridge : RportBridge
  hosting : Bool
  toHost : List DaemonItem
  deriving DecidableEq, Repr

def RportLink.init : RportLink := ⟨.fresh, [], true, .fresh, true, []⟩

inductive RportLinkAct where
  /-- A step of the daemon's task, with what is left of the pipe if it cuts it. -/
  | conn (act : RportConnAct) (left : Nat)
  | bridge (act : RportBridgeAct)
  | cut (left : Nat)
  /-- Something else takes the sender out of `conns`. -/
  | unregister (left : Nat)
  /-- The front of the pipe gets lost before there is a connection. -/
  | lose
  /-- The host's dispatcher takes a message; `isPort` is whether the spec of a
  `ForwardActiveSlave` names a port. -/
  | dispatch (isPort : Bool)
  /-- A message gets lost where there is no dispatcher, or before there is a bridge. -/
  | miss
  | hostEnds
  deriving DecidableEq, Repr

/-- The steps that take the sender out of `conns`. -/
def RportConnAct.cuts : RportConnAct → Bool
  | .activateFail | .giveUp | .join => true
  | _ => false

/-- What a step of the daemon's task takes from the pipe. -/
def RportConnAct.takes : RportConnAct → Option (Option (List UInt8))
  | .activated => some none
  | .take bytes => some (some bytes)
  | .skip lead => some lead
  | _ => none

/-- `run_rport_bridge` begins by parsing its spec, and returns if it is no port. -/
def RportLink.dispatchItem (l : RportLink) (isPort : Bool) : DaemonItem → RportBridge
  | .activeSlave => ⟨if isPort then .connecting else .closed, .fresh⟩
  | .data data => { l.bridge with socket := l.bridge.socket.deliver data }
  | .freeContext => { l.bridge with socket := l.bridge.socket.unregister }

def rportLinkStep (l : RportLink) : RportLinkAct → Option RportLink
  | .conn act left =>
    match rportConnStep l.conn act with
    | none => none
    | some (conn, out) =>
      let toHost := l.toHost ++ out.toList
      match act.takes with
      | some lead =>
        match l.pipe with
        | front :: pipe => if front = lead then some { l with conn, pipe, toHost } else none
        | [] => none
      | none =>
        if act.cuts then some { l with conn, toHost, pipe := l.pipe.take left, isOpen := false }
        else some { l with conn, toHost }
  | .bridge act =>
    (rportBridgeStep l.bridge act).map fun (bridge, out) =>
      { l with
        bridge
        pipe := if l.isOpen then l.pipe ++ (out.bind RportItem.lead?).toList else l.pipe }
  | .cut left => some { l with pipe := l.pipe.take left, isOpen := false }
  | .unregister left =>
    some { l with
      conn := { l.conn with socket := l.conn.socket.unregister }
      pipe := l.pipe.take left
      isOpen := false }
  | .lose => if l.conn.phase = .idle then some { l with pipe := l.pipe.tail } else none
  | .dispatch isPort =>
    match l.toHost with
    | item :: toHost =>
      if l.hosting then some { l with toHost, bridge := l.dispatchItem isPort item } else none
    | [] => none
  | .miss =>
    match l.toHost with
    | _ :: toHost =>
      if l.hosting = false ∨ l.bridge.phase = .idle then some { l with toHost } else none
    | [] => none
  | .hostEnds => some { l with hosting := false }

section
variable {l : RportLink} {act : RportConnAct} {conn : RportConn} {out : Option DaemonItem}

/-- A step of the daemon's task that takes the front of the pipe, one that takes nothing,
and one that cuts the pipe. -/
theorem rportLinkStep_takes (hconn : rportConnStep l.conn act = some (conn, out))
    {lead : Option (List UInt8)} (htakes : act.takes = some lead) {pipe : List (Option (List UInt8))}
    (hpipe : l.pipe = lead :: pipe) (left : Nat) :
    rportLinkStep l (.conn act left) = some { l with conn, pipe, toHost := l.toHost ++ out.toList } := by
  simp only [rportLinkStep, hconn, htakes, hpipe, if_true]

theorem rportLinkStep_quiet (hconn : rportConnStep l.conn act = some (conn, out))
    (htakes : act.takes = none) (hcuts : act.cuts = false) (left : Nat) :
    rportLinkStep l (.conn act left) = some { l with conn, toHost := l.toHost ++ out.toList } := by
  simp only [rportLinkStep, hconn, htakes, hcuts, Bool.false_eq_true, if_false]

theorem rportLinkStep_cuts (hconn : rportConnStep l.conn act = some (conn, out))
    (htakes : act.takes = none) (hcuts : act.cuts = true) (left : Nat) :
    rportLinkStep l (.conn act left) =
      some { l with conn, toHost := l.toHost ++ out.toList, pipe := l.pipe.take left, isOpen := false } := by
  simp only [rportLinkStep, hconn, htakes, hcuts, if_true]

end

/-! What a connection keeps. -/

/-- Before the connection has been activated or given up. -/
def RportConnPhase.Early (p : RportConnPhase) : Prop := p = .idle ∨ p = .activating ∨ p = .waiting

/-- Before the bridge has sent `ForwardActiveMaster`. -/
def RportBridgePhase.Inactive (p : RportBridgePhase) : Prop :=
  p = .idle ∨ p = .connecting ∨ p = .refused ∨ p = .activating

/-- The bridge has sent `ForwardActiveMaster` and goes on. -/
def RportBridge.Active (b : RportBridge) : Prop :=
  b.phase = .activated ∨ b.socket.reader ≠ .notSpawned

namespace RportLink

/-- The daemon's side with the pipe for its queue. -/
def connView (l : RportLink) : Endpoint :=
  { l.conn.socket with
    registered := l.isOpen
    queue := if l.conn.socket.writer = .ended then [] else l.pipe.reduceOption }

/-- The host's side, which takes nothing more when the dispatcher is gone. -/
def bridgeView (l : RportLink) : Endpoint :=
  { l.bridge.socket with registered := l.bridge.socket.registered && l.hosting }

/-- The data on its way to the host. -/
def datas (l : RportLink) : List (List UInt8) := l.toHost.filterMap DaemonItem.data?

/-- The `ForwardActiveSlave` of the connection, on its way or turned into a bridge. -/
def slaves (l : RportLink) : Nat :=
  l.toHost.count .activeSlave + if l.bridge.phase = .idle then 0 else 1

end RportLink

/-- The front of the pipe is `ForwardActiveMaster`, if there is one. -/
def MasterFirst (pipe : List (Option (List UInt8))) : Prop := ∀ front ∈ pipe.head?, front = none

theorem MasterFirst.append {pipe : List (Option (List UInt8))} (h : MasterFirst pipe) (hne : pipe ≠ [])
    (leads : List (Option (List UInt8))) : MasterFirst (pipe ++ leads) := by
  cases pipe with
  | nil => exact absurd rfl hne
  | cons front pipe => exact h

theorem MasterFirst.take {pipe : List (Option (List UInt8))} (h : MasterFirst pipe) (n : Nat) :
    MasterFirst (pipe.take n) := by
  cases pipe with
  | nil => simp [MasterFirst]
  | cons front pipe =>
    cases n with
    | zero => simp [MasterFirst]
    | succ n => exact h

structure RportInv (l : RportLink) : Prop where
  up : Stream l.conn.socket.seen l.bridgeView l.datas
  down : Stream l.bridge.socket.seen l.connView []
  connSuffix : l.conn.socket.unread <:+ l.conn.socket.sent
  bridgeSuffix : l.bridge.socket.unread <:+ l.bridge.socket.sent
  idle : l.conn.phase = .idle → l.conn.socket = .fresh
  early : l.conn.phase.Early → l.conn.socket.reader = .notSpawned ∧ l.conn.socket.writer = .notSpawned
  connUnread : l.conn.socket.reader = .notSpawned → l.conn.socket.unread = l.conn.socket.sent ∧ l.datas = []
  once : l.slaves ≤ 1
  notYet : l.conn.phase = .idle ∨ l.conn.phase = .activating → l.slaves = 0
  unconnected : l.bridge.phase = .idle ∨ l.bridge.phase = .connecting → l.bridge.socket = .fresh
  unspawned : l.bridge.phase.Inactive ∨ l.bridge.phase = .activated →
    l.bridge.socket.reader = .notSpawned ∧ l.bridge.socket.writer = .notSpawned
  inactive : l.bridge.phase.Inactive → l.pipe = [] ∧ l.conn.socket.reader = .notSpawned
  bridgeUnread : l.bridge.socket.reader = .notSpawned →
    l.bridge.socket.unread = l.bridge.socket.sent ∧ l.pipe.reduceOption = []
  first : l.conn.phase.Early → MasterFirst l.pipe
  activated : l.conn.phase.Early → l.isOpen = true → l.bridge.Active → l.pipe ≠ []

theorem RportInv.init : RportInv RportLink.init := by
  constructor
  · exact .opened rfl rfl rfl
  · exact .opened rfl rfl rfl
  all_goals simp [RportLink.init, RportConn.fresh, RportBridge.fresh, Endpoint.fresh, RportLink.datas,
    RportLink.slaves, MasterFirst, RportBridge.Active]

section
variable {l : RportLink}

/-! Cuts. -/

theorem reduceOption_take_prefix {α : Type} (xs : List (Option α)) (n : Nat) :
    (xs.take n).reduceOption <+: xs.reduceOption := by
  have hsplit := congrArg List.reduceOption (List.take_append_drop n xs)
  rw [List.reduceOption_append] at hsplit
  exact ⟨_, hsplit⟩

/-- Closing the pipe, at any point of it. -/
theorem RportInv.cut (h : RportInv l) (n : Nat) :
    RportInv { l with pipe := l.pipe.take n, isOpen := false } := by
  have hpipe := reduceOption_take_prefix l.pipe n
  exact { h with
    down := by
      refine h.down.of_dst ?_ (fun ho => absurd ho.1 Bool.false_ne_true)
      obtain ⟨rest, hrest⟩ := hpipe
      simp only [Endpoint.accepted, RportLink.connView]
      split
      · exact List.prefix_rfl
      · rw [← hrest, List.flatten_append, ← List.append_assoc, ← List.append_assoc,
          ← List.append_assoc]
        exact List.prefix_append _ _
    inactive := fun hp => ⟨by simp [(h.inactive hp).1], (h.inactive hp).2⟩
    bridgeUnread := fun hr =>
      ⟨(h.bridgeUnread hr).1, List.prefix_nil.mp ((h.bridgeUnread hr).2 ▸ hpipe)⟩
    first := fun he => (h.first he).take n
    activated := by simp }

/-- The entry in `conns` matters to the pipe only. -/
theorem RportInv.unregister (h : RportInv l) :
    RportInv { l with conn := { l.conn with socket := l.conn.socket.unregister } } :=
  { h with
    up := h.up.of_src rfl rfl (fun hl => ⟨hl, rfl⟩)
    down := h.down.of_dst List.prefix_rfl (fun ho => ⟨ho, rfl⟩)
    idle := by
      intro hi
      show l.conn.socket.unregister = _
      rw [h.idle hi]
      rfl }

/-- Nothing is in the pipe before there is a connection. -/
theorem RportInv.pipe_idle (h : RportInv l) (hphase : l.conn.phase = .idle) : l.pipe = [] := by
  have hslaves := h.notYet (.inl hphase)
  have hbridge : l.bridge.phase = .idle := by
    by_contra hne
    simp [RportLink.slaves, hne] at hslaves
  exact (h.inactive (.inl hbridge)).1

/-! The daemon's task. -/

theorem RportInv.accept (h : RportInv l) (hphase : l.conn.phase = .idle) :
    RportInv { l with conn :=
      ⟨.activating, { l.conn.socket with connected := true, registered := true }⟩ } :=
  { h with
    up := h.up.of_src rfl rfl (fun hl => ⟨hl, rfl⟩)
    down := h.down.of_dst List.prefix_rfl (fun ho => ⟨ho, rfl⟩)
    idle := by simp
    early := fun _ => h.early (.inl hphase)
    notYet := fun _ => h.notYet (.inl hphase)
    first := fun _ => h.first (.inl hphase)
    activated := fun _ => h.activated (.inl hphase) }

theorem RportInv.activate (h : RportInv l) (hphase : l.conn.phase = .activating) :
    RportInv { l with
      conn := { l.conn with phase := .waiting }, toHost := l.toHost ++ [.activeSlave] } := by
  have hearly : l.conn.phase.Early := .inr (.inl hphase)
  have hslaves := h.notYet (.inr hphase)
  have hdatas : RportLink.datas { l with
      conn := { l.conn with phase := .waiting }, toHost := l.toHost ++ [.activeSlave] } = l.datas := by
    simp [RportLink.datas, DaemonItem.data?]
  exact { h with
    up := hdatas ▸ h.up
    idle := by simp
    early := fun _ => h.early hearly
    connUnread := hdatas ▸ h.connUnread
    once := by
      simp only [RportLink.slaves, List.count_append, List.count_singleton_self] at hslaves ⊢
      omega
    notYet := by simp
    first := fun _ => h.first hearly
    activated := fun _ => h.activated hearly }

/-- A connection that has been activated or given up has nothing to keep but its streams. -/
theorem RportInv.of_left (h : RportInv l) {conn : RportConn} {pipe : List (Option (List UInt8))}
    (hlate : ¬ conn.phase.Early) (hup : Stream conn.socket.seen l.bridgeView l.datas)
    (hdown : Stream l.bridge.socket.seen (RportLink.connView { l with pipe, conn }) [])
    (hsuffix : conn.socket.unread <:+ conn.socket.sent)
    (hunread : conn.socket.reader = .notSpawned → conn.socket.unread = conn.socket.sent ∧ l.datas = [])
    (hinactive : l.bridge.phase.Inactive → pipe = [] ∧ conn.socket.reader = .notSpawned)
    (hdatas : l.pipe.reduceOption = [] → pipe.reduceOption = []) :
    RportInv { l with pipe, conn } :=
  { h with
    up := hup
    down := hdown
    connSuffix := hsuffix
    idle := fun hi => absurd (.inl hi) hlate
    early := fun he => absurd he hlate
    connUnread := hunread
    notYet := by
      rintro (hi | ha)
      · exact absurd (.inl hi) hlate
      · exact absurd (.inr (.inl ha)) hlate
    inactive := hinactive
    bridgeUnread := fun hr => ⟨(h.bridgeUnread hr).1, hdatas (h.bridgeUnread hr).2⟩
    first := fun he => absurd he hlate
    activated := fun he => absurd he hlate }

theorem RportInv.leave (h : RportInv l) {phase : RportConnPhase} (hlate : ¬ phase.Early) :
    RportInv { l with conn := l.conn.leave phase } := by
  refine h.of_left hlate (h.up.of_src rfl rfl fun hl => ⟨hl, rfl⟩) ?_ h.connSuffix h.connUnread
    h.inactive id
  refine h.down.of_dst ?_ (fun ho => absurd rfl ho.2)
  simp [Endpoint.accepted, RportLink.connView, RportConn.leave, WriteTask.rest]

theorem RportInv.spawnConn (h : RportInv l) (hphase : l.conn.phase = .waiting)
    {pipe : List (Option (List UInt8))} (hpipe : l.pipe = none :: pipe) :
    RportInv { l with
      pipe
      conn := ⟨.bridging, { l.conn.socket with reader := .reading, writer := .receiving }⟩ } := by
  obtain ⟨hreader, hwriter⟩ := h.early (.inr (.inr hphase))
  have hdatas : l.pipe.reduceOption = pipe.reduceOption := by rw [hpipe, List.reduceOption_cons_of_none]
  have haccepted : (RportLink.connView { l with
      pipe
      conn := ⟨.bridging, { l.conn.socket with reader := .reading, writer := .receiving }⟩ }).accepted =
      l.connView.accepted := by
    simp [Endpoint.accepted, RportLink.connView, hwriter, WriteTask.rest, hdatas]
  refine h.of_left (by simp [RportConnPhase.Early]) ?_ ?_ h.connSuffix (by simp) ?_ (hdatas ▸ id)
  · exact h.up.of_src rfl (by simp [Endpoint.seen, hreader, ReadTask.pending])
      (fun _ => ⟨by simp [Endpoint.seen, hreader, ReadTask.Live], rfl⟩)
  · refine h.down.of_dst (haccepted ▸ List.prefix_rfl) (fun ho => ⟨⟨ho.1, ?_⟩, haccepted⟩)
    simp [RportLink.connView, hwriter]
  · intro hp
    exact absurd (h.inactive hp).1 (by simp [hpipe])

/-- Once its writer runs a connection is not early any more. -/
theorem RportInv.not_early (h : RportInv l) (hwriter : l.conn.socket.writer ≠ .notSpawned) :
    ¬ l.conn.phase.Early :=
  fun he => hwriter (h.early he).2

/-- What the writer does on receiving something. -/
theorem RportInv.of_writer (h : RportInv l) (hwriter : l.conn.socket.writer ≠ .notSpawned)
    {writer : WriteTask} {pipe : List (Option (List UInt8))}
    (hdown : Stream l.bridge.socket.seen (RportLink.connView { l with
      pipe, conn := { l.conn with socket := { l.conn.socket with writer } } }) [])
    (hinactive : l.bridge.phase.Inactive → pipe = [])
    (hdatas : l.pipe.reduceOption = [] → pipe.reduceOption = []) :
    RportInv { l with pipe, conn := { l.conn with socket := { l.conn.socket with writer } } } :=
  h.of_left (h.not_early hwriter) (h.up.of_src rfl rfl fun hl => ⟨hl, rfl⟩) hdown h.connSuffix
    h.connUnread (fun hp => ⟨hinactive hp, (h.inactive hp).2⟩) hdatas

theorem RportInv.take (h : RportInv l) (hwriter : l.conn.socket.writer = .receiving)
    {data : List UInt8} {pipe : List (Option (List UInt8))} (hpipe : l.pipe = some data :: pipe) :
    RportInv { l with
      pipe, conn := { l.conn with socket := { l.conn.socket with writer := .writing data } } } := by
  have hreduce : l.pipe.reduceOption = data :: pipe.reduceOption := by
    rw [hpipe, List.reduceOption_cons_of_some]
  have hreceive : copyStep false l.connView .receive = some (RportLink.connView { l with
      pipe
      conn := { l.conn with socket := { l.conn.socket with writer := .writing data } } }, none) := by
    simp [copyStep, RportLink.connView, hwriter, hreduce]
  refine h.of_writer (by simp [hwriter]) (h.down.dst_step hreceive) ?_ (by simp [hreduce])
  intro hp
  exact absurd (h.inactive hp).1 (by simp [hpipe])

/-- While `ForwardActiveMaster` is awaited it is the only thing that arrives; and the writer
passes over it. -/
theorem RportInv.skip (h : RportInv l) {lead : Option (List UInt8)}
    {pipe : List (Option (List UInt8))} (hpipe : l.pipe = lead :: pipe)
    (hskip : l.conn.phase = .waiting ∧ lead ≠ none ∨
      l.conn.socket.writer = .receiving ∧ lead = none) : RportInv { l with pipe } := by
  rcases hskip with ⟨hphase, hne⟩ | ⟨hwriter, rfl⟩
  · have hfirst := h.first (.inr (.inr hphase))
    exact absurd (hfirst lead (by simp [hpipe])) hne
  · have hreduce : l.pipe.reduceOption = pipe.reduceOption := by
      rw [hpipe, List.reduceOption_cons_of_none]
    have hview : RportLink.connView { l with pipe } = l.connView := by
      simp only [RportLink.connView, hreduce]
    refine h.of_writer (by simp [hwriter]) (hview ▸ h.down) ?_ (hreduce ▸ id)
    intro hp
    exact absurd (h.inactive hp).1 (by simp [hpipe])

theorem RportInv.stop (h : RportInv l) (hwriter : l.conn.socket.writer = .receiving) :
    RportInv { l with conn := { l.conn with socket := { l.conn.socket with writer := .ended } } } := by
  refine h.of_writer (by simp [hwriter]) ?_ (fun hp => (h.inactive hp).1) id
  refine h.down.of_dst ?_ (fun ho => absurd rfl ho.2)
  simp [Endpoint.accepted, RportLink.connView, WriteTask.rest]

/-- The tasks of a socket do not see what it is fed from, until an item is received. -/
theorem copyStep_feed {e e' : Endpoint} {act : CopyAct} {out : Option (List UInt8)}
    (hact : act ≠ .receive) (h : copyStep false e act = some (e', out)) (registered : Bool)
    (queue : List (List UInt8)) :
    copyStep false
        { e with registered, queue := if e.writer = .ended then [] else queue } act =
      some ({ e' with registered, queue := if e'.writer = .ended then [] else queue }, out) := by
  cases act with
  | receive => exact absurd rfl hact
  | _ =>
    simp only [copyStep] at h ⊢
    repeat' split at h
    all_goals cases h
    all_goals simp_all

theorem RportInv.connCopy (h : RportInv l) {act : CopyAct} {socket : Endpoint}
    {out : Option (List UInt8)} (hact : act ≠ .receive)
    (hstep : copyStep false l.conn.socket act = some (socket, out)) :
    RportInv { l with
      conn := { l.conn with socket }, toHost := l.toHost ++ (out.map DaemonItem.data).toList } := by
  obtain ⟨-, -, hreader, hwriter, hout, -⟩ := copyStep_frame hstep
  have hdatas : RportLink.datas { l with
      conn := { l.conn with socket },
      toHost := l.toHost ++ (out.map DaemonItem.data).toList } = l.datas ++ out.toList := by
    cases out <;> simp [RportLink.datas, DaemonItem.data?]
  have hslaves : RportLink.slaves { l with
      conn := { l.conn with socket },
      toHost := l.toHost ++ (out.map DaemonItem.data).toList } = l.slaves := by
    cases out <;> simp [RportLink.slaves]
  exact { h with
    up := hdatas ▸ h.up.seen_step h.connSuffix hstep
    down := h.down.dst_step (copyStep_feed hact hstep l.isOpen l.pipe.reduceOption)
    connSuffix := copyStep_unread h.connSuffix hstep
    idle := by
      intro hi
      rw [h.idle hi, copyStep_fresh] at hstep
      cases hstep
    early := fun he => ⟨hreader.mpr (h.early he).1, (hwriter (h.early he).2).1⟩
    connUnread := by
      intro hr
      have hr' := hreader.mp hr
      obtain ⟨hu, hd⟩ := h.connUnread hr'
      obtain ⟨rfl, hkeep⟩ := hout hr'
      exact ⟨hkeep hu, by rw [hdatas, hd]; rfl⟩
    once := hslaves ▸ h.once
    notYet := hslaves ▸ h.notYet
    inactive := fun hp => ⟨(h.inactive hp).1, hreader.mpr (h.inactive hp).2⟩ }

theorem RportInv.joinConn (h : RportInv l) :
    RportInv { l with conn := ⟨.freeing, l.conn.socket.unregister⟩ } :=
  h.of_left (by simp [RportConnPhase.Early]) (h.up.of_src rfl rfl fun hl => ⟨hl, rfl⟩)
    (h.down.of_dst List.prefix_rfl fun ho => ⟨ho, rfl⟩) h.connSuffix h.connUnread h.inactive id

theorem RportInv.freeConn (h : RportInv l) :
    RportInv { l with
      conn := { l.conn with phase := .closed }, toHost := l.toHost ++ [.freeContext] } := by
  have hdatas : RportLink.datas { l with toHost := l.toHost ++ [.freeContext] } = l.datas := by
    simp [RportLink.datas, DaemonItem.data?]
  have hslaves : RportLink.slaves { l with toHost := l.toHost ++ [.freeContext] } = l.slaves := by
    simp [RportLink.slaves]
  have hsent : RportInv { l with toHost := l.toHost ++ [.freeContext] } := { h with
    up := hdatas ▸ h.up
    connUnread := hdatas ▸ h.connUnread
    once := hslaves ▸ h.once
    notYet := hslaves ▸ h.notYet }
  exact hsent.of_left (by simp [RportConnPhase.Early]) hsent.up hsent.down hsent.connSuffix
    hsent.connUnread hsent.inactive id

/-! The host's bridge. -/

/-- A step of a bridge that is under way. -/
theorem RportInv.of_bridge (h : RportInv l) {bridge : RportBridge} {pipe : List (Option (List UInt8))}
    (hidle : l.bridge.phase ≠ .idle) (hphase : bridge.phase ≠ .idle ∧ bridge.phase ≠ .connecting)
    (hup : Stream l.conn.socket.seen (RportLink.bridgeView { l with bridge }) l.datas)
    (hdown : Stream bridge.socket.seen (RportLink.connView { l with pipe }) [])
    (hsuffix : bridge.socket.unread <:+ bridge.socket.sent)
    (hunspawned : bridge.phase.Inactive ∨ bridge.phase = .activated →
      bridge.socket.reader = .notSpawned ∧ bridge.socket.writer = .notSpawned)
    (hinactive : bridge.phase.Inactive → pipe = [] ∧ l.conn.socket.reader = .notSpawned)
    (hunread : bridge.socket.reader = .notSpawned →
      bridge.socket.unread = bridge.socket.sent ∧ pipe.reduceOption = [])
    (hfirst : l.conn.phase.Early → MasterFirst pipe)
    (hactivated : l.conn.phase.Early → l.isOpen = true → bridge.Active → pipe ≠ []) :
    RportInv { l with bridge, pipe } := by
  have hslaves : RportLink.slaves { l with bridge, pipe } = l.slaves := by
    simp [RportLink.slaves, hidle, hphase.1]
  exact { h with
    up := hup
    down := hdown
    bridgeSuffix := hsuffix
    once := hslaves ▸ h.once
    notYet := hslaves ▸ h.notYet
    unconnected := by
      rintro (hi | hc)
      · exact absurd hi hphase.1
      · exact absurd hc hphase.2
    unspawned := hunspawned
    inactive := hinactive
    bridgeUnread := hunread
    first := hfirst
    activated := hactivated }

/-- One that sends nothing, with what it changes of the socket. -/
theorem RportInv.of_quiet (h : RportInv l) {bridge : RportBridge} (hidle : l.bridge.phase ≠ .idle)
    (hphase : bridge.phase ≠ .idle ∧ bridge.phase ≠ .connecting)
    (hup : Stream l.conn.socket.seen (RportLink.bridgeView { l with bridge }) l.datas)
    (hdown : Stream bridge.socket.seen l.connView [])
    (hsent : bridge.socket.sent = l.bridge.socket.sent)
    (hunread : bridge.socket.unread = l.bridge.socket.unread)
    (hunspawned : bridge.phase.Inactive ∨ bridge.phase = .activated →
      bridge.socket.reader = .notSpawned ∧ bridge.socket.writer = .notSpawned)
    (hinactive : bridge.phase.Inactive → l.bridge.phase.Inactive)
    (hreader : bridge.socket.reader = .notSpawned → l.bridge.socket.reader = .notSpawned)
    (hactive : bridge.Active → l.bridge.Active) : RportInv { l with bridge } := by
  refine h.of_bridge hidle hphase hup hdown ?_ hunspawned (fun hp => h.inactive (hinactive hp)) ?_
    h.first (fun he ho ha => h.activated he ho (hactive ha))
  · rw [hsent, hunread]
    exact h.bridgeSuffix
  · intro hr
    rw [hsent, hunread]
    exact h.bridgeUnread (hreader hr)

/-- A bridge in another phase, with the same socket. -/
theorem RportInv.bridgePhase (h : RportInv l) {phase : RportBridgePhase} (hidle : l.bridge.phase ≠ .idle)
    (hphase : phase ≠ .idle ∧ phase ≠ .connecting ∧ phase ≠ .activated)
    (hinactive : phase.Inactive → l.bridge.phase.Inactive) :
    RportInv { l with bridge := { l.bridge with phase } } := by
  refine h.of_quiet hidle ⟨hphase.1, hphase.2.1⟩ h.up h.down rfl rfl ?_ hinactive id ?_
  · rintro (hp | hp)
    · exact h.unspawned (.inl (hinactive hp))
    · exact absurd hp hphase.2.2
  · rintro (hp | hr)
    · exact absurd hp hphase.2.2
    · exact .inr hr

/-- The entry is made: nothing has been read on the other side. -/
theorem RportInv.connect (h : RportInv l) (hphase : l.bridge.phase = .connecting) :
    RportInv { l with bridge :=
      ⟨.activating, { l.bridge.socket with connected := true, registered := true }⟩ } := by
  have hin : l.bridge.phase.Inactive := .inr (.inl hphase)
  have hfresh := h.unconnected (.inr hphase)
  obtain ⟨-, hreader⟩ := h.inactive hin
  obtain ⟨hunread, hdatas⟩ := h.connUnread hreader
  have hread : l.conn.socket.read = [] := Endpoint.read_of_append (by simp [hunread]) rfl
  refine h.of_quiet (by simp [hphase]) (by simp) ?_ (h.down.of_src rfl rfl fun hl => ⟨hl, rfl⟩) rfl rfl
    (fun _ => h.unspawned (.inl hin)) (fun _ => hin) id ?_
  · rw [hdatas]
    refine .opened ?_ ?_ hread.symm
    · simp [Endpoint.accepted, RportLink.bridgeView, hfresh, Endpoint.fresh, WriteTask.rest]
    · simp [Endpoint.seen, hreader, ReadTask.pending]
  · rintro (hp | hr)
    · cases hp
    · exact .inr hr

/-- Sending `ForwardActiveMaster`, into an empty pipe. -/
theorem RportInv.activateBridge (h : RportInv l) (hphase : l.bridge.phase = .activating) :
    RportInv { l with
      bridge := { l.bridge with phase := .activated }
      pipe := if l.isOpen then l.pipe ++ [none] else l.pipe } := by
  have hin : l.bridge.phase.Inactive := .inr (.inr (.inr hphase))
  obtain ⟨hpipe, -⟩ := h.inactive hin
  have hreduce : (if l.isOpen then l.pipe ++ [none] else l.pipe).reduceOption = l.pipe.reduceOption := by
    split <;> simp [hpipe]
  have hview : RportLink.connView { l with pipe := if l.isOpen then l.pipe ++ [none] else l.pipe } =
      l.connView := by
    simp only [RportLink.connView, hreduce]
  refine h.of_bridge (by simp [hphase]) (by simp) h.up (hview ▸ h.down) h.bridgeSuffix
    (fun _ => h.unspawned (.inl hin)) (by simp [RportBridgePhase.Inactive]) (hreduce ▸ h.bridgeUnread) ?_ ?_
  · intro _
    split <;> simp [MasterFirst, hpipe]
  · intro _ ho _
    simp [ho]

theorem RportInv.activateFail (h : RportInv l) (hphase : l.bridge.phase = .activating) :
    RportInv { l with bridge :=
      ⟨.closed, { l.bridge.socket with registered := false, writer := .ended, queue := [] }⟩ } := by
  refine h.of_quiet (by simp [hphase]) (by simp) ?_ (h.down.of_src rfl rfl fun hl => ⟨hl, rfl⟩) rfl rfl
    (by simp [RportBridgePhase.Inactive]) (by simp [RportBridgePhase.Inactive]) id ?_
  · refine h.up.of_dst ?_ (fun ho => absurd rfl ho.2)
    simp [Endpoint.accepted, RportLink.bridgeView, WriteTask.rest]
  · rintro (hp | hr)
    · cases hp
    · exact .inr hr

theorem RportInv.spawnBridge (h : RportInv l) (hphase : l.bridge.phase = .activated) :
    RportInv { l with bridge :=
      ⟨.bridging, { l.bridge.socket with reader := .reading, writer := .receiving }⟩ } := by
  obtain ⟨hreader, hwriter⟩ := h.unspawned (.inr hphase)
  have haccepted : (RportLink.bridgeView { l with bridge :=
      ⟨.bridging, { l.bridge.socket with reader := .reading, writer := .receiving }⟩ }).accepted =
      l.bridgeView.accepted := by
    simp [Endpoint.accepted, RportLink.bridgeView, hwriter, WriteTask.rest]
  refine h.of_quiet (by simp [hphase]) (by simp) ?_ ?_ rfl rfl (by simp [RportBridgePhase.Inactive])
    (by simp [RportBridgePhase.Inactive]) (by simp) (fun _ => .inl hphase)
  · refine h.up.of_dst (haccepted ▸ List.prefix_rfl) (fun ho => ⟨⟨ho.1, ?_⟩, haccepted⟩)
    simp [RportLink.bridgeView, hwriter]
  · exact h.down.of_src rfl (by simp [Endpoint.seen, hreader, ReadTask.pending])
      (fun _ => ⟨by simp [Endpoint.seen, hreader, ReadTask.Live], rfl⟩)

/-- The host's tasks do not see whether the dispatcher runs. -/
theorem copyStep_hosting {e e' : Endpoint} {act : CopyAct} {out : Option (List UInt8)}
    (h : copyStep false e act = some (e', out)) (hosting : Bool) :
    copyStep false { e with registered := e.registered && hosting } act =
      some ({ e' with registered := e'.registered && hosting }, out) := by
  cases act <;> simp only [copyStep] at h ⊢ <;> (repeat' split at h) <;> cases h <;> simp_all

/-- What the host sends is delivered to the pipe. -/
theorem connView_deliver (l : RportLink) (data : List UInt8) :
    RportLink.connView { l with pipe := if l.isOpen then l.pipe ++ [some data] else l.pipe } =
      l.connView.deliver data := by
  unfold Endpoint.deliver RportLink.connView
  by_cases ho : l.isOpen = true <;> by_cases hw : l.conn.socket.writer = .ended <;>
    simp [ho, hw, List.reduceOption_append]

/-- A bridge whose tasks take a step has been connected. -/
theorem RportInv.copy_phase (h : RportInv l) {act : CopyAct} {socket : Endpoint}
    {out : Option (List UInt8)} (hstep : copyStep false l.bridge.socket act = some (socket, out)) :
    l.bridge.phase ≠ .idle ∧ l.bridge.phase ≠ .connecting := by
  refine not_or.mp fun hp => ?_
  rw [h.unconnected hp, copyStep_fresh] at hstep
  cases hstep

theorem RportInv.bridgeCopy (h : RportInv l) {act : CopyAct} {socket : Endpoint}
    {out : Option (List UInt8)} (hstep : copyStep false l.bridge.socket act = some (socket, out)) :
    RportInv { l with
      bridge := { l.bridge with socket }
      pipe := if l.isOpen then l.pipe ++ (out.map some).toList else l.pipe } := by
  obtain ⟨-, -, hreader, hwriter, hout, -⟩ := copyStep_frame hstep
  have hphase := h.copy_phase hstep
  have hspawned : ∀ data, out = some data → l.bridge.socket.reader ≠ .notSpawned := by
    rintro data rfl hr
    exact absurd (hout hr).1 (by simp)
  have hnone : out = none → (if l.isOpen then l.pipe ++ (out.map some).toList else l.pipe) = l.pipe := by
    rintro rfl
    split <;> simp
  refine h.of_bridge hphase.1 hphase (h.up.dst_step (copyStep_hosting hstep l.hosting)) ?_
    (copyStep_unread h.bridgeSuffix hstep) ?_ ?_ ?_ ?_ ?_
  · have hsrc := h.down.seen_step h.bridgeSuffix hstep
    cases out with
    | none =>
      rw [hnone rfl]
      exact hsrc
    | some data => exact connView_deliver l data ▸ hsrc.deliver
  · intro hp
    exact ⟨hreader.mpr (h.unspawned hp).1, (hwriter (h.unspawned hp).2).1⟩
  · intro hp
    obtain ⟨hpipe, hr⟩ := h.inactive hp
    have hnil := (hout (h.unspawned (.inl hp)).1).1
    exact ⟨(hnone hnil).trans hpipe, hr⟩
  · intro hr
    obtain ⟨hnil, hkeep⟩ := hout (hreader.mp hr)
    obtain ⟨hu, hd⟩ := h.bridgeUnread (hreader.mp hr)
    exact ⟨hkeep hu, by rw [hnone hnil]; exact hd⟩
  · intro he
    cases out with
    | none =>
      rw [hnone rfl]
      exact h.first he
    | some data =>
      split
      · rename_i ho
        exact (h.first he).append (h.activated he ho (.inr (hspawned data rfl))) _
      · exact h.first he
  · intro he ho hactive
    have hbefore : l.bridge.Active := hactive.imp id (fun hr hn => hr (hreader.mpr hn))
    rw [if_pos ho]
    simp [h.activated he ho hbefore]

theorem RportInv.joinBridge (h : RportInv l) (hphase : l.bridge.phase = .bridging) :
    RportInv { l with bridge := ⟨.freeing, l.bridge.socket.unregister⟩ } := by
  refine h.of_quiet (by simp [hphase]) (by simp) ?_ (h.down.of_src rfl rfl fun hl => ⟨hl, rfl⟩) rfl rfl
    (by simp [RportBridgePhase.Inactive]) (by simp [RportBridgePhase.Inactive]) id ?_
  · refine h.up.of_dst List.prefix_rfl (fun ho => absurd ho.1 ?_)
    simp [RportLink.bridgeView, Endpoint.unregister]
  · rintro (hp | hr)
    · cases hp
    · exact .inr hr

/-! The host's dispatcher. -/

/-- A bridge is spawned, under its id for the first time. -/
theorem RportInv.dispatchSlave (h : RportInv l) {toHost : List DaemonItem}
    (htoHost : l.toHost = .activeSlave :: toHost) {phase : RportBridgePhase}
    (hphase : phase = .connecting ∨ phase = .closed) :
    RportInv { l with toHost, bridge := ⟨phase, .fresh⟩ } := by
  have honce := h.once
  have hidle : l.bridge.phase = .idle := by
    by_contra hne
    simp [RportLink.slaves, htoHost, hne] at honce
  have hsocket := h.unconnected (.inl hidle)
  have hin : l.bridge.phase.Inactive := .inl hidle
  have hdatas : RportLink.datas { l with toHost, bridge := ⟨phase, .fresh⟩ } = l.datas := by
    rw [RportLink.datas, RportLink.datas, htoHost]
    rfl
  have hslaves : RportLink.slaves { l with toHost, bridge := ⟨phase, .fresh⟩ } = l.slaves := by
    rcases hphase with rfl | rfl <;> simp [RportLink.slaves, htoHost, hidle]
  have hview : RportLink.bridgeView { l with toHost, bridge := ⟨phase, .fresh⟩ } = l.bridgeView := by
    simp [RportLink.bridgeView, hsocket]
  exact { h with
    up := by
      rw [hdatas, hview]
      exact h.up
    down := hsocket ▸ h.down
    bridgeSuffix := List.suffix_rfl
    connUnread := hdatas ▸ h.connUnread
    once := hslaves ▸ h.once
    notYet := hslaves ▸ h.notYet
    unconnected := fun _ => rfl
    unspawned := fun _ => ⟨rfl, rfl⟩
    inactive := fun _ => h.inactive hin
    bridgeUnread := fun _ => ⟨rfl, by simp [(h.inactive hin).1]⟩
    activated := by
      rintro _ _ (hp | hr)
      · rcases hphase with rfl | rfl <;> cases hp
      · exact absurd rfl hr }

/-- The dispatcher changes the entry of a bridge, not the bridge. -/
theorem RportInv.of_socket (h : RportInv l) {toHost : List DaemonItem} {socket : Endpoint}
    (hreader : socket.reader = l.bridge.socket.reader) (hwriter : socket.writer = l.bridge.socket.writer)
    (hsent : socket.sent = l.bridge.socket.sent) (hunread : socket.unread = l.bridge.socket.unread)
    (hfresh : l.bridge.socket = .fresh → socket = .fresh)
    (hup : Stream l.conn.socket.seen
      (RportLink.bridgeView { l with toHost, bridge := { l.bridge with socket } })
      (toHost.filterMap DaemonItem.data?))
    (hdatas : l.datas = [] → toHost.filterMap DaemonItem.data? = [])
    (hcount : toHost.count .activeSlave = l.toHost.count .activeSlave) :
    RportInv { l with toHost, bridge := { l.bridge with socket } } := by
  have hslaves : RportLink.slaves { l with toHost, bridge := { l.bridge with socket } } = l.slaves := by
    simp only [RportLink.slaves, hcount]
  have hread : socket.read = l.bridge.socket.read := by
    simp only [Endpoint.read, hsent, hunread]
  exact { h with
    up := hup
    down := h.down.of_src hread (congrArg ReadTask.pending hreader)
      (fun hl => ⟨(congrArg ReadTask.Live hreader).mp hl, rfl⟩)
    bridgeSuffix := by
      show socket.unread <:+ socket.sent
      rw [hsent, hunread]
      exact h.bridgeSuffix
    connUnread := fun hr => ⟨(h.connUnread hr).1, hdatas (h.connUnread hr).2⟩
    once := hslaves ▸ h.once
    notYet := hslaves ▸ h.notYet
    unconnected := fun hp => hfresh (h.unconnected hp)
    unspawned := by
      show _ → socket.reader = _ ∧ socket.writer = _
      rw [hreader, hwriter]
      exact h.unspawned
    bridgeUnread := by
      show socket.reader = _ → socket.unread = socket.sent ∧ _
      rw [hreader, hunread, hsent]
      exact h.bridgeUnread
    activated := by
      intro he ho ha
      refine h.activated he ho (ha.imp id fun hr => ?_)
      rw [← hreader]
      exact hr }

theorem RportInv.dispatchData (h : RportInv l) (hhosting : l.hosting = true) {data : List UInt8}
    {toHost : List DaemonItem} (htoHost : l.toHost = .data data :: toHost) :
    RportInv { l with toHost, bridge := { l.bridge with socket := l.bridge.socket.deliver data } } := by
  have hdatas : l.datas = data :: toHost.filterMap DaemonItem.data? := by
    rw [RportLink.datas, htoHost]
    rfl
  obtain ⟨-, -, hreader, hwriter, hunread, hsent⟩ := l.bridge.socket.deliver_frame data
  refine h.of_socket hreader hwriter hsent hunread ?_ ?_ (by simp [hdatas]) (by simp [htoHost])
  · intro hfresh
    rw [hfresh]
    rfl
  · have hview : RportLink.bridgeView { l with
        toHost, bridge := { l.bridge with socket := l.bridge.socket.deliver data } } =
        l.bridgeView.deliver data := by
      simp only [RportLink.bridgeView, hhosting, Bool.and_true, Endpoint.deliver]
    rw [hview]
    exact (hdatas ▸ h.up).deliver

theorem RportInv.dispatchFree (h : RportInv l) {toHost : List DaemonItem}
    (htoHost : l.toHost = .freeContext :: toHost) :
    RportInv { l with toHost, bridge := { l.bridge with socket := l.bridge.socket.unregister } } := by
  have hdatas : l.datas = toHost.filterMap DaemonItem.data? := by
    rw [RportLink.datas, htoHost]
    rfl
  refine h.of_socket rfl rfl rfl rfl ?_ ?_ (hdatas ▸ id) (by simp [htoHost])
  · intro hfresh
    rw [hfresh]
    rfl
  · refine (hdatas ▸ h.up).of_dst List.prefix_rfl (fun ho => absurd ho.1 ?_)
    simp [RportLink.bridgeView, Endpoint.unregister]

/-- Without a dispatcher or a bridge the host takes no data, so none is missed. -/
theorem RportInv.miss (h : RportInv l) (hmiss : l.hosting = false ∨ l.bridge.phase = .idle)
    {item : DaemonItem} {toHost : List DaemonItem} (htoHost : l.toHost = item :: toHost) :
    RportInv { l with toHost } := by
  have hclosed : ¬ l.bridgeView.Open := by
    rintro ⟨ho, -⟩
    rcases hmiss with hhosting | hidle
    · simp [RportLink.bridgeView, hhosting] at ho
    · simp [RportLink.bridgeView, h.unconnected (.inl hidle), Endpoint.fresh] at ho
  have hcount : RportLink.slaves { l with toHost } ≤ l.slaves := by
    have hle := (List.sublist_cons_self item toHost).count_le DaemonItem.activeSlave
    simp only [RportLink.slaves, htoHost]
    omega
  exact { h with
    up := ⟨h.up.accepted, fun ho => absurd ho hclosed, fun ho => absurd ho hclosed⟩
    connUnread := by
      intro hr
      obtain ⟨hu, hd⟩ := h.connUnread hr
      refine ⟨hu, List.eq_nil_iff_forall_not_mem.mpr fun data hdata => ?_⟩
      have hmem : data ∈ l.datas := by
        rw [RportLink.datas, htoHost]
        exact ((List.sublist_cons_self item toHost).filterMap DaemonItem.data?).mem hdata
      rw [hd] at hmem
      cases hmem
    once := Nat.le_trans hcount h.once
    notYet := fun hp => Nat.le_zero.mp (h.notYet hp ▸ hcount) }

theorem RportInv.hostEnds (h : RportInv l) : RportInv { l with hosting := false } :=
  { h with
    up := h.up.of_dst List.prefix_rfl
      (fun ho => absurd ho.1 (by simp [RportLink.bridgeView])) }

/-! Every step. -/

theorem RportInv.connStep (h : RportInv l) {act : RportConnAct} {conn : RportConn}
    {out : Option DaemonItem} (htakes : act.takes = none) (hst : rportConnStep l.conn act = some (conn, out)) :
    RportInv { l with conn, toHost := l.toHost ++ out.toList } := by
  cases act with
  | accept =>
    obtain ⟨hphase, heq⟩ := Option.ite_none_right_eq_some.mp hst
    cases heq
    simpa using h.accept hphase
  | activate =>
    obtain ⟨hphase, heq⟩ := Option.ite_none_right_eq_some.mp hst
    cases heq
    exact h.activate hphase
  | activateFail =>
    obtain ⟨-, heq⟩ := Option.ite_none_right_eq_some.mp hst
    cases heq
    have hlate : ¬ RportConnPhase.Early .closed := by simp [RportConnPhase.Early]
    simpa using h.leave hlate
  | activated => cases htakes
  | giveUp =>
    obtain ⟨-, heq⟩ := Option.ite_none_right_eq_some.mp hst
    cases heq
    have hlate : ¬ RportConnPhase.Early .freeing := by simp [RportConnPhase.Early]
    simpa using h.leave hlate
  | take data => cases htakes
  | stop =>
    obtain ⟨hwriter, heq⟩ := Option.ite_none_right_eq_some.mp hst
    cases heq
    simpa using h.stop hwriter
  | skip lead => cases htakes
  | copy act =>
    obtain ⟨hact, heq⟩ := Option.ite_none_left_eq_some.mp hst
    obtain ⟨⟨socket, data⟩, hcopy, heq⟩ := Option.map_eq_some_iff.mp heq
    cases heq
    exact h.connCopy hact hcopy
  | join =>
    obtain ⟨-, heq⟩ := Option.ite_none_right_eq_some.mp hst
    cases heq
    simpa using h.joinConn
  | free =>
    obtain ⟨-, heq⟩ := Option.ite_none_right_eq_some.mp hst
    cases heq
    exact h.freeConn

theorem RportInv.connTakes (h : RportInv l) {act : RportConnAct} {conn : RportConn}
    {out : Option DaemonItem} {lead : Option (List UInt8)} (htakes : act.takes = some lead)
    {pipe : List (Option (List UInt8))} (hpipe : l.pipe = lead :: pipe)
    (hst : rportConnStep l.conn act = some (conn, out)) :
    RportInv { l with conn, pipe, toHost := l.toHost ++ out.toList } := by
  cases act with
  | activated =>
    cases htakes
    obtain ⟨hphase, heq⟩ := Option.ite_none_right_eq_some.mp hst
    cases heq
    simpa using h.spawnConn hphase hpipe
  | take data =>
    cases htakes
    obtain ⟨hwriter, heq⟩ := Option.ite_none_right_eq_some.mp hst
    cases heq
    simpa using h.take hwriter hpipe
  | skip lead =>
    cases htakes
    obtain ⟨hskip, heq⟩ := Option.ite_none_right_eq_some.mp hst
    cases heq
    simpa using h.skip hpipe hskip
  | _ => cases htakes

theorem RportInv.bridgeStep (h : RportInv l) {act : RportBridgeAct} {bridge : RportBridge}
    {out : Option RportItem} (hst : rportBridgeStep l.bridge act = some (bridge, out)) :
    RportInv { l with
      bridge
      pipe := if l.isOpen then l.pipe ++ (out.bind RportItem.lead?).toList else l.pipe } := by
  -- a message that is no lead leaves the pipe as it is
  have hpipe : out.bind RportItem.lead? = none →
      (if l.isOpen then l.pipe ++ (out.bind RportItem.lead?).toList else l.pipe) = l.pipe := by
    intro hnone
    simp [hnone]
  cases act with
  | connect ok =>
    obtain ⟨hphase, heq⟩ := Option.ite_none_right_eq_some.mp hst
    cases heq
    rw [hpipe rfl]
    cases ok with
    | true => exact h.connect hphase
    | false => exact h.bridgePhase (by simp [hphase]) (by simp) (fun _ => .inr (.inl hphase))
  | refuse =>
    obtain ⟨hphase, heq⟩ := Option.ite_none_right_eq_some.mp hst
    cases heq
    rw [hpipe rfl]
    exact h.bridgePhase (by simp [hphase]) (by simp) (by simp [RportBridgePhase.Inactive])
  | activate =>
    obtain ⟨hphase, heq⟩ := Option.ite_none_right_eq_some.mp hst
    cases heq
    exact h.activateBridge hphase
  | activateFail =>
    obtain ⟨hphase, heq⟩ := Option.ite_none_right_eq_some.mp hst
    cases heq
    rw [hpipe rfl]
    exact h.activateFail hphase
  | spawn =>
    obtain ⟨hphase, heq⟩ := Option.ite_none_right_eq_some.mp hst
    cases heq
    rw [hpipe rfl]
    exact h.spawnBridge hphase
  | copy act =>
    obtain ⟨⟨socket, data⟩, hcopy, heq⟩ := Option.map_eq_some_iff.mp hst
    cases heq
    have hlead : (data.map RportItem.data).bind RportItem.lead? = data.map some := by
      cases data <;> rfl
    rw [hlead]
    exact h.bridgeCopy hcopy
  | join =>
    obtain ⟨hphase, heq⟩ := Option.ite_none_right_eq_some.mp hst
    cases heq
    rw [hpipe rfl]
    exact h.joinBridge hphase.1
  | free =>
    obtain ⟨hphase, heq⟩ := Option.ite_none_right_eq_some.mp hst
    cases heq
    rw [hpipe rfl]
    exact h.bridgePhase (by simp [hphase]) (by simp) (by simp [RportBridgePhase.Inactive])

theorem RportInv.dispatch (h : RportInv l) (hhosting : l.hosting = true) (isPort : Bool)
    {item : DaemonItem} {toHost : List DaemonItem} (htoHost : l.toHost = item :: toHost) :
    RportInv { l with toHost, bridge := l.dispatchItem isPort item } := by
  cases item with
  | activeSlave => exact h.dispatchSlave htoHost (by cases isPort <;> simp)
  | data bytes => exact h.dispatchData hhosting htoHost
  | freeContext => exact h.dispatchFree htoHost

theorem RportInv.step (h : RportInv l) {l' : RportLink} {act : RportLinkAct}
    (hst : rportLinkStep l act = some l') : RportInv l' := by
  cases act with
  | conn act left =>
    simp only [rportLinkStep] at hst
    split at hst
    · cases hst
    · rename_i conn out hconn
      split at hst
      · rename_i lead htakes
        split at hst
        · rename_i front pipe hpipe
          obtain ⟨rfl, heq⟩ := Option.ite_none_right_eq_some.mp hst
          cases heq
          exact h.connTakes htakes hpipe hconn
        · cases hst
      · rename_i htakes
        have hkeep := h.connStep htakes hconn
        split at hst <;> cases hst
        · exact hkeep.cut left
        · exact hkeep
  | bridge act =>
    obtain ⟨⟨bridge, out⟩, hbridge, rfl⟩ := Option.map_eq_some_iff.mp hst
    exact h.bridgeStep hbridge
  | cut left =>
    cases hst
    exact h.cut left
  | unregister left =>
    cases hst
    exact h.unregister.cut left
  | lose =>
    obtain ⟨hphase, heq⟩ := Option.ite_none_right_eq_some.mp hst
    cases heq
    have hpipe := h.pipe_idle hphase
    simpa [hpipe] using hpipe ▸ h
  | dispatch isPort =>
    simp only [rportLinkStep] at hst
    split at hst
    · rename_i item toHost htoHost
      obtain ⟨hhosting, heq⟩ := Option.ite_none_right_eq_some.mp hst
      cases heq
      exact h.dispatch hhosting isPort htoHost
    · cases hst
  | miss =>
    simp only [rportLinkStep] at hst
    split at hst
    · rename_i item toHost htoHost
      obtain ⟨hmiss, heq⟩ := Option.ite_none_right_eq_some.mp hst
      cases heq
      exact h.miss hmiss htoHost
    · cases hst
  | hostEnds =>
    cases hst
    exact h.hostEnds

end

theorem RportInv.of_reaches {l : RportLink} (h : Reaches rportLinkStep anyStep .init l) : RportInv l :=
  h.invariant (fun h _ hst => h.step hst) .init

end Hdc
