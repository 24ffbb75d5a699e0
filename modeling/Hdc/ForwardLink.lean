import Hdc.ForwardCopy
import Hdc.Lts

/- One connection of a port forward, on its own: the host's bridge
   (`run_forward_bridge` in `hdc/src/server.rs`), the daemon's two tasks and the
   `ForwardActiveSlave` arm that starts them (`hdcd/src/forward.rs`), and the messages
   under the connection's id that are on their way, with the ids and the other
   messages left out. `Hdc.Fport` puts any number of them on one session.

   The host throws away what its queue holds before the empty item that stands for
   `ForwardActiveMaster`. So the stream to the client is kept by every step except
   one: the daemon's reader sending before the handler that spawned it has sent
   `ForwardActiveMaster`. -/
namespace Hdc
open Lts

/-! The host's side. -/

/-- Where `run_forward_bridge` stands; `idle` is before the client is accepted. -/
inductive BridgePhase where
  | idle
  /-- The sender is in `forward_conns`, and `ForwardActiveSlave` is to be sent. -/
  | activating
  /-- Waiting for the empty item. -/
  | waiting
  /-- The two tasks are spawned. -/
  | bridging
  /-- They have been joined, and `ForwardFreeContext` is to be sent. -/
  | freeing
  | closed
  deriving DecidableEq, Repr

structure Bridge where
  phase : BridgePhase
  socket : Endpoint
  deriving DecidableEq, Repr

def Bridge.fresh : Bridge := ⟨.idle, .fresh⟩

/-- What the bridge sends to the daemon. -/
inductive DaemonItem where
  | activeSlave
  | data (data : List UInt8)
  | freeContext
  deriving DecidableEq, Repr

/-- What the dispatcher makes of a message from the daemon: an item for the
connection's queue, empty for `ForwardActiveMaster`, or the end of the connection. -/
inductive HostItem where
  | deliver (item : List UInt8)
  | release
  deriving DecidableEq, Repr

inductive BridgeAct where
  | accept
  | activate
  | activateFail
  /-- The next item of the queue, or its end, while waiting. -/
  | await
  | timeout
  | copy (act : CopyAct)
  | join
  | free
  deriving DecidableEq, Repr

/-- The returns before the tasks are spawned: the sender is removed and the receiver
dropped. -/
def Bridge.giveUp (b : Bridge) : Bridge :=
  ⟨.closed, { b.socket with registered := false, writer := .ended, queue := [] }⟩

def bridgeStep (b : Bridge) : BridgeAct → Option (Bridge × Option DaemonItem)
  | .accept =>
    if b.phase = .idle then
      some (⟨.activating, { b.socket with connected := true, registered := true }⟩, none)
    else none
  | .activate =>
    if b.phase = .activating then some ({ b with phase := .waiting }, some .activeSlave) else none
  | .activateFail => if b.phase = .activating then some (b.giveUp, none) else none
  | .await =>
    if b.phase = .waiting then
      match b.socket.queue with
      | [] :: queue =>
        let socket := { b.socket with queue := queue, reader := .reading, writer := .receiving }
        some (⟨.bridging, socket⟩, none)
      | (_ :: _) :: queue => some ({ b with socket := { b.socket with queue := queue } }, none)
      | [] => if b.socket.registered then none else some (b.giveUp, none)
    else none
  | .timeout => if b.phase = .waiting then some (b.giveUp, none) else none
  | .copy act =>
    (copyStep true b.socket act).map fun (socket, out) => ({ b with socket }, out.map .data)
  | .join =>
    if b.phase = .bridging ∧ b.socket.reader = .over ∧ b.socket.writer = .ended then
      some (⟨.freeing, b.socket.unregister⟩, none)
    else none
  | .free => if b.phase = .freeing then some ({ b with phase := .closed }, some .freeContext) else none

/-! The connection. -/

/-- The daemon's main loop: idle, or in the `ForwardActiveSlave` arm for `conn`, where
it connects and then, with the tasks spawned or the connection refused, is to send
its answer. -/
inductive Handler (α : Type) where
  | idle
  | connecting (conn : α)
  | connected (conn : α)
  | refused (conn : α)
  deriving DecidableEq, Repr

structure Link where
  bridge : Bridge
  /-- The daemon's side. -/
  conn : Endpoint
  handler : Handler Unit
  toDaemon : List DaemonItem
  toHost : List HostItem
  deriving DecidableEq, Repr

def Link.init : Link := ⟨.fresh, .fresh, .idle, [], []⟩

inductive LinkAct where
  | host (act : BridgeAct)
  | dispatch
  | daemon (act : CopyAct)
  /-- The daemon's reader sends its `ForwardFreeContext`. -/
  | free
  /-- The daemon's main loop takes the next message. -/
  | take
  | connect (ok : Bool)
  | reply
  | closeChannel
  deriving DecidableEq, Repr

/-- The entry of `fport_senders` and the two tasks, for a socket just connected. -/
def Endpoint.start (e : Endpoint) : Endpoint :=
  { e with connected := true, registered := true, reader := .reading, writer := .receiving }

/-- What the dispatcher does with an item. -/
def Endpoint.dispatch (e : Endpoint) : HostItem → Endpoint
  | .deliver item => e.deliver item
  | .release => e.unregister

def linkStep (l : Link) : LinkAct → Option Link
  | .host act =>
    (bridgeStep l.bridge act).map fun (bridge, out) =>
      { l with bridge, toDaemon := l.toDaemon ++ out.toList }
  | .dispatch =>
    match l.toHost with
    | item :: toHost =>
      some { l with toHost, bridge := { l.bridge with socket := l.bridge.socket.dispatch item } }
    | [] => none
  | .daemon act =>
    (copyStep false l.conn act).map fun (conn, out) =>
      { l with conn, toHost := l.toHost ++ (out.map .deliver).toList }
  | .free =>
    if l.conn.reader = .over then
      some { l with conn := { l.conn with reader := .ended }, toHost := l.toHost ++ [.release] }
    else none
  | .take =>
    match l.handler, l.toDaemon with
    | .idle, .activeSlave :: toDaemon => some { l with toDaemon, handler := .connecting () }
    | .idle, .data data :: toDaemon => some { l with toDaemon, conn := l.conn.deliver data }
    | .idle, .freeContext :: toDaemon => some { l with toDaemon, conn := l.conn.unregister }
    | _, _ => none
  | .connect ok =>
    match l.handler with
    | .connecting _ =>
      some (if ok then { l with handler := .connected (), conn := l.conn.start }
        else { l with handler := .refused () })
    | _ => none
  | .reply =>
    match l.handler with
    | .connected _ => some { l with handler := .idle, toHost := l.toHost ++ [.deliver []] }
    | .refused _ => some { l with handler := .idle, toHost := l.toHost ++ [.release] }
    | _ => none
  | .closeChannel => some { l with conn := l.conn.unregister }

/-- The steps but one: the daemon's reader does not send data before the handler has
sent `ForwardActiveMaster`. -/
def Link.NoEarlyData (l : Link) (act : LinkAct) : Prop :=
  act = .daemon .send → l.handler ≠ .connected ()

/-! The activation of a connection. -/

/-- Before the bridge spawns its tasks. -/
def BridgePhase.Early (p : BridgePhase) : Prop := p = .idle ∨ p = .activating ∨ p = .waiting

def HostItem.item? : HostItem → Option (List UInt8)
  | .deliver item => some item
  | .release => none

def DaemonItem.data? : DaemonItem → Option (List UInt8)
  | .data bytes => some bytes
  | _ => none

/-- The items on their way to the host's queue, and to the daemon's. -/
def Link.items (l : Link) : List (List UInt8) := l.toHost.filterMap HostItem.item?

def Link.datas (l : Link) : List (List UInt8) := l.toDaemon.filterMap DaemonItem.data?

/-- The `ForwardActiveSlave` of the connection, wherever it is: on its way, in the
handler, or turned into the daemon's side of the connection. -/
def Link.slaves (l : Link) : Nat :=
  l.toDaemon.count .activeSlave + (if l.handler = .connecting () then 1 else 0) +
    (if l.conn.connected then 1 else 0)

/-- The first item of the list, if there is one, is empty. -/
def StartsEmpty (items : List (List UInt8)) : Prop := ∀ item ∈ items.head?, item = []

theorem StartsEmpty.nil : StartsEmpty [] := by simp [StartsEmpty]

theorem StartsEmpty.left {xs ys : List (List UInt8)} (h : StartsEmpty (xs ++ ys)) :
    StartsEmpty xs := by
  cases xs with
  | nil => exact .nil
  | cons x xs => exact h

/-- Items put behind a list that has a first one do not matter. -/
theorem StartsEmpty.append {xs : List (List UInt8)} (h : StartsEmpty xs) (hne : xs ≠ [])
    (ys : List (List UInt8)) : StartsEmpty (xs ++ ys) := by
  cases xs with
  | nil => exact absurd rfl hne
  | cons x xs => exact h

/-- Nor does an empty item put behind any list. -/
theorem StartsEmpty.append_empty {xs : List (List UInt8)} (h : StartsEmpty xs) :
    StartsEmpty (xs ++ [[]]) := by
  cases xs with
  | nil => simp [StartsEmpty]
  | cons x xs => exact h

/-- How far the two sides are, and that the first item the host waits for is the
empty one. -/
structure Activation (l : Link) : Prop where
  idle : l.bridge.phase = .idle → l.bridge.socket = .fresh
  early : l.bridge.phase.Early →
    l.bridge.socket.reader = .notSpawned ∧ l.bridge.socket.writer = .notSpawned
  unread : l.bridge.socket.reader = .notSpawned →
    l.bridge.socket.unread = l.bridge.socket.sent ∧ l.datas = []
  unconnected : l.conn.connected = false →
    l.conn = .fresh ∧ l.items = [] ∧ l.bridge.socket.reader = .notSpawned ∧
      l.bridge.socket.queue = []
  handler : l.handler = .connected () → l.conn.connected = true
  once : l.slaves ≤ 1
  notYet : l.bridge.phase = .idle ∨ l.bridge.phase = .activating → l.slaves = 0
  first : l.bridge.phase.Early → StartsEmpty l.bridge.socket.queue
  firstSent : l.bridge.phase.Early → l.bridge.socket.registered = true →
    StartsEmpty (l.bridge.socket.queue ++ l.items)
  activated : l.bridge.phase.Early → l.bridge.socket.registered = true →
    l.conn.connected = true → l.handler ≠ .connected () → l.bridge.socket.queue ++ l.items ≠ []

/-- Once the bridge has left its early phases, nothing is left to be activated. -/
theorem Activation.of_late {l : Link} (hlate : ¬ l.bridge.phase.Early)
    (unread : l.bridge.socket.reader = .notSpawned →
      l.bridge.socket.unread = l.bridge.socket.sent ∧ l.datas = [])
    (unconnected : l.conn.connected = false → l.conn = .fresh ∧ l.items = [] ∧
      l.bridge.socket.reader = .notSpawned ∧ l.bridge.socket.queue = [])
    (handler : l.handler = .connected () → l.conn.connected = true)
    (once : l.slaves ≤ 1) : Activation l where
  idle := fun hp => absurd (.inl hp) hlate
  early := fun he => absurd he hlate
  unread := unread
  unconnected := unconnected
  handler := handler
  once := once
  notYet := by
    rintro (hp | hp)
    · exact absurd (.inl hp) hlate
    · exact absurd (.inr (.inl hp)) hlate
  first := fun he => absurd he hlate
  firstSent := fun he => absurd he hlate
  activated := fun he => absurd he hlate

/-- Steps of the daemon that neither connect nor answer. -/
theorem Activation.frame {l l' : Link} (h : Activation l) (hbridge : l'.bridge = l.bridge)
    (hitems : l'.items = l.items) (hdatas : l.datas = [] → l'.datas = [])
    (hslaves : l'.slaves ≤ l.slaves) (hconn : l'.conn.connected = l.conn.connected)
    (hfresh : l.conn = .fresh → l'.conn = .fresh)
    (hhandler : l'.handler = .connected () ↔ l.handler = .connected ()) : Activation l' where
  idle := hbridge ▸ h.idle
  early := hbridge ▸ h.early
  unread := by
    rw [hbridge]
    intro hr
    exact ⟨(h.unread hr).1, hdatas (h.unread hr).2⟩
  unconnected := by
    rw [hconn, hitems, hbridge]
    intro hc
    obtain ⟨hf, hrest⟩ := h.unconnected hc
    exact ⟨hfresh hf, hrest⟩
  handler := by
    rw [hconn, hhandler]
    exact h.handler
  once := Nat.le_trans hslaves h.once
  notYet := by
    rw [hbridge]
    intro hp
    exact Nat.le_zero.mp ((h.notYet hp) ▸ hslaves)
  first := hbridge ▸ h.first
  firstSent := by
    rw [hbridge, hitems]
    exact h.firstSent
  activated := by
    rw [hbridge, hitems, hconn, Ne, hhandler]
    exact h.activated

structure LinkInv (l : Link) : Prop where
  up : Stream l.conn l.bridge.socket l.items
  down : Stream l.bridge.socket l.conn l.datas
  activation : Activation l

theorem LinkInv.init : LinkInv Link.init where
  up := .opened rfl rfl rfl
  down := .opened rfl rfl rfl
  activation := by
    constructor <;> simp [Link.init, Bridge.fresh, Endpoint.fresh, Link.datas, Link.items,
      Link.slaves, StartsEmpty]

section
variable {l : Link}

/-! The host's steps. -/

theorem LinkInv.accept (h : LinkInv l) (hphase : l.bridge.phase = .idle) :
    LinkInv { l with bridge :=
      ⟨.activating, { l.bridge.socket with connected := true, registered := true }⟩ } := by
  have hsocket := h.activation.idle hphase
  have hslaves := h.activation.notYet (.inl hphase)
  have hconn : l.conn.connected = false := by
    simp only [Link.slaves] at hslaves
    by_contra hc
    simp [hc] at hslaves
  obtain ⟨hfresh, hitems, -, -⟩ := h.activation.unconnected hconn
  exact {
    up := by
      show Stream l.conn _ l.items
      rw [hitems, hfresh, hsocket]
      exact .opened rfl rfl rfl
    down := h.down.of_src rfl rfl (fun hl => ⟨hl, rfl⟩)
    activation := {
      idle := by simp
      early := fun _ => h.activation.early (.inl hphase)
      unread := h.activation.unread
      unconnected := h.activation.unconnected
      handler := h.activation.handler
      once := h.activation.once
      notYet := fun _ => hslaves
      first := fun _ => h.activation.first (.inl hphase)
      firstSent := by
        intro _ _
        show StartsEmpty (l.bridge.socket.queue ++ l.items)
        rw [hitems, List.append_nil]
        exact h.activation.first (.inl hphase)
      activated := by
        intro _ _ hc
        exact absurd hc (by simp [hconn]) } }

/-- Sending `ForwardActiveSlave`. -/
theorem LinkInv.activate (h : LinkInv l) (hphase : l.bridge.phase = .activating) :
    LinkInv { l with
      bridge := { l.bridge with phase := .waiting }
      toDaemon := l.toDaemon ++ [.activeSlave] } := by
  have hearly : l.bridge.phase.Early := .inr (.inl hphase)
  have hslaves := h.activation.notYet (.inr hphase)
  have hdatas : Link.datas { l with
      bridge := { l.bridge with phase := .waiting }
      toDaemon := l.toDaemon ++ [.activeSlave] } = l.datas := by
    simp [Link.datas, DaemonItem.data?]
  exact {
    up := h.up
    down := hdatas ▸ h.down
    activation := {
      idle := by simp
      early := fun _ => h.activation.early hearly
      unread := hdatas ▸ h.activation.unread
      unconnected := h.activation.unconnected
      handler := h.activation.handler
      once := by
        simp only [Link.slaves, List.count_append, List.count_singleton_self] at hslaves ⊢
        omega
      notYet := by simp
      first := fun _ => h.activation.first hearly
      firstSent := fun _ => h.activation.firstSent hearly
      activated := fun _ => h.activation.activated hearly } }

/-- The bridge gives up before it has spawned its tasks. -/
theorem LinkInv.giveUp (h : LinkInv l) : LinkInv { l with bridge := l.bridge.giveUp } where
  up := by
    refine h.up.of_dst ?_ (fun ho => absurd ho.1 (by simp [Bridge.giveUp]))
    simp [Endpoint.accepted, Bridge.giveUp, WriteTask.rest]
  down := h.down.of_src rfl rfl (fun hl => ⟨hl, rfl⟩)
  activation := by
    refine .of_late (by simp [Bridge.giveUp, BridgePhase.Early]) h.activation.unread ?_
      h.activation.handler h.activation.once
    intro hc
    obtain ⟨hfresh, hitems, hreader, -⟩ := h.activation.unconnected hc
    exact ⟨hfresh, hitems, hreader, rfl⟩

/-- The empty item arrives and the tasks are spawned. -/
theorem LinkInv.spawn (h : LinkInv l) (hphase : l.bridge.phase = .waiting)
    {queue : List (List UInt8)} (hqueue : l.bridge.socket.queue = [] :: queue) :
    LinkInv { l with bridge := ⟨.bridging, { l.bridge.socket with
      queue := queue, reader := .reading, writer := .receiving }⟩ } := by
  have hearly : l.bridge.phase.Early := .inr (.inr hphase)
  obtain ⟨hreader, hwriter⟩ := h.activation.early hearly
  exact {
    up := by
      have hacc : ({ l.bridge.socket with
          queue := queue, reader := .reading, writer := .receiving } : Endpoint).accepted =
          l.bridge.socket.accepted := by
        simp [Endpoint.accepted, hqueue, hwriter, WriteTask.rest]
      refine h.up.of_dst (hacc ▸ List.prefix_rfl) ?_
      intro ho
      exact ⟨⟨ho.1, by simp [hwriter]⟩, hacc⟩
    down := h.down.of_src rfl (by simp [hreader, ReadTask.pending])
      (fun _ => ⟨by simp [hreader, ReadTask.Live], rfl⟩)
    activation := by
      refine .of_late (by simp [BridgePhase.Early]) (by simp) ?_ h.activation.handler
        h.activation.once
      -- the item came from the daemon's side
      intro hc
      have := (h.activation.unconnected hc).2.2.2
      rw [hqueue] at this
      cases this }

theorem LinkInv.join (h : LinkInv l) (hreader : l.bridge.socket.reader = .over) :
    LinkInv { l with bridge := ⟨.freeing, l.bridge.socket.unregister⟩ } where
  up := h.up.unregister
  down := h.down.of_src rfl rfl (fun hl => ⟨hl, rfl⟩)
  activation := .of_late (by simp [BridgePhase.Early]) (by simp [Endpoint.unregister, hreader])
    h.activation.unconnected h.activation.handler h.activation.once

theorem LinkInv.hostFree (h : LinkInv l) :
    LinkInv { l with
      bridge := { l.bridge with phase := .closed }
      toDaemon := l.toDaemon ++ [.freeContext] } := by
  have hdatas : Link.datas { l with
      bridge := { l.bridge with phase := .closed }
      toDaemon := l.toDaemon ++ [.freeContext] } = l.datas := by
    simp [Link.datas, DaemonItem.data?]
  have hslaves : Link.slaves { l with
      bridge := { l.bridge with phase := .closed }
      toDaemon := l.toDaemon ++ [.freeContext] } = l.slaves := by
    simp [Link.slaves]
  refine ⟨h.up, hdatas ▸ h.down, ?_⟩
  exact .of_late (by simp [BridgePhase.Early]) (hdatas ▸ h.activation.unread)
    h.activation.unconnected h.activation.handler (hslaves ▸ h.activation.once)

theorem LinkInv.hostCopy (h : LinkInv l) {act : CopyAct} {socket : Endpoint}
    {out : Option (List UInt8)} (hstep : copyStep true l.bridge.socket act = some (socket, out)) :
    LinkInv { l with
      bridge := { l.bridge with socket }
      toDaemon := l.toDaemon ++ (out.map DaemonItem.data).toList } := by
  obtain ⟨-, hreg, hreader, hwriter, hout, hqueue⟩ := copyStep_frame hstep
  have hdatas : Link.datas { l with
      bridge := { l.bridge with socket }
      toDaemon := l.toDaemon ++ (out.map DaemonItem.data).toList } = l.datas ++ out.toList := by
    cases out <;> simp [Link.datas, DaemonItem.data?]
  have hslaves : Link.slaves { l with
      bridge := { l.bridge with socket }
      toDaemon := l.toDaemon ++ (out.map DaemonItem.data).toList } = l.slaves := by
    cases out <;> simp [Link.slaves]
  -- before the tasks are spawned the queue is as it was
  have hearly : l.bridge.phase.Early → socket.queue = l.bridge.socket.queue :=
    fun he => (hwriter (h.activation.early he).2).2
  exact {
    up := h.up.dst_step hstep
    down := by
      rw [hdatas]
      exact h.down.src_step hstep
    activation := {
      idle := by
        intro hphase
        rw [h.activation.idle hphase, copyStep_fresh] at hstep
        cases hstep
      early := by
        intro he
        obtain ⟨hr, hw⟩ := h.activation.early he
        exact ⟨hreader.mpr hr, (hwriter hw).1⟩
      unread := by
        intro hr
        have hr' := hreader.mp hr
        obtain ⟨hu, hd⟩ := h.activation.unread hr'
        obtain ⟨rfl, hkeep⟩ := hout hr'
        refine ⟨hkeep hu, ?_⟩
        rw [hdatas, hd]
        rfl
      unconnected := by
        intro hc
        obtain ⟨hfresh, hitems, hr, hq⟩ := h.activation.unconnected hc
        exact ⟨hfresh, hitems, hreader.mpr hr, hqueue hq⟩
      handler := h.activation.handler
      once := hslaves ▸ h.activation.once
      notYet := hslaves ▸ h.activation.notYet
      first := by
        intro he
        rw [hearly he]
        exact h.activation.first he
      firstSent := by
        intro he hr
        rw [hearly he]
        exact h.activation.firstSent he (hreg ▸ hr)
      activated := by
        intro he hr
        rw [hearly he]
        exact h.activation.activated he (hreg ▸ hr) } }

/-! The dispatcher. -/

theorem LinkInv.deliver (h : LinkInv l) {item : List UInt8} {toHost : List HostItem}
    (htoHost : l.toHost = .deliver item :: toHost) :
    LinkInv { l with
      toHost, bridge := { l.bridge with socket := l.bridge.socket.deliver item } } := by
  have hitems : l.items = item :: toHost.filterMap HostItem.item? := by
    simp [Link.items, htoHost, HostItem.item?]
  -- while the bridge waits, a registered queue takes the item
  have htake : l.bridge.phase.Early → l.bridge.socket.registered = true →
      (l.bridge.socket.deliver item).queue ++ toHost.filterMap HostItem.item? =
        l.bridge.socket.queue ++ l.items := by
    intro he hr
    have hw := (h.activation.early he).2
    rw [Endpoint.deliver, if_pos ⟨hr, by simp [hw]⟩, hitems]
    simp
  obtain ⟨-, hreg, hreader, hwriter, hunread, hsent⟩ := l.bridge.socket.deliver_frame item
  exact {
    up := Stream.deliver (hitems ▸ h.up)
    down := h.down.of_src hsent (by rw [hreader]) (fun hl => ⟨hreader ▸ hl, hunread⟩)
    activation := {
      idle := by
        intro hp
        show l.bridge.socket.deliver item = .fresh
        rw [h.activation.idle hp]
        rfl
      early := by
        show _ → (l.bridge.socket.deliver item).reader = _ ∧ (l.bridge.socket.deliver item).writer = _
        rw [hreader, hwriter]
        exact h.activation.early
      unread := by
        show (l.bridge.socket.deliver item).reader = _ →
          (l.bridge.socket.deliver item).unread = (l.bridge.socket.deliver item).sent ∧ _
        rw [hreader, hunread, hsent]
        exact h.activation.unread
      unconnected := by
        intro hc
        have := (h.activation.unconnected hc).2.1
        rw [hitems] at this
        cases this
      handler := h.activation.handler
      once := h.activation.once
      notYet := h.activation.notYet
      first := by
        intro he
        by_cases hr : l.bridge.socket.registered = true
        · have hfirst := h.activation.firstSent he hr
          rw [← htake he hr] at hfirst
          exact hfirst.left
        · show StartsEmpty (l.bridge.socket.deliver item).queue
          rw [Endpoint.deliver, if_neg (fun ho => hr ho.1)]
          exact h.activation.first he
      firstSent := by
        intro he hr
        have hr' := hreg.symm.trans hr
        exact (htake he hr').symm ▸ h.activation.firstSent he hr'
      activated := by
        intro he hr
        have hr' := hreg.symm.trans hr
        exact (htake he hr').symm ▸ h.activation.activated he hr' } }

theorem LinkInv.release (h : LinkInv l) {toHost : List HostItem}
    (htoHost : l.toHost = .release :: toHost) :
    LinkInv { l with
      toHost, bridge := { l.bridge with socket := l.bridge.socket.unregister } } := by
  have hitems : l.items = toHost.filterMap HostItem.item? := by
    rw [Link.items, htoHost]
    rfl
  exact {
    up := by
      show Stream _ _ (toHost.filterMap HostItem.item?)
      exact hitems ▸ h.up.unregister
    down := h.down.of_src rfl rfl (fun hl => ⟨hl, rfl⟩)
    activation := {
      idle := by
        intro hp
        show l.bridge.socket.unregister = .fresh
        rw [h.activation.idle hp]
        rfl
      early := h.activation.early
      unread := h.activation.unread
      unconnected := by
        intro hc
        obtain ⟨hfresh, hi, hrest⟩ := h.activation.unconnected hc
        exact ⟨hfresh, hitems.symm.trans hi, hrest⟩
      handler := h.activation.handler
      once := h.activation.once
      notYet := h.activation.notYet
      first := h.activation.first
      firstSent := by simp [Endpoint.unregister]
      activated := by simp [Endpoint.unregister] } }

/-! The daemon's steps. -/

/-- The one lemma that needs the side condition: data sent to a bridge that still
waits stands behind the empty item. -/
theorem LinkInv.daemonCopy (h : LinkInv l) {act : CopyAct} {conn : Endpoint}
    {out : Option (List UInt8)} (hstep : copyStep false l.conn act = some (conn, out))
    (hok : l.NoEarlyData (.daemon act)) :
    LinkInv { l with conn, toHost := l.toHost ++ (out.map HostItem.deliver).toList } := by
  obtain ⟨hconnected, -⟩ := copyStep_frame hstep
  have hitems : Link.items { l with
      conn, toHost := l.toHost ++ (out.map HostItem.deliver).toList } = l.items ++ out.toList := by
    cases out <;> simp [Link.items, HostItem.item?]
  have hslaves : Link.slaves { l with
      conn, toHost := l.toHost ++ (out.map HostItem.deliver).toList } = l.slaves := by
    simp only [Link.slaves, hconnected]
  have hconn : l.conn.connected = true := by
    by_contra hc
    rw [(h.activation.unconnected (by simpa using hc)).1, copyStep_fresh] at hstep
    cases hstep
  exact {
    up := by
      rw [hitems]
      exact h.up.src_step hstep
    down := h.down.dst_step hstep
    activation := {
      idle := h.activation.idle
      early := h.activation.early
      unread := h.activation.unread
      unconnected := by
        intro hc
        rw [hconnected, hconn] at hc
        cases hc
      handler := fun _ => hconnected.trans hconn
      once := hslaves ▸ h.activation.once
      notYet := hslaves ▸ h.activation.notYet
      first := h.activation.first
      firstSent := by
        intro he hr
        have hfirst := h.activation.firstSent he hr
        rw [hitems, ← List.append_assoc]
        cases out with
        | none =>
          rw [Option.toList_none, List.append_nil]
          exact hfirst
        | some data =>
          have hhandler := hok (by rw [copyStep_out hstep])
          exact hfirst.append (h.activation.activated he hr hconn hhandler) _
      activated := by
        intro he hr _ hhandler hnil
        rw [hitems, ← List.append_assoc] at hnil
        exact h.activation.activated he hr hconn hhandler (List.append_eq_nil_iff.mp hnil).1 } }

/-- The reader's `ForwardFreeContext`. -/
theorem LinkInv.daemonFree (h : LinkInv l) (hreader : l.conn.reader = .over) :
    LinkInv { l with
      conn := { l.conn with reader := .ended }, toHost := l.toHost ++ [.release] } := by
  have hitems : Link.items { l with
      conn := { l.conn with reader := .ended }, toHost := l.toHost ++ [.release] } = l.items := by
    simp [Link.items, HostItem.item?]
  refine ⟨?_, h.down.of_dst List.prefix_rfl (fun ho => ⟨ho, rfl⟩), ?_⟩
  · rw [hitems]
    exact h.up.of_src rfl (by simp [hreader, ReadTask.pending]) (by simp [ReadTask.Live])
  · refine h.activation.frame rfl hitems id (Nat.le_refl _) rfl ?_ Iff.rfl
    intro hfresh
    rw [hfresh] at hreader
    cases hreader

theorem LinkInv.takeSlave (h : LinkInv l) {toDaemon : List DaemonItem}
    (hhandler : l.handler = .idle) (htoDaemon : l.toDaemon = .activeSlave :: toDaemon) :
    LinkInv { l with toDaemon, handler := .connecting () } := by
  have hdatas : l.datas = toDaemon.filterMap DaemonItem.data? := by
    rw [Link.datas, htoDaemon]
    rfl
  refine ⟨h.up, ?_, ?_⟩
  · show Stream _ _ (toDaemon.filterMap DaemonItem.data?)
    exact hdatas ▸ h.down
  · refine h.activation.frame rfl rfl (fun hd => hdatas.symm.trans hd) ?_ rfl id (by simp [hhandler])
    simp only [Link.slaves, htoDaemon, hhandler, List.count_cons_self]
    simp only [reduceCtorEq, if_true, if_false]
    omega

theorem LinkInv.takeData (h : LinkInv l) {toDaemon : List DaemonItem} {data : List UInt8}
    (htoDaemon : l.toDaemon = .data data :: toDaemon) :
    LinkInv { l with toDaemon, conn := l.conn.deliver data } := by
  have hdatas : l.datas = data :: toDaemon.filterMap DaemonItem.data? := by
    rw [Link.datas, htoDaemon]
    rfl
  obtain ⟨hconnected, -, hreader, -, hunread, hsent⟩ := l.conn.deliver_frame data
  refine ⟨?_, Stream.deliver (hdatas ▸ h.down), ?_⟩
  · exact h.up.of_src hsent (by rw [hreader]) (fun hl => ⟨hreader ▸ hl, hunread⟩)
  · refine h.activation.frame rfl rfl (by simp [hdatas]) ?_ hconnected ?_ Iff.rfl
    · simp [Link.slaves, htoDaemon, hconnected]
    · intro hfresh
      rw [hfresh]
      rfl

theorem LinkInv.takeFree (h : LinkInv l) {toDaemon : List DaemonItem}
    (htoDaemon : l.toDaemon = .freeContext :: toDaemon) :
    LinkInv { l with toDaemon, conn := l.conn.unregister } := by
  have hdatas : l.datas = toDaemon.filterMap DaemonItem.data? := by
    rw [Link.datas, htoDaemon]
    rfl
  refine ⟨h.up.of_src rfl rfl (fun hl => ⟨hl, rfl⟩), ?_, ?_⟩
  · show Stream _ _ (toDaemon.filterMap DaemonItem.data?)
    exact hdatas ▸ h.down.unregister
  · refine h.activation.frame rfl rfl (fun hd => hdatas.symm.trans hd) (Nat.le_of_eq ?_) rfl ?_
      Iff.rfl
    · rw [Link.slaves, Link.slaves, htoDaemon, List.count_cons_of_ne (by decide)]
      rfl
    · intro hfresh
      show l.conn.unregister = .fresh
      rw [hfresh]
      rfl

theorem LinkInv.closeChannel (h : LinkInv l) : LinkInv { l with conn := l.conn.unregister } := by
  refine ⟨h.up.of_src rfl rfl (fun hl => ⟨hl, rfl⟩), h.down.unregister, ?_⟩
  refine h.activation.frame rfl rfl id (Nat.le_refl _) rfl ?_ Iff.rfl
  intro hfresh
  show l.conn.unregister = .fresh
  rw [hfresh]
  rfl

theorem LinkInv.connected (h : LinkInv l) (hhandler : l.handler = .connecting ()) :
    LinkInv { l with handler := .connected (), conn := l.conn.start } := by
  have honce := h.activation.once
  have hconn : l.conn.connected = false := by
    by_contra hc
    rw [Bool.not_eq_false] at hc
    simp [Link.slaves, hhandler, hc] at honce
  obtain ⟨hfresh, hitems, hreader, hqueue⟩ := h.activation.unconnected hconn
  obtain ⟨hunread, hdatas⟩ := h.activation.unread hreader
  have hslaves : Link.slaves { l with handler := .connected (), conn := l.conn.start } = l.slaves := by
    simp [Link.slaves, hhandler, hconn, Endpoint.start]
  exact {
    up := h.up.of_src rfl (by simp [hfresh, Endpoint.start, Endpoint.fresh, ReadTask.pending])
      (fun _ => ⟨by simp [hfresh, Endpoint.fresh, ReadTask.Live], rfl⟩)
    down := by
      show Stream l.bridge.socket l.conn.start l.datas
      rw [hdatas, hfresh]
      exact .opened rfl (by simp [hreader, ReadTask.pending]) hunread
    activation := {
      idle := h.activation.idle
      early := h.activation.early
      unread := h.activation.unread
      unconnected := by simp [Endpoint.start]
      handler := by simp [Endpoint.start]
      once := hslaves ▸ honce
      notYet := hslaves ▸ h.activation.notYet
      first := h.activation.first
      firstSent := h.activation.firstSent
      activated := by simp } }

theorem LinkInv.refused (h : LinkInv l) (hhandler : l.handler = .connecting ()) :
    LinkInv { l with handler := .refused () } := by
  refine ⟨h.up, h.down, h.activation.frame rfl rfl id ?_ rfl id (by simp [hhandler])⟩
  simp [Link.slaves, hhandler]

/-- `ForwardActiveMaster` puts the empty item behind whatever is on its way, which is
nothing. -/
theorem LinkInv.replyConnected (h : LinkInv l) (hhandler : l.handler = .connected ()) :
    LinkInv { l with handler := .idle, toHost := l.toHost ++ [.deliver []] } := by
  have hitems : Link.items { l with
      handler := .idle, toHost := l.toHost ++ [.deliver []] } = l.items ++ [[]] := by
    simp [Link.items, HostItem.item?]
  have hslaves : Link.slaves { l with
      handler := .idle, toHost := l.toHost ++ [.deliver []] } = l.slaves := by
    simp [Link.slaves, hhandler]
  have hconn := h.activation.handler hhandler
  exact {
    up := by
      rw [hitems]
      refine ⟨h.up.accepted, ?_, ?_⟩
      · simpa using h.up.taken
      · simpa using h.up.whole
    down := h.down
    activation := {
      idle := h.activation.idle
      early := h.activation.early
      unread := h.activation.unread
      unconnected := by
        intro hc
        exact absurd hconn (by simpa using hc)
      handler := by simp
      once := hslaves ▸ h.activation.once
      notYet := hslaves ▸ h.activation.notYet
      first := h.activation.first
      firstSent := by
        intro he hr
        rw [hitems, ← List.append_assoc]
        exact (h.activation.firstSent he hr).append_empty
      activated := by
        intro _ _ _ _
        rw [hitems]
        simp } }

theorem LinkInv.replyRefused (h : LinkInv l) (hhandler : l.handler = .refused ()) :
    LinkInv { l with handler := .idle, toHost := l.toHost ++ [.release] } := by
  have hitems : Link.items { l with
      handler := .idle, toHost := l.toHost ++ [.release] } = l.items := by
    simp [Link.items, HostItem.item?]
  refine ⟨hitems ▸ h.up, h.down, ?_⟩
  refine h.activation.frame rfl hitems id ?_ rfl id (by simp [hhandler])
  simp [Link.slaves, hhandler]

/-! Whole runs. -/

theorem LinkInv.host (h : LinkInv l) {act : BridgeAct} {bridge : Bridge}
    {out : Option DaemonItem} (hstep : bridgeStep l.bridge act = some (bridge, out)) :
    LinkInv { l with bridge, toDaemon := l.toDaemon ++ out.toList } := by
  cases act with
  | accept =>
    simp only [bridgeStep, Option.ite_none_right_eq_some] at hstep
    obtain ⟨hphase, hstep⟩ := hstep
    cases hstep
    simpa using h.accept hphase
  | activate =>
    simp only [bridgeStep, Option.ite_none_right_eq_some] at hstep
    obtain ⟨hphase, hstep⟩ := hstep
    cases hstep
    exact h.activate hphase
  | activateFail | timeout =>
    simp only [bridgeStep, Option.ite_none_right_eq_some] at hstep
    obtain ⟨-, hstep⟩ := hstep
    cases hstep
    simpa using h.giveUp
  | await =>
    simp only [bridgeStep, Option.ite_none_right_eq_some] at hstep
    obtain ⟨hphase, hstep⟩ := hstep
    split at hstep
    · rename_i queue hqueue
      cases hstep
      simpa using h.spawn hphase hqueue
    · rename_i b data queue hqueue
      -- what would be thrown away is not there
      have hfirst := h.activation.first (.inr (.inr hphase))
      rw [hqueue] at hfirst
      simp [StartsEmpty] at hfirst
    · split at hstep
      · cases hstep
      · cases hstep
        simpa using h.giveUp
  | copy act =>
    simp only [bridgeStep, Option.map_eq_some_iff] at hstep
    obtain ⟨⟨socket, data⟩, hcopy, hstep⟩ := hstep
    cases hstep
    exact h.hostCopy hcopy
  | join =>
    simp only [bridgeStep, Option.ite_none_right_eq_some] at hstep
    obtain ⟨⟨-, hreader, -⟩, hstep⟩ := hstep
    cases hstep
    simpa using h.join hreader
  | free =>
    simp only [bridgeStep, Option.ite_none_right_eq_some] at hstep
    obtain ⟨-, hstep⟩ := hstep
    cases hstep
    exact h.hostFree

theorem LinkInv.take (h : LinkInv l) {l' : Link} (hstep : linkStep l .take = some l') :
    LinkInv l' := by
  simp only [linkStep] at hstep
  split at hstep
  · cases hstep
    exact h.takeSlave ‹_› ‹_›
  · cases hstep
    exact h.takeData ‹_›
  · cases hstep
    exact h.takeFree ‹_›
  · cases hstep

theorem LinkInv.step {l' : Link} {act : LinkAct} (h : LinkInv l) (hok : l.NoEarlyData act)
    (hstep : linkStep l act = some l') : LinkInv l' := by
  cases act with
  | host act =>
    simp only [linkStep, Option.map_eq_some_iff] at hstep
    obtain ⟨⟨bridge, out⟩, hb, rfl⟩ := hstep
    exact h.host hb
  | dispatch =>
    simp only [linkStep] at hstep
    split at hstep
    · rename_i item toHost htoHost
      cases hstep
      cases item with
      | deliver item => exact h.deliver htoHost
      | release => exact h.release htoHost
    · cases hstep
  | daemon act =>
    simp only [linkStep, Option.map_eq_some_iff] at hstep
    obtain ⟨⟨conn, out⟩, hc, rfl⟩ := hstep
    exact h.daemonCopy hc hok
  | free =>
    simp only [linkStep, Option.ite_none_right_eq_some] at hstep
    obtain ⟨hreader, hstep⟩ := hstep
    cases hstep
    exact h.daemonFree hreader
  | take => exact h.take hstep
  | connect ok =>
    simp only [linkStep] at hstep
    split at hstep
    · rename_i hhandler
      cases hstep
      cases ok with
      | true => exact h.connected hhandler
      | false => exact h.refused hhandler
    · cases hstep
  | reply =>
    simp only [linkStep] at hstep
    split at hstep
    · cases hstep
      exact h.replyConnected ‹_›
    · cases hstep
      exact h.replyRefused ‹_›
    · cases hstep
  | closeChannel =>
    cases hstep
    exact h.closeChannel

end

/-- In every run of a connection in which the daemon's reader waits for
`ForwardActiveMaster`, both streams are kept. -/
theorem LinkInv.of_reaches {l : Link} (h : Reaches linkStep Link.NoEarlyData .init l) : LinkInv l :=
  h.invariant LinkInv.step .init

end Hdc
