import Hdc.DaemonTasks
import Hdc.ReaderRouting
import Hdc.ServerHandlers
import Mathlib.Data.Prod.Lex
import Mathlib.Order.WellFounded

/- A handler of the server at work with the daemon of its session, over TCP. The handler sends on
   its channel and takes what the daemon answers there off its response channel; the daemon serves
   the messages of the session one after the other; and the session is shared with whatever other
   tasks of either side send on other channels.

   `sharedStep` is the whole of it. Where the daemon's answers to the handler depend on nothing but
   the message, the handler could as well talk to a daemon that answers at once: that is
   `dialogStep`, with the answers the handler is owed as its only queue. A step of the session is one
   of the dialog or none (`sharedStep_dialog`), and what a dialog comes to in any case the session
   comes to in any case, however the messages are delayed and the other traffic is mixed in
   (`inevitable_session`). -/
namespace Hdc
open Rust Wire Lts

/-! The handler's end. -/

/-- A handler with its response channel. -/
structure HandlerEnd (σ α ω : Type) where
  handler : ServerHandler σ α ω
  channelId : UInt32
  /-- The step that takes a message of the daemon. -/
  recv : TaskMessage → α
  receives : α → Bool
  /-- Whether the response channel is registered. -/
  listens : σ → Bool

inductive EndAct (α : Type) where
  /-- The message of the handler's phase is written to the session, or that fails. -/
  | send
  | sendFails (e : IoError)
  | own (act : α)
  /-- The next message of the response channel is taken. -/
  | take
  deriving DecidableEq, Repr

/-- What a step of the handler leaves, sends and puts out. -/
structure EndMove (σ ω : Type) where
  host : σ
  inbox : List TaskMessage
  sent : List TaskMessage
  out : List ω

section
variable {σ α ω : Type} (e : HandlerEnd σ α ω)

def HandlerEnd.move (host : σ) (inbox : List TaskMessage) : EndAct α → Option (EndMove σ ω)
  | .send => (e.handler.sending host).map fun p => ⟨p.next, inbox, [p.msg], []⟩
  | .sendFails err => (e.handler.sending host).map fun p => ⟨p.failed err, inbox, [], []⟩
  | .own act =>
    if e.receives act then none
    else (e.handler.step host act).map fun (host, o) => ⟨host, inbox, [], [o]⟩
  | .take =>
    match inbox with
    | [] => none
    | task :: inbox =>
      (e.handler.step host (e.recv task)).map fun (host, o) => ⟨host, inbox, [], [o]⟩

/-- What the reader of the session puts on the response channel. -/
def HandlerEnd.routed (host : σ) (task : TaskMessage) : List TaskMessage :=
  if task.command = .heartbeatMsg then []
  else if e.listens host ∧ task.channelId = e.channelId then [task] else []

/-- The message handed to the handler of a channel. -/
def ReaderEffect.handed (channelId : UInt32) : ReaderEffect → Option TaskMessage
  | .toHandler c task => if c = channelId then some task else none
  | _ => none

/-- That is what the routing of the TCP reader hands to it, where the maps know the handler as long
as it listens. -/
theorem HandlerEnd.handed_tcpRouting (env : HostEnv) (sessionId : UInt32) (connectKey : String)
    {r : ReaderServer} {host : σ} (task : TaskMessage)
    (hmaps : ((r.usb.responseChannels sessionId e.channelId).isSome &&
      r.listening sessionId e.channelId) = e.listens host) :
    (tcpRouting env sessionId connectKey r task).2.filterMap (ReaderEffect.handed e.channelId) =
      e.routed host task := by
  have hsigned : (signedReply env sessionId connectKey task).filterMap
      (ReaderEffect.handed e.channelId) = [] := by
    unfold signedReply
    repeat' split
    all_goals rfl
  have hclient : ∀ data, (r.sendChannelMessage task.channelId data).filterMap
      (ReaderEffect.handed e.channelId) = [] := by
    intro data
    unfold ReaderServer.sendChannelMessage
    split <;> rfl
  unfold tcpRouting HandlerEnd.routed
  split
  · rfl
  · cases hregistered : r.usb.responseChannels sessionId task.channelId with
    | some registered =>
      simp only [ReaderServer.routeResponse, hregistered, Option.map_some]
      by_cases hc : task.channelId = e.channelId
      · rw [← hmaps, ← hc, hregistered]
        cases r.listening sessionId task.channelId <;> simp [ReaderEffect.handed]
      · cases r.listening sessionId task.channelId <;> simp [ReaderEffect.handed, hc]
    | none =>
      have hnot : ¬ (e.listens host = true ∧ task.channelId = e.channelId) := by
        intro hboth
        obtain ⟨hlistens, hc⟩ := hboth
        rw [← hmaps, ← hc, hregistered] at hlistens
        cases hlistens
      rw [if_neg hnot]
      simp only [ReaderServer.routeResponse, hregistered, Option.map_none]
      repeat' split
      all_goals first
        | exact hsigned
        | exact hclient _
        | rfl

/-! The session. -/

structure SharedRun (σ ω : Type) where
  host : σ
  /-- What the handler has put out. -/
  out : List ω
  inbox : List TaskMessage
  files : DaemonFiles
  /-- The daemon's main loop has not ended. -/
  running : Bool
  toDaemon : List TaskMessage
  toHost : List TaskMessage
  /-- What the daemon has served. -/
  served : List TaskMessage
  /-- What other tasks of the server, and of the daemon, have still to send. -/
  hostTraffic : List TaskMessage
  daemonTraffic : List TaskMessage

inductive SharedAct (α : Type) where
  | handler (act : EndAct α)
  /-- The reader of the session takes the next message. -/
  | route
  /-- The daemon serves the next message. -/
  | serve (env : TaskEnv)
  | hostSends
  | daemonSends

def sharedStep (sessionId : UInt32) (s : SharedRun σ ω) :
    SharedAct α → Option (SharedRun σ ω)
  | .handler act => (e.move s.host s.inbox act).map fun m =>
      { s with host := m.host, inbox := m.inbox, toDaemon := s.toDaemon ++ m.sent,
               out := s.out ++ m.out }
  | .route =>
    match s.toHost with
    | [] => none
    | task :: toHost => some { s with toHost, inbox := s.inbox ++ e.routed s.host task }
  | .serve env =>
    match s.running, s.toDaemon with
    | true, msg :: toDaemon =>
      let (files, replies, running) := serve env sessionId s.files msg
      some { s with files, running, toDaemon, toHost := s.toHost ++ replies,
                    served := s.served ++ [msg] }
    | _, _ => none
  | .hostSends =>
    match s.hostTraffic with
    | [] => none
    | msg :: hostTraffic => some { s with hostTraffic, toDaemon := s.toDaemon ++ [msg] }
  | .daemonSends =>
    match s.daemonTraffic with
    | [] => none
    | msg :: daemonTraffic => some { s with daemonTraffic, toHost := s.toHost ++ [msg] }

/-- `forward.rs` answers on the channel of the message. -/
def TaskEnv.AnswersThere (env : TaskEnv) : Prop :=
  ∀ msg, ForChannel msg.channelId (env.forward msg)

/-- Nothing but the message is looked at. -/
def TaskEnv.quiet : TaskEnv where
  shell := fun _ => .error ""
  reboot := .error ""
  mount := .error ""
  bm := fun _ => .error ""
  io := {}
  forward := fun _ => []
  forwardChannel := fun _ => false

theorem TaskEnv.quiet_answersThere : TaskEnv.quiet.AnswersThere := fun _ => ForChannel.nil

/-- The steps of a run, with a condition on those of the handler. -/
def SharedOk (okAct : EndAct α → Prop) (_ : SharedRun σ ω) : SharedAct α → Prop
  | .handler act => okAct act
  | .serve env => env.AnswersThere
  | _ => True

/-- The steps that are taken in time: what others send may come or not. -/
def SharedMust (okAct : EndAct α → Prop) (s : SharedRun σ ω) : SharedAct α → Prop
  | .hostSends | .daemonSends => False
  | act => SharedOk okAct s act

theorem SharedOk.of_must {okAct : EndAct α → Prop} (s : SharedRun σ ω) (a : SharedAct α)
    (h : SharedMust okAct s a) : SharedOk okAct s a := by
  cases a with
  | hostSends | daemonSends => cases h
  | _ => exact h

/-! The dialog on the handler's channel. -/

/-- The handler, the answers it is owed, and what it has sent. -/
structure Dialog (σ ω : Type) where
  host : σ
  out : List ω
  owed : List TaskMessage
  sent : List TaskMessage

inductive DialogAct (α : Type) where
  | handler (act : EndAct α)
  /-- An answer is not put on the response channel, since that is not registered. -/
  | lose (i : Nat)
  deriving DecidableEq, Repr

/-- `answers` is all there is of the daemon. -/
def dialogStep (answers : TaskMessage → List TaskMessage) (d : Dialog σ ω) :
    DialogAct α → Option (Dialog σ ω)
  | .handler act => (e.move d.host d.owed act).map fun m =>
      { host := m.host, out := d.out ++ m.out, owed := m.inbox ++ m.sent.flatMap answers,
        sent := d.sent ++ m.sent }
  | .lose i =>
    if e.listens d.host = false ∧ i < d.owed.length then some { d with owed := d.owed.eraseIdx i }
    else none

def DialogOk (okAct : EndAct α → Prop) (_ : Dialog σ ω) : DialogAct α → Prop
  | .handler act => okAct act
  | .lose _ => True

def DialogMust (okAct : EndAct α → Prop) (_ : Dialog σ ω) : DialogAct α → Prop
  | .handler act => okAct act
  | .lose _ => False

end

/-- The messages on a channel. -/
def onChannel (channelId : UInt32) (msgs : List TaskMessage) : List TaskMessage :=
  msgs.filter fun msg => msg.channelId = channelId

section
variable {c : UInt32} {msg : TaskMessage} (msgs msgs' : List TaskMessage)

@[simp] theorem onChannel_nil : onChannel c [] = [] := rfl

@[simp] theorem onChannel_append :
    onChannel c (msgs ++ msgs') = onChannel c msgs ++ onChannel c msgs' :=
  List.filter_append msgs msgs'

theorem onChannel_cons (h : msg.channelId = c) :
    onChannel c (msg :: msgs) = msg :: onChannel c msgs :=
  List.filter_cons_of_pos (by simpa using h)

theorem onChannel_cons_of_ne (h : msg.channelId ≠ c) :
    onChannel c (msg :: msgs) = onChannel c msgs :=
  List.filter_cons_of_neg (by simpa using h)

variable {msgs}

theorem ne_of_onChannel_cons (h : onChannel c (msg :: msgs) = []) : msg.channelId ≠ c := by
  intro hc
  rw [onChannel_cons _ hc] at h
  cases h

theorem ForChannel.onChannel_eq (h : ForChannel c msgs) : onChannel c msgs = msgs := by
  rw [onChannel, List.filter_eq_self]
  intro msg hmsg
  simpa using h msg hmsg

theorem onChannel_eq_nil (h : ∀ msg ∈ msgs, msg.channelId ≠ c) : onChannel c msgs = [] := by
  rw [onChannel, List.filter_eq_nil_iff]
  intro msg hmsg
  simpa using h msg hmsg

theorem ForChannel.onChannel_eq_nil {c' : UInt32} (h : ForChannel c' msgs) (hne : c' ≠ c) :
    onChannel c msgs = [] := by
  apply Hdc.onChannel_eq_nil
  intro msg hmsg
  rw [h msg hmsg]
  exact hne

end

section
variable {σ α ω : Type} (e : HandlerEnd σ α ω) (answers : TaskMessage → List TaskMessage)

/-- What the session looks like to the handler: it is owed what has been routed to it, what is on
its way, and the answers to what the daemon has not served yet. -/
def SharedRun.dialog (s : SharedRun σ ω) : Dialog σ ω where
  host := s.host
  out := s.out
  owed := s.inbox ++ onChannel e.channelId s.toHost ++
    (onChannel e.channelId s.toDaemon).flatMap answers
  sent := onChannel e.channelId s.served ++ onChannel e.channelId s.toDaemon

end

/-- The daemon's answers to a message of the handler do not depend on its state or on what it
starts. -/
structure Answered (sessionId channelId : UInt32) (answers : TaskMessage → List TaskMessage)
    (msg : TaskMessage) : Prop where
  channel : msg.channelId = channelId
  keepsServing : KeepsServing msg
  served : ∀ env d, (serve env sessionId d msg).2.1 = answers msg
  no_heartbeat : ∀ answer ∈ answers msg, answer.command ≠ .heartbeatMsg

theorem Answered.onChannel {sessionId channelId : UInt32}
    {answers : TaskMessage → List TaskMessage} {msg : TaskMessage}
    (h : Answered sessionId channelId answers msg) : ForChannel channelId (answers msg) := by
  have hquiet := @serve_channel .quiet sessionId ⟨fun _ => none, fun _ => none⟩ msg
    (TaskEnv.quiet_answersThere msg)
  rwa [h.served, h.channel] at hquiet

/-- So it is with all that the handler sends in the course of a dialog, of which `inv` is an
invariant. -/
structure HandlerEnd.TalksTo {σ α ω : Type} (e : HandlerEnd σ α ω) (sessionId : UInt32)
    (answers : TaskMessage → List TaskMessage) (okAct : EndAct α → Prop)
    (inv : Dialog σ ω → Prop) : Prop where
  sends : ∀ {d p}, inv d → e.handler.sending d.host = some p →
    Answered sessionId e.channelId answers p.msg
  step : ∀ {d a d'}, inv d → DialogOk okAct d a → dialogStep e answers d a = some d' → inv d'

section
variable {σ α ω : Type} {e : HandlerEnd σ α ω} {sessionId : UInt32}
  {answers : TaskMessage → List TaskMessage} {okAct mustAct : EndAct α → Prop}
  {inv : Dialog σ ω → Prop}

/-- The daemon serves, and what is on its way on the handler's channel was sent by the handler. -/
structure SharedRun.Sane (e : HandlerEnd σ α ω) (sessionId : UInt32)
    (answers : TaskMessage → List TaskMessage) (inv : Dialog σ ω → Prop) (s : SharedRun σ ω) :
    Prop where
  dialog : inv (s.dialog e answers)
  running : s.running = true
  sent : ∀ msg ∈ s.toDaemon, Answered sessionId e.channelId answers msg ∨
    msg.channelId ≠ e.channelId ∧ KeepsServing msg
  hostTraffic : ∀ msg ∈ s.hostTraffic, msg.channelId ≠ e.channelId ∧ KeepsServing msg
  daemonTraffic : ∀ msg ∈ s.daemonTraffic, msg.channelId ≠ e.channelId
  answered : ∀ msg ∈ s.toHost, msg.channelId = e.channelId → msg.command ≠ .heartbeatMsg

/-- A session in use by others, on which nothing has been sent on the handler's channel. -/
structure SharedRun.Opens (e : HandlerEnd σ α ω) (host : σ) (s : SharedRun σ ω) : Prop where
  host_eq : s.host = host
  out : s.out = []
  inbox : s.inbox = []
  running : s.running = true
  toDaemon : ∀ msg ∈ s.toDaemon, msg.channelId ≠ e.channelId ∧ KeepsServing msg
  toHost : ∀ msg ∈ s.toHost, msg.channelId ≠ e.channelId
  served : ∀ msg ∈ s.served, msg.channelId ≠ e.channelId
  hostTraffic : ∀ msg ∈ s.hostTraffic, msg.channelId ≠ e.channelId ∧ KeepsServing msg
  daemonTraffic : ∀ msg ∈ s.daemonTraffic, msg.channelId ≠ e.channelId

theorem SharedRun.Opens.dialog_eq {host : σ} {s : SharedRun σ ω} (h : s.Opens e host) :
    s.dialog e answers = ⟨host, [], [], []⟩ := by
  have hdaemon := onChannel_eq_nil fun msg hmsg => (h.toDaemon msg hmsg).1
  simp only [SharedRun.dialog, h.host_eq, h.out, h.inbox, hdaemon, onChannel_eq_nil h.toHost,
    onChannel_eq_nil h.served, List.flatMap_nil, List.append_nil]

theorem SharedRun.Opens.sane {host : σ} {s : SharedRun σ ω} (h : s.Opens e host)
    (hinv : inv ⟨host, [], [], []⟩) : s.Sane e sessionId answers inv where
  dialog := h.dialog_eq.symm ▸ hinv
  running := h.running
  sent := fun msg hmsg => .inr (h.toDaemon msg hmsg)
  hostTraffic := h.hostTraffic
  daemonTraffic := h.daemonTraffic
  answered := fun msg hmsg hc => absurd hc (h.toHost msg hmsg)

/-- What a step of the handler can do. -/
theorem HandlerEnd.move_cases {host : σ} {inbox : List TaskMessage} {act : EndAct α}
    {m : EndMove σ ω} (h : e.move host inbox act = some m) :
    (∃ p, act = .send ∧ e.handler.sending host = some p ∧ m = ⟨p.next, inbox, [p.msg], []⟩) ∨
    (∃ err p, act = .sendFails err ∧ e.handler.sending host = some p ∧
      m = ⟨p.failed err, inbox, [], []⟩) ∨
    (∃ own host' o, act = .own own ∧ e.receives own = false ∧
      e.handler.step host own = some (host', o) ∧ m = ⟨host', inbox, [], [o]⟩) ∨
    (∃ task inbox' host' o, act = .take ∧ inbox = task :: inbox' ∧
      e.handler.step host (e.recv task) = some (host', o) ∧ m = ⟨host', inbox', [], [o]⟩) := by
  cases act with
  | send =>
    obtain ⟨p, hp, rfl⟩ := Option.map_eq_some_iff.mp h
    exact .inl ⟨p, rfl, hp, rfl⟩
  | sendFails err =>
    obtain ⟨p, hp, rfl⟩ := Option.map_eq_some_iff.mp h
    exact .inr (.inl ⟨err, p, rfl, hp, rfl⟩)
  | own act =>
    rw [HandlerEnd.move] at h
    split at h
    · cases h
    · rename_i hown
      obtain ⟨⟨host', o⟩, hst, rfl⟩ := Option.map_eq_some_iff.mp h
      exact .inr (.inr (.inl ⟨act, host', o, rfl, by simpa using hown, hst, rfl⟩))
  | take =>
    cases inbox with
    | nil => cases h
    | cons task inbox =>
      obtain ⟨⟨host', o⟩, hst, rfl⟩ := Option.map_eq_some_iff.mp h
      exact .inr (.inr (.inr ⟨task, inbox, host', o, rfl, rfl, hst, rfl⟩))

/-- The messages of a step of the handler. -/
theorem SharedRun.Sane.move_sent (htalks : e.TalksTo sessionId answers okAct inv)
    {s : SharedRun σ ω} (hs : s.Sane e sessionId answers inv) {inbox : List TaskMessage}
    {act : EndAct α} {m : EndMove σ ω} (hmove : e.move s.host inbox act = some m) :
    ∀ msg ∈ m.sent, Answered sessionId e.channelId answers msg := by
  intro msg hmsg
  obtain ⟨p, -, hp, rfl⟩ | ⟨_, _, -, -, rfl⟩ | ⟨_, _, _, -, -, -, rfl⟩ |
    ⟨_, _, _, _, -, -, -, rfl⟩ := HandlerEnd.move_cases hmove
  · rw [List.mem_singleton.mp hmsg]
    exact htalks.sends hs.dialog hp
  all_goals cases hmsg

theorem HandlerEnd.routed_eq_nil {host : σ} {task : TaskMessage}
    (h : ¬ (e.listens host = true ∧ task.channelId = e.channelId)) : e.routed host task = [] := by
  rw [HandlerEnd.routed, if_neg h, ite_self]

/-- What a step of the session can do. -/
theorem sharedStep_cases {s s' : SharedRun σ ω} {a : SharedAct α}
    (h : sharedStep e sessionId s a = some s') :
    (∃ act m, a = .handler act ∧ e.move s.host s.inbox act = some m ∧
      s' = { s with host := m.host, inbox := m.inbox, toDaemon := s.toDaemon ++ m.sent,
                    out := s.out ++ m.out }) ∨
    (∃ task toHost, a = .route ∧ s.toHost = task :: toHost ∧
      s' = { s with toHost, inbox := s.inbox ++ e.routed s.host task }) ∨
    (∃ env msg toDaemon, a = .serve env ∧ s.toDaemon = msg :: toDaemon ∧
      s' = { s with files := (serve env sessionId s.files msg).1
                    running := (serve env sessionId s.files msg).2.2
                    toDaemon
                    toHost := s.toHost ++ (serve env sessionId s.files msg).2.1
                    served := s.served ++ [msg] }) ∨
    (∃ msg hostTraffic, a = .hostSends ∧ s.hostTraffic = msg :: hostTraffic ∧
      s' = { s with hostTraffic, toDaemon := s.toDaemon ++ [msg] }) ∨
    (∃ msg daemonTraffic, a = .daemonSends ∧ s.daemonTraffic = msg :: daemonTraffic ∧
      s' = { s with daemonTraffic, toHost := s.toHost ++ [msg] }) := by
  cases a with
  | handler act =>
    obtain ⟨m, hmove, rfl⟩ := Option.map_eq_some_iff.mp h
    exact .inl ⟨act, m, rfl, hmove, rfl⟩
  | route =>
    rw [sharedStep] at h
    split at h <;> cases h
    exact .inr (.inl ⟨_, _, rfl, ‹_›, rfl⟩)
  | serve env =>
    rw [sharedStep] at h
    split at h <;> cases h
    exact .inr (.inr (.inl ⟨env, _, _, rfl, ‹_›, rfl⟩))
  | hostSends =>
    rw [sharedStep] at h
    split at h <;> cases h
    exact .inr (.inr (.inr (.inl ⟨_, _, rfl, ‹_›, rfl⟩)))
  | daemonSends =>
    rw [sharedStep] at h
    split at h <;> cases h
    exact .inr (.inr (.inr (.inr ⟨_, _, rfl, ‹_›, rfl⟩)))

/-! From the session to the dialog. -/

/-- A step of the handler does not look behind the first message of its inbox. -/
theorem HandlerEnd.move_append {host : σ} {inbox : List TaskMessage} {act : EndAct α}
    {m : EndMove σ ω} (h : e.move host inbox act = some m) (more : List TaskMessage) :
    e.move host (inbox ++ more) act = some { m with inbox := m.inbox ++ more } := by
  obtain ⟨p, rfl, hp, rfl⟩ | ⟨err, p, rfl, hp, rfl⟩ | ⟨act, host', o, rfl, hown, hst, rfl⟩ |
    ⟨task, inbox', host', o, rfl, rfl, hst, rfl⟩ := HandlerEnd.move_cases h
  · simp only [HandlerEnd.move, hp, Option.map_some]
  · simp only [HandlerEnd.move, hp, Option.map_some]
  · simp [HandlerEnd.move, hown, hst]
  · simp only [List.cons_append, HandlerEnd.move, hst, Option.map_some]

/-- What a step of the dialog can do. -/
theorem dialogStep_cases {d d' : Dialog σ ω} {a : DialogAct α}
    (h : dialogStep e answers d a = some d') :
    (∃ p, a = .handler .send ∧ e.handler.sending d.host = some p ∧
      d' = { d with host := p.next, owed := d.owed ++ answers p.msg, sent := d.sent ++ [p.msg] }) ∨
    (∃ err p, a = .handler (.sendFails err) ∧ e.handler.sending d.host = some p ∧
      d' = { d with host := p.failed err }) ∨
    (∃ act host o, a = .handler (.own act) ∧ e.receives act = false ∧
      e.handler.step d.host act = some (host, o) ∧ d' = { d with host, out := d.out ++ [o] }) ∨
    (∃ task owed host o, a = .handler .take ∧ d.owed = task :: owed ∧
      e.handler.step d.host (e.recv task) = some (host, o) ∧
      d' = { d with host, owed, out := d.out ++ [o] }) ∨
    (∃ i, a = .lose i ∧ e.listens d.host = false ∧ i < d.owed.length ∧
      d' = { d with owed := d.owed.eraseIdx i }) := by
  obtain ⟨host, out, owed, sent⟩ := d
  cases a with
  | handler act =>
    obtain ⟨m, hmove, rfl⟩ := Option.map_eq_some_iff.mp h
    obtain ⟨p, rfl, hp, rfl⟩ | ⟨err, p, rfl, hp, rfl⟩ | ⟨act, host', o, rfl, hown, hr, rfl⟩ |
      ⟨task, owed', host', o, rfl, rfl, hr, rfl⟩ := HandlerEnd.move_cases hmove
    · exact .inl ⟨p, rfl, hp, by simp⟩
    · exact .inr (.inl ⟨err, p, rfl, hp, by simp⟩)
    · exact .inr (.inr (.inl ⟨act, host', o, rfl, hown, hr, by simp⟩))
    · exact .inr (.inr (.inr (.inl ⟨task, owed', host', o, rfl, rfl, hr, by simp⟩)))
  | lose i =>
    rw [dialogStep] at h
    split at h
    · rename_i hlose
      cases h
      exact .inr (.inr (.inr (.inr ⟨i, rfl, hlose.1, hlose.2, rfl⟩)))
    · cases h

theorem enabled_own {d : Dialog σ ω} {act : α} {host : σ} {o : ω} (hmust : mustAct (.own act))
    (hown : e.receives act = false) (hst : e.handler.step d.host act = some (host, o)) :
    Enabled (dialogStep e answers) (DialogMust mustAct) d := by
  have hmove : e.move d.host d.owed (.own act) = some ⟨host, d.owed, [], [o]⟩ := by
    rw [HandlerEnd.move, if_neg (by simp [hown]), hst]
    rfl
  exact ⟨.handler (.own act), _, hmust, congrArg (Option.map _) hmove⟩

/-- What delays the answers: what others have still to send, then what is to be served, then what
is to be routed. -/
def SharedRun.noise (s : SharedRun σ ω) : Nat ×ₗ Nat ×ₗ Nat :=
  toLex (s.hostTraffic.length + s.daemonTraffic.length, toLex (s.toDaemon.length, s.toHost.length))

/-- A step of the session is one of the dialog, or reduces the noise and shows nothing to the
handler. -/
theorem sharedStep_dialog (htalks : e.TalksTo sessionId answers okAct inv) {s s' : SharedRun σ ω}
    {a : SharedAct α} (hs : s.Sane e sessionId answers inv) (hok : SharedOk okAct s a)
    (hst : sharedStep e sessionId s a = some s') :
    (s'.dialog e answers = s.dialog e answers ∧ s'.noise < s.noise) ∨
    ∃ b, DialogOk okAct (s.dialog e answers) b ∧
      dialogStep e answers (s.dialog e answers) b = some (s'.dialog e answers) := by
  obtain ⟨act, m, rfl, hmove, rfl⟩ | ⟨task, toHost, rfl, hhost, rfl⟩ |
    ⟨env, msg, toDaemon, rfl, hdaemon, rfl⟩ | ⟨msg, rest, rfl, htraffic, rfl⟩ |
    ⟨msg, rest, rfl, htraffic, rfl⟩ := sharedStep_cases hst
  · right
    have hsent : ForChannel e.channelId m.sent :=
      fun msg hmsg => (hs.move_sent htalks hmove msg hmsg).channel
    refine ⟨.handler act, hok, ?_⟩
    simp only [dialogStep, SharedRun.dialog, List.append_assoc, HandlerEnd.move_append hmove,
      Option.map_some, onChannel_append, hsent.onChannel_eq, List.flatMap_append]
  · have hless : ({ s with toHost, inbox := s.inbox ++ e.routed s.host task } :
        SharedRun σ ω).noise < s.noise := by
      simp only [SharedRun.noise, hhost, Prod.Lex.toLex_lt_toLex]
      simp
    by_cases hc : task.channelId = e.channelId
    · have hbeat := hs.answered task (by simp [hhost]) hc
      by_cases hlistens : e.listens s.host = true
      · left
        have hrouted : e.routed s.host task = [task] := by
          rw [HandlerEnd.routed, if_neg hbeat, if_pos ⟨hlistens, hc⟩]
        refine ⟨?_, hless⟩
        simp only [SharedRun.dialog, hhost, hrouted, onChannel_cons _ hc, List.append_assoc,
          List.singleton_append]
      · right
        have hrouted : e.routed s.host task = [] := e.routed_eq_nil fun h => hlistens h.1
        refine ⟨.lose s.inbox.length, trivial, ?_⟩
        have hdeaf : e.listens (s.dialog e answers).host = false := by
          rw [SharedRun.dialog]
          simpa using hlistens
        rw [dialogStep, if_pos ⟨hdeaf, by simp [SharedRun.dialog, hhost, onChannel_cons _ hc]⟩]
        simp only [SharedRun.dialog, hhost, hrouted, onChannel_cons _ hc, List.append_assoc,
          List.append_nil, List.eraseIdx_append_of_length_le (Nat.le_refl _), Nat.sub_self,
          List.cons_append, List.eraseIdx_cons_zero]
    · left
      have hrouted : e.routed s.host task = [] := e.routed_eq_nil fun h => hc h.2
      refine ⟨?_, hless⟩
      simp only [SharedRun.dialog, hhost, hrouted, onChannel_cons_of_ne _ hc, List.append_nil]
  · left
    have hreplies := @serve_channel env sessionId s.files msg (hok msg)
    refine ⟨?_, ?_⟩
    · rcases hs.sent msg (by simp [hdaemon]) with hmsg | ⟨hc, -⟩
      · simp only [SharedRun.dialog, hdaemon, onChannel_cons _ hmsg.channel, onChannel_append,
          onChannel_nil, hmsg.served, hmsg.onChannel.onChannel_eq, List.flatMap_cons,
          List.append_assoc, List.cons_append, List.nil_append]
      · simp only [SharedRun.dialog, hdaemon, onChannel_cons_of_ne _ hc, onChannel_append,
          onChannel_nil, hreplies.onChannel_eq_nil hc, List.append_nil]
    · simp only [SharedRun.noise, hdaemon, Prod.Lex.toLex_lt_toLex]
      simp
  · left
    have hc := (hs.hostTraffic msg (by simp [htraffic])).1
    refine ⟨?_, ?_⟩
    · simp only [SharedRun.dialog, onChannel_append, onChannel_cons_of_ne _ hc, onChannel_nil,
        List.append_nil]
    · simp only [SharedRun.noise, htraffic, Prod.Lex.toLex_lt_toLex]
      simp
  · left
    have hc := hs.daemonTraffic msg (by simp [htraffic])
    refine ⟨?_, ?_⟩
    · simp only [SharedRun.dialog, onChannel_append, onChannel_cons_of_ne _ hc, onChannel_nil,
        List.append_nil]
    · simp only [SharedRun.noise, htraffic, Prod.Lex.toLex_lt_toLex]
      simp

theorem SharedRun.Sane.step (htalks : e.TalksTo sessionId answers okAct inv)
    {s s' : SharedRun σ ω} {a : SharedAct α} (hs : s.Sane e sessionId answers inv)
    (hok : SharedOk okAct s a) (hst : sharedStep e sessionId s a = some s') :
    s'.Sane e sessionId answers inv := by
  have hdialog : inv (s'.dialog e answers) := by
    rcases sharedStep_dialog htalks hs hok hst with ⟨hsame, -⟩ | ⟨b, hokb, hstb⟩
    · rw [hsame]
      exact hs.dialog
    · exact htalks.step hs.dialog hokb hstb
  obtain ⟨act, m, rfl, hmove, rfl⟩ | ⟨task, toHost, rfl, hhost, rfl⟩ |
    ⟨env, msg, toDaemon, rfl, hdaemon, rfl⟩ | ⟨msg, rest, rfl, htraffic, rfl⟩ |
    ⟨msg, rest, rfl, htraffic, rfl⟩ := sharedStep_cases hst
  · refine { hs with dialog := hdialog, sent := ?_ }
    intro msg hmsg
    rcases List.mem_append.mp hmsg with hmsg | hmsg
    · exact hs.sent msg hmsg
    · exact .inl (hs.move_sent htalks hmove msg hmsg)
  · have hall := hs.answered
    rw [hhost] at hall
    exact { hs with
      dialog := hdialog
      answered := fun msg hmsg => hall msg (List.mem_cons_of_mem _ hmsg) }
  · have hreplies := @serve_channel env sessionId s.files msg (hok msg)
    have hserved := hs.sent msg (by simp [hdaemon])
    refine { hs with dialog := hdialog, running := ?_, sent := ?_, answered := ?_ }
    · apply serve_running
      rcases hserved with hserved | hserved
      · exact hserved.keepsServing
      · exact hserved.2
    · intro msg hmsg
      exact hs.sent msg (hdaemon ▸ List.mem_cons_of_mem _ hmsg)
    · intro answer hanswer hc
      rcases List.mem_append.mp hanswer with hanswer | hanswer
      · exact hs.answered answer hanswer hc
      · rcases hserved with hserved | hserved
        · rw [hserved.served] at hanswer
          exact hserved.no_heartbeat answer hanswer
        · exact absurd ((hreplies answer hanswer).symm.trans hc) hserved.1
  · have hall := hs.hostTraffic
    rw [htraffic] at hall
    refine { hs with
      dialog := hdialog
      sent := ?_
      hostTraffic := fun msg hmsg => hall msg (List.mem_cons_of_mem _ hmsg) }
    intro msg hmsg
    rcases List.mem_append.mp hmsg with hmsg | hmsg
    · exact hs.sent msg hmsg
    · rw [List.mem_singleton.mp hmsg]
      exact .inr (hall _ List.mem_cons_self)
  · have hall := hs.daemonTraffic
    rw [htraffic] at hall
    refine { hs with
      dialog := hdialog
      daemonTraffic := fun msg hmsg => hall msg (List.mem_cons_of_mem _ hmsg)
      answered := ?_ }
    intro msg hmsg hc
    rcases List.mem_append.mp hmsg with hmsg | hmsg
    · exact hs.answered msg hmsg hc
    · rw [List.mem_singleton.mp hmsg] at hc
      exact absurd hc (hall _ List.mem_cons_self)

/-! From the dialog back to the session. -/

/-- While the handler can go on in the dialog, the session can: what the handler is owed is routed
to it, on its way or still to be served. -/
theorem enabled_session {s : SharedRun σ ω} (hs : s.Sane e sessionId answers inv)
    (h : Enabled (dialogStep e answers) (DialogMust mustAct) (s.dialog e answers)) :
    Enabled (sharedStep e sessionId) (SharedMust mustAct) s := by
  cases hhost : s.toHost with
  | cons task toHost => exact ⟨.route, _, trivial, by rw [sharedStep, hhost]⟩
  | nil =>
    cases hdaemon : s.toDaemon with
    | cons msg toDaemon =>
      exact ⟨.serve .quiet, _, TaskEnv.quiet_answersThere, by rw [sharedStep, hs.running, hdaemon]⟩
    | nil =>
      have howed : (s.dialog e answers).owed = s.inbox := by
        simp [SharedRun.dialog, hhost, hdaemon]
      obtain ⟨b, t, hok, hst⟩ := h
      cases b with
      | lose i => cases hok
      | handler act =>
        obtain ⟨m, hmove, -⟩ := Option.map_eq_some_iff.mp hst
        rw [howed] at hmove
        have hmove : e.move s.host s.inbox act = some m := hmove
        exact ⟨.handler act, _, hok, by rw [sharedStep, hmove]; rfl⟩

/-- When the handler is owed nothing and its last message has an answer, the daemon has served all
that the handler has sent. -/
theorem SharedRun.served_eq {s : SharedRun σ ω} {msgs : List TaskMessage} {msg : TaskMessage}
    (howed : (s.dialog e answers).owed = []) (hsent : (s.dialog e answers).sent = msgs ++ [msg])
    (hanswer : answers msg ≠ []) : onChannel e.channelId s.served = msgs ++ [msg] := by
  rcases List.eq_nil_or_concat (onChannel e.channelId s.toDaemon) with hnil | ⟨init, last, hlast⟩
  · rw [← hsent, SharedRun.dialog, hnil, List.append_nil]
  · rw [List.concat_eq_append] at hlast
    have hend : last = msg := by
      simp only [SharedRun.dialog, hlast, ← List.append_assoc] at hsent
      exact List.singleton_inj.mp (List.append_inj' hsent rfl).2
    simp only [SharedRun.dialog, hlast, hend, List.flatMap_append, List.append_eq_nil_iff,
      List.flatMap_singleton] at howed
    exact absurd howed.2.2 hanswer

/-- What a dialog comes to in any case, the session comes to in any case. -/
theorem inevitable_session (htalks : e.TalksTo sessionId answers okAct inv)
    {goal : Dialog σ ω → Prop} {s : SharedRun σ ω} (hs : s.Sane e sessionId answers inv)
    (h : Inevitable (dialogStep e answers) (DialogOk okAct) (DialogMust mustAct) goal
      (s.dialog e answers)) :
    Inevitable (sharedStep e sessionId) (SharedOk okAct) (SharedMust mustAct)
      (fun s => goal (s.dialog e answers)) s := by
  generalize ht : s.dialog e answers = t at h
  induction h generalizing s with
  | now hgoal => exact .now (ht ▸ hgoal)
  | @later t hlive _ ih =>
    -- the dialog stands still while the noise goes down
    induction hn : s.noise using WellFoundedLT.induction generalizing s with
    | ind n ihn =>
      subst hn ht
      apply Inevitable.later (enabled_session hs hlive)
      intro a s' hok hst
      have hs' := hs.step htalks hok hst
      rcases sharedStep_dialog htalks hs hok hst with ⟨hsame, hless⟩ | ⟨b, hokb, hstb⟩
      · exact ihn _ hless hs' hsame rfl
      · exact ih b _ hokb hstb hs' rfl

/-- Where the dialog goes down up to its end and has a step to take till then, the session comes to
the end. -/
theorem HandlerEnd.TalksTo.ends (htalks : e.TalksTo sessionId answers okAct inv) (work : σ → Nat)
    (ended : σ → Prop) {host : σ} {s : SharedRun σ ω} (hs : s.Opens e host)
    (hstart : inv ⟨host, [], [], []⟩)
    (hwork : ∀ d a d', inv d → DialogOk okAct d a → dialogStep e answers d a = some d' →
      ¬ ended d.host → work d'.host < work d.host)
    (hlive : ∀ d, inv d → ¬ ended d.host →
      Enabled (dialogStep e answers) (DialogMust mustAct) d) :
    Inevitable (sharedStep e sessionId) (SharedOk okAct) (SharedMust mustAct)
      (fun s => inv (s.dialog e answers) ∧ ended (s.dialog e answers).host) s := by
  have hdialog : Inevitable (dialogStep e answers) (DialogOk okAct) (DialogMust mustAct)
      (fun d => inv d ∧ ended d.host) (s.dialog e answers) := by
    apply Inevitable.of_wellFounded inv (measure fun d => work d.host).wf
    · intro d a d' hd hgoal hok hst
      exact ⟨htalks.step hd hok hst, hwork d a d' hd hok hst fun hend => hgoal ⟨hd, hend⟩⟩
    · intro d hd hgoal
      exact hlive d hd fun hend => hgoal ⟨hd, hend⟩
    · exact hs.dialog_eq.symm ▸ hstart
  exact inevitable_session htalks (hs.sane hstart) hdialog

/-- A session that others use, on which all has still to be done. -/
def busySession (host : σ) : SharedRun σ ω where
  host
  out := []
  inbox := []
  files := ⟨fun _ => none, fun _ => none⟩
  running := true
  toDaemon := [⟨3, .unityHilog, []⟩]
  toHost := [⟨5, .heartbeatMsg, []⟩]
  served := []
  hostTraffic := [⟨3, .fileData, [1, 2, 3]⟩]
  daemonTraffic := [⟨5, .forwardData, [4]⟩]

theorem busySession_opens (h : e.channelId = 7) (host : σ) : (busySession host).Opens e host := by
  constructor <;> simp [busySession, h, KeepsServing]

end
end Hdc
