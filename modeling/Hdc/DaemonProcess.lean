import Hdc.AppDaemon
import Hdc.DaemonSessions
import Hdc.ForwardSession
import Mathlib.Logic.Function.Basic

/- The daemon's process: the connections of `DaemonSessions`, and what their handlers share
   (`hdcd/src/main.rs`, `hdcd/src/task.rs`, `hdcd/src/forward.rs`, `hdcd/src/file.rs`). There is
   one `STATE` of forwards, one `FileTaskMap` and one map of ciphers, whatever the number of
   connections.

   A connection's main loop takes a message, passes it to `dispatch_task` and goes on when that
   returns; the handlers of different connections are interleaved, and so are the listeners and
   the bridges they have spawned. `handle_forward_task` looks for a listener first and acts under
   another lock of `STATE` after that, so these are two steps. What handlers and spawned tasks
   send is among the messages `daemonStep` lets a connection write at any time.

   Every entry of the maps is marked with the connection that made it. The marks are not in the
   source, and nothing the daemon does depends on them. -/
namespace Hdc
open Rust Wire Feed Lts

/-! Forwards. -/

/-- `FportConn`. -/
structure FportConn where
  owner : Nat
  channelId : UInt32
  /-- What has been sent to the task that writes to the remote end. -/
  received : List (List UInt8)
  /-- That task is still there. -/
  writing : Bool
  deriving DecidableEq, Repr

/-- A task of `run_rport_listener`. -/
structure RportListener extends DaemonListener where
  owner : Nat
  channelId : UInt32
  deriving DecidableEq, Repr

/-- `ForwardStateInner`. `spawned` has all listeners there have been, and `rportListeners` the
registered ones by their position in it. -/
structure ForwardState where
  fportSenders : HashMap UInt32 FportConn
  rportListeners : UInt32 → Option Nat
  spawned : List RportListener

/-- Whether a send on a listener's queue finds its receiver. -/
def ListenerTask.receiving (l : ListenerTask) : Bool :=
  match l.dispatcher with
  | .notSpawned => l.phase != .ended
  | .running => true
  | .ended => false

namespace ForwardState
variable (f : ForwardState)

def init : ForwardState := ⟨∅, fun _ => none, []⟩

def onSpawned (n : Nat) (change : ListenerTask → ListenerTask) : ForwardState :=
  { f with spawned := f.spawned.modify n fun l => { l with task := change l.task } }

/-- `listener.tx.send(msg)`. -/
def deliver (n : Nat) (msg : RportMsg) : ForwardState :=
  f.onSpawned n fun task => if task.receiving then task.push (.msg msg) else task

/-- What `handle_channel_close` returns. -/
def knowsChannel (channelId : UInt32) : Bool :=
  (f.rportListeners channelId).isSome ||
    f.fportSenders.entries.any fun e => e.2.channelId = channelId

/-- The state `handle_channel_close` leaves. -/
def handleChannelClose (channelId : UInt32) : ForwardState where
  fportSenders := f.fportSenders.retain fun conn => conn.channelId ≠ channelId
  rportListeners := Function.update f.rportListeners channelId none
  spawned := match f.rportListeners channelId with
    | some n => (f.onSpawned n .close).spawned
    | none => f.spawned

def insertSender (forwardId : UInt32) (conn : FportConn) : ForwardState :=
  { f with fportSenders := f.fportSenders.insert forwardId conn }

def removeSender (forwardId : UInt32) : ForwardState :=
  { f with fportSenders := f.fportSenders.erase forwardId }

/-- `conn.tx.send(data)`. -/
def sendData (forwardId : UInt32) (data : List UInt8) : ForwardState :=
  match f.fportSenders.lookup forwardId with
  | some conn =>
    if conn.writing then f.insertSender forwardId { conn with received := conn.received ++ [data] }
    else f
  | none => f

def spawn (l : RportListener) : ForwardState := { f with spawned := f.spawned ++ [l] }

def insertListener (channelId : UInt32) (n : Nat) : ForwardState :=
  { f with rportListeners := Function.update f.rportListeners channelId (some n) }

/-- A listener has taken a step. -/
def onListener (n : Nat) (l : RportListener) (effect : ListenerEffect) : ForwardState :=
  let stepped := { f with spawned := f.spawned.set n l }
  if effect = .unlist then
    { stepped with rportListeners := Function.update f.rportListeners l.channelId none }
  else stepped

end ForwardState

/-! Handlers. -/

/-- What the outside world makes of a message that is handled. -/
structure TaskOutcome where
  take : TakeOutcome
  io : FsOutcome
  bm : Bm
  /-- What a handler that is not modelled sends and returns. -/
  others : List TaskMessage × IoResult Unit
  /-- A send of the handler fails, and it returns the error. -/
  sendError : Option ErrorKind

/-- Where a connection's main loop is with its message. -/
inductive TaskJob where
  | idle
  | taken (msg : TaskMessage)
  /-- In `handle_forward_task`, which has not passed the message to a listener. -/
  | matched (msg : TaskMessage)
  /-- In `handle_rport_init`, with the listener spawned and its entry to be made. -/
  | inserting (channelId : UInt32) (n : Nat)
  /-- `dispatch_task` has returned, perhaps with `ConnectionAborted`. -/
  | returned (aborted : Bool)
  deriving DecidableEq, Repr

/-- Whether a handler that sends `replies` and returns `result` ends its connection. -/
def TaskOutcome.aborts (outcome : TaskOutcome) (replies : List TaskMessage)
    (result : IoResult Unit) : Bool :=
  match outcome.sendError, replies, result with
  | some kind, _ :: _, _ => kind = .connectionAborted
  | _, _, .error e => e.kind = .connectionAborted
  | _, _, .ok () => false

/-- The rest of `handle_forward_task`, for connection `i`: the state, the replies, and the listener
that is to be registered. -/
def handleForwardTask (f : ForwardState) (i : Nat) (msg : TaskMessage) (outcome : TakeOutcome) :
    ForwardState × List TaskMessage × Option Nat :=
  let c := msg.channelId
  match matchForwardTask msg with
  | .rportInit payload =>
    match splitWhitespace (fromUtf8Lossy payload) with
    | remoteSpec :: localSpec :: _ =>
      match outcome.bind with
      | .ok () =>
        (f.spawn ⟨⟨outcome.listenerId, remoteSpec, localSpec, .spawned⟩, i, c⟩, [],
          some f.spawned.length)
      | .error e =>
        (f, [echoClient c ("Failed to bind " ++ remoteSpec ++ ": " ++ e.msg) .fail], none)
    | _ =>
      (f, [echoClient c "Invalid rport parameters, expected: remote_spec local_spec" .fail], none)
  | .check ctxId _ => (f, [daemonCheckResult c ctxId outcome.reachable], none)
  | .activeSlave forwardId remoteSpec =>
    if outcome.connected then
      (f.insertSender forwardId ⟨i, c, [], true⟩, [daemonActiveMaster c forwardId remoteSpec], none)
    else (f, [forwardFreeContext c forwardId], none)
  | .data forwardId data => (f.sendData forwardId data, [], none)
  | .freeContext forwardId => (f.removeSender forwardId, [], none)
  | .echo text success => (f, [echoClient c text (if success then .ok else .fail)], none)
  | .toListener _ | .ignore => (f, [], none)

/-- Whether a file handler changes `FileTaskMap` only after it has sent. -/
def storesLast (sessionId : UInt32) (d : DaemonFiles) (msg : TaskMessage) : Bool :=
  match msg.command with
  | .fileRecvInit => true
  | .fileBegin => (d.get sessionId msg.channelId).any (·.direction = .recv)
  | _ => false

/-- `dispatch_task`, but for the forward commands. -/
def handleTask (sessionId : UInt32) (forwardChannel : UInt32 → Bool) (outcome : TaskOutcome)
    (d : DaemonFiles) (msg : TaskMessage) : DaemonFiles × List TaskMessage × IoResult Unit :=
  let others (d : DaemonFiles) (msg : TaskMessage) :=
    if msg.command ∈ appCommands then
      let (d, replies) := handleAppTask sessionId outcome.io outcome.bm d msg
      (d, replies, .ok ())
    else (d, outcome.others)
  let handled := dispatchTask ⟨others, forwardChannel⟩ sessionId outcome.io d msg
  if outcome.sendError.isSome ∧ storesLast sessionId d msg then (d, handled.2) else handled

/-- Whether the message enters a new transfer into `FileTaskMap`. -/
def startsTransfer (outcome : TaskOutcome) (d : DaemonFiles) (msg : TaskMessage) : Bool :=
  match msg.command with
  | .fileInit => (parseFilePaths msg.payload).isSome
  | .fileRecvInit =>
    (parseFilePaths msg.payload).any fun (remotePath, _) =>
      outcome.io.error.isNone && (d.fs remotePath).isSome && outcome.sendError.isNone
  | .appInit => (parseAppPath msg.payload).isSome
  | _ => false

/-! The process. -/

structure DaemonProcess where
  net : Daemon
  forward : ForwardState
  files : DaemonFiles
  jobs : Nat → TaskJob
  /-- The connection that has started a transfer. -/
  starters : UInt32 × UInt32 → Option Nat
  /-- The handle of the cipher a connection has installed. -/
  installed : Nat → Option Nat

def DaemonProcess.init (fs : Fs) : DaemonProcess where
  net := .init
  forward := .init
  files := ⟨fun _ => none, fs⟩
  jobs := fun _ => .idle
  starters := fun _ => none
  installed := fun _ => none

inductive ProcessAct where
  | net (act : DaemonAct)
  /-- The handler of a connection takes a step. -/
  | task (i : Nat) (outcome : TaskOutcome)
  | listener (n : Nat) (act : ListenerAct)
  /-- A write to the remote end of an fport connection fails. -/
  | fportEnds (forwardId : UInt32)
  /-- The file system is changed by others. -/
  | files (fs : Fs)

namespace DaemonProcess
variable (s : DaemonProcess)

/-- The message with which the main loop of connection `i` has just come to `dispatch_task`. -/
def takenMsg (net : Daemon) (i : Nat) : Option TaskMessage :=
  if net.conns[i]?.map Conn.phase = some .dispatching then
    match net.log.getLast? with
    | some (.accepted _ _ _ msg) => some msg
    | _ => none
  else none

/-- The main loops, once the connections have taken a step to `net`. -/
def jobsAfter (net : Daemon) : DaemonAct → Nat → TaskJob
  | .on i (.frame _ _ _) =>
    match takenMsg net i with
    | some msg => Function.update s.jobs i (.taken msg)
    | none => s.jobs
  | .on i (.dispatched _) => Function.update s.jobs i .idle
  | _ => s.jobs

def installedAfter : DaemonAct → Nat → Option Nat
  | .on i .install => Function.update s.installed i (some s.net.heap.length)
  | _ => s.installed

/-- A connection goes on after `dispatch_task` with what that has returned. -/
def mayStep : DaemonAct → Prop
  | .on i (.dispatched aborted) => s.jobs i = .returned aborted
  | _ => True

instance : ∀ act, Decidable (s.mayStep act)
  | .on i (.dispatched aborted) => inferInstanceAs (Decidable (s.jobs i = .returned aborted))
  | .accept | .on _ .lookup | .on _ (.frame _ _ _) | .on _ .timeout | .on _ (.sendLookup _)
  | .on _ .sendWrite | .on _ .sendFail | .on _ .install | .on _ .remove | .on _ .shellEnd =>
    inferInstanceAs (Decidable True)

def setJob (i : Nat) (job : TaskJob) : DaemonProcess :=
  { s with jobs := Function.update s.jobs i job }

/-- A step of the handler of connection `i`. -/
def taskStep (i : Nat) (sessionId : UInt32) (outcome : TaskOutcome) : TaskJob → Option DaemonProcess
  | .taken msg =>
    if msg.command ∈ forwardCommands then
      match s.forward.rportListeners msg.channelId, routeToListener msg with
      | some n, some (.toListener m) =>
        some { s.setJob i (.returned false) with forward := s.forward.deliver n m }
      | some _, some _ => some (s.setJob i (.returned false))
      | _, _ => some (s.setJob i (.matched msg))
    else
      let handled := handleTask sessionId s.forward.knowsChannel outcome s.files msg
      some { s.setJob i (.returned (outcome.aborts handled.2.1 handled.2.2)) with
        files := handled.1
        forward :=
          if msg.command = .kernelChannelClose then s.forward.handleChannelClose msg.channelId
          else s.forward
        starters :=
          if startsTransfer outcome s.files msg then
            Function.update s.starters (sessionId, msg.channelId) (some i)
          else s.starters }
  | .matched msg =>
    let handled := handleForwardTask s.forward i msg outcome.take
    let job := match handled.2.2 with
      | some n => .inserting msg.channelId n
      | none => .returned (outcome.aborts handled.2.1 (.ok ()))
    some { s.setJob i job with forward := handled.1 }
  | .inserting channelId n =>
    some { s.setJob i (.returned false) with forward := s.forward.insertListener channelId n }
  | .idle | .returned _ => none

/-- The sender of a listener's queue is in its entry, or with `handle_rport_init`. -/
def hasSender (n : Nat) (l : RportListener) : Bool :=
  s.forward.rportListeners l.channelId == some n || s.jobs l.owner == .inserting l.channelId n

end DaemonProcess

def processStep (env : DaemonEnv) (s : DaemonProcess) : ProcessAct → Option DaemonProcess
  | .net act =>
    if s.mayStep act then
      (daemonStep env s.net act).map fun net =>
        { s with net, jobs := s.jobsAfter net act, installed := s.installedAfter act }
    else none
  | .task i outcome =>
    s.net.conns[i]?.bind fun conn => s.taskStep i conn.sessionId outcome (s.jobs i)
  | .listener n act =>
    s.forward.spawned[n]?.bind fun l =>
      (listenerStep l.channelId l.listenerId l.remoteSpec l.localSpec (s.hasSender n l) l.task act).map
        fun (task, effect) =>
          { s with forward := s.forward.onListener n { l with task } effect }
  | .fportEnds forwardId =>
    (s.forward.fportSenders.lookup forwardId).map fun conn =>
      { s with forward := s.forward.insertSender forwardId { conn with writing := false } }
  | .files fs => some { s with files := { s.files with fs } }

/-- What a step of the handler of connection `i` comes to. -/
inductive DaemonProcess.TaskCase (s : DaemonProcess) (i : Nat) (sessionId : UInt32)
    (outcome : TaskOutcome) : TaskJob → DaemonProcess → Prop
  | routed {msg : TaskMessage} {n : Nat} {m : RportMsg} (hcommand : msg.command ∈ forwardCommands)
      (hn : s.forward.rportListeners msg.channelId = some n)
      (hroute : routeToListener msg = some (.toListener m)) :
      TaskCase s i sessionId outcome (.taken msg)
        { s.setJob i (.returned false) with forward := s.forward.deliver n m }
  | missed {msg : TaskMessage} {job : TaskJob} (hcommand : msg.command ∈ forwardCommands)
      (hmiss : ∀ n m, s.forward.rportListeners msg.channelId = some n →
        routeToListener msg ≠ some (.toListener m))
      (hjob : ∀ c n, job ≠ .inserting c n) :
      TaskCase s i sessionId outcome (.taken msg) (s.setJob i job)
  | other {msg : TaskMessage} (aborted : Bool) (hcommand : msg.command ∉ forwardCommands) :
      TaskCase s i sessionId outcome (.taken msg)
        { s.setJob i (.returned aborted) with
          files := (handleTask sessionId s.forward.knowsChannel outcome s.files msg).1
          forward :=
            if msg.command = .kernelChannelClose then s.forward.handleChannelClose msg.channelId
            else s.forward
          starters :=
            if startsTransfer outcome s.files msg then
              Function.update s.starters (sessionId, msg.channelId) (some i)
            else s.starters }
  | matched {msg : TaskMessage} {job : TaskJob}
      (hjob : ∀ c n, job = .inserting c n →
        (handleForwardTask s.forward i msg outcome.take).2.2 = some n) :
      TaskCase s i sessionId outcome (.matched msg)
        { s.setJob i job with forward := (handleForwardTask s.forward i msg outcome.take).1 }
  | inserted {c : UInt32} {n : Nat} :
      TaskCase s i sessionId outcome (.inserting c n)
        { s.setJob i (.returned false) with forward := s.forward.insertListener c n }

theorem DaemonProcess.taskStep_case {s s' : DaemonProcess} {i : Nat} {sessionId : UInt32}
    {outcome : TaskOutcome} {job : TaskJob} (h : s.taskStep i sessionId outcome job = some s') :
    TaskCase s i sessionId outcome job s' := by
  cases job with
  | idle | returned => cases h
  | taken msg =>
    simp only [taskStep] at h
    split at h
    · rename_i hcommand
      split at h <;> cases h
      · rename_i n m hn hroute
        exact .routed hcommand hn hroute
      · rename_i task hother _ hroute
        exact .missed hcommand
          (fun n m _ hm => hother m (Option.some.inj (hroute.symm.trans hm))) (by simp)
      · rename_i hnone
        exact .missed hcommand (fun n m hn hm => hnone n _ hn hm) (by simp)
    · rename_i hcommand
      cases h
      exact .other _ hcommand
  | matched msg =>
    cases h
    refine .matched fun c n hjob => ?_
    split at hjob <;> cases hjob
    assumption
  | inserting c n =>
    cases h
    exact .inserted

/-- What a step of the process comes to. -/
inductive ProcessMove (env : DaemonEnv) (s : DaemonProcess) : ProcessAct → DaemonProcess → Prop
  | net {act : DaemonAct} {net : Daemon} (hstep : daemonStep env s.net act = some net) :
      ProcessMove env s (.net act)
        { s with net, jobs := s.jobsAfter net act, installed := s.installedAfter act }
  | task {i : Nat} {sessionId : UInt32} {outcome : TaskOutcome} {s' : DaemonProcess}
      (hstep : s.taskStep i sessionId outcome (s.jobs i) = some s') :
      ProcessMove env s (.task i outcome) s'
  | listener {n : Nat} {act : ListenerAct} {l : RportListener} {task : ListenerTask}
      {effect : ListenerEffect} (hl : s.forward.spawned[n]? = some l)
      (hstep : listenerStep l.channelId l.listenerId l.remoteSpec l.localSpec (s.hasSender n l)
        l.task act = some (task, effect)) :
      ProcessMove env s (.listener n act)
        { s with forward := s.forward.onListener n { l with task } effect }
  | fportEnds {id : UInt32} {conn : FportConn} (hconn : s.forward.fportSenders.lookup id = some conn) :
      ProcessMove env s (.fportEnds id)
        { s with forward := s.forward.insertSender id { conn with writing := false } }
  | files (fs : Fs) : ProcessMove env s (.files fs) { s with files := { s.files with fs } }

theorem processStep_move {env : DaemonEnv} {s s' : DaemonProcess} {act : ProcessAct}
    (h : processStep env s act = some s') : ProcessMove env s act s' := by
  cases act with
  | net act =>
    simp only [processStep] at h
    split at h
    · obtain ⟨net, hstep, rfl⟩ := Option.map_eq_some_iff.mp h
      exact .net hstep
    · cases h
  | task i outcome =>
    obtain ⟨conn, -, hstep⟩ := Option.bind_eq_some_iff.mp h
    exact .task hstep
  | listener n act =>
    obtain ⟨l, hl, h⟩ := Option.bind_eq_some_iff.mp h
    obtain ⟨⟨task, effect⟩, hstep, rfl⟩ := Option.map_eq_some_iff.mp h
    exact .listener hl hstep
  | fportEnds id =>
    obtain ⟨conn, hconn, rfl⟩ := Option.map_eq_some_iff.mp h
    exact .fportEnds hconn
  | files fs =>
    cases h
    exact .files fs

/-! Marks stay. -/

namespace ForwardState
variable (f : ForwardState)

@[simp] theorem insertListener_self (c : UInt32) (n : Nat) :
    (f.insertListener c n).rportListeners c = some n :=
  Function.update_self _ _ _

theorem insertListener_of_ne {c c' : UInt32} (h : c' ≠ c) (n : Nat) :
    (f.insertListener c n).rportListeners c' = f.rportListeners c' :=
  Function.update_of_ne h _ _

@[simp] theorem handleChannelClose_self (c : UInt32) :
    (f.handleChannelClose c).rportListeners c = none :=
  Function.update_self _ _ _

theorem handleChannelClose_of_ne {c c' : UInt32} (h : c' ≠ c) :
    (f.handleChannelClose c).rportListeners c' = f.rportListeners c' :=
  Function.update_of_ne h _ _

/-- The connection that has spawned a listener. -/
def ownerOf (n : Nat) : Option Nat := f.spawned[n]?.map RportListener.owner

/-- Connection `a` has an fport connection under this id. -/
def OwnsSender (a : Nat) (forwardId : UInt32) : Prop :=
  ∃ conn, f.fportSenders.lookup forwardId = some conn ∧ conn.owner = a

/-- Connection `a` has the registered listener of this channel. -/
def OwnsListener (a : Nat) (channelId : UInt32) : Prop :=
  ∃ n, f.rportListeners channelId = some n ∧ f.ownerOf n = some a

@[simp] theorem ownerOf_onSpawned (n m : Nat) (change : ListenerTask → ListenerTask) :
    (f.onSpawned n change).ownerOf m = f.ownerOf m := by
  rw [ownerOf, onSpawned, List.getElem?_modify, ownerOf]
  split <;> cases f.spawned[m]? <;> rfl

@[simp] theorem ownerOf_handleChannelClose (c : UInt32) (m : Nat) :
    (f.handleChannelClose c).ownerOf m = f.ownerOf m := by
  cases h : f.rportListeners c with
  | none => simp only [ownerOf, handleChannelClose, h]
  | some n =>
    rw [← f.ownerOf_onSpawned n m .close]
    simp only [ownerOf, handleChannelClose, h]

@[simp] theorem ownerOf_insertSender (id : UInt32) (conn : FportConn) (m : Nat) :
    (f.insertSender id conn).ownerOf m = f.ownerOf m := rfl

@[simp] theorem ownerOf_removeSender (id : UInt32) (m : Nat) :
    (f.removeSender id).ownerOf m = f.ownerOf m := rfl

@[simp] theorem ownerOf_sendData (id : UInt32) (data : List UInt8) (m : Nat) :
    (f.sendData id data).ownerOf m = f.ownerOf m := by
  unfold sendData
  split
  · split <;> rfl
  · rfl

theorem ownerOf_onListener {n : Nat} {l l' : RportListener} (hl : f.spawned[n]? = some l)
    (howner : l'.owner = l.owner) (effect : ListenerEffect) (m : Nat) :
    (f.onListener n l' effect).ownerOf m = f.ownerOf m := by
  have hset : (f.spawned.set n l')[m]?.map RportListener.owner = f.ownerOf m := by
    rw [List.getElem?_set, ownerOf]
    split
    · rename_i hnm
      subst hnm
      rw [if_pos (List.getElem?_eq_some_iff.mp hl).1, hl]
      exact congrArg some howner
    · rfl
  unfold onListener
  split <;> exact hset

theorem ownerOf_spawn (l : RportListener) (m : Nat) :
    (f.spawn l).ownerOf m = if m = f.spawned.length then some l.owner else f.ownerOf m := by
  simp only [ownerOf, spawn, List.getElem?_append]
  split
  · rename_i hlt
    rw [if_neg hlt.ne]
  · rename_i hge
    split
    · rename_i heq
      simp [heq]
    · rename_i hne
      rw [List.getElem?_eq_none (by simp; omega), List.getElem?_eq_none (by omega)]

theorem ownerOf_eq_none_iff {m : Nat} : f.ownerOf m = none ↔ f.spawned.length ≤ m := by
  rw [ownerOf, Option.map_eq_none_iff, List.getElem?_eq_none_iff]

end ForwardState

/-- What `handle_forward_task` may do to the state on behalf of connection `i`. -/
theorem handleForwardTask_cases (f : ForwardState) (i : Nat) (msg : TaskMessage)
    (outcome : TakeOutcome) :
    let r := handleForwardTask f i msg outcome
    (r.1 = f ∧ r.2.2 = none) ∨
      (∃ l : RportListener, l.owner = i ∧ r.1 = f.spawn l ∧ r.2.2 = some f.spawned.length) ∨
      (∃ (id : UInt32) (conn : FportConn), conn.owner = i ∧ r.1 = f.insertSender id conn ∧ r.2.2 = none) ∨
      (∃ id data, r.1 = f.sendData id data ∧ r.2.2 = none) ∨
      ∃ id, r.1 = f.removeSender id ∧ r.2.2 = none := by
  simp only [handleForwardTask]
  cases matchForwardTask msg with
  | rportInit payload =>
    simp only
    split
    · split
      · exact .inr (.inl ⟨_, rfl, rfl, rfl⟩)
      · exact .inl ⟨rfl, rfl⟩
    · exact .inl ⟨rfl, rfl⟩
  | activeSlave id spec =>
    simp only
    split
    · exact .inr (.inr (.inl ⟨_, _, rfl, rfl, rfl⟩))
    · exact .inl ⟨rfl, rfl⟩
  | data id data => exact .inr (.inr (.inr (.inl ⟨id, data, rfl, rfl⟩)))
  | freeContext id => exact .inr (.inr (.inr (.inr ⟨id, rfl, rfl⟩)))
  | toListener | check | echo | ignore => exact .inl ⟨rfl, rfl⟩

/-! What a step of a connection does. -/

/-- A step of connection `i` from `conn` to `conn'`, as far as the rest of the process is
concerned. -/
structure ConnMove (s s' : Daemon) (i : Nat) (conn conn' : Conn) (act : ConnAct) : Prop where
  conns : s'.conns = s.conns.set i conn'
  ciphers : s'.ciphers = match act with
    | .install => Function.update s.ciphers conn.sessionId (some s.heap.length)
    | .remove => Function.update s.ciphers conn.sessionId none
    | _ => s.ciphers
  heap : s'.heap.length = match act with
    | .install => s.heap.length + 1
    | _ => s.heap.length
  /-- The session id is settled with the first frame. -/
  late : conn.phase.early = false ∨ act = .install →
    conn'.phase.early = false ∧ conn'.sessionId = conn.sessionId
  busy : conn.phase = .dispatching → (∀ aborted, act ≠ .dispatched aborted) →
    conn'.phase = .dispatching
  ended : conn.phase = .ended → conn'.phase = .ended
  ends : act = .install → conn'.phase ≠ .ended

theorem store_length (heap : List PskCipher) (handle : Option Nat) (cipher : Option PskCipher) :
    (store heap handle cipher).length = heap.length := by
  unfold store
  split
  · exact List.length_set
  · rfl

theorem heapAfterRead_length (aes : Aes128Gcm) (s : Daemon) (handle : Option Nat)
    (rd : Chunks UInt8) : (s.heapAfterRead aes handle rd).length = s.heap.length := by
  unfold Daemon.heapAfterRead
  split
  · exact store_length _ _ _
  · rfl

theorem heapAfterWrite_length (aes : Aes128Gcm) (s : Daemon) (handle : Option Nat)
    (msg : TaskMessage) : (s.heapAfterWrite aes handle msg).length = s.heap.length := by
  unfold Daemon.heapAfterWrite
  split
  · exact store_length _ _ _
  · rfl

/-- A step that replaces the record of its connection and uses at most a cipher. -/
theorem ConnMove.of_put {s s' : Daemon} {i : Nat} {conn conn' : Conn} {act : ConnAct}
    (hact : act ≠ .install ∧ act ≠ .remove) (hconns : s'.conns = s.conns.set i conn')
    (hciphers : s'.ciphers = s.ciphers) (hheap : s'.heap.length = s.heap.length)
    (hlate : conn.phase.early = false →
      conn'.phase.early = false ∧ conn'.sessionId = conn.sessionId)
    (hbusy : conn.phase = .dispatching → (∀ aborted, act ≠ .dispatched aborted) →
      conn'.phase = .dispatching)
    (hended : conn.phase = .ended → conn'.phase = .ended) : ConnMove s s' i conn conn' act where
  conns := hconns
  ciphers := by
    cases act with
    | install => exact absurd rfl hact.1
    | remove => exact absurd rfl hact.2
    | _ => exact hciphers
  heap := by
    cases act with
    | install => exact absurd rfl hact.1
    | _ => exact hheap
  late h := hlate (h.resolve_right hact.1)
  busy := hbusy
  ended := hended
  ends h := absurd h hact.1

/-- Writers leave the handler where it is, unless it waits for its response to be sent. -/
theorem ConnMove.of_send {s s' : Daemon} {i : Nat} {conn : Conn} {act : ConnAct}
    {move : Phase → Phase} (hact : act ≠ .install ∧ act ≠ .remove)
    (hmove : ∀ phase, (∀ reply, phase ≠ .replying reply) → move phase = phase)
    (hconns : s'.conns = s.conns.set i { conn with sending := none, phase := move conn.phase })
    (hciphers : s'.ciphers = s.ciphers) (hheap : s'.heap.length = s.heap.length) :
    ConnMove s s' i conn { conn with sending := none, phase := move conn.phase } act := by
  refine .of_put hact hconns hciphers hheap ?_ ?_ ?_
  · intro hlate
    have hne : ∀ reply, conn.phase ≠ .replying reply := by
      rintro reply heq
      rw [heq] at hlate
      cases hlate
    exact ⟨by rw [hmove conn.phase hne]; exact hlate, rfl⟩
  · intro hbusy _
    rw [hmove conn.phase (by simp [hbusy])]
    exact hbusy
  · intro hended
    rw [hmove conn.phase (by simp [hended])]
    exact hended

theorem Conn.afterFrame_late (env : DaemonEnv) (conn : Conn) (msg : TaskMessage) (random : UInt32)
    (psk : Psk) {stage : Stage} (hstage : stage ≠ .first) :
    (conn.afterFrame env msg random psk stage).phase.early = false ∧
      (conn.afterFrame env msg random psk stage).sessionId = conn.sessionId := by
  cases stage with
  | first => exact absurd rfl hstage
  | ack | loop =>
    simp only [Conn.afterFrame]
    split <;> exact ⟨rfl, rfl⟩
  | shell => exact ⟨rfl, rfl⟩

theorem connStep_move {env : DaemonEnv} {s s' : Daemon} {i : Nat} {conn : Conn} {act : ConnAct}
    (h : connStep env s i conn act = some s') : ∃ conn', ConnMove s s' i conn conn' act := by
  cases act with
  | lookup =>
    simp only [connStep] at h
    split at h <;> cases h
    rename_i stage hphase
    refine ⟨_, .of_put (by simp) rfl rfl rfl ?_ (by simp [hphase]) (by simp [hphase])⟩
    intro hlate
    rw [hphase] at hlate
    refine ⟨?_, rfl⟩
    cases stage <;> first | rfl | cases hlate
  | frame rd random psk =>
    simp only [connStep] at h
    split at h
    · rename_i stage handle hphase
      have hfirst : conn.phase.early = false → stage ≠ .first := by
        rintro hlate rfl
        rw [hphase] at hlate
        cases hlate
      split at h <;> cases h
      · exact ⟨_, .of_put (by simp) rfl rfl (store_length _ _ _)
          (fun hlate => conn.afterFrame_late env _ random psk (hfirst hlate))
          (by simp [hphase]) (by simp [hphase])⟩
      · refine ⟨_, .of_put (by simp) rfl rfl (heapAfterRead_length _ _ _ _) ?_ (by simp [hphase])
          (by simp [hphase])⟩
        exact fun _ => ⟨by cases stage <;> rfl, rfl⟩
    · cases h
  | timeout =>
    simp only [connStep] at h
    split at h <;> cases h
    rename_i hphase
    exact ⟨_, .of_put (by simp) rfl rfl rfl (fun _ => ⟨rfl, rfl⟩) (by simp [hphase])
      (by simp [hphase])⟩
  | sendLookup msg =>
    simp only [connStep] at h
    split at h <;> cases h
    exact ⟨_, .of_put (by simp) rfl rfl rfl (fun hlate => ⟨hlate, rfl⟩) (fun hbusy _ => hbusy)
      fun hended => hended⟩
  | sendWrite =>
    simp only [connStep] at h
    split at h
    · split at h <;> cases h
      · exact ⟨_, .of_send (by simp) (fun _ => afterSend_other) rfl rfl (store_length _ _ _)⟩
      · exact ⟨_, .of_send (by simp) (fun _ => afterSendError_other) rfl rfl rfl⟩
    · cases h
  | sendFail =>
    simp only [connStep] at h
    split at h <;> cases h
    exact ⟨_, .of_send (by simp) (fun _ => afterSendError_other) rfl rfl
      (heapAfterWrite_length _ _ _ _)⟩
  | install =>
    simp only [connStep] at h
    split at h <;> cases h
    rename_i psk encryptEnabled hphase
    refine ⟨_, rfl, rfl, List.length_append, fun _ => ⟨?_, rfl⟩, by simp [hphase],
      by simp [hphase], fun _ => ?_⟩
    · cases encryptEnabled <;> rfl
    · cases encryptEnabled <;> simp
  | dispatched aborted =>
    simp only [connStep] at h
    split at h <;> cases h
    rename_i hphase
    refine ⟨_, .of_put (by simp) rfl rfl rfl (fun _ => ⟨?_, rfl⟩) (fun _ hne => absurd rfl (hne _))
      (by simp [hphase])⟩
    cases aborted <;> rfl
  | remove =>
    simp only [connStep] at h
    split at h <;> cases h
    rename_i hphase
    exact ⟨_, rfl, rfl, rfl, fun _ => ⟨rfl, rfl⟩, by simp [hphase], fun _ => rfl, by simp⟩
  | shellEnd =>
    simp only [connStep] at h
    split at h <;> cases h
    all_goals
      rename_i hphase
      exact ⟨_, .of_put (by simp) rfl rfl rfl (fun _ => ⟨rfl, rfl⟩) (by simp [hphase])
        (fun _ => rfl)⟩

namespace ConnMove
variable {s s' : Daemon} {i : Nat} {conn conn' : Conn} {act : ConnAct}

theorem heap_le (h : ConnMove s s' i conn conn' act) : s.heap.length ≤ s'.heap.length := by
  rw [h.heap]
  split <;> omega

/-- What is registered has been there before, or has just been installed. -/
theorem cipher_cases (h : ConnMove s s' i conn conn' act) {id : UInt32} {handle : Nat}
    (hid : s'.ciphers id = some handle) : s.ciphers id = some handle ∨
      (act = .install ∧ id = conn.sessionId ∧ handle = s.heap.length) := by
  rw [h.ciphers] at hid
  split at hid
  · rw [Function.update_apply] at hid
    split at hid
    · rename_i heq
      cases hid
      exact .inr ⟨rfl, heq, rfl⟩
    · exact .inl hid
  · rw [Function.update_apply] at hid
    split at hid
    · cases hid
    · exact .inl hid
  · exact .inl hid

end ConnMove

/-! What is so in every state of the process. -/

structure ProcessInv (s : DaemonProcess) : Prop where
  /-- Only a main loop that waits for `dispatch_task` has a message with it. -/
  busy : ∀ i, s.jobs i ≠ .idle →
    ∃ conn, s.net.conns[i]? = some conn ∧ conn.phase = .dispatching
  inserting : ∀ i c n, s.jobs i = .inserting c n → s.forward.ownerOf n = some i
  handles : ∀ id handle, s.net.ciphers id = some handle → handle < s.net.heap.length
  /-- A connection's cipher is registered under its session id, if it is. -/
  installed : ∀ i handle, s.installed i = some handle → handle < s.net.heap.length ∧
    ∃ conn, s.net.conns[i]? = some conn ∧ conn.phase.early = false ∧
      ∀ id, s.net.ciphers id = some handle → id = conn.sessionId

theorem ProcessInv.init (fs : Fs) : ProcessInv (.init fs) where
  busy _ h := absurd rfl h
  inserting _ _ _ h := by cases h
  handles _ _ h := by cases h
  installed _ _ h := by cases h

namespace DaemonProcess
variable {s s' : DaemonProcess}

theorem busy_of_takenMsg {net : Daemon} {i : Nat} {msg : TaskMessage} (h : takenMsg net i = some msg) :
    ∃ conn, net.conns[i]? = some conn ∧ conn.phase = .dispatching := by
  unfold takenMsg at h
  split at h
  · rename_i hphase
    exact Option.map_eq_some_iff.mp hphase
  · cases h

theorem jobsAfter_busy {net : Daemon} {act : DaemonAct} {j : Nat}
    (h : s.jobsAfter net act j ≠ .idle) :
    (s.jobs j ≠ .idle ∧ ∀ aborted, act ≠ .on j (.dispatched aborted)) ∨
      ∃ conn, net.conns[j]? = some conn ∧ conn.phase = .dispatching := by
  cases act with
  | accept => exact .inl ⟨h, by simp⟩
  | on i act =>
    cases act with
    | frame rd random psk =>
      cases htaken : takenMsg net i with
      | none =>
        simp only [jobsAfter, htaken] at h
        exact .inl ⟨h, by simp⟩
      | some msg =>
        by_cases hij : j = i
        · subst hij
          exact .inr (busy_of_takenMsg htaken)
        · simp only [jobsAfter, htaken, Function.update_of_ne hij] at h
          exact .inl ⟨h, by simp⟩
    | dispatched aborted =>
      by_cases hij : j = i
      · subst hij
        exact absurd (Function.update_self _ _ _) h
      · simp only [jobsAfter, Function.update_of_ne hij] at h
        exact .inl ⟨h, by simp [Ne.symm hij]⟩
    | _ => exact .inl ⟨h, by simp⟩

theorem jobsAfter_inserting {net : Daemon} {act : DaemonAct} {j n : Nat} {c : UInt32}
    (h : s.jobsAfter net act j = .inserting c n) : s.jobs j = .inserting c n := by
  -- where the job is replaced, it is by another one
  have hother : ∀ {i job}, Function.update s.jobs i job j = .inserting c n →
      job ≠ .inserting c n → s.jobs j = .inserting c n := by
    intro i job hupdate hne
    by_cases hij : j = i
    · subst hij
      rw [Function.update_self] at hupdate
      exact absurd hupdate hne
    · rwa [Function.update_of_ne hij] at hupdate
  cases act with
  | accept => exact h
  | on i act =>
    cases act with
    | frame rd random psk =>
      cases htaken : takenMsg net i with
      | none => simpa only [jobsAfter, htaken] using h
      | some msg =>
        simp only [jobsAfter, htaken] at h
        exact hother h (by simp)
    | dispatched aborted => exact hother h (by simp)
    | _ => exact h

theorem installedAfter_cases {i j handle : Nat} {act : ConnAct}
    (h : s.installedAfter (.on i act) j = some handle) : s.installed j = some handle ∨
      (act = .install ∧ j = i ∧ handle = s.net.heap.length) := by
  cases act with
  | install =>
    simp only [installedAfter, Function.update_apply] at h
    split at h
    · rename_i heq
      cases h
      exact .inr ⟨rfl, heq, rfl⟩
    · exact .inl h
  | _ => exact .inl h

/-- What a step of the handler of connection `i` leaves alone. -/
structure TaskMove (s s' : DaemonProcess) (i : Nat) : Prop where
  net : s'.net = s.net
  installed : s'.installed = s.installed
  busy : s.jobs i ≠ .idle
  jobs : ∀ j, j ≠ i → s'.jobs j = s.jobs j

theorem taskStep_move {i : Nat} {sessionId : UInt32} {outcome : TaskOutcome}
    (h : s.taskStep i sessionId outcome (s.jobs i) = some s') : TaskMove s s' i := by
  have hjobs : ∀ (job : TaskJob) (j : Nat), j ≠ i → Function.update s.jobs i job j = s.jobs j :=
    fun job j hj => Function.update_of_ne hj _ _
  have hbusy : s.jobs i ≠ .idle := by
    intro hidle
    rw [hidle] at h
    cases h
  generalize s.jobs i = job at h
  cases taskStep_case h <;> exact ⟨rfl, rfl, hbusy, hjobs _⟩

end DaemonProcess

/-- From `f` to `f'` no listener changes hands. -/
def KeepsOwners (f f' : ForwardState) : Prop :=
  ∀ n a, f.ownerOf n = some a → f'.ownerOf n = some a

theorem KeepsOwners.of_eq {f f' : ForwardState} (h : ∀ n, f'.ownerOf n = f.ownerOf n) :
    KeepsOwners f f' :=
  fun n _ ha => (h n).trans ha

theorem KeepsOwners.spawn (f : ForwardState) (l : RportListener) : KeepsOwners f (f.spawn l) := by
  intro n a ha
  have hlt : n ≠ f.spawned.length := by
    rintro rfl
    rw [(f.ownerOf_eq_none_iff).mpr le_rfl] at ha
    cases ha
  rw [f.ownerOf_spawn, if_neg hlt, ha]

theorem handleForwardTask_keepsOwners (f : ForwardState) (i : Nat) (msg : TaskMessage)
    (outcome : TakeOutcome) : KeepsOwners f (handleForwardTask f i msg outcome).1 := by
  rcases handleForwardTask_cases f i msg outcome with ⟨h, -⟩ | ⟨l, -, h, -⟩ | ⟨id, conn, -, h, -⟩ |
    ⟨id, data, h, -⟩ | ⟨id, h, -⟩ <;> rw [h]
  · exact .of_eq fun _ => rfl
  · exact .spawn f l
  all_goals exact .of_eq (by simp)

namespace DaemonProcess
variable {s s' : DaemonProcess} {i : Nat} {sessionId : UInt32} {outcome : TaskOutcome}

theorem taskStep_keepsOwners {job : TaskJob} (h : s.taskStep i sessionId outcome job = some s') :
    KeepsOwners s.forward s'.forward := by
  cases taskStep_case h with
  | routed => exact .of_eq fun m => s.forward.ownerOf_onSpawned _ m _
  | missed => exact .of_eq fun _ => rfl
  | @other msg =>
    simp only
    split
    · exact .of_eq fun m => s.forward.ownerOf_handleChannelClose _ m
    · exact .of_eq fun _ => rfl
  | @matched msg => exact handleForwardTask_keepsOwners s.forward i msg outcome.take
  | inserted => exact .of_eq fun _ => rfl

/-- A listener that is to be registered is one the connection has spawned. -/
theorem taskStep_inserting {job : TaskJob} {c : UInt32} {n : Nat}
    (h : s.taskStep i sessionId outcome job = some s') (hins : s'.jobs i = .inserting c n) :
    s'.forward.ownerOf n = some i := by
  have hself : ∀ job, (s.setJob i job).jobs i = job := fun job => Function.update_self _ _ _
  cases taskStep_case h with
  | routed | other | inserted => cases (hself _).symm.trans hins
  | missed _ _ hjob => exact absurd ((hself _).symm.trans hins) (hjob c n)
  | @matched msg job hjob =>
    have hspawned := hjob c n ((hself _).symm.trans hins)
    rcases handleForwardTask_cases s.forward i msg outcome.take with ⟨-, hl⟩ | ⟨l, howner, hf, hl⟩ |
      ⟨_, _, -, -, hl⟩ | ⟨_, _, -, hl⟩ | ⟨_, -, hl⟩ <;> rw [hl] at hspawned <;> cases hspawned
    simp only
    rw [hf, ForwardState.ownerOf_spawn, if_pos rfl, howner]

end DaemonProcess

theorem ProcessInv.net {env : DaemonEnv} {s : DaemonProcess} {net : Daemon} {act : DaemonAct}
    (hinv : ProcessInv s) (h : daemonStep env s.net act = some net) :
    ProcessInv { s with net, jobs := s.jobsAfter net act, installed := s.installedAfter act } := by
  cases act with
  | accept =>
    cases h
    have hconns : ∀ {i : Nat} {conn : Conn}, s.net.conns[i]? = some conn →
        (s.net.conns ++ [Conn.fresh])[i]? = some conn := fun hi =>
      (List.getElem?_append_left (List.getElem?_eq_some_iff.mp hi).1).trans hi
    refine ⟨?_, hinv.inserting, hinv.handles, ?_⟩
    · intro i hi
      obtain ⟨conn, hconn, hbusy⟩ := hinv.busy i hi
      exact ⟨conn, hconns hconn, hbusy⟩
    · intro i handle hi
      obtain ⟨hlt, conn, hconn, hrest⟩ := hinv.installed i handle hi
      exact ⟨hlt, conn, hconns hconn, hrest⟩
  | on i act =>
    obtain ⟨conn, hi, hstep⟩ := Option.bind_eq_some_iff.mp h
    obtain ⟨conn', hmove⟩ := connStep_move hstep
    have hself : net.conns[i]? = some conn' := by
      rw [hmove.conns, List.getElem?_set_self (List.getElem?_eq_some_iff.mp hi).1]
    have hother : ∀ j, j ≠ i → net.conns[j]? = s.net.conns[j]? := fun j hj => by
      rw [hmove.conns, List.getElem?_set_ne hj.symm]
    refine ⟨?_, fun j c n hj => hinv.inserting j c n (DaemonProcess.jobsAfter_inserting hj), ?_, ?_⟩
    · intro j hj
      rcases DaemonProcess.jobsAfter_busy hj with ⟨hjob, hact⟩ | hbusy
      · obtain ⟨conn₁, hconn₁, hbusy⟩ := hinv.busy j hjob
        by_cases hij : j = i
        · subst hij
          obtain rfl : conn = conn₁ := Option.some.inj (hi.symm.trans hconn₁)
          exact ⟨conn', hself, hmove.busy hbusy fun aborted heq => hact aborted (by rw [heq])⟩
        · exact ⟨conn₁, (hother j hij).trans hconn₁, hbusy⟩
      · exact hbusy
    · intro id handle hid
      rcases hmove.cipher_cases hid with hold | ⟨rfl, -, rfl⟩
      · exact (hinv.handles id handle hold).trans_le hmove.heap_le
      · exact hmove.heap ▸ Nat.lt_succ_self _
    · intro j handle hj
      rcases DaemonProcess.installedAfter_cases hj with hold | ⟨rfl, rfl, rfl⟩
      · obtain ⟨hlt, conn₁, hconn₁, hlate, hids⟩ := hinv.installed j handle hold
        have hids' : ∀ id, net.ciphers id = some handle → id = conn₁.sessionId := by
          intro id hid
          rcases hmove.cipher_cases hid with hid | ⟨-, -, heq⟩
          · exact hids id hid
          · exact absurd heq hlt.ne
        refine ⟨hlt.trans_le hmove.heap_le, ?_⟩
        by_cases hij : j = i
        · subst hij
          obtain rfl : conn = conn₁ := Option.some.inj (hi.symm.trans hconn₁)
          obtain ⟨hlate', hsession⟩ := hmove.late (.inl hlate)
          exact ⟨conn', hself, hlate', fun id hid => (hids' id hid).trans hsession.symm⟩
        · exact ⟨conn₁, (hother j hij).trans hconn₁, hlate, hids'⟩
      · obtain ⟨hlate', hsession⟩ := hmove.late (.inr rfl)
        refine ⟨hmove.heap ▸ Nat.lt_succ_self _, conn', hself, hlate', ?_⟩
        intro id hid
        rcases hmove.cipher_cases hid with hid | ⟨-, heq, -⟩
        · exact absurd (hinv.handles id _ hid) (lt_irrefl _)
        · exact heq.trans hsession.symm

theorem ProcessInv.task {s s' : DaemonProcess} {i : Nat} {sessionId : UInt32}
    {outcome : TaskOutcome} (hinv : ProcessInv s)
    (h : s.taskStep i sessionId outcome (s.jobs i) = some s') : ProcessInv s' := by
  have hmove := DaemonProcess.taskStep_move h
  refine ⟨?_, ?_, ?_, ?_⟩
  · intro j hj
    rw [hmove.net]
    by_cases hij : j = i
    · subst hij
      exact hinv.busy j hmove.busy
    · exact hinv.busy j (hmove.jobs j hij ▸ hj)
  · intro j c n hj
    by_cases hij : j = i
    · subst hij
      exact DaemonProcess.taskStep_inserting h hj
    · exact DaemonProcess.taskStep_keepsOwners h n j (hinv.inserting j c n (hmove.jobs j hij ▸ hj))
  · rw [hmove.net]
    exact hinv.handles
  · rw [hmove.net, hmove.installed]
    exact hinv.installed

/-- A step of the forwards that are there already. -/
theorem ProcessInv.forward {s : DaemonProcess} (hinv : ProcessInv s) {f : ForwardState}
    (hf : ∀ n, f.ownerOf n = s.forward.ownerOf n) : ProcessInv { s with forward := f } :=
  { hinv with inserting := fun i c n hjob => (hf n).trans (hinv.inserting i c n hjob) }

theorem processStep_keeps {env : DaemonEnv} {s s' : DaemonProcess} {act : ProcessAct}
    (hinv : ProcessInv s) (h : processStep env s act = some s') : ProcessInv s' := by
  cases processStep_move h with
  | net hstep => exact hinv.net hstep
  | task hstep => exact hinv.task hstep
  | @listener _ _ l task effect hl =>
    exact hinv.forward fun m => s.forward.ownerOf_onListener hl (by rfl) effect m
  | fportEnds => exact hinv.forward fun _ => rfl
  | files => exact { hinv with }

theorem processInv_of_reaches {env : DaemonEnv} {fs : Fs} {ok : DaemonProcess → ProcessAct → Prop}
    {s : DaemonProcess} (h : Reaches (processStep env) ok (.init fs) s) : ProcessInv s :=
  h.invariant (fun hinv _ hst => processStep_keeps hinv hst) (.init fs)

/-- The connections of the process are those of a daemon. -/
theorem net_of_reaches {env : DaemonEnv} {fs : Fs} {ok : DaemonProcess → ProcessAct → Prop}
    {s : DaemonProcess} (h : Reaches (processStep env) ok (.init fs) s) :
    Reaches (daemonStep env) anyStep .init s.net := by
  refine h.map DaemonProcess.net ?_
  intro s act s' _ hstep
  cases processStep_move hstep with
  | @net act net hnet => exact .inr ⟨act, trivial, hnet⟩
  | task hstep => exact .inl (DaemonProcess.taskStep_move hstep).net
  | listener | fportEnds | files => exact .inl rfl

/-! Runs. -/

/-- Everything the daemon tries succeeds. -/
def exampleOutcome : TaskOutcome where
  take := ⟨.ok (), 9, true, true⟩
  io := {}
  bm := fun _ => .ok ⟨[], [], true⟩
  others := ([], .ok ())
  sendError := none

/-- Client `i` connects without encryption, with a session id of its own. -/
def connectPlain (i : Nat) : List ProcessAct :=
  let hello := SessionHandShake.serialize { sessionId := UInt32.ofNat (7 + i), buf := "" }
  (exampleConnect i ⟨0, .kernelHandshake, hello⟩).map .net

/-- The end of a connection's stream. -/
def hangUp : Chunks UInt8 := ⟨[], fun _ h => absurd h List.not_mem_nil⟩

/-- The main loop of connection `i` takes a message. -/
def takeMsg (i : Nat) (msg : TaskMessage) : List ProcessAct :=
  [.net (.on i .lookup), .net (.on i (.frame (arriving msg) 0 examplePsk))]

/-- The message is handled, in `steps` steps. -/
def handleMsg (i : Nat) (msg : TaskMessage) (steps : Nat) : List ProcessAct :=
  takeMsg i msg ++ List.replicate steps (.task i exampleOutcome) ++ [.net (.on i (.dispatched false))]

end Hdc
