import Hdc.FileDaemon
import Hdc.ForwardMap
import Hdc.ForwardSetup
import Hdc.Rport
import Hdc.RportSetup
import Mathlib.Logic.Function.Basic

/- The forwards of one session, host and daemon together: the handlers of `fport` and `rport`
   and `remove_forward_entry` over the host's `ForwardMap` (`hdc/src/server.rs`); the main loop
   with `handle_forward_task`, `handle_rport_init` and `handle_channel_close`, and the listeners
   with their `cleanup_rport_listener`, over the daemon's `rport_listeners` and `fport_senders`
   (`hdcd/src/main.rs`, `hdcd/src/task.rs`, `hdcd/src/forward.rs`).

   The session delivers every message, in order. What the connections of a forward and the
   other commands send is any message of theirs, at any time; what is written to sockets is
   left out. A forward command is one of a client's channel, and a channel runs one command
   after the other. -/
namespace Hdc
open Rust Wire Lts

/-! The host. -/

/-- The forward command a channel has run last. -/
inductive HostHandler where
  | idle
  | fport (job : ForwardJob) (phase : SetupPhase)
  | rport (job : RportJob) (phase : RportSetupPhase)
  /-- The entry is registered, and the dispatcher spawned. -/
  | running
  deriving DecidableEq, Repr

inductive HandlerAct where
  | fport (act : ServerAct SetupAct)
  | rport (act : ServerAct RportSetupAct)
  deriving DecidableEq, Repr

/-- The act is the arrival of a message. -/
def HandlerAct.receives : HandlerAct → Bool
  | .fport (.own (.recv _)) | .rport (.own (.recv _ _)) => true
  | _ => false

namespace HostHandler

/-- The channel may run another command. -/
def free : HostHandler → Bool
  | .idle | .running | .fport _ (.ended (.error _)) | .rport _ (.ended (.error _)) => true
  | _ => false

def isFport : HostHandler → Bool
  | .fport _ _ => true
  | _ => false

/-- A step of the set-up. -/
def step (maps : SessionMaps) : HostHandler → HandlerAct → Option (HostHandler × List TaskMessage)
  | .fport job phase, .fport act =>
    ((forwardSetup job).deliver maps phase act).map fun (phase, sent) => (.fport job phase, sent)
  | .rport job phase, .rport act =>
    ((rportSetup job).deliver maps phase act).map fun (phase, sent) => (.rport job phase, sent)
  | _, _ => none

/-- A message is received; `reachable` is whether the port of a check accepts connections. -/
def receive (task : TaskMessage) (reachable : Bool) : HostHandler → Option HostHandler
  | .fport job phase => (job.step phase (.recv task)).map fun (phase, _) => .fport job phase
  | .rport job phase => (job.step phase (.recv task reachable)).map fun (phase, _) => .rport job phase
  | _ => none

/-- The entry of a handler that is ready to register it. -/
def entry (connectKey : String) : HostHandler → Option ForwardEntry
  | .fport job (.ended (.ok _)) => some {
      channelId := job.channelId
      sessionId := job.sessionId
      connectKey
      direction := .forward
      taskString := job.localSpec ++ " " ++ job.remoteSpec
      abortHandle := true }
  | .rport job (.ended (.ok ())) => some {
      channelId := job.channelId
      sessionId := job.sessionId
      connectKey
      direction := .reverse
      taskString := job.taskString
      abortHandle := false }
  | _ => none

end HostHandler

/-! The daemon. -/

structure DaemonListener where
  listenerId : UInt32
  remoteSpec : String
  localSpec : String
  task : ListenerTask
  deriving DecidableEq, Repr

/-- The main loop of `handle_client`. -/
inductive MainLoop where
  | reading
  /-- In `handle_rport_init`, with the listener spawned and its entry to be made. -/
  | inserting (channelId : UInt32) (n : Nat)
  /-- The loop is over, since `dispatch_task` returned `ConnectionAborted`. -/
  | aborted
  deriving DecidableEq, Repr

/-- What the outside world makes of a message for the daemon. -/
structure TakeOutcome where
  /-- The result of `start_listener`. -/
  bind : IoResult Unit
  /-- The id the listener draws. -/
  listenerId : UInt32
  /-- Whether `check_remote_reachable` and `connect_remote` succeed. -/
  reachable : Bool
  connected : Bool
  deriving DecidableEq, Repr

/-! The two together. -/

/-- A channel, as far as forwards are concerned. -/
structure ForwardChannel where
  handler : HostHandler
  toHost : List TaskMessage
  /-- All that were spawned, the oldest first. -/
  listeners : List DaemonListener
  /-- The one `rport_listeners` has, by its position. -/
  listed : Option Nat
  deriving DecidableEq, Repr

structure ForwardSession where
  map : ForwardMap
  /-- The entries whose close is still to be sent; the map is locked until then. -/
  closing : List ForwardEntry
  toDaemon : List TaskMessage
  main : MainLoop
  /-- `fport_senders`: ids and channels. -/
  senders : List (UInt32 × UInt32)
  channels : UInt32 → ForwardChannel

def ForwardSession.init : ForwardSession where
  map := .new
  closing := []
  toDaemon := []
  main := .reading
  senders := []
  channels := fun _ => ⟨.idle, [], [], none⟩

inductive ForwardAct where
  | fport (channelId : UInt32) (listenIp : String) (params : List String)
  | rport (channelId : UInt32) (params : List String)
  | handler (channelId : UInt32) (act : HandlerAct)
  /-- The handler of a channel receives the next message that came on channel `source`. -/
  | receive (channelId source : UInt32) (reachable : Bool)
  | register (channelId : UInt32) (connectKey : String)
  /-- A forward of another session is registered. -/
  | registerOther (entry : ForwardEntry)
  /-- An iteration gives the entries in another order. -/
  | reorder (entries : List ForwardEntry)
  /-- `remove_forward_entry`. -/
  | remove (connectKeyFilter spec : String)
  /-- It sends the next close; `outcome` is that of the map that has the session. -/
  | close (outcome : IoResult Unit)
  | hostSends (msg : TaskMessage)
  | daemonSends (msg : TaskMessage)
  /-- A message for the host finds no handler, or not one of a set-up. -/
  | drop (channelId : UInt32)
  /-- The main loop takes the next message. -/
  | take (outcome : TakeOutcome)
  /-- It makes the listener's entry. -/
  | insert
  | listener (channelId : UInt32) (n : Nat) (act : ListenerAct)
  deriving DecidableEq, Repr

/-- What the host sends in the steps above. `ShellInit` does not go to a session over TCP. -/
def hostOwn (msg : TaskMessage) : Bool :=
  msg.command == .forwardInit || msg.command == .forwardRportInit ||
    msg.command == .kernelChannelClose || msg.command == .shellInit

def daemonOwn (msg : TaskMessage) : Bool :=
  msg.command == .forwardSuccess || msg.command == .forwardCheckResult

/-- The commands `dispatch_task` passes to `handle_forward_task`. -/
def forwardCommands : List HdcCommand :=
  [.forwardInit, .forwardCheck, .forwardCheckResult, .forwardActiveSlave, .forwardActiveMaster,
    .forwardData, .forwardFreeContext, .forwardList, .forwardRemove, .forwardSuccess,
    .forwardRportInit, .forwardRportList, .forwardRportRemove]

namespace ForwardSession
variable (s : ForwardSession) (c : UInt32)

def setChannel (ch : ForwardChannel) : ForwardSession :=
  { s with channels := Function.update s.channels c ch }

def setHandler (handler : HostHandler) : ForwardSession :=
  s.setChannel c { s.channels c with handler }

/-- The daemon sends a message. -/
def reply (msg : TaskMessage) : ForwardSession :=
  s.setChannel msg.channelId
    { s.channels msg.channelId with toHost := (s.channels msg.channelId).toHost ++ [msg] }

/-- Whether `handle_channel_close` finds anything of a channel. -/
def forwardChannel : Bool := (s.channels c).listed.isSome || s.senders.any (·.2 == c)

/-- The listener that has the channel's entry. -/
def onListed (f : ListenerTask → ListenerTask) : List DaemonListener :=
  match (s.channels c).listed with
  | some n => (s.channels c).listeners.modify n fun l => { l with task := f l.task }
  | none => (s.channels c).listeners

/-- The `KernelChannelClose` arm of `dispatch_task`, and what the main loop makes of its result. -/
def channelClosed : ForwardSession :=
  let main := if s.forwardChannel c then MainLoop.reading else .aborted
  let closed := { s with main, senders := s.senders.filter (·.2 != c) }
  (closed.setChannel c
    { s.channels c with listed := none, listeners := s.onListed c .close }).reply (channelClose c)

def rportInit (payload : List UInt8) (outcome : TakeOutcome) : ForwardSession :=
  match splitWhitespace (fromUtf8Lossy payload) with
  | remoteSpec :: localSpec :: _ =>
    match outcome.bind with
    | .ok () =>
      let ch := s.channels c
      let spawned := s.setChannel c { ch with
        listeners := ch.listeners ++ [⟨outcome.listenerId, remoteSpec, localSpec, .spawned⟩] }
      { spawned with main := .inserting c ch.listeners.length }
    | .error e => s.reply (echoClient c ("Failed to bind " ++ remoteSpec ++ ": " ++ e.msg) .fail)
  | _ => s.reply (echoClient c "Invalid rport parameters, expected: remote_spec local_spec" .fail)

/-- `handle_forward_task`. -/
def forwardTask (msg : TaskMessage) (outcome : TakeOutcome) : ForwardSession :=
  let c := msg.channelId
  match decodeForwardTask (s.channels c).listed.isSome msg with
  | .toListener m => s.setChannel c { s.channels c with listeners := s.onListed c (·.push (.msg m)) }
  | .rportInit payload => s.rportInit c payload outcome
  | .check ctxId _ => s.reply (daemonCheckResult c ctxId outcome.reachable)
  | .activeSlave forwardId remoteSpec =>
    if outcome.connected then
      let inserted := { s with senders := (forwardId, c) :: s.senders.filter (·.1 != forwardId) }
      inserted.reply (daemonActiveMaster c forwardId remoteSpec)
    else s.reply (forwardFreeContext c forwardId)
  | .data _ _ => s
  | .freeContext forwardId => { s with senders := s.senders.filter (·.1 != forwardId) }
  | .echo text success => s.reply (echoClient c text (if success then .ok else .fail))
  | .ignore => s

/-- `dispatch_task`, as far as forwards are concerned. -/
def dispatch (msg : TaskMessage) (outcome : TakeOutcome) : ForwardSession :=
  if msg.command = .kernelChannelClose then s.channelClosed msg.channelId
  else if msg.command ∈ forwardCommands then s.forwardTask msg outcome
  else s

/-- The sender of a listener's queue is in the channel's entry, or with `handle_rport_init`. -/
def hasSender (n : Nat) : Bool := (s.channels c).listed == some n || s.main == .inserting c n

def onListener (n : Nat) (l : DaemonListener) (effect : ListenerEffect) : ForwardSession :=
  let ch := { s.channels c with listeners := (s.channels c).listeners.set n l }
  match effect with
  | .send msg => s.setChannel c { ch with toHost := ch.toHost ++ [msg] }
  | .unlist => s.setChannel c { ch with listed := none }
  | _ => s.setChannel c ch

end ForwardSession

section
variable (maps : SessionMaps) (sessionId : UInt32)

def forwardStep (s : ForwardSession) : ForwardAct → Option ForwardSession
  | .fport c listenIp params =>
    if (s.channels c).handler.free then
      match forwardStart sessionId c listenIp params with
      | .ok job => some (s.setHandler c (.fport job .start))
      | .error _ => some s
    else none
  | .rport c params =>
    if (s.channels c).handler.free then
      match rportStart sessionId c params with
      | .ok job => some (s.setHandler c (.rport job .start))
      | .error _ => some s
    else none
  | .handler c act =>
    -- messages are taken from the queue
    if act.receives then none
    else
      ((s.channels c).handler.step maps act).map fun (handler, sent) =>
        { s.setHandler c handler with toDaemon := s.toDaemon ++ sent }
  | .receive c source reachable =>
    match (s.channels source).toHost with
    | task :: toHost =>
      ((s.channels c).handler.receive task reachable).bind fun handler =>
        -- only `fport` registers another channel than its own, its context id
        if source = c ∨ handler.isFport then
          some ((s.setChannel source { s.channels source with toHost }).setHandler c handler)
        else none
    | [] => none
  | .register c connectKey =>
    if s.closing = [] then
      ((s.channels c).handler.entry connectKey).map fun entry =>
        { s.setHandler c .running with map := s.map.insert entry }
    else none
  | .registerOther entry =>
    if s.closing = [] ∧ entry.sessionId ≠ sessionId then some { s with map := s.map.insert entry }
    else none
  | .reorder entries => (s.map.reorder entries).map fun map => { s with map }
  | .remove connectKeyFilter spec =>
    if s.closing = [] then
      let (map, removed, _) := removeForwardEntry s.map connectKeyFilter spec
      some { s with map, closing := removed }
    else none
  | .close outcome =>
    match s.closing with
    | entry :: closing =>
      let sent := entry.sessionId = sessionId ∧ maps.sendToSession sessionId outcome = .ok ()
      some { s with
        closing, toDaemon := s.toDaemon ++ if sent then [channelClose entry.channelId] else [] }
    | [] => none
  | .hostSends msg => if hostOwn msg then none else some { s with toDaemon := s.toDaemon ++ [msg] }
  | .daemonSends msg => if daemonOwn msg then none else some (s.reply msg)
  | .drop c =>
    match (s.channels c).toHost with
    | _ :: toHost => some (s.setChannel c { s.channels c with toHost })
    | [] => none
  | .take outcome =>
    if s.main = .reading then
      match s.toDaemon with
      | msg :: toDaemon => some (ForwardSession.dispatch { s with toDaemon } msg outcome)
      | [] => none
    else none
  | .insert =>
    match s.main with
    | .inserting c n => some { s.setChannel c { s.channels c with listed := some n } with main := .reading }
    | _ => none
  | .listener c n act =>
    (s.channels c).listeners[n]?.bind fun l =>
      (listenerStep c l.listenerId l.remoteSpec l.localSpec (s.hasSender c n) l.task act).map
        fun (task, effect) => s.onListener c n { l with task } effect

end

end Hdc
