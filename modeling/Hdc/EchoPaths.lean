import Hdc.CharBoundary
import Hdc.DispatchTask
import Hdc.LiveSessions
import Hdc.ReaderRouting

/- The ways on which an echo of the daemon comes to a client (`hdc/src/server.rs`). The first byte of
   a `KernelEcho` is a log level, and the text follows.

   The reader of a session hands the message to the task that waits on its channel, or takes the
   level off and writes the rest to the client. The tasks that wait have each their own code for an
   echo. The two that follow `track-jpid` take the level off as well; the collector, the receipt of a
   file, the installation, the flash commands, the setup of a reverse forward and the bridge of the
   interactive shell do not. `level_stripped_iff` says so: the client gets the text alone exactly if
   the message is not taken by one of these six, in a phase in which it passes echoes on. -/
namespace Hdc
open Rust Wire

/-- An echo, as the daemon builds it. -/
def levelEcho (channelId : UInt32) (level : UInt8) (text : List UInt8) : TaskMessage :=
  ⟨channelId, .kernelEcho, level :: text⟩

/-! Who waits on a response channel. -/

/-- The task that takes a message from a response channel, in the state in which it does. Where
the task writes to the client's socket itself, `ok` is whether the write succeeds. -/
inductive EchoReceiver where
  /-- A call of `dispatch_task` for the client of this channel, in a handler or in
  `collect_daemon_response_then_close`. -/
  | call (channelId : UInt32) (phase : CallPhase)
  | dispatchTrack (found : IoResult UInt32) (channelId : UInt32) (params : List String) (t : Track)
  | devecoTrack (found : Option UInt32) (channelId : UInt32) (params : List String) (t : Track)
    (ok : Bool)
  | shellBridge (found : Option UInt32) (channelId : UInt32) (b : ShellBridge) (ok : Bool)

/-- The texts of a handler's step. -/
def stepTexts {σ ω : Type} (texts : ω → List String) : Option (σ × ω) → List String
  | some (_, out) => texts out
  | none => []

/-- The loop of `collect_daemon_response_then_close`. -/
def collectTexts (task : TaskMessage) : List String :=
  if task.command = .kernelChannelClose then [] else [fromUtf8Lossy task.payload]

/-- What a task writes to the socket of its client. -/
def streamed {σ : Type} (channelId : UInt32) : Option (σ × List UInt8) → List ReaderEffect
  | some (_, data) => if data = [] then [] else [.toClient channelId data]
  | none => []

section
variable (percent : UInt64 → UInt64 → UInt8) (reachable : Bool)

/-- The texts for the client in the step in which the handler of a call takes a message. -/
def CallPhase.shows (channelId : UInt32) (task : TaskMessage) : CallPhase → List String
  | .fileSend _ job phase => stepTexts HostOut.texts (sendStep job phase (.recv task))
  | .fileRecv _ job state => stepTexts HostOut.texts (recvStep job state (.recv task))
  | .install sessionId args state =>
    stepTexts InstallOut.texts ((appInstall sessionId channelId args).step state (.recv task))
  | .forward job phase => stepTexts SetupOut.texts ((forwardSetup job).step phase (.recv task))
  | .rport job phase =>
    stepTexts SetupOut.texts ((rportSetup job).step phase (.recv task reachable))
  | .flashd job phase => stepTexts FlashdOut.texts ((Hdc.flashd percent job).step phase (.recv task))
  | .collect _ => collectTexts task
  | .start | .returned _ => []

/-- What a receiver writes for a message that it takes; `s` are the maps at that time. -/
def EchoReceiver.writes (s : ReaderServer) (task : TaskMessage) :
    EchoReceiver → List ReaderEffect
  | .call channelId phase =>
    (phase.shows percent reachable channelId task).flatMap fun text =>
      s.sendChannelMessage channelId (utf8 text)
  | .dispatchTrack found channelId params t =>
    streamed channelId ((Hdc.dispatchTrack found channelId params).step t
      (.recv task (s.tcp.channelWriters channelId)))
  | .devecoTrack found channelId params t ok =>
    streamed channelId ((Hdc.devecoTrack found channelId params).step t (.recv task ok))
  | .shellBridge found channelId b ok =>
    streamed channelId ((Hdc.shellBridge found channelId).step b (.recv task ok))

end

/-- The reader of a session. -/
def Transport.routing (env : HostEnv) (sessionId : UInt32) (connectKey : String) (s : ReaderServer)
    (task : TaskMessage) : Transport → ReaderServer × List ReaderEffect
  | .tcp => tcpRouting env sessionId connectKey s task
  | .usb => usbRouting env sessionId connectKey s task

/-- The host when a message arrives: the maps, who takes a message from which response channel,
and the maps at the time when it is taken. -/
structure EchoHost where
  server : ReaderServer
  receivers : UInt32 → UInt32 → Option EchoReceiver
  later : ReaderServer

section
variable (percent : UInt64 → UInt64 → UInt8) (reachable : Bool) (host : EchoHost)
  (sessionId : UInt32)

/-- A message for a handler is taken by the one that waits. -/
def EchoHost.taken : ReaderEffect → List ReaderEffect
  | .toHandler channelId task =>
    match host.receivers sessionId channelId with
    | some receiver => receiver.writes percent reachable host.later task
    | none => []
  | effect => [effect]

/-- All that comes of a message of the daemon. -/
def EchoHost.delivers (env : HostEnv) (connectKey : String) (transport : Transport)
    (task : TaskMessage) : List ReaderEffect :=
  (transport.routing env sessionId connectKey host.server task).2.flatMap
    (host.taken percent reachable sessionId)

end

/-- Whatever is written to a client is the text, with its length in front. -/
def TextOnly (effects : List ReaderEffect) (text : List UInt8) : Prop :=
  ∀ channelId data, ReaderEffect.toClient channelId data ∈ effects → data = lengthPrefixed text

/-- The collector of a call tells the client `collectTexts`. -/
theorem collect_tells {env : DispatchEnv} {call : DispatchCall} {r : DispatchRun}
    {sessionId : UInt32} {task : TaskMessage} (hphase : r.phase = .collect sessionId)
    (hcommand : task.command ≠ .kernelChannelClose) :
    r.stepPhase env call (.recv task) = some (r.tellAll env call (collectTexts task)) := by
  unfold DispatchRun.stepPhase
  simp only [hphase, collectTexts, if_neg hcommand, DispatchRun.tellAll, List.foldl_cons,
    List.foldl_nil]

/-! The receivers that keep the level. -/

/-- The phases of a call in which an echo on this channel is passed on as it came. -/
def CallPhase.KeepsLevel (echoId : UInt32) : CallPhase → Prop
  | .fileRecv _ _ ⟨.receiving _, some _⟩ => True
  | .install _ _ ⟨.waitFinish _, _, _, _⟩ => True
  | .rport _ .waiting => True
  | .flashd job .waitFinish => job.channelId = echoId
  | .collect _ => True
  | _ => False

/-- A receiver passes an echo on as it came, and its client can be written to. -/
def EchoReceiver.KeepsLevel (later : ReaderServer) (echoId : UInt32) : EchoReceiver → Prop
  | .call channelId phase => later.tcp.channelWriters channelId = true ∧ phase.KeepsLevel echoId
  | .shellBridge _ _ b ok => b.reader = true ∧ ok = true
  | .dispatchTrack .. | .devecoTrack .. => False

/-- An echo on this channel is taken by such a receiver. -/
def EchoHost.KeepsLevel (host : EchoHost) (sessionId echoId : UInt32) : Prop :=
  (host.server.usb.responseChannels sessionId echoId).isSome = true ∧
    host.server.listening sessionId echoId = true ∧
    ∃ receiver, host.receivers sessionId echoId = some receiver ∧
      receiver.KeepsLevel host.later echoId

/-! Frames. -/

/-- A longer payload is another message. -/
theorem lengthPrefixed_ne {payload text : List UInt8} (h : text.length < payload.length) :
    lengthPrefixed payload ≠ lengthPrefixed text := by
  intro heq
  have hlen := congrArg List.length heq
  rw [length_lengthPrefixed, length_lengthPrefixed] at hlen
  omega

/-- A level cannot be lost in the replacements of `from_utf8_lossy`. -/
theorem lossy_level_ne (level : UInt8) (text : List UInt8) :
    lengthPrefixed (utf8 (fromUtf8Lossy (level :: text))) ≠ lengthPrefixed text :=
  lengthPrefixed_ne (length_le_fromUtf8Lossy (level :: text))

theorem lengthPrefixed_ne_nil (payload : List UInt8) : lengthPrefixed payload ≠ [] := by
  intro hnil
  have hlen := congrArg List.length hnil
  rw [length_lengthPrefixed, List.length_nil] at hlen
  omega

theorem textOnly_nil (text : List UInt8) : TextOnly [] text := by
  intro channelId data hmem
  exact absurd hmem List.not_mem_nil

theorem textOnly_toClient_iff {channelId : UInt32} {data text : List UInt8} :
    TextOnly [.toClient channelId data] text ↔ data = lengthPrefixed text := by
  constructor
  · intro h
    exact h channelId data List.mem_cons_self
  · intro h channelId' data' hmem
    cases List.mem_singleton.mp hmem
    exact h

/-- `send_channel_message` writes if the channel has a writer. -/
theorem textOnly_sendChannelMessage_iff {s : ReaderServer} {channelId : UInt32}
    {data text : List UInt8} :
    TextOnly (s.sendChannelMessage channelId data) text ↔
      (s.tcp.channelWriters channelId = true → lengthPrefixed data = lengthPrefixed text) := by
  by_cases hwriter : s.tcp.channelWriters channelId = true
  · rw [ReaderServer.sendChannelMessage, if_pos hwriter, textOnly_toClient_iff]
    exact ⟨fun h _ => h, fun h => h hwriter⟩
  · rw [ReaderServer.sendChannelMessage, if_neg hwriter]
    exact iff_of_true (textOnly_nil text) fun h => absurd h hwriter

theorem streamed_lengthPrefixed {σ : Type} (channelId : UInt32) (t : σ) (data : List UInt8) :
    streamed channelId (some (t, lengthPrefixed data)) =
      [.toClient channelId (lengthPrefixed data)] := by
  rw [streamed, if_neg (lengthPrefixed_ne_nil data)]

section
variable {percent : UInt64 → UInt64 → UInt8} {reachable : Bool} {echoId : UInt32} {level : UInt8}
  {text : List UInt8}

/-! What the handlers show of an echo. -/

theorem fileSend_shows (job : SendJob) (phase : SendPhase) :
    stepTexts HostOut.texts (sendStep job phase (.recv (levelEcho echoId level text))) = [] := by
  cases phase with
  | reading offset rest => cases rest <;> rfl
  | _ => rfl

theorem forward_shows (job : ForwardJob) (phase : SetupPhase) :
    stepTexts SetupOut.texts ((forwardSetup job).step phase
      (.recv (levelEcho echoId level text))) = [] := by
  cases phase <;> rfl

/-- The two loops of an installation take no message. -/
theorem install_recv (args : InstallArgs) (s : Install) (task : TaskMessage) :
    s.step args (.recv task) = s.stepHap (.recv task) := by
  have hloops : s.stepLoops args (.recv task) = none := by
    obtain ⟨phase, haps, packages, cleanupDirs⟩ := s
    cases phase <;> cases packages <;> cases haps <;> rfl
  rw [Install.step, hloops, Option.none_or]

theorem flashd_begin_shows (job : FlashdJob) (content : List UInt8) :
    (job.onBegin content (levelEcho echoId level text)).2.texts = [] := by
  unfold FlashdJob.onBegin
  split_ifs with hother hbegin
  · rfl
  · exact absurd hbegin nofun
  · rfl

theorem flashd_finish_shows (job : FlashdJob) (hchannel : job.channelId = echoId) :
    (job.onFinish (levelEcho echoId level text)).2.texts = [fromUtf8Lossy (level :: text)] := by
  subst hchannel
  rw [FlashdJob.onFinish, levelEcho, if_neg (not_not_intro rfl)]

theorem flashd_finish_ignores (job : FlashdJob) (hchannel : job.channelId ≠ echoId) :
    (job.onFinish (levelEcho echoId level text)).2.texts = [] := by
  rw [FlashdJob.onFinish, levelEcho, if_pos hchannel.symm]

variable (percent reachable echoId level text) in
/-- A handler passes on the whole payload, or nothing. -/
theorem shows_eq (channelId : UInt32) (phase : CallPhase) :
    (phase.KeepsLevel echoId ∧
      phase.shows percent reachable channelId (levelEcho echoId level text) =
        [fromUtf8Lossy (level :: text)]) ∨
    (¬ phase.KeepsLevel echoId ∧
      phase.shows percent reachable channelId (levelEcho echoId level text) = []) := by
  cases phase with
  | start => exact .inr ⟨id, rfl⟩
  | returned result => exact .inr ⟨id, rfl⟩
  | collect sessionId => exact .inl ⟨trivial, rfl⟩
  | fileSend sessionId job phase => exact .inr ⟨id, fileSend_shows job phase⟩
  | forward job phase => exact .inr ⟨id, forward_shows job phase⟩
  | fileRecv sessionId job state =>
    obtain ⟨phase, loop⟩ := state
    cases phase with
    | receiving fileSize =>
      cases loop with
      | some st => exact .inl ⟨trivial, rfl⟩
      | none => exact .inr ⟨id, rfl⟩
    | _ => exact .inr ⟨id, rfl⟩
  | install sessionId args state =>
    have hrecv := congrArg (stepTexts InstallOut.texts)
      (install_recv args state (levelEcho echoId level text))
    obtain ⟨phase, haps, packages, cleanupDirs⟩ := state
    cases phase with
    | waitFinish hap => exact .inl ⟨trivial, hrecv⟩
    | reading hap offset rest => exact .inr ⟨id, hrecv.trans (by cases rest <;> rfl)⟩
    | _ => exact .inr ⟨id, hrecv⟩
  | rport job phase =>
    cases phase with
    | waiting => exact .inl ⟨trivial, rfl⟩
    | _ => exact .inr ⟨id, rfl⟩
  | flashd job phase =>
    cases phase with
    | waitBegin content => exact .inr ⟨id, flashd_begin_shows job content⟩
    | waitFinish =>
      by_cases hchannel : job.channelId = echoId
      · exact .inl ⟨hchannel, flashd_finish_shows job hchannel⟩
      · exact .inr ⟨hchannel, flashd_finish_ignores job hchannel⟩
    | reading fileSize offset rest lastPercent => exact .inr ⟨id, by cases rest <;> rfl⟩
    | _ => exact .inr ⟨id, rfl⟩

theorem call_textOnly_iff (later : ReaderServer) (channelId : UInt32) (phase : CallPhase) :
    TextOnly ((EchoReceiver.call channelId phase).writes percent reachable later
      (levelEcho echoId level text)) text ↔
      ¬ (EchoReceiver.call channelId phase).KeepsLevel later echoId := by
  obtain ⟨hkeeps, hshows⟩ | ⟨hnot, hshows⟩ :=
    shows_eq percent reachable echoId level text channelId phase
  · rw [EchoReceiver.writes, hshows, List.flatMap_cons, List.flatMap_nil, List.append_nil,
      textOnly_sendChannelMessage_iff]
    constructor
    · intro hwritten hboth
      exact lossy_level_ne level text (hwritten hboth.1)
    · intro hnone hwriter
      exact absurd ⟨hwriter, hkeeps⟩ hnone
  · rw [EchoReceiver.writes, hshows, List.flatMap_nil]
    exact iff_of_true (textOnly_nil text) fun hboth => hnot hboth.2

/-- The streams of `track-jpid` take the level off. -/
theorem track_textOnly (channelId : UInt32) (t : Track) (ok : Bool) :
    TextOnly (streamed channelId (t.read (levelEcho echoId level text) ok)) text := by
  unfold Track.read
  by_cases hreader : t.reader = true
  · rw [if_pos hreader]
    cases ok with
    | false => exact textOnly_nil text
    | true =>
      have hread : streamed channelId (some (t, lengthPrefixed text)) =
          [.toClient channelId (lengthPrefixed text)] := streamed_lengthPrefixed channelId t text
      exact hread ▸ textOnly_toClient_iff.mpr rfl
  · rw [if_neg hreader]
    exact textOnly_nil text

theorem dispatchTrack_recv (found : IoResult UInt32) (channelId : UInt32) (params : List String)
    (t : Track) (task : TaskMessage) (ok : Bool) :
    (dispatchTrack found channelId params).step t (.recv task ok) = t.read task ok := by
  obtain ⟨phase, reader, registered⟩ := t
  cases phase <;> rfl

theorem devecoTrack_recv (found : Option UInt32) (channelId : UInt32) (params : List String)
    (t : Track) (task : TaskMessage) (ok : Bool) :
    (devecoTrack found channelId params).step t (.recv task ok) = t.read task ok := by
  obtain ⟨phase, reader, registered⟩ := t
  cases phase <;> rfl

/-- The bridge of the shell writes the payload as it is. -/
theorem shellBridge_recv (found : Option UInt32) (channelId : UInt32) (b : ShellBridge)
    (ok : Bool) :
    (shellBridge found channelId).step b (.recv (levelEcho echoId level text) ok) =
      if b.reader then
        some (if ok then (b, lengthPrefixed (level :: text)) else ({ b with reader := false }, []))
      else none := by
  obtain ⟨phase, reader, registered⟩ := b
  cases phase <;> rfl

theorem shell_textOnly_iff (found : Option UInt32) (channelId : UInt32) (b : ShellBridge)
    (ok : Bool) :
    TextOnly (streamed channelId ((shellBridge found channelId).step b
      (.recv (levelEcho echoId level text) ok))) text ↔ ¬ (b.reader = true ∧ ok = true) := by
  rw [shellBridge_recv]
  by_cases hreader : b.reader = true
  · rw [if_pos hreader]
    cases ok with
    | false => exact iff_of_true (textOnly_nil text) fun h => Bool.false_ne_true h.2
    | true =>
      rw [if_pos rfl, streamed_lengthPrefixed, textOnly_toClient_iff]
      exact iff_of_false (lengthPrefixed_ne (Nat.lt_succ_self _)) (not_not_intro ⟨hreader, rfl⟩)
  · rw [if_neg hreader]
    exact iff_of_true (textOnly_nil text) fun h => hreader h.1

/-- A receiver writes the text alone exactly if it is not one that keeps the level. -/
theorem receiver_textOnly_iff (later : ReaderServer) (receiver : EchoReceiver) :
    TextOnly (receiver.writes percent reachable later (levelEcho echoId level text)) text ↔
      ¬ receiver.KeepsLevel later echoId := by
  cases receiver with
  | call channelId phase => exact call_textOnly_iff later channelId phase
  | dispatchTrack found channelId params t =>
    rw [EchoReceiver.writes, dispatchTrack_recv]
    exact iff_of_true (track_textOnly channelId t _) id
  | devecoTrack found channelId params t ok =>
    rw [EchoReceiver.writes, devecoTrack_recv]
    exact iff_of_true (track_textOnly channelId t ok) id
  | shellBridge found channelId b ok => exact shell_textOnly_iff found channelId b ok

/-! The readers. -/

variable {host : EchoHost} {env : HostEnv} {sessionId : UInt32} {connectKey : String}
  {transport : Transport}

/-- Both readers try the response channel, and take the level off if there is none. -/
theorem routing_echo (s : ReaderServer) :
    transport.routing env sessionId connectKey s (levelEcho echoId level text) =
      (s, (s.routeResponse sessionId (levelEcho echoId level text)).getD
        (s.sendChannelMessage echoId text)) := by
  cases transport with
  | tcp =>
    unfold Transport.routing tcpRouting
    cases s.routeResponse sessionId (levelEcho echoId level text) <;> rfl
  | usb =>
    unfold Transport.routing usbRouting
    cases s.routeResponse sessionId (levelEcho echoId level text) <;> rfl

theorem taken_sendChannelMessage (s : ReaderServer) (channelId : UInt32) (data : List UInt8) :
    (s.sendChannelMessage channelId data).flatMap (host.taken percent reachable sessionId) =
      s.sendChannelMessage channelId data := by
  unfold ReaderServer.sendChannelMessage
  split_ifs <;> rfl

/-- Nobody has registered the channel: the reader itself writes to the client. -/
theorem delivers_unregistered (h : host.server.usb.responseChannels sessionId echoId = none) :
    host.delivers percent reachable sessionId env connectKey transport
      (levelEcho echoId level text) = host.server.sendChannelMessage echoId text := by
  have hroute : host.server.routeResponse sessionId (levelEcho echoId level text) = none :=
    Option.map_eq_none_iff.mpr h
  rw [EchoHost.delivers, routing_echo, hroute]
  exact taken_sendChannelMessage host.server echoId text

/-- The channel is registered, and its receiver has been dropped. -/
theorem delivers_dropped {key : String}
    (h : host.server.usb.responseChannels sessionId echoId = some key)
    (hlistening : host.server.listening sessionId echoId = false) :
    host.delivers percent reachable sessionId env connectKey transport
      (levelEcho echoId level text) = [] := by
  have hroute : host.server.routeResponse sessionId (levelEcho echoId level text) = some [] :=
    Option.map_eq_some_iff.mpr ⟨key, h, if_neg (Bool.eq_false_iff.mp hlistening)⟩
  rw [EchoHost.delivers, routing_echo, hroute]
  rfl

/-- The channel is registered, and a task waits. -/
theorem delivers_taken {key : String}
    (h : host.server.usb.responseChannels sessionId echoId = some key)
    (hlistening : host.server.listening sessionId echoId = true) :
    host.delivers percent reachable sessionId env connectKey transport
      (levelEcho echoId level text) =
        host.taken percent reachable sessionId (.toHandler echoId (levelEcho echoId level text)) := by
  have hroute : host.server.routeResponse sessionId (levelEcho echoId level text) =
      some [.toHandler echoId (levelEcho echoId level text)] :=
    Option.map_eq_some_iff.mpr ⟨key, h, if_pos hlistening⟩
  rw [EchoHost.delivers, routing_echo, hroute]
  exact List.append_nil _

end

/-- The client of an echo gets the text, and not the level in front of it, exactly if the message is
not taken by a task that passes echoes on as they came. -/
theorem level_stripped_iff (percent : UInt64 → UInt64 → UInt8) (reachable : Bool) (env : HostEnv)
    (host : EchoHost) (sessionId : UInt32) (connectKey : String) (transport : Transport)
    (echoId : UInt32) (level : UInt8) (text : List UInt8) :
    TextOnly (host.delivers percent reachable sessionId env connectKey transport
      (levelEcho echoId level text)) text ↔ ¬ host.KeepsLevel sessionId echoId := by
  cases hregistered : host.server.usb.responseChannels sessionId echoId with
  | none =>
    rw [delivers_unregistered hregistered, textOnly_sendChannelMessage_iff]
    refine iff_of_true (fun _ => rfl) ?_
    rintro ⟨hsome, -⟩
    rw [hregistered] at hsome
    cases hsome
  | some key =>
    cases hlistening : host.server.listening sessionId echoId with
    | false =>
      rw [delivers_dropped hregistered hlistening]
      refine iff_of_true (textOnly_nil text) ?_
      rintro ⟨-, htrue, -⟩
      exact Bool.false_ne_true (hlistening.symm.trans htrue)
    | true =>
      rw [delivers_taken hregistered hlistening, EchoHost.taken]
      cases hreceiver : host.receivers sessionId echoId with
      | none =>
        refine iff_of_true (textOnly_nil text) ?_
        rintro ⟨-, -, receiver, heq, -⟩
        cases hreceiver.symm.trans heq
      | some receiver =>
        refine (receiver_textOnly_iff host.later receiver).trans (not_congr ?_)
        constructor
        · intro hkeeps
          exact ⟨Option.isSome_of_eq_some hregistered, hlistening, receiver, hreceiver, hkeeps⟩
        · rintro ⟨-, -, other, heq, hkeeps⟩
          cases hreceiver.symm.trans heq
          exact hkeeps

/-- `uninstall` waits on channel 7 of session 5 for what the daemon has to say. -/
def collectingHost : EchoHost where
  server := ⟨TcpMapInner.new.startChannel 7, UsbMap.new.registerResponseChannel 5 7 "SN1",
    fun _ _ => true⟩
  receivers := fun _ _ => some (.call 7 (.collect 5))
  later := ⟨TcpMapInner.new.startChannel 7, UsbMap.new.registerResponseChannel 5 7 "SN1",
    fun _ _ => true⟩

/-- The same echo on channel 8, where nobody waits. -/
def plainEchoHost : EchoHost :=
  { collectingHost with server := ⟨TcpMapInner.new.startChannel 8, UsbMap.new, fun _ _ => true⟩ }

/-- The client of an `uninstall` gets the level in front of the text. The reader would have taken
it off. -/
theorem level_kept_uninstall :
    collectingHost.delivers (fun _ _ => 0) false 5 signingHost "SN1" .usb
      (levelEcho 7 2 (utf8 "ok")) = [.toClient 7 (lengthPrefixed (2 :: utf8 "ok"))] ∧
    ¬ TextOnly (collectingHost.delivers (fun _ _ => 0) false 5 signingHost "SN1" .usb
      (levelEcho 7 2 (utf8 "ok"))) (utf8 "ok") ∧
    plainEchoHost.delivers (fun _ _ => 0) false 5 signingHost "SN1" .usb
      (levelEcho 8 2 (utf8 "ok")) = [.toClient 8 (lengthPrefixed (utf8 "ok"))] := by
  have hkept : collectingHost.delivers (fun _ _ => 0) false 5 signingHost "SN1" .usb
      (levelEcho 7 2 (utf8 "ok")) = [.toClient 7 (lengthPrefixed (2 :: utf8 "ok"))] := by
    decide
  refine ⟨hkept, ?_, by decide⟩
  rw [hkept, textOnly_toClient_iff]
  exact lengthPrefixed_ne (Nat.lt_succ_self _)

end Hdc
