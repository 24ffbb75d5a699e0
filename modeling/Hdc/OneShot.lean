import Hdc.ClientLoops
import Hdc.CommandHop
import Hdc.DispatchTask
import Hdc.NetAddr
import Hdc.SessionExchange

/- Commands that are a single message to the daemon, such as `hdc shell ls`: the default arm of the
   server's `dispatch_task` sends it, the daemon does the work and answers on the client's channel,
   and the reader of the session writes the answers to the client until the daemon closes the
   channel.

   `clientStep` is one such client among whatever else goes on at the server and on the session.
   `one_shot_ends`: in any order of the steps the client gets the daemon's answers, all of them, in
   order and no others. The channel ends then, unless the daemon does not know the command: such a
   client waits for ever. `other_device_silent`: no other device can write to the client.

   `shell_command_shown` goes from command line to screen: `sh -c` is given on the device the text
   of the words on the host, joined with spaces, but for quotation marks around all of it. -/
namespace Hdc
open Rust Wire Lts Feed

/-! The daemon's answers. -/

/-- Commands of the default arm that are one message and no more. -/
def oneShotCommands : List HdcCommand :=
  [.unityExecute, .unityExecuteEx, .unityReboot, .unityRemount, .unityRunmode, .unityHilog,
    .unityRootrun, .unityBugreportInit]

/-- The programs on the device. -/
structure Device where
  shell : String → ProcessResult
  reboot : ProcessResult
  mount : ProcessResult

def TaskEnv.RunsOn (env : TaskEnv) (device : Device) : Prop :=
  env.shell = device.shell ∧ env.reboot = device.reboot ∧ env.mount = device.mount

def Device.answers (device : Device) (msg : TaskMessage) : List TaskMessage :=
  match msg.command with
  | .unityExecute | .unityExecuteEx => (handleShell msg device.shell).1
  | .unityReboot => handleReboot msg device.reboot
  | .unityRemount => handleRemount msg device.mount
  | .unityRunmode => handleRunmode msg
  | .unityHilog => handleHilog msg
  | _ => [echoClient msg.channelId "Command not implemented" .fail]

/-- The commands the daemon closes the channel after. -/
def closesAfter (command : HdcCommand) : Bool :=
  command ∈
    [.unityExecute, .unityExecuteEx, .unityReboot, .unityRemount, .unityRunmode, .unityHilog]

section
variable {env : TaskEnv} {device : Device} {msg : TaskMessage}

theorem serve_oneShot (hcmd : msg.command ∈ oneShotCommands) (henv : env.RunsOn device)
    (sessionId : UInt32) (d : DaemonFiles) :
    (serve env sessionId d msg).2.1 = device.answers msg := by
  obtain ⟨channelId, command, payload⟩ := msg
  obtain ⟨hshell, hreboot, hmount⟩ := henv
  simp only [oneShotCommands, List.mem_cons, List.not_mem_nil, or_false] at hcmd
  rcases hcmd with h | h | h | h | h | h | h | h <;> subst h <;>
    simp [serve, dispatchTask, TaskEnv.handlers, TaskEnv.others, Device.answers, hshell, hreboot,
      hmount]

/-- A message that is shown to the client. -/
def IsEcho (task : TaskMessage) : Prop :=
  task.command = .kernelEcho ∨ task.command = .kernelEchoRaw

/-- Echoes, and behind them the close, if there is one. -/
def EchoesThenClose (channelId : UInt32) (closes : Bool) (answers : List TaskMessage) : Prop :=
  ∃ echoes, answers = echoes ++ (if closes then [channelClose channelId] else []) ∧
    ∀ echo ∈ echoes, IsEcho echo

theorem EchoesThenClose.closed {channelId : UInt32} (echoes : List TaskMessage)
    (h : ∀ echo ∈ echoes, IsEcho echo) :
    EchoesThenClose channelId true (echoes ++ [channelClose channelId]) :=
  ⟨echoes, rfl, h⟩

theorem EchoesThenClose.single {channelId : UInt32} {echo : TaskMessage} (h : IsEcho echo) :
    EchoesThenClose channelId true [echo, channelClose channelId] :=
  .closed [echo] (List.forall_mem_singleton.mpr h)

theorem isEcho_echoClient (channelId : UInt32) (text : String) (level : MessageLevel) :
    IsEcho (echoClient channelId text level) := .inl rfl

theorem isEcho_echoRaw (channelId : UInt32) (text : String) : IsEcho (echoRaw channelId text) :=
  .inr rfl

theorem shellReplies_echoes (channelId : UInt32) (result : ProcessResult) :
    EchoesThenClose channelId true (shellReplies channelId result) := by
  cases result with
  | ok output =>
    apply EchoesThenClose.closed
    intro echo hecho
    rcases List.mem_append.mp hecho with hecho | hecho
    all_goals
      split at hecho
      · cases hecho
      · rw [List.mem_singleton.mp hecho]
        exact isEcho_echoRaw _ _
  | error e => exact .single (isEcho_echoClient _ _ _)

/-- A command whose payload is a text is answered so. -/
theorem Device.answers_echoes (hcmd : msg.command ∈ oneShotCommands)
    (htext : (fromUtf8 msg.payload).isSome) :
    EchoesThenClose msg.channelId (closesAfter msg.command) (device.answers msg) := by
  obtain ⟨text, htext⟩ := Option.isSome_iff_exists.mp htext
  have hshell : EchoesThenClose msg.channelId true (handleShell msg device.shell).1 := by
    rw [handleShell, htext]
    exact shellReplies_echoes _ _
  have hreboot : EchoesThenClose msg.channelId true (handleReboot msg device.reboot) := by
    apply EchoesThenClose.closed
    split <;> simp [isEcho_echoClient]
  have hremount : EchoesThenClose msg.channelId true (handleRemount msg device.mount) := by
    apply EchoesThenClose.closed
    split <;> simp [isEcho_echoClient]
  obtain ⟨channelId, command, payload⟩ := msg
  simp only [oneShotCommands, List.mem_cons, List.not_mem_nil, or_false] at hcmd
  rcases hcmd with h | h | h | h | h | h | h | h <;> subst h
  · exact hshell
  · exact hshell
  · exact hreboot
  · exact hremount
  · exact .single (isEcho_echoClient _ _ _)
  · exact .single (isEcho_echoRaw _ _)
  · exact ⟨[_], rfl, List.forall_mem_singleton.mpr (isEcho_echoClient _ _ _)⟩
  · exact ⟨[_], rfl, List.forall_mem_singleton.mpr (isEcho_echoClient _ _ _)⟩

end

/-! The client at the server. -/

/-- Something another task of the server does: the maps change, and messages are sent on the
session. -/
structure HostEvent where
  maps : ReaderServer → ReaderServer
  sent : List TaskMessage

structure ClientRun where
  reader : ReaderServer
  /-- The command the client has still to give. -/
  call : Option DispatchCall
  /-- What has been written to the client. -/
  screen : List (List UInt8)
  files : DaemonFiles
  running : Bool
  toDaemon : List TaskMessage
  toHost : List TaskMessage
  hostEvents : List HostEvent
  daemonTraffic : List TaskMessage

inductive ClientAct where
  | call (env : DispatchEnv)
  | serve (env : TaskEnv)
  | route (env : HostEnv)
  | hostEvent
  | daemonSends

/-- What an effect of the reader writes to the client of a channel. -/
def ReaderEffect.written (channelId : UInt32) : ReaderEffect → List (List UInt8)
  | .toClient c data => if c = channelId then [data] else []
  | _ => []

def ReaderEffect.replied : ReaderEffect → List TaskMessage
  | .toDaemon reply => [reply]
  | _ => []

section
variable (sessionId : UInt32) (connectKey : String) (channelId : UInt32)

/-- The call of the client is made. -/
def ClientRun.called (s : ClientRun) (env : DispatchEnv) (call : DispatchCall) : ClientRun :=
  let r := (DispatchRun.start s.reader.tcp s.reader.usb).dispatch env call
  { s with
    call := none
    reader := { s.reader with tcp := r.tcp, usb := r.usb }
    screen := s.screen ++ r.texts.map fun text => lengthPrefixed (utf8 text)
    toDaemon := s.toDaemon ++ r.sent }

/-- The daemon serves `msg`, behind which `toDaemon` is left. -/
def ClientRun.served (s : ClientRun) (env : TaskEnv) (msg : TaskMessage)
    (toDaemon : List TaskMessage) : ClientRun :=
  let (files, replies, running) := serve env sessionId s.files msg
  { s with files, running, toDaemon, toHost := s.toHost ++ replies }

/-- The reader takes `task`, behind which `toHost` is left. -/
def ClientRun.routed (s : ClientRun) (env : HostEnv) (task : TaskMessage)
    (toHost : List TaskMessage) : ClientRun :=
  let (reader, effects) := tcpRouting env sessionId connectKey s.reader task
  { s with
    reader
    toHost
    screen := s.screen ++ effects.flatMap (ReaderEffect.written channelId)
    toDaemon := s.toDaemon ++ effects.flatMap ReaderEffect.replied }

def clientStep (s : ClientRun) : ClientAct → Option ClientRun
  | .call env => s.call.map (s.called env)
  | .serve env =>
    match s.running, s.toDaemon with
    | true, msg :: toDaemon => some (s.served sessionId env msg toDaemon)
    | _, _ => none
  | .route env =>
    match s.toHost with
    | [] => none
    | task :: toHost => some (s.routed sessionId connectKey channelId env task toHost)
  | .hostEvent =>
    match s.hostEvents with
    | [] => none
    | event :: hostEvents => some { s with
        hostEvents, reader := event.maps s.reader, toDaemon := s.toDaemon ++ event.sent }
  | .daemonSends =>
    match s.daemonTraffic with
    | [] => none
    | msg :: daemonTraffic => some { s with daemonTraffic, toHost := s.toHost ++ [msg] }

/-- The call finds its device, and the session takes the message. -/
def ClientRun.Delivers (s : ClientRun) (env : DispatchEnv) : Prop :=
  ∀ call ∈ s.call, resolveSessionId env.connectMap call.connectKey = .ok sessionId ∧
    (DispatchRun.start s.reader.tcp s.reader.usb).sendToSession env sessionId = .ok ()

/-- The steps of a run: the command can be delivered, and the daemon does not ask for another
authentication. -/
def ClientOk (device : Device) (s : ClientRun) : ClientAct → Prop
  | .call env => s.Delivers sessionId env
  | .serve env => env.AnswersThere ∧ env.RunsOn device
  | .route env => ∀ task ∈ s.toHost.head?, task.command = .kernelHandshake → ¬ Signable env task
  | _ => True

def ClientMust (device : Device) (s : ClientRun) : ClientAct → Prop
  | .hostEvent | .daemonSends => False
  | act => ClientOk sessionId device s act

/-- Another task leaves the client's channel and the session alone. -/
structure HostEvent.LeavesAlone (event : HostEvent) : Prop where
  channel : ∀ r, (event.maps r).tcp.channelWriters channelId = r.tcp.channelWriters channelId
  handlers : ∀ r, (event.maps r).usb.responseChannels sessionId channelId =
    r.usb.responseChannels sessionId channelId
  session : ∀ r, (event.maps r).tcp.sessionWriters sessionId = r.tcp.sessionWriters sessionId
  sent : ∀ msg ∈ event.sent, msg.channelId ≠ channelId ∧ KeepsServing msg

end
/-! What the reader does with a message. -/

section
variable {env : HostEnv} {sessionId : UInt32} {connectKey : String} {r : ReaderServer}
  {task : TaskMessage}

/-- What the reader leaves alone: all but the channel of the message. -/
structure RoutesOnly (sessionId : UInt32) (env : HostEnv) (r : ReaderServer) (task : TaskMessage)
    (routed : ReaderServer × List ReaderEffect) : Prop where
  usb : routed.1.usb = r.usb
  sessions : routed.1.tcp.sessionWriters = r.tcp.sessionWriters
  channels : ∀ c, task.channelId ≠ c → routed.1.tcp.channelWriters c = r.tcp.channelWriters c
  written : ∀ c, task.channelId ≠ c → routed.2.flatMap (ReaderEffect.written c) = []
  replied : (task.command = .kernelHandshake → ¬ Signable env task) →
    routed.2.flatMap ReaderEffect.replied = []
  handshakes : ForChannel 0 (routed.2.flatMap ReaderEffect.replied)

theorem RoutesOnly.quiet : RoutesOnly sessionId env r task (r, []) :=
  ⟨rfl, rfl, fun _ _ => rfl, fun _ _ => rfl, fun _ => rfl, .nil⟩

theorem RoutesOnly.client (data : List UInt8) :
    RoutesOnly sessionId env r task (r, r.sendChannelMessage task.channelId data) := by
  unfold ReaderServer.sendChannelMessage
  split
  · refine ⟨rfl, rfl, fun _ _ => rfl, fun c hc => ?_, fun _ => rfl, .nil⟩
    simp [ReaderEffect.written, hc]
  · exact .quiet

theorem tcpRouting_only :
    RoutesOnly sessionId env r task (tcpRouting env sessionId connectKey r task) := by
  unfold tcpRouting
  split
  · exact .quiet
  · cases hhandler : r.routeResponse sessionId task with
    | some handled =>
      obtain ⟨registered, -, hhandled⟩ := Option.map_eq_some_iff.mp hhandler
      dsimp only
      rw [← hhandled]
      split
      · exact ⟨rfl, rfl, fun _ _ => rfl, fun _ _ => rfl, fun _ => rfl, .nil⟩
      · exact .quiet
    | none =>
      dsimp only
      split
      · rename_i hhandshake
        refine ⟨rfl, rfl, fun _ _ => rfl, fun c _ => ?_, fun hsign => ?_, ?_⟩
        · unfold signedReply
          repeat' split
          all_goals rfl
        · rw [signedReply_eq_nil.mpr (hsign hhandshake)]
          rfl
        · unfold signedReply
          repeat' split
          all_goals simp [ReaderEffect.replied, handshakeTask]
      · split
        · exact .client _
        · split
          · exact .client _
          · split
            · refine ⟨rfl, rfl, fun c hc => ?_, fun _ _ => rfl, fun _ => rfl, .nil⟩
              exact Function.update_of_ne (Ne.symm hc) _ _
            · split
              · exact .quiet
              · exact .client _

/-- What is written to the client for a message. -/
def shownBytes (task : TaskMessage) : List UInt8 :=
  lengthPrefixed (if task.command = .kernelEcho then task.payload.tail else task.payload)

theorem tcpRouting_echo (hhandler : r.usb.responseChannels sessionId task.channelId = none)
    (hwriter : r.tcp.channelWriters task.channelId = true) (hecho : IsEcho task) :
    tcpRouting env sessionId connectKey r task =
      (r, [.toClient task.channelId (shownBytes task)]) := by
  have hroute : r.routeResponse sessionId task = none := by
    rw [ReaderServer.routeResponse, hhandler]
    rfl
  have htail : (if task.payload = [] then task.payload else task.payload.tail) =
      task.payload.tail := by
    split
    · rename_i hnil
      rw [hnil]
      rfl
    · rfl
  rcases hecho with hecho | hecho <;>
    simp [tcpRouting, hroute, hecho, htail, ReaderServer.sendChannelMessage, hwriter, shownBytes]

theorem tcpRouting_close (hhandler : r.usb.responseChannels sessionId task.channelId = none)
    (hclose : task.command = .kernelChannelClose) :
    tcpRouting env sessionId connectKey r task =
      ({ r with tcp := r.tcp.endChannel task.channelId }, []) := by
  have hroute : r.routeResponse sessionId task = none := by
    rw [ReaderServer.routeResponse, hhandler]
    rfl
  simp [tcpRouting, hroute, hclose]

end

/-! The course of a command. -/

def DispatchCall.message (call : DispatchCall) : TaskMessage :=
  ⟨call.channelId, call.cmd, taskPayload call.cmd call.params⟩

theorem taskPayload_isText (cmd : HdcCommand) (params : List String) :
    ∃ text, taskPayload cmd params = utf8 text := by
  have hwords : ∃ text,
      (if 1 < params.length then utf8 (String.intercalate " " params.tail) else []) =
        utf8 text := by
    split
    · exact ⟨_, rfl⟩
    · exact ⟨"", rfl⟩
  unfold taskPayload
  split
  all_goals first
    | exact hwords
    | exact ⟨_, rfl⟩

/-- The default arm, for a command that can be delivered. -/
theorem dispatch_oneShot {tcp : TcpMapInner} {usb : UsbMap} {env : DispatchEnv}
    {call : DispatchCall} {sessionId : UInt32} (hcmd : call.cmd ∈ oneShotCommands)
    (hresolve : resolveSessionId env.connectMap call.connectKey = .ok sessionId)
    (hsend : (DispatchRun.start tcp usb).sendToSession env sessionId = .ok ()) :
    (DispatchRun.start tcp usb).dispatch env call =
      ⟨tcp.associateChannelWithSession call.channelId sessionId, usb, [call.message], [],
        .returned (.ok ())⟩ := by
  have hresolved : (DispatchRun.start tcp usb).withResolved env call
      ((DispatchRun.start tcp usb).taskArm env call) =
        (DispatchRun.start tcp usb).taskArm env call sessionId := by
    rw [DispatchRun.withResolved, hresolve]
  have harm : (DispatchRun.start tcp usb).dispatch env call =
      (DispatchRun.start tcp usb).taskArm env call sessionId := by
    rw [← hresolved, DispatchRun.dispatch]
    simp only [oneShotCommands, List.mem_cons, List.not_mem_nil, or_false] at hcmd
    rcases hcmd with h | h | h | h | h | h | h | h <;> rw [h]
  have hnot : call.cmd ≠ .appUninstall := by
    intro h
    rw [h] at hcmd
    revert hcmd
    decide
  rw [harm, DispatchRun.taskArm, hsend]
  simp only [DispatchRun.taskSent, if_neg hnot]
  rfl

/-- The next of the answers: an echo, before which nothing has been closed, or the close at their
end. -/
theorem EchoesThenClose.next {channelId : UInt32} {closes : Bool} {shown left : List TaskMessage}
    {task : TaskMessage} (h : EchoesThenClose channelId closes (shown ++ task :: left)) :
    (∀ echo ∈ shown, IsEcho echo) ∧
      (IsEcho task ∨ task = channelClose channelId) := by
  obtain ⟨echoes, hanswers, hechoes⟩ := h
  have hamong : ∀ rest, shown ++ task :: rest = echoes →
      (∀ echo ∈ shown, IsEcho echo) ∧ IsEcho task := by
    rintro rest rfl
    exact ⟨fun echo hecho => hechoes echo (List.mem_append_left _ hecho), hechoes task (by simp)⟩
  cases closes with
  | false =>
    rw [if_neg (by decide), List.append_nil] at hanswers
    exact (hamong left hanswers).imp_right .inl
  | true =>
    rw [if_pos rfl] at hanswers
    rcases List.eq_nil_or_concat left with rfl | ⟨init, last, rfl⟩
    · obtain ⟨rfl, hlast⟩ := List.append_inj' hanswers rfl
      exact ⟨hechoes, .inr (List.singleton_inj.mp hlast)⟩
    · rw [List.concat_eq_append, ← List.cons_append, ← List.append_assoc] at hanswers
      exact (hamong init (List.append_inj' hanswers rfl).1).imp_right .inl

/-- The messages that are written to the client. -/
def shownOf (answers : List TaskMessage) : List (List UInt8) :=
  (answers.filter fun task => task.command ≠ .kernelChannelClose).map shownBytes

/-- Whether the channel has been closed. -/
def hasClosed (answers : List TaskMessage) : Bool :=
  answers.any fun task => task.command = .kernelChannelClose

section
variable {shown : List TaskMessage} {task : TaskMessage}

theorem IsEcho.not_close (h : IsEcho task) : task.command ≠ .kernelChannelClose := by
  rcases h with h | h <;> rw [h] <;> decide

theorem shownOf_echo (h : IsEcho task) :
    shownOf (shown ++ [task]) = shownOf shown ++ [shownBytes task] := by
  simp [shownOf, h.not_close]

theorem shownOf_close (h : task.command = .kernelChannelClose) :
    shownOf (shown ++ [task]) = shownOf shown := by
  simp [shownOf, h]

theorem hasClosed_echo (h : IsEcho task) : hasClosed (shown ++ [task]) = hasClosed shown := by
  simp [hasClosed, h.not_close]

theorem hasClosed_echoes (h : ∀ echo ∈ shown, IsEcho echo) : hasClosed shown = false := by
  rw [hasClosed, List.any_eq_false]
  intro echo hecho
  simpa using (h echo hecho).not_close

end

/-- All the answers have been written, and the channel closed if they close it. -/
theorem EchoesThenClose.hasClosed_eq {channelId : UInt32} {closes : Bool}
    {answers : List TaskMessage} (h : EchoesThenClose channelId closes answers) :
    hasClosed answers = closes := by
  obtain ⟨echoes, rfl, hechoes⟩ := h
  have hnone := hasClosed_echoes hechoes
  cases closes with
  | false => simpa using hnone
  | true => simp [hasClosed, channelClose]

/-- The channel is open, and nothing has been sent on it. -/
structure ClientRun.Fresh (channelId : UInt32) (s : ClientRun) : Prop where
  toDaemon : onChannel channelId s.toDaemon = []
  toHost : onChannel channelId s.toHost = []
  screen : s.screen = []
  writer : s.reader.tcp.channelWriters channelId = true

/-- How far the command is. -/
inductive ClientRun.Stage (device : Device) (call : DispatchCall) (s : ClientRun) : Prop
  | waiting (hcall : s.call = some call) (hfresh : s.Fresh call.channelId)
  | sent (hcall : s.call = none) (hdaemon : onChannel call.channelId s.toDaemon = [call.message])
      (hhost : onChannel call.channelId s.toHost = []) (hscreen : s.screen = [])
      (hwriter : s.reader.tcp.channelWriters call.channelId = true)
  | answered (shown : List TaskMessage) (hcall : s.call = none)
      (hdaemon : onChannel call.channelId s.toDaemon = [])
      (hanswers : device.answers call.message = shown ++ onChannel call.channelId s.toHost)
      (hscreen : s.screen = shownOf shown)
      (hwriter : s.reader.tcp.channelWriters call.channelId = !hasClosed shown)

/-- The session is up, and the client has its channel to itself. -/
structure ClientRun.Sound (sessionId channelId : UInt32) (s : ClientRun) : Prop where
  running : s.running = true
  session : (s.reader.tcp.sessionWriters sessionId).isSome = true
  handlers : s.reader.usb.responseChannels sessionId channelId = none
  toDaemon : ∀ msg ∈ s.toDaemon, KeepsServing msg
  hostEvents : ∀ event ∈ s.hostEvents, event.LeavesAlone sessionId channelId
  daemonTraffic : ∀ msg ∈ s.daemonTraffic, msg.channelId ≠ channelId

/-- All steps that are left, those of others first. -/
def ClientRun.left (s : ClientRun) : Nat ×ₗ Nat ×ₗ Nat ×ₗ Nat :=
  toLex (s.hostEvents.length + s.daemonTraffic.length,
    toLex (s.call.toList.length, toLex (s.toDaemon.length, s.toHost.length)))

/-- What a step can do. -/
theorem clientStep_cases {sessionId channelId : UInt32} {connectKey : String} {s s' : ClientRun}
    {a : ClientAct} (h : clientStep sessionId connectKey channelId s a = some s') :
    (∃ env call, a = .call env ∧ s.call = some call ∧ s' = s.called env call) ∨
    (∃ env msg toDaemon, a = .serve env ∧ s.toDaemon = msg :: toDaemon ∧
      s' = s.served sessionId env msg toDaemon) ∨
    (∃ env task toHost, a = .route env ∧ s.toHost = task :: toHost ∧
      s' = s.routed sessionId connectKey channelId env task toHost) ∨
    (∃ event hostEvents, a = .hostEvent ∧ s.hostEvents = event :: hostEvents ∧
      s' = { s with
        hostEvents, reader := event.maps s.reader, toDaemon := s.toDaemon ++ event.sent }) ∨
    (∃ msg daemonTraffic, a = .daemonSends ∧ s.daemonTraffic = msg :: daemonTraffic ∧
      s' = { s with daemonTraffic, toHost := s.toHost ++ [msg] }) := by
  cases a with
  | call env =>
    obtain ⟨call, hcall, rfl⟩ := Option.map_eq_some_iff.mp h
    exact .inl ⟨env, call, rfl, hcall, rfl⟩
  | serve env =>
    rw [clientStep] at h
    split at h <;> cases h
    exact .inr (.inl ⟨env, _, _, rfl, ‹_›, rfl⟩)
  | route env =>
    rw [clientStep] at h
    split at h <;> cases h
    exact .inr (.inr (.inl ⟨env, _, _, rfl, ‹_›, rfl⟩))
  | hostEvent =>
    rw [clientStep] at h
    split at h <;> cases h
    exact .inr (.inr (.inr (.inl ⟨_, _, rfl, ‹_›, rfl⟩)))
  | daemonSends =>
    rw [clientStep] at h
    split at h <;> cases h
    exact .inr (.inr (.inr (.inr ⟨_, _, rfl, ‹_›, rfl⟩)))

section
variable {sessionId : UInt32} {connectKey : String} {device : Device} {call : DispatchCall}
  {s s' : ClientRun}

/-- What the stage depends on. -/
theorem ClientRun.Stage.congr (h : s.Stage device call) (hcall : s'.call = s.call)
    (hdaemon : onChannel call.channelId s'.toDaemon = onChannel call.channelId s.toDaemon)
    (hhost : onChannel call.channelId s'.toHost = onChannel call.channelId s.toHost)
    (hscreen : s'.screen = s.screen)
    (hwriter : s'.reader.tcp.channelWriters call.channelId =
      s.reader.tcp.channelWriters call.channelId) : s'.Stage device call := by
  cases h with
  | waiting h₁ h =>
    exact .waiting (hcall.trans h₁) ⟨hdaemon.trans h.toDaemon, hhost.trans h.toHost,
      hscreen.trans h.screen, hwriter.trans h.writer⟩
  | sent h₁ h₂ h₃ h₄ h₅ =>
    exact .sent (hcall.trans h₁) (hdaemon.trans h₂) (hhost.trans h₃) (hscreen.trans h₄)
      (hwriter.trans h₅)
  | answered shown h₁ h₂ h₃ h₄ h₅ =>
    exact .answered shown (hcall.trans h₁) (hdaemon.trans h₂) (hhost ▸ h₃) (hscreen.trans h₄)
      (hwriter.trans h₅)

section
variable (hcmd : call.cmd ∈ oneShotCommands)
include hcmd

theorem DispatchCall.message_keepsServing : KeepsServing call.message := by
  constructor <;> intro h <;> rw [show call.cmd = _ from h] at hcmd <;> revert hcmd <;> decide

theorem DispatchCall.answers_echoes :
    EchoesThenClose call.channelId (closesAfter call.cmd) (device.answers call.message) := by
  obtain ⟨text, htext⟩ := taskPayload_isText call.cmd call.params
  have hsome : (fromUtf8 call.message.payload).isSome = true := by
    rw [show call.message.payload = utf8 text from htext, fromUtf8_utf8]
    rfl
  exact Device.answers_echoes hcmd hsome

variable (hs : s.Sound sessionId call.channelId) (h : s.Stage device call)
include hs h

/-- The server sends the command. -/
theorem ClientRun.Stage.afterCall {env : DispatchEnv} {call' : DispatchCall}
    (hcall : s.call = some call') (hok : s.Delivers sessionId env) :
    (s.called env call').Sound sessionId call.channelId ∧
      (s.called env call').Stage device call := by
  cases h with
  | waiting hwaiting hfresh =>
    obtain rfl : call = call' := Option.some.inj (hwaiting.symm.trans hcall)
    obtain ⟨hresolve, hsend⟩ := hok call hcall
    have hcalled : s.called env call = { s with
        call := none
        reader := { s.reader with
          tcp := s.reader.tcp.associateChannelWithSession call.channelId sessionId }
        toDaemon := s.toDaemon ++ [call.message] } := by
      simp only [ClientRun.called, dispatch_oneShot hcmd hresolve hsend, List.map_nil,
        List.append_nil]
    rw [hcalled]
    refine ⟨{ hs with toDaemon := ?_ }, .sent rfl ?_ hfresh.toHost hfresh.screen hfresh.writer⟩
    · intro msg hmsg
      rcases List.mem_append.mp hmsg with hmsg | hmsg
      · exact hs.toDaemon msg hmsg
      · rw [List.mem_singleton.mp hmsg]
        exact DispatchCall.message_keepsServing hcmd
    · rw [onChannel_append, hfresh.toDaemon]
      exact onChannel_cons _ rfl
  | sent hnone | answered _ hnone =>
    rw [hnone] at hcall
    cases hcall

/-- The daemon serves a message, the client's or another. -/
theorem ClientRun.Stage.afterServe {env : TaskEnv} {msg : TaskMessage} {toDaemon : List TaskMessage}
    (hdaemon : s.toDaemon = msg :: toDaemon)
    (hok : env.AnswersThere ∧ env.RunsOn device) :
    (s.served sessionId env msg toDaemon).Sound sessionId call.channelId ∧
      (s.served sessionId env msg toDaemon).Stage device call := by
  have hreplies := @serve_channel env sessionId s.files msg (hok.1 msg)
  have hkeeps := hs.toDaemon msg (by simp [hdaemon])
  constructor
  · refine { hs with running := serve_running sessionId s.files msg hkeeps, toDaemon := ?_ }
    intro msg' hmsg'
    exact hs.toDaemon msg' (hdaemon ▸ List.mem_cons_of_mem _ hmsg')
  · by_cases hc : msg.channelId = call.channelId
    · cases h with
      | sent hcall hsent hhost hscreen hwriter =>
        rw [hdaemon, onChannel_cons _ hc] at hsent
        obtain ⟨rfl, hrest⟩ := List.cons.inj hsent
        refine .answered [] hcall hrest ?_ hscreen hwriter
        rw [serve_oneShot hcmd hok.2] at hreplies
        rw [ClientRun.served, onChannel_append, hhost, serve_oneShot hcmd hok.2, List.nil_append,
          List.nil_append]
        exact hreplies.onChannel_eq.symm
      | waiting _ hfresh => exact absurd hc (ne_of_onChannel_cons (hdaemon ▸ hfresh.toDaemon))
      | answered _ _ hnone => exact absurd hc (ne_of_onChannel_cons (hdaemon ▸ hnone))
    · refine h.congr rfl ?_ ?_ rfl rfl
      · rw [hdaemon, onChannel_cons_of_ne _ hc]
        rfl
      · rw [ClientRun.served, onChannel_append, hreplies.onChannel_eq_nil hc, List.append_nil]

/-- The reader takes a message, for the client or for another. -/
theorem ClientRun.Stage.afterRoute (connectKey : String) {env : HostEnv} {task : TaskMessage}
    {toHost : List TaskMessage} (hhost : s.toHost = task :: toHost)
    (hok : task.command = .kernelHandshake → ¬ Signable env task) :
    let s' := s.routed sessionId connectKey call.channelId env task toHost
    s'.Sound sessionId call.channelId ∧ s'.Stage device call ∧ s'.toDaemon = s.toDaemon := by
  intro s'
  have honly := @tcpRouting_only env sessionId connectKey s.reader task
  have hdaemon : s'.toDaemon = s.toDaemon := by
    simp only [s', ClientRun.routed, honly.replied hok, List.append_nil]
  refine ⟨?_, ?_, hdaemon⟩
  · refine ⟨hs.running, ?_, ?_, hdaemon ▸ hs.toDaemon, hs.hostEvents, hs.daemonTraffic⟩
    · simp only [s', ClientRun.routed, honly.sessions]
      exact hs.session
    · simp only [s', ClientRun.routed, honly.usb]
      exact hs.handlers
  · by_cases hc : task.channelId = call.channelId
    · cases h with
      | answered shown hcall hnone hanswers hscreen hwriter =>
        have hechoes := @DispatchCall.answers_echoes device call hcmd
        rw [hhost, onChannel_cons _ hc] at hanswers
        rw [hanswers] at hechoes
        have hhandler : s.reader.usb.responseChannels sessionId task.channelId = none :=
          hc.symm ▸ hs.handlers
        have hrest : device.answers call.message =
            (shown ++ [task]) ++ onChannel call.channelId toHost := by
          rw [hanswers, List.append_assoc]
          rfl
        obtain ⟨hshown, hecho | hclose⟩ := hechoes.next
        · -- an echo, which goes to a channel that is still open
          have hopen : s.reader.tcp.channelWriters task.channelId = true := by
            rw [hc, hwriter, hasClosed_echoes hshown]
            rfl
          have hrouted : s' = { s with toHost, screen := s.screen ++ [shownBytes task] } := by
            simp only [s', ClientRun.routed, tcpRouting_echo hhandler hopen hecho,
              List.flatMap_singleton, ReaderEffect.written, ReaderEffect.replied, if_pos hc,
              List.append_nil]
          rw [hrouted]
          refine .answered (shown ++ [task]) hcall hnone hrest ?_ ?_
          · rw [hscreen, shownOf_echo hecho]
          · rw [hasClosed_echo hecho]
            exact hwriter
        · -- the close, which nothing follows
          have hcommand : task.command = .kernelChannelClose := by
            rw [hclose]
            rfl
          have hrouted : s' = { s with
              toHost
              reader := { s.reader with tcp := s.reader.tcp.endChannel task.channelId } } := by
            simp only [s', ClientRun.routed, tcpRouting_close hhandler hcommand, List.flatMap_nil,
              List.append_nil]
          rw [hrouted]
          refine .answered (shown ++ [task]) hcall hnone hrest ?_ ?_
          · rw [shownOf_close hcommand]
            exact hscreen
          · simp [hc, hasClosed, hcommand, TcpMapInner.endChannel, TcpMap.endChannel]
      | waiting _ hfresh => exact absurd hc (ne_of_onChannel_cons (hhost ▸ hfresh.toHost))
      | sent _ _ hnone => exact absurd hc (ne_of_onChannel_cons (hhost ▸ hnone))
    · refine h.congr rfl (by rw [hdaemon]) ?_ ?_ (honly.channels _ hc)
      · rw [hhost, onChannel_cons_of_ne _ hc]
        rfl
      · simp only [s', ClientRun.routed, honly.written _ hc, List.append_nil]

omit hcmd in
/-- Another task of the server does something. -/
theorem ClientRun.Stage.afterEvent {event : HostEvent} {hostEvents : List HostEvent}
    (hevents : s.hostEvents = event :: hostEvents) :
    let s' := { s with
      hostEvents, reader := event.maps s.reader, toDaemon := s.toDaemon ++ event.sent }
    s'.Sound sessionId call.channelId ∧ s'.Stage device call := by
  intro s'
  have hall := hs.hostEvents
  rw [hevents] at hall
  have halone := hall event List.mem_cons_self
  constructor
  · refine ⟨hs.running, ?_, ?_, ?_, fun e he => hall e (List.mem_cons_of_mem _ he),
      hs.daemonTraffic⟩
    · rw [show s'.reader = event.maps s.reader from rfl, halone.session]
      exact hs.session
    · rw [show s'.reader = event.maps s.reader from rfl, halone.handlers]
      exact hs.handlers
    · intro msg hmsg
      rcases List.mem_append.mp hmsg with hmsg | hmsg
      · exact hs.toDaemon msg hmsg
      · exact (halone.sent msg hmsg).2
  · refine h.congr rfl ?_ rfl rfl (halone.channel s.reader)
    have hnone : onChannel call.channelId event.sent = [] :=
      onChannel_eq_nil fun msg hmsg => (halone.sent msg hmsg).1
    rw [show s'.toDaemon = s.toDaemon ++ event.sent from rfl, onChannel_append, hnone,
      List.append_nil]

/-- Every step keeps the course of the command, and leaves fewer. -/
theorem ClientRun.Stage.step {a : ClientAct} (hok : ClientOk sessionId device s a)
    (hst : clientStep sessionId connectKey call.channelId s a = some s') :
    (s'.Sound sessionId call.channelId ∧ s'.Stage device call) ∧ s'.left < s.left := by
  obtain ⟨env, call', rfl, hcall, rfl⟩ | ⟨env, msg, toDaemon, rfl, hdaemon, rfl⟩ |
    ⟨env, task, toHost, rfl, hhost, rfl⟩ | ⟨event, hostEvents, rfl, hevents, rfl⟩ |
    ⟨msg, rest, rfl, htraffic, rfl⟩ := clientStep_cases hst
  · refine ⟨h.afterCall hcmd hs hcall hok, ?_⟩
    simp only [ClientRun.left, ClientRun.called, hcall, Prod.Lex.toLex_lt_toLex]
    simp
  · refine ⟨h.afterServe hcmd hs hdaemon hok, ?_⟩
    simp only [ClientRun.left, ClientRun.served, hdaemon, Prod.Lex.toLex_lt_toLex]
    simp
  · obtain ⟨hsound, hstage, hsame⟩ := h.afterRoute hcmd hs connectKey hhost
      (hok task (by rw [hhost]; rfl))
    refine ⟨⟨hsound, hstage⟩, ?_⟩
    simp only [ClientRun.left, hsame, hhost, Prod.Lex.toLex_lt_toLex]
    simp [ClientRun.routed]
  · refine ⟨h.afterEvent hs hevents, ?_⟩
    simp only [ClientRun.left, hevents, Prod.Lex.toLex_lt_toLex]
    simp
  · have hall := hs.daemonTraffic
    rw [htraffic] at hall
    refine ⟨⟨{ hs with daemonTraffic := fun m hm => hall m (List.mem_cons_of_mem _ hm) }, ?_⟩, ?_⟩
    · refine h.congr rfl rfl ?_ rfl rfl
      rw [onChannel_append, onChannel_cons_of_ne _ (hall msg List.mem_cons_self), onChannel_nil,
        List.append_nil]
    · simp only [ClientRun.left, htraffic, Prod.Lex.toLex_lt_toLex]
      simp

end

/-- A client that has all it will get. -/
structure ClientRun.Finished (device : Device) (call : DispatchCall) (s : ClientRun) : Prop where
  screen : s.screen = shownOf (device.answers call.message)
  channel : s.reader.tcp.channelWriters call.channelId = !closesAfter call.cmd
  called : s.call = none
  served : onChannel call.channelId s.toDaemon = []
  routed : onChannel call.channelId s.toHost = []

/-- A daemon and a server that do nothing but what is asked for. -/
def Device.env (device : Device) : TaskEnv :=
  { TaskEnv.quiet with shell := device.shell, reboot := device.reboot, mount := device.mount }

def HostEnv.unsigning : HostEnv where
  encryptChannel := false
  getPublicKeyInfo := .error ⟨.other, ""⟩
  base64Decode := fun _ => .error ⟨.other, ""⟩
  decryptPsk := fun _ => .error ⟨.other, ""⟩
  rsaSignChallenge := fun _ => .error ⟨.other, ""⟩

theorem HostEnv.not_signable (task : TaskMessage) : ¬ Signable HostEnv.unsigning task := by
  rintro ⟨daemonHs, signature, -, -, hsign⟩
  cases hsign

section
variable {env : DispatchEnv} (hcmd : call.cmd ∈ oneShotCommands)
  (hresolve : resolveSessionId env.connectMap call.connectKey = .ok sessionId)
  (htakes : ∀ wr, env.writerTakes wr = .ok ()) (hs : s.Sound sessionId call.channelId)
include hcmd hresolve htakes hs

/-- Until then there is a step to take. -/
theorem ClientRun.Stage.live (h : s.Stage device call) (hgoing : ¬ s.Finished device call) :
    Enabled (clientStep sessionId connectKey call.channelId) (ClientMust sessionId device) s := by
  cases h with
  | waiting hcall hfresh =>
    refine ⟨.call env, _, ?_, by rw [clientStep, hcall]; rfl⟩
    intro call' hcall'
    obtain rfl : call = call' := Option.some.inj (hcall.symm.trans hcall')
    refine ⟨hresolve, ?_⟩
    obtain ⟨wr, hwr⟩ := Option.isSome_iff_exists.mp hs.session
    simp only [DispatchRun.sendToSession, DispatchRun.tcpSend, DispatchRun.start, hwr, htakes]
  | sent hcall hdaemon hhost hscreen hwriter =>
    cases hqueue : s.toDaemon with
    | nil =>
      rw [hqueue] at hdaemon
      cases hdaemon
    | cons msg toDaemon =>
      exact ⟨.serve device.env, _, ⟨TaskEnv.quiet_answersThere, rfl, rfl, rfl⟩, by
        rw [clientStep, hs.running, hqueue]⟩
  | answered shown hcall hdaemon hanswers hscreen hwriter =>
    cases hqueue : s.toHost with
    | nil =>
      rw [hqueue, onChannel_nil, List.append_nil] at hanswers
      have hclosed := (@DispatchCall.answers_echoes device call hcmd).hasClosed_eq
      refine absurd ⟨?_, ?_, hcall, hdaemon, by rw [hqueue]; rfl⟩ hgoing
      · rw [hscreen, hanswers]
      · rw [hwriter, ← hanswers, hclosed]
    | cons task toHost =>
      exact ⟨.route .unsigning, _, fun task _ _ => HostEnv.not_signable task, by
        rw [clientStep, hqueue]⟩

theorem ClientRun.Stage.finishes (h : s.Stage device call) :
    Inevitable (clientStep sessionId connectKey call.channelId) (ClientOk sessionId device)
      (ClientMust sessionId device) (ClientRun.Finished device call) s := by
  apply Inevitable.of_wellFounded
    (fun s => s.Sound sessionId call.channelId ∧ s.Stage device call)
    (InvImage.wf ClientRun.left wellFounded_lt)
  · intro t a t' ht _ hok hst
    exact ht.2.step hcmd ht.1 hok hst
  · intro t ht hgoing
    exact ht.2.live hcmd hresolve htakes ht.1 hgoing
  · exact ⟨hs, h⟩

end

/-- A server with one device, whose session is number 1. -/
def oneDevice : DispatchEnv where
  connectMap := ConnectMap.new.put "10.0.0.2:5555" ⟨1, .tcp, .connected, ""⟩
  writerTakes := fun _ => .ok ()
  senderTakes := fun _ => .ok ()
  clientTakes := .ok ()
  fs := fun _ => none
  listenIp := "127.0.0.1"
  percent := fun _ _ => 0

theorem oneDevice_resolves :
    resolveSessionId oneDevice.connectMap "10.0.0.2:5555" = .ok 1 := by
  decide

/-- A client on channel 7, beside one that forwards a port. -/
def clientBesideForward (call : Option DispatchCall) : ClientRun where
  reader := ⟨⟨⟨fun id => if id = 1 then some 0 else none, fun _ => none, fun c => c = 7 ∨ c = 3,
    fun _ => none⟩, fun _ => false⟩, ⟨fun _ => none, fun _ c => if c = 3 then some "" else none⟩,
    fun _ _ => true⟩
  call
  screen := []
  files := ⟨fun _ => none, fun _ => none⟩
  running := true
  toDaemon := [⟨3, .forwardData, [1]⟩]
  toHost := [⟨3, .forwardData, [2]⟩]
  hostEvents := [⟨id, [⟨3, .forwardData, [3]⟩]⟩]
  daemonTraffic := [⟨3, .forwardData, [4]⟩]

theorem clientBesideForward_fresh (call : Option DispatchCall) :
    (clientBesideForward call).Fresh 7 :=
  ⟨rfl, rfl, rfl, rfl⟩

theorem clientBesideForward_sound (call : Option DispatchCall) :
    (clientBesideForward call).Sound 1 7 where
  running := rfl
  session := rfl
  handlers := rfl
  toDaemon := by
    intro msg hmsg
    rw [List.mem_singleton.mp hmsg]
    decide
  hostEvents := by
    intro event hevent
    rw [List.mem_singleton.mp hevent]
    exact ⟨fun _ => rfl, fun _ => rfl, fun _ => rfl, by decide⟩
  daemonTraffic := by
    intro msg hmsg
    rw [List.mem_singleton.mp hmsg]
    decide

def echoingDevice : Device := ⟨fun cmd => .ok ⟨utf8 cmd, [], true⟩, .error "no", .error "no"⟩

def smode : DispatchCall := ⟨.unityRootrun, "10.0.0.2:5555", 7, ["smode"]⟩

/-- The daemon answers on the channel it is asked on; the rest is left open. -/
def ServesThere (_ : ClientRun) : ClientAct → Prop
  | .serve env => env.AnswersThere
  | _ => True

/-- Nothing of a channel is on its way on the session, or will be. -/
structure ClientRun.Unaddressed (channelId : UInt32) (shown : List (List UInt8)) (s : ClientRun) :
    Prop where
  screen : s.screen = shown
  call : s.call = none
  toDaemon : onChannel channelId s.toDaemon = []
  toHost : onChannel channelId s.toHost = []
  hostEvents : ∀ event ∈ s.hostEvents, onChannel channelId event.sent = []
  daemonTraffic : ∀ msg ∈ s.daemonTraffic, msg.channelId ≠ channelId

section
variable {channelId : UInt32} {shown : List (List UInt8)}

theorem ClientRun.Unaddressed.step {a : ClientAct} (hc : channelId ≠ 0)
    (hs : s.Unaddressed channelId shown) (hok : ServesThere s a)
    (hst : clientStep sessionId connectKey channelId s a = some s') :
    s'.Unaddressed channelId shown := by
  obtain ⟨hscreen, hcall, hdaemon, hhost, hevents, htraffic⟩ := hs
  obtain ⟨env, call, rfl, hsome, rfl⟩ | ⟨env, msg, toDaemon, rfl, hqueue, rfl⟩ |
    ⟨env, task, toHost, rfl, hqueue, rfl⟩ | ⟨event, rest, rfl, hqueue, rfl⟩ |
    ⟨msg, rest, rfl, hqueue, rfl⟩ := clientStep_cases hst
  · rw [hcall] at hsome
    cases hsome
  · rw [hqueue] at hdaemon
    have hne := ne_of_onChannel_cons hdaemon
    have hreplies := @serve_channel env sessionId s.files msg (hok msg)
    refine ⟨hscreen, hcall, (onChannel_cons_of_ne _ hne).symm.trans hdaemon, ?_, hevents, htraffic⟩
    rw [ClientRun.served, onChannel_append, hhost, hreplies.onChannel_eq_nil hne]
    rfl
  · rw [hqueue] at hhost
    have hne := ne_of_onChannel_cons hhost
    have honly := @tcpRouting_only env sessionId connectKey s.reader task
    refine ⟨?_, hcall, ?_, (onChannel_cons_of_ne _ hne).symm.trans hhost, hevents, htraffic⟩
    · simp only [ClientRun.routed, honly.written _ hne, List.append_nil, hscreen]
    · rw [ClientRun.routed, onChannel_append, hdaemon, honly.handshakes.onChannel_eq_nil hc.symm]
      rfl
  · rw [hqueue, List.forall_mem_cons] at hevents
    refine ⟨hscreen, hcall, ?_, hhost, hevents.2, htraffic⟩
    rw [onChannel_append, hdaemon, hevents.1]
    rfl
  · rw [hqueue, List.forall_mem_cons] at htraffic
    refine ⟨hscreen, hcall, hdaemon, ?_, hevents, htraffic.2⟩
    rw [onChannel_append, hhost, onChannel_cons_of_ne _ htraffic.1]
    rfl

/-- A client is shown nothing of a device that nothing has been sent to on its channel, whatever
goes on there and whatever other tasks do to the maps of the server. -/
theorem other_device_silent (hc : channelId ≠ 0) (hs : s.Unaddressed channelId shown)
    {t : ClientRun} (hrun : Reaches (clientStep sessionId connectKey channelId) ServesThere s t) :
    t.screen = shown :=
  (hrun.invariant (fun h hok hst => h.step hc hok hst) hs).screen

end

theorem other_device_silent_forward :
    ∃ t, Reaches (clientStep 1 "" 7) ServesThere (clientBesideForward none) t ∧ t.toDaemon = [] ∧
      t.screen = [] := by
  have hrun : Reaches (clientStep 1 "" 7) ServesThere (clientBesideForward none) _ :=
    (Reaches.single (.serve .quiet) TaskEnv.quiet_answersThere rfl).trans
      (.single (.route .unsigning) trivial rfl)
  exact ⟨_, hrun, rfl,
    other_device_silent (by decide) ⟨rfl, rfl, rfl, rfl, by decide, by decide⟩ hrun⟩

end
/-! The words of a shell command. -/

/-- What `handle_client` makes of a message of the client. -/
def clientCall (connectKey : String) (channelId : UInt32) (params : List String) :
    Option DispatchCall :=
  let parsed := parseReceived (joinParams params)
  parsed.command.map fun cmd => ⟨cmd, connectKey, channelId, parsed.parameters⟩

theorem splitOptAndCmd_shell (args : List String) :
    splitOptAndCmd ("shell" :: args) = ⟨[], some .unityExecute, "shell" :: args⟩ := by
  apply splitOptAndCmd_of_scan
  have hshell : cmdMap.lookup "shell" = some .unityExecute := by decide
  simp [scanCommands, scanLens, maxCmdLen, List.range', hshell, opensForward]

/-- The server splits the text at the spaces the client has put in, and at those of the words; the
parts have no NUL to lose. -/
theorem parseReceived_shell {words : List String} (hne : words ≠ [])
    (hnul : ∀ word ∈ words, '\x00' ∉ word.toList) :
    parseReceived (joinParams ("shell" :: words)) =
      ⟨[], some .unityExecute, "shell" :: split ' ' (String.intercalate " " words)⟩ := by
  obtain ⟨word, rest, rfl⟩ := List.exists_cons_of_ne_nil hne
  generalize htext : String.intercalate " " (word :: rest) = text
  have hjoined : String.intercalate " " ("shell" :: word :: rest) =
      "shell" ++ String.singleton ' ' ++ text := by
    rw [String.intercalate_cons_cons, htext]
    rfl
  have hsplit : split ' ' ("shell" ++ String.singleton ' ' ++ text) = "shell" :: split ' ' text :=
    split_append (by decide) text
  have htrim : ("shell" :: split ' ' text).map (trimEndMatches '\x00') =
      "shell" :: split ' ' text := by
    conv_rhs => rw [← List.map_id ("shell" :: split ' ' text)]
    apply List.map_congr_left
    intro part hpart
    apply trimEndMatches_of_not_mem
    rcases List.mem_cons.mp hpart with rfl | hpart
    · decide
    · intro hzero
      have hmem := mem_of_mem_split hpart hzero
      rw [← htext] at hmem
      rcases mem_intercalate hmem with hspace | ⟨word', hword', hzero'⟩
      · revert hspace
        decide
      · exact hnul word' hword' hzero'
  rw [parseReceived, joinParams, fromUtf8Lossy_utf8, hjoined, hsplit, htrim, splitOptAndCmd_shell]

/-- The command that reaches the daemon is the text of the words. -/
theorem clientCall_shell {words : List String} (hne : words ≠ [])
    (hnul : ∀ word ∈ words, '\x00' ∉ word.toList) (connectKey : String) (channelId : UInt32) :
    ∃ call, clientCall connectKey channelId ("shell" :: words) = some call ∧
      call.channelId = channelId ∧ call.connectKey = connectKey ∧
      call.message = ⟨channelId, .unityExecute, utf8 (String.intercalate " " words)⟩ := by
  refine ⟨_, by rw [clientCall, parseReceived_shell hne hnul]; rfl, rfl, rfl, ?_⟩
  have hlen : 1 < ("shell" :: split ' ' (String.intercalate " " words)).length := by
    have := List.length_pos_of_ne_nil (split_ne_nil ' ' (String.intercalate " " words))
    rw [List.length_cons]
    omega
  simp only [DispatchCall.message, taskPayload, if_pos hlen, List.tail_cons]
  rw [show (" " : String) = String.singleton ' ' from rfl, intercalate_split]

/-- What a shell command shows. -/
def shellTexts : ProcessResult → List String
  | .ok output =>
    let stdout := fromUtf8Lossy output.stdout
    let stderr := fromUtf8Lossy output.stderr
    (if stdout = "" then [] else [stdout]) ++ (if stderr = "" then [] else [stderr])
  | .error e => [levelPrefix .fail ++ ("Execute failed: " ++ e) ++ "\r\n"]

theorem shownOf_shellReplies (channelId : UInt32) (result : ProcessResult) :
    shownOf (shellReplies channelId result) =
      ((shellTexts result).map utf8).map lengthPrefixed := by
  cases result with
  | ok output =>
    simp only [shellReplies, shellTexts]
    split <;> split <;>
      simp [shownOf, shownBytes, echoRaw, channelClose]
  | error e => simp [shellReplies, shellTexts, shownOf, shownBytes, echoClient, channelClose]

/-- `hdc shell` with some words: in any case the client comes to print what the text of the words,
without quotation marks around all of it, gives on the device, whatever pieces that arrives in, and
to return without an error. -/
theorem shell_command_shown (device : Device) (sessionKey : String) {env : DispatchEnv}
    {connectKey : String} {sessionId channelId : UInt32} {words : List String} (hne : words ≠ [])
    (hnul : ∀ word ∈ words, '\x00' ∉ word.toList)
    (hshort : ∀ text ∈
      shellTexts (device.shell (trimQuotationForCmd (String.intercalate " " words))),
      (utf8 text).length < 2^32)
    (hresolve : resolveSessionId env.connectMap connectKey = .ok sessionId)
    (htakes : ∀ wr, env.writerTakes wr = .ok ()) {s : ClientRun} (hs : s.Sound sessionId channelId)
    (hcall : s.call = clientCall connectKey channelId ("shell" :: words))
    (hfresh : s.Fresh channelId) :
    Inevitable (clientStep sessionId sessionKey channelId) (ClientOk sessionId device)
      (ClientMust sessionId device)
      (fun s => s.reader.tcp.channelWriters channelId = false ∧
        ∀ rd : Chunks UInt8, rd.bytes = s.screen.flatten →
          loopRecv .closed rd = some
            ((shellTexts (device.shell (trimQuotationForCmd (String.intercalate " " words)))).map
              .print, .ok ())) s := by
  obtain ⟨call, hparsed, rfl, rfl, hmessage⟩ := clientCall_shell hne hnul connectKey channelId
  have hcmd : call.cmd = .unityExecute := congrArg TaskMessage.command hmessage
  have hstage : s.Stage device call := .waiting (hcall.trans hparsed) hfresh
  have hanswers : device.answers call.message = shellReplies call.channelId
      (device.shell (trimQuotationForCmd (String.intercalate " " words))) := by
    rw [hmessage]
    simp only [Device.answers, handleShell, fromUtf8_utf8]
  have hone : call.cmd ∈ oneShotCommands := by
    rw [hcmd]
    decide
  refine (hstage.finishes hone hresolve htakes hs).mono ?_
  intro t ht
  constructor
  · rw [ht.channel, hcmd]
    rfl
  · intro rd hrd
    rw [ht.screen, hanswers, shownOf_shellReplies] at hrd
    exact loopRecv_texts hshort hrd

theorem shell_command_shown_echo :
    Inevitable (clientStep 1 "" 7) (ClientOk 1 echoingDevice) (ClientMust 1 echoingDevice)
      (fun s => s.reader.tcp.channelWriters 7 = false ∧
        ∀ rd : Chunks UInt8, rd.bytes = s.screen.flatten →
          loopRecv .closed rd = some
            ((shellTexts (echoingDevice.shell (trimQuotationForCmd (String.intercalate " "
              ["echo", "two  words"])))).map .print, .ok ()))
      (clientBesideForward (clientCall "10.0.0.2:5555" 7 ["shell", "echo", "two  words"])) :=
  shell_command_shown echoingDevice "" (by decide) (by decide) (by decide)
    oneDevice_resolves (fun _ => rfl) (clientBesideForward_sound _) rfl
    (clientBesideForward_fresh _)

end Hdc
