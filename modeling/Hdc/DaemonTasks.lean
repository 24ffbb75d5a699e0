import Hdc.AppDaemon
import Hdc.FileExchange

/- The tasks the daemon does itself (`hdcd/src/task.rs`, `hdcd/src/flashd.rs`), as it is built for
   Linux: shell commands, `reboot`, `remount`, `runmode`, `hilog`, and the stub behind the flash
   commands. With the handlers of files and packages they make up `serve`, one turn of the main loop
   of a connection (`hdcd/src/main.rs`).

   Two things hold of a turn whatever the message is: the answers are for its channel
   (`serve_channel`), and the loop goes on unless the message closes a channel or asks for an
   interactive shell (`serve_running`). Sends to the session do not fail here. -/
namespace Hdc
open Rust Wire

/-! Programs the daemon starts. -/

/-- What a program gives, or the text of the error that kept it from running. -/
abbrev ProcessResult := Except String BmOutput

/-- `trim_quotation_for_cmd`. -/
def trimQuotationForCmd (cmdInput : String) : String :=
  let cmd := trim cmdInput
  if cmd.toList.head? = some '"' ∧ cmd.toList.getLast? = some '"' then
    let rest := cmd.toList.tail
    -- a lone quotation mark has no second one to take off
    String.ofList (if rest.getLast? = some '"' then rest.dropLast else rest)
  else cmd

def echoRaw (channelId : UInt32) (text : String) : TaskMessage :=
  ⟨channelId, .kernelEchoRaw, utf8 text⟩

/-- The messages that show what a shell command has written; one that has written nothing is not
shown. -/
def shellReplies (channelId : UInt32) : ProcessResult → List TaskMessage
  | .ok output =>
    let stdout := fromUtf8Lossy output.stdout
    let stderr := fromUtf8Lossy output.stderr
    (if stdout = "" then [] else [echoRaw channelId stdout]) ++
      (if stderr = "" then [] else [echoRaw channelId stderr]) ++ [channelClose channelId]
  | .error e => [echoClient channelId ("Execute failed: " ++ e) .fail, channelClose channelId]

/-! The handlers. -/

section
variable (msg : TaskMessage)

/-- `handle_shell`, where `shell` is `sh -c`. -/
def handleShell (shell : String → ProcessResult) : List TaskMessage × IoResult Unit :=
  match fromUtf8 msg.payload with
  | none => ([], invalidData "invalid utf8")
  | some cmd => (shellReplies msg.channelId (shell (trimQuotationForCmd cmd)), .ok ())

def handleInteractiveShell : List TaskMessage := [echoRaw msg.channelId "$ "]

/-- `handle_reboot`. The mode in the payload makes no difference. -/
def handleReboot (reboot : ProcessResult) : List TaskMessage :=
  (match reboot with
    | .ok _ => []
    | .error e => [echoClient msg.channelId ("Reboot failed: " ++ e) .fail]) ++
  [channelClose msg.channelId]

def handleRemount (mount : ProcessResult) : List TaskMessage :=
  (match mount with
    | .ok ⟨_, _, true⟩ => [echoClient msg.channelId "Mount finish" .ok]
    | .ok ⟨_, _, false⟩ | .error _ => [echoClient msg.channelId "Mount failed" .fail]) ++
  [channelClose msg.channelId]

def handleRunmode : List TaskMessage :=
  [echoClient msg.channelId ("Runmode: " ++ fromUtf8Lossy msg.payload) .info,
    channelClose msg.channelId]

/-- `handle_hilog`; the byte is an `h`. -/
def handleHilog : List TaskMessage :=
  [echoRaw msg.channelId
      (if msg.payload = [104] then "hilog help output..." else "hilog output..."),
    channelClose msg.channelId]

/-- The report of the stub. -/
def flashdCompleted (channelId : UInt32) : TaskMessage :=
  ⟨channelId, .flashdFinish, [0, MessageLevel.ok.asU8] ++ utf8 "flashd stub completed"⟩

/-- `handle_flashd_task`. -/
def handleFlashdTask : List TaskMessage :=
  match msg.command with
  | .flashdCheck => [⟨msg.channelId, .flashdBegin, []⟩]
  | .flashdFinish => if msg.payload.head? = some 1 then [flashdCompleted msg.channelId] else []
  | .flashdErase | .flashdFormat => [flashdCompleted msg.channelId]
  | _ => []

end

/-! The main loop. -/

/-- What the handling of a message depends on besides it: the programs that are started, the file
system, and `forward.rs`. -/
structure TaskEnv where
  shell : String → ProcessResult
  reboot : ProcessResult
  mount : ProcessResult
  bm : Bm
  io : FsOutcome
  forward : TaskMessage → List TaskMessage
  forwardChannel : UInt32 → Bool

/-- The arms of `dispatch_task` but for those of files. -/
def TaskEnv.others (env : TaskEnv) (sessionId : UInt32) (d : DaemonFiles) (msg : TaskMessage) :
    DaemonFiles × List TaskMessage × IoResult Unit :=
  match msg.command with
  | .unityExecute | .unityExecuteEx => (d, handleShell msg env.shell)
  | .shellInit => (d, handleInteractiveShell msg, .ok ())
  | .unityReboot => (d, handleReboot msg env.reboot, .ok ())
  | .unityRemount => (d, handleRemount msg env.mount, .ok ())
  | .unityRunmode => (d, handleRunmode msg, .ok ())
  | .unityHilog => (d, handleHilog msg, .ok ())
  | .appInit | .appCheck | .appBegin | .appData | .appFinish | .appUninstall =>
    let (d, replies) := handleAppTask sessionId env.io env.bm d msg
    (d, replies, .ok ())
  | .flashdCheck | .flashdBegin | .flashdData | .flashdFinish | .flashdErase | .flashdFormat
  | .flashdProgress => (d, handleFlashdTask msg, .ok ())
  | _ => (d, env.forward msg, .ok ())

def TaskEnv.handlers (env : TaskEnv) (sessionId : UInt32) : DaemonHandlers :=
  ⟨env.others sessionId, env.forwardChannel⟩

/-- One turn of the main loop of `handle_client`: what is left and sent, and whether there is a next
turn. The connection of an interactive shell is handed over to `run_shell_bridge`. -/
def serve (env : TaskEnv) (sessionId : UInt32) (d : DaemonFiles) (msg : TaskMessage) :
    DaemonFiles × List TaskMessage × Bool :=
  if msg.command = .shellInit then (d, [], false)
  else
    let handled := dispatchTask (env.handlers sessionId) sessionId env.io d msg
    (handled.1, handled.2.1, goesOn handled.2.2)

/-! Answers are for the channel of the message. -/

/-- All of the messages are on the channel. -/
def ForChannel (channelId : UInt32) (msgs : List TaskMessage) : Prop :=
  ∀ msg ∈ msgs, msg.channelId = channelId

section
variable {c : UInt32} {msg : TaskMessage} {msgs msgs' : List TaskMessage}

@[simp] theorem ForChannel.nil : ForChannel c [] := by
  intro msg hmsg
  cases hmsg

@[simp] theorem ForChannel.cons :
    ForChannel c (msg :: msgs) ↔ msg.channelId = c ∧ ForChannel c msgs :=
  List.forall_mem_cons

@[simp] theorem ForChannel.append :
    ForChannel c (msgs ++ msgs') ↔ ForChannel c msgs ∧ ForChannel c msgs' :=
  List.forall_mem_append

@[simp] theorem ForChannel.ite {p : Prop} [Decidable p] :
    ForChannel c (if p then msgs else msgs') ↔
      (p → ForChannel c msgs) ∧ (¬ p → ForChannel c msgs') := by
  split <;> simp_all

theorem ForChannel.map {α : Type} (as : List α) {f : α → TaskMessage}
    (h : ∀ a, (f a).channelId = c) : ForChannel c (as.map f) := by
  intro msg hmsg
  obtain ⟨a, -, rfl⟩ := List.mem_map.mp hmsg
  exact h a

@[simp] theorem echoClient_channelId (text : String) (level : MessageLevel) :
    (echoClient c text level).channelId = c := rfl

@[simp] theorem channelClose_channelId : (channelClose c).channelId = c := rfl

@[simp] theorem echoRaw_channelId (text : String) : (echoRaw c text).channelId = c := rfl

@[simp] theorem flashdCompleted_channelId : (flashdCompleted c).channelId = c := rfl

end

section
variable (sessionId : UInt32) (io : FsOutcome) (d : DaemonFiles) (msg : TaskMessage)

theorem handleDaemonFileSend_channel (path : String) :
    ForChannel msg.channelId (handleDaemonFileSend sessionId io d msg path).2 := by
  unfold handleDaemonFileSend
  split
  · simp
  · simp
  · dsimp only
    have hdatas := fun chunks : List (List UInt8) =>
      ForChannel.map (c := msg.channelId) (f := (⟨msg.channelId, .fileData, ·⟩)) chunks fun _ => rfl
    split <;> simp [hdatas]

theorem handleFileTask_channel :
    ForChannel msg.channelId (handleFileTask sessionId io d msg).2 := by
  unfold handleFileTask
  split
  · unfold handleFileInit
    split <;> simp
  · unfold handleFileCheck
    split <;> simp
  · unfold handleFileBegin
    split
    · simp
    · split
      · split <;> simp
      · exact handleDaemonFileSend_channel sessionId io d msg _
  · unfold handleFileData
    split
    · simp
    · split
      · simp
      · split <;> simp
  · unfold handleFileFinish
    split <;> simp
  · unfold handleFileRecvInit
    split
    · simp
    · split <;> simp
  · simp

theorem bmReplies_channel (c : UInt32) (action : String) (result : Except String BmOutput) :
    ForChannel c (bmReplies c action result) := by
  cases result with
  | ok output =>
    simp only [bmReplies, ForChannel.append, ForChannel.ite, ForChannel.cons, ForChannel.nil]
    refine ⟨by simp, ?_, by simp⟩
    split <;> rfl
  | error e => simp [bmReplies]

theorem handleAppTask_channel (bm : Bm) :
    ForChannel msg.channelId (handleAppTask sessionId io bm d msg).2 := by
  unfold handleAppTask
  split
  · unfold handleAppInit
    split <;> simp
  · simp [handleAppCheck]
  · unfold handleAppBegin
    split
    · simp [appNotInitialized]
    · split <;> simp
  · unfold handleAppData
    split
    · simp [appNotInitialized]
    · split <;> simp
  · unfold handleAppFinish
    split
    · simp [appNotInitialized]
    · exact bmReplies_channel _ _ _
  · exact bmReplies_channel _ _ _
  · simp

end

theorem shellReplies_channel (c : UInt32) (result : ProcessResult) :
    ForChannel c (shellReplies c result) := by
  cases result <;> simp [shellReplies]

theorem handleShell_channel (msg : TaskMessage) (shell : String → ProcessResult) :
    ForChannel msg.channelId (handleShell msg shell).1 := by
  unfold handleShell
  split
  · exact ForChannel.nil
  · exact shellReplies_channel _ _

theorem handleFlashdTask_channel (msg : TaskMessage) :
    ForChannel msg.channelId (handleFlashdTask msg) := by
  unfold handleFlashdTask
  split <;> simp

section
variable {env : TaskEnv} (sessionId : UInt32) (d : DaemonFiles) (msg : TaskMessage)

theorem TaskEnv.others_channel (hforward : ForChannel msg.channelId (env.forward msg)) :
    ForChannel msg.channelId (env.others sessionId d msg).2.1 := by
  unfold TaskEnv.others
  split
  · exact handleShell_channel _ _
  · exact handleShell_channel _ _
  · simp [handleInteractiveShell]
  · cases h : env.reboot <;> simp [handleReboot]
  · unfold handleRemount
    split <;> simp
  · simp [handleRunmode]
  · simp [handleHilog]
  iterate 6 exact handleAppTask_channel _ _ _ _ _
  iterate 7 exact handleFlashdTask_channel _
  exact hforward

theorem dispatchTask_channel {handlers : DaemonHandlers} (io : FsOutcome)
    (hothers : ForChannel msg.channelId (handlers.others d msg).2.1) :
    ForChannel msg.channelId (dispatchTask handlers sessionId io d msg).2.1 := by
  have hfile := handleFileTask_channel sessionId io d msg
  unfold dispatchTask
  split
  all_goals first
    | exact hothers
    | exact hfile
    | simp
  split <;> simp

theorem serve_channel (hforward : ForChannel msg.channelId (env.forward msg)) :
    ForChannel msg.channelId (serve env sessionId d msg).2.1 := by
  unfold serve
  split
  · exact ForChannel.nil
  · exact dispatchTask_channel sessionId d msg env.io
      (TaskEnv.others_channel sessionId d msg hforward)

/-! When the loop goes on. -/

theorem goesOn_handleShell (shell : String → ProcessResult) :
    goesOn (handleShell msg shell).2 = true := by
  unfold handleShell
  split <;> rfl

theorem TaskEnv.others_goesOn : goesOn (env.others sessionId d msg).2.2 = true := by
  unfold TaskEnv.others
  split
  · exact goesOn_handleShell msg env.shell
  · exact goesOn_handleShell msg env.shell
  all_goals rfl

/-- The messages a connection goes on after. -/
def KeepsServing (msg : TaskMessage) : Prop :=
  msg.command ≠ .shellInit ∧ msg.command ≠ .kernelChannelClose

instance : Decidable (KeepsServing msg) := inferInstanceAs (Decidable (_ ∧ _))

theorem serve_running (h : KeepsServing msg) : (serve env sessionId d msg).2.2 = true := by
  have hothers := @TaskEnv.others_goesOn env sessionId d msg
  rw [serve, if_neg h.1]
  show goesOn (dispatchTask _ _ _ _ _).2.2 = true
  unfold dispatchTask
  split
  all_goals first
    | exact hothers
    | rfl
    | skip
  rename_i hclose
  exact absurd hclose h.2

end
end Hdc
