import Hdc.FileHost
import Hdc.Lts

/- A file transfer between this host and this daemon: the host's handler, the
   daemon's main loop with `dispatch_task`, and a session that delivers every message
   in order.

   Neither direction gets past its first message. A send opens with
   `KernelWakeupSlavetask`, which `dispatch_task` does not know; a receive opens with
   a `FileInit` of three words, of which `parse_file_paths` wants four. The daemon
   answers both with an echo, and the host, which takes the first reply for the answer
   to its request, gives up. `transfer_never_completes` says so for all runs without
   failures, all contents and all paths. -/
namespace Hdc
open Rust Wire Lts

/-- The handler that is running, with its job. -/
inductive HostFile where
  | sending (job : SendJob) (phase : SendPhase)
  | receiving (job : RecvJob) (state : RecvState)
  deriving DecidableEq, Repr

def hostStep : HostFile → HostAct → Option (HostFile × HostOut)
  | .sending job phase, act =>
    (sendStep job phase act).map fun (phase, out) => (.sending job phase, out)
  | .receiving job state, act =>
    (recvStep job state act).map fun (state, out) => (.receiving job state, out)

/-- What the handler has returned. -/
def HostFile.result : HostFile → Option (IoResult Unit)
  | .sending _ (.ended result) => some result
  | .receiving _ ⟨.ended result, _⟩ => some result
  | _ => none

structure Exchange where
  host : HostFile
  /-- The texts the client was sent. -/
  client : List String
  daemon : DaemonFiles
  /-- The daemon's main loop has not ended. -/
  running : Bool
  toDaemon : List TaskMessage
  toHost : List TaskMessage

inductive ExchangeAct where
  /-- The host's handler goes on by itself. -/
  | host (act : HostAct)
  /-- It takes the next message of its response channel. -/
  | deliver
  /-- The daemon handles its next message. -/
  | daemon (io : FsOutcome)
  deriving DecidableEq, Repr

/-- The exchange after a step of the host. -/
def Exchange.hostDoes (s : Exchange) (act : HostAct) : Option Exchange :=
  (hostStep s.host act).map fun (host, out) =>
    { s with host, client := s.client ++ out.texts, toDaemon := s.toDaemon ++ out.messages }

/-- Only a `ConnectionAborted` ends the daemon's main loop. -/
def goesOn : IoResult Unit → Bool
  | .error ⟨.connectionAborted, _⟩ => false
  | _ => true

def exchangeStep (handlers : DaemonHandlers) (sessionId : UInt32) (s : Exchange) :
    ExchangeAct → Option Exchange
  | .host (.recv _) => none
  | .host act => s.hostDoes act
  | .deliver =>
    match s.toHost with
    | task :: toHost => { s with toHost }.hostDoes (.recv task)
    | [] => none
  | .daemon io =>
    match s.running, s.toDaemon with
    | true, msg :: toDaemon =>
      let (daemon, replies, result) := dispatchTask handlers sessionId io s.daemon msg
      some { s with daemon, running := goesOn result, toDaemon, toHost := s.toHost ++ replies }
    | _, _ => none

/-- The steps of a run without input or output failures, timeouts or a lost session. -/
def NoFailure (_ : Exchange) : ExchangeAct → Prop
  | .host (.next _) => True
  | .host _ => False
  | .deliver => True
  | .daemon io => io.NoFailure

instance (s : Exchange) (act : ExchangeAct) : Decidable (NoFailure s act) := by
  unfold NoFailure
  split <;> infer_instance

/-- The start of a transfer, from the parameters of the command: of any local file to
any path, or of any path without spaces to another. -/
inductive Exchange.Starts : Exchange → Prop
  | send {channelId : UInt32} {params : List String} {fs : Fs} {job : SendJob}
    (daemon : DaemonFiles) (hjob : sendStart channelId params fs = .ok job) :
    Starts ⟨.sending job .wakeup, [], daemon, true, [], []⟩
  | recv {channelId : UInt32} {params : List String} {job : RecvJob} (daemon : DaemonFiles)
    (hjob : recvStart channelId params = .ok job)
    (hremote : ' ' ∉ job.remotePath.toList) (hlocal : ' ' ∉ job.localPath.toList) :
    Starts ⟨.receiving job ⟨.init, none⟩, [], daemon, true, [], []⟩

/-- The file that is transferred, at the start. -/
def Exchange.source (s : Exchange) : Option (List UInt8) :=
  match s.host with
  | .sending job _ => some job.content
  | .receiving job _ => s.daemon.fs job.remotePath

def Exchange.destination (s : Exchange) : Option (List UInt8) :=
  match s.host with
  | .sending job _ => s.daemon.fs job.remotePath
  | .receiving _ state => state.loop.map FileRecv.file

/-- The client has been told that the transfer is finished. -/
def Exchange.Finished (s : Exchange) : Prop :=
  ∃ text ∈ s.client, "FileTransfer finish".toList <+: text.toList

/-- The outcome a transfer that started in `s₀` is for. -/
def Exchange.Completes (s₀ s : Exchange) : Prop :=
  s.host.result = some (.ok ()) ∧ s.Finished ∧ s.destination = s₀.source

/-! The first message and its answer. -/

theorem dispatchTask_wakeup (handlers : DaemonHandlers) (sessionId : UInt32) (io : FsOutcome)
    (d : DaemonFiles) (channelId : UInt32) :
    dispatchTask handlers sessionId io d ⟨channelId, .kernelWakeupSlavetask, []⟩ =
      (d, [echoClient channelId "Command not implemented" .fail], .ok ()) := rfl

/-- The request of a receive is three words. -/
theorem parseFilePaths_recv {remotePath localPath : String} (hremote : ' ' ∉ remotePath.toList)
    (hlocal : ' ' ∉ localPath.toList) :
    parseFilePaths (utf8 ("recv " ++ remotePath ++ " " ++ localPath)) = none := by
  have hwords : split ' ' ("recv " ++ remotePath ++ " " ++ localPath) =
      ["recv", remotePath, localPath] := by
    have htext : "recv " ++ remotePath ++ " " ++ localPath =
        "recv" ++ String.singleton ' ' ++ (remotePath ++ String.singleton ' ' ++ localPath) := by
      apply String.toList_injective
      simp
    rw [htext, split_append (by decide), split_append hremote, split_single hlocal]
  simp only [parseFilePaths, fromUtf8Lossy_utf8, hwords]
  rfl

theorem dispatchTask_fileInit (handlers : DaemonHandlers) (sessionId : UInt32) (io : FsOutcome)
    (d : DaemonFiles) {job : RecvJob} (hremote : ' ' ∉ job.remotePath.toList)
    (hlocal : ' ' ∉ job.localPath.toList) :
    dispatchTask handlers sessionId io d job.fileInit =
      (d, [echoClient job.channelId "Invalid file init parameters" .fail], .ok ()) := by
  have hparse := parseFilePaths_recv hremote hlocal
  simp only [dispatchTask, handleFileTask, handleFileInit, RecvJob.fileInit, hparse]

theorem onReply_echo (job : SendJob) (path optionalName : String) (channelId : UInt32) :
    job.onReply path optionalName false (echoClient channelId "Command not implemented" .fail) =
      .ended (invalidData "Expected FileBegin, got KernelEcho") := by
  have hpayload : (echoClient channelId "Command not implemented" .fail).payload =
      utf8 "\x00[Fail]Command not implemented\r\n" := by
    simp only [echoClient]
    decide
  have htext : ¬ contains "\x00[Fail]Command not implemented\r\n" directoryError = true := by
    intro hsub
    have hmem : 'g' ∈ "\x00[Fail]Command not implemented\r\n".toList :=
      (contains_iff.mp hsub).subset (by decide)
    revert hmem
    decide
  have hcommand : (echoClient channelId "Command not implemented" .fail).command = .kernelEcho := rfl
  have hdebug : "Expected FileBegin, got " ++ HdcCommand.kernelEcho.debug =
      "Expected FileBegin, got KernelEcho" := by decide
  rw [SendJob.onReply, hcommand, hpayload, fromUtf8Lossy_utf8, if_neg (by decide),
    if_neg (fun h => htext h.1), if_neg (by decide), hdebug]

theorem onCheck_echo (channelId : UInt32) (msg : String) (level : MessageLevel) :
    RecvJob.onCheck (echoClient channelId msg level) =
      .ended (invalidData "Expected FileCheck, got KernelEcho") := by
  have hdebug : "Expected FileCheck, got " ++ HdcCommand.kernelEcho.debug =
      "Expected FileCheck, got KernelEcho" := by decide
  simp only [RecvJob.onCheck, echoClient, hdebug]

/-! Both directions at once. -/

/-- The handler's first message, the daemon's answer to it, and the end it leads to. -/
def HostFile.opener : HostFile → TaskMessage
  | .sending job _ => ⟨job.channelId, .kernelWakeupSlavetask, []⟩
  | .receiving job _ => job.fileInit

def HostFile.answer : HostFile → TaskMessage
  | .sending job _ => echoClient job.channelId "Command not implemented" .fail
  | .receiving job _ => echoClient job.channelId "Invalid file init parameters" .fail

def HostFile.refusal : HostFile → IoResult Unit
  | .sending .. => invalidData "Expected FileBegin, got KernelEcho"
  | .receiving .. => invalidData "Expected FileCheck, got KernelEcho"

/-- The paths of a receive have no spaces. -/
def HostFile.SpaceFree : HostFile → Prop
  | .sending .. => True
  | .receiving job _ => ' ' ∉ job.remotePath.toList ∧ ' ' ∉ job.localPath.toList

/-- The first message is still to be sent. -/
inductive HostFile.AtStart : HostFile → Prop
  | send (job : SendJob) : AtStart (.sending job .wakeup)
  | recv (job : RecvJob) (loop : Option FileRecv) : AtStart (.receiving job ⟨.init, loop⟩)

/-- It has been sent, and no reply has been taken. -/
inductive HostFile.Waits : HostFile → Prop
  | check (job : SendJob) (path optionalName : String) :
    Waits (.sending job (.check path optionalName false))
  | waitBegin (job : SendJob) (path optionalName : String) :
    Waits (.sending job (.waitBegin path optionalName false))
  | waitCheck (job : RecvJob) (loop : Option FileRecv) : Waits (.receiving job ⟨.waitCheck, loop⟩)

section
variable {h h' : HostFile} {out : HostOut} {n : Nat} {act : HostAct}

theorem dispatchTask_opener (handlers : DaemonHandlers) (sessionId : UInt32) (io : FsOutcome)
    (d : DaemonFiles) (hfree : h.SpaceFree) :
    dispatchTask handlers sessionId io d h.opener = (d, [h.answer], .ok ()) := by
  cases h with
  | sending job phase => exact dispatchTask_wakeup handlers sessionId io d job.channelId
  | receiving job state => exact dispatchTask_fileInit handlers sessionId io d hfree.1 hfree.2

/-- A step does not change the job. -/
theorem hostStep_job (hstep : hostStep h act = some (h', out)) :
    h'.opener = h.opener ∧ h'.answer = h.answer ∧ h'.refusal = h.refusal ∧
      (h.SpaceFree → h'.SpaceFree) := by
  cases h with
  | sending job phase =>
    simp only [hostStep, Option.map_eq_some_iff] at hstep
    obtain ⟨⟨phase', out'⟩, -, hstep⟩ := hstep
    cases hstep
    exact ⟨rfl, rfl, rfl, id⟩
  | receiving job state =>
    simp only [hostStep, Option.map_eq_some_iff] at hstep
    obtain ⟨⟨state', out'⟩, -, hstep⟩ := hstep
    cases hstep
    exact ⟨rfl, rfl, rfl, id⟩

theorem hostStep_atStart (hstart : h.AtStart) (n : Nat) :
    ∃ h', hostStep h (.next n) = some (h', { messages := [h.opener] }) ∧ h'.Waits := by
  cases hstart with
  | send job => exact ⟨_, rfl, .check job job.remotePath ""⟩
  | recv job loop => exact ⟨_, rfl, .waitCheck job loop⟩

/-- While it waits, the handler may send more but says nothing to the client. -/
theorem hostStep_waits (hwaits : h.Waits) (hstep : hostStep h (.next n) = some (h', out)) :
    h'.Waits ∧ out.texts = [] := by
  cases hwaits with
  | check job path optionalName =>
    cases hstep
    exact ⟨.waitBegin job path optionalName, rfl⟩
  | waitBegin job path optionalName => cases hstep
  | waitCheck job loop => cases hstep

theorem hostStep_answer (hwaits : h.Waits) (hstep : hostStep h (.recv h.answer) = some (h', out)) :
    h'.result = some h.refusal ∧ out = {} := by
  cases hwaits with
  | check job path optionalName => cases hstep
  | waitBegin job path optionalName =>
    simp only [hostStep, sendStep, HostFile.answer, onReply_echo, Option.map_some,
      Option.some.injEq, Prod.mk.injEq] at hstep
    obtain ⟨rfl, rfl⟩ := hstep
    exact ⟨rfl, rfl⟩
  | waitCheck job loop =>
    simp only [hostStep, recvStep, HostFile.answer, onCheck_echo, Option.map_some,
      Option.some.injEq, Prod.mk.injEq] at hstep
    obtain ⟨rfl, rfl⟩ := hstep
    exact ⟨rfl, rfl⟩

theorem HostFile.AtStart.result (hstart : h.AtStart) : h.result = none := by
  cases hstart <;> rfl

theorem HostFile.Waits.result (hwaits : h.Waits) : h.result = none := by
  cases hwaits <;> rfl

theorem hostStep_ended {r : IoResult Unit} (hend : h.result = some r) : hostStep h act = none := by
  cases h with
  | sending job phase =>
    cases phase with
    | ended result => rfl
    | _ => cases hend
  | receiving job state =>
    obtain ⟨phase, loop⟩ := state
    cases phase with
    | ended result => rfl
    | _ => cases hend

end

/-! Whole runs. -/

/-- How far a transfer is on its way to its refusal. -/
inductive Exchange.Stage (s : Exchange) : Prop
  | start (hhost : s.host.AtStart) (hrunning : s.running = true) (hdaemon : s.toDaemon = [])
    (htoHost : s.toHost = [])
  | asked (hhost : s.host.Waits) (hrunning : s.running = true) (rest : List TaskMessage)
    (hdaemon : s.toDaemon = s.host.opener :: rest) (htoHost : s.toHost = [])
  | answered (hhost : s.host.Waits) (rest : List TaskMessage)
    (htoHost : s.toHost = s.host.answer :: rest)
  | ended (hend : s.host.result = some s.host.refusal)

/-- The client has been told nothing, and the handler ends with `r` if it has not yet. -/
structure Exchange.Refused (r : IoResult Unit) (s : Exchange) : Prop where
  silent : s.client = []
  spaceFree : s.host.SpaceFree
  refusal : s.host.refusal = r
  stage : s.Stage

theorem Exchange.Starts.refused {s : Exchange} (h : s.Starts) : s.Refused s.host.refusal := by
  cases h with
  | send daemon hjob => exact ⟨rfl, trivial, rfl, .start (.send _) rfl rfl rfl⟩
  | recv daemon hjob hremote hlocal =>
    exact ⟨rfl, ⟨hremote, hlocal⟩, rfl, .start (.recv _ none) rfl rfl rfl⟩

section
variable {handlers : DaemonHandlers} {sessionId : UInt32} {r : IoResult Unit} {s s' : Exchange}

theorem Exchange.Refused.next (h : s.Refused r) {n : Nat} (hstep : s.hostDoes (.next n) = some s') :
    s'.Refused r := by
  simp only [Exchange.hostDoes, Option.map_eq_some_iff] at hstep
  obtain ⟨⟨host, out⟩, hhost, rfl⟩ := hstep
  obtain ⟨hopener, hanswer, hrefusal, hfree⟩ := hostStep_job hhost
  cases h.stage with
  | start hstart hrunning hdaemon htoHost =>
    obtain ⟨host', hnext, hwaits⟩ := hostStep_atStart hstart n
    rw [hnext] at hhost
    cases hhost
    refine ⟨by simp [h.silent], hfree h.spaceFree, hrefusal.trans h.refusal, ?_⟩
    exact .asked hwaits hrunning [] (by simp [hdaemon, hopener]) htoHost
  | asked hwaits hrunning rest hdaemon htoHost =>
    obtain ⟨hwaits', htexts⟩ := hostStep_waits hwaits hhost
    refine ⟨by simp [h.silent, htexts], hfree h.spaceFree, hrefusal.trans h.refusal, ?_⟩
    exact .asked hwaits' hrunning (rest ++ out.messages) (by simp [hdaemon, hopener]) htoHost
  | answered hwaits rest htoHost =>
    obtain ⟨hwaits', htexts⟩ := hostStep_waits hwaits hhost
    refine ⟨by simp [h.silent, htexts], hfree h.spaceFree, hrefusal.trans h.refusal, ?_⟩
    exact .answered hwaits' rest (htoHost.trans (by rw [hanswer]))
  | ended hend =>
    rw [hostStep_ended hend] at hhost
    cases hhost

theorem Exchange.Refused.deliver (h : s.Refused r)
    (hstep : exchangeStep handlers sessionId s .deliver = some s') : s'.Refused r := by
  simp only [exchangeStep] at hstep
  split at hstep
  · rename_i task toHost hqueue
    simp only [Exchange.hostDoes, Option.map_eq_some_iff] at hstep
    obtain ⟨⟨host, out⟩, hhost, rfl⟩ := hstep
    obtain ⟨-, -, hrefusal, hfree⟩ := hostStep_job hhost
    cases h.stage with
    | start _ _ _ htoHost | asked _ _ _ _ htoHost =>
      rw [hqueue] at htoHost
      cases htoHost
    | answered hwaits rest htoHost =>
      -- the first reply is the daemon's refusal
      rw [hqueue] at htoHost
      cases htoHost
      obtain ⟨hend, rfl⟩ := hostStep_answer hwaits hhost
      refine ⟨by simp [h.silent], hfree h.spaceFree, hrefusal.trans h.refusal, ?_⟩
      exact .ended (hend.trans (by rw [hrefusal]))
    | ended hend =>
      rw [hostStep_ended hend] at hhost
      cases hhost
  · cases hstep

theorem Exchange.Refused.daemon (h : s.Refused r) {io : FsOutcome}
    (hstep : exchangeStep handlers sessionId s (.daemon io) = some s') : s'.Refused r := by
  simp only [exchangeStep] at hstep
  split at hstep
  · rename_i msg toDaemon hrun hqueue
    cases h.stage with
    | start _ _ hdaemon =>
      rw [hqueue] at hdaemon
      cases hdaemon
    | asked hwaits hrunning rest hdaemon htoHost =>
      rw [hqueue] at hdaemon
      cases hdaemon
      rw [dispatchTask_opener handlers sessionId io s.daemon h.spaceFree] at hstep
      cases hstep
      refine ⟨h.silent, h.spaceFree, h.refusal, .answered hwaits [] ?_⟩
      simp [htoHost]
    | answered hwaits rest htoHost =>
      cases hstep
      refine ⟨h.silent, h.spaceFree, h.refusal,
        .answered hwaits (rest ++ (dispatchTask handlers sessionId io s.daemon msg).2.1) ?_⟩
      simp only [htoHost, List.cons_append]
    | ended hend =>
      cases hstep
      exact ⟨h.silent, h.spaceFree, h.refusal, .ended hend⟩
  · cases hstep

theorem Exchange.Refused.step {act : ExchangeAct} (h : s.Refused r) (hok : NoFailure s act)
    (hstep : exchangeStep handlers sessionId s act = some s') : s'.Refused r := by
  cases act with
  | host act =>
    cases act with
    | next n => exact h.next hstep
    | _ => exact hok.elim
  | deliver => exact h.deliver hstep
  | daemon io => exact h.daemon hstep

/-! The refusal is always reached: from each stage a step leads to the next. -/

/-- The handler takes the answer, having sent its `FileCheck` if it had not. -/
theorem Exchange.Stage.end_of_answered (hwaits : s.host.Waits) {rest : List TaskMessage}
    (htoHost : s.toHost = s.host.answer :: rest) :
    ∃ s', Reaches (exchangeStep handlers sessionId) NoFailure s s' ∧
      s'.host.result = some s.host.refusal := by
  -- a handler at its receive
  have hrecv {s : Exchange} (hwaits : s.host.Waits) (htoHost : s.toHost = s.host.answer :: rest)
      (henabled : (hostStep s.host (.recv s.host.answer)).isSome) :
      ∃ s', Reaches (exchangeStep handlers sessionId) NoFailure s s' ∧
        s'.host.result = some s.host.refusal := by
    obtain ⟨⟨host, out⟩, hhost⟩ := Option.isSome_iff_exists.mp henabled
    have hstep : exchangeStep handlers sessionId s .deliver = some
        { s with
          host, toHost := rest, client := s.client ++ out.texts
          toDaemon := s.toDaemon ++ out.messages } := by
      simp only [exchangeStep, htoHost, Exchange.hostDoes, hhost, Option.map_some]
    exact ⟨_, .single .deliver trivial hstep, (hostStep_answer hwaits hhost).1⟩
  obtain ⟨host, client, daemon, running, toDaemon, toHost⟩ := s
  cases hwaits with
  | check job path optionalName =>
    obtain ⟨s', hreach, hend⟩ := hrecv
      (s := ⟨.sending job (.waitBegin path optionalName false), client, daemon, running,
        toDaemon ++ [job.fileCheck path optionalName], toHost⟩) (.waitBegin job path optionalName)
      htoHost rfl
    have hcheck : Reaches (exchangeStep handlers sessionId) NoFailure
        ⟨.sending job (.check path optionalName false), client, daemon, running, toDaemon, toHost⟩
        ⟨.sending job (.waitBegin path optionalName false), client, daemon, running,
          toDaemon ++ [job.fileCheck path optionalName], toHost⟩ := by
      refine .single (.host (.next 0)) trivial ?_
      simp [exchangeStep, Exchange.hostDoes, hostStep, sendStep]
    exact ⟨s', hcheck.trans hreach, hend⟩
  | waitBegin job path optionalName => exact hrecv (.waitBegin job path optionalName) htoHost rfl
  | waitCheck job loop => exact hrecv (.waitCheck job loop) htoHost rfl

theorem Exchange.Refused.end_of_asked (h : s.Refused r) (hwaits : s.host.Waits)
    (hrunning : s.running = true) {rest : List TaskMessage}
    (hdaemon : s.toDaemon = s.host.opener :: rest) (htoHost : s.toHost = []) :
    ∃ s', Reaches (exchangeStep handlers sessionId) NoFailure s s' ∧
      s'.host.result = some s.host.refusal := by
  have hdispatch := dispatchTask_opener handlers sessionId {} s.daemon h.spaceFree
  have hstep : exchangeStep handlers sessionId s (.daemon {}) =
      some { s with running := true, toDaemon := rest, toHost := [s.host.answer] } := by
    simp only [exchangeStep, hrunning, hdaemon, hdispatch, htoHost, List.nil_append, goesOn]
  obtain ⟨s', hreach, hend⟩ := Exchange.Stage.end_of_answered
    (s := { s with running := true, toDaemon := rest, toHost := [s.host.answer] }) hwaits rfl
  have hanswer : Reaches (exchangeStep handlers sessionId) NoFailure s _ :=
    .single (.daemon {}) ⟨rfl, rfl⟩ hstep
  exact ⟨s', hanswer.trans hreach, hend⟩

theorem Exchange.Refused.reaches_end (h : s.Refused r) :
    ∃ s', Reaches (exchangeStep handlers sessionId) NoFailure s s' ∧ s'.host.result = some r := by
  rw [← h.refusal]
  cases h.stage with
  | start hstart hrunning hdaemon htoHost =>
    obtain ⟨host, hnext, hwaits⟩ := hostStep_atStart hstart 0
    obtain ⟨hopener, -, hrefusal, -⟩ := hostStep_job hnext
    have hstep : s.hostDoes (.next 0) = some { s with host, toDaemon := [s.host.opener] } := by
      simp only [Exchange.hostDoes, hnext, Option.map_some, hdaemon, List.append_nil, List.nil_append]
    have hasked : s.host.opener :: [] = host.opener :: [] := by rw [hopener]
    obtain ⟨s', hreach, hend⟩ := (h.next hstep).end_of_asked hwaits hrunning hasked htoHost
    have hopen : Reaches (exchangeStep handlers sessionId) NoFailure s
        { s with host, toDaemon := [s.host.opener] } :=
      .single (.host (.next 0)) trivial hstep
    exact ⟨s', hopen.trans hreach, hend.trans (by rw [hrefusal])⟩
  | asked hwaits hrunning rest hdaemon htoHost =>
    exact h.end_of_asked hwaits hrunning hdaemon htoHost
  | answered hwaits rest htoHost => exact Exchange.Stage.end_of_answered hwaits htoHost
  | ended hend => exact ⟨s, .refl, hend⟩

end

/-- In no run without failures does a transfer complete, in either direction, whatever
the content and the paths; and from every state of such a run the handler can still end,
with the error its direction ends in. -/
theorem transfer_never_completes (handlers : DaemonHandlers) (sessionId : UInt32)
    {s₀ s : Exchange} (hs : s₀.Starts)
    (h : Reaches (exchangeStep handlers sessionId) NoFailure s₀ s) :
    ¬ s₀.Completes s ∧ (∀ result, s.host.result = some result → result = s₀.host.refusal) ∧
      ∃ s', Reaches (exchangeStep handlers sessionId) NoFailure s s' ∧
        s'.host.result = some s₀.host.refusal := by
  have hrefused := h.invariant Exchange.Refused.step hs.refused
  refine ⟨?_, ?_, hrefused.reaches_end⟩
  · rintro ⟨-, ⟨text, htext, -⟩, -⟩
    rw [hrefused.silent] at htext
    cases htext
  · intro result hresult
    cases hrefused.stage with
    | start hstart => cases hresult.symm.trans hstart.result
    | asked hwaits | answered hwaits => cases hresult.symm.trans hwaits.result
    | ended hend =>
      rw [hresult, hrefused.refusal] at hend
      exact Option.some.inj hend

/-- A daemon whose other handlers do nothing. -/
def exampleHandlers : DaemonHandlers := ⟨fun d _ => (d, [], .ok ()), fun _ => false⟩

def exampleSendJob : SendJob := ⟨7, "a.txt", "/data/a.txt", [104, 105]⟩

theorem sendStart_example :
    sendStart 7 ["file", "send", "-cwd", "/home/", "a.txt", "/data/a.txt"]
      (Function.update (fun _ => none) "/home/a.txt" (some [104, 105])) = .ok exampleSendJob := by
  decide

def exampleRecvJob : RecvJob := ⟨7, "/data/a.txt", "a.txt"⟩

theorem recvStart_example :
    recvStart 7 ["file", "recv", "/data/a.txt", "a.txt"] = .ok exampleRecvJob := by decide

/-- A file of two bytes is sent to a device without files. -/
def exampleSendStart : Exchange :=
  ⟨.sending exampleSendJob .wakeup, [], ⟨fun _ => none, fun _ => none⟩, true, [], []⟩

/-- A file of two bytes is received. -/
def exampleRecvStart : Exchange :=
  ⟨.receiving exampleRecvJob ⟨.init, none⟩, [], ⟨fun _ => none, fun _ => some [104, 105]⟩, true,
    [], []⟩

/-- The daemon answers the wake-up with an echo, `FileCheck` is sent, and the host reads
the echo. -/
def exampleSend : Option Exchange :=
  run (exchangeStep exampleHandlers 5) NoFailure exampleSendStart
    [.host (.next 0), .daemon {}, .host (.next 0), .deliver]

theorem exampleSend_isSome : exampleSend.isSome = true := by decide

/-- The daemon answers `FileInit` with an echo, and the host reads it. -/
def exampleRecv : Option Exchange :=
  run (exchangeStep exampleHandlers 5) NoFailure exampleRecvStart
    [.host (.next 0), .daemon {}, .deliver]

theorem exampleRecv_isSome : exampleRecv.isSome = true := by decide

theorem transfer_never_completes_examples :
    ¬ exampleSendStart.Completes (exampleSend.get exampleSend_isSome) ∧
    ¬ exampleRecvStart.Completes (exampleRecv.get exampleRecv_isSome) :=
  ⟨(transfer_never_completes exampleHandlers 5 (.send _ sendStart_example)
      (.of_run (Option.some_get (x := exampleSend) exampleSend_isSome).symm)).1,
    (transfer_never_completes exampleHandlers 5
      (.recv _ recvStart_example (by decide) (by decide))
      (.of_run (Option.some_get (x := exampleRecv) exampleRecv_isSome).symm)).1⟩

/-- Both handlers end with an error, the client has been told nothing, and there is no
destination file. -/
theorem transfers_are_refused :
    Reaches (exchangeStep exampleHandlers 5) NoFailure exampleSendStart
      (exampleSend.get exampleSend_isSome) ∧
    (exampleSend.get exampleSend_isSome).host.result =
      some (invalidData "Expected FileBegin, got KernelEcho") ∧
    (exampleSend.get exampleSend_isSome).client = [] ∧
    (exampleSend.get exampleSend_isSome).destination = none ∧
    Reaches (exchangeStep exampleHandlers 5) NoFailure exampleRecvStart
      (exampleRecv.get exampleRecv_isSome) ∧
    (exampleRecv.get exampleRecv_isSome).host.result =
      some (invalidData "Expected FileCheck, got KernelEcho") ∧
    (exampleRecv.get exampleRecv_isSome).client = [] ∧
    (exampleRecv.get exampleRecv_isSome).destination = none :=
  ⟨.of_run (Option.some_get (x := exampleSend) exampleSend_isSome).symm,
    by decide, by decide, by decide,
    .of_run (Option.some_get (x := exampleRecv) exampleRecv_isSome).symm,
    by decide, by decide, by decide⟩

end Hdc
