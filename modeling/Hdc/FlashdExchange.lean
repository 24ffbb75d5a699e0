import Hdc.AppHost
import Hdc.FileChunk
import Hdc.SessionExchange
import Mathlib.Data.List.Chain

/- The `flash` commands between this server and this daemon. The server checks in, waits to be let
   begin, streams the image and waits for the report (`handle_server_flashd`); the daemon's stub lets
   it begin, takes the chunks without a word and reports (`handle_flashd_task`).

   `flashd_ends`: a command comes to an end in any case, however the messages are delayed, whatever
   else is sent on the session and whatever fails on the server's side. It ends well if nothing
   fails. If it ends well, the daemon has served the check, the chunks of the image in order and the
   closing message, and nothing else on the channel; and the client has been shown percentages,
   never one twice in a row, and the report. -/
namespace Hdc
open Rust Wire Lts

/-! The two ends. -/

def FlashdAct.receives : FlashdAct → Bool
  | .recv _ => true
  | _ => false

def FlashdPhase.listens : FlashdPhase → Bool
  | .start | .ended _ => false
  | _ => true

def flashdEnd (percent : UInt64 → UInt64 → UInt8) (job : FlashdJob) :
    HandlerEnd FlashdPhase FlashdAct FlashdOut where
  handler := flashd percent job
  channelId := job.channelId
  recv := .recv
  receives := FlashdAct.receives
  listens := FlashdPhase.listens

/-- The answers of the daemon to the messages of the handler. The commands that stream an image are
not known to it as messages. -/
def flashdAnswers (msg : TaskMessage) : List TaskMessage :=
  match msg.command with
  | .flashdUpdateInit | .flashdFlashInit =>
    [echoClient msg.channelId "Command not implemented" .fail]
  | _ => handleFlashdTask msg

/-- The commands `handle_server_flashd` is called for. -/
def FlashdJob.Flashes (job : FlashdJob) : Prop :=
  job.cmd ∈ [.flashdUpdateInit, .flashdFlashInit, .flashdErase, .flashdFormat]

instance (job : FlashdJob) : Decidable job.Flashes := inferInstanceAs (Decidable (_ ∈ _))

/-- Steps over an image. Whether the input and output of the handler may fail is left open. -/
def FlashdMay (mayFail : Prop) (image : List UInt8) : EndAct FlashdAct → Prop
  | .send | .take | .own .next | .own (.read _) => True
  | .own (.metadata content) => content = image
  | _ => mayFail

section
variable {percent : UInt64 → UInt64 → UInt8} {job : FlashdJob} {sessionId : UInt32}
  {mayFail : Prop} {image : List UInt8} {file : Option String}

theorem handleFlashdTask_no_heartbeat (msg : TaskMessage) :
    ∀ answer ∈ handleFlashdTask msg, answer.command ≠ .heartbeatMsg := by
  unfold handleFlashdTask
  split
  · simp
  · split <;> simp [flashdCompleted]
  · simp [flashdCompleted]
  · simp [flashdCompleted]
  · simp

theorem flashdAnswers_no_heartbeat (msg : TaskMessage) :
    ∀ answer ∈ flashdAnswers msg, answer.command ≠ .heartbeatMsg := by
  unfold flashdAnswers
  split
  · simp [echoClient]
  · simp [echoClient]
  · exact handleFlashdTask_no_heartbeat msg

/-- A message to the stub is answered as the stub answers it, whatever the state of the daemon. -/
theorem answered_flashd {command : HdcCommand} (payload : List UInt8)
    (h : command ∈ [.flashdUpdateInit, .flashdFlashInit, .flashdErase, .flashdFormat, .flashdCheck,
      .flashdData, .flashdFinish]) :
    Answered sessionId job.channelId flashdAnswers ⟨job.channelId, command, payload⟩ := by
  have hbeat := flashdAnswers_no_heartbeat ⟨job.channelId, command, payload⟩
  simp only [List.mem_cons, List.not_mem_nil, or_false] at h
  rcases h with h | h | h | h | h | h | h <;> subst h <;>
    exact ⟨rfl, ⟨nofun, nofun⟩, fun _ _ => rfl, hbeat⟩

theorem FlashdJob.sending_answered (hcmd : job.Flashes) {host : FlashdPhase}
    {p : Sending FlashdPhase} (h : job.sending host = some p) :
    Answered sessionId job.channelId flashdAnswers p.msg := by
  cases host with
  | check | data | finish =>
    cases h
    exact answered_flashd _ (by simp)
  | command =>
    cases h
    apply answered_flashd
    exact List.mem_append_left [.flashdCheck, .flashdData, .flashdFinish] hcmd
  | _ => cases h

/-! What is sent and shown. -/

def FlashdJob.dataMsgs (job : FlashdJob) (pieces : List (List UInt8)) : List TaskMessage :=
  (chunkPayloads 0 pieces).map (⟨job.channelId, .flashdData, ·⟩)

def FlashdJob.commandMsg (job : FlashdJob) : TaskMessage :=
  ⟨job.channelId, job.cmd, utf8 (String.intercalate " " job.params)⟩

def FlashdJob.finishMsg (job : FlashdJob) : TaskMessage := ⟨job.channelId, .flashdFinish, [1]⟩

def flashdReport : String := "\r\nflashd stub completed\r\n"

def flashdTexts (out : List FlashdOut) : List String := out.flatMap FlashdOut.texts

/-- The percentages shown, the last of them `lastPercent`. -/
structure Shown (lastPercent : UInt8) (texts : List String) : Prop where
  shown : ∃ percents : List UInt8, texts = percents.map FlashdJob.processing ∧
    percents.IsChain (· ≠ ·) ∧ percents.getLast? = some lastPercent

theorem Shown.first : Shown 0 [FlashdJob.processing 0] :=
  ⟨[0], rfl, .singleton 0, rfl⟩

theorem Shown.next {lastPercent : UInt8} {texts : List String} (h : Shown lastPercent texts)
    (done : UInt8) :
    Shown done (texts ++ if done ≠ lastPercent then [FlashdJob.processing done] else []) := by
  obtain ⟨percents, rfl, hchain, hlast⟩ := h
  split
  · rename_i hne
    refine ⟨percents ++ [done], by simp, hchain.append (.singleton done) ?_, by simp⟩
    rw [hlast]
    simpa using Ne.symm hne
  · rename_i heq
    rw [Decidable.not_not.mp heq]
    exact ⟨percents, by simp, hchain, hlast⟩

/-- The image up to `rest` has been read in pieces, and all of them have been sent. -/
structure FlashdJob.Streamed (job : FlashdJob) (image : List UInt8) (file : Option String)
    (offset : UInt64) (rest : List UInt8) (sent : List TaskMessage) : Prop where
  pieces : ∃ localPath, file = some localPath ∧ ∃ pieces : List (List UInt8),
    pieces.flatten ++ rest = image ∧ offset = UInt64.ofNat pieces.flatten.length ∧
    (∀ c ∈ pieces, c ≠ [] ∧ c.length ≤ chunkSize) ∧
    sent = job.flashdCheck localPath image :: job.dataMsgs pieces

theorem FlashdJob.Streamed.first (localPath : String) :
    job.Streamed image (some localPath) 0 image [job.flashdCheck localPath image] :=
  ⟨localPath, rfl, [], rfl, rfl, by simp, rfl⟩

theorem FlashdJob.Streamed.next {offset : UInt64} {buf rest : List UInt8} {sent : List TaskMessage}
    (h : job.Streamed image file offset (buf ++ rest) sent) (hbuf : buf ≠ [])
    (hlen : buf.length ≤ chunkSize) :
    job.Streamed image file (offset + UInt64.ofNat buf.length) rest
      (sent ++
        [⟨job.channelId, .flashdData, paddedHead (chunkHead offset buf.length) ++ buf⟩]) := by
  obtain ⟨localPath, hfile, pieces, hflat, hoffset, hpieces, rfl⟩ := h
  refine ⟨localPath, hfile, pieces ++ [buf], by simpa using hflat, by simp [hoffset], ?_, ?_⟩
  · intro c hc
    rcases List.mem_append.mp hc with hc | hc
    · exact hpieces c hc
    · rw [List.mem_singleton.mp hc]
      exact ⟨hbuf, hlen⟩
  · have hpayloads := chunkPayloads_concat (fun c hc => (hpieces c hc).1) hbuf 0
    simp only [FlashdJob.dataMsgs, hpayloads, List.map_append, List.map_cons, List.map_nil,
      List.cons_append, UInt64.zero_add, hoffset]

/-- All of a command, and what is shown up to its report. -/
def FlashdJob.Sent (job : FlashdJob) (image : List UInt8) (sent : List TaskMessage)
    (texts : List String) : Option String → Prop
  | some localPath => ∃ reads : FileReads image, ∃ percents : List UInt8,
      sent = job.flashdCheck localPath image :: job.dataMsgs reads.pieces ++ [job.finishMsg] ∧
      percents.IsChain (· ≠ ·) ∧ texts = percents.map FlashdJob.processing
  | none => sent = [job.commandMsg] ∧ texts = []

theorem FlashdJob.Streamed.sent {offset : UInt64} {sent : List TaskMessage} {texts : List String}
    (h : job.Streamed image file offset [] sent) (hshown : ∃ lastPercent, Shown lastPercent texts) :
    job.Sent image (sent ++ [job.finishMsg]) texts file := by
  obtain ⟨localPath, rfl, pieces, hflat, -, hpieces, rfl⟩ := h
  obtain ⟨_, percents, htexts, hchain, -⟩ := hshown
  rw [List.append_nil] at hflat
  exact ⟨⟨pieces, hflat, fun c hc => (hpieces c hc).1, fun c hc => (hpieces c hc).2⟩, percents,
    rfl, hchain, htexts⟩

/-! The dialog. -/

/-- Where the dialog is, by the phase of the handler: what has been sent and shown, and what is
owed. -/
def FlashdJob.Stage (job : FlashdJob) (mayFail : Prop) (image : List UInt8)
    (file : Option String) (d : Dialog FlashdPhase FlashdOut) : Prop :=
  match d.host with
  | .start => d.owed = [] ∧ d.sent = [] ∧ flashdTexts d.out = []
  | .metadata localPath =>
    file = some localPath ∧ d.owed = [] ∧ d.sent = [] ∧ flashdTexts d.out = []
  | .check localPath content =>
    content = image ∧ file = some localPath ∧ d.owed = [] ∧ d.sent = [] ∧ flashdTexts d.out = []
  | .waitBegin content =>
    content = image ∧ job.Streamed image file 0 image d.sent ∧
      d.owed = [⟨job.channelId, .flashdBegin, []⟩] ∧ flashdTexts d.out = []
  | .opening content =>
    content = image ∧ job.Streamed image file 0 image d.sent ∧ d.owed = [] ∧
      Shown 0 (flashdTexts d.out)
  | .reading _ offset rest lastPercent | .progress _ offset rest lastPercent =>
    job.Streamed image file offset rest d.sent ∧ d.owed = [] ∧
      Shown lastPercent (flashdTexts d.out)
  | .data _ offset buf rest lastPercent =>
    job.Streamed image file offset (buf ++ rest) d.sent ∧ buf ≠ [] ∧ buf.length ≤ chunkSize ∧
      d.owed = [] ∧ Shown lastPercent (flashdTexts d.out)
  | .finish =>
    (∃ offset, job.Streamed image file offset [] d.sent) ∧ d.owed = [] ∧
      ∃ lastPercent, Shown lastPercent (flashdTexts d.out)
  | .command => file = none ∧ d.owed = [] ∧ d.sent = [] ∧ flashdTexts d.out = []
  | .waitFinish =>
    d.owed = [flashdCompleted job.channelId] ∧ job.Sent image d.sent (flashdTexts d.out) file
  | .unregister (.ok ()) | .ended (.ok ()) =>
    d.owed = [] ∧ (∃ o ∈ d.out, o.mayEnd = true) ∧
      ∃ texts, flashdTexts d.out = texts ++ [flashdReport] ∧ job.Sent image d.sent texts file
  | .unregister (.error _) | .ended (.error _) => mayFail

/-- The steps left at most; a chunk takes three, of which the read takes bytes off the rest. -/
@[simp] def FlashdPhase.work (image : List UInt8) : FlashdPhase → Nat
  | .start => 15 + 6 * image.length
  | .metadata _ => 14 + 6 * image.length
  | .check _ _ => 13 + 6 * image.length
  | .waitBegin _ => 12 + 6 * image.length
  | .opening _ => 11 + 6 * image.length
  | .reading _ _ rest _ => 7 + 6 * rest.length
  | .data _ _ _ rest _ => 12 + 6 * rest.length
  | .progress _ _ rest _ => 8 + 6 * rest.length
  | .finish => 6
  | .command => 3
  | .waitFinish => 2
  | .unregister _ => 1
  | .ended _ => 0

theorem flashdTexts_append (out : List FlashdOut) (o : FlashdOut) :
    flashdTexts (out ++ [o]) = flashdTexts out ++ o.texts := by
  simp [flashdTexts]

@[simp] theorem flashdTexts_silent {out : List FlashdOut} {o : FlashdOut} (h : o.texts = []) :
    flashdTexts (out ++ [o]) = flashdTexts out := by
  rw [flashdTexts_append, h, List.append_nil]

/-- A command without an image is none of the two that stream one. -/
theorem flashdFile_none {cmd : HdcCommand} {params : List String}
    (h : flashdFile cmd params = .ok none) :
    ¬ (cmd = .flashdUpdateInit ∨ cmd = .flashdFlashInit) := by
  intro hcmd
  rw [flashdFile, if_pos hcmd] at h
  cases hargs : parseFlashdFileArgs params (cmd = .flashdUpdateInit) with
  | error err =>
    rw [hargs] at h
    cases h
  | ok args =>
    obtain ⟨localPath, force⟩ := args
    rw [hargs] at h
    cases hvalid : validateFlashdFile localPath with
    | error err => simp [hvalid, bind, Except.bind] at h
    | ok _ => simp [hvalid, bind, Except.bind, pure, Except.pure] at h

section
variable {host host' : FlashdPhase} {out : List FlashdOut} {owed sent : List TaskMessage}

theorem FlashdJob.Stage.send {p : Sending FlashdPhase} (hcmd : job.Flashes)
    (hfile : flashdFile job.cmd job.params = .ok file)
    (h : job.Stage mayFail image file ⟨host, out, owed, sent⟩) (hp : job.sending host = some p) :
    job.Stage mayFail image file ⟨p.next, out, owed ++ flashdAnswers p.msg, sent ++ [p.msg]⟩ ∧
      p.next.work image < host.work image := by
  cases host with
  | check localPath content =>
    cases hp
    obtain ⟨rfl, rfl, rfl, rfl, htexts⟩ := h
    exact ⟨⟨rfl, .first localPath, rfl, htexts⟩, by simp⟩
  | data fileSize offset buf rest lastPercent =>
    cases hp
    obtain ⟨hsent, hbuf, hlen, rfl, hshown⟩ := h
    exact ⟨⟨hsent.next hbuf hlen, rfl, hshown⟩, by simp⟩
  | finish =>
    cases hp
    obtain ⟨⟨offset, hsent⟩, rfl, hshown⟩ := h
    exact ⟨⟨rfl, hsent.sent hshown⟩, by simp⟩
  | command =>
    cases hp
    obtain ⟨rfl, rfl, rfl, htexts⟩ := h
    have hnone := flashdFile_none hfile
    have hanswer : flashdAnswers job.commandMsg = [flashdCompleted job.channelId] := by
      simp only [FlashdJob.Flashes, List.mem_cons, List.not_mem_nil, or_false] at hcmd
      rcases hcmd with hcmd | hcmd | hcmd | hcmd
      · exact absurd (.inl hcmd) hnone
      · exact absurd (.inr hcmd) hnone
      · simp [flashdAnswers, FlashdJob.commandMsg, hcmd, handleFlashdTask]
      · simp [flashdAnswers, FlashdJob.commandMsg, hcmd, handleFlashdTask]
    exact ⟨⟨hanswer, rfl, htexts⟩, by simp⟩
  | _ => cases hp

theorem FlashdJob.step_read (fileSize offset : UInt64) (rest : List UInt8) (lastPercent : UInt8)
    (n : Nat) :
    job.step percent (.reading fileSize offset rest lastPercent) (.read n) =
      if 0 < n ∧ n ≤ chunkSize ∧ n ≤ rest.length then
        some (.data fileSize offset (rest.take n) (rest.drop n) lastPercent, {})
      else none := by
  cases rest <;> rfl

/-- A step that fails, or waits in vain, gives the command up. -/
theorem FlashdJob.step_fails (image : List UInt8) {act : FlashdAct} {o : FlashdOut}
    (hact : act = .closed ∨ act = .timeout ∨ ∃ err, act = .fail err)
    (hst : job.step percent host act = some (host', o)) :
    (∃ err, host' = .unregister (.error err)) ∧ 1 < host.work image := by
  rcases hact with rfl | rfl | ⟨err, rfl⟩
  all_goals
    cases host with
    | reading fileSize offset rest lastPercent =>
      cases rest <;> cases hst <;> exact ⟨⟨_, rfl⟩, by simp only [FlashdPhase.work]; omega⟩
    | _ => cases hst <;> exact ⟨⟨_, rfl⟩, by simp only [FlashdPhase.work]; omega⟩

theorem FlashdJob.Stage.own {act : FlashdAct} {o : FlashdOut}
    (hfile : flashdFile job.cmd job.params = .ok file)
    (h : job.Stage mayFail image file ⟨host, out, owed, sent⟩)
    (hmay : FlashdMay mayFail image (.own act)) (hown : act.receives = false)
    (hst : job.step percent host act = some (host', o)) :
    job.Stage mayFail image file ⟨host', out ++ [o], owed, sent⟩ ∧
      host'.work image < host.work image := by
  cases act with
  | recv task => cases hown
  | next =>
    cases host with
    | start =>
      cases hst
      obtain ⟨rfl, rfl, htexts⟩ := h
      have hsilent : flashdTexts (out ++ [{ registered := true }]) = [] := by simpa using htexts
      rw [FlashdJob.begin, hfile]
      cases file with
      | some localPath => exact ⟨⟨rfl, rfl, rfl, hsilent⟩, by simp⟩
      | none => exact ⟨⟨rfl, rfl, rfl, hsilent⟩, by simp; omega⟩
    | opening content =>
      cases hst
      obtain ⟨rfl, hsent, rfl, hshown⟩ := h
      exact ⟨⟨hsent, rfl, by simpa using hshown⟩, by simp⟩
    | reading fileSize offset rest lastPercent =>
      cases rest with
      | nil =>
        cases hst
        obtain ⟨hsent, rfl, hshown⟩ := h
        exact ⟨⟨⟨offset, hsent⟩, rfl, lastPercent, by simpa using hshown⟩,
          by simp⟩
      | cons b rest => cases hst
    | progress fileSize offset rest lastPercent =>
      cases hst
      obtain ⟨hsent, rfl, hshown⟩ := h
      refine ⟨⟨hsent, rfl, ?_⟩, by simp⟩
      rw [flashdTexts_append]
      exact hshown.next _
    | unregister result =>
      cases hst
      cases result with
      | ok done =>
        obtain ⟨rfl, ⟨o, ho, hend⟩, texts, htexts, hsent⟩ := h
        exact ⟨⟨rfl, ⟨o, List.mem_append_left _ ho, hend⟩, texts, by simpa using htexts, hsent⟩,
          by simp⟩
      | error err => exact ⟨h, by simp⟩
    | _ => cases hst
  | metadata content =>
    cases host with
    | metadata localPath =>
      cases hst
      obtain ⟨rfl, rfl, rfl, htexts⟩ := h
      exact ⟨⟨hmay, rfl, rfl, rfl, by simpa using htexts⟩, by simp⟩
    | reading fileSize offset rest lastPercent => cases rest <;> cases hst
    | _ => cases hst
  | read n =>
    cases host with
    | reading fileSize offset rest lastPercent =>
      obtain ⟨hsent, rfl, hshown⟩ := h
      rw [job.step_read] at hst
      split at hst
      · rename_i hn
        cases hst
        refine ⟨⟨?_, ?_, ?_, rfl, by simpa using hshown⟩, ?_⟩
        · rwa [List.take_append_drop]
        · exact List.ne_nil_of_length_pos (by simp; omega)
        · simp; omega
        · simp; omega
      · cases hst
    | _ => cases hst
  | closed =>
    obtain ⟨⟨err, rfl⟩, hwork⟩ := job.step_fails image (.inl rfl) hst
    exact ⟨hmay, hwork⟩
  | timeout =>
    obtain ⟨⟨err, rfl⟩, hwork⟩ := job.step_fails image (.inr (.inl rfl)) hst
    exact ⟨hmay, hwork⟩
  | fail err =>
    obtain ⟨⟨err, rfl⟩, hwork⟩ := job.step_fails image (.inr (.inr ⟨err, rfl⟩)) hst
    exact ⟨hmay, hwork⟩

theorem FlashdJob.onBegin_begin (content : List UInt8) :
    job.onBegin content ⟨job.channelId, .flashdBegin, []⟩ =
      (.opening content, { texts := [FlashdJob.processing 0] }) := by
  simp [FlashdJob.onBegin]

theorem FlashdJob.onFinish_completed :
    job.onFinish (flashdCompleted job.channelId) =
      (.unregister (.ok ()), { texts := [flashdReport], mayEnd := true }) := by
  have htext : "flashd stub completed" ≠ "" := by decide
  simp [FlashdJob.onFinish, flashdCompleted, FlashdJob.onFlashdFinish, htext, flashdReport]

theorem FlashdJob.Stage.take {task : TaskMessage} {o : FlashdOut}
    (h : job.Stage mayFail image file ⟨host, out, task :: owed, sent⟩)
    (hst : job.step percent host (.recv task) = some (host', o)) :
    job.Stage mayFail image file ⟨host', out ++ [o], owed, sent⟩ ∧
      host'.work image < host.work image := by
  cases host with
  | waitBegin content =>
    obtain ⟨rfl, hsent, howed, htexts⟩ := h
    obtain ⟨rfl, rfl⟩ := List.cons.inj howed
    have hst : some (job.onBegin content _) = some (host', o) := hst
    rw [job.onBegin_begin] at hst
    cases hst
    refine ⟨⟨rfl, hsent, rfl, ?_⟩, by simp⟩
    rw [flashdTexts_append, htexts]
    exact .first
  | waitFinish =>
    obtain ⟨howed, hsent⟩ := h
    obtain ⟨rfl, rfl⟩ := List.cons.inj howed
    have hst : some (job.onFinish _) = some (host', o) := hst
    rw [job.onFinish_completed] at hst
    cases hst
    exact ⟨⟨rfl, ⟨_, List.mem_append_right _ (List.mem_singleton_self _), rfl⟩,
      flashdTexts out, flashdTexts_append out _, hsent⟩, by simp⟩
  | reading fileSize offset rest lastPercent => cases rest <;> cases hst
  | _ => cases hst

end

/-- The dialog goes from stage to stage, and down up to its end. -/
theorem FlashdJob.Stage.step {d d' : Dialog FlashdPhase FlashdOut} {a : DialogAct FlashdAct}
    (hcmd : job.Flashes) (hfile : flashdFile job.cmd job.params = .ok file)
    (h : job.Stage mayFail image file d) (hmay : DialogOk (FlashdMay mayFail image) d a)
    (hst : dialogStep (flashdEnd percent job) flashdAnswers d a = some d') :
    job.Stage mayFail image file d' ∧
      ((∀ result, d.host ≠ .ended result) → d'.host.work image < d.host.work image) := by
  obtain ⟨host, out, owed, sent⟩ := d
  obtain ⟨p, rfl, hp, rfl⟩ | ⟨err, p, rfl, hp, rfl⟩ | ⟨act, host', o, rfl, hown, hact, rfl⟩ |
    ⟨task, owed, host', o, rfl, rfl, htake, rfl⟩ | ⟨i, rfl, hdeaf, hi, rfl⟩ := dialogStep_cases hst
  · obtain ⟨hstage, hwork⟩ := h.send hcmd hfile hp
    exact ⟨hstage, fun _ => hwork⟩
  · refine ⟨?_, fun _ => ?_⟩
    · cases host <;> cases hp <;> exact hmay
    · cases host <;> cases hp <;> simp <;> omega
  · obtain ⟨hstage, hwork⟩ := h.own hfile hmay hown hact
    exact ⟨hstage, fun _ => hwork⟩
  · obtain ⟨hstage, hwork⟩ := h.take htake
    exact ⟨hstage, fun _ => hwork⟩
  · -- before the start nothing is owed, and after a good end nothing is left of it
    cases host with
    | start =>
      obtain ⟨rfl, -⟩ := h
      cases hi
    | ended result =>
      cases result with
      | ok done =>
        obtain ⟨rfl, -⟩ := h
        cases hi
      | error err => exact ⟨h, fun hgoing => absurd rfl (hgoing _)⟩
    | _ => cases hdeaf

/-- Until the end there is a step to take that is no failure. -/
theorem FlashdJob.Stage.live {d : Dialog FlashdPhase FlashdOut} (h : job.Stage mayFail image file d)
    (hgoing : ∀ result, d.host ≠ .ended result) :
    Enabled (dialogStep (flashdEnd percent job) flashdAnswers)
      (DialogMust (FlashdMay False image)) d := by
  obtain ⟨host, out, owed, sent⟩ := d
  cases host with
  | start | opening | progress | unregister => exact ⟨.handler (.own .next), _, trivial, rfl⟩
  | metadata localPath => exact ⟨.handler (.own (.metadata image)), _, rfl, rfl⟩
  | check | data | finish | command => exact ⟨.handler .send, _, trivial, rfl⟩
  | waitBegin content =>
    obtain ⟨-, -, rfl, -⟩ := h
    exact ⟨.handler .take, _, trivial, rfl⟩
  | waitFinish =>
    obtain ⟨rfl, -⟩ := h
    exact ⟨.handler .take, _, trivial, rfl⟩
  | reading fileSize offset rest lastPercent =>
    cases rest with
    | nil => exact ⟨.handler (.own .next), _, trivial, rfl⟩
    | cons b rest =>
      have hread : job.step percent (.reading fileSize offset (b :: rest) lastPercent) (.read 1) =
          some (.data fileSize offset [b] rest lastPercent, {}) := by
        rw [job.step_read, if_pos ⟨by decide, by decide, by simp⟩]
        rfl
      have hok : FlashdMay False image (.own (.read 1)) := trivial
      exact enabled_own hok rfl hread
  | ended result => exact absurd rfl (hgoing result)

/-- What the daemon has served of a command that has been done, and what the client has been
shown. -/
def FlashdJob.Done (job : FlashdJob) (image : List UInt8) (file : Option String)
    (s : SharedRun FlashdPhase FlashdOut) : Prop :=
  (∃ o ∈ s.out, o.mayEnd = true) ∧ ∃ texts, flashdTexts s.out = texts ++ [flashdReport] ∧
    job.Sent image (onChannel job.channelId s.served) texts file

/-- The daemon answers the last message of a command. -/
theorem FlashdJob.Sent.answered {sent : List TaskMessage} {texts : List String}
    (hcmd : job.Flashes) (h : job.Sent image sent texts file) :
    ∃ msgs msg, sent = msgs ++ [msg] ∧ flashdAnswers msg ≠ [] := by
  cases file with
  | some localPath =>
    obtain ⟨reads, percents, rfl, -⟩ := h
    exact ⟨_, job.finishMsg, rfl, nofun⟩
  | none =>
    obtain ⟨rfl, -⟩ := h
    refine ⟨[], job.commandMsg, rfl, ?_⟩
    simp only [FlashdJob.Flashes, List.mem_cons, List.not_mem_nil, or_false] at hcmd
    rcases hcmd with hcmd | hcmd | hcmd | hcmd <;>
      simp [flashdAnswers, FlashdJob.commandMsg, hcmd, handleFlashdTask]

/-- By the end of the dialog the daemon has served all of it. -/
theorem FlashdJob.Stage.done {s : SharedRun FlashdPhase FlashdOut} (hcmd : job.Flashes)
    (h : job.Stage mayFail image file (s.dialog (flashdEnd percent job) flashdAnswers))
    (hend : s.host = .ended (.ok ())) : job.Done image file s := by
  have hhost : (s.dialog (flashdEnd percent job) flashdAnswers).host = _ := hend
  rw [FlashdJob.Stage, hhost] at h
  obtain ⟨howed, hmayEnd, texts, htexts, hsent⟩ := h
  obtain ⟨msgs, msg, hlast, hanswer⟩ := hsent.answered hcmd
  have hserved : onChannel job.channelId s.served = msgs ++ [msg] :=
    SharedRun.served_eq howed hlast hanswer
  rw [hlast, ← hserved] at hsent
  exact ⟨hmayEnd, texts, htexts, hsent⟩

theorem flashdEnd_talksTo (hcmd : job.Flashes) (hfile : flashdFile job.cmd job.params = .ok file) :
    (flashdEnd percent job).TalksTo sessionId flashdAnswers (FlashdMay mayFail image)
      (job.Stage mayFail image file) where
  sends := fun _ hp => job.sending_answered hcmd hp
  step := fun h hmay hst => (h.step hcmd hfile hmay hst).1

/-- A flash command comes to an end in any case, and to a good one if nothing fails; if it has ended
well, the daemon has served all of it. -/
theorem flashd_ends (mayFail : Prop) (hcmd : job.Flashes)
    (hfile : flashdFile job.cmd job.params = .ok file) {s : SharedRun FlashdPhase FlashdOut}
    (hs : s.Opens (flashdEnd percent job) .start) :
    Inevitable (sharedStep (flashdEnd percent job) sessionId) (SharedOk (FlashdMay mayFail image))
      (SharedMust (FlashdMay False image))
      (fun s => ∃ result, s.host = .ended result ∧ (result = .ok () → job.Done image file s) ∧
        (¬ mayFail → result = .ok ())) s := by
  have htalks : (flashdEnd percent job).TalksTo sessionId flashdAnswers (FlashdMay mayFail image)
      (job.Stage mayFail image file) := flashdEnd_talksTo hcmd hfile
  refine (htalks.ends (·.work image) (∃ result, · = .ended result) hs ⟨rfl, rfl, rfl⟩
    (fun d a d' hd hmay hst hgoing => (hd.step hcmd hfile hmay hst).2 (not_exists.mp hgoing))
    fun d hd hgoing => hd.live (not_exists.mp hgoing)).mono ?_
  rintro t ⟨ht, result, hend⟩
  refine ⟨result, hend, ?_, ?_⟩
  · rintro rfl
    exact ht.done hcmd hend
  · intro hfine
    cases result with
    | ok done => rfl
    | error err =>
      rw [FlashdJob.Stage, hend] at ht
      exact absurd ht hfine

def imageUpdate : FlashdJob := ⟨1, 7, .flashdUpdateInit, ["update", "a.img"]⟩

theorem imageUpdate_file :
    flashdFile imageUpdate.cmd imageUpdate.params = .ok (some "a.img") := by
  with_unfolding_all decide

theorem flashd_ends_update :
    ∃ s, Reaches (sharedStep (flashdEnd (fun _ _ => 50) imageUpdate) 1)
      (SharedOk (FlashdMay False [1, 2, 3])) (busySession .start) s ∧
      ∃ result, s.host = .ended result ∧
        (result = .ok () → imageUpdate.Done [1, 2, 3] (some "a.img") s) ∧
        (¬ False → result = .ok ()) :=
  (flashd_ends False (by decide) imageUpdate_file (busySession_opens rfl _)).exists_reaches
    SharedOk.of_must

end
end Hdc
