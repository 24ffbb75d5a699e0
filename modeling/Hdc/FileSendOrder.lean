import Hdc.FileHost
import Hdc.ForwardRegistrations

/- The messages of a `file send`, in their order (`handle_server_file_send` in `hdc/src/server.rs`):
   the call from its parameters to its return, over any replies, failures and other uses of the
   `UsbMap`.

   1. `SendMove` is what a step of the handler can do: the phases it leads from and to, and what it
      sends or takes.
   2. `SendAt` is what has happened when the handler stands in a phase. A step keeps it
      (`SendAt.move`), and so the events of every run are known: one check or two, the second after
      the reply about a directory, and data only after a `FileBegin`.
   3. The events of a run come in the order `MayFollow` allows (`MayFollow.of_move`), and the
      messages are a part of one sequence (`SendAt.sequence`).
   4. The call has one exit behind its registration, and takes it off there. -/
namespace Hdc
open Rust Wire Lts

/-! The call. -/

inductive SendEvent where
  | sent (msg : TaskMessage)
  | got (reply : TaskMessage)
  deriving DecidableEq, Repr

/-- What a step of the handler takes and sends. -/
def sendEvents (act : HostAct) (out : HostOut) : List SendEvent :=
  (match act with
    | .recv task => [.got task]
    | _ => []) ++ out.messages.map .sent

/-- The call of `handle_server_file_send`, with what has happened on its channel. -/
inductive FileSendCall where
  /-- It has returned before its registration. -/
  | refused (e : IoError) (usb : UsbMap)
  | running (job : SendJob) (phase : SendPhase) (usb : UsbMap) (events : List SendEvent)
  | returned (job : SendJob) (result : IoResult Unit) (usb : UsbMap) (events : List SendEvent)

inductive FileSendAct where
  | own (act : HostAct)
  /-- `unregister_response_channel`, and the return. -/
  | unregister
  /-- Another task uses the `UsbMap`. -/
  | other (op : UsbOp)
  deriving DecidableEq, Repr

section
variable (sessionId channelId : UInt32)

def fileSendStart (tx : String) (params : List String) (fs : Fs) (usb : UsbMap) : FileSendCall :=
  match sendStart channelId params fs with
  | .error e => .refused e usb
  | .ok job => .running job .wakeup (usb.registerResponseChannel sessionId channelId tx) []

def fileSendStep : FileSendCall → FileSendAct → Option FileSendCall
  | .running job phase usb events, .own act =>
    (sendStep job phase act).map fun (phase, out) =>
      .running job phase usb (events ++ sendEvents act out)
  | .running job (.ended result) usb events, .unregister =>
    some (.returned job result (usb.unregisterResponseChannel sessionId channelId) events)
  | .running job phase usb events, .other op => some (.running job phase (usb.apply op) events)
  | _, _ => none

end

/-! The messages. -/

def SendJob.wakeup (job : SendJob) : TaskMessage := ⟨job.channelId, .kernelWakeupSlavetask, []⟩

def SendJob.firstCheck (job : SendJob) : TaskMessage := job.fileCheck job.remotePath ""

/-- The path of the second check: the remote path without its separators at the end. -/
def SendJob.directoryPath (job : SendJob) : String :=
  trimEndWhere (fun c => c == '/' || c == '\\') job.remotePath

/-- The second check has the name of the local file as its `optional_name`. -/
def SendJob.secondCheck (job : SendJob) : TaskMessage :=
  job.fileCheck job.directoryPath job.localFilename

/-- A chunk at its offset. -/
def dataMessage (channelId : UInt32) (offset : Nat) (buf : List UInt8) : TaskMessage :=
  ⟨channelId, .fileData, paddedHead (chunkHead (UInt64.ofNat offset) buf.length) ++ buf⟩

/-- The chunks of a file; the index of each is the sum of the lengths before it. -/
def dataMessages (channelId : UInt32) : Nat → List (List UInt8) → List TaskMessage
  | _, [] => []
  | offset, buf :: chunks =>
    dataMessage channelId offset buf :: dataMessages channelId (offset + buf.length) chunks

def SendJob.finish (job : SendJob) : TaskMessage := ⟨job.channelId, .fileFinish, [1]⟩

def SendJob.data (job : SendJob) (chunks : List (List UInt8)) : List TaskMessage :=
  dataMessages job.channelId 0 chunks

def reportsDirectory (reply : TaskMessage) : Bool :=
  contains (fromUtf8Lossy reply.payload) directoryError

theorem dataMessages_concat (channelId : UInt32) (buf : List UInt8) :
    ∀ (chunks : List (List UInt8)) (offset : Nat),
      dataMessages channelId offset (chunks ++ [buf]) = dataMessages channelId offset chunks ++
        [dataMessage channelId (offset + chunks.flatten.length) buf]
  | [], offset => rfl
  | chunk :: chunks, offset => by
    rw [List.cons_append, dataMessages, dataMessages_concat, dataMessages, List.flatten_cons,
      List.length_append, Nat.add_assoc]
    rfl

theorem SendJob.data_concat (job : SendJob) (chunks : List (List UInt8)) (buf : List UInt8) :
    job.data (chunks ++ [buf]) =
      job.data chunks ++ [dataMessage job.channelId chunks.flatten.length buf] := by
  rw [SendJob.data, dataMessages_concat, Nat.zero_add]
  rfl

/-! The steps of the handler. -/

/-- A step, with what it takes and sends. -/
inductive SendMove (job : SendJob) : SendPhase → SendPhase → List SendEvent → Prop where
  | wakeup : SendMove job .wakeup (.check job.remotePath "" false) [.sent job.wakeup]
  | check {path name : String} {retried : Bool} :
    SendMove job (.check path name retried) (.waitBegin path name retried)
      [.sent (job.fileCheck path name)]
  | begun {path name : String} {retried : Bool} {reply : TaskMessage}
    (hbegin : reply.command = .fileBegin) :
    SendMove job (.waitBegin path name retried) .opening [.got reply]
  | directory {path name : String} {reply : TaskMessage} (hdir : reportsDirectory reply = true) :
    SendMove job (.waitBegin path name false)
      (.check (trimEndWhere (fun c => c == '/' || c == '\\') path) job.localFilename true)
      [.got reply]
  | stale {path name : String} {reply : TaskMessage} :
    SendMove job (.waitBegin path name true) (.waitBegin path name true) [.got reply]
  | opened : SendMove job .opening (.reading 0 job.content) []
  | chunk {offset : UInt64} {rest : List UInt8} {n : Nat} (hpos : 0 < n) (hle : n ≤ rest.length) :
    SendMove job (.reading offset rest) (.reading (offset + UInt64.ofNat n) (rest.drop n))
      [.sent ⟨job.channelId, .fileData, paddedHead (chunkHead offset n) ++ rest.take n⟩]
  | finish {offset : UInt64} : SendMove job (.reading offset []) .waitFinish [.sent job.finish]
  | late {reply : TaskMessage} : SendMove job .waitFinish .waitFinish [.got reply]
  | done (replies : List TaskMessage) :
    SendMove job .waitFinish (.ended (.ok ())) (replies.map .got)
  | failed {phase : SendPhase} {e : IoError} (replies : List TaskMessage) :
    SendMove job phase (.ended (.error e)) (replies.map .got)

theorem SendMove.of_onReply {job : SendJob} {path name : String} {retried : Bool}
    {reply : TaskMessage} :
    SendMove job (.waitBegin path name retried) (job.onReply path name retried reply)
      [.got reply] := by
  unfold SendJob.onReply
  split
  · rename_i hbegin
    exact .begun hbegin
  · split
    · rename_i hdir
      rw [hdir.2.2]
      exact .directory hdir.1
    · split
      · rename_i hstale
        rw [hstale.1]
        exact .stale
      · exact .failed [reply]

theorem SendMove.of_onFinish (job : SendJob) (reply : TaskMessage) :
    SendMove job .waitFinish (SendJob.onFinish reply).1 [.got reply] ∧
      (SendJob.onFinish reply).2.messages = [] := by
  unfold SendJob.onFinish
  split
  · split
    · exact ⟨.done [reply], rfl⟩
    · exact ⟨.late, rfl⟩
  · exact ⟨.done [reply], rfl⟩
  · exact ⟨.late, rfl⟩

theorem SendMove.of_step {job : SendJob} {phase phase' : SendPhase} {act : HostAct} {out : HostOut}
    (h : sendStep job phase act = some (phase', out)) :
    SendMove job phase phase' (sendEvents act out) := by
  cases phase with
  | wakeup =>
    cases act with
    | next n =>
      cases h
      exact .wakeup
    | fail e =>
      cases h
      exact .failed []
    | _ => cases h
  | check path name retried =>
    cases act with
    | next n =>
      cases h
      exact .check
    | fail e =>
      cases h
      exact .failed []
    | _ => cases h
  | waitBegin path name retried =>
    cases act with
    | recv task =>
      cases h
      exact .of_onReply
    | closed =>
      cases h
      exact .failed []
    | timeout =>
      cases h
      exact .failed []
    | _ => cases h
  | opening =>
    cases act with
    | next n =>
      cases h
      exact .opened
    | fail e =>
      cases h
      exact .failed []
    | _ => cases h
  | reading offset rest =>
    cases act with
    | next n =>
      cases rest with
      | nil =>
        cases h
        exact .finish
      | cons b rest =>
        obtain ⟨⟨hpos, -, hle⟩, heq⟩ := Option.ite_none_right_eq_some.mp h
        cases heq
        exact .chunk hpos hle
    | fail e =>
      cases rest <;> cases h <;> exact .failed []
    | _ => cases rest <;> cases h
  | waitFinish =>
    cases act with
    | recv task =>
      have heq : SendJob.onFinish task = (phase', out) := Option.some.inj h
      obtain ⟨hmove, hout⟩ := SendMove.of_onFinish job task
      rw [heq] at hmove hout
      rw [sendEvents, hout]
      exact hmove
    | closed =>
      cases h
      exact .done []
    | timeout =>
      cases h
      exact .done []
    | fail e =>
      cases h
      exact .failed []
    | _ => cases h
  | ended result => cases act <;> cases h

/-! What has happened in a phase. -/

/-- A `FileCheck` is out, with these values of the loop's variables. -/
inductive Asked (job : SendJob) : String → String → Bool → List SendEvent → Prop where
  | once : Asked job job.remotePath "" false [.sent job.wakeup, .sent job.firstCheck]
  | twice {reply : TaskMessage} (hdir : reportsDirectory reply = true) (stale : List TaskMessage) :
    Asked job job.directoryPath job.localFilename true
      ([.sent job.wakeup, .sent job.firstCheck, .got reply, .sent job.secondCheck] ++
        stale.map .got)

/-- A `FileCheck` is out, and its `FileBegin` has come. -/
inductive Begun (job : SendJob) : List SendEvent → Prop where
  | mk {path name : String} {retried : Bool} {events : List SendEvent} {reply : TaskMessage}
    (hasked : Asked job path name retried events) (hbegin : reply.command = .fileBegin) :
    Begun job (events ++ [.got reply])

inductive SendAt (job : SendJob) : SendPhase → List SendEvent → Prop where
  | wakeup : SendAt job .wakeup []
  | check : SendAt job (.check job.remotePath "" false) [.sent job.wakeup]
  | recheck {reply : TaskMessage} (hdir : reportsDirectory reply = true) :
    SendAt job (.check job.directoryPath job.localFilename true)
      [.sent job.wakeup, .sent job.firstCheck, .got reply]
  | waitBegin {path name : String} {retried : Bool} {events : List SendEvent}
    (hasked : Asked job path name retried events) :
    SendAt job (.waitBegin path name retried) events
  | opening {events : List SendEvent} (hbegun : Begun job events) : SendAt job .opening events
  | reading {events : List SendEvent} {chunks : List (List UInt8)} {rest : List UInt8}
    (hbegun : Begun job events) (hne : ∀ chunk ∈ chunks, chunk ≠ [])
    (hcontent : chunks.flatten ++ rest = job.content) :
    SendAt job (.reading (UInt64.ofNat chunks.flatten.length) rest)
      (events ++ (job.data chunks).map .sent)
  | waitFinish {events : List SendEvent} {chunks : List (List UInt8)} (hbegun : Begun job events)
    (hne : ∀ chunk ∈ chunks, chunk ≠ []) (hcontent : chunks.flatten = job.content)
    (late : List TaskMessage) :
    SendAt job .waitFinish (events ++ (job.data chunks ++ [job.finish]).map .sent ++ late.map .got)
  | done {events : List SendEvent} {chunks : List (List UInt8)} (hbegun : Begun job events)
    (hne : ∀ chunk ∈ chunks, chunk ≠ []) (hcontent : chunks.flatten = job.content)
    (late : List TaskMessage) :
    SendAt job (.ended (.ok ()))
      (events ++ (job.data chunks ++ [job.finish]).map .sent ++ late.map .got)
  | failed {phase : SendPhase} {events : List SendEvent} {e : IoError} (h : SendAt job phase events)
    (replies : List TaskMessage) : SendAt job (.ended (.error e)) (events ++ replies.map .got)

theorem SendAt.move {job : SendJob} {phase phase' : SendPhase} {events new : List SendEvent}
    (h : SendAt job phase events) (hmove : SendMove job phase phase' new) :
    SendAt job phase' (events ++ new) := by
  cases hmove with
  | wakeup =>
    cases h
    exact .check
  | check =>
    cases h with
    | check => exact .waitBegin .once
    | recheck hdir => exact .waitBegin (.twice hdir [])
  | begun hbegin =>
    cases h with
    | waitBegin hasked => exact .opening ⟨hasked, hbegin⟩
  | directory hdir =>
    cases h with
    | waitBegin hasked =>
      cases hasked
      exact .recheck hdir
  | @stale path name reply =>
    cases h with
    | waitBegin hasked =>
      cases hasked with
      | twice hdir stale =>
        rw [List.append_assoc, show [SendEvent.got reply] = [reply].map .got from rfl,
          ← List.map_append]
        exact .waitBegin (.twice hdir (stale ++ [reply]))
  | opened =>
    cases h with
    | opening hbegun =>
      have hnone : ∀ chunk ∈ ([] : List (List UInt8)), chunk ≠ [] := by simp
      exact .reading hbegun hnone rfl
  | @chunk offset rest n hpos hle =>
    cases h with
    | @reading events chunks _ hbegun hne hcontent =>
      have hchunk : rest.take n ≠ [] := by
        rw [Ne, List.take_eq_nil_iff]
        rintro (rfl | rfl)
        · exact absurd hpos (Nat.lt_irrefl 0)
        · exact absurd (Nat.lt_of_lt_of_le hpos hle) (Nat.lt_irrefl 0)
      have hlen : (chunks ++ [rest.take n]).flatten.length = chunks.flatten.length + n := by
        rw [List.flatten_append, List.length_append, List.flatten_singleton,
          List.length_take_of_le hle]
      have hmsg : (⟨job.channelId, .fileData, paddedHead (chunkHead
          (UInt64.ofNat chunks.flatten.length) n) ++ rest.take n⟩ : TaskMessage) =
          dataMessage job.channelId chunks.flatten.length (rest.take n) := by
        rw [dataMessage, List.length_take_of_le hle]
      have hrest : (chunks ++ [rest.take n]).flatten ++ rest.drop n = job.content := by
        rw [List.flatten_append, List.flatten_singleton, List.append_assoc, List.take_append_drop,
          hcontent]
      have hchunks : ∀ chunk ∈ chunks ++ [rest.take n], chunk ≠ [] :=
        List.forall_mem_append.mpr ⟨hne, by simpa using hchunk⟩
      have hnext := SendAt.reading hbegun hchunks hrest
      rw [hlen, UInt64.ofNat_add, SendJob.data_concat, List.map_append, ← List.append_assoc,
        ← hmsg] at hnext
      exact hnext
  | finish =>
    cases h with
    | @reading events chunks _ hbegun hne hcontent =>
      rw [List.append_nil] at hcontent
      have := SendAt.waitFinish hbegun hne hcontent []
      rwa [List.map_append, ← List.append_assoc, List.map_nil, List.append_nil] at this
  | @late reply =>
    cases h with
    | waitFinish hbegun hne hcontent late =>
      rw [List.append_assoc, show [SendEvent.got reply] = [reply].map .got from rfl,
        ← List.map_append]
      exact .waitFinish hbegun hne hcontent (late ++ [reply])
  | done replies =>
    cases h with
    | waitFinish hbegun hne hcontent late =>
      rw [List.append_assoc, ← List.map_append]
      exact .done hbegun hne hcontent (late ++ replies)
  | failed replies => exact .failed h replies

/-! The order of the events. -/

/-- Data and the end of it come after a `FileBegin`; a second check is the one for a directory, and
comes after the first and the reply that reports one. -/
structure MayFollow (job : SendJob) (before : List SendEvent) (e : SendEvent) : Prop where
  data : ∀ msg, e = .sent msg → (msg.command = .fileData ∨ msg.command = .fileFinish) →
    ∃ reply, .got reply ∈ before ∧ reply.command = .fileBegin
  check : ∀ msg, e = .sent msg → msg.command = .fileCheck →
    (∃ earlier, .sent earlier ∈ before ∧ earlier.command = .fileCheck) →
    msg = job.secondCheck ∧ ∃ start reply later, before = start ++ .sent job.firstCheck :: later ∧
      .got reply ∈ later ∧ reportsDirectory reply = true

theorem MayFollow.got {job : SendJob} {before : List SendEvent} {reply : TaskMessage} :
    MayFollow job before (.got reply) where
  data := by rintro msg ⟨⟩
  check := by rintro msg ⟨⟩

/-- Anything that is no check may be sent after a `FileBegin`. -/
theorem MayFollow.of_begun {job : SendJob} {events more : List SendEvent} {msg : TaskMessage}
    (h : Begun job events) (hmsg : msg.command ≠ .fileCheck) :
    MayFollow job (events ++ more) (.sent msg) where
  data := by
    rintro _ ⟨⟩ -
    obtain ⟨-, hbegin⟩ := h
    exact ⟨_, List.mem_append_left more (List.mem_append_right _ List.mem_cons_self), hbegin⟩
  check := by
    rintro _ ⟨⟩ hcheck
    exact absurd hcheck hmsg

theorem follow_map_got {job : SendJob} {events : List SendEvent}
    (h : Follow (MayFollow job) events) (replies : List TaskMessage) :
    Follow (MayFollow job) (events ++ replies.map .got) := by
  induction replies using List.reverseRecOn with
  | nil => rwa [List.map_nil, List.append_nil]
  | append_singleton replies reply ih =>
    rw [List.map_append, ← List.append_assoc]
    exact ih.concat .got

theorem SendAt.follow {job : SendJob} {phase phase' : SendPhase} {events new : List SendEvent}
    (h : SendAt job phase events) (hfollow : Follow (MayFollow job) events)
    (hmove : SendMove job phase phase' new) : Follow (MayFollow job) (events ++ new) := by
  cases hmove with
  | wakeup =>
    refine hfollow.concat ⟨?_, ?_⟩
    · rintro _ ⟨⟩ (hcommand | hcommand) <;> cases hcommand
    · rintro _ ⟨⟩ hcommand
      cases hcommand
  | check =>
    refine hfollow.concat ⟨?_, ?_⟩
    · rintro _ ⟨⟩ (hcommand | hcommand) <;> cases hcommand
    · rintro _ ⟨⟩ - ⟨earlier, hmem, hcommand⟩
      cases h with
      | check =>
        -- the first check follows the wakeup only
        cases List.mem_singleton.mp hmem
        cases hcommand
      | @recheck reply hdir =>
        exact ⟨rfl, [.sent job.wakeup], reply, [.got reply], rfl, List.mem_cons_self, hdir⟩
  | begun => exact hfollow.concat .got
  | directory => exact hfollow.concat .got
  | stale => exact hfollow.concat .got
  | opened => rwa [List.append_nil]
  | chunk hpos hle =>
    cases h with
    | reading hbegun hne hcontent => exact hfollow.concat (.of_begun hbegun nofun)
  | finish =>
    cases h with
    | reading hbegun hne hcontent => exact hfollow.concat (.of_begun hbegun nofun)
  | late => exact hfollow.concat .got
  | done replies => exact follow_map_got hfollow replies
  | failed replies => exact follow_map_got hfollow replies

/-! The sequence of the messages. -/

/-- What has been sent. -/
def sentMessages (events : List SendEvent) : List TaskMessage :=
  events.filterMap fun
    | .sent msg => some msg
    | .got _ => none

@[simp] theorem sentMessages_append (events new : List SendEvent) :
    sentMessages (events ++ new) = sentMessages events ++ sentMessages new :=
  List.filterMap_append

@[simp] theorem sentMessages_sent (msgs : List TaskMessage) :
    sentMessages (msgs.map .sent) = msgs := by
  rw [sentMessages, List.filterMap_map]
  exact List.filterMap_some

@[simp] theorem sentMessages_got (replies : List TaskMessage) :
    sentMessages (replies.map .got) = [] := by
  rw [sentMessages, List.filterMap_map, List.filterMap_eq_nil_iff]
  intro reply _
  rfl

/-- All the messages of a transfer, with one check or two and the file cut into chunks. -/
def SendJob.sequence (job : SendJob) (checks : List TaskMessage) (chunks : List (List UInt8)) :
    List TaskMessage :=
  job.wakeup :: checks ++ job.data chunks ++ [job.finish]

/-- One check or two. -/
def SendJob.Checks (job : SendJob) (checks : List TaskMessage) : Prop :=
  checks = [job.firstCheck] ∨ checks = [job.firstCheck, job.secondCheck]

/-- The file cut into chunks. -/
def SendJob.Chunks (job : SendJob) (chunks : List (List UInt8)) : Prop :=
  chunks.flatten = job.content ∧ ∀ chunk ∈ chunks, chunk ≠ []

theorem Asked.sent {job : SendJob} {path name : String} {retried : Bool} {events : List SendEvent}
    (h : Asked job path name retried events) :
    ∃ checks, job.Checks checks ∧ sentMessages events = job.wakeup :: checks := by
  cases h with
  | once => exact ⟨_, .inl rfl, rfl⟩
  | twice hdir stale =>
    refine ⟨_, .inr rfl, ?_⟩
    rw [sentMessages_append, sentMessages_got, List.append_nil]
    rfl

theorem Begun.sent {job : SendJob} {events : List SendEvent} (h : Begun job events) :
    ∃ checks, job.Checks checks ∧ sentMessages events = job.wakeup :: checks := by
  obtain ⟨hasked, -⟩ := h
  obtain ⟨checks, hchecks, hsent⟩ := hasked.sent
  refine ⟨checks, hchecks, ?_⟩
  rw [sentMessages_append, hsent]
  exact List.append_nil _

/-- A file that has been sent to its end. -/
theorem Begun.sent_all {job : SendJob} {events : List SendEvent} {chunks : List (List UInt8)}
    (h : Begun job events) (hne : ∀ chunk ∈ chunks, chunk ≠ [])
    (hcontent : chunks.flatten = job.content) (late : List TaskMessage) :
    ∃ checks chunks', job.Checks checks ∧ job.Chunks chunks' ∧
      sentMessages (events ++ (job.data chunks ++ [job.finish]).map .sent ++ late.map .got) =
        job.sequence checks chunks' := by
  obtain ⟨checks, hchecks, hsent⟩ := h.sent
  refine ⟨checks, chunks, hchecks, ⟨hcontent, hne⟩, ?_⟩
  rw [sentMessages_append, sentMessages_append, sentMessages_sent, sentMessages_got, hsent,
    List.append_nil, SendJob.sequence, List.append_assoc]

/-- What is left of the file, as one chunk. -/
theorem SendJob.Chunks.complete {job : SendJob} {chunks : List (List UInt8)} {rest : List UInt8}
    (hne : ∀ chunk ∈ chunks, chunk ≠ []) (hcontent : chunks.flatten ++ rest = job.content) :
    ∃ more, job.Chunks (chunks ++ more) := by
  by_cases hrest : rest = []
  · subst hrest
    rw [List.append_nil] at hcontent
    exact ⟨[], by rwa [List.append_nil], by rwa [List.append_nil]⟩
  · refine ⟨[rest], ?_, List.forall_mem_append.mpr ⟨hne, by simpa using hrest⟩⟩
    rw [List.flatten_append, List.flatten_singleton, hcontent]

theorem dataMessages_begins (channelId : UInt32) (more : List (List UInt8)) :
    ∀ (chunks : List (List UInt8)) (offset : Nat),
      dataMessages channelId offset chunks <+: dataMessages channelId offset (chunks ++ more)
  | [], _ => List.nil_prefix
  | chunk :: chunks, offset => by
    rw [List.cons_append, dataMessages, dataMessages, List.prefix_cons_inj]
    exact dataMessages_begins channelId more chunks _

/-- The messages are a beginning of one sequence. -/
def InSequence (job : SendJob) (msgs : List TaskMessage) : Prop :=
  ∃ checks chunks, job.Checks checks ∧ job.Chunks chunks ∧ msgs <+: job.sequence checks chunks

theorem InSequence.of_checks {job : SendJob} {checks msgs : List TaskMessage}
    (hchecks : job.Checks checks) (h : msgs <+: job.wakeup :: checks) : InSequence job msgs := by
  obtain ⟨chunks, hchunks⟩ : ∃ chunks, job.Chunks ([] ++ chunks) :=
    SendJob.Chunks.complete (by simp) rfl
  refine ⟨checks, chunks, hchecks, hchunks, h.trans ?_⟩
  rw [SendJob.sequence, List.append_assoc]
  exact List.prefix_append _ _

theorem SendAt.sequence {job : SendJob} {phase : SendPhase} {events : List SendEvent}
    (h : SendAt job phase events) : InSequence job (sentMessages events) := by
  induction h with
  | wakeup => exact .of_checks (.inl rfl) List.nil_prefix
  | check => exact .of_checks (.inl rfl) ⟨_, rfl⟩
  | recheck hdir => exact .of_checks (.inl rfl) List.prefix_rfl
  | waitBegin hasked =>
    obtain ⟨checks, hchecks, hsent⟩ := hasked.sent
    exact .of_checks hchecks (hsent ▸ List.prefix_rfl)
  | opening hbegun =>
    obtain ⟨checks, hchecks, hsent⟩ := hbegun.sent
    exact .of_checks hchecks (hsent ▸ List.prefix_rfl)
  | reading hbegun hne hcontent =>
    obtain ⟨checks, hchecks, hsent⟩ := hbegun.sent
    obtain ⟨more, hchunks⟩ := SendJob.Chunks.complete hne hcontent
    refine ⟨checks, _, hchecks, hchunks, ?_⟩
    rw [sentMessages_append, sentMessages_sent, hsent, SendJob.sequence]
    exact ((List.prefix_append_right_inj _).mpr (dataMessages_begins _ more _ 0)).trans
      (List.prefix_append _ _)
  | waitFinish hbegun hne hcontent late =>
    obtain ⟨checks, chunks, hchecks, hchunks, hsent⟩ := hbegun.sent_all hne hcontent late
    exact ⟨checks, chunks, hchecks, hchunks, hsent ▸ List.prefix_rfl⟩
  | done hbegun hne hcontent late =>
    obtain ⟨checks, chunks, hchecks, hchunks, hsent⟩ := hbegun.sent_all hne hcontent late
    exact ⟨checks, chunks, hchecks, hchunks, hsent ▸ List.prefix_rfl⟩
  | failed h replies ih => rwa [sentMessages_append, sentMessages_got, List.append_nil]

/-! Every run. -/

/-- What the call has done so far is in order. -/
structure SendOrder (job : SendJob) (events : List SendEvent) : Prop where
  sequence : InSequence job (sentMessages events)
  follow : Follow (MayFollow job) events

/-- The call in any of its states: before its registration it touches nothing, and when it has
returned its registration is off. -/
def FileSendCall.Ordered (sessionId channelId : UInt32) (params : List String) (fs : Fs)
    (usb : UsbMap) : FileSendCall → Prop
  | .refused e usb' => sendStart channelId params fs = .error e ∧ usb' = usb
  | .running job _ _ events => sendStart channelId params fs = .ok job ∧ SendOrder job events
  | .returned job result usb' events =>
    sendStart channelId params fs = .ok job ∧ SendOrder job events ∧
      (result = .ok () → ∃ checks chunks, job.Checks checks ∧ job.Chunks chunks ∧
        sentMessages events = job.sequence checks chunks) ∧
      usb'.responseChannels sessionId channelId = none

/-- The state of a call, with what has happened in it. -/
def FileSendCall.Inv (sessionId channelId : UInt32) (params : List String) (fs : Fs)
    (usb : UsbMap) : FileSendCall → Prop
  | .refused e usb' => sendStart channelId params fs = .error e ∧ usb' = usb
  | .running job phase _ events =>
    sendStart channelId params fs = .ok job ∧ SendAt job phase events ∧
      Follow (MayFollow job) events
  | .returned job result usb' events =>
    sendStart channelId params fs = .ok job ∧ SendAt job (.ended result) events ∧
      Follow (MayFollow job) events ∧ usb'.responseChannels sessionId channelId = none

section
variable {sessionId channelId : UInt32} {params : List String} {fs : Fs} {usb : UsbMap}

theorem FileSendCall.Inv.step {s s' : FileSendCall} {act : FileSendAct}
    (h : s.Inv sessionId channelId params fs usb)
    (hst : fileSendStep sessionId channelId s act = some s') :
    s'.Inv sessionId channelId params fs usb := by
  cases s with
  | refused e usb' => cases act <;> cases hst
  | returned job result usb' events => cases act <;> cases hst
  | running job phase usb' events =>
    obtain ⟨hjob, hat, hfollow⟩ := h
    cases act with
    | own act =>
      obtain ⟨⟨phase', out⟩, hstep, heq⟩ := Option.map_eq_some_iff.mp hst
      cases heq
      have hmove := SendMove.of_step hstep
      exact ⟨hjob, hat.move hmove, hat.follow hfollow hmove⟩
    | unregister =>
      cases phase with
      | ended result =>
        cases hst
        refine ⟨hjob, hat, hfollow, ?_⟩
        rw [UsbMap.unregisterResponseChannel, UsbMap.setResponseChannel_response]
        simp
      | _ => cases hst
    | other op =>
      have hsame : s' = .running job phase (usb'.apply op) events := by
        cases phase <;> cases hst <;> rfl
      rw [hsame]
      exact ⟨hjob, hat, hfollow⟩

theorem FileSendCall.Inv.start (tx : String) :
    (fileSendStart sessionId channelId tx params fs usb).Inv sessionId channelId params fs usb := by
  unfold fileSendStart
  cases hstart : sendStart channelId params fs with
  | error e => exact ⟨hstart, rfl⟩
  | ok job => exact ⟨hstart, .wakeup, .nil⟩

/-- A send that succeeds has sent all. -/
theorem SendAt.complete {job : SendJob} {events : List SendEvent}
    (h : SendAt job (.ended (.ok ())) events) :
    ∃ checks chunks, job.Checks checks ∧ job.Chunks chunks ∧
      sentMessages events = job.sequence checks chunks := by
  cases h with
  | done hbegun hne hcontent late => exact hbegun.sent_all hne hcontent late

theorem FileSendCall.Inv.ordered {s : FileSendCall} (h : s.Inv sessionId channelId params fs usb) :
    s.Ordered sessionId channelId params fs usb := by
  cases s with
  | refused e usb' => exact h
  | running job phase usb' events =>
    obtain ⟨hjob, hat, hfollow⟩ := h
    exact ⟨hjob, hat.sequence, hfollow⟩
  | returned job result usb' events =>
    obtain ⟨hjob, hat, hfollow, husb⟩ := h
    refine ⟨hjob, ⟨hat.sequence, hfollow⟩, ?_, husb⟩
    rintro rfl
    exact hat.complete

end

theorem file_send_ordered (sessionId channelId : UInt32) (tx : String) (params : List String)
    (fs : Fs) (usb : UsbMap) (s : FileSendCall)
    (hrun : Reaches (fileSendStep sessionId channelId) anyStep
      (fileSendStart sessionId channelId tx params fs usb) s) :
    s.Ordered sessionId channelId params fs usb := by
  have hstep : ∀ {t act t'}, FileSendCall.Inv sessionId channelId params fs usb t →
      anyStep t act → fileSendStep sessionId channelId t act = some t' →
      FileSendCall.Inv sessionId channelId params fs usb t' := fun h _ hst => h.step hst
  exact (hrun.invariant hstep (.start tx)).ordered

/-- `file send a.txt /data/` in `/home`, of three bytes. -/
def sendParams : List String := ["file", "send", "-cwd", "/home/", "a.txt", "/data/"]

def homeFs : Fs := fun path => if path = "/home/a.txt" then some [1, 2, 3] else none

/-- The remote path is a directory; the second check is granted, after a message left over from the
first. -/
def directorySend : List FileSendAct :=
  [.own (.next 0), .own (.next 0),
    .own (.recv ⟨7, .kernelEcho, utf8 "open: illegal operation on a directory"⟩), .own (.next 0),
    .own (.recv ⟨7, .kernelChannelClose, [1]⟩), .own (.recv ⟨7, .fileBegin, []⟩), .own (.next 0),
    .own (.next 2), .other (.startSession 9 0), .own (.next 1), .own (.next 0),
    .own (.recv ⟨7, .fileFinish, [0]⟩), .unregister]

/-- The call has succeeded, after so many messages. -/
def FileSendCall.succeeded (n : Nat) : FileSendCall → Bool
  | .returned _ (.ok ()) _ events => events.length == n
  | _ => false

theorem file_send_ordered_directory :
    ∃ job usb events, SendOrder job events ∧ events.length = 10 ∧
      usb.responseChannels 5 7 = none ∧
      Reaches (fileSendStep 5 7) anyStep (fileSendStart 5 7 "SN1" sendParams homeFs .new)
        (.returned job (.ok ()) usb events) := by
  have hrun : (run (fileSendStep 5 7) anyStep (fileSendStart 5 7 "SN1" sendParams homeFs .new)
      directorySend).any (FileSendCall.succeeded 10) = true := by decide
  obtain ⟨s, hs, hlen⟩ := (Option.any_eq_true _ _).mp hrun
  have hreaches := Reaches.of_run hs
  have hordered := file_send_ordered 5 7 "SN1" sendParams homeFs .new s hreaches
  cases s with
  | refused e usb => cases hlen
  | running job phase usb events => cases hlen
  | returned job result usb events =>
    cases result with
    | error e => cases hlen
    | ok u => exact ⟨job, usb, events, hordered.2.1, beq_iff_eq.mp hlen, hordered.2.2.2, hreaches⟩

end Hdc
