import Hdc.FileChunk
import Hdc.FileDaemon

/- The host's side of a file transfer (`handle_server_file_send` and
   `handle_server_file_recv` in `hdc/src/server.rs`), as machines that are fed the
   daemon's messages. Each phase is a point at which the handler waits or does
   input or output; a step gives the phase it goes on to, the messages it sends to
   the session and the texts it sends to the client. -/
namespace Hdc
open Rust Wire

/-! Paths. -/

/-- `std::path::MAIN_SEPARATOR` of a Unix host. -/
def mainSeparator : Char := '/'

def stripQuotes (s : String) : String :=
  let s := trim s
  if 2 ≤ (utf8 s).length ∧ s.toList.head? = some '"' ∧ s.toList.getLast? = some '"' then
    String.ofList s.toList.tail.dropLast
  else s

/-- `resolve_file_paths`, over `["file", "send", "-cwd", dir, first, second]` with or
without the working directory. -/
def resolveFilePaths (params : List String) : IoResult (String × String) :=
  if params.length < 4 then .error ⟨.invalidInput, "Missing file path arguments"⟩
  else
    let hasCwd := 2 + 1 < params.length ∧ params.getD 2 "" = "-cwd"
    let cwd := if hasCwd then params.getD 3 "" else ""
    let idx := if hasCwd then 4 else 2
    if params.length < idx + 2 then .error ⟨.invalidInput, "Missing local or remote path"⟩
    else
      let localRaw := stripQuotes (params.getD idx "")
      let remoteRaw := stripQuotes (params.getD (idx + 1) "")
      let localPath := if cwd = "" then localRaw
        else trimEndMatches mainSeparator cwd ++ String.singleton mainSeparator ++ localRaw
      .ok (localPath, remoteRaw)

/-! What drives a handler. -/

inductive HostAct where
  /-- The handler's next send, open or create; or a read of `n` bytes. -/
  | next (n : Nat)
  | recv (task : TaskMessage)
  /-- The response channel is closed. -/
  | closed
  | timeout
  /-- The input or output of the phase fails with this error. -/
  | fail (e : IoError)
  deriving DecidableEq, Repr

/-- What a step sends: messages to the session, texts to the client. -/
structure HostOut where
  messages : List TaskMessage := []
  texts : List String := []
  deriving DecidableEq, Repr

def responseChannelClosed : IoError := ⟨.connectionAborted, "Response channel closed"⟩

/-! Sending a file. -/

/-- What `handle_server_file_send` has fixed when it starts to talk to the daemon.
`content` is the local file, whose length is the `file_size` of its metadata. -/
structure SendJob where
  channelId : UInt32
  localFilename : String
  remotePath : String
  content : List UInt8
  deriving DecidableEq, Repr

/-- The handler up to its first message. -/
def sendStart (channelId : UInt32) (params : List String) (fs : Fs) : IoResult SendJob := do
  let (localPath, remotePath) ← resolveFilePaths params
  match fs localPath with
  | none => .error ⟨.notFound, "Local file not found: No such file or directory (os error 2)"⟩
  | some content => .ok ⟨channelId, (fileName localPath).getD "", remotePath, content⟩

inductive SendPhase where
  | wakeup
  /-- `FileCheck` is to be sent, with these values of the loop's variables. -/
  | check (path optionalName : String) (retried : Bool)
  | waitBegin (path optionalName : String) (retried : Bool)
  | opening
  /-- In the read loop, with `rest` of the file unread. -/
  | reading (offset : UInt64) (rest : List UInt8)
  | waitFinish
  | ended (result : IoResult Unit)
  deriving DecidableEq, Repr

/-- The `file_check` of an attempt. -/
def SendJob.fileCheck (job : SendJob) (path optionalName : String) : TaskMessage :=
  ⟨job.channelId, .fileCheck,
    TransferConfig.serialize { fileSize := UInt64.ofNat job.content.length, path, optionalName }⟩

def directoryError : String := "illegal operation on a directory"

/-- The loop that waits for `FileBegin`. -/
def SendJob.onReply (job : SendJob) (path optionalName : String) (retried : Bool)
    (task : TaskMessage) : SendPhase :=
  if task.command = .fileBegin then .opening
  else if contains (fromUtf8Lossy task.payload) directoryError ∧ job.localFilename ≠ "" ∧
      retried = false then
    .check (trimEndWhere (fun c => c == '/' || c == '\\') path) job.localFilename true
  else if retried = true ∧
      (task.command = .kernelChannelClose ∨ task.command = .kernelWakeupSlavetask) then
    .waitBegin path optionalName retried
  else .ended (invalidData ("Expected FileBegin, got " ++ task.command.debug))

def transferFinish : String := "FileTransfer finish\r\n"

/-- The loop that waits for the daemon's `FileFinish`. -/
def SendJob.onFinish (task : TaskMessage) : SendPhase × HostOut :=
  match task.command with
  | .fileFinish =>
    if task.payload = [] ∨ task.payload.head? = some 0 then
      (.ended (.ok ()), { texts := [transferFinish] })
    else (.waitFinish, {})
  | .kernelChannelClose => (.ended (.ok ()), { texts := [transferFinish] })
  | _ => (.waitFinish, {})

def sendStep (job : SendJob) : SendPhase → HostAct → Option (SendPhase × HostOut)
  | .wakeup, .next _ =>
    some (.check job.remotePath "" false,
      { messages := [⟨job.channelId, .kernelWakeupSlavetask, []⟩] })
  | .check path optionalName retried, .next _ =>
    some (.waitBegin path optionalName retried,
      { messages := [job.fileCheck path optionalName] })
  | .waitBegin path optionalName retried, .recv task =>
    some (job.onReply path optionalName retried task, {})
  | .waitBegin .., .closed => some (.ended (.error responseChannelClosed), {})
  | .waitBegin .., .timeout =>
    some (.ended (.error ⟨.timedOut, "Timeout waiting for FileBegin"⟩), {})
  | .opening, .next _ => some (.reading 0 job.content, {})
  | .reading _ [], .next _ =>
    some (.waitFinish, { messages := [⟨job.channelId, .fileFinish, [1]⟩] })
  | .reading offset rest, .next n =>
    if 0 < n ∧ n ≤ chunkSize ∧ n ≤ rest.length then
      let buf := rest.take n
      some (.reading (offset + UInt64.ofNat n) (rest.drop n),
        { messages := [⟨job.channelId, .fileData, paddedHead (chunkHead offset n) ++ buf⟩] })
    else none
  | .waitFinish, .recv task => some (SendJob.onFinish task)
  | .waitFinish, .closed =>
    some (.ended (.ok ()), { texts := ["[Fail]FileTransfer failed: Response channel closed\r\n"] })
  | .waitFinish, .timeout => some (.ended (.ok ()), { texts := ["[Fail]FileTransfer timeout\r\n"] })
  -- every other operation is followed by a `?`
  | .wakeup, .fail e | .check .., .fail e | .opening, .fail e | .reading .., .fail e
  | .waitFinish, .fail e => some (.ended (.error e), {})
  | _, _ => none

/-! Receiving a file. -/

structure RecvJob where
  channelId : UInt32
  remotePath : String
  localPath : String
  deriving DecidableEq, Repr

/-- The handler up to its first message; the directory it creates is left out. -/
def recvStart (channelId : UInt32) (params : List String) : IoResult RecvJob := do
  let (remotePath, localPath) ← resolveFilePaths params
  .ok ⟨channelId, remotePath, localPath⟩

inductive RecvPhase where
  | init
  | waitCheck
  /-- The local file is to be created; the config said `fileSize`. -/
  | creating (fileSize : UInt64)
  | begin (fileSize : UInt64)
  | receiving (fileSize : UInt64)
  | ended (result : IoResult Unit)
  deriving DecidableEq, Repr

/-- The phase, and once the local file is created, what the receive loop carries. -/
structure RecvState where
  phase : RecvPhase
  loop : Option FileRecv
  deriving DecidableEq, Repr

def RecvJob.fileInit (job : RecvJob) : TaskMessage :=
  ⟨job.channelId, .fileInit, utf8 ("recv " ++ job.remotePath ++ " " ++ job.localPath)⟩

/-- The loop that waits for `FileCheck`. A config that does not parse counts as a size
of 0; one with a suspicious `optional_name` is only logged. -/
def RecvJob.onCheck (task : TaskMessage) : RecvPhase :=
  match task.command with
  | .kernelWakeupSlavetask => .waitCheck
  | .fileCheck =>
    match TransferConfig.deserialize task.payload with
    | .ok config => .creating config.fileSize
    | .error _ => .creating 0
  | other => .ended (invalidData ("Expected FileCheck, got " ++ other.debug))

/-- After the receive loop: the file is flushed and the client told. -/
def FileRecv.finish (st : FileRecv) (messages : List TaskMessage) : RecvState × HostOut :=
  (⟨.ended (.ok ()), some st⟩,
    { messages
      texts := ["FileTransfer finish, Size:" ++ toString st.totalReceived.toNat ++ " bytes\r\n"] })

/-- The receive loop. -/
def RecvJob.onData (job : RecvJob) (fileSize : UInt64) (st : FileRecv) (task : TaskMessage) :
    RecvState × HostOut :=
  match task.command with
  | .fileData =>
    let st := recvFileData job.channelId fileSize { st with sent := [] } task.payload
    (⟨.receiving fileSize, some st⟩, { messages := st.sent })
  | .fileFinish =>
    if task.payload.head? = some 1 then st.finish [⟨job.channelId, .fileFinish, [0]⟩]
    else st.finish []
  | .kernelEcho | .kernelEchoRaw =>
    (⟨.receiving fileSize, some st⟩, { texts := [fromUtf8Lossy task.payload] })
  | .kernelChannelClose => st.finish []
  | _ => (⟨.receiving fileSize, some st⟩, {})

def recvStep (job : RecvJob) (s : RecvState) (act : HostAct) : Option (RecvState × HostOut) :=
  match s.phase, s.loop, act with
  | .init, _, .next _ => some ({ s with phase := .waitCheck }, { messages := [job.fileInit] })
  | .waitCheck, _, .recv task => some ({ s with phase := RecvJob.onCheck task }, {})
  | .waitCheck, _, .closed => some ({ s with phase := .ended (.error responseChannelClosed) }, {})
  | .waitCheck, _, .timeout =>
    some ({ s with phase := .ended (.error ⟨.timedOut, "Timeout waiting for FileCheck"⟩) }, {})
  | .creating fileSize, _, .next _ => some (⟨.begin fileSize, some ⟨[], 0, false, []⟩⟩, {})
  | .begin fileSize, _, .next _ =>
    some ({ s with phase := .receiving fileSize }, { messages := [⟨job.channelId, .fileBegin, []⟩] })
  | .receiving fileSize, some st, .recv task => some (job.onData fileSize st task)
  | .receiving _, _, .closed => some ({ s with phase := .ended (.error responseChannelClosed) }, {})
  | .receiving _, _, .timeout =>
    some ({ s with phase := .ended (.error ⟨.timedOut, "Timeout waiting for file data"⟩) }, {})
  | .init, _, .fail e | .creating _, _, .fail e | .begin _, _, .fail e | .receiving _, _, .fail e =>
    some ({ s with phase := .ended (.error e) }, {})
  | _, _, _ => none

end Hdc
