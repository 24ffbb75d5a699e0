import Hdc.Config
import Hdc.Messages
import Mathlib.Logic.Function.Basic

/- The daemon's side of a file transfer (`hdcd/src/file.rs`): the map of running
   transfers, and what each of the file commands does to it, to the file system and
   to the session.

   A handler is a function of the daemon's state and of what the file system
   answers while it runs; it returns the state it leaves and the messages it sends.
   Sends to the session do not fail here. -/
namespace Hdc
open Rust Wire

/-! The file system. -/

/-- The content of the regular file at each path. -/
abbrev Fs := String → Option (List UInt8)

/-- An open file: where it is, and where the next write goes. -/
structure FileHandle where
  path : String
  pos : Nat
  deriving DecidableEq, Repr

/-- The content after a write at `pos`; a gap before it reads as zeros. -/
def writeAt (content : List UInt8) (pos : Nat) (data : List UInt8) : List UInt8 :=
  content.take pos ++ List.replicate (pos - content.length) 0 ++ data ++
    content.drop (pos + data.length)

/-- `File::create`. -/
def Fs.create (fs : Fs) (path : String) : Fs := Function.update fs path (some [])

def Fs.write (fs : Fs) (h : FileHandle) (data : List UInt8) : Fs :=
  match fs h.path with
  | some content => Function.update fs h.path (some (writeAt content h.pos data))
  | none => fs

/-- What the file system answers while one message is handled: the text of the error
of the `create`, `open`, `metadata` or `write_all` there is, with the number of bytes
a failing write got out; and for a file that is read, how much each `read` returns,
with the error of the one after the last. -/
structure FsOutcome where
  error : Option String := none
  partialWrite : Nat := 0
  readSizes : List Nat := []
  readError : Option String := none
  deriving DecidableEq, Repr

/-- Nothing fails. -/
def FsOutcome.NoFailure (io : FsOutcome) : Prop := io.error = none ∧ io.readError = none

instance (io : FsOutcome) : Decidable io.NoFailure := inferInstanceAs (Decidable (_ ∧ _))

/-- The successive reads of a file into a buffer of `MAX_SIZE_IOBUF` bytes, up to the
empty one or the one that fails. A read returns at least one byte before the end of
the file; the first argument bounds the number of reads. -/
def fileReads : Nat → List Nat → Option String → List UInt8 → List (List UInt8) × Option String
  | 0, _, _, _ => ([], none)
  | fuel + 1, sizes, readError, rest =>
    match sizes, readError, rest with
    | [], some e, _ => ([], some e)
    | _, _, [] => ([], none)
    | sizes, readError, b :: rest =>
      let n := max 1 (min (sizes.headD maxSizeIobuf) maxSizeIobuf)
      let (chunks, failed) := fileReads fuel sizes.tail readError ((b :: rest).drop n)
      ((b :: rest).take n :: chunks, failed)

/-! The running transfers. -/

/-- From the host's point of view: `send` is host to daemon. -/
inductive TransferDirection where
  | send | recv
  deriving DecidableEq, Repr

/-- `FileTransferState`. The open file is shared by the copies of a state that the map
hands out, so there is one of it. -/
structure FileTransferState where
  sessionId : UInt32
  channelId : UInt32
  localPath : String
  remotePath : String
  file : Option FileHandle
  totalSize : UInt64
  receivedSize : UInt64
  direction : TransferDirection
  deriving DecidableEq, Repr

/-- `FileTaskMap`, by session and channel, and the daemon's file system. -/
structure DaemonFiles where
  tasks : UInt32 × UInt32 → Option FileTransferState
  fs : Fs

def DaemonFiles.get (d : DaemonFiles) (sessionId channelId : UInt32) : Option FileTransferState :=
  d.tasks (sessionId, channelId)

def DaemonFiles.put (d : DaemonFiles) (sessionId channelId : UInt32) (state : FileTransferState) :
    DaemonFiles :=
  { d with tasks := Function.update d.tasks (sessionId, channelId) (some state) }

def DaemonFiles.remove (d : DaemonFiles) (sessionId channelId : UInt32) : DaemonFiles :=
  { d with tasks := Function.update d.tasks (sessionId, channelId) none }

/-! Replies. -/

def levelPrefix : MessageLevel → String
  | .fail => "[Fail]"
  | .info => "[Info]"
  | .ok => ""

/-- `echo_client`, the same in `file.rs` and in `task.rs`. -/
def echoClient (channelId : UInt32) (msg : String) (level : MessageLevel) : TaskMessage :=
  ⟨channelId, .kernelEcho, [level.asU8] ++ utf8 (levelPrefix level ++ msg ++ "\r\n")⟩

def channelClose (channelId : UInt32) : TaskMessage := ⟨channelId, .kernelChannelClose, [0]⟩

/-! The handlers. -/

/-- `parse_file_paths`: `"file send|recv [-cwd <cwd>] <path1> <path2>"`. -/
def parseFilePaths (payload : List UInt8) : Option (String × String) :=
  let parts := split ' ' (fromUtf8Lossy payload)
  if parts.length < 4 then none
  else
    let idx := if parts.getD 2 "" = "-cwd" then 4 else 2
    if idx + 2 ≤ parts.length then some (parts.getD idx "", parts.getD (idx + 1) "") else none

section
variable (sessionId : UInt32) (io : FsOutcome) (d : DaemonFiles) (msg : TaskMessage)

def handleFileInit : DaemonFiles × List TaskMessage :=
  match parseFilePaths msg.payload with
  | none => (d, [echoClient msg.channelId "Invalid file init parameters" .fail])
  | some (localPath, remotePath) =>
    let state : FileTransferState :=
      { sessionId, channelId := msg.channelId, localPath, remotePath, file := none,
        totalSize := 0, receivedSize := 0, direction := .send }
    (d.put sessionId msg.channelId state,
      [⟨msg.channelId, .fileCheck, TransferConfig.serialize { path := remotePath }⟩])

def handleFileCheck : DaemonFiles × List TaskMessage :=
  match TransferConfig.deserialize msg.payload with
  | .error _ => (d, [echoClient msg.channelId "Invalid transfer config" .fail])
  | .ok config =>
    let d := match d.get sessionId msg.channelId with
      | some state => d.put sessionId msg.channelId
          { state with totalSize := config.fileSize, remotePath := config.path }
      | none => d
    (d, [⟨msg.channelId, .fileBegin, []⟩])

/-- `handle_daemon_file_send`. -/
def handleDaemonFileSend (path : String) : DaemonFiles × List TaskMessage :=
  let channelId := msg.channelId
  match io.error, d.fs path with
  | some e, _ =>
    (d, [echoClient channelId ("Failed to open file: " ++ e) .fail, channelClose channelId])
  | none, none =>
    (d, [echoClient channelId "Failed to open file: No such file or directory (os error 2)" .fail,
      channelClose channelId])
  | none, some content =>
    let (chunks, failed) := fileReads (content.length + 1) io.readSizes io.readError content
    let datas : List TaskMessage := chunks.map fun chunk => ⟨channelId, .fileData, chunk⟩
    match failed with
    | some e => (d, datas ++ [echoClient channelId ("Read failed: " ++ e) .fail])
    | none =>
      (d.remove sessionId channelId,
        datas ++ [⟨channelId, .fileFinish, []⟩, channelClose channelId])

def handleFileBegin : DaemonFiles × List TaskMessage :=
  match d.get sessionId msg.channelId with
  | none => (d, [echoClient msg.channelId "File transfer not initialized" .fail])
  | some state =>
    match state.direction with
    | .send =>
      match io.error with
      | none =>
        let d := { d with fs := d.fs.create state.remotePath }
        (d.put sessionId msg.channelId { state with file := some ⟨state.remotePath, 0⟩ }, [])
      | some e => (d, [echoClient msg.channelId ("Failed to create file: " ++ e) .fail])
    | .recv => handleDaemonFileSend sessionId io d msg state.remotePath

def handleFileData : DaemonFiles × List TaskMessage :=
  match d.get sessionId msg.channelId with
  | none => (d, [echoClient msg.channelId "File transfer not initialized" .fail])
  | some state =>
    match state.direction with
    | .recv => (d, [])
    | .send =>
      match state.file, io.error with
      | none, _ => (d, [])
      | some file, none =>
        let data := msg.payload
        let d := { d with fs := d.fs.write file data }
        (d.put sessionId msg.channelId { state with
          file := some { file with pos := file.pos + data.length }
          receivedSize := state.receivedSize + UInt64.ofNat data.length }, [])
      | some file, some e =>
        -- the state is not stored, but the file it shares has moved on
        let data := msg.payload.take io.partialWrite
        let d := { d with fs := d.fs.write file data }
        (d.put sessionId msg.channelId { state with
          file := some { file with pos := file.pos + data.length } },
          [echoClient msg.channelId ("Write failed: " ++ e) .fail])

def handleFileFinish : DaemonFiles × List TaskMessage :=
  match d.get sessionId msg.channelId with
  | none => (d, [echoClient msg.channelId "File transfer not initialized" .fail])
  | some _ => (d.remove sessionId msg.channelId, [channelClose msg.channelId])

def handleFileRecvInit : DaemonFiles × List TaskMessage :=
  match parseFilePaths msg.payload with
  | none => (d, [echoClient msg.channelId "Invalid file recv parameters" .fail])
  | some (remotePath, _) =>
    match io.error, d.fs remotePath with
    | some e, _ =>
      (d, [echoClient msg.channelId ("File not found: " ++ e) .fail, channelClose msg.channelId])
    | none, none =>
      (d, [echoClient msg.channelId "File not found: No such file or directory (os error 2)" .fail,
        channelClose msg.channelId])
    | none, some content =>
      let fileSize := UInt64.ofNat content.length
      let state : FileTransferState :=
        { sessionId, channelId := msg.channelId, localPath := remotePath, remotePath, file := none,
          totalSize := fileSize, receivedSize := 0, direction := .recv }
      (d.put sessionId msg.channelId state,
        [⟨msg.channelId, .fileCheck, TransferConfig.serialize { path := remotePath, fileSize }⟩])

def handleFileTask : DaemonFiles × List TaskMessage :=
  match msg.command with
  | .fileInit => handleFileInit sessionId d msg
  | .fileCheck => handleFileCheck sessionId d msg
  | .fileBegin => handleFileBegin sessionId io d msg
  | .fileData => handleFileData sessionId io d msg
  | .fileFinish => handleFileFinish sessionId d msg
  | .fileRecvInit => handleFileRecvInit sessionId io d msg
  | _ => (d, [])

end

/-! `dispatch_task` (`hdcd/src/task.rs`). -/

/-- What the daemon's other modules do with their messages, and whether
`forward::handle_channel_close` knows a channel. -/
structure DaemonHandlers where
  others : DaemonFiles → TaskMessage → DaemonFiles × List TaskMessage × IoResult Unit
  forwardChannel : UInt32 → Bool

/-- `dispatch_task`. The shell, reboot, remount, runmode and hilog commands and those
of `app.rs`, `flashd.rs` and `forward.rs` go to the other handlers. -/
def dispatchTask (handlers : DaemonHandlers) (sessionId : UInt32) (io : FsOutcome)
    (d : DaemonFiles) (msg : TaskMessage) : DaemonFiles × List TaskMessage × IoResult Unit :=
  match msg.command with
  | .kernelHandshake => (d, [⟨msg.channelId, .kernelHandshake, utf8 "OK"⟩], .ok ())
  | .unityExecute | .unityExecuteEx | .shellInit | .unityReboot | .unityRemount | .unityRunmode
  | .unityHilog => handlers.others d msg
  | .shellData => (d, [], .ok ())
  | .fileInit | .fileCheck | .fileBegin | .fileData | .fileFinish | .fileRecvInit =>
    let (d, replies) := handleFileTask sessionId io d msg
    (d, replies, .ok ())
  | .appInit | .appCheck | .appBegin | .appData | .appFinish | .appUninstall => handlers.others d msg
  | .flashdCheck | .flashdBegin | .flashdData | .flashdFinish | .flashdErase | .flashdFormat
  | .flashdProgress => handlers.others d msg
  | .forwardInit | .forwardCheck | .forwardCheckResult | .forwardActiveSlave
  | .forwardActiveMaster | .forwardData | .forwardFreeContext | .forwardList | .forwardRemove
  | .forwardSuccess | .forwardRportInit | .forwardRportList | .forwardRportRemove =>
    handlers.others d msg
  | .heartbeatMsg => (d, [⟨msg.channelId, .heartbeatMsg, msg.payload⟩], .ok ())
  | .kernelChannelClose =>
    if handlers.forwardChannel msg.channelId then (d, [channelClose msg.channelId], .ok ())
    else (d, [channelClose msg.channelId], .error ⟨.connectionAborted, "channel closed"⟩)
  | _ => (d, [echoClient msg.channelId "Command not implemented" .fail], .ok ())

end Hdc
