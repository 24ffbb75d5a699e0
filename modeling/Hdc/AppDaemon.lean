import Hdc.FileDaemon

/- The daemon's side of an install (`hdcd/src/app.rs`), as it is built for Linux. It shares the
   map of running transfers with the file commands: `AppInit` enters the package there, `AppBegin`
   and `AppData` receive it, and `AppFinish` hands it to `bm`. Sends to the session do not fail
   here. -/
namespace Hdc
open Rust Wire

/-- `parse_app_path`: `"install [-cwd <cwd>] <path>"`. -/
def parseAppPath (payload : List UInt8) : Option String :=
  let parts := split ' ' (fromUtf8Lossy payload)
  if parts.length < 2 then none
  else parts[if 2 < parts.length ∧ parts.getD 1 "" = "-cwd" then 3 else 1]?

/-- What a run of `bm` gives. -/
structure BmOutput where
  stdout : List UInt8
  stderr : List UInt8
  success : Bool
  deriving DecidableEq, Repr

/-- `bm` with its arguments, or the text of the error that kept it from running. -/
abbrev Bm := List String → Except String BmOutput

/-- The echoes of a run of `bm`, and the close after them. -/
def bmReplies (channelId : UInt32) (action : String) : Except String BmOutput → List TaskMessage
  | .ok output =>
    let stdout := fromUtf8Lossy output.stdout
    let stderr := fromUtf8Lossy output.stderr
    (if stdout = "" then [] else [echoClient channelId stdout .info]) ++
      (if stderr = "" then [] else [echoClient channelId stderr .fail]) ++
      [if output.success then echoClient channelId "AppMod finish" .ok
        else echoClient channelId (action ++ " failed") .fail, channelClose channelId]
  | .error e =>
    [echoClient channelId (action ++ " command failed: " ++ e) .fail, channelClose channelId]

section
variable (sessionId : UInt32) (io : FsOutcome) (bm : Bm) (d : DaemonFiles) (msg : TaskMessage)

def handleAppInit : DaemonFiles × List TaskMessage :=
  match parseAppPath msg.payload with
  | none => (d, [echoClient msg.channelId "Missing app path" .fail])
  | some appPath =>
    let tmpPath := installTmpDir ++ (fileName appPath).getD "app.hap"
    let state : FileTransferState :=
      { sessionId, channelId := msg.channelId, localPath := appPath, remotePath := tmpPath,
        file := none, totalSize := 0, receivedSize := 0, direction := .send }
    (d.put sessionId msg.channelId state, [⟨msg.channelId, .appCheck, utf8 tmpPath⟩])

def handleAppCheck : DaemonFiles × List TaskMessage := (d, [⟨msg.channelId, .appBegin, []⟩])

def appNotInitialized : DaemonFiles × List TaskMessage :=
  (d, [echoClient msg.channelId "App install not initialized" .fail])

def handleAppBegin : DaemonFiles × List TaskMessage :=
  match d.get sessionId msg.channelId with
  | none => appNotInitialized d msg
  | some state =>
    match io.error with
    | none =>
      let d := { d with fs := d.fs.create state.remotePath }
      (d.put sessionId msg.channelId { state with file := some ⟨state.remotePath, 0⟩ }, [])
    | some e => (d, [echoClient msg.channelId ("Failed to create temp file: " ++ e) .fail])

def handleAppData : DaemonFiles × List TaskMessage :=
  match d.get sessionId msg.channelId with
  | none => appNotInitialized d msg
  | some state =>
    match state.file, io.error with
    | none, _ => (d.put sessionId msg.channelId state, [])
    | some file, none =>
      let data := msg.payload
      let d := { d with fs := d.fs.write file data }
      (d.put sessionId msg.channelId { state with
        file := some { file with pos := file.pos + data.length }
        receivedSize := state.receivedSize + UInt64.ofNat data.length }, [])
    | some file, some e =>
      -- as in `handleFileData`, only the shared file has moved on
      let data := msg.payload.take io.partialWrite
      let d := { d with fs := d.fs.write file data }
      (d.put sessionId msg.channelId { state with
        file := some { file with pos := file.pos + data.length } },
        [echoClient msg.channelId ("Write failed: " ++ e) .fail])

def handleAppFinish : DaemonFiles × List TaskMessage :=
  match d.get sessionId msg.channelId with
  | none => appNotInitialized d msg
  | some state =>
    (d.remove sessionId msg.channelId,
      bmReplies msg.channelId "Install" (bm ["install", "-p", state.remotePath]))

def handleAppUninstall : DaemonFiles × List TaskMessage :=
  let package := trim (fromUtf8Lossy msg.payload)
  (d, bmReplies msg.channelId "Uninstall" (bm ["uninstall", "-n", package]))

def handleAppTask : DaemonFiles × List TaskMessage :=
  match msg.command with
  | .appInit => handleAppInit sessionId d msg
  | .appCheck => handleAppCheck d msg
  | .appBegin => handleAppBegin sessionId io d msg
  | .appData => handleAppData sessionId io d msg
  | .appFinish => handleAppFinish sessionId bm d msg
  | .appUninstall => handleAppUninstall bm d msg
  | _ => (d, [])

end

/-- The commands `dispatch_task` passes to `handle_app_task`. -/
def appCommands : List HdcCommand :=
  [.appInit, .appCheck, .appBegin, .appData, .appFinish, .appUninstall]

end Hdc
