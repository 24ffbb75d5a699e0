import Hdc.FileHost
import Hdc.Parser
import Hdc.ServerHandlers

/- The host's side of an install and of the flash commands (`handle_server_app_install`,
   `install_single_hap` and `handle_server_flashd` in `hdc/src/server.rs`), as handlers that are
   driven by the daemon's messages and by what the file system answers.

   An install goes through its packages; a pack (`.app`) is extracted to a temporary directory and
   stands for the packages in it. Each package is announced with `AppInit` and `AppCheck`, streamed
   behind 64-byte heads as a file is, and ends with the daemon's `AppFinish`. A flash command
   streams an image in the same way, or is a single message.

   Both register a response channel for the whole of the call and take it off at its end. -/
namespace Hdc
open Rust Wire

/-! Parameters of an install. -/

structure InstallArgs where
  clientCwd : String := ""
  options : String := ""
  packages : List String := []
  deriving DecidableEq, Repr

/-- An option of `bm install`, or the path of a package. -/
def InstallArgs.take (args : InstallArgs) (arg : String) : InstallArgs :=
  if startsWith arg "-" then
    { args with options := (if args.options = "" then "" else args.options ++ " ") ++ arg }
  else { args with packages := args.packages ++ [arg] }

/-- The loop over the parameters. A `-cwd` at the end is an option. -/
def InstallArgs.scan : InstallArgs → List String → InstallArgs
  | args, [] => args
  | args, [arg] => args.take arg
  | args, arg :: dir :: rest =>
    if arg = "-cwd" then scan { args with clientCwd := dir } rest
    else scan (args.take arg) (dir :: rest)

/-- The handler up to the registration of its response channel. -/
def installStart (params : List String) : IoResult InstallArgs :=
  let args := InstallArgs.scan {} (params.drop 1)
  if args.packages = [] then
    .error ⟨.invalidInput, "[E006001] Not any installation package was found"⟩
  else .ok args

theorem installStart_packages {params : List String} {args : InstallArgs}
    (h : installStart params = .ok args) : args.packages ≠ [] := by
  simp only [installStart] at h
  split at h <;> cases h
  assumption

/-- Where a package is; the working directory of the client ends with a separator. -/
def InstallArgs.appPath (args : InstallArgs) (package : String) : String :=
  if args.clientCwd ≠ "" ∧ !startsWith package "/" then args.clientCwd ++ package else package

/-- `Path::extension` of a Unix path, as text. -/
def extension (path : String) : Option String :=
  (fileName path).bind fun name => (rsplitOnce '.' name).bind fun (before, after) =>
    if before = "" then none else some after

def isAppPack (appPath : String) : Bool :=
  match extension appPath with
  | some ext => toAsciiLowercase ext = "app"
  | none => false

/-! Installing. -/

/-- A package that is installed. `content` is its file, whose length is the `file_size` of its
metadata. -/
structure Hap where
  path : String
  content : List UInt8
  deriving DecidableEq, Repr

def Hap.fileName (hap : Hap) : String := (Rust.fileName hap.path).getD "app.hap"

inductive InstallPhase where
  | nextPackage
  /-- The temporary directory of a pack is to be created. -/
  | createDir (appPath : String)
  | extract (appPath tempDir : String)
  | nextHap
  -- `install_single_hap`
  | init (hap : Hap)
  | check (hap : Hap)
  | waitBegin (hap : Hap)
  | opening (hap : Hap)
  | reading (hap : Hap) (offset : UInt64) (rest : List UInt8)
  /-- A chunk has been read and is to be sent. -/
  | data (hap : Hap) (offset : UInt64) (buf rest : List UInt8)
  | waitFinish (hap : Hap)
  /-- The client is to be told. -/
  | tell (hap : Hap)
  /-- The response channel and the temporary directories are to be taken off. -/
  | cleanup (result : IoResult Unit)
  | ended (result : IoResult Unit)
  deriving DecidableEq, Repr

/-- The phase, with what the two loops have still to do and the directories that the end of the
handler removes. -/
structure Install where
  phase : InstallPhase
  haps : List String
  packages : List String
  cleanupDirs : List String
  deriving DecidableEq, Repr

def Install.start (args : InstallArgs) : Install := ⟨.nextPackage, [], args.packages, []⟩

def Install.fail (s : Install) (e : IoError) : Install := { s with phase := .cleanup (.error e) }

inductive InstallAct where
  | next
  | tempDir (dir : String)
  | extracted (haps : List String)
  | metadata (content : List UInt8)
  /-- A read of the file returns `n` bytes. -/
  | read (n : Nat)
  | recv (task : TaskMessage)
  | closed
  | timeout
  /-- The client's channel takes the text, or does not. -/
  | tell (outcome : IoResult Unit)
  /-- The input or output of the phase fails with this error. -/
  | fail (e : IoError)
  deriving DecidableEq, Repr

/-- The texts for the client; whether its channel may then be ended; whether the response channel
is taken off; and the directories made and removed. -/
structure InstallOut where
  texts : List String := []
  mayEnd : Bool := false
  unregister : Bool := false
  createdDirs : List String := []
  removedDirs : List String := []
  deriving DecidableEq, Repr

section
variable (sessionId channelId : UInt32) (args : InstallArgs)

def appCheck (hap : Hap) : TaskMessage :=
  ⟨channelId, .appCheck, TransferConfig.serialize {
    fileSize := UInt64.ofNat hap.content.length
    options := args.options
    path := "/data/local/tmp/" ++ hap.fileName
    optionalName := hap.fileName
    functionName := "install" }⟩

def installMode : UInt8 → String
  | 1 => "install"
  | 2 => "uninstall"
  | 3 => "sideload"
  | _ => "unknown"

def installFailed (mode : UInt8) (msg : String) : IoError :=
  ⟨.other, "[Fail]App " ++ installMode mode ++ " failed: " ++ msg⟩

/-- The loop that waits for `AppBegin`. -/
def Install.onBegin (s : Install) (hap : Hap) (task : TaskMessage) : Install :=
  match task.command with
  | .kernelWakeupSlavetask => { s with phase := .waitBegin hap }
  | .appBegin => { s with phase := .opening hap }
  | other => s.fail ⟨.invalidData, "Expected AppBegin, got " ++ other.debug⟩

/-- `AppFinish`: the mode, a zero for success, and a text. -/
def Install.onAppFinish (s : Install) (hap : Hap) (payload : List UInt8) : Install :=
  match payload with
  | mode :: status :: msg =>
    if status = 0 then { s with phase := .tell hap }
    else s.fail (installFailed mode (fromUtf8Lossy msg))
  | _ => s.fail (installFailed 0 "Invalid AppFinish payload")

/-- The loop that waits for the result. -/
def Install.onResult (s : Install) (hap : Hap) (task : TaskMessage) : Install × InstallOut :=
  match task.command with
  | .appFinish => (s.onAppFinish hap task.payload, {})
  | .kernelEcho | .kernelEchoRaw => (s, { texts := [fromUtf8Lossy task.payload] })
  | .kernelChannelClose => (s.fail (installFailed 0 "Channel closed"), {})
  | _ => (s, {})

def Install.sending (s : Install) : Option (Sending Install) :=
  match s.phase with
  | .init hap => some {
      route := .sendToSession, sessionId
      msg := ⟨channelId, .appInit, []⟩
      next := { s with phase := .check hap }
      failed := s.fail }
  | .check hap => some {
      route := .sendToSession, sessionId
      msg := appCheck channelId args hap
      next := { s with phase := .waitBegin hap }
      failed := s.fail }
  | .data hap offset buf rest => some {
      route := .sendToSession, sessionId
      msg := ⟨channelId, .appData, paddedHead (chunkHead offset buf.length) ++ buf⟩
      next := { s with phase := .reading hap (offset + UInt64.ofNat buf.length) rest }
      failed := s.fail }
  | _ => none

/-- The two loops. -/
def Install.stepLoops (s : Install) (act : InstallAct) : Option (Install × InstallOut) :=
  match s.phase, s.packages, s.haps, act with
  | .nextPackage, [], _, .next => some ({ s with phase := .cleanup (.ok ()) }, { mayEnd := true })
  | .nextPackage, package :: packages, _, .next =>
    let appPath := args.appPath package
    some (if isAppPack appPath then { s with phase := .createDir appPath, packages }
      else { s with phase := .nextHap, haps := [appPath], packages }, {})
  | .createDir appPath, _, _, .tempDir dir =>
    some ({ s with phase := .extract appPath dir }, { createdDirs := [dir] })
  | .extract _ dir, _, _, .extracted haps =>
    -- the directory is noted for its removal only after the pack has been read
    some (if haps = [] then s.fail ⟨.invalidData, "No .hap found in .app package"⟩
      else { s with phase := .nextHap, haps, cleanupDirs := s.cleanupDirs ++ [dir] }, {})
  | .nextHap, _, [], .next => some ({ s with phase := .nextPackage }, {})
  | .nextHap, _, path :: haps, .metadata content =>
    some ({ s with phase := .init ⟨path, content⟩, haps }, {})
  | .nextHap, _, _ :: _, .fail e => some (s.fail ⟨.notFound, "App file not found: " ++ e.msg⟩, {})
  | .createDir _, _, _, .fail e | .extract .., _, _, .fail e => some (s.fail e, {})
  | .cleanup result, _, _, .next =>
    some ({ s with phase := .ended result }, { unregister := true, removedDirs := s.cleanupDirs })
  | _, _, _, _ => none

/-- `install_single_hap`, after its metadata. -/
def Install.stepHap (s : Install) (act : InstallAct) : Option (Install × InstallOut) :=
  match s.phase, act with
  | .waitBegin hap, .recv task => some (s.onBegin hap task, {})
  | .waitBegin _, .closed => some (s.fail responseChannelClosed, {})
  | .waitBegin _, .timeout => some (s.fail ⟨.timedOut, "Timeout waiting for AppBegin"⟩, {})
  | .opening hap, .next => some ({ s with phase := .reading hap 0 hap.content }, {})
  | .reading hap _ [], .next => some ({ s with phase := .waitFinish hap }, {})
  | .reading hap offset rest, .read n =>
    if 0 < n ∧ n ≤ chunkSize ∧ n ≤ rest.length then
      some ({ s with phase := .data hap offset (rest.take n) (rest.drop n) }, {})
    else none
  | .waitFinish hap, .recv task => some (s.onResult hap task)
  | .waitFinish _, .closed => some (s.fail (installFailed 0 "Response channel closed"), {})
  | .waitFinish _, .timeout =>
    some (s.fail ⟨.timedOut, "Timeout waiting for app install result"⟩, {})
  | .tell hap, .tell (.ok ()) =>
    some ({ s with phase := .nextHap }, { texts := ["AppMod finish: " ++ hap.fileName ++ "\r\n"] })
  | .tell _, .tell (.error e) | .opening _, .fail e | .reading .., .fail e => some (s.fail e, {})
  | _, _ => none

def Install.step (s : Install) (act : InstallAct) : Option (Install × InstallOut) :=
  (s.stepLoops args act).or (s.stepHap act)

/-- `handle_server_app_install`, from the registration of its response channel on. -/
def appInstall : ServerHandler Install InstallAct InstallOut where
  sending := Install.sending sessionId channelId args
  step := Install.step args

end

/-! The flash commands. -/

/-- `parse_flashd_file_args`. -/
def parseFlashdFileArgs (params : List String) (isUpdate : Bool) : IoResult (String × Bool) :=
  match params with
  | [] => .error ⟨.invalidInput, "Missing flashd command"⟩
  | _ :: args =>
    let minCount := if isUpdate then 1 else 2
    let fileIndex := if isUpdate then 0 else 1
    let hasForce := "-f" ∈ args
    let count := if hasForce then minCount + 1 else minCount
    if args.length ≠ count ∨ args.length ≤ fileIndex then
      .error ⟨.invalidInput, "Invalid flashd " ++ (if isUpdate then "update" else "flash") ++
        " arguments"⟩
    else .ok (args.getD (if hasForce then fileIndex + 1 else fileIndex) "", hasForce)

/-- `validate_flashd_file`. -/
def validateFlashdFile (path : String) : IoResult Unit :=
  let ext := toAsciiLowercase ((extension path).getD "")
  if ext ∈ ["img", "bin", "fd", "cpio", "zip"] then .ok ()
  else .error ⟨.invalidInput, "Invalid flashd file type: " ++ ext ++
    " (expected .img/.bin/.fd/.cpio/.zip)"⟩

/-- The image a command streams, or none for one that is a single message. -/
def flashdFile (cmd : HdcCommand) (params : List String) : IoResult (Option String) :=
  if cmd = .flashdUpdateInit ∨ cmd = .flashdFlashInit then do
    let (localPath, _) ← parseFlashdFileArgs params (cmd = .flashdUpdateInit)
    validateFlashdFile localPath
    return some localPath
  else .ok none

structure FlashdJob where
  sessionId : UInt32
  channelId : UInt32
  cmd : HdcCommand
  params : List String
  deriving DecidableEq, Repr

inductive FlashdPhase where
  | start
  | metadata (localPath : String)
  | check (localPath : String) (content : List UInt8)
  | waitBegin (content : List UInt8)
  | opening (content : List UInt8)
  | reading (fileSize offset : UInt64) (rest : List UInt8) (lastPercent : UInt8)
  | data (fileSize offset : UInt64) (buf rest : List UInt8) (lastPercent : UInt8)
  /-- A chunk has been sent, and the progress may be shown. -/
  | progress (fileSize offset : UInt64) (rest : List UInt8) (lastPercent : UInt8)
  | finish
  /-- `erase` or `format` is to be sent. -/
  | command
  | waitFinish
  /-- The response channel is to be taken off. -/
  | unregister (result : IoResult Unit)
  | ended (result : IoResult Unit)
  deriving DecidableEq, Repr

inductive FlashdAct where
  | next
  | metadata (content : List UInt8)
  | read (n : Nat)
  | recv (task : TaskMessage)
  | closed
  | timeout
  | fail (e : IoError)
  deriving DecidableEq, Repr

structure FlashdOut where
  texts : List String := []
  mayEnd : Bool := false
  registered : Bool := false
  unregistered : Bool := false
  deriving DecidableEq, Repr

namespace FlashdJob
variable (job : FlashdJob)

/-- `FlashdCheck`, with eight zeros in front of the config. -/
def flashdCheck (localPath : String) (content : List UInt8) : TaskMessage :=
  ⟨job.channelId, .flashdCheck, List.replicate 8 0 ++ TransferConfig.serialize {
    fileSize := UInt64.ofNat content.length
    options := String.intercalate " " job.params
    path := localPath
    optionalName := (fileName localPath).getD ""
    functionName := if job.cmd = .flashdUpdateInit then "flashd_update" else "flashd_flash" }⟩

def processing (percent : UInt8) : String := "\rProcessing: " ++ toString percent ++ "%"

/-- `wait_flashd_response`, and the text that follows it. -/
def onBegin (content : List UInt8) (task : TaskMessage) : FlashdPhase × FlashdOut :=
  if task.channelId ≠ job.channelId ∨ task.command = .kernelWakeupSlavetask then
    (.waitBegin content, {})
  else if task.command = .flashdBegin then (.opening content, { texts := [processing 0] })
  else (.unregister (invalidData ("Expected FlashdBegin, got " ++ task.command.debug)), {})

/-- `FlashdFinish`: the second byte is the level, and a text follows. -/
def onFlashdFinish (payload : List UInt8) : FlashdPhase × FlashdOut :=
  match payload with
  | _ :: level :: info =>
    let info := fromUtf8Lossy info
    if level = MessageLevel.ok.asU8 then
      (.unregister (.ok ()),
        { texts := [if info = "" then "\r\n" else "\r\n" ++ info ++ "\r\n"], mayEnd := true })
    else (.unregister (.error ⟨.other, "[Fail]Flashd failed: " ++ info⟩), {})
  | _ => (.unregister (invalidData "Invalid FlashdFinish payload"), {})

/-- `wait_flashd_finish`. -/
def onFinish (task : TaskMessage) : FlashdPhase × FlashdOut :=
  if task.channelId ≠ job.channelId then (.waitFinish, {})
  else match task.command with
    | .flashdFinish => onFlashdFinish task.payload
    | .flashdProgress =>
      (.waitFinish, { texts := (task.payload.head?.map processing).toList })
    | .kernelEcho | .kernelEchoRaw => (.waitFinish, { texts := [fromUtf8Lossy task.payload] })
    | .kernelChannelClose =>
      (.unregister (.error ⟨.connectionAborted, "Channel closed"⟩), {})
    | _ => (.waitFinish, {})

def sending : FlashdPhase → Option (Sending FlashdPhase)
  | .check localPath content => some {
      route := .sendToSession, sessionId := job.sessionId
      msg := job.flashdCheck localPath content
      next := .waitBegin content
      failed := fun e => .unregister (.error e) }
  | .data fileSize offset buf rest lastPercent => some {
      route := .sendToSession, sessionId := job.sessionId
      msg := ⟨job.channelId, .flashdData, paddedHead (chunkHead offset buf.length) ++ buf⟩
      next := .progress fileSize (offset + UInt64.ofNat buf.length) rest lastPercent
      failed := fun e => .unregister (.error e) }
  | .finish => some {
      route := .sendToSession, sessionId := job.sessionId
      msg := ⟨job.channelId, .flashdFinish, [1]⟩
      next := .waitFinish
      failed := fun e => .unregister (.error e) }
  | .command => some {
      route := .sendToSession, sessionId := job.sessionId
      msg := ⟨job.channelId, job.cmd, utf8 (String.intercalate " " job.params)⟩
      next := .waitFinish
      failed := fun e => .unregister (.error e) }
  | _ => none

/-- The first steps, up to the first message. -/
def begin : FlashdPhase :=
  match flashdFile job.cmd job.params with
  | .error e => .unregister (.error e)
  | .ok (some localPath) => .metadata localPath
  | .ok none => .command

/-- The steps of `handle_server_flashd`. The percentage of a size that is done is computed in
floating point, and is a parameter here. -/
def step (percent : UInt64 → UInt64 → UInt8) :
    FlashdPhase → FlashdAct → Option (FlashdPhase × FlashdOut)
  | .start, .next => some (job.begin, { registered := true })
  | .metadata localPath, .metadata content => some (.check localPath content, {})
  | .metadata _, .fail e =>
    some (.unregister (.error ⟨.notFound, "Flashd file not found: " ++ e.msg⟩), {})
  | .waitBegin content, .recv task => some (job.onBegin content task)
  | .waitBegin _, .closed => some (.unregister (.error responseChannelClosed), {})
  | .waitBegin _, .timeout =>
    some (.unregister (.error ⟨.timedOut, "Timeout waiting for FlashdBegin"⟩), {})
  | .opening content, .next =>
    some (.reading (UInt64.ofNat content.length) 0 content 0, {})
  | .reading _ _ [] _, .next => some (.finish, {})
  | .reading fileSize offset rest lastPercent, .read n =>
    if 0 < n ∧ n ≤ chunkSize ∧ n ≤ rest.length then
      some (.data fileSize offset (rest.take n) (rest.drop n) lastPercent, {})
    else none
  | .progress fileSize offset rest lastPercent, .next =>
    let done := if 0 < fileSize then percent offset fileSize else 100
    some (.reading fileSize offset rest done,
      { texts := if done ≠ lastPercent then [processing done] else [] })
  | .waitFinish, .recv task => some (job.onFinish task)
  | .waitFinish, .closed => some (.unregister (.error responseChannelClosed), {})
  | .waitFinish, .timeout =>
    some (.unregister (.error ⟨.timedOut, "Timeout waiting for FlashdFinish"⟩), {})
  | .opening _, .fail e | .reading .., .fail e => some (.unregister (.error e), {})
  | .unregister result, .next => some (.ended result, { unregistered := true })
  | _, _ => none

end FlashdJob

/-- `handle_server_flashd`. -/
def flashd (percent : UInt64 → UInt64 → UInt8) (job : FlashdJob) :
    ServerHandler FlashdPhase FlashdAct FlashdOut where
  sending := job.sending
  step := job.step percent

end Hdc
