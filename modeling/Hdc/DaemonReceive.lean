import Hdc.FileDaemon

/- Whole file transfers to the daemon (`hdcd/src/file.rs`): what is in the target file when a
   `FileFinish` is answered, whatever commands came before it on the channel.

   The handlers take the commands in any order. Data that comes before the file is open is passed
   over, every `FileBegin` truncates the file, and `FileFinish` closes the channel without a look
   at the sizes it logs. None of this is told to the host. `Orderly` is what the commands since the
   `FileInit` have to keep to; `ReceiveCase` is what one of them does to the transfer, and
   `Receiving.run` and `Writing.run` carry that over a run of them. -/
namespace Hdc
open Rust Wire

/-! Runs of file commands. -/

/-- The commands one after the other, each with what the file system answers, and the replies. -/
def fileRun (sessionId : UInt32) :
    DaemonFiles → List (FsOutcome × TaskMessage) → DaemonFiles × List TaskMessage
  | d, [] => (d, [])
  | d, (io, msg) :: inputs =>
    let (d, replies) := handleFileTask sessionId io d msg
    let (d, rest) := fileRun sessionId d inputs
    (d, replies ++ rest)

/-- The commands of a transfer to the daemon. -/
def receiveCommands : List HdcCommand := [.fileInit, .fileCheck, .fileBegin, .fileData, .fileFinish]

/-- A command of a transfer on the channel, while the file system does not fail. -/
def OnChannel (channelId : UInt32) (input : FsOutcome × TaskMessage) : Prop :=
  input.1.NoFailure ∧ input.2.channelId = channelId ∧ input.2.command ∈ receiveCommands

instance (channelId : UInt32) (input : FsOutcome × TaskMessage) :
    Decidable (OnChannel channelId input) :=
  inferInstanceAs (Decidable (_ ∧ _))

/-- An echo with the level of a failure. -/
def failEcho (reply : TaskMessage) : Bool :=
  reply.command == .kernelEcho && reply.payload.head? == some MessageLevel.fail.asU8

/-- The data the commands bring. -/
def dataBytes (msgs : List TaskMessage) : List UInt8 :=
  msgs.flatMap fun msg => if msg.command = .fileData then msg.payload else []

/-- The config of the last `FileCheck`, if there is one after `config`. -/
def lastCheck (config : Option TransferConfig) : List TaskMessage → Option TransferConfig
  | [] => config
  | msg :: msgs =>
    if msg.command = .fileCheck then
      match TransferConfig.deserialize msg.payload with
      | .ok config' => lastCheck (some config') msgs
      | .error _ => lastCheck config msgs
    else lastCheck config msgs

/-- The path of the target after a command, and after some. -/
def pathAfter (path : String) (msg : TaskMessage) : String :=
  if msg.command = .fileCheck then
    match TransferConfig.deserialize msg.payload with
    | .ok config => config.path
    | .error _ => path
  else path

def transferPath (path : String) (msgs : List TaskMessage) : String := msgs.foldl pathAfter path

/-- The path in a `FileInit`. -/
def initPath (init : TaskMessage) : String := ((parseFilePaths init.payload).map Prod.snd).getD ""

/-- The commands since a `FileInit`: no data before the last `FileBegin`, whose target is the one
at the end, and as much data as the last `FileCheck` has announced. -/
structure Orderly (init : TaskMessage) (since : List TaskMessage) : Prop where
  opened : ∃ early begin_ rest, since = early ++ begin_ :: rest ∧ begin_.command = .fileBegin ∧
    dataBytes early = [] ∧ (∀ msg ∈ rest, msg.command ≠ .fileBegin) ∧
    transferPath (initPath init) since = transferPath (initPath init) early
  announced : ∃ config, lastCheck none since = some config ∧
    (dataBytes since).length = config.fileSize.toNat

/-! One command. -/

/-- The transfer of the channel, with its target and the file it has open. -/
def Receiving (d : DaemonFiles) (sessionId channelId : UInt32) (path : String)
    (file : Option FileHandle) : Prop :=
  ∃ state, d.get sessionId channelId = some state ∧ state.direction = .send ∧
    state.remotePath = path ∧ state.file = file

/-- What a command other than `FileInit` does to a transfer. -/
inductive ReceiveCase (sessionId channelId : UInt32) (path : String) (file : Option FileHandle)
    (d : DaemonFiles) (msg : TaskMessage) (d' : DaemonFiles) : Prop
  /-- Checks, and data that there is no file for. -/
  | keeps (h : Receiving d' sessionId channelId (pathAfter path msg) file) (hfs : d'.fs = d.fs)
      (hcommand : msg.command ≠ .fileBegin)
      (hdata : msg.command = .fileData → file = none)
  | begins (h : Receiving d' sessionId channelId path (some ⟨path, 0⟩))
      (hfs : d'.fs = d.fs.create path) (hcommand : msg.command = .fileBegin)
  | writes (handle : FileHandle) (hfile : file = some handle)
      (h : Receiving d' sessionId channelId path
        (some { handle with pos := handle.pos + msg.payload.length }))
      (hfs : d'.fs = d.fs.write handle msg.payload) (hcommand : msg.command = .fileData)
  | finishes (h : d'.get sessionId channelId = none) (hfs : d'.fs = d.fs)
      (hcommand : msg.command = .fileFinish)

section
variable {sessionId channelId : UInt32} {d : DaemonFiles} {path : String}
  {file : Option FileHandle}

@[simp] theorem DaemonFiles.get_put (d : DaemonFiles) (sessionId channelId : UInt32)
    (state : FileTransferState) :
    (d.put sessionId channelId state).get sessionId channelId = some state := by
  simp [DaemonFiles.get, DaemonFiles.put]

@[simp] theorem DaemonFiles.get_remove (d : DaemonFiles) (sessionId channelId : UInt32) :
    (d.remove sessionId channelId).get sessionId channelId = none := by
  simp [DaemonFiles.get, DaemonFiles.remove]

theorem Receiving.step (h : Receiving d sessionId channelId path file)
    {input : FsOutcome × TaskMessage} (hinput : OnChannel channelId input)
    (hinit : input.2.command ≠ .fileInit) :
    ReceiveCase sessionId channelId path file d input.2
      (handleFileTask sessionId input.1 d input.2).1 := by
  obtain ⟨io, ⟨channelId', command, payload⟩⟩ := input
  obtain ⟨state, hget, hdirection, rfl, rfl⟩ := h
  obtain ⟨⟨herror, -⟩, rfl, hcommand⟩ := hinput
  replace herror : io.error = none := herror
  simp only [receiveCommands, List.mem_cons, List.not_mem_nil, or_false] at hcommand
  rcases hcommand with rfl | rfl | rfl | rfl | rfl
  · exact absurd rfl hinit
  · simp only [handleFileTask, handleFileCheck, hget]
    cases hdecode : TransferConfig.deserialize payload with
    | error e =>
      refine .keeps ⟨state, hget, hdirection, ?_, rfl⟩ rfl (by simp) (by simp)
      simp [pathAfter, hdecode]
    | ok config =>
      refine .keeps ⟨_, DaemonFiles.get_put .., hdirection, ?_, rfl⟩ rfl (by simp) (by simp)
      simp [pathAfter, hdecode]
  · simp only [handleFileTask, handleFileBegin, hget, hdirection, herror]
    exact .begins ⟨_, DaemonFiles.get_put .., rfl, rfl, rfl⟩ rfl rfl
  · simp only [handleFileTask, handleFileData, hget, hdirection, herror]
    cases hfile : state.file with
    | none => exact .keeps ⟨state, hget, hdirection, rfl, hfile⟩ rfl (by simp) (fun _ => rfl)
    | some handle =>
      exact .writes handle rfl ⟨_, DaemonFiles.get_put .., rfl, rfl, rfl⟩ rfl rfl
  · simp only [handleFileTask, handleFileFinish, hget]
    exact .finishes (DaemonFiles.get_remove ..) rfl rfl

/-- Without a transfer, only a `FileInit` makes one. -/
theorem get_none_step (h : d.get sessionId channelId = none) {input : FsOutcome × TaskMessage}
    (hinput : OnChannel channelId input) (hinit : input.2.command ≠ .fileInit) :
    (handleFileTask sessionId input.1 d input.2).1.get sessionId channelId = none := by
  obtain ⟨io, ⟨channelId', command, payload⟩⟩ := input
  obtain ⟨-, rfl, hcommand⟩ := hinput
  simp only [receiveCommands, List.mem_cons, List.not_mem_nil, or_false] at hcommand
  rcases hcommand with rfl | rfl | rfl | rfl | rfl
  · exact absurd rfl hinit
  · simp only [handleFileTask, handleFileCheck, h]
    cases TransferConfig.deserialize payload <;> exact h
  all_goals
    simp only [handleFileTask, handleFileBegin, handleFileData, handleFileFinish, h]

/-! Runs of commands. -/

theorem fileRun_cons (d : DaemonFiles) (input : FsOutcome × TaskMessage)
    (inputs : List (FsOutcome × TaskMessage)) : (fileRun sessionId d (input :: inputs)).1 =
      (fileRun sessionId (handleFileTask sessionId input.1 d input.2).1 inputs).1 := rfl

theorem fileRun_append (d : DaemonFiles) (inputs inputs' : List (FsOutcome × TaskMessage)) :
    (fileRun sessionId d (inputs ++ inputs')).1 =
      (fileRun sessionId (fileRun sessionId d inputs).1 inputs').1 := by
  induction inputs generalizing d with
  | nil => rfl
  | cons input inputs ih => exact ih _

/-- The commands of a transfer after its `FileInit`. -/
def Continues (channelId : UInt32) (inputs : List (FsOutcome × TaskMessage)) : Prop :=
  ∀ input ∈ inputs, OnChannel channelId input ∧ input.2.command ≠ .fileInit

theorem get_none_run {inputs : List (FsOutcome × TaskMessage)}
    (hinputs : Continues channelId inputs) (h : d.get sessionId channelId = none) :
    (fileRun sessionId d inputs).1.get sessionId channelId = none := by
  induction inputs generalizing d with
  | nil => exact h
  | cons input inputs ih =>
    obtain ⟨⟨hinput, hinit⟩, hrest⟩ := List.forall_mem_cons.mp hinputs
    exact ih hrest (get_none_step h hinput hinit)

/-- A transfer goes on under the path of the last check, or is over. -/
theorem Receiving.run {inputs : List (FsOutcome × TaskMessage)}
    (hinputs : Continues channelId inputs) (h : Receiving d sessionId channelId path file) :
    (fileRun sessionId d inputs).1.get sessionId channelId = none ∨
      ∃ file', Receiving (fileRun sessionId d inputs).1 sessionId channelId
        (transferPath path (inputs.map Prod.snd)) file' := by
  induction inputs generalizing d path file with
  | nil => exact Or.inr ⟨file, h⟩
  | cons input inputs ih =>
    obtain ⟨⟨hinput, hinit⟩, hrest⟩ := List.forall_mem_cons.mp hinputs
    rw [fileRun_cons, List.map_cons, transferPath, List.foldl_cons]
    cases h.step hinput hinit with
    | keeps h => exact ih hrest h
    | begins h _ hcommand =>
      rw [pathAfter, if_neg (by simp [hcommand])]
      exact ih hrest h
    | writes handle _ h _ hcommand =>
      rw [pathAfter, if_neg (by simp [hcommand])]
      exact ih hrest h
    | finishes h => exact Or.inl (get_none_run hrest h)

theorem writeAt_end (content data : List UInt8) :
    writeAt content content.length data = content ++ data := by
  simp [writeAt]

/-- The transfer writes at the end of the file at `opened`. -/
def Writing (d : DaemonFiles) (sessionId channelId : UInt32) (path opened : String)
    (content : List UInt8) : Prop :=
  Receiving d sessionId channelId path (some ⟨opened, content.length⟩) ∧ d.fs opened = some content

/-- Until the next `FileBegin` the data is appended, or the transfer is over. -/
theorem Writing.run {inputs : List (FsOutcome × TaskMessage)} {opened : String}
    {content : List UInt8} (hinputs : Continues channelId inputs)
    (hbegin : ∀ input ∈ inputs, input.2.command ≠ .fileBegin)
    (h : Writing d sessionId channelId path opened content) :
    (fileRun sessionId d inputs).1.get sessionId channelId = none ∨
      Writing (fileRun sessionId d inputs).1 sessionId channelId
        (transferPath path (inputs.map Prod.snd)) opened
        (content ++ dataBytes (inputs.map Prod.snd)) := by
  induction inputs generalizing d path content with
  | nil => exact Or.inr (by simpa [dataBytes, transferPath, fileRun] using h)
  | cons input inputs ih =>
    obtain ⟨⟨hinput, hinit⟩, hrest⟩ := List.forall_mem_cons.mp hinputs
    obtain ⟨hbegin₁, hbegin⟩ := List.forall_mem_cons.mp hbegin
    obtain ⟨hreceiving, hcontent⟩ := h
    rw [fileRun_cons, List.map_cons, transferPath, List.foldl_cons, dataBytes, List.flatMap_cons]
    cases hreceiving.step hinput hinit with
    | keeps h hfs hcommand hdata =>
      rw [if_neg (fun heq => by cases hdata heq), List.nil_append]
      exact ih hrest hbegin ⟨h, hfs ▸ hcontent⟩
    | begins h hfs hcommand => exact absurd hcommand hbegin₁
    | writes handle hfile h hfs hcommand =>
      cases hfile
      rw [pathAfter, if_neg (by simp [hcommand]), if_pos hcommand, ← List.append_assoc]
      refine ih hrest hbegin ⟨?_, ?_⟩
      · rw [List.length_append]
        exact h
      · rw [hfs, Fs.write, hcontent]
        simp [writeAt_end]
    | finishes h => exact Or.inl (get_none_run hrest h)

/-- A `FileInit` that is not refused starts a transfer. -/
theorem Receiving.of_init {init : FsOutcome × TaskMessage} (hinput : OnChannel channelId init)
    (hcommand : init.2.command = .fileInit)
    (hfail : ∀ reply ∈ (handleFileTask sessionId init.1 d init.2).2, failEcho reply = false) :
    Receiving (handleFileTask sessionId init.1 d init.2).1 sessionId channelId
      (initPath init.2) none := by
  obtain ⟨io, ⟨channelId', command, payload⟩⟩ := init
  obtain ⟨-, rfl, -⟩ := hinput
  subst hcommand
  simp only [handleFileTask, handleFileInit] at hfail ⊢
  cases hpaths : parseFilePaths payload with
  | none =>
    simp only [hpaths, List.mem_singleton, forall_eq] at hfail
    exact absurd hfail (by simp [failEcho, echoClient])
  | some paths =>
    exact ⟨_, DaemonFiles.get_put .., rfl, by simp [initPath, hpaths], rfl⟩

theorem dataBytes_append (msgs msgs' : List TaskMessage) :
    dataBytes (msgs ++ msgs') = dataBytes msgs ++ dataBytes msgs' :=
  List.flatMap_append

theorem dataBytes_cons_of_ne {msg : TaskMessage} (h : msg.command ≠ .fileData)
    (msgs : List TaskMessage) : dataBytes (msg :: msgs) = dataBytes msgs := by
  simp [dataBytes, h]

/-- After orderly commands the target has all the data, or the transfer is over. -/
theorem Receiving.orderly {since : List (FsOutcome × TaskMessage)} {init : TaskMessage}
    (h : Receiving d sessionId channelId (initPath init) file)
    (hsince : Continues channelId since) (horderly : Orderly init (since.map Prod.snd)) :
    (fileRun sessionId d since).1.get sessionId channelId = none ∨
      ∃ path, Writing (fileRun sessionId d since).1 sessionId channelId path path
        (dataBytes (since.map Prod.snd)) := by
  obtain ⟨early, begin_, rest, heq, hbegin, hearly, hrest, hpath⟩ := horderly.opened
  obtain ⟨early', since', rfl, rfl, heq'⟩ := List.map_eq_append_iff.mp heq
  obtain ⟨begin', rest', rfl, rfl, rfl⟩ := List.map_eq_cons_iff.mp heq'
  have hearly' : Continues channelId early' := fun x hx => hsince x (List.mem_append_left _ hx)
  have hlate : Continues channelId (begin' :: rest') :=
    fun x hx => hsince x (List.mem_append_right _ hx)
  obtain ⟨⟨hinput, hinit⟩, hrest'⟩ := List.forall_mem_cons.mp hlate
  rw [fileRun_append, fileRun_cons]
  rcases h.run hearly' with hnone | ⟨file', hreceiving⟩
  · exact Or.inl (get_none_run hrest' (get_none_step hnone hinput hinit))
  -- the file is created at the path of the moment, which is that of the end
  cases hreceiving.step hinput hinit with
  | keeps _ _ hcommand => exact absurd hbegin hcommand
  | writes _ _ _ _ hcommand => simp [hbegin] at hcommand
  | finishes _ _ hcommand => simp [hbegin] at hcommand
  | begins hopened hfs _ =>
    have hwriting : Writing (handleFileTask sessionId begin'.1
        (fileRun sessionId d early').1 begin'.2).1 sessionId channelId
        (transferPath (initPath init) (early'.map Prod.snd))
        (transferPath (initPath init) (early'.map Prod.snd)) [] :=
      ⟨hopened, by simp [hfs, Fs.create]⟩
    have hnobegin : ∀ input ∈ rest', input.2.command ≠ .fileBegin :=
      fun input hmem => hrest input.2 (List.mem_map_of_mem hmem)
    -- nor do the checks after it change the target for good
    have hstays : transferPath (transferPath (initPath init) (early'.map Prod.snd))
        (rest'.map Prod.snd) = transferPath (initPath init) (early'.map Prod.snd) := by
      rw [List.map_append, List.map_cons, transferPath, List.foldl_append, List.foldl_cons,
        pathAfter, if_neg (by simp [hbegin])] at hpath
      exact hpath
    have hdata : dataBytes ((early' ++ begin' :: rest').map Prod.snd) =
        [] ++ dataBytes (rest'.map Prod.snd) := by
      rw [List.map_append, List.map_cons, dataBytes_append, hearly,
        dataBytes_cons_of_ne (by simp [hbegin])]
    have hend := hwriting.run hrest' hnobegin
    rw [hstays, ← hdata] at hend
    exact hend.imp_right fun h => ⟨_, h⟩

end

/-! The answer to a `FileFinish`. -/

/-- The file of the transfer has all the data since its `FileInit`, as much as was announced. -/
def receivedWhole (d : DaemonFiles) (sessionId channelId : UInt32) (since : List TaskMessage) :
    Bool :=
  match d.get sessionId channelId, lastCheck none since with
  | some state, some config => d.fs state.remotePath == some (dataBytes since) &&
      (dataBytes since).length == config.fileSize.toNat
  | _, _ => false

/-- If the `FileFinish` after a `FileInit` and the commands since is answered with a close, and no
failure has been told of, the transfer is whole. -/
def LosesNothing (sessionId channelId : UInt32) (d : DaemonFiles) (init : FsOutcome × TaskMessage)
    (since : List (FsOutcome × TaskMessage)) (finish : FsOutcome × TaskMessage) : Prop :=
  let before := fileRun sessionId d (init :: since)
  let answer := handleFileTask sessionId finish.1 before.1 finish.2
  channelClose channelId ∈ answer.2 → (∀ reply ∈ before.2 ++ answer.2, failEcho reply = false) →
    answer.1.fs = before.1.fs ∧
      receivedWhole before.1 sessionId channelId (since.map Prod.snd) = true

/-- In every daemon, whatever it has been through, a transfer of orderly commands that is answered
with a close is whole. -/
theorem daemon_receive_loses_nothing (sessionId channelId : UInt32) (d : DaemonFiles)
    (init : FsOutcome × TaskMessage) (since : List (FsOutcome × TaskMessage))
    (finish : FsOutcome × TaskMessage)
    (hinputs : ∀ input ∈ init :: (since ++ [finish]), OnChannel channelId input)
    (hinit : init.2.command = .fileInit) (hsince : ∀ input ∈ since, input.2.command ≠ .fileInit)
    (hfinish : finish.2.command = .fileFinish)
    (horderly : Orderly init.2 (since.map Prod.snd)) :
    LosesNothing sessionId channelId d init since finish := by
  obtain ⟨hinput₀, hinputs⟩ := List.forall_mem_cons.mp hinputs
  have hcontinues : Continues channelId since :=
    fun input hmem => ⟨hinputs input (List.mem_append_left _ hmem), hsince input hmem⟩
  have hchannel : finish.2.channelId = channelId :=
    (hinputs finish (List.mem_append_right _ (List.mem_singleton_self _))).2.1
  have hanswer : ∀ d', handleFileTask sessionId finish.1 d' finish.2 =
      handleFileFinish sessionId d' finish.2 := by
    simp [handleFileTask, hfinish]
  dsimp only [LosesNothing]
  rw [hanswer]
  intro hclose hfail
  have hfirst : ∀ reply ∈ (handleFileTask sessionId init.1 d init.2).2, failEcho reply = false :=
    fun reply hmem => hfail reply (List.mem_append_left _ (List.mem_append_left _ hmem))
  have hend := (Receiving.of_init hinput₀ hinit hfirst).orderly hcontinues horderly
  rw [← fileRun_cons] at hend
  rcases hend with hnone | ⟨path, ⟨state, hget, -, hpath, -⟩, hcontent⟩
  · rw [handleFileFinish, hchannel, hnone] at hclose
    simp [channelClose, echoClient] at hclose
  · obtain ⟨config, hconfig, hlength⟩ := horderly.announced
    rw [handleFileFinish, hchannel, receivedWhole, hget, hconfig]
    simp only [hpath, hcontent, hlength, beq_self_eq_true, Bool.and_self, and_true]
    rfl

/-- A daemon without transfers and files. -/
def idleDaemon : DaemonFiles := ⟨fun _ => none, fun _ => none⟩

/-- The start of a transfer of two bytes to `/data/a.txt`. -/
def smallInit : FsOutcome × TaskMessage :=
  ({}, ⟨7, .fileInit, utf8 "file send a.txt /data/a.txt"⟩)

def smallCheck : FsOutcome × TaskMessage :=
  ({}, ⟨7, .fileCheck, TransferConfig.serialize { path := "/data/a.txt", fileSize := 2 }⟩)

def smallBegin : FsOutcome × TaskMessage := ({}, ⟨7, .fileBegin, []⟩)

def smallData (payload : List UInt8) : FsOutcome × TaskMessage := ({}, ⟨7, .fileData, payload⟩)

def smallFinish : FsOutcome × TaskMessage := ({}, ⟨7, .fileFinish, []⟩)

theorem daemon_receive_two_bytes :
    LosesNothing 5 7 idleDaemon smallInit
      [smallCheck, smallBegin, smallData [104], smallData [105]] smallFinish := by
  refine daemon_receive_loses_nothing 5 7 idleDaemon smallInit
    [smallCheck, smallBegin, smallData [104], smallData [105]] smallFinish
    (by decide) rfl (by decide) rfl ⟨?_, ?_⟩
  · exact ⟨[smallCheck.2], smallBegin.2, [(smallData [104]).2, (smallData [105]).2], rfl,
      rfl, by decide, by decide, by decide⟩
  · exact ⟨{ path := "/data/a.txt", fileSize := 2 }, by decide, by decide⟩

/-- Data before the `FileBegin`, a second `FileBegin` and data that does not come at all: each of
the three transfers is closed, with no echo, and has lost the first byte or both. -/
theorem daemon_receive_loses_silently :
    ¬ LosesNothing 5 7 idleDaemon smallInit
      [smallData [104], smallCheck, smallBegin, smallData [105]] smallFinish ∧
    ¬ LosesNothing 5 7 idleDaemon smallInit
      [smallCheck, smallBegin, smallData [104], smallBegin, smallData [105]]
      smallFinish ∧
    ¬ LosesNothing 5 7 idleDaemon smallInit [smallCheck, smallBegin] smallFinish := by
  refine ⟨fun h => ?_, fun h => ?_, fun h => ?_⟩
  all_goals exact absurd (h (by decide) (by decide)).2 (by decide)

end Hdc
