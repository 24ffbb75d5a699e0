import Hdc.Parser

/- How a command line gets from the client to the server (`hdc/src/client.rs`,
   `handle_client` of `hdc/src/server.rs`). The client joins its parameters with single spaces,
   the server splits the text at spaces and searches the words for a command. Nothing quotes a
   space, so the server has the client's parameters exactly when none of them has one:
   `survives_hop_iff`. -/
namespace Hdc
open Rust

/-- The arms of `execute_command` for `file send` and `file recv`, `install`, and the commands
that forward ports. -/
inductive HopTask where
  | fileSendTask | appInstallTask | forwardTask
  deriving DecidableEq, Repr

def hopTask : HdcCommand → Option HopTask
  | .fileInit | .fileCheck | .fileRecvInit => some .fileSendTask
  | .appInit => some .appInstallTask
  | .forwardInit | .forwardRportInit | .forwardList | .forwardRportList | .forwardRemove
  | .forwardRportRemove => some .forwardTask
  | _ => none

/-- `Vec::insert`, which panics past the end. -/
def vecInsert {α : Type} (v : List α) (index : Nat) (a : α) : Option (List α) :=
  if index ≤ v.length then some (v.take index ++ a :: v.drop index) else none

/-- `-cwd` and the working directory, in front of the arguments of the command. -/
def insertCwd (currentDir : IoResult String) (commandFieldCount : Nat) (params : List String) :
    Option (IoResult (List String)) :=
  match currentDir with
  | .error e => some (.error e)
  | .ok dir => do
    let params ← vecInsert params commandFieldCount "-cwd"
    let params ← vecInsert params (commandFieldCount + 1) (dir ++ "/")
    return .ok params

def fileSendTask (currentDir : IoResult String) (command : HdcCommand) (params : List String) :
    Option (IoResult (List String)) :=
  if command = .fileInit then insertCwd currentDir 2 params else some (.ok params)

def appInstallTask (currentDir : IoResult String) (params : List String) :
    Option (IoResult (List String)) :=
  insertCwd currentDir 1 params

def forwardTask (command : HdcCommand) (params : List String) : IoResult (List String) :=
  if (command = .forwardRemove ∨ command = .forwardRportRemove) ∧ params.length < 2 then
    .error ⟨.invalidInput, "Too few arguments."⟩
  else if (command = .forwardInit ∨ command = .forwardRportInit) ∧ params.length < 3 then
    .error ⟨.invalidInput, "Too few arguments."⟩
  else .ok params

/-- The parameters that the task sends; `none` is a panic. -/
def HopTask.sends (currentDir : IoResult String) (command : HdcCommand) (params : List String) :
    HopTask → Option (IoResult (List String))
  | .fileSendTask => Hdc.fileSendTask currentDir command params
  | .appInstallTask => Hdc.appInstallTask currentDir params
  | .forwardTask => some (Hdc.forwardTask command params)

/-- `params.join(" ").as_bytes()`. -/
def joinParams (params : List String) : List UInt8 := utf8 (String.intercalate " " params)

/-- What `handle_client` makes of a message. -/
def parseReceived (recv : List UInt8) : Parsed :=
  splitOptAndCmd ((split ' ' (fromUtf8Lossy recv)).map (trimEndMatches '\x00'))

/-- What the insertions make of the parameters. -/
theorem insertCwd_eq_ok {currentDir : IoResult String} {n : Nat} {params sent : List String}
    (h : insertCwd currentDir n params = some (.ok sent)) :
    ∃ dir, currentDir = .ok dir ∧
      sent = params.take n ++ "-cwd" :: (dir ++ "/") :: params.drop n := by
  cases currentDir with
  | error e => cases h
  | ok dir =>
    simp only [insertCwd, vecInsert, Option.bind_eq_bind] at h
    split at h
    · rename_i hn
      have htake : (params.take n).length = n := List.length_take_of_le hn
      refine ⟨dir, rfl, ?_⟩
      have hlen : n + 1 ≤ (params.take n ++ "-cwd" :: params.drop n).length := by
        rw [List.length_append, htake, List.length_cons]
        omega
      rw [Option.bind_some, if_pos hlen, Option.bind_some] at h
      cases h
      rw [List.take_append, List.drop_append, htake, Nat.add_sub_cancel_left,
        List.take_of_length_le (htake.trans_le n.le_succ),
        List.drop_of_length_le (htake.trans_le n.le_succ)]
      simp
    · cases h

/-- Words that have neither a space nor a NUL arrive as they are. -/
theorem parseReceived_joinParams {sent : List String} (hne : sent ≠ []) (hspaceless : Spaceless sent)
    (hnul : ∀ word ∈ sent, '\x00' ∉ word.toList) :
    parseReceived (joinParams sent) = splitOptAndCmd sent := by
  have htrim : sent.map (trimEndMatches '\x00') = sent := by
    conv_rhs => rw [← List.map_id sent]
    exact List.map_congr_left fun word hword => trimEndMatches_of_not_mem (hnul word hword)
  have hsplit : split ' ' (String.intercalate " " sent) = sent := split_intercalate hspaceless hne
  rw [parseReceived, joinParams, fromUtf8Lossy_utf8, hsplit, htrim]

/-- Whatever was received, the parameters found in it have no space. -/
theorem parseReceived_spaceless (recv : List UInt8) :
    Spaceless (parseReceived recv).parameters := by
  intro word hword hspace
  obtain ⟨part, hpart, rfl⟩ := List.mem_map.mp (List.mem_of_mem_drop hword)
  refine not_mem_of_mem_split hpart ?_
  rw [trimEndMatches, String.toList_ofList] at hspace
  exact (List.rdropWhile_prefix _ _).subset hspace

theorem splitOptAndCmd_of_scan {input : List String} {command : HdcCommand}
    (h : scanCommands 0 input (none, input.length) = (some command, 0)) :
    splitOptAndCmd input = ⟨[], some command, input⟩ := by
  rw [splitOptAndCmd, h]
  simp

/-- The words of a command that is no forward are found again, whatever stands after them. -/
theorem splitOptAndCmd_fileInit (args : List String) :
    splitOptAndCmd ("file" :: "send" :: args) = ⟨[], some .fileInit, "file" :: "send" :: args⟩ := by
  apply splitOptAndCmd_of_scan
  have hfile : cmdMap.lookup "file" = none := by decide
  have hsend : cmdMap.lookup "file send" = some .fileInit := by decide
  have hlen : ¬ args.length + 1 + 1 < 2 := by omega
  simp [scanCommands, scanLens, maxCmdLen, List.range', hfile, hsend, hlen, opensForward]

theorem splitOptAndCmd_appInit (args : List String) :
    splitOptAndCmd ("install" :: args) = ⟨[], some .appInit, "install" :: args⟩ := by
  apply splitOptAndCmd_of_scan
  have hinstall : cmdMap.lookup "install" = some .appInit := by decide
  simp [scanCommands, scanLens, maxCmdLen, List.range', hinstall, opensForward]

/-- A command with one name is found at the words of that name. -/
theorem params_of_scan {command : HdcCommand} {words : List String}
    (hname : ∀ entry ∈ commandWords, entry.2 = command → entry.1 = words) {params : List String}
    (hspaceless : Spaceless params) {i : Nat}
    (hscan : scanCommands 0 params (none, i) = (some command, 0)) :
    ∃ args, params = words ++ args := by
  cases params with
  | nil => cases hscan
  | cons arg args =>
    obtain ⟨found, hmem, rest, heq⟩ := scanCommands_words hspaceless hscan
    rw [show found = words from hname _ hmem rfl] at heq
    exact ⟨rest, heq.symm⟩

theorem Spaceless.of_insertCwd {currentDir : IoResult String} {n : Nat} {params sent : List String}
    (h : insertCwd currentDir n params = some (.ok sent)) (hsent : Spaceless sent) :
    Spaceless params := by
  obtain ⟨dir, -, rfl⟩ := insertCwd_eq_ok h
  intro word hword
  rw [← List.take_append_drop n params] at hword
  apply hsent
  rcases List.mem_append.mp hword with hword | hword
  · exact List.mem_append_left _ hword
  · exact List.mem_append_right _ (List.mem_cons_of_mem _ (List.mem_cons_of_mem _ hword))

/-- The parameters that a task sends parse to the command they were sent for. -/
theorem HopTask.sends_parse {input : List String} {command : HdcCommand} {task : HopTask}
    {currentDir : IoResult String} {sent : List String}
    (hcommand : (splitOptAndCmd input).command = some command) (htask : hopTask command = some task)
    (hsent : task.sends currentDir command (splitOptAndCmd input).parameters = some (.ok sent))
    (hspaceless : Spaceless sent) : splitOptAndCmd sent = ⟨[], some command, sent⟩ := by
  have hagain := splitOptAndCmd_parameters hcommand
  -- a task that sends the parameters as they are
  have hkept : sent = (splitOptAndCmd input).parameters →
      splitOptAndCmd sent = ⟨[], some command, sent⟩ := by
    rintro rfl
    exact splitOptAndCmd_of_scan (hagain hspaceless _)
  cases task with
  | fileSendTask =>
    rw [HopTask.sends, Hdc.fileSendTask] at hsent
    split at hsent
    · rename_i hinit
      subst hinit
      have hparams := Spaceless.of_insertCwd hsent hspaceless
      have hname : ∀ entry ∈ commandWords, entry.2 = .fileInit → entry.1 = ["file", "send"] := by
        decide
      obtain ⟨args, heq⟩ := params_of_scan hname hparams (hagain hparams 0)
      obtain ⟨dir, -, rfl⟩ := insertCwd_eq_ok hsent
      rw [heq]
      exact splitOptAndCmd_fileInit _
    · cases hsent
      exact hkept rfl
  | appInstallTask =>
    have hinit : command = .appInit := by
      revert htask
      cases command <;> decide
    subst hinit
    have hparams := Spaceless.of_insertCwd hsent hspaceless
    have hname : ∀ entry ∈ commandWords, entry.2 = .appInit → entry.1 = ["install"] := by
      decide
    obtain ⟨args, heq⟩ := params_of_scan hname hparams (hagain hparams 0)
    obtain ⟨dir, -, rfl⟩ := insertCwd_eq_ok hsent
    rw [heq]
    exact splitOptAndCmd_appInit _
  | forwardTask =>
    rw [HopTask.sends, Hdc.forwardTask] at hsent
    split at hsent
    · cases hsent
    · split at hsent
      · cases hsent
      · cases hsent
        exact hkept rfl

/-- What a task adds to the parameters has no NUL, if the working directory has none. -/
theorem HopTask.sends_mem {currentDir : IoResult String} {command : HdcCommand} {task : HopTask}
    {params sent : List String} (hsent : task.sends currentDir command params = some (.ok sent))
    {word : String} (hword : word ∈ sent) :
    word ∈ params ∨ word = "-cwd" ∨ ∃ dir, currentDir = .ok dir ∧ word = dir ++ "/" := by
  have hcwd : ∀ n, insertCwd currentDir n params = some (.ok sent) →
      word ∈ params ∨ word = "-cwd" ∨ ∃ dir, currentDir = .ok dir ∧ word = dir ++ "/" := by
    intro n h
    obtain ⟨dir, hdir, rfl⟩ := insertCwd_eq_ok h
    simp only [List.mem_append, List.mem_cons] at hword
    rcases hword with hword | rfl | rfl | hword
    · exact Or.inl (List.mem_of_mem_take hword)
    · exact Or.inr (Or.inl rfl)
    · exact Or.inr (Or.inr ⟨dir, hdir, rfl⟩)
    · exact Or.inl (List.mem_of_mem_drop hword)
  cases task with
  | fileSendTask =>
    rw [HopTask.sends, Hdc.fileSendTask] at hsent
    split at hsent
    · exact hcwd 2 hsent
    · cases hsent
      exact Or.inl hword
  | appInstallTask => exact hcwd 1 hsent
  | forwardTask =>
    rw [HopTask.sends, Hdc.forwardTask] at hsent
    split at hsent
    · cases hsent
    · split at hsent
      · cases hsent
      · cases hsent
        exact Or.inl hword

/-- The server has the command and the parameters that the client has sent if and only if none
of these parameters, the working directory among them, has a space. -/
theorem survives_hop_iff (net : NetParse) (args : List String) (parsed : ParsedCommand)
    (command : HdcCommand) (task : HopTask) (currentDir : IoResult String) (sent : List String)
    (hargs : ∀ arg ∈ args, '\x00' ∉ arg.toList)
    (hdir : ∀ dir, currentDir = .ok dir → '\x00' ∉ dir.toList)
    (hparse : parseCommand net args = some (.ok parsed))
    (hcommand : parsed.command = some command) (htask : hopTask command = some task)
    (hsent : task.sends currentDir command parsed.parameters = some (.ok sent)) :
    ((parseReceived (joinParams sent)).command = some command ∧
      (parseReceived (joinParams sent)).parameters = sent) ↔ Spaceless sent := by
  obtain ⟨hparams, hsearch⟩ := parseCommand_eq_ok hparse
  have hfound : (splitOptAndCmd (args.drop 1)).command = some command := by
    rcases hsearch with heq | heq
    · rw [← heq, hcommand]
    · -- `shell -` is no command of these tasks
      rw [heq] at hcommand
      cases hcommand
      cases htask
  rw [hparams] at hsent
  constructor
  · rintro ⟨-, heq⟩
    rw [← heq]
    exact parseReceived_spaceless _
  · intro hspaceless
    have hparse := HopTask.sends_parse hfound htask hsent hspaceless
    have hne : sent ≠ [] := by
      rintro rfl
      cases hparse
    have hnul : ∀ word ∈ sent, '\x00' ∉ word.toList := by
      intro word hword
      rcases HopTask.sends_mem hsent hword with hmem | rfl | ⟨dir, heq, rfl⟩
      · exact hargs word (List.mem_of_mem_drop (List.mem_of_mem_drop hmem))
      · decide
      · rw [String.toList_append, List.mem_append, not_or]
        exact ⟨hdir dir heq, by decide⟩
    rw [parseReceived_joinParams hne hspaceless hnul, hparse]
    exact ⟨rfl, rfl⟩

/-- No address is accepted. -/
def noAddresses : NetParse := ⟨fun _ => false, fun _ => none, fun _ => none⟩

def sendPhoto : List String := ["hdc", "-t", "device", "file", "send", "photo.jpg", "/data/"]

/-- What the client makes of `sendPhoto`. -/
def sendPhotoParsed : ParsedCommand where
  launchServer := true
  connectKey := "device"
  logLevel := 3
  serverAddr := "127.0.0.1:8710"
  forwardListenIp := "127.0.0.1"
  command := some .fileInit
  parameters := ["file", "send", "photo.jpg", "/data/"]

theorem survives_hop_iff_photo :
    (parseReceived (joinParams ["file", "send", "-cwd", "/home/", "photo.jpg", "/data/"])).command =
        some .fileInit ∧
      (parseReceived
        (joinParams ["file", "send", "-cwd", "/home/", "photo.jpg", "/data/"])).parameters =
        ["file", "send", "-cwd", "/home/", "photo.jpg", "/data/"] :=
  (survives_hop_iff noAddresses sendPhoto sendPhotoParsed .fileInit .fileSendTask (.ok "/home")
    ["file", "send", "-cwd", "/home/", "photo.jpg", "/data/"] (by decide)
    (by rintro dir ⟨⟩; decide) (by decide) rfl rfl (by decide)).mpr (by decide)

/-- `hdc file send "my photo.jpg" /data/` is accepted and sent, and arrives with one parameter
more; so does `hdc install app.hap` from a directory whose name has a space. -/
theorem space_splits_parameter :
    (∃ parsed, parseCommand noAddresses ["hdc", "file", "send", "my photo.jpg", "/data/"] =
        some (.ok parsed) ∧ parsed.command = some .fileInit ∧
      HopTask.fileSendTask.sends (.ok "/home") .fileInit parsed.parameters =
        some (.ok ["file", "send", "-cwd", "/home/", "my photo.jpg", "/data/"]) ∧
      (parseReceived (joinParams
        ["file", "send", "-cwd", "/home/", "my photo.jpg", "/data/"])).parameters =
        ["file", "send", "-cwd", "/home/", "my", "photo.jpg", "/data/"]) ∧
    ∃ parsed, parseCommand noAddresses ["hdc", "install", "app.hap"] = some (.ok parsed) ∧
      parsed.command = some .appInit ∧
      HopTask.appInstallTask.sends (.ok "/my apps") .appInit parsed.parameters =
        some (.ok ["install", "-cwd", "/my apps/", "app.hap"]) ∧
      (parseReceived (joinParams ["install", "-cwd", "/my apps/", "app.hap"])).parameters =
        ["install", "-cwd", "/my", "apps/", "app.hap"] := by
  constructor
  · exact ⟨_, rfl, by decide, by decide, by decide⟩
  · exact ⟨_, rfl, by decide, by decide, by decide⟩

end Hdc
