import Hdc.Config

/- The command line parser of the host tool (`hdc/src/parser.rs`). The client runs
   `parse_command` on its arguments, the server runs `split_opt_and_cmd` on the words of the
   text the client sends. The loops of `split_opt_and_cmd` run over indices of the input;
   here they run over its suffixes, next to the index a suffix starts at. -/
namespace Hdc
open Rust

structure ParsedCommand where
  runInServer : Bool := false
  launchServer : Bool := false
  spawnedServer : Bool := false
  connectKey : String := ""
  logLevel : Nat := 0
  serverAddr : String := ""
  forwardListenIp : String := ""
  command : Option HdcCommand := none
  parameters : List String := []
  deriving DecidableEq, Repr

/-- `CMD_MAP`. -/
def cmdMap : List (String × HdcCommand) := [
  ("version", .clientVersion),
  ("help", .kernelHelp),
  ("discover", .kernelTargetDiscover),
  ("start", .kernelServerStart),
  ("kill", .kernelServerKill),
  ("keygen", .clientKeyGenerate),
  ("list targets", .kernelTargetList),
  ("checkserver", .kernelCheckServer),
  ("checkdevice", .kernelCheckDevice),
  ("wait", .kernelWaitFor),
  ("tconn", .kernelTargetConnect),
  ("any", .kernelTargetAny),
  ("shell", .unityExecute),
  ("target boot", .unityReboot),
  ("target mount", .unityRemount),
  ("smode", .unityRootrun),
  ("tmode", .unityRunmode),
  ("bugreport", .unityBugreportInit),
  ("hilog", .unityHilog),
  ("file send", .fileInit),
  ("file recv", .fileRecvInit),
  ("fport", .forwardInit),
  ("rport", .forwardRportInit),
  ("rport ls", .forwardRportList),
  ("fport ls", .forwardList),
  ("fport rm", .forwardRemove),
  ("rport rm", .forwardRportRemove),
  ("install", .appInit),
  ("uninstall", .appUninstall),
  ("sideload", .appSideload),
  ("jpid", .jdwpList),
  ("track-jpid", .jdwpTrack),
  ("alive", .kernelEnableKeepalive),
  ("update", .flashdUpdateInit),
  ("flash", .flashdFlashInit),
  ("erase", .flashdErase),
  ("format", .flashdFormat),
  ("reconnect", .kernelTargetReconnect),
  ("spawn-sub", .spawnSub),
  ("killall-sub", .spawnSub)]

/-- `MAX_CMD_LEN`. -/
def maxCmdLen : Nat := 3

def usage : String :=
"HDC (HarmonyOS Device Connector) Rust Implementation

Usage: hdc [options] [command]

Global Options:
  -h              Show this help message
  -v              Show version
  -l <level>      Set log level (0-6)
  -m              Run in server mode
  -p              Do not launch server automatically
  -t <key>        Target connect key
  -s <addr>       Server address (ip:port)
  -e <ip>         IP address for host to listen during TCP port forwarding
  -b              Server spawned by client (no stdout)

Commands:
  list targets              List connected devices
  tconn <ip:port>           Connect to device via TCP
  shell [cmd]               Execute shell command or enter interactive shell
  shell - [cmd]             Execute shell with bundle options
  file send <local> <remote> Send file to device
  file recv <remote> <local> Receive file from device
  install [options] <path...>  Install application package(s) (.hap/.hsp/.app)
                              options are passed to 'bm install' (e.g. -r replace,
                              -g grant permissions, -s shared bundle)
  uninstall <package>       Uninstall application
  fport [ls|rm]             Forward port management
  rport [ls|rm]             Reverse port management
  hilog                     Show device logs
  bugreport [path]          Generate bug report
  target boot [mode]        Reboot device
  target mount              Remount filesystem
  smode                     Switch root mode
  tmode                     Switch target mode
  jpid                      List JDWP processes
  track-jpid                Track JDWP processes
  update <package>          Update system by package (.zip/.img/...)
  flash [-f] <partition> <image>  Flash partition by image
  erase [-f] <partition>    Erase partition
  format [-f] <partition>   Format partition
  reconnect <key>           Reconnect USB device
  start [-r]                Start server (with -r to restart)
  kill [-r]                 Kill server (with -r to restart)
  checkserver               Check server version
  wait                      Wait for device connection
"

def verboseUsage : String := usage ++ "\nVerbose mode enabled.\n"

structure Parsed where
  options : List String := []
  command : Option HdcCommand := none
  parameters : List String := []
  deriving DecidableEq, Repr

/-- The two commands after which the search goes on, for `ls` and `rm`. -/
def opensForward (command : HdcCommand) : Bool :=
  command == .forwardInit || command == .forwardRportInit

/-- The four commands that may take the place of one of those two. -/
def asksForward (command : HdcCommand) : Bool :=
  command == .forwardRemove || command == .forwardList || command == .forwardRportList ||
    command == .forwardRportRemove

/-- `cmd_opt` and `cmd_index`. -/
abbrev Found := Option HdcCommand × Nat

/-- The loop of `split_opt_and_cmd` over `len`, at the suffix that starts at `st`. -/
def scanLens (st : Nat) (suffix : List String) : List Nat → Found → Found
  | [], found => found
  | len :: lens, found =>
    if suffix.length < len then found
    else
      match cmdMap.lookup (String.intercalate " " (suffix.take len)) with
      | none => scanLens st suffix lens found
      | some command =>
        if found.1.any opensForward && !asksForward command then found
        else if opensForward command then scanLens st suffix lens (some command, st)
        else (some command, st)

/-- The loop over `st`. It ends at a command that no other can replace. -/
def scanCommands : Nat → List String → Found → Found
  | _, [], found => found
  | st, arg :: args, found =>
    let found := scanLens st (arg :: args) (List.range' 1 maxCmdLen) found
    if found.1.any (!opensForward ·) then found else scanCommands (st + 1) args found

def splitOptAndCmd (input : List String) : Parsed :=
  let found := scanCommands 0 input (none, input.length)
  { options := input.take found.2
    command := found.1
    parameters := input.drop found.2 }

def checkPort (portStr : String) : IoResult UInt16 :=
  if portStr.isEmpty || 5 < (utf8 portStr).length || !portStr.toList.all Char.isDigit then
    .error ⟨.invalidInput, "The port must be digit str"⟩
  else
    match parseU16 portStr with
    | .ok port => if 0 < port then .ok port else .error ⟨.invalidInput, "Port range incorrect"⟩
    | .error _ => .error ⟨.invalidInput, "Port range incorrect"⟩

/-- The address parsers of `std::net` that the code calls. -/
structure NetParse where
  /-- `str::parse::<SocketAddr>` succeeds. -/
  isSocketAddr : String → Bool
  /-- `str::parse::<SocketAddrV4>`, as the text the address is printed as. -/
  parseSocketAddrV4 : String → Option String
  /-- `str::parse::<IpAddr>` succeeds; if so, whether the address is an `Ipv6Addr`. -/
  parseIpAddr : String → Option Bool

def toAsciiLowercase (s : String) : String := s.map Char.toLower

def normalizeListenAddr (net : NetParse) (s : String) : String :=
  if net.isSocketAddr s then s
  else
    let mapped := toAsciiLowercase s
    match (if startsWith mapped "::ffff:" then
        net.parseSocketAddrV4 (String.ofList (mapped.toList.drop 7)) else none) with
    | some v4 => v4
    | none =>
      match rsplitOnce ':' s with
      | some (host, port) =>
        if (parseU16 port).isOk && net.parseIpAddr host = some true then
          "[" ++ host ++ "]:" ++ port
        else s
      | none => s

def parseServerListenString (net : NetParse) (arg : String) : IoResult String := do
  let addr := normalizeListenAddr net arg
  let segments := split ':' addr
  let portStr := segments.getLastD ""
  let port ← checkPort portStr
  if segments.length = 1 then return localHost ++ ":" ++ toString port
  -- `addr[..addr.len() - port_len - 1]`, the text before the last colon
  let ip := String.intercalate ":" segments.dropLast
  let ipStr := trimEndMatches ']' (String.ofList (ip.toList.dropWhile (· == '[')))
  match net.parseIpAddr ipStr with
  | some _ => return addr
  | none => .error ⟨.invalidInput, "-s content ip incorrect"⟩

/-- One turn of the loop of `extract_global_params`. -/
def takeGlobalParam (net : NetParse) (parsed : ParsedCommand) (opt arg : String) :
    IoResult ParsedCommand :=
  if startsWith opt "-h" then
    .error ⟨.other, if arg = "verbose" then verboseUsage else usage⟩
  else if startsWith opt "-v" then .error ⟨.other, getVersion⟩
  else if startsWith opt "-l" then
    match parseUsize arg with
    | some level =>
      if level < 7 then .ok { parsed with logLevel := level }
      else .error ⟨.invalidInput, "-l content loglevel incorrect\n\n" ++ usage⟩
    | none => .error ⟨.invalidInput, "-l content loglevel incorrect\n\n" ++ usage⟩
  else if startsWith opt "-m" then .ok { parsed with runInServer := true }
  else if startsWith opt "-p" then .ok { parsed with launchServer := false }
  else if startsWith opt "-t" then
    if 32 < (utf8 arg).length then
      .error ⟨.invalidInput,
        "Size of param '-t' " ++ toString (utf8 arg).length ++ " is too long"⟩
    else .ok { parsed with connectKey := arg }
  else if startsWith opt "-s" then do
    let addr ← parseServerListenString net arg
    return { parsed with serverAddr := addr }
  else if startsWith opt "-e" then
    match net.parseIpAddr arg with
    | some _ => .ok { parsed with forwardListenIp := arg }
    | none => .error ⟨.invalidInput, "-e content IP incorrect"⟩
  else if startsWith opt "-b" then .ok { parsed with spawnedServer := true }
  else .ok parsed

/-- `none` is the panic of `&opt[2..]` inside a character. -/
def extractGlobalParamsLoop (net : NetParse) :
    List String → ParsedCommand → Option (IoResult ParsedCommand)
  | [], parsed => some (.ok parsed)
  | opt :: opts, parsed => do
    -- an argument of its own is not skipped: it is looked at as an option in the next turn
    let arg ← if 2 < (utf8 opt).length then fromUtf8 ((utf8 opt).drop 2) else some (opts.headD "")
    match takeGlobalParam net parsed opt arg with
    | .ok parsed => extractGlobalParamsLoop net opts parsed
    | .error e => some (.error e)

def extractGlobalParams (net : NetParse) (opts : List String) : Option (IoResult ParsedCommand) :=
  extractGlobalParamsLoop net opts
    { launchServer := true
      logLevel := 3
      serverAddr := localHost ++ ":" ++ toString serverDefaultPort
      forwardListenIp := localHost }

def parseCommand (net : NetParse) (args : List String) : Option (IoResult ParsedCommand) := do
  let parsed := splitOptAndCmd (args.drop 1)
  match ← extractGlobalParams net parsed.options with
  | .error e => return .error e
  | .ok parsedCmd =>
    let command :=
      if parsed.command = some .unityExecute ∧ 2 ≤ parsed.parameters.length ∧
          parsed.parameters.head? = some "-" then
        some .unityExecuteEx
      else parsed.command
    return .ok { parsedCmd with command, parameters := parsed.parameters }

theorem parseCommand_eq_ok {net : NetParse} {args : List String} {parsed : ParsedCommand}
    (h : parseCommand net args = some (.ok parsed)) :
    parsed.parameters = (splitOptAndCmd (args.drop 1)).parameters ∧
      (parsed.command = (splitOptAndCmd (args.drop 1)).command ∨
        parsed.command = some .unityExecuteEx) := by
  simp only [parseCommand, Option.bind_eq_bind, Option.bind_eq_some_iff] at h
  obtain ⟨result, -, h⟩ := h
  cases result with
  | error e => cases h
  | ok parsedCmd =>
    cases h
    refine ⟨rfl, ?_⟩
    dsimp only
    split
    · exact Or.inr rfl
    · exact Or.inl rfl

/-! What the options can change. -/

/-- The outcomes of one turn of the loop over the options. -/
inductive GlobalParam (net : NetParse) (parsed : ParsedCommand) (arg : String) : ParsedCommand → Prop
  | same : GlobalParam net parsed arg parsed
  | logLevel {level : Nat} (hlevel : level < 7) :
    GlobalParam net parsed arg { parsed with logLevel := level }
  | runInServer : GlobalParam net parsed arg { parsed with runInServer := true }
  | launchServer : GlobalParam net parsed arg { parsed with launchServer := false }
  | connectKey (hlen : (utf8 arg).length ≤ 32) :
    GlobalParam net parsed arg { parsed with connectKey := arg }
  | serverAddr {addr : String} (haddr : parseServerListenString net arg = .ok addr) :
    GlobalParam net parsed arg { parsed with serverAddr := addr }
  | forwardListenIp {v6 : Bool} (hip : net.parseIpAddr arg = some v6) :
    GlobalParam net parsed arg { parsed with forwardListenIp := arg }
  | spawnedServer : GlobalParam net parsed arg { parsed with spawnedServer := true }

theorem takeGlobalParam_eq_ok {net : NetParse} {parsed parsed' : ParsedCommand} {opt arg : String}
    (htake : takeGlobalParam net parsed opt arg = .ok parsed') : GlobalParam net parsed arg parsed' := by
  unfold takeGlobalParam at htake
  by_cases hh : startsWith opt "-h" = true
  · rw [if_pos hh] at htake
    cases htake
  rw [if_neg hh] at htake
  by_cases hv : startsWith opt "-v" = true
  · rw [if_pos hv] at htake
    cases htake
  rw [if_neg hv] at htake
  by_cases hl : startsWith opt "-l" = true
  · rw [if_pos hl] at htake
    cases hlevel : parseUsize arg with
    | none =>
      rw [hlevel] at htake
      cases htake
    | some level =>
      simp only [hlevel] at htake
      by_cases hlt : level < 7
      · rw [if_pos hlt] at htake
        cases htake
        exact .logLevel hlt
      · rw [if_neg hlt] at htake
        cases htake
  rw [if_neg hl] at htake
  by_cases hm : startsWith opt "-m" = true
  · rw [if_pos hm] at htake
    cases htake
    exact .runInServer
  rw [if_neg hm] at htake
  by_cases hp : startsWith opt "-p" = true
  · rw [if_pos hp] at htake
    cases htake
    exact .launchServer
  rw [if_neg hp] at htake
  by_cases ht : startsWith opt "-t" = true
  · rw [if_pos ht] at htake
    by_cases hlong : 32 < (utf8 arg).length
    · rw [if_pos hlong] at htake
      cases htake
    · rw [if_neg hlong] at htake
      cases htake
      exact .connectKey (Nat.le_of_not_lt hlong)
  rw [if_neg ht] at htake
  by_cases hs : startsWith opt "-s" = true
  · rw [if_pos hs] at htake
    obtain ⟨addr, haddr, heq⟩ := bind_eq_ok.mp htake
    cases heq
    exact .serverAddr haddr
  rw [if_neg hs] at htake
  by_cases he : startsWith opt "-e" = true
  · rw [if_pos he] at htake
    cases hip : net.parseIpAddr arg with
    | none =>
      rw [hip] at htake
      cases htake
    | some v6 =>
      rw [hip] at htake
      cases htake
      exact .forwardListenIp hip
  rw [if_neg he] at htake
  by_cases hb : startsWith opt "-b" = true
  · rw [if_pos hb] at htake
    cases htake
    exact .spawnedServer
  rw [if_neg hb] at htake
  cases htake
  exact .same

/-- The argument of an option in front of other words. -/
def optionArg (opt : String) (opts : List String) : Option String :=
  if 2 < (utf8 opt).length then fromUtf8 ((utf8 opt).drop 2) else some (opts.headD "")

theorem extractGlobalParamsLoop_cons (net : NetParse) (opt : String) (opts : List String)
    (parsed : ParsedCommand) :
    extractGlobalParamsLoop net (opt :: opts) parsed =
      (optionArg opt opts).bind fun arg =>
        match takeGlobalParam net parsed opt arg with
        | .ok parsed => extractGlobalParamsLoop net opts parsed
        | .error e => some (.error e) := by
  rw [extractGlobalParamsLoop, optionArg]
  split <;> rfl

/-- What every option keeps, the loop keeps. -/
theorem extractGlobalParamsLoop_keeps {net : NetParse} {inv : ParsedCommand → Prop}
    (hstep : ∀ {parsed parsed' : ParsedCommand} {arg : String}, inv parsed →
      GlobalParam net parsed arg parsed' → inv parsed') :
    ∀ {opts : List String} {parsed parsed' : ParsedCommand}, inv parsed →
      extractGlobalParamsLoop net opts parsed = some (.ok parsed') → inv parsed'
  | [], parsed, parsed', h, hloop => by
    cases hloop
    exact h
  | opt :: opts, parsed, parsed', h, hloop => by
    rw [extractGlobalParamsLoop_cons, Option.bind_eq_some_iff] at hloop
    obtain ⟨arg, -, hloop⟩ := hloop
    cases htake : takeGlobalParam net parsed opt arg with
    | ok next =>
      rw [htake] at hloop
      exact extractGlobalParamsLoop_keeps hstep (hstep h (takeGlobalParam_eq_ok htake)) hloop
    | error e =>
      rw [htake] at hloop
      cases hloop

/-- What is parsed comes from the options, but for the command and its parameters. -/
theorem parseCommand_options {net : NetParse} {args : List String} {parsed : ParsedCommand}
    (h : parseCommand net args = some (.ok parsed)) :
    ∃ parsedCmd, extractGlobalParams net (splitOptAndCmd (args.drop 1)).options =
        some (.ok parsedCmd) ∧
      parsed = { parsedCmd with command := parsed.command, parameters := parsed.parameters } := by
  simp only [parseCommand, Option.bind_eq_bind, Option.bind_eq_some_iff] at h
  obtain ⟨result, hextract, h⟩ := h
  cases result with
  | error e => cases h
  | ok parsedCmd =>
    cases h
    exact ⟨parsedCmd, hextract, rfl⟩

/-- A connect key that is longer than the client's answer has room for is refused. -/
theorem parseCommand_connectKey {net : NetParse} {args : List String} {parsed : ParsedCommand}
    (h : parseCommand net args = some (.ok parsed)) : (utf8 parsed.connectKey).length ≤ 32 := by
  have hstep : ∀ {parsed parsed' : ParsedCommand} {arg : String},
      (utf8 parsed.connectKey).length ≤ 32 → GlobalParam net parsed arg parsed' →
      (utf8 parsed'.connectKey).length ≤ 32 := by
    intro parsed parsed' arg hlen htake
    cases htake with
    | connectKey hkey => exact hkey
    | same | logLevel _ | runInServer | launchServer | serverAddr _ | forwardListenIp _
    | spawnedServer => exact hlen
  obtain ⟨parsedCmd, hextract, heq⟩ := parseCommand_options h
  rw [extractGlobalParams] at hextract
  have hlen : (utf8 parsedCmd.connectKey).length ≤ 32 :=
    extractGlobalParamsLoop_keeps hstep (by decide) hextract
  rw [heq]
  exact hlen

/-! The command search on words that have no space. -/

/-- No word has a space in it. -/
def Spaceless (words : List String) : Prop := ∀ word ∈ words, ' ' ∉ word.toList

instance (words : List String) : Decidable (Spaceless words) :=
  inferInstanceAs (Decidable (∀ word ∈ words, _))

theorem Spaceless.take {words : List String} (h : Spaceless words) (n : Nat) :
    Spaceless (words.take n) :=
  fun word hword => h word (List.mem_of_mem_take hword)

theorem Spaceless.tail {word : String} {words : List String} (h : Spaceless (word :: words)) :
    Spaceless words :=
  fun other hother => h other (List.mem_cons_of_mem _ hother)

/-- The words of the commands. -/
def commandWords : List (List String × HdcCommand) :=
  cmdMap.map fun entry => (split ' ' entry.1, entry.2)

/-- A name found in words without a space is the words of a command. -/
theorem lookup_words {words : List String} {command : HdcCommand} (h : Spaceless words)
    (hne : words ≠ []) (hlookup : cmdMap.lookup (String.intercalate " " words) = some command) :
    (words, command) ∈ commandWords := by
  obtain ⟨before, after, heq, -⟩ := List.lookup_eq_some_iff.mp hlookup
  have hmem : (String.intercalate " " words, command) ∈ cmdMap := by rw [heq]; simp
  have hsplit : split ' ' (String.intercalate " " words) = words := split_intercalate h hne
  exact List.mem_map.mpr ⟨_, hmem, by rw [hsplit]⟩

theorem lookup_take {arg : String} {args : List String} {len : Nat} {command : HdcCommand}
    (h : Spaceless (arg :: args)) (hlen : 0 < len)
    (hlookup : cmdMap.lookup (String.intercalate " " ((arg :: args).take len)) = some command) :
    ((arg :: args).take len, command) ∈ commandWords := by
  refine lookup_words (h.take len) ?_ hlookup
  obtain ⟨n, rfl⟩ := Nat.exists_eq_succ_of_ne_zero (Nat.pos_iff_ne_zero.mp hlen)
  simp

-- The four commands that may replace `fport` or `rport` are `fport` or `rport` and a second word.
theorem asksForward_words : ∀ entry ∈ commandWords, asksForward entry.2 = true →
    entry.1.length = 2 ∧ (entry.1.head? = some "fport" ∨ entry.1.head? = some "rport") := by
  decide

theorem scanLens_next {st len : Nat} {suffix : List String} {lens : List Nat} {found : Found} :
    scanLens st suffix (len :: lens) found =
      if suffix.length < len then found
      else match cmdMap.lookup (String.intercalate " " (suffix.take len)) with
        | none => scanLens st suffix lens found
        | some command =>
          if found.1.any opensForward && !asksForward command then found
          else if opensForward command then scanLens st suffix lens (some command, st)
          else (some command, st) := rfl

/-- No entry that `scanLens` comes to replaces a command that opens a forward. -/
theorem scanLens_keeps {st i : Nat} {suffix : List String} {opened : HdcCommand}
    (hopened : opensForward opened = true) : ∀ {lens : List Nat},
    (∀ len ∈ lens, ∀ command,
      cmdMap.lookup (String.intercalate " " (suffix.take len)) = some command →
      asksForward command = false) →
    scanLens st suffix lens (some opened, i) = (some opened, i)
  | [], _ => rfl
  | len :: lens, h => by
    rw [scanLens_next]
    split
    · rfl
    · split
      · exact scanLens_keeps hopened fun len hlen => h len (List.mem_cons_of_mem _ hlen)
      · rename_i command hlookup
        have hasks := h len List.mem_cons_self command hlookup
        simp [hopened, hasks]

/-- At words without a space the search for `ls` and `rm` finds nothing: their own first word is
a command, and it ends the search there. -/
theorem scanLens_opened {st i : Nat} {arg : String} {args : List String} {opened : HdcCommand}
    (h : Spaceless (arg :: args)) (hopened : opensForward opened = true) :
    scanLens st (arg :: args) (List.range' 1 maxCmdLen) (some opened, i) = (some opened, i) := by
  have hfirst : ∀ command,
      cmdMap.lookup (String.intercalate " " ((arg :: args).take 1)) = some command →
      asksForward command = false := by
    intro command hlookup
    by_contra hasks
    have hlen := (asksForward_words _ (lookup_take h Nat.one_pos hlookup) (by simpa using hasks)).1
    simp at hlen
  cases hone : cmdMap.lookup (String.intercalate " " ((arg :: args).take 1)) with
  | some command =>
    show scanLens st (arg :: args) [1, 2, 3] _ = _
    rw [scanLens_next, if_neg (by simp), hone]
    simp [hopened, hfirst command hone]
  | none =>
    apply scanLens_keeps hopened
    intro len hlen command hlookup
    by_contra hasks
    have hpos : 0 < len := by
      simp only [maxCmdLen, List.mem_range'_1] at hlen
      omega
    obtain ⟨n, rfl⟩ := Nat.exists_eq_succ_of_ne_zero (Nat.pos_iff_ne_zero.mp hpos)
    have hhead := (asksForward_words _ (lookup_take h hpos hlookup) (by simpa using hasks)).2
    rw [List.take_succ_cons, List.head?_cons] at hhead
    rw [List.take_succ_cons, List.take_zero, String.intercalate_singleton] at hone
    rcases hhead with harg | harg
    · rw [Option.some_inj.mp harg] at hone
      exact absurd hone (by decide)
    · rw [Option.some_inj.mp harg] at hone
      exact absurd hone (by decide)

theorem scanCommands_opened {i : Nat} {opened : HdcCommand} (hopened : opensForward opened = true) :
    ∀ {st : Nat} {args : List String}, Spaceless args →
      scanCommands st args (some opened, i) = (some opened, i)
  | _, [], _ => rfl
  | st, arg :: args, h => by
    rw [scanCommands, scanLens_opened h hopened]
    simp only [Option.any_some, hopened, Bool.not_true, Bool.false_eq_true, ↓reduceIte]
    exact scanCommands_opened hopened h.tail

/-- The inner loop leaves what was found, or finds a command at its own index. -/
theorem scanLens_cases (st : Nat) (suffix : List String) : ∀ (lens : List Nat) (found : Found),
    scanLens st suffix lens found = found ∨
      ∃ command, scanLens st suffix lens found = (some command, st)
  | [], _ => Or.inl rfl
  | len :: lens, found => by
    rw [scanLens_next]
    split
    · exact Or.inl rfl
    · split
      · exact scanLens_cases st suffix lens found
      · split
        · exact Or.inl rfl
        · split
          · rename_i command _ _ _
            rcases scanLens_cases st suffix lens (some command, st) with h | h
            · exact Or.inr ⟨command, h⟩
            · exact Or.inr h
          · exact Or.inr ⟨_, rfl⟩

/-- Which command is found does not depend on the indices. -/
theorem scanLens_command (st st' : Nat) (suffix : List String) :
    ∀ (lens : List Nat) (command : Option HdcCommand) (i i' : Nat),
      (scanLens st suffix lens (command, i)).1 = (scanLens st' suffix lens (command, i')).1
  | [], _, _, _ => rfl
  | len :: lens, command, i, i' => by
    rw [scanLens_next, scanLens_next]
    split
    · rfl
    · split
      · exact scanLens_command st st' suffix lens command i i'
      · split
        · rfl
        · split
          · exact scanLens_command st st' suffix lens _ st st'
          · rfl

theorem scanLens_none {st st' i i' : Nat} {suffix : List String} {lens : List Nat}
    {command : HdcCommand} (h : scanLens st suffix lens (none, i) = (some command, st)) :
    scanLens st' suffix lens (none, i') = (some command, st') := by
  have hcommand := scanLens_command st' st suffix lens none i' i
  rw [h] at hcommand
  rcases scanLens_cases st' suffix lens (none, i') with hsame | ⟨other, hother⟩
  · rw [hsame] at hcommand
    cases hcommand
  · rw [hother] at hcommand ⊢
    cases hcommand
    rfl

/-- A search that finds a command finds the same one, at its first word, in the words from there
on, if these have no space. -/
theorem scanCommands_drop {command : HdcCommand} {idx : Nat} :
    ∀ {args : List String} {st : Nat} {found : Found}, found.1.all opensForward = true →
      scanCommands st args found = (some command, idx) →
      found = (some command, idx) ∨
        ∃ n, idx = st + n ∧ n < args.length ∧ (Spaceless (args.drop n) →
          ∀ i, scanCommands 0 (args.drop n) (none, i) = (some command, 0))
  | [], _, _, _, h => Or.inl h
  | arg :: args, st, found, hfound, h => by
    rw [scanCommands] at h
    -- what later turns find is found in the rest of the words
    have hlater : ∀ {now : Found}, now.1.all opensForward = true →
        scanCommands (st + 1) args now = (some command, idx) → now = (some command, idx) ∨
          ∃ n, idx = st + n ∧ n < (arg :: args).length ∧ (Spaceless ((arg :: args).drop n) →
            ∀ i, scanCommands 0 ((arg :: args).drop n) (none, i) = (some command, 0)) := by
      intro now hnow hscan
      rcases scanCommands_drop hnow hscan with heq | ⟨n, hidx, hlt, hagain⟩
      · exact Or.inl heq
      · exact Or.inr ⟨n + 1, by omega, by simpa using hlt, hagain⟩
    by_cases hsame : scanLens st (arg :: args) (List.range' 1 maxCmdLen) found = found
    · rw [hsame, if_neg] at h
      · exact hlater hfound h
      · cases hc : found.1 with
        | none => simp
        | some existing =>
          rw [hc] at hfound
          simpa using hfound
    · obtain ⟨now, hset⟩ := (scanLens_cases st _ _ found).resolve_left hsame
      -- without a space a command is found here only if none was found before
      have hfirst : Spaceless (arg :: args) → ∀ i,
          scanLens 0 (arg :: args) (List.range' 1 maxCmdLen) (none, i) = (some now, 0) := by
        intro hspaceless i
        obtain ⟨existing, j⟩ := found
        cases existing with
        | none => exact scanLens_none hset
        | some opened => exact absurd (scanLens_opened hspaceless (by simpa using hfound)) hsame
      simp only [hset, Option.any_some] at h
      cases hopens : opensForward now with
      | false =>
        rw [hopens] at h
        cases h
        refine Or.inr ⟨0, rfl, Nat.succ_pos _, fun hspaceless i => ?_⟩
        rw [List.drop_zero, scanCommands, hfirst hspaceless i]
        simp [hopens]
      | true =>
        rw [hopens] at h
        rcases hlater (by simpa using hopens) h with heq | hfound
        · cases heq
          refine Or.inr ⟨0, rfl, Nat.succ_pos _, fun hspaceless i => ?_⟩
          rw [List.drop_zero, scanCommands, hfirst hspaceless i]
          simp only [Option.any_some, hopens, Bool.not_true, Bool.false_eq_true, ↓reduceIte]
          exact scanCommands_opened hopens hspaceless.tail
        · exact Or.inr hfound

/-- Words without a space that the parser has taken as the parameters of a command are the
parameters of the same command when they are parsed again. -/
theorem splitOptAndCmd_parameters {input : List String} {command : HdcCommand}
    (hcommand : (splitOptAndCmd input).command = some command)
    (hspaceless : Spaceless (splitOptAndCmd input).parameters) (i : Nat) :
    scanCommands 0 (splitOptAndCmd input).parameters (none, i) = (some command, 0) := by
  simp only [splitOptAndCmd] at hcommand hspaceless ⊢
  have hscan : scanCommands 0 input (none, input.length) =
      (some command, (scanCommands 0 input (none, input.length)).2) := by rw [← hcommand]
  rcases scanCommands_drop rfl hscan with heq | ⟨n, hidx, -, hagain⟩
  · cases heq
  · rw [hidx, Nat.zero_add] at hspaceless ⊢
    exact hagain hspaceless i

/-- A command that `scanLens` finds is the words the suffix starts with. -/
theorem scanLens_words {arg : String} {args : List String} (h : Spaceless (arg :: args)) {st : Nat} :
    ∀ {lens : List Nat} {found : Found} {command : HdcCommand}, (∀ len ∈ lens, 0 < len) →
      scanLens st (arg :: args) lens found = (some command, st) → found.1 ≠ some command →
      ∃ words, (words, command) ∈ commandWords ∧ words <+: arg :: args
  | [], found, command, _, hscan, hne => absurd (congrArg Prod.fst hscan) hne
  | len :: lens, found, command, hlens, hscan, hne => by
    have hrest : ∀ l ∈ lens, 0 < l := fun l hl => hlens l (List.mem_cons_of_mem _ hl)
    rw [scanLens_next] at hscan
    split at hscan
    · exact absurd (congrArg Prod.fst hscan) hne
    · split at hscan
      · exact scanLens_words h hrest hscan hne
      · rename_i here hlookup
        have hwords := lookup_take h (hlens len List.mem_cons_self) hlookup
        split at hscan
        · exact absurd (congrArg Prod.fst hscan) hne
        · split at hscan
          · by_cases heq : here = command
            · subst heq
              exact ⟨_, hwords, List.take_prefix _ _⟩
            · exact scanLens_words h hrest hscan (by simpa using heq)
          · cases hscan
            exact ⟨_, hwords, List.take_prefix _ _⟩

theorem scanCommands_words {arg : String} {args : List String} {command : HdcCommand} {i : Nat}
    (h : Spaceless (arg :: args))
    (hscan : scanCommands 0 (arg :: args) (none, i) = (some command, 0)) :
    ∃ words, (words, command) ∈ commandWords ∧ words <+: arg :: args := by
  have hlens : ∀ len ∈ List.range' 1 maxCmdLen, 0 < len := by decide
  rw [scanCommands] at hscan
  rcases scanLens_cases 0 (arg :: args) (List.range' 1 maxCmdLen) (none, i) with
    hsame | ⟨now, hset⟩
  · -- what a later turn finds has an index of its own
    rw [hsame] at hscan
    rcases scanCommands_drop rfl hscan with heq | ⟨n, hidx, -⟩
    · cases heq
    · omega
  · simp only [hset, Option.any_some] at hscan
    have hnow : now = command := by
      cases hopens : opensForward now with
      | false =>
        rw [hopens] at hscan
        cases hscan
        rfl
      | true =>
        rw [hopens, Bool.not_true, if_neg Bool.false_ne_true,
          scanCommands_opened hopens h.tail] at hscan
        cases hscan
        rfl
    subst hnow
    exact scanLens_words h hlens hset (by simp)

end Hdc
