import Hdc.ArgPanics

/- The arguments of the server a client starts (`server_fork` in `hdc/src/server.rs`), parsed by the
   same `parse_command` the client has run on its own.

   1. What `parse_command` returns is well formed (`Configured`): a log level below 7, an IP
      address, and a server address that the parser takes as it is. One option keeps it so
      (`GlobalParam.configured`), and so does the loop.
   2. No word of the arguments is the first of a command (`forkArgs_no_window`), so all of them are
      options.
   3. The loop looks at every value as an option once more. None starts with a dash, and all are
      ASCII, so nothing comes of it (`extractGlobalParamsLoop_word`). -/
namespace Hdc
open Rust

/-- The argument vector of `server_fork`. -/
def forkArgs (addr : String) (logLevel : Nat) (forwardListenIp : String) : List String :=
  ["-b", "-m", "-l", toString logLevel, "-s", addr] ++
    if forwardListenIp ≠ "127.0.0.1" ∧ forwardListenIp ≠ "" then ["-e", forwardListenIp] else []

/-! What the parser returns. -/

structure Configured (parsed : ParsedCommand) : Prop where
  level : parsed.logLevel < 7
  addr : parseServerListenString stdNet parsed.serverAddr = .ok parsed.serverAddr
  ip : ∃ v6, Rust.parseIpAddr parsed.forwardListenIp = some v6

theorem GlobalParam.configured {parsed parsed' : ParsedCommand} {arg : String}
    (h : Configured parsed) (htake : GlobalParam stdNet parsed arg parsed') : Configured parsed' := by
  cases htake with
  | logLevel hlevel => exact ⟨hlevel, h.addr, h.ip⟩
  | serverAddr haddr => exact ⟨h.level, parseServerListenString_idem haddr, h.ip⟩
  | forwardListenIp hip => exact ⟨h.level, h.addr, _, hip⟩
  | same | runInServer | launchServer | connectKey _ | spawnedServer => exact ⟨h.level, h.addr, h.ip⟩

theorem default_configured : Configured
    { launchServer := true
      logLevel := 3
      serverAddr := localHost ++ ":" ++ toString serverDefaultPort
      forwardListenIp := localHost } where
  level := by decide
  addr := by decide
  ip := ⟨false, by decide⟩

theorem parseCommand_configured {args : List String} {parsed : ParsedCommand}
    (h : parseCommand stdNet args = some (.ok parsed)) : Configured parsed := by
  obtain ⟨parsedCmd, hextract, heq⟩ := parseCommand_options h
  rw [extractGlobalParams] at hextract
  have hcmd : Configured parsedCmd :=
    extractGlobalParamsLoop_keeps GlobalParam.configured default_configured hextract
  rw [heq]
  exact ⟨hcmd.level, hcmd.addr, hcmd.ip⟩

/-! The words of the arguments. -/

/-- A character of an address as the parser accepts it. -/
def isAddrChar (c : Char) : Bool := isIpChar c || c == '[' || c == ']'

theorem isIpChar_ascii {c : Char} (h : isIpChar c = true) : c.toNat < 128 := by
  simp only [isIpChar, isHexDigit, Bool.or_eq_true, decide_eq_true_eq, beq_iff_eq] at h
  rcases h with ((((hdigit | ⟨-, hle⟩) | ⟨-, hle⟩) | rfl) | rfl)
  · exact Nat.lt_trans (toNat_lt_of_isDigit hdigit) (by decide)
  · exact Nat.lt_of_le_of_lt (Char.le_def.mp hle) (by decide)
  · exact Nat.lt_of_le_of_lt (Char.le_def.mp hle) (by decide)
  · decide
  · decide

theorem isAddrChar_ascii {c : Char} (h : isAddrChar c = true) : c.toNat < 128 := by
  simp only [isAddrChar, Bool.or_eq_true, beq_iff_eq] at h
  rcases h with (hip | rfl) | rfl
  · exact isIpChar_ascii hip
  · decide
  · decide

/-- What `trimBrackets` takes off are brackets. -/
theorem mem_trimBrackets {s : String} {c : Char} (h : c ∈ s.toList) :
    c ∈ (trimBrackets s).toList ∨ c = '[' ∨ c = ']' := by
  rw [trimBrackets, trimEndMatches, String.toList_ofList, String.toList_ofList]
  rw [← List.takeWhile_append_dropWhile (p := (· == '[')) (l := s.toList), List.mem_append] at h
  rcases h with h | h
  · exact .inr (.inl (by simpa using List.mem_takeWhile_imp h))
  · generalize s.toList.dropWhile (· == '[') = cs at h ⊢
    rw [← List.mem_reverse, ← List.takeWhile_append_dropWhile (p := (· == ']')) (l := cs.reverse),
      List.mem_append] at h
    rcases h with h | h
    · exact .inr (.inr (by simpa using List.mem_takeWhile_imp h))
    · exact .inl (List.mem_reverse.mpr h)

/-- An accepted address has a colon and no other characters than these. -/
theorem listen_chars {addr : String} (h : parseServerListenString stdNet addr = .ok addr) :
    ':' ∈ addr.toList ∧ ∀ c ∈ addr.toList, isAddrChar c = true := by
  have hdigit : ∀ {port : String}, port.toList.all Char.isDigit = true →
      ∀ c ∈ port.toList, isAddrChar c = true := by
    intro port hdigits c hc
    rw [isAddrChar, isIpChar, isHexDigit_of_isDigit (List.all_eq_true.mp hdigits c hc)]
    rfl
  have hjoin : ∀ {host port : String}, addr = host ++ String.singleton ':' ++ port →
      (∀ c ∈ host.toList, isAddrChar c = true) → port.toList.all Char.isDigit = true →
      ':' ∈ addr.toList ∧ ∀ c ∈ addr.toList, isAddrChar c = true := by
    rintro host port rfl hhost hport
    rw [String.toList_append, String.toList_append, String.toList_singleton]
    constructor
    · simp
    · intro c hc
      rw [List.mem_append, List.mem_append, List.mem_singleton] at hc
      rcases hc with (hc | rfl) | hc
      · exact hhost c hc
      · decide
      · exact hdigit hport c hc
  rcases parseServerListenString_eq_ok h with ⟨value, hport, -, haddr⟩ |
    ⟨host, port, value, v6, hsplit, hport, hip, haddr⟩
  · obtain ⟨-, hpos, -, -⟩ := checkPort_eq_ok hport
    obtain ⟨-, -, -, hdigits⟩ := checkPort_eq_ok (checkPort_toString hpos)
    exact hjoin haddr (List.all_eq_true.mp (by decide)) hdigits
  · obtain ⟨-, -, -, hdigits⟩ := checkPort_eq_ok hport
    rw [← haddr] at hsplit
    refine hjoin (rsplitOnce_eq_some hsplit).1 (fun c hc => ?_) hdigits
    rcases mem_trimBrackets hc with hc | rfl | rfl
    · rw [isAddrChar, (parseIpAddr_chars hip).1 c hc]
      rfl
    · decide
    · decide

/-- A word the option loop passes over and the command search does not take for a command. -/
structure PlainWord (word : String) : Prop where
  ascii : ∀ c ∈ word.toList, c.toNat < 128
  spaceless : ' ' ∉ word.toList
  noOption : word.toList.head? ≠ some '-'
  noCommand : ':' ∈ word.toList ∨ '.' ∈ word.toList ∨ word.toList.all Char.isDigit = true

theorem PlainWord.of_addr {word : String} (hchars : ∀ c ∈ word.toList, isAddrChar c = true)
    (h : ':' ∈ word.toList ∨ '.' ∈ word.toList) : PlainWord word where
  ascii c hc := isAddrChar_ascii (hchars c hc)
  spaceless hmem := absurd (hchars _ hmem) (by decide)
  noOption hhead := absurd (hchars _ (List.mem_of_mem_head? hhead)) (by decide)
  noCommand := by
    rcases h with h | h
    · exact .inl h
    · exact .inr (.inl h)

theorem PlainWord.of_level (level : Nat) : PlainWord (toString level) := by
  have hdigits : ∀ c ∈ (toString level).toList, c.isDigit = true :=
    List.all_eq_true.mp (toList_toString level ▸ toDigits_all_isDigit level)
  refine ⟨fun c hc => ?_, fun hmem => ?_, fun hhead => ?_, .inr (.inr (List.all_eq_true.mpr hdigits))⟩
  · exact Nat.lt_trans (toNat_lt_of_isDigit (hdigits c hc)) (by decide)
  · exact absurd (hdigits _ hmem) (by decide)
  · exact absurd (hdigits _ (List.mem_of_mem_head? hhead)) (by decide)

theorem Configured.plain_addr {parsed : ParsedCommand} (h : Configured parsed) :
    PlainWord parsed.serverAddr := by
  obtain ⟨hcolon, hchars⟩ := listen_chars h.addr
  exact .of_addr hchars (.inl hcolon)

theorem Configured.plain_ip {parsed : ParsedCommand} (h : Configured parsed) :
    PlainWord parsed.forwardListenIp := by
  obtain ⟨v6, hip⟩ := h.ip
  obtain ⟨hchars, hmem⟩ := parseIpAddr_chars hip
  refine .of_addr (fun c hc => ?_) hmem.symm
  rw [isAddrChar, hchars c hc]
  rfl

/-! The search finds no command. -/

/-- A word of `server_fork`: an option of two characters, or a plain word. -/
def ForkWord (word : String) : Prop := word ∈ ["-b", "-m", "-l", "-s", "-e"] ∨ PlainWord word

theorem forkWord_of_mem {parsed : ParsedCommand} (h : Configured parsed) {word : String}
    (hmem : word ∈ forkArgs parsed.serverAddr parsed.logLevel parsed.forwardListenIp) :
    ForkWord word := by
  have hip : word ∈ (if parsed.forwardListenIp ≠ "127.0.0.1" ∧ parsed.forwardListenIp ≠ "" then
      ["-e", parsed.forwardListenIp] else []) → ForkWord word := by
    intro hword
    split at hword
    · rcases List.mem_pair.mp hword with rfl | rfl
      · exact .inl (by decide)
      · exact .inr h.plain_ip
    · cases hword
  rw [forkArgs, List.mem_append] at hmem
  rcases hmem with hmem | hmem
  · simp only [List.mem_cons, List.not_mem_nil, or_false] at hmem
    rcases hmem with rfl | rfl | rfl | rfl | rfl | rfl
    · exact .inl (by decide)
    · exact .inl (by decide)
    · exact .inl (by decide)
    · exact .inr (.of_level _)
    · exact .inl (by decide)
    · exact .inr h.plain_addr
  · exact hip hmem

theorem ForkWord.spaceless {word : String} (h : ForkWord word) : ' ' ∉ word.toList := by
  rcases h with h | h
  · have hoptions : ∀ word ∈ ["-b", "-m", "-l", "-s", "-e"], ' ' ∉ word.toList := by decide
    exact hoptions word h
  · exact h.spaceless

/-- No command starts with such a word. -/
theorem ForkWord.not_command {word : String} (h : ForkWord word) {words : List String}
    {command : HdcCommand} : (word :: words, command) ∉ commandWords := by
  have hnames : ∀ entry ∈ commandWords, ∀ first ∈ entry.1.head?, ':' ∉ first.toList ∧
      '.' ∉ first.toList ∧ first.toList.all Char.isDigit = false ∧
      first ∉ ["-b", "-m", "-l", "-s", "-e"] := by
    decide
  intro hmem
  obtain ⟨hcolon, hdot, hdigits, hoption⟩ := hnames _ hmem word rfl
  rcases h with h | ⟨-, -, -, h | h | h⟩
  · exact hoption h
  · exact hcolon h
  · exact hdot h
  · rw [hdigits] at h
    cases h

theorem forkWords_no_window {input : List String} (h : ∀ word ∈ input, ForkWord word) (st len : Nat) :
    window input st len = none := by
  cases hwindow : window input st len with
  | none => rfl
  | some command =>
    exfalso
    have hspaceless : Spaceless (input.drop st) := fun word hword =>
      (h word (List.mem_of_mem_drop hword)).spaceless
    obtain ⟨hmem, -⟩ := windowAt_words hspaceless hwindow
    obtain ⟨hpos, -, hlen, -⟩ := windowAt_eq_some hwindow
    cases hdrop : input.drop st with
    | nil =>
      rw [hdrop, List.length_nil] at hlen
      omega
    | cons word words =>
      obtain ⟨n, rfl⟩ := Nat.exists_eq_succ_of_ne_zero (Nat.pos_iff_ne_zero.mp hpos)
      rw [hdrop, List.take_succ_cons] at hmem
      have hword : word ∈ input := List.mem_of_mem_drop (hdrop ▸ List.mem_cons_self)
      exact (h word hword).not_command hmem

theorem splitOptAndCmd_forkArgs {parsed : ParsedCommand} (h : Configured parsed) :
    splitOptAndCmd (forkArgs parsed.serverAddr parsed.logLevel parsed.forwardListenIp) =
      ⟨forkArgs parsed.serverAddr parsed.logLevel parsed.forwardListenIp, none, []⟩ :=
  splitOptAndCmd_of_no_window (fun _ hword => (forkWord_of_mem h hword).spaceless)
    (forkWords_no_window fun _ hword => forkWord_of_mem h hword)

/-! The options. -/

section
variable {net : NetParse} {opts : List String} {parsed parsed' : ParsedCommand}

/-- An option of two bytes takes the next word. -/
theorem extractGlobalParamsLoop_option {opt arg : String} (hlen : (utf8 opt).length = 2)
    (htake : takeGlobalParam net parsed opt arg = .ok parsed') :
    extractGlobalParamsLoop net (opt :: arg :: opts) parsed =
      extractGlobalParamsLoop net (arg :: opts) parsed' := by
  have harg : optionArg opt (arg :: opts) = some arg := by
    rw [optionArg, if_neg (by omega)]
    rfl
  rw [extractGlobalParamsLoop_cons, harg, Option.bind_some, htake]

/-- A word without a dash is passed over. -/
theorem takeGlobalParam_word {word : String} (h : word.toList.head? ≠ some '-') (arg : String) :
    takeGlobalParam net parsed word arg = .ok parsed := by
  have hno : ∀ c, startsWith word (String.ofList ['-', c]) = false := by
    intro c
    rw [Bool.eq_false_iff, startsWith, Ne, List.isPrefixOf_iff_prefix, String.toList_ofList]
    rintro ⟨rest, hrest⟩
    rw [← hrest] at h
    exact h rfl
  have hh : startsWith word "-h" = false := hno 'h'
  have hv : startsWith word "-v" = false := hno 'v'
  have hl : startsWith word "-l" = false := hno 'l'
  have hm : startsWith word "-m" = false := hno 'm'
  have hp : startsWith word "-p" = false := hno 'p'
  have ht : startsWith word "-t" = false := hno 't'
  have hs : startsWith word "-s" = false := hno 's'
  have he : startsWith word "-e" = false := hno 'e'
  have hb : startsWith word "-b" = false := hno 'b'
  rw [takeGlobalParam, hh, hv, hl, hm, hp, ht, hs, he, hb]
  rfl

theorem extractGlobalParamsLoop_word {word : String} (h : PlainWord word) :
    extractGlobalParamsLoop net (word :: opts) parsed = extractGlobalParamsLoop net opts parsed := by
  have harg : optionArg word opts ≠ none := by
    rw [Ne, optionArg_eq_none]
    rintro ⟨hlen, hboundary⟩
    rw [isCharBoundary_ascii h.ascii (Nat.le_of_lt hlen)] at hboundary
    cases hboundary
  obtain ⟨arg, harg⟩ := Option.ne_none_iff_exists'.mp harg
  rw [extractGlobalParamsLoop_cons, harg, Option.bind_some, takeGlobalParam_word h.noOption]

theorem takeGlobalParam_spawned (arg : String) :
    takeGlobalParam net parsed "-b" arg = .ok { parsed with spawnedServer := true } := rfl

theorem takeGlobalParam_inServer (arg : String) :
    takeGlobalParam net parsed "-m" arg = .ok { parsed with runInServer := true } := rfl

theorem takeGlobalParam_level {arg : String} {level : Nat} (harg : parseUsize arg = some level)
    (hlevel : level < 7) :
    takeGlobalParam net parsed "-l" arg = .ok { parsed with logLevel := level } := by
  rw [takeGlobalParam, if_neg (by decide), if_neg (by decide), if_pos (by decide), harg]
  exact if_pos hlevel

theorem takeGlobalParam_server {arg addr : String} (h : parseServerListenString net arg = .ok addr) :
    takeGlobalParam net parsed "-s" arg = .ok { parsed with serverAddr := addr } := by
  show (parseServerListenString net arg >>= _) = _
  rw [h]
  rfl

theorem takeGlobalParam_ip {arg : String} {v6 : Bool} (h : net.parseIpAddr arg = some v6) :
    takeGlobalParam net parsed "-e" arg = .ok { parsed with forwardListenIp := arg } := by
  rw [takeGlobalParam, if_neg (by decide), if_neg (by decide), if_neg (by decide),
    if_neg (by decide), if_neg (by decide), if_neg (by decide), if_neg (by decide),
    if_pos (by decide), h]

end

/-- The server that is started has the configuration of the client. -/
structure SameConfiguration (parsed spawned : ParsedCommand) : Prop where
  runInServer : spawned.runInServer = true
  spawnedServer : spawned.spawnedServer = true
  command : spawned.command = none
  serverAddr : spawned.serverAddr = parsed.serverAddr
  logLevel : spawned.logLevel = parsed.logLevel
  forwardListenIp : spawned.forwardListenIp = parsed.forwardListenIp

/-- The loop over the first six words. -/
theorem extractGlobalParamsLoop_fork {parsed : ParsedCommand} (h : Configured parsed)
    (opts : List String) (start : ParsedCommand) :
    extractGlobalParamsLoop stdNet
        (["-b", "-m", "-l", toString parsed.logLevel, "-s", parsed.serverAddr] ++ opts) start =
      extractGlobalParamsLoop stdNet opts
        { start with
          spawnedServer := true
          runInServer := true
          logLevel := parsed.logLevel
          serverAddr := parsed.serverAddr } := by
  have hlevel : parseUsize (toString parsed.logLevel) = some parsed.logLevel :=
    parseUsize_toString (Nat.lt_trans h.level (by decide))
  simp only [List.cons_append, List.nil_append]
  rw [extractGlobalParamsLoop_option (by decide) (takeGlobalParam_spawned _),
    extractGlobalParamsLoop_option (by decide) (takeGlobalParam_inServer _),
    extractGlobalParamsLoop_option (by decide) (takeGlobalParam_level hlevel h.level),
    extractGlobalParamsLoop_word (.of_level _),
    extractGlobalParamsLoop_option (by decide) (takeGlobalParam_server h.addr),
    extractGlobalParamsLoop_word h.plain_addr]

theorem fork_keeps_configuration (args : List String) (exe : String) (parsed : ParsedCommand)
    (hparse : parseCommand stdNet args = some (.ok parsed)) :
    ∃ spawned, parseCommand stdNet
        (exe :: forkArgs parsed.serverAddr parsed.logLevel parsed.forwardListenIp) =
      some (.ok spawned) ∧ SameConfiguration parsed spawned := by
  have h := parseCommand_configured hparse
  obtain ⟨v6, hip⟩ := h.ip
  have hipStd : stdNet.parseIpAddr parsed.forwardListenIp = some v6 := by
    rw [stdNet_parseIpAddr, hip]
  have hsplit := splitOptAndCmd_forkArgs h
  have hne : parsed.forwardListenIp ≠ "" := by
    intro hempty
    obtain ⟨-, hmem⟩ := parseIpAddr_chars hip
    rw [hempty] at hmem
    exact absurd hmem (by decide)
  rw [parseCommand]
  simp only [List.drop_one, List.tail_cons, hsplit]
  rw [extractGlobalParams, forkArgs, extractGlobalParamsLoop_fork h]
  by_cases hlocal : parsed.forwardListenIp = "127.0.0.1"
  · rw [if_neg fun hcond => hcond.1 hlocal]
    exact ⟨_, rfl, rfl, rfl, rfl, rfl, rfl, hlocal.symm⟩
  · rw [if_pos ⟨hlocal, hne⟩,
      extractGlobalParamsLoop_option (by decide) (takeGlobalParam_ip hipStd),
      extractGlobalParamsLoop_word h.plain_ip]
    exact ⟨_, rfl, rfl, rfl, rfl, rfl, rfl, rfl⟩

/-- `hdc -s [[::1]]:8710 -e ::1 -l 5 list targets`. -/
def listTargets : List String :=
  ["hdc", "-s", "[[::1]]:8710", "-e", "::1", "-l", "5", "list", "targets"]

/-- The parser accepts, with this server address and this address to listen on. -/
def setTo (addr ip : String) : IoResult ParsedCommand → Bool
  | .ok parsed => parsed.serverAddr == addr && parsed.forwardListenIp == ip
  | .error _ => false

theorem fork_keeps_listTargets :
    ∃ parsed spawned, parseCommand stdNet listTargets = some (.ok parsed) ∧
      parsed.serverAddr = "[[::1]]:8710" ∧ parsed.forwardListenIp = "::1" ∧
      parseCommand stdNet
        ("/usr/bin/hdc" :: forkArgs parsed.serverAddr parsed.logLevel parsed.forwardListenIp) =
        some (.ok spawned) ∧ SameConfiguration parsed spawned := by
  have hrun : (parseCommand stdNet listTargets).any (setTo "[[::1]]:8710" "::1") = true := by
    with_unfolding_all decide
  obtain ⟨result, hparse, hfields⟩ := (Option.any_eq_true _ _).mp hrun
  cases result with
  | error e => cases hfields
  | ok parsed =>
    obtain ⟨spawned, hspawned, hsame⟩ :=
      fork_keeps_configuration listTargets "/usr/bin/hdc" parsed hparse
    obtain ⟨haddr, hip⟩ := Bool.and_eq_true_iff.mp hfields
    exact ⟨parsed, spawned, hparse, beq_iff_eq.mp haddr, beq_iff_eq.mp hip, hspawned, hsame⟩

end Hdc
