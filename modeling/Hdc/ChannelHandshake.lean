import Hdc.CharBoundary
import Hdc.CommandHop
import Hdc.ConnectMap

/- The first messages of a channel between a client and the server (`Client::handshake` in
   `hdc/src/client.rs`, `handle_client` and `unpack_channel_handshake` in `hdc/src/server.rs`).

   The server greets the client with a banner; the client answers with the same banner and its
   connect key, each padded with zeros. A client of another kind sends a command at once, so a
   first message that is no such answer is taken as a command.

   1. `handshake_carries_key`: a key that the parser has let through, and that has no NUL in it,
      arrives unchanged.
   2. `first_message_handled_iff`: neither side looks at the length of what it has received before
      it slices it. The client panics below the eight bytes of the banner, and the server at a
      message that is the banner and fewer than four bytes more; such a channel is never ended. -/
namespace Hdc
open Rust

/-- `BANNER_SIZE` and `KEY_MAX_SIZE`. -/
def bannerSize : Nat := 12
def keyMaxSize : Nat := 32

/-! Operations that panic: `none` is the panic. -/

/-- `&v[..n]`. -/
def sliceTo {α : Type} (v : List α) (n : Nat) : Option (List α) :=
  if n ≤ v.length then some (v.take n) else none

/-- `&v[n..]`. -/
def sliceFrom {α : Type} (v : List α) (n : Nat) : Option (List α) :=
  if n ≤ v.length then some (v.drop n) else none

/-- `vec![0u8; a - b]`. Without overflow checks the difference wraps around, and no vector is that
long. -/
def zeroFill (a b : Nat) : Option (List UInt8) :=
  if b ≤ a then some (List.replicate (a - b) 0) else none

/-! The client. -/

def autoConnectKey (key : String) (cmd : HdcCommand) : String :=
  match cmd with
  | .clientVersion | .kernelHelp | .kernelTargetList | .kernelCheckServer | .kernelTargetConnect
  | .kernelServerKill => ""
  | _ => if key = "" then "any" else key

/-- The `connect_key` of `Client::new`. -/
def clientConnectKey (parsed : ParsedCommand) : IoResult String :=
  match parsed.command with
  | none => .error ⟨.invalidInput, "command is None"⟩
  | some command => .ok (autoConnectKey parsed.connectKey command)

/-- The check of the server's greeting. -/
def checkHello (recv : List UInt8) : Option (IoResult Unit) := do
  let front ← sliceTo recv (utf8 handshakeMessage).length
  match fromUtf8 front with
  | none => return invalidData "handshake from_utf8 error"
  | some msg =>
    if msg ≠ handshakeMessage then return invalidData "Recv server-hello failed"
    else return .ok ()

/-- The banner and the connect key. -/
def helloReply (connectKey : String) : Option (List UInt8) := do
  let bannerFill ← zeroFill bannerSize (utf8 handshakeMessage).length
  let keyFill ← zeroFill keyMaxSize (utf8 connectKey).length
  return utf8 handshakeMessage ++ bannerFill ++ utf8 connectKey ++ keyFill

/-- `Client::handshake`: what is sent for what was received. -/
def clientHandshake (connectKey : String) (recv : List UInt8) : Option (IoResult (List UInt8)) := do
  match ← checkHello recv with
  | .error e => return .error e
  | .ok () =>
    let buf ← helloReply connectKey
    return .ok buf

/-! The server. -/

def unpackChannelHandshake (recv : List UInt8) : Option (IoResult String) := do
  let front ← sliceTo recv (utf8 handshakeMessage).length
  match fromUtf8 front with
  | none => return invalidData "not utf-8 chars"
  | some msg =>
    if msg ≠ handshakeMessage then return invalidData "Recv server-hello failed"
    else
      let keyBuf ← sliceFrom recv bannerSize
      let start := (keyBuf.findIdx? (· ≠ 0)).getD 0
      let trimmed ← sliceFrom keyBuf start
      let pos := (trimmed.findIdx? (· = 0)).getD trimmed.length
      let key ← sliceTo trimmed pos
      match fromUtf8 key with
      | some key => return .ok key
      | none => return invalidData "unpack connect key failed"

/-- `connect_key` and `pending_msg`. -/
structure FirstMessage where
  connectKey : String
  pendingMsg : Option (List UInt8)
  deriving DecidableEq, Repr

def FirstMessage.ofUnpacked (recv : List UInt8) : IoResult String → FirstMessage
  | .ok key => ⟨if key = "" then "any" else key, none⟩
  | .error _ => ⟨"", some recv⟩

/-- What `handle_client` makes of the first message. -/
def firstMessage (recv : List UInt8) : Option FirstMessage :=
  if (utf8 handshakeMessage).isPrefixOf recv then
    (unpackChannelHandshake recv).map (FirstMessage.ofUnpacked recv)
  else some ⟨"", some recv⟩

/-- What `handle_client` finds when it looks at a message: the devices, and whether `TcpMap` still
has the writer of the channel. -/
structure ClientEnv where
  connectMap : ConnectMap
  hasWriter : Bool

/-- How `handle_client` ends: with `end_channel`, with the channel handed over to
`run_server_shell_bridge`, or in a panic. -/
inductive ClientEnd where
  | endChannel
  | shellBridge
  | panicked
  deriving DecidableEq, Repr

/-- `shell` without a command, for which the channel becomes an interactive shell. -/
def asksShell (recv : List UInt8) : Bool :=
  let parsed := parseReceived recv
  parsed.command = some .unityExecute ∧ parsed.parameters.length = 1

/-- The loop over the client's messages, up to its last. An error of `dispatch_task` is reported to
the client, and the loop goes on. -/
def commandLoop (connectKey : String) : List (List UInt8 × ClientEnv) → ClientEnd
  | [] => .endChannel
  | (recv, env) :: rest =>
    if asksShell recv then
      match resolveConnectKey env.connectMap connectKey with
      | .error _ => .endChannel
      | .ok _ => if env.hasWriter then .shellBridge else commandLoop connectKey rest
    else commandLoop connectKey rest

/-- `handle_client` from the first message on. -/
def handleClient (recv : List UInt8) (env : ClientEnv) (later : List (List UInt8 × ClientEnv)) :
    ClientEnd :=
  match firstMessage recv with
  | none => .panicked
  | some first =>
    match first.pendingMsg with
    | none => commandLoop first.connectKey later
    | some msg => commandLoop first.connectKey ((msg, env) :: later)

/-! Slices. -/

theorem utf8_handshakeMessage_length : (utf8 handshakeMessage).length = 8 := by decide

theorem sliceTo_eq_none {α : Type} {v : List α} {n : Nat} : sliceTo v n = none ↔ v.length < n := by
  unfold sliceTo
  split <;> simp <;> omega

theorem sliceFrom_eq_none {α : Type} {v : List α} {n : Nat} :
    sliceFrom v n = none ↔ v.length < n := by
  unfold sliceFrom
  split <;> simp <;> omega

theorem sliceTo_append {α : Type} (front rest : List α) :
    sliceTo (front ++ rest) front.length = some front := by
  rw [sliceTo, if_pos (by simp), List.take_left]

theorem sliceFrom_append {α : Type} {front rest : List α} {n : Nat} (h : front.length = n) :
    sliceFrom (front ++ rest) n = some rest := by
  rw [sliceFrom, if_pos (by simp [← h]), List.drop_left' h]

/-- A position that was found is inside. -/
theorem findIdx?_getD_le {α : Type} {p : α → Bool} {v : List α} {n : Nat} (hn : n ≤ v.length) :
    (v.findIdx? p).getD n ≤ v.length := by
  cases h : v.findIdx? p with
  | none => exact hn
  | some i => exact Nat.le_of_lt (List.findIdx?_eq_some_iff_getElem.mp h).1

/-! The first message. -/

theorem checkHello_eq_none {recv : List UInt8} : checkHello recv = none ↔ recv.length < 8 := by
  rw [← utf8_handshakeMessage_length, ← sliceTo_eq_none, checkHello, Option.bind_eq_bind,
    Option.bind_eq_none_iff]
  constructor
  · intro h
    cases hslice : sliceTo recv (utf8 handshakeMessage).length with
    | none => rfl
    | some front =>
      have hnone := h front hslice
      split at hnone
      · cases hnone
      · split at hnone <;> cases hnone
  · intro h front hfront
    rw [h] at hfront
    cases hfront

/-- Behind the banner only the slice at the start of the key can panic. -/
theorem unpackChannelHandshake_eq_none (rest : List UInt8) :
    unpackChannelHandshake (utf8 handshakeMessage ++ rest) = none ↔ rest.length < 4 := by
  have hlen : (utf8 handshakeMessage ++ rest).length < bannerSize ↔ rest.length < 4 := by
    rw [List.length_append, utf8_handshakeMessage_length, bannerSize]
    omega
  rw [unpackChannelHandshake, sliceTo_append, ← hlen, ← sliceFrom_eq_none]
  simp only [Option.bind_eq_bind, Option.bind_some, fromUtf8_utf8, ne_eq, not_true_eq_false, if_false]
  rw [Option.bind_eq_none_iff]
  constructor
  · intro h
    cases hslice : sliceFrom (utf8 handshakeMessage ++ rest) bannerSize with
    | none => rfl
    | some keyBuf =>
      have hnone := h keyBuf hslice
      -- both positions are inside what they are searched in
      have hstart := findIdx?_getD_le (p := fun c => decide ¬c = 0) (v := keyBuf) (Nat.zero_le _)
      rw [sliceFrom, if_pos hstart, Option.bind_some] at hnone
      rw [sliceTo, if_pos (findIdx?_getD_le (Nat.le_refl _)), Option.bind_some] at hnone
      split at hnone <;> cases hnone
  · intro h keyBuf hkeyBuf
    rw [h] at hkeyBuf
    cases hkeyBuf

/-- The message is the banner with fewer than four bytes after it. -/
def CutBanner (recv : List UInt8) : Prop := utf8 handshakeMessage <+: recv ∧ recv.length < bannerSize

instance (recv : List UInt8) : Decidable (CutBanner recv) := inferInstanceAs (Decidable (_ ∧ _))

theorem firstMessage_eq_none {recv : List UInt8} : firstMessage recv = none ↔ CutBanner recv := by
  rw [firstMessage, CutBanner]
  split
  · rename_i hbanner
    obtain ⟨rest, rfl⟩ := List.isPrefixOf_iff_prefix.mp hbanner
    rw [Option.map_eq_none_iff, unpackChannelHandshake_eq_none, List.length_append,
      utf8_handshakeMessage_length, bannerSize]
    constructor
    · intro h
      exact ⟨List.prefix_append _ _, by omega⟩
    · rintro ⟨-, h⟩
      omega
  · rename_i hbanner
    refine iff_of_false (by simp) ?_
    rintro ⟨h, -⟩
    exact hbanner (List.isPrefixOf_iff_prefix.mpr h)

/-- The loop comes to `end_channel`, or has handed the channel over to a shell. -/
theorem commandLoop_ends (connectKey : String) (messages : List (List UInt8 × ClientEnv)) :
    commandLoop connectKey messages = .endChannel ∨
      commandLoop connectKey messages = .shellBridge ∧ ∃ m ∈ messages, asksShell m.1 = true := by
  induction messages with
  | nil => exact .inl rfl
  | cons message messages ih =>
    obtain ⟨recv, env⟩ := message
    have hrest : commandLoop connectKey messages = .endChannel ∨
        commandLoop connectKey messages = .shellBridge ∧
          ∃ m ∈ (recv, env) :: messages, asksShell m.1 = true := by
      rcases ih with hend | ⟨hshell, m, hm, hasks⟩
      · exact .inl hend
      · exact .inr ⟨hshell, m, List.mem_cons_of_mem _ hm, hasks⟩
    rw [commandLoop]
    split
    · rename_i hasks
      split
      · exact .inl rfl
      · split
        · exact .inr ⟨rfl, _, List.mem_cons_self, hasks⟩
        · exact hrest
    · exact hrest

/-- A message that is no answer to the greeting is kept as it is. -/
theorem firstMessage_pendingMsg {recv : List UInt8} {first : FirstMessage}
    (h : firstMessage recv = some first) : ∀ msg ∈ first.pendingMsg, msg = recv := by
  rw [firstMessage] at h
  split at h
  · obtain ⟨unpacked, -, rfl⟩ := Option.map_eq_some_iff.mp h
    cases unpacked with
    | ok key => simp [FirstMessage.ofUnpacked]
    | error e => simp [FirstMessage.ofUnpacked]
  · cases h
    simp

/-- Whatever the client goes on to send, the handler comes to `end_channel`, or hands the channel
over to a shell that the client has asked for. -/
def Served (recv : List UInt8) : Prop :=
  ∀ env later, handleClient recv env later = .endChannel ∨
    handleClient recv env later = .shellBridge ∧ ∃ m ∈ (recv, env) :: later, asksShell m.1 = true

theorem served_iff {recv : List UInt8} : Served recv ↔ firstMessage recv ≠ none := by
  constructor
  · intro h hnone
    have hpanicked : handleClient recv ⟨.new, true⟩ [] = .panicked := by
      rw [handleClient, hnone]
    rcases h ⟨.new, true⟩ [] with hend | ⟨hend, -⟩ <;> cases hend.symm.trans hpanicked
  · intro h env later
    obtain ⟨⟨connectKey, pendingMsg⟩, hfirst⟩ := Option.ne_none_iff_exists'.mp h
    rw [handleClient, hfirst]
    cases pendingMsg with
    | none =>
      rcases commandLoop_ends connectKey later with hend | ⟨hshell, m, hm, hasks⟩
      · exact .inl hend
      · exact .inr ⟨hshell, m, List.mem_cons_of_mem _ hm, hasks⟩
    | some msg =>
      cases firstMessage_pendingMsg hfirst msg rfl
      exact commandLoop_ends connectKey ((recv, env) :: later)

/-- Bytes without a zero are found again in front of zeros, and at the end. -/
theorem findIdx?_zeros {bytes : List UInt8} (h : 0 ∉ bytes) (k : Nat) :
    ((bytes ++ List.replicate k 0).findIdx? (· = 0)).getD (bytes ++ List.replicate k 0).length =
      bytes.length := by
  have hnone : bytes.findIdx? (· = 0) = none := by
    rw [List.findIdx?_eq_none_iff]
    intro b hb
    simpa using fun hzero : b = 0 => h (hzero ▸ hb)
  rw [List.findIdx?_append, hnone]
  cases k with
  | zero => simp
  | succ k => simp [List.replicate_succ, List.findIdx?_cons]

/-- Leading zeros are skipped, of which such bytes have none; zeros alone are kept. -/
theorem findIdx?_nonzero {bytes : List UInt8} (h : 0 ∉ bytes) (k : Nat) :
    ((bytes ++ List.replicate k 0).findIdx? (· ≠ 0)).getD 0 = 0 := by
  cases bytes with
  | nil =>
    have hnone : (List.replicate k (0 : UInt8)).findIdx? (· ≠ 0) = none := by
      rw [List.findIdx?_eq_none_iff]
      intro b hb
      simp [List.eq_of_mem_replicate hb]
    rw [List.nil_append, hnone]
    rfl
  | cons b bytes =>
    have hb : b ≠ 0 := fun hzero => h (hzero ▸ List.mem_cons_self)
    simp [List.findIdx?_cons, hb]

theorem helloReply_eq {connectKey : String} (hlen : (utf8 connectKey).length ≤ keyMaxSize) :
    helloReply connectKey = some (utf8 handshakeMessage ++ List.replicate 4 0 ++ utf8 connectKey ++
      List.replicate (keyMaxSize - (utf8 connectKey).length) 0) := by
  have hbanner : zeroFill bannerSize (utf8 handshakeMessage).length = some (List.replicate 4 0) := by
    decide
  rw [helloReply, hbanner, zeroFill, if_pos hlen]
  rfl

theorem unpackChannelHandshake_reply {connectKey : String} (hnul : '\x00' ∉ connectKey.toList) (k : Nat) :
    unpackChannelHandshake
      (utf8 handshakeMessage ++ List.replicate 4 0 ++ utf8 connectKey ++ List.replicate k 0) =
        some (.ok connectKey) := by
  have hzero := zero_not_mem_utf8 hnul
  have hfront : sliceTo (utf8 handshakeMessage ++ List.replicate 4 0 ++ utf8 connectKey ++
      List.replicate k 0) (utf8 handshakeMessage).length = some (utf8 handshakeMessage) := by
    rw [List.append_assoc, List.append_assoc, sliceTo_append]
  have hbanner : sliceFrom (utf8 handshakeMessage ++ List.replicate 4 0 ++ utf8 connectKey ++
      List.replicate k 0) bannerSize = some (utf8 connectKey ++ List.replicate k 0) := by
    rw [List.append_assoc (utf8 handshakeMessage ++ List.replicate 4 0)]
    exact sliceFrom_append (by decide)
  have hstart : sliceFrom (utf8 connectKey ++ List.replicate k 0) 0 =
      some (utf8 connectKey ++ List.replicate k 0) := rfl
  rw [unpackChannelHandshake, hfront]
  simp only [Option.bind_eq_bind, Option.bind_some, fromUtf8_utf8, ne_eq, not_true_eq_false, if_false,
    hbanner]
  have hpos := findIdx?_zeros hzero k
  have hskip := findIdx?_nonzero hzero k
  simp only [ne_eq] at hskip
  rw [hskip, hstart, Option.bind_some, hpos, sliceTo_append, Option.bind_some, fromUtf8_utf8]
  rfl

/-- The client's key is the one that was parsed, or one of two fixed ones. -/
theorem clientConnectKey_cases {parsed : ParsedCommand} {key : String}
    (h : clientConnectKey parsed = .ok key) : key = "" ∨ key = "any" ∨ key = parsed.connectKey := by
  unfold clientConnectKey at h
  split at h <;> cases h
  unfold autoConnectKey
  split
  iterate 6 exact .inl rfl
  split
  · exact .inr (.inl rfl)
  · exact .inr (.inr rfl)

/-- The key of every command that the parser returns, if it has no NUL, fills the answer to the
greeting up to 44 bytes and is unpacked from it as it was; an empty key stands for any device. -/
theorem handshake_carries_key (net : NetParse) (args : List String) (parsed : ParsedCommand)
    (hparse : parseCommand net args = some (.ok parsed)) (hnul : '\x00' ∉ parsed.connectKey.toList)
    (key : String) (hkey : clientConnectKey parsed = .ok key)
    (hello : List UInt8) (hhello : checkHello hello = some (.ok ())) :
    ∃ buf, clientHandshake key hello = some (.ok buf) ∧ buf.length = 44 ∧
      unpackChannelHandshake buf = some (.ok key) ∧
      firstMessage buf = some ⟨if key = "" then "any" else key, none⟩ := by
  have hfits : (utf8 key).length ≤ keyMaxSize ∧ '\x00' ∉ key.toList := by
    rcases clientConnectKey_cases hkey with rfl | rfl | rfl
    · decide
    · decide
    · exact ⟨parseCommand_connectKey hparse, hnul⟩
  obtain ⟨hlen, hkeyNul⟩ := hfits
  have hunpack := unpackChannelHandshake_reply hkeyNul (keyMaxSize - (utf8 key).length)
  refine ⟨_, ?_, ?_, hunpack, ?_⟩
  · rw [clientHandshake, hhello, helloReply_eq hlen]
    rfl
  · simp only [List.length_append, List.length_replicate, utf8_handshakeMessage_length]
    rw [keyMaxSize] at hlen ⊢
    omega
  · have hbanner : (utf8 handshakeMessage).isPrefixOf (utf8 handshakeMessage ++ List.replicate 4 0 ++
        utf8 key ++ List.replicate (keyMaxSize - (utf8 key).length) 0) = true := by
      rw [List.isPrefixOf_iff_prefix, List.append_assoc, List.append_assoc]
      exact List.prefix_append _ _
    rw [firstMessage, if_pos hbanner, hunpack]
    rfl

def longKeyArgs : List String := ["hdc", "-t", "0123456789abcdef0123456789abcdef", "shell", "ls"]

/-- What the client makes of `longKeyArgs`, with a key of 32 bytes. -/
def longKeyParsed : ParsedCommand where
  launchServer := true
  connectKey := "0123456789abcdef0123456789abcdef"
  logLevel := 3
  serverAddr := "127.0.0.1:8710"
  forwardListenIp := "127.0.0.1"
  command := some .unityExecute
  parameters := ["shell", "ls"]

theorem handshake_carries_key_longest :
    parseCommand noAddresses longKeyArgs = some (.ok longKeyParsed) ∧
    ∃ buf, clientHandshake longKeyParsed.connectKey (utf8 "OHOS HDC" ++ List.replicate 36 0) =
        some (.ok buf) ∧ buf.length = 44 ∧
      unpackChannelHandshake buf = some (.ok longKeyParsed.connectKey) ∧
      firstMessage buf = some ⟨if longKeyParsed.connectKey = "" then "any"
        else longKeyParsed.connectKey, none⟩ := by
  have hparse : parseCommand noAddresses longKeyArgs = some (.ok longKeyParsed) := by decide
  exact ⟨hparse, handshake_carries_key noAddresses longKeyArgs longKeyParsed hparse (by decide) _ rfl _
    (by decide)⟩

end Hdc
