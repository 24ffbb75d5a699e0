import Hdc.ConnectMap
import Hdc.HandshakeAgreement
import Hdc.Parser

/- How a device gets to be `Connected`: `start_tcp_daemon_session` and `start_usb_session` of
   `hdc/src/server.rs`, from the first step to the entry in the `ConnectMap`.

   The two authentication loops are written separately and differ in their failures, in the
   session id, which the USB loop takes over from the device, and in the PSK, which only the TCP
   loop accepts. Both wait for a message at most ten times and end at the first that settles the
   matter. That is `AuthLoop`; `connected_only_if_authenticated` is about what each of them does
   with one message. -/
namespace Hdc
open Rust

/-! Authentication loops. -/

/-- What a wait for a message comes to. -/
inductive Incoming (α : Type) where
  | message (m : α)
  | failed (e : IoError)
  | timeout
  deriving DecidableEq

/-- One turn of an authentication loop, as its environment has it: what is received, and what
sending an answer comes to, if one is sent. -/
structure AuthTurn (α : Type) where
  received : Incoming α
  sent : IoResult Unit

/-- What the loop makes of a message: the device is authenticated, or is given another turn, or
the session has failed. -/
inductive AuthStep (σ ε : Type) where
  | authenticated (st : σ)
  | next (st : σ)
  | failed (e : ε)

/-- How an authentication loop ends; it is still `waiting` at the end of a list of turns. -/
inductive AuthResult (σ ε : Type) where
  | ok (st : σ)
  | failed (e : ε)
  | waiting
  deriving DecidableEq

/-- An authentication loop: its failures, and what it does with a message. -/
structure AuthLoop (σ α ε : Type) where
  recvFailed : IoError → ε
  timeout : (attempt : Nat) → ε
  exhausted : ε
  round : σ → α → IoResult Unit → AuthStep σ ε

/-- `MAX_AUTH_ATTEMPTS`, the same in both loops. -/
def maxAuthAttempts : Nat := 10

namespace AuthLoop
variable {σ α ε : Type}

/-- The turns of a loop from one attempt on. -/
def run (loop : AuthLoop σ α ε) : Nat → σ → List (AuthTurn α) → AuthResult σ ε
  | attempt, _, [] => if maxAuthAttempts < attempt then .failed loop.exhausted else .waiting
  | attempt, st, turn :: turns =>
    if maxAuthAttempts < attempt then .failed loop.exhausted
    else match turn.received with
      | .failed e => .failed (loop.recvFailed e)
      | .timeout => .failed (loop.timeout attempt)
      | .message m =>
        match loop.round st m turn.sent with
        | .authenticated st => .ok st
        | .next st => loop.run (attempt + 1) st turns
        | .failed e => .failed e

/-- The messages that the turns have brought. -/
def messages (turns : List (AuthTurn α)) : List α :=
  turns.filterMap fun turn => match turn.received with
    | .message m => some m
    | _ => none

/-- A loop that ends well has ended at a message that it takes as a proof, within the attempts it
has, and has gone on after every message before it. -/
theorem run_ok {loop : AuthLoop σ α ε} {Passes Admits : α → Prop}
    (hnext : ∀ st m sent st', loop.round st m sent = .next st' → Passes m)
    (hauth : ∀ st m sent st', loop.round st m sent = .authenticated st' → Admits m) :
    ∀ {turns : List (AuthTurn α)} {attempt : Nat} {st st' : σ},
      loop.run attempt st turns = .ok st' →
      ∃ before final after, messages turns = before ++ final :: after ∧
        attempt + before.length ≤ maxAuthAttempts ∧ (∀ m ∈ before, Passes m) ∧ Admits final
  | [], attempt, st, st', h => by
    rw [run] at h
    split at h <;> cases h
  | turn :: turns, attempt, st, st', h => by
    rw [run] at h
    split at h
    · cases h
    · rename_i hattempt
      cases hreceived : turn.received with
      | failed e => simp [hreceived] at h
      | timeout => simp [hreceived] at h
      | message m =>
        have hmessages : messages (turn :: turns) = m :: messages turns := by
          simp [messages, hreceived]
        simp only [hreceived] at h
        cases hround : loop.round st m turn.sent with
        | failed e => simp [hround] at h
        | authenticated st₁ =>
          exact ⟨[], m, messages turns, hmessages, by simpa using hattempt,
            by simp, hauth _ _ _ _ hround⟩
        | next st₁ =>
          simp only [hround] at h
          obtain ⟨before, final, after, heq, hlen, hbefore, hfinal⟩ := run_ok hnext hauth h
          refine ⟨m :: before, final, after, by rw [hmessages, heq]; rfl, ?_, ?_, hfinal⟩
          · rw [List.length_cons]
            omega
          · intro m' hm'
            rcases List.mem_cons.mp hm' with rfl | hm'
            · exact hnext _ _ _ _ hround
            · exact hbefore m' hm'

end AuthLoop

/-! The device's name. -/

/-- The loop of the server's `parse_tlv`, the newest entry first. `none` is a panic: a slice that
is not at a character boundary. The daemon's loop adds the lengths up before it compares them;
this one compares first. Each round takes at least 32 bytes. -/
def hostParseTlvLoop : Nat → List UInt8 → List (String × String) → Option (List (String × String))
  | 0, _, map => some map
  | fuel+1, remaining, map =>
    if remaining.length < 32 then some map
    else do
      let tag ← fromUtf8 (remaining.take 16)
      let valLenStr ← fromUtf8 ((remaining.drop 16).take 16)
      match parseUsize (trimEnd valLenStr) with
      | none => some map
      | some valLen =>
        let remaining := remaining.drop 32
        if remaining.length < valLen then some map
        else do
          let val ← fromUtf8 (remaining.take valLen)
          hostParseTlvLoop fuel (remaining.drop valLen) ((trimEnd tag, val) :: map)

def hostParseTlv (tlv : String) : Option (List (String × String)) :=
  hostParseTlvLoop (utf8 tlv).length (utf8 tlv) []

def devName (lastDaemonBuf : String) : Option String :=
  (hostParseTlv lastDaemonBuf).map fun map => (map.lookup "devname").getD ""

/-! Writes to the `ConnectMap`. -/

inductive ConnectWrite where
  | put (connectKey : String) (info : DaemonInfo)
  | updateStatus (connectKey : String) (status : ConnStatus)
  deriving DecidableEq, Repr

/-- The write leaves its device `Connected`. -/
def ConnectWrite.marksConnected : ConnectWrite → Bool
  | .put _ info => info.connStatus == .connected
  | .updateStatus _ status => status == .connected

def ConnectWrite.apply (m : ConnectMap) : ConnectWrite → ConnectMap
  | .put connectKey info => m.put connectKey info
  | .updateStatus connectKey status => m.updateStatus connectKey status

theorem ConnectWrite.connected_of_apply {m : ConnectMap} {write : ConnectWrite} {key : String}
    {info : DaemonInfo} (h : (write.apply m).get key = some info)
    (hconnected : info.connStatus = .connected) :
    write.marksConnected = true ∨ m.get key = some info := by
  cases write with
  | put connectKey info' =>
    rw [ConnectWrite.apply, ConnectMap.get_put] at h
    split at h
    · cases h
      exact Or.inl (by simp [ConnectWrite.marksConnected, hconnected])
    · exact Or.inr h
  | updateStatus connectKey status =>
    rw [ConnectWrite.apply, ConnectMap.get_updateStatus] at h
    split at h
    · obtain ⟨info', -, rfl⟩ := Option.map_eq_some_iff.mp h
      exact Or.inl (by simpa [ConnectWrite.marksConnected] using hconnected)
    · exact Or.inr h

/-- A device that is `Connected` after some writes was so before, or has been marked by one. -/
theorem connected_of_writes {key : String} {info : DaemonInfo}
    (hconnected : info.connStatus = .connected) : ∀ {writes : List ConnectWrite} {m : ConnectMap},
    (writes.foldl ConnectWrite.apply m).get key = some info →
    (∃ write ∈ writes, write.marksConnected = true) ∨ m.get key = some info
  | [], _, h => Or.inr h
  | write :: writes, m, h => by
    rw [List.foldl_cons] at h
    rcases connected_of_writes hconnected h with ⟨write', hmem, hmarks⟩ | h
    · exact Or.inl ⟨write', List.mem_cons_of_mem _ hmem, hmarks⟩
    · rcases ConnectWrite.connected_of_apply h hconnected with hmarks | h
      · exact Or.inl ⟨write, List.mem_cons_self, hmarks⟩
      · exact Or.inr h

/-- What the start of a session comes to. -/
inductive SetupOutcome (ε : Type) where
  | connected
  | failed (e : ε)
  | waiting
  /-- `parse_tlv` has panicked. -/
  | panicked
  deriving DecidableEq

/-- The end of both functions: the entry of a device that has passed. -/
def connectDevice {ε : Type} (connectKey : String) (sessionId : UInt32) (connType : ConnectType)
    (lastDaemonBuf : String) : List ConnectWrite × SetupOutcome ε :=
  match devName lastDaemonBuf with
  | none => ([], .panicked)
  | some devName => ([.put connectKey ⟨sessionId, connType, .connected, devName⟩], .connected)

/-! Over TCP. -/

structure TcpAuth where
  handshake : SessionHandShake
  lastDaemonBuf : String
  /-- The cipher that is set for the session. -/
  cipher : Option PskCipher

/-- `last_daemon_buf` after a message. -/
def nextDaemonBuf (lastDaemonBuf : String) (daemonResp : TaskMessage) : String :=
  if daemonResp.command ≠ .kernelHandshake then lastDaemonBuf
  else match SessionHandShake.deserialize daemonResp.payload with
    | .ok daemonHs => daemonHs.buf
    | .error _ => lastDaemonBuf

/-- `hostAuthRound`, and the answer sent. -/
def tcpAuthRound (env : HostEnv) (st : TcpAuth) (daemonResp : TaskMessage) (sent : IoResult Unit) :
    AuthStep TcpAuth IoError :=
  let lastDaemonBuf := nextDaemonBuf st.lastDaemonBuf daemonResp
  match hostAuthRound env st.handshake daemonResp with
  | .failed e => .failed e
  | .authenticated cipher reply =>
    match reply, sent with
    | some _, .error e => .failed e
    | _, _ => .authenticated { st with lastDaemonBuf, cipher }
  | .next handshake reply =>
    match reply, sent with
    | some _, .error e => .failed e
    | _, _ => .next { st with handshake, lastDaemonBuf }

def tcpAuthLoop (env : HostEnv) : AuthLoop TcpAuth TaskMessage IoError where
  recvFailed := id
  timeout _ := ⟨.timedOut, "TCP authentication timeout"⟩
  exhausted := ⟨.permissionDenied, "TCP authentication failed"⟩
  round := tcpAuthRound env

/-- `start_tcp_daemon_session` up to the entry of the device: `connect` is what the connection
comes to, `hello` what sending the first handshake does. -/
def startTcpDaemonSession (env : HostEnv) (addr : String) (sessionId : UInt32)
    (connect hello : IoResult Unit) (turns : List (AuthTurn TaskMessage)) :
    List ConnectWrite × SetupOutcome IoError :=
  match checkPort (((rsplitOnce ':' addr).map Prod.snd).getD "") with
  | .error e => ([], .failed e)
  | .ok _ =>
    match connect, hello with
    | .error e, _ | .ok _, .error e => ([], .failed e)
    | .ok _, .ok _ =>
      match (tcpAuthLoop env).run 1 ⟨hostHandshake env sessionId addr, "", none⟩ turns with
      | .failed e => ([], .failed e)
      | .waiting => ([], .waiting)
      | .ok st => connectDevice addr sessionId .tcp st.lastDaemonBuf

/-! Over USB. -/

structure UsbAuth where
  sessionId : UInt32
  handshake : SessionHandShake
  lastDaemonBuf : String

/-- The session goes on under the id of the device, if it has sent one. -/
def UsbAuth.adopt (st : UsbAuth) (respSessionId : UInt32) : UsbAuth :=
  if respSessionId ≠ 0 ∧ respSessionId ≠ st.sessionId then
    { st with
      sessionId := respSessionId
      handshake := { st.handshake with sessionId := respSessionId } }
  else st

/-- The handshake that answers the device, and what comes of sending it. -/
def UsbAuth.answer (st : UsbAuth) (authType : UInt8) (buf what : String) (sent : IoResult Unit) :
    AuthStep UsbAuth String :=
  match sent with
  | .error e => .failed ("send " ++ what ++ ": " ++ e.msg)
  | .ok _ => .next { st with handshake := { st.handshake with authType, buf } }

/-- One round of the loop, on a message and the session id in its USB head. -/
def usbAuthRound (env : HostEnv) (st : UsbAuth) (resp : UInt32 × TaskMessage)
    (sent : IoResult Unit) : AuthStep UsbAuth String :=
  let (respSessionId, daemonResp) := resp
  if daemonResp.command ≠ .kernelHandshake then .next st
  else match SessionHandShake.deserialize daemonResp.payload with
    | .error e => .failed ("auth handshake deserialize: " ++ e.msg)
    | .ok daemonHs =>
      let st := { st with lastDaemonBuf := daemonHs.buf }.adopt respSessionId
      let authType := daemonHs.authType
      if authType = authTypeOk then .authenticated st
      else if authType = authTypeFail then .failed "authentication rejected by daemon"
      else if authType = authTypePublickey then
        match env.getPublicKeyInfo with
        | .error e => .failed ("get public key: " ++ e.msg)
        | .ok pubkeyInfo => st.answer authTypePublickey pubkeyInfo "public key" sent
      else if authType = authTypeSignature then
        match env.rsaSignChallenge daemonHs.buf with
        | .error e => .failed ("sign challenge: " ++ e.msg)
        | .ok signature => st.answer authTypeSignature signature "signature" sent
      else if authType = authTypeToken then .failed "daemon requested token auth (unsupported)"
      else .failed s!"unknown auth type {authType}"

def usbAuthLoop (env : HostEnv) : AuthLoop UsbAuth (UInt32 × TaskMessage) String where
  recvFailed e := "auth recv: " ++ e.msg
  timeout attempt :=
    if attempt = 2 then
      "auth timeout after 60s - confirm the USB debugging authorization dialog on the device"
    else "auth timeout"
  exhausted := "auth exceeded max attempts"
  round := usbAuthRound env

/-- The handshake that opens a USB session. -/
def usbHandshake (sessionId : UInt32) (serial : String) : SessionHandShake where
  banner := handshakeMessage
  authType := authTypeNone
  sessionId
  connectKey := serial
  buf := "authtype" ++ padRight 8 "" ++ "1" ++ padRight 15 "" ++ "1"
  version := getVersion ++ "47d583e40754ffe6"

/-- `start_usb_session` up to the entry of the device: `opened`, `softReset` and `hello` are what
opening it, the soft reset and sending the first handshake come to. -/
def startUsbSession (env : HostEnv) (serial : String) (sessionId : UInt32)
    (opened softReset hello : IoResult Unit) (turns : List (AuthTurn (UInt32 × TaskMessage))) :
    List ConnectWrite × SetupOutcome String :=
  let fail (reason : String) : List ConnectWrite × SetupOutcome String :=
    ([.updateStatus serial .offline], .failed reason)
  match opened, softReset, hello with
  | .error e, _, _ => fail ("open device: " ++ e.msg)
  | .ok _, .error e, _ => fail ("soft-reset send: " ++ e.msg)
  | .ok _, .ok _, .error e => fail ("handshake send: " ++ e.msg)
  | .ok _, .ok _, .ok _ =>
    match (usbAuthLoop env).run 1 ⟨sessionId, usbHandshake sessionId serial, ""⟩ turns with
    | .failed reason => fail reason
    | .waiting => ([], .waiting)
    | .ok st => connectDevice serial st.sessionId (.usb serial) st.lastDaemonBuf

/-! The gate. -/

/-- A handshake, if it is one, that asks the host for its key or its signature. -/
def AsksProof (m : TaskMessage) : Prop :=
  m.command = .kernelHandshake → ∃ hs, SessionHandShake.deserialize m.payload = .ok hs ∧
    (hs.authType = authTypePublickey ∨ hs.authType = authTypeSignature)

/-- A handshake that decodes and says that the host is let in. -/
def SaysOk (m : TaskMessage) : Prop :=
  m.command = .kernelHandshake ∧
    ∃ hs, SessionHandShake.deserialize m.payload = .ok hs ∧ hs.authType = authTypeOk

/-- A handshake that brings a PSK, which decodes and decrypts to 32 bytes, to a host that has
encryption switched on. -/
def BringsPsk (env : HostEnv) (m : TaskMessage) : Prop :=
  m.command = .kernelHandshake ∧ env.encryptChannel = true ∧
    ∃ hs encrypted psk, SessionHandShake.deserialize m.payload = .ok hs ∧
      hs.authType = authTypeSslTlsPsk ∧ env.base64Decode hs.buf = .ok encrypted ∧
      env.decryptPsk encrypted = .ok psk ∧ psk.length = 32

theorem hostTakePsk_ne_next {env : HostEnv} {handshake handshake' : SessionHandShake} {buf : String}
    {reply : Option TaskMessage} : hostTakePsk env handshake buf ≠ .next handshake' reply := by
  intro h
  rw [hostTakePsk] at h
  repeat' split at h
  all_goals cases h

theorem hostTakePsk_authenticated {env : HostEnv} {handshake : SessionHandShake} {buf : String}
    {cipher : Option PskCipher} {reply : Option TaskMessage}
    (h : hostTakePsk env handshake buf = .authenticated cipher reply) :
    env.encryptChannel = true ∧ ∃ encrypted psk, env.base64Decode buf = .ok encrypted ∧
      env.decryptPsk encrypted = .ok psk ∧ psk.length = 32 := by
  rw [hostTakePsk] at h
  split at h
  · cases h
  · rename_i hencrypt
    refine ⟨by simpa using hencrypt, ?_⟩
    split at h
    · cases h
    · rename_i encrypted hencrypted
      split at h
      · cases h
      · rename_i psk hpsk
        split at h
        · rename_i hlen
          exact ⟨encrypted, psk, hencrypted, hpsk, hlen⟩
        · cases h

/-- After a round the TCP loop goes on from, the message has asked for a proof. -/
theorem hostAuthRound_next {env : HostEnv} {handshake handshake' : SessionHandShake}
    {m : TaskMessage} {reply : Option TaskMessage}
    (h : hostAuthRound env handshake m = .next handshake' reply) : AsksProof m := by
  intro hcommand
  rw [hostAuthRound, if_neg (not_not_intro hcommand)] at h
  split at h
  · cases h
  · rename_i hs hdecode
    refine ⟨hs, hdecode, ?_⟩
    dsimp only at h
    split at h
    · cases h
    · split at h
      · cases h
      · split at h
        · exact absurd h hostTakePsk_ne_next
        · split at h
          · rename_i hkey
            exact Or.inl hkey
          · split at h
            · rename_i hsignature
              exact Or.inr hsignature
            · split at h <;> cases h

theorem hostAuthRound_authenticated {env : HostEnv} {handshake : SessionHandShake}
    {m : TaskMessage} {cipher : Option PskCipher} {reply : Option TaskMessage}
    (h : hostAuthRound env handshake m = .authenticated cipher reply) :
    SaysOk m ∨ BringsPsk env m := by
  rw [hostAuthRound] at h
  split at h
  · cases h
  · rename_i hcommand
    rw [not_not] at hcommand
    split at h
    · cases h
    · rename_i hs hdecode
      dsimp only at h
      split at h
      · rename_i hok
        exact Or.inl ⟨hcommand, hs, hdecode, hok⟩
      · split at h
        · cases h
        · split at h
          · rename_i hpsk
            obtain ⟨hencrypt, encrypted, psk, hpsk'⟩ := hostTakePsk_authenticated h
            exact Or.inr ⟨hcommand, hencrypt, hs, encrypted, psk, hdecode, hpsk, hpsk'⟩
          · -- every other arm answers or fails
            repeat' split at h
            all_goals cases h

theorem tcpAuthRound_next {env : HostEnv} {st st' : TcpAuth} {m : TaskMessage}
    {sent : IoResult Unit} (h : tcpAuthRound env st m sent = .next st') : AsksProof m := by
  rw [tcpAuthRound] at h
  split at h
  · cases h
  · split at h <;> cases h
  · rename_i hround
    exact hostAuthRound_next hround

theorem tcpAuthRound_authenticated {env : HostEnv} {st st' : TcpAuth} {m : TaskMessage}
    {sent : IoResult Unit} (h : tcpAuthRound env st m sent = .authenticated st') :
    SaysOk m ∨ BringsPsk env m := by
  rw [tcpAuthRound] at h
  split at h
  · cases h
  · rename_i hround
    exact hostAuthRound_authenticated hround
  · split at h <;> cases h

theorem usbAuthRound_next {env : HostEnv} {st st' : UsbAuth} {m : UInt32 × TaskMessage}
    {sent : IoResult Unit} (h : usbAuthRound env st m sent = .next st') : AsksProof m.2 := by
  intro hcommand
  obtain ⟨respSessionId, daemonResp⟩ := m
  rw [usbAuthRound, if_neg (not_not_intro hcommand)] at h
  split at h
  · cases h
  · rename_i hs hdecode
    refine ⟨hs, hdecode, ?_⟩
    dsimp only at h
    split at h
    · cases h
    · split at h
      · cases h
      · split at h
        · rename_i hkey
          exact Or.inl hkey
        · split at h
          · rename_i hsignature
            exact Or.inr hsignature
          · split at h <;> cases h

theorem UsbAuth.answer_ne_authenticated {st st' : UsbAuth} {authType : UInt8} {buf what : String}
    {sent : IoResult Unit} : st.answer authType buf what sent ≠ .authenticated st' := by
  intro h
  unfold UsbAuth.answer at h
  split at h <;> cases h

theorem usbAuthRound_authenticated {env : HostEnv} {st st' : UsbAuth} {m : UInt32 × TaskMessage}
    {sent : IoResult Unit} (h : usbAuthRound env st m sent = .authenticated st') : SaysOk m.2 := by
  obtain ⟨respSessionId, daemonResp⟩ := m
  rw [usbAuthRound] at h
  split at h
  · cases h
  · rename_i hcommand
    rw [not_not] at hcommand
    split at h
    · cases h
    · rename_i hs hdecode
      dsimp only at h
      split at h
      · rename_i hok
        exact ⟨hcommand, hs, hdecode, hok⟩
      · repeat' split at h
        all_goals first
          | exact absurd h UsbAuth.answer_ne_authenticated
          | cases h

/-- The start of a session, with all that its environment has a say in. -/
inductive SessionSetup where
  | tcp (addr : String) (sessionId : UInt32) (connect hello : IoResult Unit)
      (turns : List (AuthTurn TaskMessage))
  | usb (serial : String) (sessionId : UInt32) (opened softReset hello : IoResult Unit)
      (turns : List (AuthTurn (UInt32 × TaskMessage)))

namespace SessionSetup

/-- The writes to the `ConnectMap`. -/
def writes (env : HostEnv) : SessionSetup → List ConnectWrite
  | tcp addr sessionId connect hello turns =>
    (startTcpDaemonSession env addr sessionId connect hello turns).1
  | usb serial sessionId opened softReset hello turns =>
    (startUsbSession env serial sessionId opened softReset hello turns).1

/-- The messages of the daemon, in the order they are received in. -/
def received : SessionSetup → List TaskMessage
  | tcp _ _ _ _ turns => AuthLoop.messages turns
  | usb _ _ _ _ _ turns => (AuthLoop.messages turns).map Prod.snd

/-- The messages that let a device in. -/
def Admits (env : HostEnv) (m : TaskMessage) : SessionSetup → Prop
  | tcp .. => SaysOk m ∨ BringsPsk env m
  | usb .. => SaysOk m

end SessionSetup

/-- Over TCP nothing is written before the loop has ended well. -/
theorem startTcpDaemonSession_writes {env : HostEnv} {addr : String} {sessionId : UInt32}
    {connect hello : IoResult Unit} {turns : List (AuthTurn TaskMessage)} {write : ConnectWrite}
    (h : write ∈ (startTcpDaemonSession env addr sessionId connect hello turns).1) :
    ∃ st, (tcpAuthLoop env).run 1 ⟨hostHandshake env sessionId addr, "", none⟩ turns = .ok st := by
  unfold startTcpDaemonSession at h
  split at h
  · cases h
  · split at h
    · cases h
    · cases h
    · split at h
      · cases h
      · cases h
      · rename_i st hrun
        exact ⟨st, hrun⟩

/-- Over USB a failure is written too, as the status `Offline`. -/
theorem startUsbSession_writes {env : HostEnv} {serial : String} {sessionId : UInt32}
    {opened softReset hello : IoResult Unit} {turns : List (AuthTurn (UInt32 × TaskMessage))}
    {write : ConnectWrite}
    (h : write ∈ (startUsbSession env serial sessionId opened softReset hello turns).1) :
    write = .updateStatus serial .offline ∨
      ∃ st, (usbAuthLoop env).run 1 ⟨sessionId, usbHandshake sessionId serial, ""⟩ turns =
        .ok st := by
  unfold startUsbSession at h
  dsimp only at h
  split at h
  · exact Or.inl (List.mem_singleton.mp h)
  · exact Or.inl (List.mem_singleton.mp h)
  · exact Or.inl (List.mem_singleton.mp h)
  · split at h
    · exact Or.inl (List.mem_singleton.mp h)
    · cases h
    · rename_i st hrun
      exact Or.inr ⟨st, hrun⟩

/-- A device is marked `Connected` only after one of the first ten messages has let it in, and
every handshake before that one has asked for the host's key or signature. -/
theorem connected_only_if_authenticated (env : HostEnv) (setup : SessionSetup) (write : ConnectWrite)
    (hwrite : write ∈ setup.writes env) (hmarks : write.marksConnected = true) :
    ∃ before final after, setup.received = before ++ final :: after ∧ before.length < 10 ∧
      (∀ m ∈ before, AsksProof m) ∧ setup.Admits env final := by
  cases setup with
  | tcp addr sessionId connect hello turns =>
    obtain ⟨st, hrun⟩ := startTcpDaemonSession_writes hwrite
    obtain ⟨before, final, after, heq, hlen, hbefore, hfinal⟩ := AuthLoop.run_ok
      (fun _ _ _ _ => tcpAuthRound_next) (fun _ _ _ _ => tcpAuthRound_authenticated) hrun
    rw [maxAuthAttempts] at hlen
    exact ⟨before, final, after, heq, by omega, hbefore, hfinal⟩
  | usb serial sessionId opened softReset hello turns =>
    rcases startUsbSession_writes hwrite with rfl | ⟨st, hrun⟩
    · cases hmarks
    · obtain ⟨before, final, after, heq, hlen, hbefore, hfinal⟩ := AuthLoop.run_ok
        (fun _ _ _ _ => usbAuthRound_next) (fun _ _ _ _ => usbAuthRound_authenticated) hrun
      rw [maxAuthAttempts] at hlen
      refine ⟨before.map Prod.snd, final.2, after.map Prod.snd, ?_, ?_, ?_, hfinal⟩
      · rw [SessionSetup.received, heq, List.map_append, List.map_cons]
      · rw [List.length_map]
        omega
      · intro m hm
        obtain ⟨resp, hresp, rfl⟩ := List.mem_map.mp hm
        exact hbefore resp hresp

/-- A handshake of a device. -/
def deviceHandshake (authType : UInt8) (buf : String) : TaskMessage :=
  handshakeTask ⟨handshakeMessage, authType, 7, "", buf, "Ver: 3.2.0f"⟩

/-- A host with keys, for which base64 and RSA are the identity on the bytes. -/
def plainHost : HostEnv where
  encryptChannel := true
  getPublicKeyInfo := .ok "host key"
  base64Decode s := .ok (utf8 s)
  decryptPsk bytes := .ok bytes
  rsaSignChallenge s := .ok s

/-- A device that asks for the key and the signature before it lets the host in, with a message
in between that is no handshake. -/
def thoroughDevice : SessionSetup :=
  .usb "serial" 1 (.ok ()) (.ok ()) (.ok ())
    [⟨.message (7, deviceHandshake authTypePublickey ""), .ok ()⟩,
      ⟨.message (7, ⟨0, .kernelEcho, []⟩), .ok ()⟩,
      ⟨.message (7, deviceHandshake authTypeSignature "challenge"), .ok ()⟩,
      ⟨.message (7, deviceHandshake authTypeOk ""), .ok ()⟩]

theorem connected_only_if_authenticated_thorough :
    ∃ before final after, thoroughDevice.received = before ++ final :: after ∧ before.length < 10 ∧
      (∀ m ∈ before, AsksProof m) ∧ thoroughDevice.Admits plainHost final :=
  connected_only_if_authenticated plainHost thoroughDevice
    (.put "serial" ⟨7, .usb "serial", .connected, ""⟩) (by decide) rfl

/-- A daemon that answers with a PSK. -/
def pskDaemon : SessionSetup :=
  .tcp "10.0.0.2:5555" 1 (.ok ()) (.ok ())
    [⟨.message (deviceHandshake authTypeSslTlsPsk "0123456789abcdef0123456789abcdef"), .ok ()⟩]

example : pskDaemon.writes plainHost = [.put "10.0.0.2:5555" ⟨1, .tcp, .connected, ""⟩] := by
  decide

end Hdc
