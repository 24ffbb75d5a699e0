import Hdc.DaemonSessions
import Hdc.RoundTrip

/- The handshake of a TCP session from both ends: the authentication loop of the host
   (`start_tcp_daemon_session` in `hdc/src/server.rs`) and what the daemon's
   `handle_client` waits for after it has answered.

   The daemon decides twice. What it answers depends on its own switch, on the features
   in the host's buffer and on the host's public key; what it waits for next depends on
   the switch and the features alone. `handshake_agreement_iff` says that the host, which
   only sees the answer, is left in agreement exactly when no key was missing. -/
namespace Hdc
open Rust Wire Feed Lts

/-! The host. -/

/-- What the host process finds in its environment: whether `OHOS_HDC_ENCRYPT_CHANNEL`
is `1`, its public key with its host name, and base64 and RSA under its private key. -/
structure HostEnv where
  encryptChannel : Bool
  getPublicKeyInfo : IoResult String
  base64Decode : String → IoResult (List UInt8)
  decryptPsk : List UInt8 → IoResult (List UInt8)
  rsaSignChallenge : String → IoResult String

def makeTlv (tag val : String) : String :=
  padRight 16 tag ++ padRight 16 (toString (utf8 val).length) ++ val

/-- A host whose key cannot be read or made sends its features all the same. -/
def buildHostAuthBuf (env : HostEnv) : String :=
  makeTlv "authtype" "1" ++
  (match env.getPublicKeyInfo with
    | .ok pubkeyInfo => makeTlv "pubkey" pubkeyInfo
    | .error _ => "") ++
  makeTlv "supportfeatures"
    (featureHeartbeat ++ (if env.encryptChannel then "," ++ featureEncryptTcp else ""))

/-- The handshake a host opens a session with. -/
def hostHandshake (env : HostEnv) (sessionId : UInt32) (connectKey : String) : SessionHandShake where
  banner := handshakeMessage
  authType := authTypeNone
  sessionId
  connectKey
  buf := buildHostAuthBuf env
  version := getVersion ++ "47d583e40754ffe6"

/-- The message that carries a handshake. -/
def handshakeTask (handshake : SessionHandShake) : TaskMessage :=
  ⟨0, .kernelHandshake, handshake.serialize⟩

/-- What a round of the authentication loop comes to. -/
inductive AuthRound where
  /-- `auth_ok`, with the cipher that is now set and the PSK-ACK to send. -/
  | authenticated (cipher : Option PskCipher) (reply : Option TaskMessage)
  /-- Another round, after the message, if any, has been sent. -/
  | next (handshake : SessionHandShake) (reply : Option TaskMessage)
  /-- The session is ended with an error. -/
  | failed (e : IoError)
  deriving DecidableEq

/-- A round that sends `buf` under an auth type and goes on. -/
def AuthRound.answer (handshake : SessionHandShake) (authType : UInt8) (buf : String) : AuthRound :=
  let handshake := { handshake with authType, buf }
  .next handshake (some (handshakeTask handshake))

/-- The arm of `AUTH_TYPE_SSL_TLS_PSK`. -/
def hostTakePsk (env : HostEnv) (handshake : SessionHandShake) (buf : String) : AuthRound :=
  if !env.encryptChannel then
    .failed ⟨.permissionDenied,
      "Daemon requested encrypted TCP channel but OHOS_HDC_ENCRYPT_CHANNEL is not set to 1"⟩
  else match env.base64Decode buf with
    | .error e => .failed ⟨.invalidData, s!"Failed to base64-decode daemon PSK: {e.msg}"⟩
    | .ok encryptedPsk =>
      match env.decryptPsk encryptedPsk with
      | .error e => .failed ⟨.permissionDenied, s!"Failed to decrypt daemon PSK: {e.msg}"⟩
      | .ok pskBytes =>
        if h : pskBytes.length = 32 then
          .authenticated (some (PskCipher.new ⟨pskBytes, h⟩ true))
            (some (handshakeTask { handshake with authType := authTypeSslTlsPsk, buf := "" }))
        else
          .failed ⟨.invalidData, s!"Daemon PSK length is {pskBytes.length}, expected 32"⟩

/-- One round of the loop, on a message of the daemon. -/
def hostAuthRound (env : HostEnv) (handshake : SessionHandShake) (daemonResp : TaskMessage) :
    AuthRound :=
  if daemonResp.command ≠ .kernelHandshake then .next handshake none
  else match SessionHandShake.deserialize daemonResp.payload with
    | .error e => .failed ⟨.invalidData, s!"Failed to deserialize daemon handshake: {e.msg}"⟩
    | .ok daemonHs =>
      let authType := daemonHs.authType
      if authType = authTypeOk then .authenticated none none
      else if authType = authTypeFail then
        .failed ⟨.permissionDenied, "TCP authentication rejected by daemon"⟩
      else if authType = authTypeSslTlsPsk then hostTakePsk env handshake daemonHs.buf
      else if authType = authTypePublickey then
        match env.getPublicKeyInfo with
        | .error e => .failed ⟨.other, s!"Failed to get public key info: {e.msg}"⟩
        | .ok pubkeyInfo => .answer handshake authTypePublickey pubkeyInfo
      else if authType = authTypeSignature then
        match env.rsaSignChallenge daemonHs.buf with
        | .error e => .failed ⟨.other, s!"Failed to sign challenge: {e.msg}"⟩
        | .ok signature => .answer handshake authTypeSignature signature
      else if authType = authTypeToken then
        .failed ⟨.permissionDenied, "Token auth not supported"⟩
      else .failed ⟨.invalidData, s!"Unknown auth type from daemon: {authType}"⟩

/-! The daemon after its answer. -/

/-- The frame `handle_client` reads next, once the response is sent and its cipher, if there
is one, installed. -/
def HandshakeReply.next (reply : HandshakeReply) : Stage :=
  if reply.encryptEnabled then .ack else .loop

/-- The steps of the one connection of a fresh daemon, from its accept to the end of the
handshake: the first message arrives as `rd` and is answered by `reply`. -/
def exchange (rd : Chunks UInt8) (random : UInt32) (psk : Psk) (reply : HandshakeReply) :
    List DaemonAct :=
  [.accept, .on 0 .lookup, .on 0 (.frame rd random psk), .on 0 (.sendLookup reply.response),
    .on 0 .sendWrite] ++ reply.psk.toList.map fun _ => .on 0 .install

/-- The daemon after `exchange`. -/
def answered (rd : Chunks UInt8) (firstMsg : TaskMessage) (reply : HandshakeReply) : Daemon where
  ciphers := match reply.psk with
    | some _ => Function.update (fun _ => none) reply.sessionId (some 0)
    | none => fun _ => none
  heap := reply.psk.toList.map (PskCipher.new · false)
  conns := [⟨.idle reply.next, reply.sessionId, reply.psk, none, false⟩]
  log := [.accepted 0 none rd firstMsg,
    .sent 0 none reply.response (concatPack reply.response)]

/-- A daemon with one connection and no cipher. -/
def Daemon.alone (conn : Conn) (log : List SessionEvent) : Daemon := ⟨fun _ => none, [], [conn], log⟩

section
variable {env : DaemonEnv} {rd rd' : Chunks UInt8} {msg : TaskMessage} {random : UInt32} {psk : Psk}
  {conn : Conn} {log : List SessionEvent}

theorem alone_lookup {stage : Stage} (hphase : conn.phase = .idle stage) :
    daemonStep env (.alone conn log) (.on 0 .lookup) =
      some (.alone { conn with phase := .reading stage none } log) := by
  show connStep env (.alone conn log) 0 conn .lookup = _
  simp only [connStep, hphase]
  rfl

/-- The connection takes its next frame, which is not encrypted. -/
theorem alone_frame {stage : Stage} (hphase : conn.phase = .reading stage none)
    (hread : daemonUnpackTaskMessage env.aes none rd = .ok ((msg, none), rd')) :
    daemonStep env (.alone conn log) (.on 0 (.frame rd random psk)) =
      some (.alone (conn.afterFrame env msg random psk stage) (log ++ [.accepted 0 conn.psk rd msg])) := by
  have hcipher : (Daemon.alone conn log).cipherAt none = none := rfl
  show connStep env (.alone conn log) 0 conn (.frame rd random psk) = _
  simp only [connStep, hphase, hcipher, hread]
  rfl

/-- It sends the response of the handshake. -/
theorem alone_reply {reply : HandshakeReply} (hphase : conn.phase = .replying reply)
    (hsending : conn.sending = none) (acts : List DaemonAct) :
    run (daemonStep env) anyStep (.alone conn log) (.on 0 (.sendLookup reply.response) :: .on 0 .sendWrite :: acts) =
      run (daemonStep env) anyStep (.alone { conn with phase := afterSend (.replying reply) }
        (log ++ [.sent 0 conn.psk reply.response (concatPack reply.response)])) acts := by
  have hlookup : daemonStep env (.alone conn log) (.on 0 (.sendLookup reply.response)) =
      some (.alone { conn with sending := some (reply.response, none) } log) := by
    show connStep env (.alone conn log) 0 conn (.sendLookup reply.response) = _
    rw [connStep, if_pos ⟨hsending, by simp [Conn.maySend, hphase]⟩]
    rfl
  have hwrite : daemonStep env (.alone { conn with sending := some (reply.response, none) } log) (.on 0 .sendWrite) =
      some (.alone { conn with phase := afterSend (.replying reply) }
        (log ++ [.sent 0 conn.psk reply.response (concatPack reply.response)])) := by
    obtain ⟨phase, sessionId, own, sending, tasks⟩ := conn
    cases hphase
    cases hsending
    rfl
  rw [run_cons trivial hlookup, run_cons trivial hwrite]

end

theorem exchange_run {env : DaemonEnv} {rd rd' : Chunks UInt8} {firstMsg : TaskMessage}
    {random : UInt32} {psk : Psk} {reply : HandshakeReply}
    (hread : daemonUnpackTaskMessage env.aes none rd = .ok ((firstMsg, none), rd'))
    (hreply : replyHandshake env firstMsg random psk = some (.ok reply)) :
    run (daemonStep env) anyStep Daemon.init (exchange rd random psk reply) =
      some (answered rd firstMsg reply) := by
  have haccept : daemonStep env .init .accept = some (.alone .fresh []) := rfl
  have hframe : daemonStep env (.alone { Conn.fresh with phase := .reading .first none } [])
        (.on 0 (.frame rd random psk)) =
      some (.alone { Conn.fresh with phase := .replying reply, sessionId := reply.sessionId }
        [.accepted 0 none rd firstMsg]) := by
    rw [alone_frame rfl hread]
    simp only [Conn.afterFrame, hreply]
    rfl
  simp only [exchange, List.cons_append, List.nil_append]
  rw [run_cons trivial haccept, run_cons trivial (alone_lookup rfl), run_cons trivial hframe, alone_reply rfl rfl]
  -- the cipher is installed where there is one
  obtain ⟨sessionId, response, psk', encryptEnabled⟩ := reply
  cases psk' <;> cases encryptEnabled <;> rfl

/-- Whether a handler is serving the message it has just read: it dispatches it, or has
handed the connection to the shell bridge. -/
def Phase.serves : Phase → Bool
  | .dispatching | .idle .shell => true
  | _ => false

/-- The two steps in which the connection takes its next frame. -/
def nextFrame (rd : Chunks UInt8) (random : UInt32) (psk : Psk) : List DaemonAct :=
  [.on 0 .lookup, .on 0 (.frame rd random psk)]

theorem daemonUnpackTaskMessage_pack (aes : Aes128Gcm) {msg : TaskMessage}
    (hm : packetSize msg ≤ hdcBufMaxSize) {rd : Chunks UInt8} {rest : List UInt8}
    (h : rd.bytes = concatPack msg ++ rest) :
    ∃ rd', daemonUnpackTaskMessage aes none rd = .ok ((msg, none), rd') := by
  obtain ⟨rd', hr, -⟩ := daemonUnpackPlain_pack hm h
  obtain ⟨⟨frame, rd₁⟩, hframe, hu⟩ := bind_eq_ok.mp hr
  obtain ⟨m, hm, he⟩ := bind_eq_ok.mp hu
  cases he
  exact ⟨rd', by simp [daemonUnpackTaskMessage, daemonRecvFrame, hframe, hm]⟩

/-- Without a cipher the next packet is read as it is. -/
theorem answered_nextFrame (env : DaemonEnv) {reply : HandshakeReply} (hpsk : reply.psk = none)
    {msg : TaskMessage} (hm : packetSize msg ≤ hdcBufMaxSize) {rd next : Chunks UInt8}
    {firstMsg : TaskMessage} {rest : List UInt8} (hnext : next.bytes = concatPack msg ++ rest)
    (random : UInt32) (psk : Psk) :
    ∃ s', run (daemonStep env) anyStep (answered rd firstMsg reply) (nextFrame next random psk) =
        some s' ∧
      s'.conns = [Conn.afterFrame env ⟨.reading reply.next none, reply.sessionId, none, none, false⟩
        msg random psk reply.next] := by
  obtain ⟨rd', hread⟩ := daemonUnpackTaskMessage_pack env.aes hm hnext
  have halone : answered rd firstMsg reply = .alone ⟨.idle reply.next, reply.sessionId, none, none, false⟩
      [.accepted 0 none rd firstMsg, .sent 0 none reply.response (concatPack reply.response)] := by
    rw [answered, hpsk]
    rfl
  rw [halone, nextFrame, run_cons trivial (alone_lookup rfl), run_cons trivial (alone_frame rfl hread)]
  exact ⟨_, rfl, rfl⟩

/-! Agreement. -/

/-- What the two ends have to agree on after an answer of type `authType`, the daemon being
in state `s`. -/
structure Agreement (env : DaemonEnv) (s : Daemon) (sessionId : UInt32) (authType : UInt8) : Prop
    where
  /-- The daemon waits for a PSK-ACK exactly if it has asked for one. -/
  ack_iff : s.conns.map Conn.phase = [.idle .ack] ↔ authType = authTypeSslTlsPsk
  /-- It has a cipher exactly if it has sent a PSK. -/
  cipher_iff : (s.ciphers sessionId).isSome = true ↔ authType = authTypeSslTlsPsk
  /-- After an OK, the next message of the host is served. -/
  first_served : authType = authTypeOk → ∀ (msg : TaskMessage) (rd : Chunks UInt8)
    (rest : List UInt8) (random : UInt32) (psk : Psk), packetSize msg ≤ hdcBufMaxSize →
    rd.bytes = concatPack msg ++ rest →
    ∃ s', run (daemonStep env) anyStep s (nextFrame rd random psk) = some s' ∧
      s'.conns.map (fun conn => conn.phase.serves) = [true]

/-- The buffer of the host's handshake; a handshake that cannot be read counts as one with
an empty buffer. -/
def hostHsBuf (firstMsg : TaskMessage) : String :=
  match SessionHandShake.deserialize firstMsg.payload with
  | .ok hs => hs.buf
  | .error _ => ""

/-- Both ends want encryption and the host's buffer has no key to send a PSK under. -/
def MissingKey (env : DaemonEnv) (firstMsg : TaskMessage) : Prop :=
  env.encryptChannel = true ∧ hostSupportsEncrypt (hostHsBuf firstMsg) = some true ∧
    extractHostPubkey (hostHsBuf firstMsg) = some none

instance (env : DaemonEnv) (firstMsg : TaskMessage) : Decidable (MissingKey env firstMsg) :=
  inferInstanceAs (Decidable (_ ∧ _ ∧ _))

/-- The three answers of `handle_client`, and when it gives which. -/
theorem replyHandshake_cases {env : DaemonEnv} {firstMsg : TaskMessage} {random : UInt32}
    {psk : Psk} {reply : HandshakeReply}
    (h : replyHandshake env firstMsg random psk = some (.ok reply)) :
    ∃ hs : SessionHandShake,
      reply.response = ⟨firstMsg.channelId, .kernelHandshake, hs.serialize⟩ ∧
      ((hs.authType = authTypeOk ∧ reply.psk = none ∧ reply.encryptEnabled = false ∧
          ¬ MissingKey env firstMsg) ∨
        (hs.authType = authTypeOk ∧ reply.psk = none ∧ reply.encryptEnabled = true ∧
          MissingKey env firstMsg) ∨
        (hs.authType = authTypeSslTlsPsk ∧ reply.psk = some psk ∧ reply.encryptEnabled = true ∧
          ¬ MissingKey env firstMsg)) := by
  unfold MissingKey
  cases hc : env.encryptChannel with
  | false =>
    simp only [replyHandshake, hc] at h
    cases h
    exact ⟨_, rfl, .inl ⟨rfl, rfl, rfl, by simp⟩⟩
  | true =>
    -- the buffer is looked at in the same way whether or not the handshake could be read
    rcases hd : SessionHandShake.deserialize firstMsg.payload with e | host
    all_goals
      simp only [replyHandshake, hostHsBuf, hd, hc, if_true] at h ⊢
      obtain ⟨enabled, hsup, h⟩ := Option.bind_eq_some_iff.mp h
      cases enabled with
      | false =>
        cases h
        exact ⟨_, rfl, .inl ⟨rfl, rfl, rfl, by simp [hsup]⟩⟩
      | true =>
        rw [if_neg (by decide)] at h
        obtain ⟨pubkey, hkey, h⟩ := Option.bind_eq_some_iff.mp h
        cases pubkey with
        | none =>
          cases h
          exact ⟨_, rfl, .inr (.inl ⟨rfl, rfl, rfl, trivial, hsup, hkey⟩)⟩
        | some pubkeyInfo =>
          simp only at h
          split at h
          · cases h
          · cases h
            exact ⟨_, rfl, .inr (.inr ⟨rfl, rfl, rfl, by simp [hkey]⟩)⟩

theorem afterFrame_loop_serves (env : DaemonEnv) (conn : Conn) (msg : TaskMessage) (random : UInt32)
    (psk : Psk) : (conn.afterFrame env msg random psk .loop).phase.serves = true := by
  simp only [Conn.afterFrame]
  split <;> rfl

section
variable {env : DaemonEnv} {rd : Chunks UInt8} {firstMsg : TaskMessage} {reply : HandshakeReply}

theorem Agreement.of_ok (hpsk : reply.psk = none) (henabled : reply.encryptEnabled = false) :
    Agreement env (answered rd firstMsg reply) reply.sessionId authTypeOk where
  ack_iff := by simp [answered, HandshakeReply.next, henabled, authTypeOk, authTypeSslTlsPsk]
  cipher_iff := by simp [answered, hpsk, authTypeOk, authTypeSslTlsPsk]
  first_served := by
    intro _ msg next rest random psk hm hnext
    obtain ⟨s', hrun, hconns⟩ := answered_nextFrame env hpsk hm hnext random psk
    refine ⟨s', hrun, ?_⟩
    rw [hconns, List.map_singleton, HandshakeReply.next, henabled]
    simp only [afterFrame_loop_serves, Bool.false_eq_true, if_false]

theorem Agreement.of_psk {psk : Psk} (hpsk : reply.psk = some psk)
    (henabled : reply.encryptEnabled = true) :
    Agreement env (answered rd firstMsg reply) reply.sessionId authTypeSslTlsPsk where
  ack_iff := by simp [answered, HandshakeReply.next, henabled]
  cipher_iff := by simp [answered, hpsk]
  first_served := by simp [authTypeOk, authTypeSslTlsPsk]

/-- The daemon said OK and waits for an ack that it has not asked for. -/
theorem Agreement.not_of_missing (henabled : reply.encryptEnabled = true) :
    ¬ Agreement env (answered rd firstMsg reply) reply.sessionId authTypeOk := by
  intro h
  have hack : (answered rd firstMsg reply).conns.map Conn.phase = [.idle .ack] := by
    simp [answered, HandshakeReply.next, henabled]
  exact absurd (h.ack_iff.mp hack) (by decide)

end

/-- Whatever the host's first message and whichever way the switches stand, the daemon that
has answered is left in agreement with its answer exactly when it did not offer to encrypt to
a host that sent no key. -/
theorem handshake_agreement_iff (env : DaemonEnv) (rd rd' : Chunks UInt8) (firstMsg : TaskMessage)
    (random : UInt32) (psk : Psk) (reply : HandshakeReply)
    (hread : daemonUnpackTaskMessage env.aes none rd = .ok ((firstMsg, none), rd'))
    (hreply : replyHandshake env firstMsg random psk = some (.ok reply)) :
    ∃ (s : Daemon) (hs : SessionHandShake),
      run (daemonStep env) anyStep Daemon.init (exchange rd random psk reply) = some s ∧
      reply.response = ⟨firstMsg.channelId, .kernelHandshake, hs.serialize⟩ ∧
      (Agreement env s reply.sessionId hs.authType ↔ ¬ MissingKey env firstMsg) := by
  obtain ⟨hs, hresponse, hcases⟩ := replyHandshake_cases hreply
  refine ⟨_, hs, exchange_run hread hreply, hresponse, ?_⟩
  rcases hcases with ⟨htype, hpsk, henabled, hkey⟩ | ⟨htype, hpsk, henabled, hkey⟩ |
    ⟨htype, hpsk, henabled, hkey⟩
  · rw [htype]
    exact iff_of_true (.of_ok hpsk henabled) hkey
  · rw [htype]
    exact iff_of_false (Agreement.not_of_missing henabled) (not_not_intro hkey)
  · rw [htype]
    exact iff_of_true (.of_psk hpsk henabled) hkey

/-! Two handshakes. -/

/-- The reply of the example daemon to a first message. -/
def exampleReply (firstMsg : TaskMessage) : HandshakeReply :=
  match replyHandshake exampleEnv firstMsg 0 examplePsk with
  | some (.ok reply) => reply
  | _ => ⟨0, firstMsg, none, false⟩

theorem handshake_agreement_encrypting :
    ∃ s hs, run (daemonStep exampleEnv) anyStep Daemon.init
        (exchange (arriving (exampleHello encryptingBuf)) 0 examplePsk
          (exampleReply (exampleHello encryptingBuf))) = some s ∧
      (exampleReply (exampleHello encryptingBuf)).response =
        ⟨0, .kernelHandshake, SessionHandShake.serialize hs⟩ ∧
      (Agreement exampleEnv s (exampleReply (exampleHello encryptingBuf)).sessionId hs.authType ↔
        ¬ MissingKey exampleEnv (exampleHello encryptingBuf)) := by
  have hbytes : (arriving (exampleHello encryptingBuf)).bytes =
      concatPack (exampleHello encryptingBuf) ++ [] := rfl
  obtain ⟨rd', hread⟩ := daemonUnpackTaskMessage_pack exampleEnv.aes (by decide) hbytes
  exact handshake_agreement_iff exampleEnv _ rd' _ 0 examplePsk _ hread (by decide)

/-- A host with encryption switched on whose key cannot be read, for want of a home directory. -/
def keylessHost : HostEnv where
  encryptChannel := true
  getPublicKeyInfo := .error ⟨.notFound, "cannot determine home directory"⟩
  base64Decode _ := .ok []
  decryptPsk := .ok
  rsaSignChallenge := .ok

def keylessHello : TaskMessage := handshakeTask (hostHandshake keylessHost 7 "")

set_option maxRecDepth 4000 in
theorem keylessHello_reply : MissingKey exampleEnv keylessHello ∧
    replyHandshake exampleEnv keylessHello 0 examplePsk = some (.ok (exampleReply keylessHello)) ∧
    (exampleReply keylessHello).psk = none ∧
    (exampleReply keylessHello).encryptEnabled = true ∧
    hostAuthRound keylessHost (hostHandshake keylessHost 7 "") (exampleReply keylessHello).response =
      .authenticated none none := by
  decide

/-- The host of `keylessHost` takes the daemon's OK and sends its heartbeat; the daemon drops
the session because that is no PSK-ACK. -/
theorem keyless_handshake_disagrees :
    MissingKey exampleEnv keylessHello ∧
    hostAuthRound keylessHost (hostHandshake keylessHost 7 "") (exampleReply keylessHello).response =
      .authenticated none none ∧
    ∃ s hs s', run (daemonStep exampleEnv) anyStep Daemon.init
        (exchange (arriving keylessHello) 0 examplePsk (exampleReply keylessHello)) = some s ∧
      (exampleReply keylessHello).response =
        ⟨0, .kernelHandshake, SessionHandShake.serialize hs⟩ ∧
      ¬ Agreement exampleEnv s (exampleReply keylessHello).sessionId hs.authType ∧
      run (daemonStep exampleEnv) anyStep s
        (nextFrame (arriving ⟨0, .heartbeatMsg, []⟩) 0 examplePsk) = some s' ∧
      s'.conns.map Conn.phase = [.closing] := by
  obtain ⟨hmissing, hreply, hpsk, henabled, hhost⟩ := keylessHello_reply
  have hbytes : (arriving keylessHello).bytes = concatPack keylessHello ++ [] := rfl
  have hheart : (arriving ⟨0, .heartbeatMsg, []⟩).bytes =
      concatPack ⟨0, .heartbeatMsg, []⟩ ++ [] := rfl
  obtain ⟨rd', hread⟩ := daemonUnpackTaskMessage_pack exampleEnv.aes
    (by set_option maxRecDepth 4000 in decide) hbytes
  obtain ⟨hs, hresponse, hcases⟩ := replyHandshake_cases hreply
  have htype : hs.authType = authTypeOk := by
    rcases hcases with ⟨htype, -⟩ | ⟨htype, -⟩ | ⟨-, hsome, -⟩
    · exact htype
    · exact htype
    · rw [hpsk] at hsome
      cases hsome
  obtain ⟨s', hrun, hconns⟩ := answered_nextFrame exampleEnv hpsk (by decide) hheart 0 examplePsk
  refine ⟨hmissing, hhost, _, hs, s', exchange_run hread hreply, hresponse, ?_, hrun, ?_⟩
  · rw [htype]
    exact Agreement.not_of_missing henabled
  · rw [hconns, HandshakeReply.next, henabled]
    rfl

end Hdc
