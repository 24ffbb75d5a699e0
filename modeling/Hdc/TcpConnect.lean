import Hdc.AuthGate
import Hdc.ServerMaps

/- What `start_tcp_daemon_session` (`hdc/src/server.rs`) does to the maps of the server, whichever
   way it ends.

   The function registers the writer of the connection first, under a random id, and a cipher when
   it has accepted a PSK. Its explicit error exits call `end_session`, which takes the writer out
   again; the exits through `?`, where a message cannot be sent, do not. `connectTcp_setup` says
   that this is `startTcpDaemonSession` with the maps, and `ConnectCase` what each way to leave the
   loop has done to them. -/
namespace Hdc
open Rust

/-! The function with its maps. -/

/-- A round of the loop, on a message; `sent` is what sending the answer comes to. -/
def connectRound (env : HostEnv) (sessionId : UInt32) (wr : Nat) (tcp : TcpMap) (st : TcpAuth)
    (daemonResp : TaskMessage) (sent : IoResult Unit) : TcpMap × AuthStep TcpAuth IoError :=
  let lastDaemonBuf := nextDaemonBuf st.lastDaemonBuf daemonResp
  match hostAuthRound env st.handshake daemonResp with
  | .failed e => (tcp.endSession sessionId, .failed e)
  | .authenticated cipher reply =>
    let tcp := match cipher with
      | some _ => tcp.setSessionCipher sessionId wr
      | none => tcp
    match reply, sent with
    | some _, .error e => (tcp, .failed e)
    | _, _ => (tcp, .authenticated { st with lastDaemonBuf, cipher })
  | .next handshake reply =>
    match reply, sent with
    | some _, .error e => (tcp, .failed e)
    | _, _ => (tcp, .next { st with handshake, lastDaemonBuf })

/-- The loop, from one attempt on. -/
def connectLoop (env : HostEnv) (sessionId : UInt32) (wr : Nat) :
    Nat → TcpMap → TcpAuth → List (AuthTurn TaskMessage) → TcpMap × AuthResult TcpAuth IoError
  | attempt, tcp, _, [] =>
    if maxAuthAttempts < attempt then
      (tcp.endSession sessionId, .failed ⟨.permissionDenied, "TCP authentication failed"⟩)
    else (tcp, .waiting)
  | attempt, tcp, st, turn :: turns =>
    if maxAuthAttempts < attempt then
      (tcp.endSession sessionId, .failed ⟨.permissionDenied, "TCP authentication failed"⟩)
    else match turn.received with
      | .failed e => (tcp.endSession sessionId, .failed e)
      | .timeout => (tcp.endSession sessionId, .failed ⟨.timedOut, "TCP authentication timeout"⟩)
      | .message m =>
        match connectRound env sessionId wr tcp st m turn.sent with
        | (tcp, .authenticated st) => (tcp, .ok st)
        | (tcp, .next st) => connectLoop env sessionId wr (attempt + 1) tcp st turns
        | (tcp, .failed e) => (tcp, .failed e)

/-- `start_tcp_daemon_session` up to the entry of the device, from the maps it is called with.
`sessionId` is what the random generator returns and `wr` the writer of the connection. -/
def connectTcp (env : HostEnv) (addr : String) (sessionId : UInt32) (wr : Nat)
    (connect hello : IoResult Unit) (turns : List (AuthTurn TaskMessage)) (tcp : TcpMap)
    (connectMap : ConnectMap) : TcpMap × ConnectMap × SetupOutcome IoError :=
  match checkPort (((rsplitOnce ':' addr).map Prod.snd).getD "") with
  | .error e => (tcp, connectMap, .failed e)
  | .ok _ =>
    match connect with
    | .error e => (tcp, connectMap, .failed e)
    | .ok _ =>
      let tcp := tcp.startSession sessionId wr
      match hello with
      | .error e => (tcp, connectMap, .failed e)
      | .ok _ =>
        match connectLoop env sessionId wr 1 tcp ⟨hostHandshake env sessionId addr, "", none⟩
            turns with
        | (tcp, .failed e) => (tcp, connectMap, .failed e)
        | (tcp, .waiting) => (tcp, connectMap, .waiting)
        | (tcp, .ok st) =>
          let (writes, outcome) := connectDevice addr sessionId .tcp st.lastDaemonBuf
          (tcp, writes.foldl ConnectWrite.apply connectMap, outcome)

section
variable {env : HostEnv} {sessionId : UInt32} {wr : Nat}

/-- Apart from the map, a round is one of `tcpAuthLoop`. -/
theorem connectRound_step (tcp : TcpMap) (st : TcpAuth) (m : TaskMessage) (sent : IoResult Unit) :
    (connectRound env sessionId wr tcp st m sent).2 = tcpAuthRound env st m sent := by
  unfold connectRound tcpAuthRound
  cases hostAuthRound env st.handshake m with
  | failed e => rfl
  | authenticated cipher reply => cases reply <;> cases sent <;> rfl
  | next handshake reply => cases reply <;> cases sent <;> rfl

theorem connectLoop_result (turns : List (AuthTurn TaskMessage)) (attempt : Nat) (tcp : TcpMap)
    (st : TcpAuth) : (connectLoop env sessionId wr attempt tcp st turns).2 =
      (tcpAuthLoop env).run attempt st turns := by
  induction turns generalizing attempt tcp st with
  | nil =>
    rw [connectLoop, AuthLoop.run]
    split <;> rfl
  | cons turn turns ih =>
    rw [connectLoop, AuthLoop.run]
    split
    · rfl
    · cases turn.received with
      | failed e => rfl
      | timeout => rfl
      | message m =>
        dsimp only [tcpAuthLoop]
        rw [← @connectRound_step env sessionId wr tcp st m turn.sent]
        rcases connectRound env sessionId wr tcp st m turn.sent with ⟨tcp', st' | st' | e⟩
        · rfl
        · exact ih (attempt + 1) tcp' st'
        · rfl

/-- The maps do not have a say in how the function ends, and what it writes to the `ConnectMap` is
what `startTcpDaemonSession` writes. -/
theorem connectTcp_setup (addr : String) (connect hello : IoResult Unit)
    (turns : List (AuthTurn TaskMessage)) (tcp : TcpMap) (connectMap : ConnectMap) :
    (connectTcp env addr sessionId wr connect hello turns tcp connectMap).2 =
      let (writes, outcome) := startTcpDaemonSession env addr sessionId connect hello turns
      (writes.foldl ConnectWrite.apply connectMap, outcome) := by
  unfold connectTcp startTcpDaemonSession
  cases checkPort (((rsplitOnce ':' addr).map Prod.snd).getD "") with
  | error e => rfl
  | ok port =>
    cases connect with
    | error e => rfl
    | ok _ =>
      cases hello with
      | error e => rfl
      | ok _ =>
        dsimp only
        rw [← @connectLoop_result env sessionId wr turns 1 (tcp.startSession sessionId wr)]
        rcases connectLoop env sessionId wr 1 (tcp.startSession sessionId wr)
          ⟨hostHandshake env sessionId addr, "", none⟩ turns with ⟨tcp', st | e | _⟩ <;> rfl

end

/-! How the exchange ends, by what the daemon and the environment do. -/

/-- A handshake that asks for the host's key or signature, and the host has it. -/
def GetsProof (env : HostEnv) (m : TaskMessage) : Prop :=
  m.command = .kernelHandshake ∧ ∃ hs, SessionHandShake.deserialize m.payload = .ok hs ∧
    ((hs.authType = authTypePublickey ∧ ∃ info, env.getPublicKeyInfo = .ok info) ∨
      (hs.authType = authTypeSignature ∧ ∃ signature, env.rsaSignChallenge hs.buf = .ok signature))

/-- The host waits for another message after this one. -/
def AuthTurn.Passed (env : HostEnv) (turn : AuthTurn TaskMessage) : Prop :=
  ∃ m, turn.received = .message m ∧ (m.command ≠ .kernelHandshake ∨ GetsProof env m)

/-- The message lets the host in. -/
def AuthTurn.Admitted (env : HostEnv) (turn : AuthTurn TaskMessage) : Prop :=
  ∃ m, turn.received = .message m ∧ (SaysOk m ∨ BringsPsk env m)

/-- The host has an answer, and cannot send it. -/
def AuthTurn.AnswerLost (env : HostEnv) (turn : AuthTurn TaskMessage) : Prop :=
  ∃ m e, turn.received = .message m ∧ (GetsProof env m ∨ BringsPsk env m) ∧ turn.sent = .error e

/-- From some attempt on, a turn that is reached loses an answer. -/
def LosesAnswer (env : HostEnv) (attempt : Nat) (turns : List (AuthTurn TaskMessage)) : Prop :=
  ∃ before turn after, turns = before ++ turn :: after ∧
    attempt + before.length ≤ maxAuthAttempts ∧ (∀ t ∈ before, t.Passed env) ∧ turn.AnswerLost env

/-- From some attempt on, the host runs out of attempts, or meets a failure, a timeout or a message
it can do nothing with. -/
def TurnedAway (env : HostEnv) (attempt : Nat) (turns : List (AuthTurn TaskMessage)) : Prop :=
  ∃ before after, turns = before ++ after ∧ (∀ t ∈ before, t.Passed env) ∧
    (maxAuthAttempts < attempt + before.length ∨
      ∃ turn rest, after = turn :: rest ∧ ¬ turn.Passed env ∧ ¬ turn.Admitted env)

section
variable {env : HostEnv}

theorem not_losesAnswer_nil {attempt : Nat} : ¬ LosesAnswer env attempt [] := by
  rintro ⟨before, turn, after, heq, -⟩
  simp at heq

theorem losesAnswer_cons {attempt : Nat} {turn : AuthTurn TaskMessage}
    {turns : List (AuthTurn TaskMessage)} : LosesAnswer env attempt (turn :: turns) ↔
      attempt ≤ maxAuthAttempts ∧
        (turn.AnswerLost env ∨ turn.Passed env ∧ LosesAnswer env (attempt + 1) turns) := by
  constructor
  · rintro ⟨before, t, after, heq, hlen, hpassed, hlost⟩
    refine ⟨by omega, ?_⟩
    cases before with
    | nil =>
      cases heq
      exact Or.inl hlost
    | cons b before =>
      cases heq
      rw [List.length_cons] at hlen
      exact Or.inr ⟨hpassed _ List.mem_cons_self, before, t, after, rfl, by omega,
        fun t' ht' => hpassed t' (List.mem_cons_of_mem _ ht'), hlost⟩
  · rintro ⟨hattempt, hlost | ⟨hpassed, before, t, after, rfl, hlen, hbefore, hlost⟩⟩
    · exact ⟨[], turn, turns, rfl, by simpa using hattempt, by simp, hlost⟩
    · refine ⟨turn :: before, t, after, rfl, by rw [List.length_cons]; omega, ?_, hlost⟩
      exact List.forall_mem_cons.mpr ⟨hpassed, hbefore⟩

theorem turnedAway_of_exhausted {attempt : Nat} {turns : List (AuthTurn TaskMessage)}
    (h : maxAuthAttempts < attempt) : TurnedAway env attempt turns :=
  ⟨[], turns, rfl, by simp, Or.inl (by simpa using h)⟩

theorem not_turnedAway_nil {attempt : Nat} (h : attempt ≤ maxAuthAttempts) :
    ¬ TurnedAway env attempt [] := by
  rintro ⟨before, after, heq, -, hexhausted | ⟨turn, rest, rfl, -⟩⟩
  · obtain ⟨rfl, rfl⟩ := List.nil_eq_append_iff.mp heq
    rw [List.length_nil] at hexhausted
    omega
  · simp at heq

theorem turnedAway_cons {attempt : Nat} {turn : AuthTurn TaskMessage}
    {turns : List (AuthTurn TaskMessage)} (hattempt : attempt ≤ maxAuthAttempts) :
    TurnedAway env attempt (turn :: turns) ↔
      (¬ turn.Passed env ∧ ¬ turn.Admitted env) ∨
        turn.Passed env ∧ TurnedAway env (attempt + 1) turns := by
  constructor
  · rintro ⟨before, after, heq, hpassed, hend⟩
    cases before with
    | nil =>
      rcases hend with hexhausted | ⟨t, rest, rfl, hrefused⟩
      · rw [List.length_nil] at hexhausted
        omega
      · cases heq
        exact Or.inl hrefused
    | cons b before =>
      cases heq
      refine Or.inr ⟨hpassed _ List.mem_cons_self, before, after, rfl,
        fun t' ht' => hpassed t' (List.mem_cons_of_mem _ ht'), hend.imp_left ?_⟩
      rw [List.length_cons]
      omega
  · rintro (hrefused | ⟨hpassed, before, after, rfl, hbefore, hend⟩)
    · exact ⟨[], turn :: turns, rfl, by simp, Or.inr ⟨turn, turns, rfl, hrefused⟩⟩
    · refine ⟨turn :: before, after, rfl, List.forall_mem_cons.mpr ⟨hpassed, hbefore⟩,
        hend.imp_left ?_⟩
      rw [List.length_cons]
      omega

/-- A message lets the host in, or has it go on, but not both. -/
theorem SaysOk.not_getsProof {m : TaskMessage} (h : SaysOk m) : ¬ GetsProof env m := by
  obtain ⟨-, hs, hdecode, hok⟩ := h
  rintro ⟨-, hs', hdecode', htype⟩
  rw [hdecode] at hdecode'
  cases hdecode'
  rw [hok] at htype
  rcases htype with ⟨h, -⟩ | ⟨h, -⟩ <;> exact absurd h (by decide)

theorem SaysOk.not_bringsPsk {m : TaskMessage} (h : SaysOk m) : ¬ BringsPsk env m := by
  obtain ⟨-, hs, hdecode, hok⟩ := h
  rintro ⟨-, -, hs', encrypted, psk, hdecode', htype, -⟩
  rw [hdecode] at hdecode'
  cases hdecode'
  rw [hok] at htype
  exact absurd htype (by decide)

theorem BringsPsk.not_getsProof {m : TaskMessage} (h : BringsPsk env m) : ¬ GetsProof env m := by
  obtain ⟨-, -, hs, encrypted, psk, hdecode, hpsk, -⟩ := h
  rintro ⟨-, hs', hdecode', htype⟩
  rw [hdecode] at hdecode'
  cases hdecode'
  rw [hpsk] at htype
  rcases htype with ⟨h, -⟩ | ⟨h, -⟩ <;> exact absurd h (by decide)

/-- What a message brings the host to, whatever its own handshake. -/
inductive HostRoundCase (env : HostEnv) (handshake : SessionHandShake) (m : TaskMessage) :
    AuthRound → Prop
  | other (hcommand : m.command ≠ .kernelHandshake) :
    HostRoundCase env handshake m (.next handshake none)
  | proof (h : GetsProof env m) (handshake' : SessionHandShake) (reply : TaskMessage) :
    HostRoundCase env handshake m (.next handshake' (some reply))
  | ok (h : SaysOk m) : HostRoundCase env handshake m (.authenticated none none)
  | psk (h : BringsPsk env m) (cipher : PskCipher) (reply : TaskMessage) :
    HostRoundCase env handshake m (.authenticated (some cipher) (some reply))
  | refused (e : IoError) (hcommand : m.command = .kernelHandshake) (hproof : ¬ GetsProof env m)
      (hok : ¬ SaysOk m) (hpsk : ¬ BringsPsk env m) : HostRoundCase env handshake m (.failed e)

/-- A handshake that decodes is refused if its auth type is none of those that help. -/
theorem HostRoundCase.of_refused {handshake hs : SessionHandShake} {m : TaskMessage} (e : IoError)
    (hcommand : m.command = .kernelHandshake)
    (hdecode : SessionHandShake.deserialize m.payload = .ok hs)
    (hok : hs.authType ≠ authTypeOk)
    (hpsk : hs.authType = authTypeSslTlsPsk → env.encryptChannel = true →
      ∀ encrypted psk, env.base64Decode hs.buf = .ok encrypted →
        env.decryptPsk encrypted = .ok psk → psk.length ≠ 32)
    (hkey : hs.authType = authTypePublickey → ∀ info, env.getPublicKeyInfo ≠ .ok info)
    (hsign : hs.authType = authTypeSignature → ∀ sig, env.rsaSignChallenge hs.buf ≠ .ok sig) :
    HostRoundCase env handshake m (.failed e) := by
  refine .refused e hcommand ?_ ?_ ?_
  · rintro ⟨-, hs', hdecode', ⟨htype, info, hinfo⟩ | ⟨htype, sig, hsig⟩⟩
    · cases hdecode.symm.trans hdecode'
      exact hkey htype info hinfo
    · cases hdecode.symm.trans hdecode'
      exact hsign htype sig hsig
  · rintro ⟨-, hs', hdecode', htype⟩
    cases hdecode.symm.trans hdecode'
    exact hok htype
  · rintro ⟨-, hencrypt, hs', encrypted, psk, hdecode', htype, hencrypted, hdecrypted, hlen⟩
    cases hdecode.symm.trans hdecode'
    exact hpsk htype hencrypt encrypted psk hencrypted hdecrypted hlen

/-- A PSK is taken, or it is the reason to refuse. -/
theorem hostTakePsk_case {handshake hs : SessionHandShake} {m : TaskMessage}
    (hcommand : m.command = .kernelHandshake)
    (hdecode : SessionHandShake.deserialize m.payload = .ok hs)
    (htype : hs.authType = authTypeSslTlsPsk) :
    HostRoundCase env handshake m (hostTakePsk env handshake hs.buf) := by
  have hrefuse : ∀ e, (env.encryptChannel = true → ∀ encrypted psk,
      env.base64Decode hs.buf = .ok encrypted → env.decryptPsk encrypted = .ok psk →
        psk.length ≠ 32) → HostRoundCase env handshake m (.failed e) := by
    intro e hpsk
    exact .of_refused e hcommand hdecode (by rw [htype]; decide) (fun _ => hpsk)
      (fun h => absurd (htype.symm.trans h) (by decide))
      (fun h => absurd (htype.symm.trans h) (by decide))
  rw [hostTakePsk]
  split
  · rename_i hencrypt
    exact hrefuse _ (fun h => by simp [h] at hencrypt)
  · rename_i hencrypt
    split
    · rename_i hbase64
      exact hrefuse _ (fun _ _ _ h => by simp [hbase64] at h)
    · rename_i encrypted hbase64
      split
      · rename_i hdecrypt
        refine hrefuse _ (fun _ encrypted' _ h h' => ?_)
        cases hbase64.symm.trans h
        simp [hdecrypt] at h'
      · rename_i psk hdecrypt
        split
        · rename_i hlen
          exact .psk ⟨hcommand, by simpa using hencrypt, hs, encrypted, psk, hdecode, htype,
            hbase64, hdecrypt, hlen⟩ _ _
        · rename_i hlen
          refine hrefuse _ (fun _ encrypted' psk' h h' => ?_)
          cases hbase64.symm.trans h
          cases hdecrypt.symm.trans h'
          exact hlen

theorem hostAuthRound_case (handshake : SessionHandShake) (m : TaskMessage) :
    HostRoundCase env handshake m (hostAuthRound env handshake m) := by
  by_cases hcommand : m.command = .kernelHandshake
  · rw [hostAuthRound, if_neg (not_not_intro hcommand)]
    cases hdecode : SessionHandShake.deserialize m.payload with
    | error e =>
      refine .refused _ hcommand ?_ ?_ ?_
      · rintro ⟨-, hs, h, -⟩
        simp [hdecode] at h
      · rintro ⟨-, hs, h, -⟩
        simp [hdecode] at h
      · rintro ⟨-, -, hs, _, _, h, -⟩
        simp [hdecode] at h
    | ok hs =>
      dsimp only
      split
      · rename_i hok
        exact .ok ⟨hcommand, hs, hdecode, hok⟩
      rename_i hok
      split
      · rename_i hfail
        exact .of_refused _ hcommand hdecode hok
          (fun h => absurd (hfail.symm.trans h) (by decide))
          (fun h => absurd (hfail.symm.trans h) (by decide))
          (fun h => absurd (hfail.symm.trans h) (by decide))
      split
      · rename_i hpsk
        exact hostTakePsk_case hcommand hdecode hpsk
      rename_i hpsk
      split
      · rename_i hkey
        split
        · rename_i e hinfo
          refine .of_refused _ hcommand hdecode hok (absurd · hpsk) (fun _ info h => ?_)
            (fun h => absurd (hkey.symm.trans h) (by decide))
          simp [hinfo] at h
        · rename_i info hinfo
          exact .proof ⟨hcommand, hs, hdecode, Or.inl ⟨hkey, info, hinfo⟩⟩ _ _
      rename_i hkey
      split
      · rename_i hsign
        split
        · rename_i e hsig
          refine .of_refused _ hcommand hdecode hok (absurd · hpsk) (absurd · hkey)
            (fun _ sig h => ?_)
          simp [hsig] at h
        · rename_i sig hsig
          exact .proof ⟨hcommand, hs, hdecode, Or.inr ⟨hsign, sig, hsig⟩⟩ _ _
      rename_i hsign
      split <;>
        exact .of_refused _ hcommand hdecode hok (absurd · hpsk) (absurd · hkey) (absurd · hsign)
  · rw [hostAuthRound, if_pos hcommand]
    exact .other hcommand

end

/-! What the loop has done to the map when it ends. -/

section
variable {env : HostEnv} {sessionId : UInt32} {wr : Nat}

/-- The ways to leave the loop. -/
inductive ConnectCase (env : HostEnv) (sessionId : UInt32) (attempt : Nat)
    (turns : List (AuthTurn TaskMessage)) (tcp : TcpMap) :
    TcpMap × AuthResult TcpAuth IoError → Prop
  /-- The map still has the writer. -/
  | lost (tcp' : TcpMap) (e : IoError) (h : LosesAnswer env attempt turns)
      (hwriters : tcp'.sessionWriters = tcp.sessionWriters) :
    ConnectCase env sessionId attempt turns tcp (tcp', .failed e)
  | turnedAway (e : IoError) (hlost : ¬ LosesAnswer env attempt turns)
      (h : TurnedAway env attempt turns) :
    ConnectCase env sessionId attempt turns tcp (tcp.endSession sessionId, .failed e)
  | goesOn (r : TcpMap × AuthResult TcpAuth IoError) (hlost : ¬ LosesAnswer env attempt turns)
      (h : ¬ TurnedAway env attempt turns) (hresult : ∀ e, r.2 ≠ .failed e) :
    ConnectCase env sessionId attempt turns tcp r

/-- A turn the host is refused on ends the session. -/
theorem ConnectCase.of_refused {attempt : Nat} {turn : AuthTurn TaskMessage}
    {turns : List (AuthTurn TaskMessage)} {tcp : TcpMap} (e : IoError)
    (hattempt : attempt ≤ maxAuthAttempts) (hlost : ¬ turn.AnswerLost env)
    (hpassed : ¬ turn.Passed env) (hadmitted : ¬ turn.Admitted env) :
    ConnectCase env sessionId attempt (turn :: turns) tcp
      (tcp.endSession sessionId, .failed e) := by
  refine .turnedAway e ?_ ((turnedAway_cons hattempt).mpr (Or.inl ⟨hpassed, hadmitted⟩))
  rw [losesAnswer_cons]
  rintro ⟨-, h | ⟨h, -⟩⟩
  · exact hlost h
  · exact hpassed h

/-- A turn that is passed, with its answer sent, leaves it to the rest. -/
theorem ConnectCase.of_passed {attempt : Nat} {turn : AuthTurn TaskMessage}
    {turns : List (AuthTurn TaskMessage)} {tcp : TcpMap} {r : TcpMap × AuthResult TcpAuth IoError}
    (hattempt : attempt ≤ maxAuthAttempts) (hlost : ¬ turn.AnswerLost env)
    (hpassed : turn.Passed env) (h : ConnectCase env sessionId (attempt + 1) turns tcp r) :
    ConnectCase env sessionId attempt (turn :: turns) tcp r := by
  have hlost' : LosesAnswer env attempt (turn :: turns) ↔ LosesAnswer env (attempt + 1) turns := by
    rw [losesAnswer_cons]
    exact ⟨fun h => (h.2.resolve_left hlost).2, fun h => ⟨hattempt, Or.inr ⟨hpassed, h⟩⟩⟩
  have haway : TurnedAway env attempt (turn :: turns) ↔ TurnedAway env (attempt + 1) turns := by
    rw [turnedAway_cons hattempt]
    exact ⟨fun h => (h.resolve_left fun hnot => hnot.1 hpassed).2, fun h => Or.inr ⟨hpassed, h⟩⟩
  cases h with
  | lost tcp' e h hwriters => exact .lost tcp' e (hlost'.mpr h) hwriters
  | turnedAway e hl h => exact .turnedAway e (mt hlost'.mp hl) (haway.mpr h)
  | goesOn r hl h hresult => exact .goesOn r (mt hlost'.mp hl) (mt haway.mp h) hresult

/-- A turn that lets the host in, with its answer sent, ends the loop well. -/
theorem ConnectCase.of_admitted {attempt : Nat} {turn : AuthTurn TaskMessage}
    {turns : List (AuthTurn TaskMessage)} {tcp tcp' : TcpMap} (st : TcpAuth)
    (hattempt : attempt ≤ maxAuthAttempts) (hlost : ¬ turn.AnswerLost env)
    (hpassed : ¬ turn.Passed env) (hadmitted : turn.Admitted env) :
    ConnectCase env sessionId attempt (turn :: turns) tcp (tcp', .ok st) := by
  refine .goesOn _ ?_ ?_ (fun e h => by cases h)
  · rw [losesAnswer_cons]
    rintro ⟨-, h | ⟨h, -⟩⟩
    · exact hlost h
    · exact hpassed h
  · rw [turnedAway_cons hattempt]
    rintro (⟨-, h⟩ | ⟨h, -⟩)
    · exact h hadmitted
    · exact hpassed h

/-- One message: the loop is left, or goes on with the rest of the turns. -/
theorem connectCase_message {attempt : Nat} {turn : AuthTurn TaskMessage}
    {turns : List (AuthTurn TaskMessage)} {tcp : TcpMap} {st : TcpAuth} {m : TaskMessage}
    (hattempt : attempt ≤ maxAuthAttempts) (hreceived : turn.received = .message m)
    (hrest : ∀ st', ConnectCase env sessionId (attempt + 1) turns tcp
      (connectLoop env sessionId wr (attempt + 1) tcp st' turns)) :
    ConnectCase env sessionId attempt (turn :: turns) tcp
      (connectLoop env sessionId wr attempt tcp st (turn :: turns)) := by
  have hpassed : turn.Passed env ↔ m.command ≠ .kernelHandshake ∨ GetsProof env m := by
    simp [AuthTurn.Passed, hreceived]
  have hadmitted : turn.Admitted env ↔ SaysOk m ∨ BringsPsk env m := by
    simp [AuthTurn.Admitted, hreceived]
  have hlost : turn.AnswerLost env ↔
      (GetsProof env m ∨ BringsPsk env m) ∧ ∃ e, turn.sent = .error e := by
    simp [AuthTurn.AnswerLost, hreceived]
  have hcase : HostRoundCase env st.handshake m (hostAuthRound env st.handshake m) :=
    hostAuthRound_case st.handshake m
  rw [connectLoop, if_neg (by omega), hreceived]
  dsimp only [connectRound]
  generalize hostAuthRound env st.handshake m = round at hcase
  cases hcase with
  | other hcommand =>
    refine .of_passed hattempt ?_ (hpassed.mpr (Or.inl hcommand)) (hrest _)
    rw [hlost]
    rintro ⟨h | h, -⟩ <;> exact hcommand h.1
  | proof hproof handshake' reply =>
    have hgoes : turn.Passed env := hpassed.mpr (Or.inr hproof)
    cases hsent : turn.sent with
    | ok _ =>
      refine .of_passed hattempt ?_ hgoes (hrest _)
      simp [hlost, hsent]
    | error e =>
      exact .lost tcp e
        (losesAnswer_cons.mpr ⟨hattempt, Or.inl (hlost.mpr ⟨Or.inl hproof, e, hsent⟩)⟩) rfl
  | ok hok =>
    refine .of_admitted _ hattempt ?_ ?_ (hadmitted.mpr (Or.inl hok))
    · rw [hlost]
      rintro ⟨h | h, -⟩
      · exact hok.not_getsProof h
      · exact hok.not_bringsPsk h
    · rw [hpassed]
      rintro (h | h)
      · exact h hok.1
      · exact hok.not_getsProof h
  | psk hpsk cipher reply =>
    cases hsent : turn.sent with
    | ok _ =>
      refine .of_admitted _ hattempt (by simp [hlost, hsent]) ?_ (hadmitted.mpr (Or.inr hpsk))
      rw [hpassed]
      rintro (h | h)
      · exact h hpsk.1
      · exact hpsk.not_getsProof h
    | error e =>
      exact .lost _ e (losesAnswer_cons.mpr ⟨hattempt, Or.inl (hlost.mpr ⟨Or.inr hpsk, e, hsent⟩)⟩)
        rfl
  | refused e hcommand hproof hok hpsk =>
    refine .of_refused e hattempt ?_ ?_ ?_
    · rw [hlost]
      rintro ⟨h | h, -⟩
      · exact hproof h
      · exact hpsk h
    · rw [hpassed]
      rintro (h | h)
      · exact h hcommand
      · exact hproof h
    · rw [hadmitted]
      rintro (h | h)
      · exact hok h
      · exact hpsk h

theorem connectLoop_case (turns : List (AuthTurn TaskMessage)) (attempt : Nat) (tcp : TcpMap)
    (st : TcpAuth) : ConnectCase env sessionId attempt turns tcp
      (connectLoop env sessionId wr attempt tcp st turns) := by
  induction turns generalizing attempt st with
  | nil =>
    rw [connectLoop]
    split
    · rename_i hexhausted
      exact .turnedAway _ not_losesAnswer_nil (turnedAway_of_exhausted hexhausted)
    · rename_i hattempt
      exact .goesOn _ not_losesAnswer_nil (not_turnedAway_nil (by omega)) (fun e h => by cases h)
  | cons turn turns ih =>
    by_cases hattempt : attempt ≤ maxAuthAttempts
    · cases hreceived : turn.received with
      | message m => exact connectCase_message hattempt hreceived (fun st' => ih (attempt + 1) st')
      | failed e =>
        rw [connectLoop, if_neg (by omega), hreceived]
        refine .of_refused _ hattempt ?_ ?_ ?_ <;>
          simp [AuthTurn.AnswerLost, AuthTurn.Passed, AuthTurn.Admitted, hreceived]
      | timeout =>
        rw [connectLoop, if_neg (by omega), hreceived]
        refine .of_refused _ hattempt ?_ ?_ ?_ <;>
          simp [AuthTurn.AnswerLost, AuthTurn.Passed, AuthTurn.Admitted, hreceived]
    · rw [connectLoop, if_pos (by omega)]
      refine .turnedAway _ ?_ (turnedAway_of_exhausted (by omega))
      rw [losesAnswer_cons]
      exact fun h => hattempt h.1

end

/-! A failed connect. -/

/-- If the function returns an error, the maps of the sessions are as before the call. -/
def LeavesNoSession (tcp : TcpMap) (connectMap : ConnectMap)
    (result : TcpMap × ConnectMap × SetupOutcome IoError) : Prop :=
  ∀ e, result.2.2 = .failed e → result.1.sessionWriters = tcp.sessionWriters ∧
    result.1.sessionCiphers = tcp.sessionCiphers ∧ result.2.1 = connectMap

/-- Once there is a connection, all the messages of the host can be sent; and its id is new, if the
host is turned away. -/
def SendsAll (env : HostEnv) (addr : String) (sessionId : UInt32) (connect hello : IoResult Unit)
    (turns : List (AuthTurn TaskMessage)) (tcp : TcpMap) : Prop :=
  ∀ port, checkPort (((rsplitOnce ':' addr).map Prod.snd).getD "") = .ok port → connect = .ok () →
    hello = .ok () ∧ ¬ LosesAnswer env 1 turns ∧
      (TurnedAway env 1 turns → tcp.sessionWriters sessionId = none)

/-- The map with a writer that is not yet in it is another map. -/
theorem startSession_ne {tcp : TcpMap} {sessionId : UInt32} {wr : Nat}
    (hwr : tcp.sessionWriters sessionId ≠ some wr) :
    (tcp.startSession sessionId wr).sessionWriters ≠ tcp.sessionWriters := by
  intro heq
  have hat := congrFun heq sessionId
  simp only [TcpMap.startSession, Function.update_self] at hat
  exact hwr hat.symm

/-- Starting and ending a session takes an old writer along. -/
theorem endSession_startSession_iff {tcp : TcpMap} {sessionId : UInt32} {wr : Nat} :
    ((tcp.startSession sessionId wr).endSession sessionId).sessionWriters = tcp.sessionWriters ↔
      tcp.sessionWriters sessionId = none := by
  simp only [TcpMap.startSession, TcpMap.endSession, Function.update_idem,
    Function.update_eq_self_iff]
  exact eq_comm

theorem connectDevice_ne_failed {ε : Type} {connectKey buf : String} {sessionId : UInt32}
    {connType : ConnectType} {e : ε} :
    (connectDevice connectKey sessionId connType buf).2 ≠ .failed e := by
  unfold connectDevice
  cases devName buf <;> simp

/-- A call leaves no session behind exactly if it cannot fail in sending a message. -/
theorem failed_connect_clean_iff (env : HostEnv) (addr : String) (sessionId : UInt32) (wr : Nat)
    (connect hello : IoResult Unit) (turns : List (AuthTurn TaskMessage)) (tcp : TcpMap)
    (connectMap : ConnectMap) (hwr : tcp.sessionWriters sessionId ≠ some wr) :
    LeavesNoSession tcp connectMap
        (connectTcp env addr sessionId wr connect hello turns tcp connectMap) ↔
      SendsAll env addr sessionId connect hello turns tcp := by
  unfold connectTcp SendsAll LeavesNoSession
  cases checkPort (((rsplitOnce ':' addr).map Prod.snd).getD "") with
  | error e => simp
  | ok port =>
    cases connect with
    | error e => simp
    | ok _ =>
      cases hello with
      | error e => simpa using fun h => absurd h (startSession_ne hwr)
      | ok _ =>
        have hcase := @connectLoop_case env sessionId wr turns 1 (tcp.startSession sessionId wr)
          ⟨hostHandshake env sessionId addr, "", none⟩
        dsimp only
        generalize connectLoop env sessionId wr 1 (tcp.startSession sessionId wr)
          ⟨hostHandshake env sessionId addr, "", none⟩ turns = result at hcase
        cases hcase with
        | lost tcp' e hlost hwriters =>
          refine iff_of_false (fun h => ?_) (fun h => (h port rfl rfl).2.1 hlost)
          exact startSession_ne hwr (hwriters.symm.trans (h e rfl).1)
        | turnedAway e hlost haway =>
          constructor
          · intro h _ _ _
            exact ⟨rfl, hlost, fun _ => endSession_startSession_iff.mp (h e rfl).1⟩
          · intro h _ _
            exact ⟨endSession_startSession_iff.mpr ((h port rfl rfl).2.2 haway), rfl, rfl⟩
        | goesOn _ hlost haway hresult =>
          refine iff_of_true (fun e h => ?_) (fun _ _ _ => ⟨rfl, hlost, fun h => absurd h haway⟩)
          rcases result with ⟨tcp', st | e' | _⟩
          · exact absurd h connectDevice_ne_failed
          · exact absurd rfl (hresult e')
          · cases h

/-- A daemon that asks for the host's key and then says nothing. -/
def silentDaemon : List (AuthTurn TaskMessage) :=
  [⟨.message (deviceHandshake authTypePublickey ""), .ok ()⟩, ⟨.timeout, .ok ()⟩]

theorem failed_connect_clean_silent :
    TcpMap.new.sessionWriters 5 ≠ some 0 ∧
      LeavesNoSession .new .new
        (connectTcp plainHost "10.0.0.2:5555" 5 0 (.ok ()) (.ok ()) silentDaemon .new .new) := by
  have hwr : TcpMap.new.sessionWriters 5 ≠ some 0 := by decide
  refine ⟨hwr, (failed_connect_clean_iff plainHost "10.0.0.2:5555" 5 0 (.ok ()) (.ok ())
    silentDaemon .new .new hwr).mpr ?_⟩
  refine fun _ _ _ => ⟨rfl, ?_, fun _ => rfl⟩
  rw [silentDaemon, losesAnswer_cons, losesAnswer_cons]
  rintro ⟨-, ⟨_, _, -, -, h⟩ | ⟨-, -, ⟨_, _, h, -⟩ | ⟨⟨_, h, -⟩, -⟩⟩⟩
  · cases h
  · cases h
  · cases h

/-- A daemon that is gone when the host answers with its PSK-ACK: the writer and the cipher of a
session that has failed stay in the map. -/
theorem failed_connect_leaves_session :
    (connectTcp plainHost "10.0.0.2:5555" 5 0 (.ok ()) (.ok ())
        [⟨.message (deviceHandshake authTypeSslTlsPsk "0123456789abcdef0123456789abcdef"),
          .error ⟨.brokenPipe, "Broken pipe"⟩⟩] .new .new).2.2 =
      .failed ⟨.brokenPipe, "Broken pipe"⟩ ∧
    (connectTcp plainHost "10.0.0.2:5555" 5 0 (.ok ()) (.ok ())
        [⟨.message (deviceHandshake authTypeSslTlsPsk "0123456789abcdef0123456789abcdef"),
          .error ⟨.brokenPipe, "Broken pipe"⟩⟩] .new .new).1.sessionWriters 5 = some 0 ∧
    (connectTcp plainHost "10.0.0.2:5555" 5 0 (.ok ()) (.ok ())
        [⟨.message (deviceHandshake authTypeSslTlsPsk "0123456789abcdef0123456789abcdef"),
          .error ⟨.brokenPipe, "Broken pipe"⟩⟩] .new .new).1.sessionCiphers 5 = some 0 := by
  decide

end Hdc
