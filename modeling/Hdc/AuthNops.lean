import Hdc.AuthGate
import Hdc.UsbFraming

/- Empty packets while a USB session authenticates (`start_usb_session` in `hdc/src/server.rs`).

   The receiver reports an empty packet, a nop, as an error. The read loop of a session skips
   such errors; the authentication loop in front of it ends at any error. So a nop disturbs it
   unless the loop is over before the nop is read, or was to end at one anyway with nothing sent
   in between: `nops_harmless_iff`. -/
namespace Hdc
open Rust Wire Feed

/-! The loop, with the messages it sends. -/

/-- The handshake that answers a message of the device, if one does: the loop goes on from a
handshake only after it has answered it. -/
def usbAuthReply (env : HostEnv) (st : UsbAuth) (resp : UInt32 × TaskMessage) :
    Option (UInt32 × TaskMessage) :=
  match usbAuthRound env st resp (.ok ()) with
  | .next st =>
    if resp.2.command = .kernelHandshake then some (st.sessionId, handshakeTask st.handshake)
    else none
  | _ => none

section
variable {σ : Type} (env : HostEnv) (next : σ → Incoming (UInt32 × TaskMessage) × σ)

/-- The loop with `left` attempts left, on what `next` gives: how it ends, and the messages it
hands to `send_usb_message`, with the session ids. `sends` are what sending them comes to. -/
def usbAuthRun : Nat → UsbAuth → List (IoResult Unit) → σ →
    AuthResult UsbAuth String × List (UInt32 × TaskMessage)
  | 0, _, _, _ => (.failed (usbAuthLoop env).exhausted, [])
  | left+1, st, sends, src =>
    match next src with
    | (.failed e, _) => (.failed ((usbAuthLoop env).recvFailed e), [])
    | (.timeout, _) => (.failed ((usbAuthLoop env).timeout (maxAuthAttempts - left)), [])
    | (.message resp, src) =>
      let reply := usbAuthReply env st resp
      match usbAuthRound env st resp (sends.headD (.ok ())) with
      | .authenticated st => (.ok st, reply.toList)
      | .failed reason => (.failed reason, reply.toList)
      | .next st =>
        let rest := usbAuthRun left st (if reply.isSome then sends.tail else sends) src
        (rest.1, reply.toList ++ rest.2)

/-- It is the loop of `Hdc.AuthGate` on some turns. -/
theorem usbAuthRun_turns (left : Nat) (hleft : left ≤ maxAuthAttempts) (st : UsbAuth)
    (sends : List (IoResult Unit)) (src : σ) :
    ∃ turns, (usbAuthLoop env).run (maxAuthAttempts + 1 - left) st turns =
      (usbAuthRun env next left st sends src).1 := by
  induction left generalizing st sends src with
  | zero =>
    refine ⟨[], ?_⟩
    simp [AuthLoop.run, usbAuthRun]
  | succ left ih =>
    have hattempt : ¬ maxAuthAttempts < maxAuthAttempts + 1 - (left + 1) := by omega
    have hnext : maxAuthAttempts + 1 - (left + 1) + 1 = maxAuthAttempts + 1 - left := by omega
    have hthis : maxAuthAttempts + 1 - (left + 1) = maxAuthAttempts - left := by omega
    simp only [usbAuthRun]
    cases hsrc : next src with
    | mk received src' =>
      cases received with
      | failed e =>
        refine ⟨[⟨.failed e, .ok ()⟩], ?_⟩
        simp only [AuthLoop.run, if_neg hattempt]
      | timeout =>
        refine ⟨[⟨.timeout, .ok ()⟩], ?_⟩
        simp only [AuthLoop.run, if_neg hattempt]
        rw [hthis]
      | message resp =>
        simp only
        cases hround : usbAuthRound env st resp (sends.headD (.ok ())) with
        | authenticated st' =>
          refine ⟨[⟨.message resp, sends.headD (.ok ())⟩], ?_⟩
          simp only [AuthLoop.run, if_neg hattempt, usbAuthLoop, hround]
        | failed reason =>
          refine ⟨[⟨.message resp, sends.headD (.ok ())⟩], ?_⟩
          simp only [AuthLoop.run, if_neg hattempt, usbAuthLoop, hround]
        | next st' =>
          obtain ⟨turns, hturns⟩ := ih (by omega) st'
            (if (usbAuthReply env st resp).isSome then sends.tail else sends) src'
          refine ⟨⟨.message resp, sends.headD (.ok ())⟩ :: turns, ?_⟩
          simp only [AuthLoop.run, if_neg hattempt]
          rw [show (usbAuthLoop env).round = usbAuthRound env from rfl, hround]
          simp only
          rw [hnext, hturns]

end

/-- Sources that give the same give the same runs. -/
theorem usbAuthRun_sim (env : HostEnv) {σ τ : Type} {next : σ → Incoming (UInt32 × TaskMessage) × σ}
    {next' : τ → Incoming (UInt32 × TaskMessage) × τ} {R : σ → τ → Prop}
    (hR : ∀ a b, R a b → (next a).1 = (next' b).1 ∧
      ((∃ resp, (next a).1 = .message resp) → R (next a).2 (next' b).2)) :
    ∀ (left : Nat) (st : UsbAuth) (sends : List (IoResult Unit)) (a : σ) (b : τ), R a b →
      usbAuthRun env next left st sends a = usbAuthRun env next' left st sends b
  | 0, _, _, _, _, _ => rfl
  | left+1, st, sends, a, b, h => by
    obtain ⟨hreceived, hrest⟩ := hR a b h
    simp only [usbAuthRun]
    rcases hna : next a with ⟨received, a'⟩
    rcases hnb : next' b with ⟨received', b'⟩
    rw [hna, hnb] at hreceived hrest
    obtain rfl : received = received' := hreceived
    cases received with
    | failed e => rfl
    | timeout => rfl
    | message resp =>
      simp only
      split
      · rfl
      · rfl
      · rw [usbAuthRun_sim env hR left _ _ a' b' (hrest ⟨resp, rfl⟩)]

/-! Streams and packets. -/

/-- What waiting comes to once the device sends nothing more: a timeout, or an error. -/
def waitAtEnd (atEnd : Option IoError) : Incoming (UInt32 × TaskMessage) :=
  match atEnd with
  | none => .timeout
  | some e => .failed e

/-- What receiving comes to. -/
def received (result : IoResult (UInt32 × TaskMessage)) : Incoming (UInt32 × TaskMessage) :=
  match result with
  | .ok resp => .message resp
  | .error e => .failed e

def fromStream (atEnd : Option IoError) (conn : Chunks UInt8) :
    Incoming (UInt32 × TaskMessage) × Chunks UInt8 :=
  if conn.bytes = [] then (waitAtEnd atEnd, conn)
  else (received (recvUsb conn).1, (recvUsb conn).2)

def fromPackets (atEnd : Option IoError) :
    List UsbPacket → Incoming (UInt32 × TaskMessage) × List UsbPacket
  | [] => (waitAtEnd atEnd, [])
  | p :: packets => (received p.result, packets)

/-- The authentication loop of a session on the bytes the device sends. -/
def usbAuthenticate (env : HostEnv) (atEnd : Option IoError) (st : UsbAuth)
    (sends : List (IoResult Unit)) (conn : Chunks UInt8) :
    AuthResult UsbAuth String × List (UInt32 × TaskMessage) :=
  usbAuthRun env (fromStream atEnd) maxAuthAttempts st sends conn

/-- The bytes of packets are received packet by packet, however they are cut. -/
theorem usbAuthenticate_packets (env : HostEnv) (atEnd : Option IoError) (st : UsbAuth)
    (sends : List (IoResult Unit)) (packets : List UsbPacket) (conn : Chunks UInt8)
    (h : conn.bytes = packets.flatMap UsbPacket.bytes) :
    usbAuthenticate env atEnd st sends conn =
      usbAuthRun env (fromPackets atEnd) maxAuthAttempts st sends packets := by
  refine usbAuthRun_sim env (R := fun conn packets =>
    conn.bytes = packets.flatMap UsbPacket.bytes) ?_ _ _ _ _ _ h
  intro conn packets hconn
  cases packets with
  | nil =>
    have hempty : conn.bytes = [] := hconn
    simp only [fromStream, if_pos hempty, fromPackets, true_and]
    exact fun _ => hconn
  | cons p packets =>
    rw [List.flatMap_cons] at hconn
    have hne : conn.bytes ≠ [] := by
      rw [hconn]
      exact fun h => absurd (List.append_eq_nil_iff.mp h).1 (List.length_pos_iff.mp p.bytes_pos)
    obtain ⟨conn', hrecv, hrest⟩ := recvUsb_packet p hconn
    simp only [fromStream, if_neg hne, hrecv, fromPackets, true_and]
    rintro ⟨resp, hresp⟩
    refine hrest (.inl ?_)
    cases hresult : p.result with
    | ok resp => rfl
    | error e =>
      rw [hresult] at hresp
      cases hresp

/-! One round. -/

/-- A handshake that asks for the host's key or for a signature, which the host can give. -/
def answerable (env : HostEnv) (m : TaskMessage) : Bool :=
  m.command = .kernelHandshake &&
    match SessionHandShake.deserialize m.payload with
    | .error _ => false
    | .ok hs =>
      hs.authType = authTypePublickey && env.getPublicKeyInfo.isOk ||
        hs.authType = authTypeSignature && (env.rsaSignChallenge hs.buf).isOk

/-- The loop's failure at an empty packet. -/
def nopReason : String := "auth recv: USB nop/reset packet"

/-- What a round does with a message: passes over it, answers it, or ends at it. -/
inductive RoundCase (env : HostEnv) (st : UsbAuth) (resp : UInt32 × TaskMessage)
    (sent : IoResult Unit) : Prop
  | passed (hcommand : resp.2.command ≠ .kernelHandshake)
    (hreply : usbAuthReply env st resp = none)
    (hround : usbAuthRound env st resp sent = .next st)
  | answered {msg : UInt32 × TaskMessage} {st' : UsbAuth}
    (hcommand : resp.2.command = .kernelHandshake) (hasks : answerable env resp.2 = true)
    (hsent : sent = .ok ()) (hreply : usbAuthReply env st resp = some msg)
    (hround : usbAuthRound env st resp sent = .next st')
  | unsent {msg : UInt32 × TaskMessage} {reason : String} {e : IoError}
    (hcommand : resp.2.command = .kernelHandshake)
    (hsent : sent = .error e) (hreply : usbAuthReply env st resp = some msg)
    (hround : usbAuthRound env st resp sent = .failed reason)
  | authenticated (st' : UsbAuth) (hcommand : resp.2.command = .kernelHandshake)
    (hasks : answerable env resp.2 = false)
    (hround : usbAuthRound env st resp sent = .authenticated st')
  | failed (reason : String) (hcommand : resp.2.command = .kernelHandshake)
    (hasks : answerable env resp.2 = false) (hreason : reason ≠ nopReason)
    (hround : usbAuthRound env st resp sent = .failed reason)

theorem append_ne {a b c : String} (h : ¬ a.toList <+: c.toList) : a ++ b ≠ c := by
  rintro rfl
  rw [String.toList_append] at h
  exact h (List.prefix_append _ _)

/-- The state in which a handshake of the device is answered. -/
def UsbAuth.heard (st : UsbAuth) (respSessionId : UInt32) (hs : SessionHandShake) : UsbAuth :=
  ({ st with lastDaemonBuf := hs.buf } : UsbAuth).adopt respSessionId

/-- The part of a round that answers. -/
theorem UsbAuth.answer_case {env : HostEnv} {st : UsbAuth} {resp : UInt32 × TaskMessage}
    {sent : IoResult Unit} (st₁ : UsbAuth) (authType : UInt8) (buf what : String)
    (hcommand : resp.2.command = .kernelHandshake) (hasks : answerable env resp.2 = true)
    (hround : ∀ sent, usbAuthRound env st resp sent = st₁.answer authType buf what sent) :
    RoundCase env st resp sent := by
  have hreply : ∃ msg, usbAuthReply env st resp = some msg := by
    simp [usbAuthReply, hround, UsbAuth.answer, hcommand]
  obtain ⟨msg, hreply⟩ := hreply
  cases sent with
  | ok => exact .answered hcommand hasks rfl hreply (hround _)
  | error e => exact .unsent hcommand rfl hreply (hround _)

theorem usbAuthRound_case (env : HostEnv) (st : UsbAuth) (resp : UInt32 × TaskMessage)
    (sent : IoResult Unit) : RoundCase env st resp sent := by
  obtain ⟨respSessionId, m⟩ := resp
  by_cases hcommand : m.command = .kernelHandshake
  · cases hdecode : SessionHandShake.deserialize m.payload with
    | error e =>
      refine .failed ("auth handshake deserialize: " ++ e.msg) hcommand
        (by simp [answerable, hdecode]) (append_ne (by decide)) ?_
      simp [usbAuthRound, hcommand, hdecode]
    | ok hs =>
      have hasks : answerable env m =
          (hs.authType = authTypePublickey && env.getPublicKeyInfo.isOk ||
          hs.authType = authTypeSignature && (env.rsaSignChallenge hs.buf).isOk) := by
        simp [answerable, hcommand, hdecode]
      have hnot : hs.authType ≠ authTypePublickey → hs.authType ≠ authTypeSignature →
          answerable env m = false := by
        intro hkey hsignature
        simp [hasks, hkey, hsignature]
      by_cases hok : hs.authType = authTypeOk
      · refine .authenticated (st.heard respSessionId hs) hcommand
          (hnot (by rw [hok]; decide) (by rw [hok]; decide)) ?_
        simp only [usbAuthRound, hcommand, hdecode, ne_eq, not_true, if_false, if_pos hok]
        rfl
      by_cases hfail : hs.authType = authTypeFail
      · refine .failed "authentication rejected by daemon" hcommand
          (hnot (by rw [hfail]; decide) (by rw [hfail]; decide)) (by decide) ?_
        simp only [usbAuthRound, hcommand, hdecode, ne_eq, not_true, if_false, if_neg hok,
          if_pos hfail]
      by_cases hkey : hs.authType = authTypePublickey
      · cases hinfo : env.getPublicKeyInfo with
        | error e =>
          refine .failed ("get public key: " ++ e.msg) hcommand ?_ (append_ne (by decide)) ?_
          · rw [hasks, hkey, hinfo]
            rfl
          · simp only [usbAuthRound, hcommand, hdecode, ne_eq, not_true, if_false, if_neg hok,
              if_neg hfail, if_pos hkey, hinfo]
        | ok pubkeyInfo =>
          refine UsbAuth.answer_case (st.heard respSessionId hs) authTypePublickey pubkeyInfo
            "public key" hcommand ?_ fun sent => ?_
          · rw [hasks, hkey, hinfo]
            rfl
          · simp only [usbAuthRound, hcommand, hdecode, ne_eq, not_true, if_false, if_neg hok,
              if_neg hfail, if_pos hkey, hinfo]
            rfl
      by_cases hsignature : hs.authType = authTypeSignature
      · cases hsigned : env.rsaSignChallenge hs.buf with
        | error e =>
          refine .failed ("sign challenge: " ++ e.msg) hcommand ?_ (append_ne (by decide)) ?_
          · rw [hasks, hsignature, hsigned]
            rfl
          · simp only [usbAuthRound, hcommand, hdecode, ne_eq, not_true, if_false, if_neg hok,
              if_neg hfail, if_neg hkey, if_pos hsignature, hsigned]
        | ok signature =>
          refine UsbAuth.answer_case (st.heard respSessionId hs) authTypeSignature signature
            "signature" hcommand ?_ fun sent => ?_
          · rw [hasks, hsignature, hsigned]
            rfl
          · simp only [usbAuthRound, hcommand, hdecode, ne_eq, not_true, if_false, if_neg hok,
              if_neg hfail, if_neg hkey, if_pos hsignature, hsigned]
            rfl
      by_cases htoken : hs.authType = authTypeToken
      · refine .failed "daemon requested token auth (unsupported)" hcommand (hnot hkey hsignature)
          (by decide) ?_
        simp only [usbAuthRound, hcommand, hdecode, ne_eq, not_true, if_false, if_neg hok,
          if_neg hfail, if_neg hkey, if_neg hsignature, if_pos htoken]
      · refine .failed ("unknown auth type " ++ toString hs.authType) hcommand
          (hnot hkey hsignature) (append_ne (by decide)) ?_
        simp only [usbAuthRound, hcommand, hdecode, ne_eq, not_true, if_false, if_neg hok,
          if_neg hfail, if_neg hkey, if_neg hsignature, if_neg htoken]
        rfl
  · refine .passed hcommand ?_ ?_
    · simp [usbAuthReply, usbAuthRound, hcommand]
    · simp [usbAuthRound, hcommand]

/-! Where a nop is put. -/

/-- `packets'` is `packets` with empty packets put in. -/
inductive WithNops : List UsbPacket → List UsbPacket → Prop
  | nil : WithNops [] []
  | keep (p : UsbPacket) {packets packets' : List UsbPacket} (h : WithNops packets packets') :
      WithNops (p :: packets) (p :: packets')
  | insert (nop : UsbPacket) (hnop : nop.data = []) {packets packets' : List UsbPacket}
      (h : WithNops packets packets') : WithNops packets (nop :: packets')

/-- The loop, with `left` attempts left, is over after these packets: one of them is refused, or
is a handshake that is not answered, or they are too many. -/
def authOver (env : HostEnv) : Nat → List (IoResult Unit) → List UsbPacket → Bool
  | 0, _, _ => true
  | _+1, _, [] => false
  | left+1, sends, p :: packets =>
    match p.result with
    | .error _ => true
    | .ok resp =>
      if resp.2.command ≠ .kernelHandshake then authOver env left sends packets
      else if answerable env resp.2 = true ∧ sends.headD (.ok ()) = .ok () then
        authOver env left sends.tail packets
      else true

/-- With `left` attempts left the loop would come to an empty packet anyway, with no handshake
before it; or to an error with the same text. -/
def failsAlike (atEnd : Option IoError) : Nat → List UsbPacket → Bool
  | 0, _ => false
  | _+1, [] => atEnd.any fun e => e.msg = usbNop.msg
  | left+1, p :: packets =>
    match p.result with
    | .error e => e.msg = usbNop.msg
    | .ok resp => resp.2.command ≠ .kernelHandshake && failsAlike atEnd left packets

/-- Only the first nop counts. -/
theorem WithNops.eq_or_first {packets packets' : List UsbPacket} (h : WithNops packets packets') :
    packets' = packets ∨ ∃ front nop rest rest', packets = front ++ rest ∧
      packets' = front ++ nop :: rest' ∧ nop.data = [] := by
  induction h with
  | nil => exact .inl rfl
  | keep p h ih =>
    rcases ih with rfl | ⟨front, nop, rest, rest', rfl, rfl, hnop⟩
    · exact .inl rfl
    · exact .inr ⟨p :: front, nop, rest, rest', rfl, rfl, hnop⟩
  | @insert nop hnop packets packets' h ih =>
    exact .inr ⟨[], nop, packets, packets', rfl, rfl, hnop⟩

section
variable (env : HostEnv) (atEnd : Option IoError)

theorem recvFailed_eq_nopReason {e : IoError} :
    (usbAuthLoop env).recvFailed e = nopReason ↔ e.msg = usbNop.msg := by
  have hnop : nopReason = "auth recv: " ++ usbNop.msg := by decide
  rw [hnop]
  exact String.append_right_inj _

/-- The loop ends like at an empty packet, with nothing sent. -/
theorem usbAuthRun_eq_nop (left : Nat) (st : UsbAuth) (sends : List (IoResult Unit))
    (packets : List UsbPacket) :
    usbAuthRun env (fromPackets atEnd) left st sends packets = (.failed nopReason, []) ↔
      failsAlike atEnd left packets = true := by
  induction packets generalizing left st sends with
  | nil =>
    cases left with
    | zero =>
      exact iff_of_false (by simp [usbAuthRun, usbAuthLoop, nopReason]) Bool.false_ne_true
    | succ left =>
      simp only [usbAuthRun, fromPackets, failsAlike]
      cases atEnd with
      | none =>
        refine iff_of_false ?_ (by simp)
        simp only [waitAtEnd, Prod.mk.injEq, AuthResult.failed.injEq, and_true]
        simp only [usbAuthLoop]
        split <;> decide
      | some e => simp [waitAtEnd, recvFailed_eq_nopReason]
  | cons p packets ih =>
    cases left with
    | zero =>
      exact iff_of_false (by simp [usbAuthRun, usbAuthLoop, nopReason]) Bool.false_ne_true
    | succ left =>
      simp only [usbAuthRun, fromPackets, failsAlike]
      cases p.result with
      | error e => simp [received, recvFailed_eq_nopReason]
      | ok resp =>
        simp only [received]
        cases usbAuthRound_case env st resp (sends.headD (.ok ())) with
        | passed hcommand hreply hround =>
          simp only [hreply, hround, Option.toList_none, List.nil_append]
          rw [Bool.and_eq_true, and_iff_right (by simpa using hcommand)]
          exact ih left st _
        | answered hcommand hasks hsent hreply hround =>
          simp only [hreply, hround]
          simp [hcommand]
        | unsent hcommand hsent hreply hround =>
          simp only [hreply, hround]
          simp [hcommand]
        | authenticated st' hcommand hasks hround =>
          simp only [hround]
          simp [hcommand]
        | failed reason hcommand hasks hreason hround =>
          simp only [hround]
          simp [hcommand, hreason]

/-- One nop, in front of which the loop has read `front`. -/
theorem usbAuthRun_nop_iff {nop : UsbPacket} (hnop : nop.data = [])
    (front rest rest' : List UsbPacket) (left : Nat) (st : UsbAuth) (sends : List (IoResult Unit)) :
    usbAuthRun env (fromPackets atEnd) left st sends (front ++ nop :: rest') =
        usbAuthRun env (fromPackets atEnd) left st sends (front ++ rest) ↔
      authOver env left sends front = true ∨
        failsAlike atEnd (left - front.length) rest = true := by
  induction front generalizing left st sends with
  | nil =>
    cases left with
    | zero => simp [usbAuthRun, authOver]
    | succ left =>
      have hresult : nop.result = .error usbNop := by rw [UsbPacket.result, if_pos hnop]
      have hrun : usbAuthRun env (fromPackets atEnd) (left + 1) st sends (nop :: rest') =
          (.failed nopReason, []) := by
        simp only [usbAuthRun, fromPackets, hresult, received]
        rw [(recvFailed_eq_nopReason env).mpr rfl]
      rw [List.nil_append, List.nil_append, hrun, eq_comm, usbAuthRun_eq_nop]
      simp [authOver]
  | cons p front ih =>
    cases left with
    | zero => simp [usbAuthRun, authOver]
    | succ left =>
      simp only [List.cons_append, usbAuthRun, fromPackets, authOver, List.length_cons,
        Nat.add_sub_add_right]
      cases p.result with
      | error e => simp [received]
      | ok resp =>
        simp only [received]
        cases usbAuthRound_case env st resp (sends.headD (.ok ())) with
        | passed hcommand hreply hround =>
          simp only [hreply, hround, Option.toList_none, List.nil_append, if_pos hcommand,
            Option.isSome_none, Bool.false_eq_true, if_false]
          exact ih left st sends
        | answered hcommand hasks hsent hreply hround =>
          rename_i msg st'
          have hne : ¬ resp.2.command ≠ .kernelHandshake := not_not_intro hcommand
          simp only [hreply, hround, if_neg hne, if_pos (And.intro hasks hsent),
            Option.isSome_some, if_true]
          rw [← ih left st' sends.tail]
          simp [Prod.ext_iff]
        | unsent hcommand hsent hreply hround =>
          simp only [hreply, hround]
          simp only [hsent]
          simp [hcommand]
        | authenticated st' hcommand hasks hround =>
          simp only [hround]
          simp [hcommand, hasks]
        | failed reason hcommand hasks hreason hround =>
          simp only [hround]
          simp [hcommand, hasks]

/-- Empty packets that are put in between those of a device leave the result of the authentication
loop and the messages it sends unchanged exactly if, where the first one is, the loop is over, or
would end in the same way with no handshake before. -/
theorem nops_harmless_iff (st : UsbAuth) (sends : List (IoResult Unit))
    {packets packets' : List UsbPacket} (h : WithNops packets packets') (conn conn' : Chunks UInt8)
    (hconn : conn.bytes = packets.flatMap UsbPacket.bytes)
    (hconn' : conn'.bytes = packets'.flatMap UsbPacket.bytes) :
    usbAuthenticate env atEnd st sends conn' = usbAuthenticate env atEnd st sends conn ↔
      ∀ front nop rest rest', packets = front ++ rest → packets' = front ++ nop :: rest' →
        nop.data = [] → authOver env maxAuthAttempts sends front = true ∨
          failsAlike atEnd (maxAuthAttempts - front.length) rest = true := by
  rw [usbAuthenticate_packets env atEnd st sends packets conn hconn,
    usbAuthenticate_packets env atEnd st sends packets' conn' hconn']
  constructor
  · rintro hsame front nop rest rest' rfl rfl hnop
    exact (usbAuthRun_nop_iff env atEnd hnop front rest rest' _ st sends).mp hsame
  · intro hall
    rcases h.eq_or_first with rfl | ⟨front, nop, rest, rest', rfl, rfl, hnop⟩
    · rfl
    · exact (usbAuthRun_nop_iff env atEnd hnop front rest rest' _ st sends).mpr
        (hall front nop rest rest' rfl rfl hnop)

end

/-- What a device sends that asks for the key and the signature before it lets the host in, as
packets. -/
def admittingPackets : List UsbPacket :=
  [messagePacket 7 (deviceHandshake authTypePublickey "") (by decide),
    messagePacket 7 (deviceHandshake authTypeSignature "challenge") (by decide),
    messagePacket 7 (deviceHandshake authTypeOk "") (by decide)]

/-- Packets as one transfer each. -/
def asTransfers (packets : List UsbPacket) : Chunks UInt8 where
  pieces := packets.map UsbPacket.bytes
  nonempty := by
    intro c hc
    obtain ⟨p, -, rfl⟩ := List.mem_map.mp hc
    exact List.length_pos_iff.mp p.bytes_pos

theorem asTransfers_bytes (packets : List UsbPacket) :
    (asTransfers packets).bytes = packets.flatMap UsbPacket.bytes := List.flatMap_def.symm

/-- The state in which the loop starts. -/
def freshAuth : UsbAuth := ⟨1, usbHandshake 1 "serial", ""⟩

deriving instance DecidableEq for UsbAuth

/-- A reset after the device has let the host in is not read any more. -/
theorem nops_harmless_iff_late :
    WithNops admittingPackets (admittingPackets ++ [.nop usbOptionReset 7]) ∧
    usbAuthenticate plainHost none freshAuth []
        (asTransfers (admittingPackets ++ [.nop usbOptionReset 7])) =
      usbAuthenticate plainHost none freshAuth [] (asTransfers admittingPackets) := by
  have hnops : WithNops admittingPackets (admittingPackets ++ [.nop usbOptionReset 7]) :=
    .keep _ (.keep _ (.keep _ (.insert _ rfl .nil)))
  refine ⟨hnops, (nops_harmless_iff plainHost none freshAuth [] hnops _ _ (asTransfers_bytes _)
    (asTransfers_bytes _)).mpr ?_⟩
  intro front nop rest rest' hfront hnop hempty
  left
  rw [hfront, List.append_assoc] at hnop
  have hrest := List.append_cancel_left hnop
  cases rest with
  | nil =>
    rw [List.append_nil] at hfront
    rw [← hfront]
    decide
  | cons p rest =>
    -- the first difference would be a packet of the device, and none of them is empty
    have hp : p = nop := (List.cons.inj hrest).1
    have hmem : p ∈ admittingPackets := by
      rw [hfront]
      exact List.mem_append_right _ List.mem_cons_self
    have hfull : ∀ q ∈ admittingPackets, q.data ≠ [] := by decide
    exact absurd (hp ▸ hempty) (hfull p hmem)

/-- The dummy header after a packet that fills the endpoint ends the authentication. -/
theorem dummy_fails_authentication :
    (usbAuthenticate plainHost none freshAuth [] (asTransfers admittingPackets)).1 =
      .ok ⟨7, { usbHandshake 7 "serial" with authType := authTypeSignature, buf := "challenge" },
        ""⟩ ∧
    WithNops admittingPackets (.nop 0 7 :: admittingPackets) ∧
    usbAuthenticate plainHost none freshAuth [] (asTransfers (.nop 0 7 :: admittingPackets)) =
      (.failed nopReason, []) := by
  refine ⟨by decide, .insert _ rfl ?_, by decide⟩
  exact .keep _ (.keep _ (.keep _ .nil))

end Hdc
