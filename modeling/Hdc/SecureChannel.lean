import Hdc.Encrypt
import Hdc.Lts
import Hdc.Tcp
import Mathlib.Data.List.Forall2

/- The TCP session between host and daemon with a PSK cipher at each end
   (`TcpMap::send_to_session` and `recv_tcp_frame` in `hdc/src/server.rs`,
   `send_message` and `unpack_task_message` in `hdcd/src/transfer/tcp.rs`).

   `secureStep` interleaves the sends and receives of both sides over two byte
   streams, each receive reading its stream in whatever pieces it arrives.
   Abstractly each direction is a queue of messages; `Carries` is what ties a
   byte stream to the messages still in it, one encrypted frame for each, and it
   is kept by every step (`secureStep_keeps`). `secure_channel_transparent`
   reads off what the two sides see. -/
namespace Hdc
open Rust Wire Feed Lts

section
variable (aes : Aes128Gcm)

/-! The two ends. -/

/-- What either side writes for a packet: the packet itself, or the length and
the bytes of an encrypted frame when the session has a cipher. The cipher after
it is returned. -/
def writeFrame (cipher : Option PskCipher) (data : List UInt8) :
    IoResult (List UInt8 × Option PskCipher) :=
  match cipher with
  | none => .ok (data, none)
  | some cipher => do
    let (ct, cipher) ← cipher.encrypt aes data
    return (be 4 ct.length ++ ct, some cipher)

/-- `TcpMap::send_to_session` of the host, for a session that has a writer. -/
def sendToSession (cipher : Option PskCipher) (data : List UInt8) :
    IoResult (List UInt8 × Option PskCipher) :=
  writeFrame aes cipher data

/-- `send_message` of the daemon. -/
def sendMessage (cipher : Option PskCipher) (msg : TaskMessage) :
    IoResult (List UInt8 × Option PskCipher) :=
  writeFrame aes cipher (concatPack msg)

/-- Reading one encrypted frame, the same text at both ends. -/
def recvEncrypted (cipher : PskCipher) (rd : Chunks UInt8) :
    IoResult ((List UInt8 × PskCipher) × Chunks UInt8) := do
  let (lenBytes, rd) ← readFrame rd 4
  let (ct, rd) ← readFrame rd (ofBe lenBytes)
  let (frame, cipher) ← cipher.decrypt aes ct
  return ((frame, cipher), rd)

/-- `recv_raw_hdc_frame` of the host: as `recvRawFrame`, without the size check. -/
def recvRawHdcFrame (rd : Chunks UInt8) : IoResult (List UInt8 × Chunks UInt8) := do
  let (head, rd) ← readFrame rd headSize
  let payloadHead ← unpackPayloadHead head
  let (protect, rd) ← readFrame rd payloadHead.headSize.toNat
  let (payload, rd) ← readFrame rd payloadHead.dataSize.toNat
  return (head ++ protect ++ payload, rd)

/-- `recv_tcp_frame` of the host. -/
def recvTcpFrame (cipher : Option PskCipher) (rd : Chunks UInt8) :
    IoResult ((List UInt8 × Option PskCipher) × Chunks UInt8) :=
  match cipher with
  | some cipher => do
    let ((frame, cipher), rd) ← recvEncrypted aes cipher rd
    return ((frame, some cipher), rd)
  | none => do
    let (frame, rd) ← recvRawHdcFrame rd
    return ((frame, none), rd)

/-- `recv_tcp_frame` and the shared decoder, as the host's session loop calls
them. -/
def hostRecvMessage (cipher : Option PskCipher) (rd : Chunks UInt8) :
    IoResult ((TaskMessage × Option PskCipher) × Chunks UInt8) := do
  let ((frame, cipher), rd) ← recvTcpFrame aes cipher rd
  let msg ← unpackTaskMessage frame
  return ((msg, cipher), rd)

/-- The `frame` of the daemon's `unpack_task_message`. -/
def daemonRecvFrame (cipher : Option PskCipher) (rd : Chunks UInt8) :
    IoResult ((List UInt8 × Option PskCipher) × Chunks UInt8) :=
  match cipher with
  | some cipher => do
    let ((frame, cipher), rd) ← recvEncrypted aes cipher rd
    return ((frame, some cipher), rd)
  | none => do
    let (frame, rd) ← recvRawFrame rd
    return ((frame, none), rd)

/-- `unpack_task_message` of the daemon. -/
def daemonUnpackTaskMessage (cipher : Option PskCipher) (rd : Chunks UInt8) :
    IoResult ((TaskMessage × Option PskCipher) × Chunks UInt8) := do
  let ((frame, cipher), rd) ← daemonRecvFrame aes cipher rd
  let msg ← unpackTaskMessage frame
  return ((msg, cipher), rd)

/-! The system. -/

/-- Both ciphers, the bytes written and not yet read in each direction, and what
each side has sent and received. -/
structure SecureState where
  host : PskCipher
  daemon : PskCipher
  toDaemon : List UInt8
  toHost : List UInt8
  hostSent : List TaskMessage
  daemonReceived : List TaskMessage
  daemonSent : List TaskMessage
  hostReceived : List TaskMessage
  deriving DecidableEq

def SecureState.init (psk : Psk) : SecureState where
  host := PskCipher.new psk true
  daemon := PskCipher.new psk false
  toDaemon := []
  toHost := []
  hostSent := []
  daemonReceived := []
  daemonSent := []
  hostReceived := []

/-- A receive names the pieces in which the bytes before it arrive. -/
inductive SecureAct where
  | hostSend (msg : TaskMessage)
  | daemonSend (msg : TaskMessage)
  | daemonRecv (rd : Chunks UInt8)
  | hostRecv (rd : Chunks UInt8)

/-- One call at one end. A call that fails, or a receive that would still be
waiting for bytes, is no step. -/
def secureStep (s : SecureState) : SecureAct → Option SecureState
  | .hostSend msg =>
    match sendToSession aes (some s.host) (concatPack msg) with
    | .ok (bytes, some host) =>
      some { s with host, toDaemon := s.toDaemon ++ bytes, hostSent := s.hostSent ++ [msg] }
    | _ => none
  | .daemonSend msg =>
    match sendMessage aes (some s.daemon) msg with
    | .ok (bytes, some daemon) =>
      some { s with daemon, toHost := s.toHost ++ bytes, daemonSent := s.daemonSent ++ [msg] }
    | _ => none
  | .daemonRecv rd =>
    if rd.bytes = s.toDaemon then
      match daemonUnpackTaskMessage aes (some s.daemon) rd with
      | .ok ((msg, some daemon), rd) =>
        some { s with daemon, toDaemon := rd.bytes, daemonReceived := s.daemonReceived ++ [msg] }
      | _ => none
    else none
  | .hostRecv rd =>
    if rd.bytes = s.toHost then
      match hostRecvMessage aes (some s.host) rd with
      | .ok ((msg, some host), rd) =>
        some { s with host, toHost := rd.bytes, hostReceived := s.hostReceived ++ [msg] }
      | _ => none
    else none

end

/-- The messages sent by a step are within the packet size limit. -/
def WithinLimit (_ : SecureState) : SecureAct → Prop
  | .hostSend msg | .daemonSend msg => packetSize msg ≤ hdcBufMaxSize
  | .daemonRecv _ | .hostRecv _ => True

instance (s : SecureState) : ∀ a : SecureAct, Decidable (WithinLimit s a)
  | .hostSend msg | .daemonSend msg => inferInstanceAs (Decidable (packetSize msg ≤ hdcBufMaxSize))
  | .daemonRecv _ | .hostRecv _ => inferInstanceAs (Decidable True)

section
variable {aes : Aes128Gcm}

/-! One frame. -/

/-- The bytes that carry `data` encrypted under `key`: length, counter and
ciphertext, for some counter. -/
def EncryptedAs (aes : Aes128Gcm) (key : ByteArrayOf keyLen) (data frame : List UInt8) : Prop :=
  8 + (data.length + tagLen) < 2^32 ∧ ∃ (counter : UInt64) (ct : List UInt8),
    aes.encrypt key (counterToNonce counter) data = some ct ∧
    frame = be 4 (be 8 counter.toNat ++ ct).length ++ (be 8 counter.toNat ++ ct)

theorem writeFrame_encrypted (aes : Aes128Gcm) (cipher : PskCipher) {data : List UInt8}
    (hlen : 8 + (data.length + tagLen) < 2^32) :
    ∃ frame, EncryptedAs aes cipher.sendKey data frame ∧ writeFrame aes (some cipher) data =
      .ok (frame, some { cipher with sendCounter := cipher.sendCounter + 1 }) := by
  obtain ⟨ct, -, henc⟩ := cipher.exists_encrypt aes data (by omega)
  obtain ⟨ct', henc', hframe, -⟩ := PskCipher.encrypt_eq_ok henc
  have hct : ct' = ct := (List.append_cancel_left hframe).symm
  subst hct
  exact ⟨_, ⟨hlen, cipher.sendCounter, ct', henc', rfl⟩, by simp only [writeFrame, henc, ok_bind]; rfl⟩

theorem EncryptedAs.ne_nil {key : ByteArrayOf keyLen} {data frame : List UInt8}
    (h : EncryptedAs aes key data frame) : frame ≠ [] := by
  obtain ⟨-, counter, ct, -, rfl⟩ := h
  intro hnil
  have := congrArg List.length hnil
  simp at this

/-- A frame at the front of a stream is decrypted under the same key, however it
arrives, and only the receive counter changes. -/
theorem recvEncrypted_frame {key : ByteArrayOf keyLen} {data frame rest : List UInt8}
    (h : EncryptedAs aes key data frame) {cipher : PskCipher} (hkey : cipher.recvKey = key)
    {rd : Chunks UInt8} (hrd : rd.bytes = frame ++ rest) :
    ∃ counter rd', rd'.bytes = rest ∧
      recvEncrypted aes cipher rd = .ok ((data, { cipher with recvCounter := counter }), rd') := by
  obtain ⟨hlen, counter, ct, henc, rfl⟩ := h
  have hct := aes.encrypt_length henc
  rw [List.append_assoc] at hrd
  obtain ⟨rd₁, hr₁, hb₁⟩ := readFrame_append hrd
  obtain ⟨rd₂, hr₂, hb₂⟩ := readFrame_append hb₁
  have hprefix : ofBe (be 4 (be 8 counter.toNat ++ ct).length) = (be 8 counter.toNat ++ ct).length := by
    apply ofBe_be
    rw [List.length_append, be_length, hct]
    exact Nat.lt_of_lt_of_eq hlen (by decide)
  rw [be_length] at hr₁
  rw [← hprefix] at hr₂
  rw [← hkey] at henc
  have hdec := PskCipher.decrypt_ciphertext henc
  refine ⟨counter + 1, rd₂, hb₂, ?_⟩
  simp only [recvEncrypted, hr₁, ok_bind, hr₂, hdec, pure_eq_ok]

/-- With a cipher the two ends read alike. -/
theorem hostRecvMessage_some (cipher : PskCipher) (rd : Chunks UInt8) :
    hostRecvMessage aes (some cipher) rd = daemonUnpackTaskMessage aes (some cipher) rd := rfl

theorem daemonUnpackTaskMessage_of_recv {cipher cipher' : PskCipher} {rd rd' : Chunks UInt8}
    {frame : List UInt8} (h : recvEncrypted aes cipher rd = .ok ((frame, cipher'), rd')) :
    daemonUnpackTaskMessage aes (some cipher) rd =
      (unpackTaskMessage frame).map fun msg => ((msg, some cipher'), rd') := by
  simp only [daemonUnpackTaskMessage, daemonRecvFrame, h, ok_bind, pure_eq_ok]
  cases unpackTaskMessage frame <;> rfl

theorem daemonUnpackTaskMessage_frame {key : ByteArrayOf keyLen} {msg : TaskMessage}
    {frame rest : List UInt8} (hm : packetSize msg ≤ hdcBufMaxSize)
    (h : EncryptedAs aes key (concatPack msg) frame) {cipher : PskCipher}
    (hkey : cipher.recvKey = key) {rd : Chunks UInt8} (hrd : rd.bytes = frame ++ rest) :
    ∃ counter rd', rd'.bytes = rest ∧ daemonUnpackTaskMessage aes (some cipher) rd =
      .ok ((msg, some { cipher with recvCounter := counter }), rd') := by
  obtain ⟨counter, rd', hb, hr⟩ := recvEncrypted_frame h hkey hrd
  have hu := unpackTaskMessage_packFrame msg hm []
  rw [List.append_nil, packFrame_bytes] at hu
  refine ⟨counter, rd', hb, ?_⟩
  rw [daemonUnpackTaskMessage_of_recv hr, hu]
  rfl

/-- A stream that has ended is the only one without a frame. -/
theorem daemonUnpackTaskMessage_nil (cipher : PskCipher) {rd : Chunks UInt8} (hrd : rd.bytes = []) :
    daemonUnpackTaskMessage aes (some cipher) rd = .error peerShutdown := by
  have hr : readFrame rd 4 = .error peerShutdown := readFrame_short (by simp [hrd])
  simp only [daemonUnpackTaskMessage, daemonRecvFrame, recvEncrypted, hr, error_bind]

/-! One direction. -/

/-- The bytes of `wire` are the encrypted frames of the messages sent and not yet
received. -/
def Carries (aes : Aes128Gcm) (key : ByteArrayOf keyLen) (wire : List UInt8)
    (sent received : List TaskMessage) : Prop :=
  ∃ pending frames, sent = received ++ pending ∧
    List.Forall₂ (fun msg frame => packetSize msg ≤ hdcBufMaxSize ∧
      EncryptedAs aes key (concatPack msg) frame) pending frames ∧
    wire = frames.flatten

theorem Carries.nil (key : ByteArrayOf keyLen) : Carries aes key [] [] [] :=
  ⟨[], [], rfl, .nil, rfl⟩

theorem Carries.send {key : ByteArrayOf keyLen} {wire frame : List UInt8}
    {sent received : List TaskMessage} {msg : TaskMessage} (h : Carries aes key wire sent received)
    (hm : packetSize msg ≤ hdcBufMaxSize) (hf : EncryptedAs aes key (concatPack msg) frame) :
    Carries aes key (wire ++ frame) (sent ++ [msg]) received := by
  obtain ⟨pending, frames, rfl, hall, rfl⟩ := h
  refine ⟨pending ++ [msg], frames ++ [frame], by rw [List.append_assoc], ?_, by simp⟩
  exact List.rel_append hall (.cons ⟨hm, hf⟩ .nil)

/-- What a receive finds: nothing left of what was sent, or the next message. -/
theorem Carries.recv {key : ByteArrayOf keyLen} {wire : List UInt8}
    {sent received : List TaskMessage} (h : Carries aes key wire sent received)
    {cipher : PskCipher} (hkey : cipher.recvKey = key) {rd : Chunks UInt8} (hrd : rd.bytes = wire) :
    (wire = [] ∧ received = sent) ∨
    ∃ msg counter rd', daemonUnpackTaskMessage aes (some cipher) rd =
        .ok ((msg, some { cipher with recvCounter := counter }), rd') ∧
      received ++ [msg] <+: sent ∧ Carries aes key rd'.bytes sent (received ++ [msg]) := by
  obtain ⟨pending, frames, rfl, hall, rfl⟩ := h
  cases hall with
  | nil => exact .inl ⟨rfl, by simp⟩
  | @cons msg frame pending frames hhead htail =>
    rw [List.flatten_cons] at hrd
    obtain ⟨counter, rd', hb, hu⟩ := daemonUnpackTaskMessage_frame hhead.1 hhead.2 hkey hrd
    refine .inr ⟨msg, counter, rd', hu, ⟨pending, by simp⟩, pending, frames, by simp, htail, hb⟩

theorem Carries.isPrefix {key : ByteArrayOf keyLen} {wire : List UInt8}
    {sent received : List TaskMessage} (h : Carries aes key wire sent received) :
    received <+: sent := by
  obtain ⟨pending, -, rfl, -, -⟩ := h
  exact List.prefix_append _ _

/-- Nothing is in flight only when everything has been received. -/
theorem Carries.drained {key : ByteArrayOf keyLen} {sent received : List TaskMessage}
    (h : Carries aes key [] sent received) : received = sent := by
  obtain ⟨pending, frames, rfl, hall, hnil⟩ := h
  cases hall with
  | nil => simp
  | cons hhead _ =>
    rw [List.flatten_cons] at hnil
    exact absurd (List.append_eq_nil_iff.mp hnil.symm).1 hhead.2.ne_nil

/-! Both directions, over whole runs. -/

/-- The keys match crosswise and each direction carries what was sent on it. -/
structure SecureInv (aes : Aes128Gcm) (s : SecureState) : Prop where
  daemonKey : s.daemon.recvKey = s.host.sendKey
  hostKey : s.host.recvKey = s.daemon.sendKey
  toDaemon : Carries aes s.host.sendKey s.toDaemon s.hostSent s.daemonReceived
  toHost : Carries aes s.daemon.sendKey s.toHost s.daemonSent s.hostReceived

theorem SecureInv.init (psk : Psk) : SecureInv aes (SecureState.init psk) :=
  ⟨rfl, rfl, .nil _, .nil _⟩

/-- A packet within the limit can be encrypted and its length sent in four
bytes. -/
theorem concatPack_fits {msg : TaskMessage} (hm : packetSize msg ≤ hdcBufMaxSize) :
    8 + ((concatPack msg).length + tagLen) < 2^32 := by
  rw [concatPack_length]
  simp only [hdcBufMaxSize, headSize, tagLen] at *
  omega

theorem secureStep_keeps {s s' : SecureState} {a : SecureAct} (hinv : SecureInv aes s)
    (hok : WithinLimit s a) (h : secureStep aes s a = some s') : SecureInv aes s' := by
  cases a with
  | hostSend msg =>
    obtain ⟨frame, henc, hw⟩ := writeFrame_encrypted aes s.host (concatPack_fits hok)
    simp only [secureStep, sendToSession, hw, Option.some.injEq] at h
    subst h
    exact { hinv with toDaemon := hinv.toDaemon.send hok henc }
  | daemonSend msg =>
    obtain ⟨frame, henc, hw⟩ := writeFrame_encrypted aes s.daemon (concatPack_fits hok)
    simp only [secureStep, sendMessage, hw, Option.some.injEq] at h
    subst h
    exact { hinv with toHost := hinv.toHost.send hok henc }
  | daemonRecv rd =>
    simp only [secureStep] at h
    split at h
    · rename_i hrd
      rcases hinv.toDaemon.recv hinv.daemonKey hrd with ⟨hnil, -⟩ | ⟨msg, counter, rd', hu, -, hc⟩
      · rw [daemonUnpackTaskMessage_nil _ (hrd.trans hnil)] at h
        cases h
      · simp only [hu, Option.some.injEq] at h
        subst h
        exact { hinv with toDaemon := hc }
    · cases h
  | hostRecv rd =>
    simp only [secureStep, hostRecvMessage_some] at h
    split at h
    · rename_i hrd
      rcases hinv.toHost.recv hinv.hostKey hrd with ⟨hnil, -⟩ | ⟨msg, counter, rd', hu, -, hc⟩
      · rw [daemonUnpackTaskMessage_nil _ (hrd.trans hnil)] at h
        cases h
      · simp only [hu, Option.some.injEq] at h
        subst h
        exact { hinv with toHost := hc }
    · cases h

/-- What each side sees of the other: the messages received so far are the first
ones sent, the next receive returns the next one however its bytes arrive, and
when nothing is in flight everything sent has been received. -/
structure Transparent (aes : Aes128Gcm) (s : SecureState) : Prop where
  daemon_first : s.daemonReceived <+: s.hostSent
  daemon_next : ∀ rd : Chunks UInt8, rd.bytes = s.toDaemon → s.daemonReceived ≠ s.hostSent →
    ∃ msg cipher rd', daemonUnpackTaskMessage aes (some s.daemon) rd = .ok ((msg, cipher), rd') ∧
      s.daemonReceived ++ [msg] <+: s.hostSent
  daemon_drained : s.toDaemon = [] → s.daemonReceived = s.hostSent
  host_first : s.hostReceived <+: s.daemonSent
  host_next : ∀ rd : Chunks UInt8, rd.bytes = s.toHost → s.hostReceived ≠ s.daemonSent →
    ∃ msg cipher rd', hostRecvMessage aes (some s.host) rd = .ok ((msg, cipher), rd') ∧
      s.hostReceived ++ [msg] <+: s.daemonSent
  host_drained : s.toHost = [] → s.hostReceived = s.daemonSent

theorem SecureInv.transparent {s : SecureState} (h : SecureInv aes s) : Transparent aes s where
  daemon_first := h.toDaemon.isPrefix
  daemon_next := by
    intro rd hrd hne
    rcases h.toDaemon.recv h.daemonKey hrd with ⟨-, heq⟩ | ⟨msg, counter, rd', hu, hnext, -⟩
    · exact absurd heq hne
    · exact ⟨msg, _, rd', hu, hnext⟩
  daemon_drained := by
    intro hnil
    have hc := h.toDaemon
    rw [hnil] at hc
    exact hc.drained
  host_first := h.toHost.isPrefix
  host_next := by
    intro rd hrd hne
    rw [hostRecvMessage_some]
    rcases h.toHost.recv h.hostKey hrd with ⟨-, heq⟩ | ⟨msg, counter, rd', hu, hnext, -⟩
    · exact absurd heq hne
    · exact ⟨msg, _, rd', hu, hnext⟩
  host_drained := by
    intro hnil
    have hc := h.toHost
    rw [hnil] at hc
    exact hc.drained

end

/-- With the two halves of one PSK at the two ends, every interleaving of sends
and receives of messages within the size limit, in both directions and over
streams that arrive in any pieces, delivers the messages as they were sent. -/
theorem secure_channel_transparent (aes : Aes128Gcm) (psk : Psk) (s : SecureState)
    (h : Reaches (secureStep aes) WithinLimit (SecureState.init psk) s) : Transparent aes s :=
  (h.invariant secureStep_keeps (SecureInv.init psk)).transparent

/-- A run of two sends and a receive whose frame arrives in two pieces. -/
def exampleSecureRun : Option SecureState :=
  let msg : TaskMessage := ⟨7, .kernelEcho, [65]⟩
  let ct := (exampleAes.encrypt examplePsk.firstHalf (counterToNonce 0) (concatPack msg)).getD []
  let wire := be 4 (8 + ct.length) ++ (be 8 0 ++ ct)
  run (secureStep exampleAes) WithinLimit (SecureState.init examplePsk)
    [.hostSend msg, .daemonSend msg, .daemonRecv ⟨[wire.take 5, wire.drop 5], by decide⟩]

theorem secure_channel_transparent_run :
    (exampleSecureRun.get (by decide)).daemonReceived = [⟨7, .kernelEcho, [65]⟩] ∧
    Transparent exampleAes (exampleSecureRun.get (by decide)) :=
  ⟨by decide, secure_channel_transparent exampleAes examplePsk _
    (.of_run (Option.some_get (x := exampleSecureRun) (by decide)).symm)⟩

/-- A message past the size limit is sent, and the daemon refuses it. -/
theorem oversize_not_transparent (aes : Aes128Gcm) (psk : Psk) (msg : TaskMessage)
    (hbig : hdcBufMaxSize < packetSize msg) (hpayload : msg.payload.length < 2^32)
    (hfits : 8 + ((concatPack msg).length + tagLen) < 2^32) :
    ∃ s, Reaches (secureStep aes) anyStep (SecureState.init psk) s ∧ ¬ Transparent aes s := by
  obtain ⟨frame, henc, hw⟩ := writeFrame_encrypted aes (PskCipher.new psk true) hfits
  refine ⟨_, .tail (a := .hostSend msg) .refl trivial
    (by simp only [secureStep, sendToSession, SecureState.init, hw]; rfl), fun ht => ?_⟩
  let rd : Chunks UInt8 := ⟨[frame], by simpa using henc.ne_nil⟩
  have hrd : rd.bytes = frame ++ [] := by simp [rd, Chunks.bytes]
  have hkey : (PskCipher.new psk false).recvKey = (PskCipher.new psk true).sendKey :=
    PskCipher.new_recvKey psk true
  obtain ⟨counter, rd', -, hr⟩ := recvEncrypted_frame henc hkey hrd
  obtain ⟨msg', cipher, rd'', hu, -⟩ := ht.daemon_next rd (by simpa using hrd) (by simp)
  rw [daemonUnpackTaskMessage_of_recv hr, unpackTaskMessage_oversize msg hbig hpayload] at hu
  cases hu

/-- A message with 2^31 bytes of payload. -/
def hugeMessage : TaskMessage := ⟨1, .kernelEcho, List.replicate (2^31) 0⟩

theorem huge_message_refused :
    ∃ s, Reaches (secureStep exampleAes) anyStep (SecureState.init examplePsk) s ∧
      ¬ Transparent exampleAes s := by
  have hpayload : hugeMessage.payload.length = 2^31 := List.length_replicate
  have hprotect := (protectOf hugeMessage).serialize_length_le
  have hsize : packetSize hugeMessage = (protectOf hugeMessage).serialize.length + 2^31 := by
    rw [packetSize, hpayload]
  apply oversize_not_transparent exampleAes examplePsk hugeMessage
  · rw [hsize, hdcBufMaxSize]
    omega
  · rw [hpayload]
    omega
  · rw [concatPack_length, hsize, headSize, tagLen]
    omega

end Hdc
