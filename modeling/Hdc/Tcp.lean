import Hdc.Feed
import Hdc.Packet

/- Reading packets from a TCP stream: the host's decoder of the handshake
   phase (`hdc/src/transfer/tcp.rs`), the host's session reader
   (`hdc/src/server.rs`) and the daemon's reader (`hdcd/src/transfer/tcp.rs`).
   The stream is a `Feed.Chunks`, so every statement holds however the network
   cuts the bytes into reads.

   Each reader has one
   lemma for a complete frame at the front of the stream and one for a stream
   that ends inside it; `streams_decode` puts them together over whole streams. -/
namespace Hdc
open Rust Wire Feed

/-- The loop that fills a buffer, shared by the readers of the source up to
the error `eof` they report when the stream is closed; an expected size of zero
is answered without reading. -/
def readExpected (eof : IoError) (rd : Chunks UInt8) (expectedSize : Nat) :
    IoResult (List UInt8 × Chunks UInt8) :=
  if expectedSize = 0 then .ok ([], rd)
  else match rd.readExact expectedSize with
    | some (data, rd) => .ok (data, rd)
    | none => .error eof

def peerShutdown : IoError := ⟨.connectionAborted, "peer shutdown"⟩

/-- `read_frame`, the same text in the host and in the daemon. -/
def readFrame : Chunks UInt8 → Nat → IoResult (List UInt8 × Chunks UInt8) :=
  readExpected peerShutdown

/-- `transfer::tcp::unpack_task_message` of the host: the verification code is
not looked at, and the payload is read last. -/
def hostUnpackTaskMessage (rd : Chunks UInt8) : IoResult (TaskMessage × Chunks UInt8) := do
  let (data, rd) ← readFrame rd headSize
  let payloadHead ← unpackPayloadHead data
  let expectedHeadSize := payloadHead.headSize.toNat
  let expectedDataSize := payloadHead.dataSize.toNat
  if expectedHeadSize + expectedDataSize = 0 ∨
      expectedHeadSize + expectedDataSize > hdcBufMaxSize then
    invalidData "Packet size incorrect"
  else
    let (data, rd) ← readFrame rd expectedHeadSize
    let payloadProtect ← unpackPayloadProtect data
    let command ← commandOf payloadProtect.commandFlag
    let (payload, rd) ← readFrame rd expectedDataSize
    return ({ channelId := payloadProtect.channelId, command, payload }, rd)

/-- `recv_raw_frame` of the daemon. -/
def recvRawFrame (rd : Chunks UInt8) : IoResult (List UInt8 × Chunks UInt8) := do
  let (head, rd) ← readFrame rd headSize
  let payloadHead ← unpackPayloadHead head
  let expectedHeadSize := payloadHead.headSize.toNat
  let expectedDataSize := payloadHead.dataSize.toNat
  if expectedHeadSize + expectedDataSize = 0 ∨
      expectedHeadSize + expectedDataSize > hdcBufMaxSize then
    invalidData "Packet size incorrect"
  else
    let (protect, rd) ← readFrame rd expectedHeadSize
    let (payload, rd) ← readFrame rd expectedDataSize
    return (head ++ protect ++ payload, rd)

/-- `unpack_task_message` of the daemon on a connection without a cipher. -/
def daemonUnpackPlain (rd : Chunks UInt8) : IoResult (TaskMessage × Chunks UInt8) := do
  let (frame, rd) ← recvRawFrame rd
  let msg ← unpackTaskMessage frame
  return (msg, rd)

/-! Filling a buffer. -/

theorem readExpected_append (eof : IoError) {rd : Chunks UInt8} {front rest : List UInt8}
    (h : rd.bytes = front ++ rest) :
    ∃ rd', readExpected eof rd front.length = .ok (front, rd') ∧ rd'.bytes = rest := by
  unfold readExpected
  split
  · rename_i h0
    rw [List.length_eq_zero_iff] at h0
    subst h0
    exact ⟨rd, rfl, h⟩
  · obtain ⟨rd', hr, hb⟩ := Chunks.readExact_append h
    exact ⟨rd', by rw [hr], hb⟩

theorem readExpected_short (eof : IoError) {rd : Chunks UInt8} {n : Nat} (h : rd.bytes.length < n) :
    readExpected eof rd n = .error eof := by
  unfold readExpected
  rw [if_neg (by omega), Chunks.readExact_of_lt h]

theorem readFrame_append {rd : Chunks UInt8} {front rest : List UInt8}
    (h : rd.bytes = front ++ rest) :
    ∃ rd', readFrame rd front.length = .ok (front, rd') ∧ rd'.bytes = rest :=
  readExpected_append peerShutdown h

theorem readFrame_short {rd : Chunks UInt8} {n : Nat} (h : rd.bytes.length < n) :
    readFrame rd n = .error peerShutdown :=
  readExpected_short peerShutdown h

/-! A complete frame at the front. -/

/-- The three reads every decoder makes of a frame, and what they leave. -/
theorem readFrame_parts (head : PayloadHead) (protect payload : List UInt8) {rd : Chunks UInt8}
    {rest : List UInt8} (h : rd.bytes = head.serialize ++ protect ++ payload ++ rest) :
    ∃ rd₁ rd₂ rd₃, readFrame rd headSize = .ok (head.serialize, rd₁) ∧
      readFrame rd₁ protect.length = .ok (protect, rd₂) ∧
      readFrame rd₂ payload.length = .ok (payload, rd₃) ∧ rd₃.bytes = rest := by
  rw [List.append_assoc, List.append_assoc] at h
  obtain ⟨rd₁, hr₁, hb₁⟩ := readFrame_append h
  obtain ⟨rd₂, hr₂, hb₂⟩ := readFrame_append hb₁
  obtain ⟨rd₃, hr₃, hb₃⟩ := readFrame_append hb₂
  rw [PayloadHead.serialize_length] at hr₁
  exact ⟨rd₁, rd₂, rd₃, hr₁, hr₂, hr₃, hb₃⟩

theorem Frame.unpackPayloadHead (f : Frame) : unpackPayloadHead f.head.serialize = .ok f.head := by
  have h := unpackPayloadHead_serialize f.head f.flag_eq []
  rwa [List.append_nil] at h

theorem Frame.size_ok (f : Frame) : ¬ (f.protect.length + f.payload.length = 0 ∨
    f.protect.length + f.payload.length > hdcBufMaxSize) := by
  have := f.size_pos
  have := f.size_le
  omega

/-- The host's judgement of a protect block: as `acceptProtect`, without the
verification code. -/
def hostAcceptProtect (protect payload : List UInt8) : IoResult TaskMessage := do
  let payloadProtect ← unpackPayloadProtect protect
  let command ← commandOf payloadProtect.commandFlag
  return { channelId := payloadProtect.channelId, command, payload }

theorem hostUnpackTaskMessage_frame (f : Frame) {rd : Chunks UInt8} {rest : List UInt8}
    (h : rd.bytes = f.bytes ++ rest) :
    ∃ rd', rd'.bytes = rest ∧
      hostUnpackTaskMessage rd = (hostAcceptProtect f.protect f.payload).map (·, rd') := by
  obtain ⟨rd₁, rd₂, rd₃, hr₁, hr₂, hr₃, hb⟩ := readFrame_parts f.head f.protect f.payload h
  refine ⟨rd₃, hb, ?_⟩
  simp only [hostUnpackTaskMessage, hr₁, ok_bind, f.unpackPayloadHead, f.headSize_eq,
    f.dataSize_eq, if_neg f.size_ok, hr₂, hostAcceptProtect]
  -- the payload is read only after the protect block has been accepted
  cases unpackPayloadProtect f.protect with
  | error e => rfl
  | ok pp =>
    simp only [ok_bind]
    cases commandOf pp.commandFlag with
    | error e => rfl
    | ok c => simp only [ok_bind, hr₃]; rfl

theorem recvRawFrame_frame (f : Frame) {rd : Chunks UInt8} {rest : List UInt8}
    (h : rd.bytes = f.bytes ++ rest) :
    ∃ rd', rd'.bytes = rest ∧ recvRawFrame rd = .ok (f.bytes, rd') := by
  obtain ⟨rd₁, rd₂, rd₃, hr₁, hr₂, hr₃, hb⟩ := readFrame_parts f.head f.protect f.payload h
  refine ⟨rd₃, hb, ?_⟩
  simp only [recvRawFrame, hr₁, ok_bind, f.unpackPayloadHead, f.headSize_eq, f.dataSize_eq,
    if_neg f.size_ok, hr₂, hr₃]
  rfl

/-- The host accepts the protect block of every packed message. -/
theorem hostAcceptProtect_protectOf (msg : TaskMessage) :
    hostAcceptProtect (protectOf msg).serialize msg.payload = .ok msg := by
  simp only [hostAcceptProtect, unpackPayloadProtect, protectOf_deserialize, ok_bind,
    commandOf_protectOf]
  rfl

theorem hostUnpackTaskMessage_pack {msg : TaskMessage} (hm : packetSize msg ≤ hdcBufMaxSize)
    {rd : Chunks UInt8} {rest : List UInt8} (h : rd.bytes = concatPack msg ++ rest) :
    ∃ rd', hostUnpackTaskMessage rd = .ok (msg, rd') ∧ rd'.bytes = rest := by
  obtain ⟨rd', hb, hd⟩ := hostUnpackTaskMessage_frame (packFrame msg hm) h
  refine ⟨rd', ?_, hb⟩
  rw [hd]
  show (hostAcceptProtect (protectOf msg).serialize msg.payload).map (·, rd') = _
  rw [hostAcceptProtect_protectOf]
  rfl

theorem daemonUnpackPlain_of {rd rd' : Chunks UInt8} {frame : List UInt8} {msg : TaskMessage}
    (hr : recvRawFrame rd = .ok (frame, rd')) (hu : unpackTaskMessage frame = .ok msg) :
    daemonUnpackPlain rd = .ok (msg, rd') := by
  simp only [daemonUnpackPlain, hr, ok_bind, hu, pure_eq_ok]

theorem daemonUnpackPlain_pack {msg : TaskMessage} (hm : packetSize msg ≤ hdcBufMaxSize)
    {rd : Chunks UInt8} {rest : List UInt8} (h : rd.bytes = concatPack msg ++ rest) :
    ∃ rd', daemonUnpackPlain rd = .ok (msg, rd') ∧ rd'.bytes = rest := by
  rw [← packFrame_bytes msg hm] at h
  obtain ⟨rd', hb, hd⟩ := recvRawFrame_frame (packFrame msg hm) h
  have hu := unpackTaskMessage_packFrame msg hm []
  rw [List.append_nil] at hu
  exact ⟨rd', daemonUnpackPlain_of hd hu, hb⟩

/-! A stream that ends inside a frame. -/

/-- Where a byte string that lost its end was cut. -/
theorem cut_append {xs lost a b : List UInt8} (h : xs ++ lost = a ++ b) :
    xs.length < a.length ∨ ∃ front, xs = a ++ front ∧ front ++ lost = b := by
  rcases List.append_eq_append_iff.mp h with ⟨as, ha, hl⟩ | ⟨front, hx, hb⟩
  · cases as with
    | nil =>
      right
      exact ⟨[], by simpa using ha.symm, by simpa using hl⟩
    | cons c as =>
      left
      rw [ha]
      simp
  · exact .inr ⟨front, hx, hb.symm⟩

/-- The first of the three reads that finds too little. -/
theorem readFrame_parts_cut (f : Frame) {rd : Chunks UInt8} {lost : List UInt8}
    (hl : lost ≠ []) (h : rd.bytes ++ lost = f.bytes) :
    readFrame rd headSize = .error peerShutdown ∨
    ∃ rd₁, readFrame rd headSize = .ok (f.head.serialize, rd₁) ∧
      (readFrame rd₁ f.protect.length = .error peerShutdown ∨
       ∃ rd₂, readFrame rd₁ f.protect.length = .ok (f.protect, rd₂) ∧
        readFrame rd₂ f.payload.length = .error peerShutdown) := by
  rw [Frame.bytes, List.append_assoc] at h
  rcases cut_append h with hshort | ⟨front, hfront, h⟩
  · rw [PayloadHead.serialize_length] at hshort
    exact .inl (readFrame_short hshort)
  obtain ⟨rd₁, hr₁, hb₁⟩ := readFrame_append hfront
  rw [PayloadHead.serialize_length] at hr₁
  refine .inr ⟨rd₁, hr₁, ?_⟩
  rw [← hb₁] at h
  rcases cut_append h with hshort | ⟨front, hfront, h⟩
  · exact .inl (readFrame_short hshort)
  obtain ⟨rd₂, hr₂, hb₂⟩ := readFrame_append hfront
  refine .inr ⟨rd₂, hr₂, readFrame_short ?_⟩
  have : 0 < lost.length := List.length_pos_iff.mpr hl
  rw [hb₂, ← h, List.length_append]
  omega

theorem recvRawFrame_cut (f : Frame) {rd : Chunks UInt8} {lost : List UInt8}
    (hl : lost ≠ []) (h : rd.bytes ++ lost = f.bytes) :
    recvRawFrame rd = .error peerShutdown := by
  rcases readFrame_parts_cut f hl h with hr₁ | ⟨rd₁, hr₁, hr₂ | ⟨rd₂, hr₂, hr₃⟩⟩
  · simp only [recvRawFrame, hr₁, error_bind]
  · simp only [recvRawFrame, hr₁, ok_bind, f.unpackPayloadHead, f.headSize_eq, f.dataSize_eq,
      if_neg f.size_ok, hr₂, error_bind]
  · simp only [recvRawFrame, hr₁, ok_bind, f.unpackPayloadHead, f.headSize_eq, f.dataSize_eq,
      if_neg f.size_ok, hr₂, hr₃, error_bind]

theorem hostUnpackTaskMessage_cut (f : Frame) {pp : PayloadProtect} {command : HdcCommand}
    (hpp : unpackPayloadProtect f.protect = .ok pp) (hc : commandOf pp.commandFlag = .ok command)
    {rd : Chunks UInt8} {lost : List UInt8} (hl : lost ≠ [])
    (h : rd.bytes ++ lost = f.bytes) :
    hostUnpackTaskMessage rd = .error peerShutdown := by
  rcases readFrame_parts_cut f hl h with hr₁ | ⟨rd₁, hr₁, hr₂ | ⟨rd₂, hr₂, hr₃⟩⟩
  · simp only [hostUnpackTaskMessage, hr₁, error_bind]
  · simp only [hostUnpackTaskMessage, hr₁, ok_bind, f.unpackPayloadHead, f.headSize_eq,
      f.dataSize_eq, if_neg f.size_ok, hr₂, error_bind]
  · simp only [hostUnpackTaskMessage, hr₁, ok_bind, f.unpackPayloadHead, f.headSize_eq,
      f.dataSize_eq, if_neg f.size_ok, hr₂, hpp, hc, hr₃, error_bind]

theorem daemonUnpackPlain_cut {msg : TaskMessage} (hm : packetSize msg ≤ hdcBufMaxSize)
    {rd : Chunks UInt8} {lost : List UInt8} (hl : lost ≠ [])
    (h : rd.bytes ++ lost = concatPack msg) :
    daemonUnpackPlain rd = .error peerShutdown := by
  simp only [daemonUnpackPlain, recvRawFrame_cut (packFrame msg hm) hl h, error_bind]

/-! Whole streams. -/

/-- A stream of packed messages, ending after one of them or inside one, is
decoded by the host and by the daemon to the complete messages in order, and
then the read fails with the peer's shutdown. -/
theorem streams_decode (msgs : List TaskMessage) (hm : ∀ m ∈ msgs, packetSize m ≤ hdcBufMaxSize) :
    (∀ rd : Chunks UInt8, rd.bytes = (msgs.map concatPack).flatten →
      Drains hostUnpackTaskMessage rd msgs peerShutdown ∧
      Drains daemonUnpackPlain rd msgs peerShutdown) ∧
    (∀ (last : TaskMessage) (kept lost : List UInt8), packetSize last ≤ hdcBufMaxSize →
      concatPack last = kept ++ lost → lost ≠ [] →
      ∀ rd : Chunks UInt8, rd.bytes = (msgs.map concatPack).flatten ++ kept →
        Drains hostUnpackTaskMessage rd msgs peerShutdown ∧
        Drains daemonUnpackPlain rd msgs peerShutdown) := by
  have hhost : ∀ m ∈ msgs, ∀ (s : Chunks UInt8) (rest : List UInt8),
      s.bytes = concatPack m ++ rest → ∃ s', hostUnpackTaskMessage s = .ok (m, s') ∧ s'.bytes = rest :=
    fun m hmem s rest h => hostUnpackTaskMessage_pack (hm m hmem) h
  have hdaemon : ∀ m ∈ msgs, ∀ (s : Chunks UInt8) (rest : List UInt8),
      s.bytes = concatPack m ++ rest → ∃ s', daemonUnpackPlain s = .ok (m, s') ∧ s'.bytes = rest :=
    fun m hmem s rest h => daemonUnpackPlain_pack (hm m hmem) h
  have hcut : ∀ (last : TaskMessage) (kept lost : List UInt8), packetSize last ≤ hdcBufMaxSize →
      concatPack last = kept ++ lost → lost ≠ [] →
      ∀ rd : Chunks UInt8, rd.bytes = (msgs.map concatPack).flatten ++ kept →
        Drains hostUnpackTaskMessage rd msgs peerShutdown ∧
        Drains daemonUnpackPlain rd msgs peerShutdown := by
    intro last kept lost hlast hpack hl rd hrd
    refine ⟨Drains.of_encodings hhost ?_ rd hrd, Drains.of_encodings hdaemon ?_ rd hrd⟩
    · intro s hs
      rw [← packFrame_bytes last hlast] at hpack
      exact hostUnpackTaskMessage_cut (packFrame last hlast) (protectOf_deserialize last)
        (commandOf_protectOf last) hl (by rw [hs, hpack])
    · intro s hs
      exact daemonUnpackPlain_cut hlast hl (by rw [hs, hpack])
  refine ⟨fun rd hrd => ?_, hcut⟩
  -- the end of the stream is a packet of which nothing arrived
  exact hcut ⟨0, .kernelHelp, []⟩ [] (concatPack ⟨0, .kernelHelp, []⟩) (by decide) rfl
    (by decide) rd (by simpa using hrd)

/-- One packet, arriving as its first three bytes and the rest. -/
theorem streams_decode_split_echo :
    Drains hostUnpackTaskMessage
      ⟨[(concatPack ⟨7, .kernelEcho, [65]⟩).take 3, (concatPack ⟨7, .kernelEcho, [65]⟩).drop 3],
        by decide⟩
      [⟨7, .kernelEcho, [65]⟩] peerShutdown :=
  ((streams_decode [⟨7, .kernelEcho, [65]⟩] (by decide)).1 _ (by decide)).1

end Hdc
