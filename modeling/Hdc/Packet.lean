import Hdc.Config
import Hdc.RoundTrip

/- Packets (`hdc-protocol/src/serializer.rs`): the fixed 11-byte head, the
   protect block and the payload. `concatPack` builds a packet from a task
   message and `unpackTaskMessage` reads one from the front of a byte string.

   `unpackTaskMessage_frame` is the shape every decoder of a packet reduces to:
   on a head that announces `protect` and `payload`, followed by them, only the
   protect block is left to judge (`acceptProtect`). From it and the round trip
   of `PayloadProtect`, `unpack_concat_pack` says that a packed message is
   unpacked to itself, whatever follows it. In the other direction a packet may
   be written in many ways; `repacking_normalises` says that packing its message
   again gives the shortest of them. -/
namespace Hdc
open Rust Wire

/-- `PayloadHead`, its two-byte arrays as pairs. -/
structure PayloadHead where
  flag : UInt8 × UInt8
  reserve : UInt8 × UInt8
  protocolVer : UInt8
  headSize : UInt16
  dataSize : UInt32
  deriving DecidableEq, Repr

/-- `HEAD_SIZE`. -/
def headSize : Nat := 11

namespace PayloadHead

def serialize (h : PayloadHead) : List UInt8 :=
  [h.flag.1, h.flag.2, h.reserve.1, h.reserve.2, h.protocolVer] ++
    be 2 h.headSize.toNat ++ be 4 h.dataSize.toNat

def deserialize (bytes : List UInt8) : IoResult PayloadHead :=
  match bytes with
  | f0 :: f1 :: r0 :: r1 :: ver :: h0 :: h1 :: d0 :: d1 :: d2 :: d3 :: _ =>
    .ok {
      flag := (f0, f1)
      reserve := (r0, r1)
      protocolVer := ver
      headSize := UInt16.ofNat (ofBe [h0, h1])
      dataSize := UInt32.ofNat (ofBe [d0, d1, d2, d3]) }
  | _ => invalidData "PayloadHead too short"

end PayloadHead

/-- The protect block `concat_pack` writes for a message. -/
def protectOf (msg : TaskMessage) : PayloadProtect where
  channelId := msg.channelId
  commandFlag := msg.command.asU32
  checkSum := if enableIoCheck then msg.payload.foldl (· + ·) 0 else 0
  vCode := payloadVcode

/-- The head `concat_pack` writes for a message. -/
def payloadHeadOf (msg : TaskMessage) : PayloadHead where
  flag := packetFlag
  reserve := (0, 0)
  protocolVer := verProtocol
  headSize := UInt16.ofNat (protectOf msg).serialize.length
  dataSize := UInt32.ofNat msg.payload.length

def concatPack (msg : TaskMessage) : List UInt8 :=
  (payloadHeadOf msg).serialize ++ (protectOf msg).serialize ++ msg.payload

def unpackPayloadHead (data : List UInt8) : IoResult PayloadHead := do
  if data.length < headSize then invalidData "payload head too short"
  else
    let head ← PayloadHead.deserialize (data.take headSize)
    if head.flag ≠ packetFlag then
      let (f0, f1) := head.flag
      invalidData s!"PACKET_FLAG incorrect: expected [72, 87], got [{f0}, {f1}]"
    else return head

def unpackPayloadProtect (data : List UInt8) : IoResult PayloadProtect :=
  PayloadProtect.deserialize data

/-- `try_from` on the command flag, with the text every caller maps its error
to. -/
def commandOf (flag : UInt32) : IoResult HdcCommand :=
  match HdcCommand.tryFrom flag with
  | some command => .ok command
  | none => invalidData "unknown command"

def unpackTaskMessage (data : List UInt8) : IoResult TaskMessage := do
  if data.length < headSize then invalidData "data too short for head"
  else
    let head ← unpackPayloadHead (data.take headSize)
    let expectedHeadSize := head.headSize.toNat
    let expectedDataSize := head.dataSize.toNat
    if expectedHeadSize + expectedDataSize = 0 ∨
        expectedHeadSize + expectedDataSize > hdcBufMaxSize then
      invalidData "Packet size incorrect"
    else if headSize + expectedHeadSize + expectedDataSize > data.length then
      invalidData "incomplete packet"
    else
      let protectData := (data.drop headSize).take expectedHeadSize
      let payloadData := (data.drop (headSize + expectedHeadSize)).take expectedDataSize
      let payloadProtect ← unpackPayloadProtect protectData
      if payloadProtect.vCode ≠ payloadVcode then invalidData "Session recv static vcode failed"
      else
        let command ← commandOf payloadProtect.commandFlag
        return { channelId := payloadProtect.channelId, command, payload := payloadData }

/-! The head. -/

/-- `to_be_bytes` and `from_be_bytes` of two bytes. -/
theorem be_u16 (v : UInt16) : ∃ a b, be 2 v.toNat = [a, b] ∧ UInt16.ofNat (ofBe [a, b]) = v := by
  refine ⟨_, _, rfl, ?_⟩
  have := ofBe_be (w := 2) (v := v.toNat) v.toNat_lt
  simp only [be] at this
  rw [this, UInt16.ofNat_toNat]

/-- `to_be_bytes` and `from_be_bytes` of four bytes. -/
theorem be_u32 (v : UInt32) : ∃ a b c d, be 4 v.toNat = [a, b, c, d] ∧
    UInt32.ofNat (ofBe [a, b, c, d]) = v := by
  refine ⟨_, _, _, _, rfl, ?_⟩
  have := ofBe_be (w := 4) (v := v.toNat) v.toNat_lt
  simp only [be] at this
  rw [this, UInt32.ofNat_toNat]

@[simp] theorem PayloadHead.serialize_length (h : PayloadHead) :
    h.serialize.length = Hdc.headSize := by
  simp [PayloadHead.serialize, Hdc.headSize]

theorem PayloadHead.deserialize_serialize (h : PayloadHead) (rest : List UInt8) :
    PayloadHead.deserialize (h.serialize ++ rest) = .ok h := by
  obtain ⟨a, b, hab, hv⟩ := be_u16 h.headSize
  obtain ⟨c, d, e, f, hcd, hw⟩ := be_u32 h.dataSize
  simp only [PayloadHead.serialize, hab, hcd, List.cons_append, List.nil_append,
    PayloadHead.deserialize, hv, hw]

/-- A head is read from the front of anything that starts with it. -/
theorem unpackPayloadHead_serialize (h : PayloadHead) (hf : h.flag = packetFlag) (rest : List UInt8) :
    unpackPayloadHead (h.serialize ++ rest) = .ok h := by
  have htake : (h.serialize ++ rest).take headSize = h.serialize := by
    rw [← h.serialize_length]; simp
  have hd := h.deserialize_serialize []
  rw [List.append_nil] at hd
  simp [unpackPayloadHead, htake, hd, hf]

/-! Frames. -/

/-- What is left to judge once a frame is cut out: the protect block must
decode, carry the static verification code and name a known command. -/
def acceptProtect (protect payload : List UInt8) : IoResult TaskMessage := do
  let payloadProtect ← unpackPayloadProtect protect
  if payloadProtect.vCode ≠ payloadVcode then invalidData "Session recv static vcode failed"
  else
    let command ← commandOf payloadProtect.commandFlag
    return { channelId := payloadProtect.channelId, command, payload }

/-- A packet's three parts, the head announcing the sizes of the other two. -/
structure Frame where
  head : PayloadHead
  protect : List UInt8
  payload : List UInt8
  flag_eq : head.flag = packetFlag
  headSize_eq : head.headSize.toNat = protect.length
  dataSize_eq : head.dataSize.toNat = payload.length
  size_pos : 0 < protect.length + payload.length
  size_le : protect.length + payload.length ≤ hdcBufMaxSize

def Frame.bytes (f : Frame) : List UInt8 := f.head.serialize ++ f.protect ++ f.payload

@[simp] theorem Frame.bytes_length (f : Frame) :
    f.bytes.length = headSize + f.protect.length + f.payload.length := by
  simp [Frame.bytes, Nat.add_assoc]

theorem unpackTaskMessage_frame (f : Frame) (rest : List UInt8) :
    unpackTaskMessage (f.bytes ++ rest) = acceptProtect f.protect f.payload := by
  obtain ⟨head, protect, payload, hflag, hhs, hds, hpos, hle⟩ := f
  have htake : (head.serialize ++ protect ++ payload ++ rest).take headSize = head.serialize := by
    rw [List.append_assoc, List.append_assoc, ← head.serialize_length, List.take_left]
  have hprot : ((head.serialize ++ protect ++ payload ++ rest).drop headSize).take protect.length =
      protect := by
    rw [List.append_assoc, List.append_assoc, ← head.serialize_length, List.drop_left, List.take_left]
  have hpay : ((head.serialize ++ protect ++ payload ++ rest).drop
      (headSize + protect.length)).take payload.length = payload := by
    rw [List.append_assoc, show headSize + protect.length = (head.serialize ++ protect).length by simp,
      List.drop_left, List.take_left]
  have hhead := unpackPayloadHead_serialize head hflag []
  rw [List.append_nil] at hhead
  have hsize : ¬ (protect.length + payload.length = 0 ∨
      protect.length + payload.length > hdcBufMaxSize) := by omega
  have hlen : (head.serialize ++ protect ++ payload ++ rest).length =
      headSize + protect.length + payload.length + rest.length := by simp [Nat.add_assoc]
  simp only [Frame.bytes, unpackTaskMessage, htake, hhead, ok_bind, hhs, hds, hprot, hpay,
    if_neg hsize, hlen]
  rw [if_neg (by omega), if_neg (by omega)]
  rfl

/-- A byte string that is one complete frame and nothing else: a head with the
packet flag, then exactly the bytes it announces. -/
def CompleteFrame (data : List UInt8) : Prop :=
  ∃ head, PayloadHead.deserialize data = .ok head ∧ head.flag = packetFlag ∧
    data.length = headSize + head.headSize.toNat + head.dataSize.toNat ∧
    0 < head.headSize.toNat + head.dataSize.toNat ∧
    head.headSize.toNat + head.dataSize.toNat ≤ hdcBufMaxSize

/-- The protect block a head announces. -/
def protectData (data : List UInt8) : List UInt8 :=
  match PayloadHead.deserialize data with
  | .ok head => (data.drop headSize).take head.headSize.toNat
  | .error _ => []

/-- The head is the first eleven bytes. -/
theorem PayloadHead.serialize_deserialize {data : List UInt8} {head : PayloadHead}
    (h : PayloadHead.deserialize data = .ok head) : head.serialize = data.take Hdc.headSize := by
  unfold PayloadHead.deserialize at h
  split at h
  · rename_i f0 f1 r0 r1 ver h0 h1 d0 d1 d2 d3 rest
    cases h
    have h2 : be 2 (ofBe [h0, h1]) = [h0, h1] := be_ofBe [h0, h1]
    have h4 : be 4 (ofBe [d0, d1, d2, d3]) = [d0, d1, d2, d3] := be_ofBe [d0, d1, d2, d3]
    have l2 : ofBe [h0, h1] < 2^16 := by simpa using ofBe_lt [h0, h1]
    have l4 : ofBe [d0, d1, d2, d3] < 2^32 := by simpa using ofBe_lt [d0, d1, d2, d3]
    simp only [PayloadHead.serialize, UInt16.toNat_ofNat', UInt32.toNat_ofNat',
      Nat.mod_eq_of_lt l2, Nat.mod_eq_of_lt l4, h2, h4, Hdc.headSize]
    rfl
  · cases h

theorem CompleteFrame.exists_frame {data : List UInt8} (h : CompleteFrame data) :
    ∃ f : Frame, f.bytes = data := by
  obtain ⟨head, hd, hflag, hlen, hpos, hle⟩ := h
  let body := data.drop headSize
  have hbody : body.length = head.headSize.toNat + head.dataSize.toNat := by
    simp only [body, List.length_drop, hlen]
    omega
  have hp : (body.take head.headSize.toNat).length = head.headSize.toNat := by
    rw [List.length_take]
    omega
  have hq : (body.drop head.headSize.toNat).length = head.dataSize.toNat := by
    rw [List.length_drop]
    omega
  refine ⟨⟨head, body.take head.headSize.toNat, body.drop head.headSize.toNat, hflag, hp.symm,
    hq.symm, by omega, by omega⟩, ?_⟩
  rw [Frame.bytes, List.append_assoc, List.take_append_drop, PayloadHead.serialize_deserialize hd]
  exact List.take_append_drop headSize data

theorem Frame.protectData (f : Frame) : protectData f.bytes = f.protect := by
  have hd : PayloadHead.deserialize f.bytes = .ok f.head := by
    rw [Frame.bytes, List.append_assoc]
    exact f.head.deserialize_serialize _
  simp only [Hdc.protectData, hd, f.headSize_eq]
  rw [Frame.bytes, List.append_assoc, ← f.head.serialize_length, List.drop_left, List.take_left]

/-! Packing a message. -/

/-- The bytes a packet spends on its protect block and payload, the quantity
its receiver bounds. -/
def packetSize (msg : TaskMessage) : Nat := (protectOf msg).serialize.length + msg.payload.length

theorem protectOf_deserialize (msg : TaskMessage) :
    PayloadProtect.deserialize (protectOf msg).serialize = .ok (protectOf msg) :=
  PayloadProtect.deserialize_serialize _ (show (0 : UInt8).toNat < 128 by decide)
    (show payloadVcode.toNat < 128 by decide)

theorem commandOf_protectOf (msg : TaskMessage) :
    commandOf (protectOf msg).commandFlag = .ok msg.command := by
  simp [commandOf, protectOf, HdcCommand.tryFrom_asU32]

theorem acceptProtect_protectOf (msg : TaskMessage) :
    acceptProtect (protectOf msg).serialize msg.payload = .ok msg := by
  simp only [acceptProtect, unpackPayloadProtect, protectOf_deserialize, ok_bind,
    commandOf_protectOf]
  rfl

theorem protectOf_serialize_pos (msg : TaskMessage) : 0 < (protectOf msg).serialize.length := by
  have h4 : (if (protectOf msg).vCode ≠ 0 then pushU8Field 4 (protectOf msg).vCode else []) =
      pushU8Field 4 payloadVcode := rfl
  simp only [PayloadProtect.serialize, h4, List.length_append,
    pushU8Field_length (n := 4) (by decide)]
  omega

theorem payloadHeadOf_headSize (msg : TaskMessage) :
    (payloadHeadOf msg).headSize.toNat = (protectOf msg).serialize.length := by
  have := (protectOf msg).serialize_length_le
  rw [payloadHeadOf, UInt16.toNat_ofNat']
  exact Nat.mod_eq_of_lt (by omega)

theorem payloadHeadOf_dataSize {msg : TaskMessage} (h : msg.payload.length < 2^32) :
    (payloadHeadOf msg).dataSize.toNat = msg.payload.length := by
  rw [payloadHeadOf, UInt32.toNat_ofNat']
  exact Nat.mod_eq_of_lt h

/-- The frame `concat_pack` builds. -/
def packFrame (msg : TaskMessage) (h : packetSize msg ≤ hdcBufMaxSize) : Frame where
  head := payloadHeadOf msg
  protect := (protectOf msg).serialize
  payload := msg.payload
  flag_eq := rfl
  headSize_eq := payloadHeadOf_headSize msg
  dataSize_eq := payloadHeadOf_dataSize (by
    simp only [packetSize, hdcBufMaxSize] at h
    omega)
  size_pos := Nat.add_pos_left (protectOf_serialize_pos msg) _
  size_le := h

theorem packFrame_bytes (msg : TaskMessage) (h : packetSize msg ≤ hdcBufMaxSize) :
    (packFrame msg h).bytes = concatPack msg := rfl

theorem unpackTaskMessage_packFrame (msg : TaskMessage) (h : packetSize msg ≤ hdcBufMaxSize)
    (rest : List UInt8) : unpackTaskMessage ((packFrame msg h).bytes ++ rest) = .ok msg := by
  rw [unpackTaskMessage_frame]
  exact acceptProtect_protectOf msg

theorem concatPack_length (msg : TaskMessage) :
    (concatPack msg).length = headSize + packetSize msg := by
  simp only [concatPack, List.length_append, PayloadHead.serialize_length, packetSize, Nat.add_assoc]

/-- A packet past the limit is built all the same, and refused. -/
theorem unpackTaskMessage_oversize (msg : TaskMessage) (h : hdcBufMaxSize < packetSize msg)
    (hlen : msg.payload.length < 2^32) :
    unpackTaskMessage (concatPack msg) = invalidData "Packet size incorrect" := by
  have hlong : ¬ (concatPack msg).length < headSize := by
    rw [concatPack_length]
    omega
  have htake : (concatPack msg).take headSize = (payloadHeadOf msg).serialize := by
    rw [concatPack, List.append_assoc, ← (payloadHeadOf msg).serialize_length, List.take_left]
  have hhead := unpackPayloadHead_serialize (payloadHeadOf msg) rfl []
  rw [List.append_nil] at hhead
  have hsize : packetSize msg = 0 ∨ packetSize msg > hdcBufMaxSize := .inr h
  rw [packetSize, ← payloadHeadOf_headSize, ← payloadHeadOf_dataSize hlen] at hsize
  simp only [unpackTaskMessage, if_neg hlong, htake, hhead, ok_bind, if_pos hsize]

/-- Every task message within the size limit, of any channel and command and
with any payload, is unpacked from its packet, whatever bytes follow. -/
theorem unpack_concat_pack (msg : TaskMessage) (h : packetSize msg ≤ hdcBufMaxSize)
    (rest : List UInt8) : unpackTaskMessage (concatPack msg ++ rest) = .ok msg := by
  rw [← packFrame_bytes msg h]
  exact unpackTaskMessage_packFrame msg h rest

theorem unpack_concat_pack_kernelHelp :
    packetSize ⟨0, .kernelHelp, []⟩ ≤ hdcBufMaxSize ∧
    unpackTaskMessage (concatPack ⟨0, .kernelHelp, []⟩ ++ [1, 2, 3]) = .ok ⟨0, .kernelHelp, []⟩ :=
  ⟨by decide, unpack_concat_pack _ (by decide) _⟩

/-! Unpacking and packing again. -/

theorem unpackPayloadHead_eq_ok {data : List UInt8} {head : PayloadHead}
    (h : unpackPayloadHead data = .ok head) :
    headSize ≤ data.length ∧ head.flag = packetFlag ∧ head.serialize = data.take headSize := by
  rw [unpackPayloadHead] at h
  split at h
  · simp at h
  · rename_i hlen
    obtain ⟨head', hd, h⟩ := bind_eq_ok.mp h
    split at h
    · simp at h
    · rename_i hflag
      cases h
      have hser := PayloadHead.serialize_deserialize hd
      rw [List.take_take, Nat.min_self] at hser
      exact ⟨Nat.le_of_not_lt hlen, not_not.mp hflag, hser⟩

/-- What is unpacked is a frame at the front, and its protect block was accepted. -/
theorem unpackTaskMessage_eq_ok {data : List UInt8} {msg : TaskMessage}
    (h : unpackTaskMessage data = .ok msg) :
    ∃ (f : Frame) (rest : List UInt8), data = f.bytes ++ rest ∧
      acceptProtect f.protect f.payload = .ok msg := by
  rw [unpackTaskMessage] at h
  split at h
  · simp at h
  · obtain ⟨head, hhead, h⟩ := bind_eq_ok.mp h
    obtain ⟨-, hflag, hser⟩ := unpackPayloadHead_eq_ok hhead
    rw [List.take_take, Nat.min_self] at hser
    simp only at h
    split at h
    · simp at h
    · rename_i hsize
      split at h
      · simp at h
      · rename_i hlen
        let protect := (data.drop headSize).take head.headSize.toNat
        let payload := (data.drop (headSize + head.headSize.toNat)).take head.dataSize.toNat
        have hprotect : head.headSize.toNat = protect.length := by
          rw [List.length_take, List.length_drop]
          omega
        have hpayload : head.dataSize.toNat = payload.length := by
          rw [List.length_take, List.length_drop]
          omega
        let f : Frame := ⟨head, protect, payload, hflag, hprotect, hpayload, by omega, by omega⟩
        refine ⟨f, data.drop (headSize + head.headSize.toNat + head.dataSize.toNat), ?_, h⟩
        rw [Frame.bytes, hser, List.append_assoc, List.append_assoc, ← List.drop_drop,
          List.take_append_drop, ← List.drop_drop, List.take_append_drop, List.take_append_drop]

/-- A protect block takes what its fields do, if its bytes are small. -/
theorem PayloadProtect.serialize_size {p : PayloadProtect} (hc : p.checkSum.toNat < 128)
    (hv : p.vCode.toNat < 128) : p.serialize.length ≤ p.size := by
  have h3 := ite_pushU8Field_size (n := 3) (by decide) p.checkSum
  have h4 := ite_pushU8Field_size (n := 4) (by decide) p.vCode
  simp only [serialize, ite_writeU32Field, List.length_append,
    writeU32Field_size (n := 1) (by decide), writeU32Field_size (n := 2) (by decide), size]
  rw [if_pos hc] at h3
  rw [if_pos hv] at h4
  omega

/-- An accepted protect block gives its message all but the check sum, which is not written. -/
theorem acceptProtect_eq_ok {protect payload : List UInt8} {msg : TaskMessage}
    (h : acceptProtect protect payload = .ok msg) :
    msg.payload = payload ∧ ∃ p, PayloadProtect.deserialize protect = .ok p ∧
      protectOf msg = { p with checkSum := 0 } := by
  obtain ⟨p, hp, h⟩ := bind_eq_ok.mp h
  split at h
  · simp at h
  · rename_i hvcode
    obtain ⟨command, hcommand, h⟩ := bind_eq_ok.mp h
    cases h
    refine ⟨rfl, p, hp, ?_⟩
    rw [commandOf] at hcommand
    split at hcommand
    · rename_i c hflag
      cases hcommand
      rw [protectOf, HdcCommand.asU32_of_tryFrom hflag, ← not_not.mp hvcode]
      rfl
    · simp at hcommand

/-- The message's own protect block is no longer than the one it was accepted from. -/
theorem acceptProtect_size {protect payload : List UInt8} {msg : TaskMessage}
    (h : acceptProtect protect payload = .ok msg) :
    packetSize msg ≤ protect.length + payload.length := by
  obtain ⟨rfl, p, hp, hmsg⟩ := acceptProtect_eq_ok h
  have hsize : p.size ≤ protect.length := decodeTlv_size PayloadProtect.fields_bounded hp
  have hsmall : (protectOf msg).serialize.length ≤ (protectOf msg).size :=
    PayloadProtect.serialize_size (show (0 : UInt8).toNat < 128 by decide)
      (show payloadVcode.toNat < 128 by decide)
  have hdrop : (protectOf msg).size ≤ p.size := by
    have hzero : varintSize (0 : UInt8).toNat = 0 := rfl
    rw [hmsg]
    simp only [PayloadProtect.size, hzero]
    omega
  rw [packetSize]
  omega

/-- Whatever is unpacked is packed again to a packet that unpacks to the same message, and that is
no longer than the packet its head declared. -/
theorem repacking_normalises (data : List UInt8) (msg : TaskMessage)
    (h : unpackTaskMessage data = .ok msg) :
    unpackTaskMessage (concatPack msg) = .ok msg ∧
    ∃ head, PayloadHead.deserialize data = .ok head ∧
      headSize + head.headSize.toNat + head.dataSize.toNat ≤ data.length ∧
      (concatPack msg).length ≤ headSize + head.headSize.toNat + head.dataSize.toNat := by
  obtain ⟨f, rest, rfl, haccept⟩ := unpackTaskMessage_eq_ok h
  have hsize := acceptProtect_size haccept
  constructor
  · have hunpack := unpackTaskMessage_packFrame msg (Nat.le_trans hsize f.size_le) []
    rw [List.append_nil, packFrame_bytes] at hunpack
    exact hunpack
  · refine ⟨f.head, ?_, ?_, ?_⟩
    · rw [Frame.bytes, List.append_assoc, List.append_assoc]
      exact f.head.deserialize_serialize _
    · rw [List.length_append, Frame.bytes_length, f.headSize_eq, f.dataSize_eq]
      omega
    · rw [concatPack_length, f.headSize_eq, f.dataSize_eq]
      omega

/-- A channel of zero written out, fields out of order and a check sum: 19 bytes become 15. -/
theorem repacking_normalises_padded :
    (concatPack ⟨0, .kernelChannelClose, []⟩).length = 15 ∧
    unpackTaskMessage (concatPack ⟨0, .kernelChannelClose, []⟩) = .ok ⟨0, .kernelChannelClose, []⟩ ∧
    ∃ head, PayloadHead.deserialize
        [72, 87, 0, 0, 1, 0, 8, 0, 0, 0, 0, 32, 9, 24, 3, 8, 0, 16, 2] = .ok head ∧
      headSize + head.headSize.toNat + head.dataSize.toNat ≤ 19 ∧
      (concatPack ⟨0, .kernelChannelClose, []⟩).length ≤
        headSize + head.headSize.toNat + head.dataSize.toNat :=
  ⟨by decide, repacking_normalises [72, 87, 0, 0, 1, 0, 8, 0, 0, 0, 0, 32, 9, 24, 3, 8, 0, 16, 2]
    ⟨0, .kernelChannelClose, []⟩ (by decide)⟩

end Hdc
