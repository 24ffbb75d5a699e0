import Hdc.Tcp

/- The USB receiver of the host (`hdc/src/transfer/usb.rs`) and the comparison
   of the three packet decoders of the source.

   The shared decoder, the host's TCP decoder and the USB receiver each cut a
   complete frame into the same parts (`unpackTaskMessage_frame`,
   `hostUnpackTaskMessage_frame`, `unpackUsbPayload_frame`), but only the shared
   one looks at the verification code. `decoders_agree_iff` says for which
   frames that shows. -/
namespace Hdc
open Rust Wire Feed

def usbOptionHeader : UInt8 := 1

/-- `USB_HEAD_SIZE`. -/
def usbHeadSize : Nat := 11

/-- `UsbHead`, its flag as a pair. -/
structure UsbHead where
  flag : UInt8 × UInt8
  option : UInt8
  sessionId : UInt32
  dataSize : UInt32
  deriving DecidableEq, Repr

def UsbHead.serialize (h : UsbHead) : List UInt8 :=
  [h.flag.1, h.flag.2, h.option] ++ be 4 h.sessionId.toNat ++ be 4 h.dataSize.toNat

def UsbHead.deserialize (bytes : List UInt8) : IoResult UsbHead :=
  match bytes with
  | f0 :: f1 :: option :: s0 :: s1 :: s2 :: s3 :: d0 :: d1 :: d2 :: d3 :: _ =>
    .ok {
      flag := (f0, f1)
      option
      sessionId := UInt32.ofNat (ofBe [s0, s1, s2, s3])
      dataSize := UInt32.ofNat (ofBe [d0, d1, d2, d3]) }
  | _ => invalidData "UsbHead too short"

/-- `read_exact_from_usb`, the bulk transfers being the pieces of the stream
and none of them timing out. -/
def readExactFromUsb : Chunks UInt8 → Nat → IoResult (List UInt8 × Chunks UInt8) :=
  readExpected ⟨.connectionAborted, "USB peer shutdown"⟩

/-- The part of `recv_usb_message` after its second read: the packet inside a
USB payload. Neither the sizes nor the verification code are looked at. -/
def unpackUsbPayload (payloadData : List UInt8) : IoResult TaskMessage := do
  if payloadData.length < headSize then invalidData "payload too short for head"
  else
    let payloadHead ← unpackPayloadHead (payloadData.take headSize)
    let expectedHeadSize := payloadHead.headSize.toNat
    let expectedDataSize := payloadHead.dataSize.toNat
    if headSize + expectedHeadSize + expectedDataSize > payloadData.length then
      invalidData "incomplete payload"
    else
      let protectData := (payloadData.drop headSize).take expectedHeadSize
      let payloadProtect ← unpackPayloadProtect protectData
      let command ← commandOf payloadProtect.commandFlag
      let payload := (payloadData.drop (headSize + expectedHeadSize)).take expectedDataSize
      return { channelId := payloadProtect.channelId, command, payload }

def recvUsbMessage (conn : Chunks UInt8) :
    IoResult ((UInt32 × TaskMessage) × Chunks UInt8) := do
  let (headData, conn) ← readExactFromUsb conn usbHeadSize
  let usbHead ← UsbHead.deserialize headData
  let dataSize := usbHead.dataSize.toNat
  let option := usbHead.option
  if dataSize = 0 then invalidData "USB nop/reset packet"
  else if option &&& usbOptionHeader = 0 then
    invalidData s!"USB packet without HEADER option: {option}"
  else if dataSize > hdcBufMaxSize then invalidData "USB payload too large"
  else
    let (payloadData, conn) ← readExactFromUsb conn dataSize
    let msg ← unpackUsbPayload payloadData
    return ((usbHead.sessionId, msg), conn)

@[simp] theorem UsbHead.serialize_length (h : UsbHead) : h.serialize.length = usbHeadSize := by
  simp [UsbHead.serialize, usbHeadSize]

theorem UsbHead.deserialize_serialize (h : UsbHead) :
    UsbHead.deserialize h.serialize = .ok h := by
  obtain ⟨a, b, c, d, hab, hv⟩ := be_u32 h.sessionId
  obtain ⟨e, f, g, i, hef, hw⟩ := be_u32 h.dataSize
  simp only [UsbHead.serialize, hab, hef, List.cons_append, List.nil_append,
    UsbHead.deserialize, hv, hw]

/-- What follows a USB header is judged by the decoder of the packet inside. -/
theorem recvUsbMessage_header (h : UsbHead) {data rest : List UInt8} {conn : Chunks UInt8}
    (hoption : h.option &&& usbOptionHeader ≠ 0) (hsize : h.dataSize.toNat = data.length)
    (hpos : 0 < data.length) (hle : data.length ≤ hdcBufMaxSize)
    (hc : conn.bytes = h.serialize ++ (data ++ rest)) :
    ∃ conn', conn'.bytes = rest ∧
      recvUsbMessage conn =
        (unpackUsbPayload data).map fun msg => ((h.sessionId, msg), conn') := by
  obtain ⟨conn₁, hr₁, hb₁⟩ := readExpected_append ⟨.connectionAborted, "USB peer shutdown"⟩ hc
  obtain ⟨conn₂, hr₂, hb₂⟩ := readExpected_append ⟨.connectionAborted, "USB peer shutdown"⟩ hb₁
  rw [UsbHead.serialize_length] at hr₁
  refine ⟨conn₂, hb₂, ?_⟩
  simp only [recvUsbMessage, readExactFromUsb, hr₁, ok_bind, h.deserialize_serialize, hsize,
    if_neg (Nat.ne_of_gt hpos), if_neg hoption, if_neg (Nat.not_lt.mpr hle), hr₂]
  cases unpackUsbPayload data <;> rfl

theorem unpackUsbPayload_frame (f : Frame) :
    unpackUsbPayload f.bytes = hostAcceptProtect f.protect f.payload := by
  have htake : f.bytes.take headSize = f.head.serialize := by
    rw [Frame.bytes, List.append_assoc, ← f.head.serialize_length, List.take_left]
  have hprot : (f.bytes.drop headSize).take f.protect.length = f.protect := by
    rw [Frame.bytes, List.append_assoc, ← f.head.serialize_length, List.drop_left, List.take_left]
  have hpay : (f.bytes.drop (headSize + f.protect.length)).take f.payload.length = f.payload := by
    rw [Frame.bytes,
      show headSize + f.protect.length = (f.head.serialize ++ f.protect).length by simp,
      List.drop_left, List.take_length]
  simp only [unpackUsbPayload, htake, f.unpackPayloadHead, ok_bind, f.headSize_eq,
    f.dataSize_eq, hprot, hpay, f.bytes_length]
  rw [if_neg (by omega), if_neg (by omega)]
  rfl

/-! Agreement. -/

/-- All three decoders reject the bytes, or all accept the same message. The
host's TCP decoder reads them from the stream `rd`. -/
def DecodersAgree (rd : Chunks UInt8) (data : List UInt8) : Prop :=
  (∃ e₁ e₂ e₃, hostUnpackTaskMessage rd = .error e₁ ∧ unpackTaskMessage data = .error e₂ ∧
    unpackUsbPayload data = .error e₃) ∨
  (∃ msg rd', hostUnpackTaskMessage rd = .ok (msg, rd') ∧ unpackTaskMessage data = .ok msg ∧
    unpackUsbPayload data = .ok msg)

/-- A protect block that decodes and names a known command, but under another
verification code. -/
def ForeignVcode (protect : List UInt8) : Prop :=
  ∃ pp command, unpackPayloadProtect protect = .ok pp ∧
    HdcCommand.tryFrom pp.commandFlag = some command ∧ pp.vCode ≠ payloadVcode

theorem commandOf_eq_ok {flag : UInt32} {command : HdcCommand} :
    commandOf flag = .ok command ↔ HdcCommand.tryFrom flag = some command := by
  unfold commandOf
  cases HdcCommand.tryFrom flag <;> simp

/-- The two judgements of a protect block: both errors, or both the same
message, or the host accepts and the shared decoder does not. -/
theorem acceptProtect_cases (protect payload : List UInt8) :
    (∃ e₁ e₂, hostAcceptProtect protect payload = .error e₁ ∧
      acceptProtect protect payload = .error e₂ ∧ ¬ ForeignVcode protect) ∨
    (∃ msg, hostAcceptProtect protect payload = .ok msg ∧
      acceptProtect protect payload = .ok msg ∧ ¬ ForeignVcode protect) ∨
    (∃ msg e, hostAcceptProtect protect payload = .ok msg ∧
      acceptProtect protect payload = .error e ∧ ForeignVcode protect) := by
  cases hp : unpackPayloadProtect protect with
  | error e =>
    refine .inl ⟨e, e, by simp [hostAcceptProtect, hp], by simp [acceptProtect, hp], ?_⟩
    rintro ⟨pp, command, h, -⟩
    rw [hp] at h
    cases h
  | ok pp =>
    cases hc : commandOf pp.commandFlag with
    | error e =>
      have hf : ¬ ForeignVcode protect := by
        rintro ⟨pp', command, h, hsome, -⟩
        rw [hp] at h
        cases h
        rw [commandOf_eq_ok.mpr hsome] at hc
        cases hc
      have hhost : hostAcceptProtect protect payload = .error e := by
        simp [hostAcceptProtect, hp, hc]
      left
      by_cases hv : pp.vCode = payloadVcode
      · exact ⟨e, e, hhost, by simp [acceptProtect, hp, hc, hv], hf⟩
      · exact ⟨e, _, hhost, by simp only [acceptProtect, hp, ok_bind, if_pos hv]; rfl, hf⟩
    | ok command =>
      have hhost : hostAcceptProtect protect payload = .ok ⟨pp.channelId, command, payload⟩ := by
        simp [hostAcceptProtect, hp, hc]
      right
      by_cases hv : pp.vCode = payloadVcode
      · refine .inl ⟨_, hhost, by simp [acceptProtect, hp, hc, hv], ?_⟩
        rintro ⟨pp', -, h, -, hne⟩
        rw [hp] at h
        cases h
        exact hne hv
      · exact .inr ⟨_, _, hhost, by simp only [acceptProtect, hp, ok_bind, if_pos hv]; rfl,
          pp, command, hp, commandOf_eq_ok.mp hc, hv⟩

/-- On a complete frame, however it arrives, the three decoders agree exactly
when its protect block is not one of a known command under a foreign
verification code. -/
theorem decoders_agree_iff (data : List UInt8) (h : CompleteFrame data) (rd : Chunks UInt8)
    (hrd : rd.bytes = data) : DecodersAgree rd data ↔ ¬ ForeignVcode (protectData data) := by
  obtain ⟨f, rfl⟩ := h.exists_frame
  rw [← List.append_nil f.bytes] at hrd
  obtain ⟨rd', -, hhost⟩ := hostUnpackTaskMessage_frame f hrd
  have hshared := unpackTaskMessage_frame f []
  rw [List.append_nil] at hshared
  rw [DecodersAgree, hhost, hshared, unpackUsbPayload_frame, f.protectData]
  rcases acceptProtect_cases f.protect f.payload with
    ⟨e₁, e₂, h₁, h₂, hf⟩ | ⟨msg, h₁, h₂, hf⟩ | ⟨msg, e, h₁, h₂, hf⟩
  · rw [h₁, h₂]
    exact iff_of_true (.inl ⟨e₁, e₂, e₁, rfl, rfl, rfl⟩) hf
  · rw [h₁, h₂]
    exact iff_of_true (.inr ⟨msg, rd', rfl, rfl, rfl⟩) hf
  · rw [h₁, h₂]
    refine iff_of_false ?_ (not_not_intro hf)
    rintro (⟨_, _, _, h, -⟩ | ⟨_, _, -, h, -⟩) <;> cases h

/-- A frame without payload whose protect block says only that its
verification code is 1. -/
def foreignFrame : List UInt8 := [72, 87, 0, 0, 1, 0, 2, 0, 0, 0, 0, 0x20, 1]

theorem decoders_disagree :
    CompleteFrame foreignFrame ∧
    ¬ DecodersAgree ⟨[foreignFrame], by decide⟩ foreignFrame := by
  refine ⟨⟨⟨packetFlag, (0, 0), 1, 2, 0⟩, by decide⟩, ?_⟩
  rintro (⟨_, _, e, -, -, h⟩ | ⟨msg, _, -, h, -⟩)
  · have : unpackUsbPayload foreignFrame = .ok ⟨0, .kernelHelp, []⟩ := by decide
    rw [this] at h
    cases h
  · have : unpackTaskMessage foreignFrame = invalidData "Session recv static vcode failed" := by
      decide
    rw [this] at h
    cases h

theorem decoders_agree_iff_packed :
    CompleteFrame (concatPack ⟨7, .kernelEcho, [65]⟩) ∧
    (DecodersAgree ⟨[concatPack ⟨7, .kernelEcho, [65]⟩], by decide⟩
        (concatPack ⟨7, .kernelEcho, [65]⟩) ↔
      ¬ ForeignVcode (protectData (concatPack ⟨7, .kernelEcho, [65]⟩))) :=
  have h : CompleteFrame (concatPack ⟨7, .kernelEcho, [65]⟩) :=
    ⟨⟨packetFlag, (0, 0), 1, 6, 1⟩, by decide⟩
  ⟨h, decoders_agree_iff _ h ⟨[concatPack ⟨7, .kernelEcho, [65]⟩], by decide⟩ (by decide)⟩

end Hdc
