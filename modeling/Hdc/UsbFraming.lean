import Hdc.Usb

/- Messages over USB (`hdc/src/transfer/usb.rs`): the bulk transfers a message is sent as, and
   the read loop of `start_usb_session` that puts them together again.

   A packet on the wire is a USB header and as many bytes as it announces. `send_usb_raw` adds an
   empty one after a packet that fills the endpoint exactly, so that the other side sees a short
   transfer; the receiver reports empty packets as errors and the read loop skips these.
   `recvUsb_packet` is what one call makes of one packet, however the stream is cut, and
   `usb_round_trip` puts the calls together. -/
namespace Hdc
open Rust Wire Feed

/-! Sending. -/

def usbPacketFlag : UInt8 × UInt8 := (85, 66)

def usbOptionReset : UInt8 := 2

def buildUsbHeader (sessionId : UInt32) (option : UInt8) (dataSize : UInt32) : List UInt8 :=
  UsbHead.serialize { flag := usbPacketFlag, option, sessionId, dataSize }

/-- The soft reset in front of a handshake. -/
def sendUsbSoftReset (sessionId : UInt32) : List (List UInt8) :=
  [buildUsbHeader sessionId usbOptionReset 0]

/-- `send_usb_raw`: its bulk transfers, in order. `none` is a panic, a remainder by zero. -/
def sendUsbRaw (sessionId : UInt32) (payload : List UInt8) (maxPacketSize : UInt16) :
    Option (List (List UInt8)) :=
  let payloadLen := payload.length
  let header := buildUsbHeader sessionId usbOptionHeader (UInt32.ofNat payloadLen)
  let transfers := if payload = [] then [header] else [header, payload]
  if 0 < payloadLen then
    if maxPacketSize = 0 then none
    else if payloadLen % maxPacketSize.toNat = 0 then
      some (transfers ++ [buildUsbHeader sessionId 0 0])
    else some transfers
  else some transfers

def sendUsbMessage (sessionId : UInt32) (msg : TaskMessage) (maxPacketSize : UInt16) :
    Option (List (List UInt8)) :=
  sendUsbRaw sessionId (concatPack msg) maxPacketSize

/-! Receiving. -/

def usbPeerShutdown : IoError := ⟨.connectionAborted, "USB peer shutdown"⟩

/-- The error of an empty packet. -/
def usbNop : IoError := ⟨.invalidData, "USB nop/reset packet"⟩

theorem readOut_nonempty : ∀ c ∈ ([] : List (List UInt8)), c ≠ [] := by
  intro c hc
  cases hc

/-- A stream that has been read to its end. -/
def readOut : Chunks UInt8 := ⟨[], readOut_nonempty⟩

/-- `recv_usb_message` with what it leaves of the stream, also where it fails. -/
def recvUsb (conn : Chunks UInt8) : IoResult (UInt32 × TaskMessage) × Chunks UInt8 :=
  match readExactFromUsb conn usbHeadSize with
  | .error e => (.error e, readOut)
  | .ok (headData, conn) =>
    match UsbHead.deserialize headData with
    | .error e => (.error e, conn)
    | .ok usbHead =>
      let dataSize := usbHead.dataSize.toNat
      let option := usbHead.option
      if dataSize = 0 then (.error usbNop, conn)
      else if option &&& usbOptionHeader = 0 then
        (invalidData s!"USB packet without HEADER option: {option}", conn)
      else if dataSize > hdcBufMaxSize then (invalidData "USB payload too large", conn)
      else
        match readExactFromUsb conn dataSize with
        | .error e => (.error e, readOut)
        | .ok (payloadData, conn) =>
          ((unpackUsbPayload payloadData).map fun msg => (usbHead.sessionId, msg), conn)

/-- It is `recvUsbMessage`, which has the stream only where it succeeds. -/
theorem recvUsbMessage_eq (conn : Chunks UInt8) :
    recvUsbMessage conn = (recvUsb conn).1.map fun msg => (msg, (recvUsb conn).2) := by
  unfold recvUsbMessage recvUsb
  cases readExactFromUsb conn usbHeadSize with
  | error e => rfl
  | ok p =>
    obtain ⟨headData, conn₁⟩ := p
    simp only [ok_bind]
    cases UsbHead.deserialize headData with
    | error e => rfl
    | ok usbHead =>
      simp only [ok_bind]
      split
      · rfl
      · split
        · rfl
        · split
          · rfl
          · cases readExactFromUsb conn₁ usbHead.dataSize.toNat with
            | error e => rfl
            | ok q =>
              obtain ⟨payloadData, conn₂⟩ := q
              simp only [ok_bind]
              cases unpackUsbPayload payloadData <;> rfl

/-- The test by which the read loop recognises an empty packet. -/
def isNop (e : IoError) : Bool := e.kind = .invalidData && contains e.msg "nop/reset"

/-- The read loop of `start_usb_session`: the messages it hands on, with the session ids in their
USB headers, and the error that ended it. -/
def usbReadLoop : Nat → Chunks UInt8 → Option (List (UInt32 × TaskMessage) × IoError)
  | 0, _ => none
  | fuel+1, conn =>
    match recvUsb conn with
    | (.ok msg, conn) => (usbReadLoop fuel conn).map fun p => (msg :: p.1, p.2)
    | (.error e, conn) => if isNop e then usbReadLoop fuel conn else some ([], e)

/-- The whole life of the loop. Every round takes a header off the stream, so its length is fuel
enough. -/
def usbReader (conn : Chunks UInt8) : Option (List (UInt32 × TaskMessage) × IoError) :=
  usbReadLoop (conn.bytes.length + 1) conn

/-! Packets. -/

/-- A header, and as many bytes as it announces. -/
structure UsbPacket where
  head : UsbHead
  data : List UInt8
  size_eq : head.dataSize.toNat = data.length

namespace UsbPacket

def bytes (p : UsbPacket) : List UInt8 := p.head.serialize ++ p.data

theorem bytes_pos (p : UsbPacket) : 0 < p.bytes.length := by
  simp [bytes, usbHeadSize]

/-- What the receiver makes of the packet. -/
def result (p : UsbPacket) : IoResult (UInt32 × TaskMessage) :=
  if p.data = [] then .error usbNop
  else if p.head.option &&& usbOptionHeader = 0 then
    invalidData s!"USB packet without HEADER option: {p.head.option}"
  else if hdcBufMaxSize < p.data.length then invalidData "USB payload too large"
  else (unpackUsbPayload p.data).map fun msg => (p.head.sessionId, msg)

/-- A header that announces nothing. -/
def nop (option : UInt8) (sessionId : UInt32) : UsbPacket where
  head := ⟨usbPacketFlag, option, sessionId, 0⟩
  data := []
  size_eq := rfl

end UsbPacket

theorem recvUsb_empty {conn : Chunks UInt8} (h : conn.bytes = []) :
    recvUsb conn = (.error usbPeerShutdown, readOut) := by
  have hshort : conn.bytes.length < usbHeadSize := by simp [h, usbHeadSize]
  simp only [recvUsb, readExactFromUsb, readExpected_short _ hshort]
  rfl

/-- One call takes one packet off the stream, unless it refuses it before it has read it. -/
theorem recvUsb_packet (p : UsbPacket) {conn : Chunks UInt8} {rest : List UInt8}
    (h : conn.bytes = p.bytes ++ rest) :
    ∃ conn', recvUsb conn = (p.result, conn') ∧
      (p.result.isOk = true ∨ p.data = [] → conn'.bytes = rest) := by
  rw [UsbPacket.bytes, List.append_assoc] at h
  obtain ⟨conn₁, hr₁, hb₁⟩ := readExpected_append usbPeerShutdown h
  rw [UsbHead.serialize_length] at hr₁
  simp only [recvUsb, readExactFromUsb, ← usbPeerShutdown.eq_def, hr₁,
    p.head.deserialize_serialize, p.size_eq, UsbPacket.result]
  by_cases hempty : p.data = []
  · simp only [hempty, List.length_nil, if_true]
    exact ⟨conn₁, rfl, fun _ => by rw [hb₁, hempty, List.nil_append]⟩
  · have hlen : p.data.length ≠ 0 := fun h0 => hempty (List.length_eq_zero_iff.mp h0)
    rw [if_neg hlen, if_neg hempty]
    split
    · exact ⟨conn₁, rfl, by simp [invalidData, Except.isOk, Except.toBool, hempty]⟩
    · split
      · exact ⟨conn₁, rfl, by simp [invalidData, Except.isOk, Except.toBool, hempty]⟩
      · obtain ⟨conn₂, hr₂, hb₂⟩ := readExpected_append usbPeerShutdown hb₁
        simp only [hr₂]
        exact ⟨conn₂, rfl, fun _ => hb₂⟩

theorem isNop_usbNop : isNop usbNop = true := by decide

/-- The loop over packets that are messages or empty. -/
theorem usbReadLoop_packets (packets : List UsbPacket)
    (hgood : ∀ p ∈ packets, p.result.isOk = true ∨ p.data = []) :
    ∀ (conn : Chunks UInt8) (fuel : Nat), conn.bytes = packets.flatMap UsbPacket.bytes →
      packets.length < fuel →
      usbReadLoop fuel conn =
        some (packets.filterMap fun p => p.result.toOption, usbPeerShutdown) := by
  induction packets with
  | nil =>
    intro conn fuel hconn hfuel
    obtain ⟨fuel, rfl⟩ := Nat.exists_eq_succ_of_ne_zero (Nat.ne_of_gt hfuel)
    simp only [usbReadLoop, recvUsb_empty hconn]
    rfl
  | cons p packets ih =>
    intro conn fuel hconn hfuel
    obtain ⟨fuel, rfl⟩ := Nat.exists_eq_succ_of_ne_zero (Nat.ne_of_gt (Nat.zero_lt_of_lt hfuel))
    rw [List.flatMap_cons] at hconn
    obtain ⟨conn', hrecv, hrest⟩ := recvUsb_packet p hconn
    have hp := hgood p List.mem_cons_self
    have htail := ih (fun q hq => hgood q (List.mem_cons_of_mem p hq)) conn' fuel (hrest hp)
      (by simpa using hfuel)
    simp only [usbReadLoop, hrecv]
    cases hresult : p.result with
    | ok msg =>
      simp only [htail, Option.map_some]
      rw [List.filterMap_cons_some (by rw [hresult]; rfl)]
    | error e =>
      -- only an empty packet is left
      have hempty : p.data = [] := by
        rcases hp with hok | hempty
        · rw [hresult] at hok
          cases hok
        · exact hempty
      have he : e = usbNop := by
        rw [UsbPacket.result, if_pos hempty] at hresult
        exact (Except.error.inj hresult).symm
      simp only [he, isNop_usbNop, if_true, htail]
      rw [List.filterMap_cons_none (by rw [hresult]; rfl)]

/-! The round trip. -/

/-- The header and packet of a message. -/
def messagePacket (sessionId : UInt32) (msg : TaskMessage)
    (h : (concatPack msg).length ≤ hdcBufMaxSize) : UsbPacket where
  head := ⟨usbPacketFlag, usbOptionHeader, sessionId, UInt32.ofNat (concatPack msg).length⟩
  data := concatPack msg
  size_eq := by
    rw [UInt32.toNat_ofNat']
    rw [hdcBufMaxSize] at h
    exact Nat.mod_eq_of_lt (by omega)

theorem unpackUsbPayload_pack {msg : TaskMessage} (h : packetSize msg ≤ hdcBufMaxSize) :
    unpackUsbPayload (concatPack msg) = .ok msg := by
  rw [← packFrame_bytes msg h, unpackUsbPayload_frame]
  exact hostAcceptProtect_protectOf msg

theorem concatPack_pos (msg : TaskMessage) : 0 < (concatPack msg).length := by
  rw [concatPack_length, headSize]
  omega

theorem messagePacket_result (sessionId : UInt32) (msg : TaskMessage)
    (h : (concatPack msg).length ≤ hdcBufMaxSize) :
    (messagePacket sessionId msg h).result = .ok (sessionId, msg) := by
  have hsize : packetSize msg ≤ hdcBufMaxSize := by
    rw [concatPack_length] at h
    omega
  have hne : concatPack msg ≠ [] := List.length_pos_iff.mp (concatPack_pos msg)
  have hoption : usbOptionHeader &&& usbOptionHeader ≠ 0 := by decide
  simp only [UsbPacket.result, messagePacket, if_neg hne, if_neg hoption,
    if_neg (Nat.not_lt.mpr h), unpackUsbPayload_pack hsize]
  rfl

/-- The transfers of a message are its packet, and an empty one where it fills the endpoint. -/
theorem sendUsbMessage_packets {maxPacketSize : UInt16} (hmax : 0 < maxPacketSize)
    (sessionId : UInt32) (msg : TaskMessage) (h : (concatPack msg).length ≤ hdcBufMaxSize) :
    ∃ transfers nops, sendUsbMessage sessionId msg maxPacketSize = some transfers ∧
      transfers.flatten = (messagePacket sessionId msg h :: nops).flatMap UsbPacket.bytes ∧
      ∀ p ∈ nops, p = UsbPacket.nop 0 sessionId := by
  have hne : concatPack msg ≠ [] := List.length_pos_iff.mp (concatPack_pos msg)
  have hzero : maxPacketSize ≠ 0 := by
    rintro rfl
    exact absurd hmax (by decide)
  simp only [sendUsbMessage, sendUsbRaw, if_neg hne, if_pos (concatPack_pos msg), if_neg hzero]
  split
  · refine ⟨_, [.nop 0 sessionId], rfl, ?_, by simp⟩
    simp [messagePacket, UsbPacket.bytes, UsbPacket.nop, buildUsbHeader]
  · refine ⟨_, [], rfl, ?_, by simp⟩
    simp [messagePacket, UsbPacket.bytes, buildUsbHeader]

/-- The packets of a list of messages, and what the receiver makes of them. -/
theorem sendUsbMessages_packets {maxPacketSize : UInt16} (hmax : 0 < maxPacketSize)
    (sessionId : UInt32) (msgs : List TaskMessage)
    (h : ∀ msg ∈ msgs, (concatPack msg).length ≤ hdcBufMaxSize) :
    ∃ (transfers : List (List (List UInt8))) (packets : List UsbPacket),
      msgs.mapM (sendUsbMessage sessionId · maxPacketSize) = some transfers ∧
      transfers.flatten.flatten = packets.flatMap UsbPacket.bytes ∧
      (∀ p ∈ packets, p.result.isOk = true ∨ p.data = []) ∧
      packets.filterMap (fun p => p.result.toOption) = msgs.map fun msg => (sessionId, msg) := by
  induction msgs with
  | nil => exact ⟨[], [], rfl, rfl, by simp, rfl⟩
  | cons msg msgs ih =>
    have hmsg := h msg List.mem_cons_self
    obtain ⟨sent, nops, hsend, hsent, hnops⟩ := sendUsbMessage_packets hmax sessionId msg hmsg
    obtain ⟨transfers, packets, htransfers, hbytes, hgood, hmsgs⟩ :=
      ih fun m hm => h m (List.mem_cons_of_mem msg hm)
    have hresult := messagePacket_result sessionId msg hmsg
    have hnone : nops.filterMap (fun p => p.result.toOption) = [] := by
      rw [List.filterMap_eq_nil_iff]
      intro p hp
      rw [hnops p hp]
      rfl
    refine ⟨sent :: transfers, messagePacket sessionId msg hmsg :: nops ++ packets, ?_, ?_, ?_, ?_⟩
    · rw [List.mapM_cons, hsend, htransfers]
      rfl
    · rw [List.flatten_cons, List.flatten_append, hsent, hbytes, List.flatMap_append]
    · intro p hp
      rcases List.mem_append.mp hp with hp | hp
      · rcases List.mem_cons.mp hp with rfl | hp
        · exact .inl (by rw [hresult]; rfl)
        · exact .inr (by rw [hnops p hp]; rfl)
      · exact hgood p hp
    · rw [List.filterMap_append, List.filterMap_cons_some (by rw [hresult]; rfl), hnone, hmsgs]
      rfl

/-- The transfers of any messages that fit, read as one stream in any partial reads, are those
messages again, each with the session id, and then the end of the stream. -/
theorem usb_round_trip (sessionId : UInt32) (maxPacketSize : UInt16) (hmax : 0 < maxPacketSize)
    (msgs : List TaskMessage) (h : ∀ msg ∈ msgs, (concatPack msg).length ≤ hdcBufMaxSize) :
    ∃ transfers : List (List (List UInt8)),
      msgs.mapM (sendUsbMessage sessionId · maxPacketSize) = some transfers ∧
      ∀ conn : Chunks UInt8, conn.bytes = transfers.flatten.flatten →
        usbReader conn = some (msgs.map fun msg => (sessionId, msg), usbPeerShutdown) := by
  obtain ⟨transfers, packets, htransfers, hbytes, hgood, hmsgs⟩ :=
    sendUsbMessages_packets hmax sessionId msgs h
  refine ⟨transfers, htransfers, fun conn hconn => ?_⟩
  rw [hbytes] at hconn
  have hfuel := Feed.length_le_flatMap UsbPacket.bytes_pos packets
  rw [usbReader, usbReadLoop_packets packets hgood conn _ hconn (by rw [hconn]; omega), hmsgs]

/-- Two echoes on an endpoint of 20 bytes, the first of which fills it. -/
def fullPacketEchoes : List TaskMessage := [⟨7, .kernelEcho, [65, 66, 67]⟩, ⟨7, .kernelEcho, [65]⟩]

theorem usb_round_trip_full :
    (fullPacketEchoes.mapM (sendUsbMessage 5 · 20)).map (·.map List.length) = some [3, 2] ∧
    ∃ transfers : List (List (List UInt8)),
      fullPacketEchoes.mapM (sendUsbMessage 5 · 20) = some transfers ∧
      ∀ conn : Chunks UInt8, conn.bytes = transfers.flatten.flatten →
        usbReader conn = some (fullPacketEchoes.map fun msg => (5, msg), usbPeerShutdown) :=
  ⟨by decide, usb_round_trip 5 20 (by decide) fullPacketEchoes (by decide)⟩

end Hdc
