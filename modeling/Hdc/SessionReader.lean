import Hdc.SecureChannel

/- The reader task of a TCP session at the host (the loop `start_tcp_daemon_session`
   spawns in `hdc/src/server.rs`). It cuts one frame after the other off the stream and
   decodes each; a frame that cannot be cut ends the session, one that cannot be decoded
   is dropped.

   The two judgements are made by two functions: `recvRawHdcFrame` only looks at the flag
   and the two lengths of the head, and all that is wrong with what lies between is found
   by `unpackTaskMessage` when the frame is already off the stream. `recvRawHdcFrame_frame`
   is why that keeps the reader in step: it takes any `RawFrame` and leaves the stream at
   the next head. -/
namespace Hdc
open Rust Wire Feed

/-- The loop: the tasks it hands on, in order, and the error that ended it. The rest of the
body (heartbeats, routing to the handlers) takes each task and never touches the stream. -/
def hostReaderLoop (aes : Aes128Gcm) :
    Nat → Option PskCipher → Chunks UInt8 → Option (List TaskMessage × IoError)
  | 0, _, _ => none
  | fuel+1, cipher, rd =>
    match recvTcpFrame aes cipher rd with
    | .error e => some ([], e)
    | .ok ((frame, cipher), rd) =>
      match unpackTaskMessage frame with
      | .error _ => hostReaderLoop aes fuel cipher rd
      | .ok task => (hostReaderLoop aes fuel cipher rd).map fun p => (task :: p.1, p.2)

/-- The whole life of the reader. Every frame takes a byte at least, so the length of the
stream is fuel enough. -/
def hostReader (aes : Aes128Gcm) (cipher : Option PskCipher) (rd : Chunks UInt8) :
    Option (List TaskMessage × IoError) :=
  hostReaderLoop aes (rd.bytes.length + 1) cipher rd

/-- A frame as the reader cuts it: the flag and lengths that match. Its protect block may be
anything, and its size is not bounded. -/
structure RawFrame where
  head : PayloadHead
  protect : List UInt8
  payload : List UInt8
  flag_eq : head.flag = packetFlag
  headSize_eq : head.headSize.toNat = protect.length
  dataSize_eq : head.dataSize.toNat = payload.length

namespace RawFrame

def bytes (f : RawFrame) : List UInt8 := f.head.serialize ++ f.protect ++ f.payload

/-- What the shared decoder makes of the frame. -/
def task (f : RawFrame) : Option TaskMessage := (unpackTaskMessage f.bytes).toOption

theorem bytes_pos (f : RawFrame) : 0 < f.bytes.length := by
  simp [bytes, headSize]

end RawFrame

/-! One frame. -/

theorem recvRawHdcFrame_frame (f : RawFrame) {rd : Chunks UInt8} {rest : List UInt8}
    (h : rd.bytes = f.bytes ++ rest) :
    ∃ rd', recvRawHdcFrame rd = .ok (f.bytes, rd') ∧ rd'.bytes = rest := by
  obtain ⟨rd₁, rd₂, rd₃, hr₁, hr₂, hr₃, hb⟩ := readFrame_parts f.head f.protect f.payload h
  have hhead := unpackPayloadHead_serialize f.head f.flag_eq []
  rw [List.append_nil] at hhead
  refine ⟨rd₃, ?_, hb⟩
  simp only [recvRawHdcFrame, hr₁, ok_bind, hhead, f.headSize_eq, f.dataSize_eq, hr₂, hr₃]
  rfl

theorem recvRawHdcFrame_empty {rd : Chunks UInt8} (h : rd.bytes = []) :
    recvRawHdcFrame rd = .error peerShutdown := by
  have hshort : rd.bytes.length < headSize := by simp [h, headSize]
  simp only [recvRawHdcFrame, readFrame_short hshort, error_bind]

section
variable (aes : Aes128Gcm)

/-- One turn of the loop: the frame goes, its task, if it has one, is handed on. -/
theorem hostReaderLoop_frame (f : RawFrame) {rd : Chunks UInt8} {rest : List UInt8}
    (h : rd.bytes = f.bytes ++ rest) :
    ∃ rd', rd'.bytes = rest ∧ ∀ fuel, hostReaderLoop aes (fuel+1) none rd =
      (hostReaderLoop aes fuel none rd').map fun p => (f.task.toList ++ p.1, p.2) := by
  obtain ⟨rd', hr, hb⟩ := recvRawHdcFrame_frame f h
  refine ⟨rd', hb, fun fuel => ?_⟩
  simp only [hostReaderLoop, recvTcpFrame, hr, ok_bind, pure_eq_ok, RawFrame.task]
  cases unpackTaskMessage f.bytes with
  | ok task => rfl
  | error e =>
    simp only [Except.toOption, Option.toList_none, List.nil_append]
    exact Option.map_id'.symm

/-! Whole streams. -/

/-- Frames in front of a stream on which cutting fails: their tasks are all handed on, and
that failure ends the loop. -/
theorem hostReaderLoop_frames {tail : List UInt8} {e : IoError}
    (hstop : ∀ rd : Chunks UInt8, rd.bytes = tail → recvRawHdcFrame rd = .error e)
    (frames : List RawFrame) :
    ∀ (rd : Chunks UInt8) (fuel : Nat), rd.bytes = frames.flatMap RawFrame.bytes ++ tail →
      frames.length < fuel →
      hostReaderLoop aes fuel none rd = some (frames.filterMap RawFrame.task, e) := by
  induction frames with
  | nil =>
    intro rd fuel hrd hfuel
    obtain ⟨fuel, rfl⟩ := Nat.exists_eq_succ_of_ne_zero (Nat.ne_of_gt hfuel)
    simp only [hostReaderLoop, recvTcpFrame, hstop rd hrd, error_bind, List.filterMap_nil]
  | cons f frames ih =>
    intro rd fuel hrd hfuel
    obtain ⟨fuel, rfl⟩ := Nat.exists_eq_succ_of_ne_zero (Nat.ne_of_gt (Nat.zero_lt_of_lt hfuel))
    rw [List.flatMap_cons, List.append_assoc] at hrd
    obtain ⟨rd', hb, hturn⟩ := hostReaderLoop_frame aes f hrd
    rw [hturn, ih rd' fuel hb (by simpa using hfuel), Option.map_some]
    cases ht : f.task with
    | none => simp [ht]
    | some task => simp [ht]

/-- Of any frames, however cut into reads, exactly the tasks of those the decoder accepts
are handed on, in order; the end of the stream ends the loop. -/
theorem frame_synchronisation (frames : List RawFrame) (rd : Chunks UInt8)
    (h : rd.bytes = frames.flatMap RawFrame.bytes) :
    hostReader aes none rd = some (frames.filterMap RawFrame.task, peerShutdown) := by
  have hfuel := Feed.length_le_flatMap RawFrame.bytes_pos frames
  refine hostReaderLoop_frames aes (fun _ => recvRawHdcFrame_empty) frames rd _ ?_ ?_
  · rw [List.append_nil]
    exact h
  · rw [h]
    omega

end

/-- A frame with nothing in it, one with a protect block that ends inside a field, and an
echo with the code and a payload. -/
def sampleFrames : List RawFrame :=
  [⟨⟨packetFlag, (0, 0), 1, 0, 0⟩, [], [], rfl, rfl, rfl⟩,
    ⟨⟨packetFlag, (0, 0), 1, 1, 1⟩, [8], [72], rfl, rfl, rfl⟩,
    ⟨⟨packetFlag, (0, 0), 1, 6, 1⟩, [8, 7, 16, 9, 32, 9], [65], rfl, rfl, rfl⟩]

/-- The same bytes in two reads, the first of which ends inside the bad frame. -/
def sampleStream : Chunks UInt8 where
  pieces := [(sampleFrames.flatMap RawFrame.bytes).take 23,
    (sampleFrames.flatMap RawFrame.bytes).drop 23]
  nonempty := by decide

theorem frame_synchronisation_echo :
    sampleStream.bytes = sampleFrames.flatMap RawFrame.bytes ∧
    hostReader exampleAes none sampleStream = some ([⟨7, .kernelEcho, [65]⟩], peerShutdown) :=
  ⟨by decide, frame_synchronisation exampleAes sampleFrames sampleStream (by decide)⟩

end Hdc
