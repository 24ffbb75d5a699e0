import Hdc.Config
import Hdc.Messages
import Mathlib.Data.Nat.Log
import Mathlib.Tactic.IntervalCases

/- File data on the wire (`hdc/src/server.rs`): how `handle_server_file_send`
   frames each read of the local file, and what the `FileData` branch of
   `handle_server_file_recv` does with such a payload.

   A chunk travels behind a 64-byte head: a serialized `TransferPayload` and
   zero padding. The receiver parses the padding too, two zero bytes as one
   unknown field, so the head parses only when the serialized part has even
   length, and that depends on the varint of the running offset alone
   (`deserialize_paddedHead`). A head that does not parse goes into the file
   with its chunk. `recvChunks` says what a whole transfer writes, and
   `chunks_round_trip_iff` for which transfers that is the content. -/
namespace Hdc
open Rust Wire

/-- The bytes reserved for the `TransferPayload` of a chunk. -/
def fileHeadSize : Nat := 64

def chunkSize : Nat := maxSizeIobuf - fileHeadSize

/-- The successive results of `file.read(&mut buf)` on a file, up to the empty
one at its end: any cut of the content into non-empty pieces that fit the
buffer. -/
structure FileReads (content : List UInt8) where
  pieces : List (List UInt8)
  flatten_eq : pieces.flatten = content
  ne_nil : ∀ c ∈ pieces, c ≠ []
  length_le : ∀ c ∈ pieces, c.length ≤ chunkSize

/-! The sender. -/

/-- The `payload_head` of a chunk of `n` bytes at `offset`. -/
def chunkHead (offset : UInt64) (n : Nat) : TransferPayload where
  index := offset
  compressType := 0
  compressSize := UInt32.ofNat n
  uncompressSize := UInt32.ofNat n

/-- `vec![0u8; 64]` with the head copied over its front. -/
def paddedHead (payloadHead : TransferPayload) : List UInt8 :=
  let headBytes := payloadHead.serialize
  headBytes.take (min headBytes.length fileHeadSize) ++
    List.replicate (fileHeadSize - min headBytes.length fileHeadSize) 0

/-- The `FileData` payloads of the read loop, from the offset it has reached. -/
def chunkPayloads : UInt64 → List (List UInt8) → List (List UInt8)
  | _, [] => []
  | offset, buf :: reads =>
    if buf.length = 0 then []
    else (paddedHead (chunkHead offset buf.length) ++ buf) ::
      chunkPayloads (offset + UInt64.ofNat buf.length) reads

/-- The heads of the same loop. -/
def chunkHeads : UInt64 → List (List UInt8) → List TransferPayload
  | _, [] => []
  | offset, buf :: reads =>
    chunkHead offset buf.length :: chunkHeads (offset + UInt64.ofNat buf.length) reads

/-- One more chunk, at the offset the others have reached. -/
theorem chunkPayloads_concat {reads : List (List UInt8)} {buf : List UInt8}
    (hreads : ∀ c ∈ reads, c ≠ []) (hbuf : buf ≠ []) (offset : UInt64) :
    chunkPayloads offset (reads ++ [buf]) = chunkPayloads offset reads ++
      [paddedHead (chunkHead (offset + UInt64.ofNat reads.flatten.length) buf.length) ++ buf] := by
  induction reads generalizing offset with
  | nil => simp [chunkPayloads, hbuf]
  | cons c reads ih =>
    have hc : c.length ≠ 0 := by simpa using hreads c List.mem_cons_self
    simp only [List.cons_append, chunkPayloads, if_neg hc, List.flatten_cons, List.length_append,
      UInt64.ofNat_add, ← UInt64.add_assoc, ih fun c h => hreads c (List.mem_cons_of_mem _ h)]

/-! The receiver. -/

/-- What the receive loop of `handle_server_file_recv` carries: the local file
as written so far, its two variables, and what it has sent to the session. -/
structure FileRecv where
  file : List UInt8
  totalReceived : UInt64
  fileFinishSent : Bool
  sent : List TaskMessage
  deriving DecidableEq, Repr

/-- The `FileData` branch. -/
def recvFileData (channelId : UInt32) (fileSize : UInt64) (st : FileRecv)
    (payload : List UInt8) : FileRecv :=
  if payload.length < fileHeadSize then st
  else match TransferPayload.deserialize (payload.take fileHeadSize) with
    | .error _ =>
      { st with
        file := st.file ++ payload
        totalReceived := st.totalReceived + UInt64.ofNat payload.length }
    | .ok _ =>
      let dataBytes := payload.drop fileHeadSize
      let totalReceived := st.totalReceived + UInt64.ofNat dataBytes.length
      let st := { st with file := st.file ++ dataBytes, totalReceived }
      if !st.fileFinishSent && fileSize ≤ totalReceived then
        { st with sent := st.sent ++ [⟨channelId, .fileFinish, [1]⟩], fileFinishSent := true }
      else st

/-! One head. -/

/-- The offset is absent from the head, or its varint has odd length. -/
def OddVarint (offset : UInt64) : Prop := offset = 0 ∨ (writeVarintU64 offset).length % 2 = 1

instance (offset : UInt64) : Decidable (OddVarint offset) := inferInstanceAs (Decidable (_ ∨ _))

/-- The offsets whose varint has 1, 3, 5, 7 or 9 bytes. -/
theorem oddVarint_iff (offset : UInt64) :
    OddVarint offset ↔
      let n := offset.toNat
      n < 2^7 ∨ 2^14 ≤ n ∧ n < 2^21 ∨ 2^28 ≤ n ∧ n < 2^35 ∨ 2^42 ≤ n ∧ n < 2^49 ∨
        2^56 ≤ n ∧ n < 2^63 := by
  have hzero : offset = 0 ↔ offset.toNat = 0 := by
    rw [← UInt64.toNat_inj]
    rfl
  have hlt : offset.toNat < 2^64 := offset.toNat_lt
  rw [OddVarint, hzero, writeVarintU64_eq]
  generalize offset.toNat = n at hlt ⊢
  -- `k` is the number of 7-bit groups after the first
  obtain ⟨k, hk, hhi, hlo⟩ : ∃ k, k < 10 ∧ n < 128^(k+1) ∧ (0 < k → 128^k ≤ n) := by
    refine ⟨Nat.log 128 n, ?_, Nat.lt_pow_succ_log_self (by omega) n, ?_⟩
    · apply Nat.log_lt_of_lt_pow' (by omega)
      omega
    · intro hpos
      have hge := (Nat.log_pos_iff.mp hpos).1
      exact Nat.pow_log_le_self 128 (by omega)
  rw [leb128_length_eq k n hhi hlo]
  interval_cases k <;> simp at hhi hlo ⊢ <;> omega

theorem chunkHead_serialize_length (offset : UInt64) (n : Nat) :
    ∃ k, k ≤ 6 ∧ (chunkHead offset n).serialize.length =
      (if offset = 0 then 0 else 1 + (writeVarintU64 offset).length) + 2 * k := by
  have hindex : (writeU64Field 1 offset).length =
      if offset = 0 then 0 else 1 + (writeVarintU64 offset).length := by
    split
    · simp [writeU64Field, *]
    · rw [writeU64Field_length (by decide) ‹_›, writeVarintU64_eq]
  -- the two sizes are equal, so their fields are equally long
  have hsizes : (writeU32Field 4 (UInt32.ofNat n)).length =
      (writeU32Field 3 (UInt32.ofNat n)).length := by
    by_cases hn : UInt32.ofNat n = 0
    · simp [writeU32Field, hn]
    · rw [writeU32Field_length (by decide) hn, writeU32Field_length (by decide) hn]
  refine ⟨(writeU32Field 3 (UInt32.ofNat n)).length, writeU32Field_length_le (by decide) _, ?_⟩
  have hserialize : (chunkHead offset n).serialize = writeU64Field 1 offset ++
      (writeU32Field 3 (UInt32.ofNat n) ++ writeU32Field 4 (UInt32.ofNat n)) := by
    rw [TransferPayload.serialize, ite_writeU32Field, ite_writeU32Field]
    simp [chunkHead]
  rw [hserialize, List.length_append, List.length_append, hindex, hsizes]
  omega

theorem chunkHead_serialize_length_le (offset : UInt64) (n : Nat) :
    (chunkHead offset n).serialize.length ≤ fileHeadSize := by
  obtain ⟨k, hk, hlen⟩ := chunkHead_serialize_length offset n
  have := leb128_length_le (k := 10) (v := offset.toNat) (by decide)
    (Nat.lt_trans offset.toNat_lt (by decide))
  rw [← writeVarintU64_eq] at this
  rw [hlen, fileHeadSize]
  split <;> omega

theorem chunkHead_serialize_even_iff (offset : UInt64) (n : Nat) :
    (chunkHead offset n).serialize.length % 2 = 0 ↔ OddVarint offset := by
  obtain ⟨k, -, hlen⟩ := chunkHead_serialize_length offset n
  rw [hlen, OddVarint]
  split
  · simp [*]
  · simp only [*, false_or]
    omega

theorem paddedHead_chunkHead (offset : UInt64) (n : Nat) :
    paddedHead (chunkHead offset n) = (chunkHead offset n).serialize ++
      List.replicate (fileHeadSize - (chunkHead offset n).serialize.length) 0 := by
  simp only [paddedHead, Nat.min_eq_left (chunkHead_serialize_length_le offset n), List.take_length]

theorem paddedHead_length (offset : UInt64) (n : Nat) :
    (paddedHead (chunkHead offset n)).length = fileHeadSize := by
  have := chunkHead_serialize_length_le offset n
  rw [paddedHead_chunkHead, List.length_append, List.length_replicate]
  omega

/-- The head of a chunk is read back exactly when its offset allows it. -/
theorem deserialize_paddedHead (offset : UInt64) (n : Nat) :
    TransferPayload.deserialize (paddedHead (chunkHead offset n)) =
      if OddVarint offset then .ok (chunkHead offset n) else invalidData "truncated varint" := by
  rw [paddedHead_chunkHead,
    TransferPayload.deserialize_serialize_zeros _ (show (0 : UInt8).toNat < 128 by decide)]
  have hle := chunkHead_serialize_length_le offset n
  have heven := chunkHead_serialize_even_iff offset n
  have hpad : (fileHeadSize - (chunkHead offset n).serialize.length) % 2 = 0 ↔ OddVarint offset := by
    rw [← heven, fileHeadSize] at *
    omega
  simp only [hpad]

/-! Whole transfers. -/

/-- What the receiver writes for a list of reads. -/
def written : UInt64 → List (List UInt8) → List UInt8
  | _, [] => []
  | offset, buf :: reads =>
    (if OddVarint offset then buf else paddedHead (chunkHead offset buf.length) ++ buf) ++
      written (offset + UInt64.ofNat buf.length) reads

theorem recvFileData_chunk (channelId : UInt32) (fileSize : UInt64) (st : FileRecv)
    (offset : UInt64) (buf : List UInt8) :
    let out := if OddVarint offset then buf else paddedHead (chunkHead offset buf.length) ++ buf
    let st' := recvFileData channelId fileSize st (paddedHead (chunkHead offset buf.length) ++ buf)
    st'.file = st.file ++ out ∧ st'.totalReceived = st.totalReceived + UInt64.ofNat out.length := by
  have hlen := paddedHead_length offset buf.length
  have htake : (paddedHead (chunkHead offset buf.length) ++ buf).take fileHeadSize =
      paddedHead (chunkHead offset buf.length) := by rw [← hlen, List.take_left]
  have hdrop : (paddedHead (chunkHead offset buf.length) ++ buf).drop fileHeadSize = buf := by
    rw [← hlen, List.drop_left]
  simp only [recvFileData, htake, hdrop, deserialize_paddedHead]
  rw [if_neg (by rw [List.length_append, hlen]; omega)]
  by_cases h : OddVarint offset
  · simp only [if_pos h]
    split <;> exact ⟨rfl, rfl⟩
  · simp only [if_neg h]
    exact ⟨rfl, rfl⟩

/-- A whole transfer appends `written` and counts its length, from any state of
the receiver. -/
theorem recvChunks (channelId : UInt32) (fileSize : UInt64) (reads : List (List UInt8))
    (offset : UInt64) (st : FileRecv) (hne : ∀ c ∈ reads, c ≠ []) :
    let st' := (chunkPayloads offset reads).foldl (recvFileData channelId fileSize) st
    st'.file = st.file ++ written offset reads ∧
      st'.totalReceived = st.totalReceived + UInt64.ofNat (written offset reads).length := by
  induction reads generalizing offset st with
  | nil => simp [chunkPayloads, written]
  | cons buf reads ih =>
    have hbuf : buf.length ≠ 0 := by
      simpa using hne buf List.mem_cons_self
    obtain ⟨hfile, htotal⟩ := recvFileData_chunk channelId fileSize st offset buf
    -- the rest of the transfer, from where this chunk leaves the receiver
    obtain ⟨hfile', htotal'⟩ := ih (offset + UInt64.ofNat buf.length)
      (recvFileData channelId fileSize st (paddedHead (chunkHead offset buf.length) ++ buf))
      (fun c hc => hne c (List.mem_cons_of_mem buf hc))
    simp only [chunkPayloads, if_neg hbuf, List.foldl_cons, written]
    refine ⟨?_, ?_⟩
    · rw [hfile', hfile, List.append_assoc]
    · rw [htotal', htotal, List.length_append, UInt64.ofNat_add, ← UInt64.add_assoc]

theorem written_of_oddVarint (reads : List (List UInt8)) (offset : UInt64)
    (hodd : ∀ h ∈ chunkHeads offset reads, OddVarint h.index) :
    written offset reads = reads.flatten := by
  induction reads generalizing offset with
  | nil => rfl
  | cons buf reads ih =>
    have hhead : OddVarint offset := hodd _ List.mem_cons_self
    simp only [written, if_pos hhead, List.flatten_cons]
    rw [ih]
    intro h hh
    exact hodd h (List.mem_cons_of_mem _ hh)

/-- Every head that is not read back leaves its 64 bytes in the file. -/
theorem written_length (reads : List (List UInt8)) (offset : UInt64) :
    (written offset reads).length = reads.flatten.length +
      fileHeadSize * (chunkHeads offset reads).countP (fun h => !decide (OddVarint h.index)) := by
  induction reads generalizing offset with
  | nil => rfl
  | cons buf reads ih =>
    have hindex : (chunkHead offset buf.length).index = offset := rfl
    rw [written, List.length_append, ih, List.flatten_cons, List.length_append,
      chunkHeads, List.countP_cons, hindex]
    by_cases h : OddVarint offset
    · rw [if_pos h, if_neg (by simp [h]), Nat.add_zero]
      omega
    · rw [if_neg h, if_pos (by simp [h]), List.length_append, paddedHead_length, Nat.mul_add]
      omega

/-- The receiver writes the content exactly when every head is readable. -/
theorem written_eq_flatten_iff (reads : List (List UInt8)) (offset : UInt64) :
    written offset reads = reads.flatten ↔ ∀ h ∈ chunkHeads offset reads, OddVarint h.index := by
  refine ⟨fun heq => ?_, written_of_oddVarint reads offset⟩
  have hlen := written_length reads offset
  rw [heq] at hlen
  have hzero : (chunkHeads offset reads).countP (fun h => !decide (OddVarint h.index)) = 0 := by
    simp only [fileHeadSize] at hlen
    omega
  rw [List.countP_eq_zero] at hzero
  intro h hh
  simpa using hzero h hh

theorem mem_chunkHeads {reads : List (List UInt8)} {offset : UInt64} {h : TransferPayload}
    (hh : h ∈ chunkHeads offset reads) : ∃ n, h = chunkHead h.index n := by
  induction reads generalizing offset with
  | nil => simp [chunkHeads] at hh
  | cons buf reads ih =>
    rcases List.mem_cons.mp hh with rfl | hh
    · exact ⟨buf.length, rfl⟩
    · exact ih hh

/-- A transfer of `content` cut into `reads`, received from the state `st`: the
content and nothing else is appended, its length is added to the count, and
every head is read back. -/
def ChunksRoundTrip (channelId : UInt32) (fileSize : UInt64) (st : FileRecv)
    (content : List UInt8) (reads : FileReads content) : Prop :=
  let st' := (chunkPayloads 0 reads.pieces).foldl (recvFileData channelId fileSize) st
  st'.file = st.file ++ content ∧
    st'.totalReceived = st.totalReceived + UInt64.ofNat content.length ∧
    ∀ h ∈ chunkHeads 0 reads.pieces, TransferPayload.deserialize (paddedHead h) = .ok h

/-- A transfer round-trips exactly when the offset of each of its chunks is zero
or has a varint of odd length. -/
theorem chunks_round_trip_iff (channelId : UInt32) (fileSize : UInt64) (st : FileRecv)
    (content : List UInt8) (reads : FileReads content) :
    ChunksRoundTrip channelId fileSize st content reads ↔
      ∀ h ∈ chunkHeads 0 reads.pieces, OddVarint h.index := by
  have hheads : ∀ h ∈ chunkHeads 0 reads.pieces,
      TransferPayload.deserialize (paddedHead h) = .ok h ↔ OddVarint h.index := by
    intro h hh
    obtain ⟨n, hn⟩ := mem_chunkHeads hh
    rw [hn, deserialize_paddedHead]
    by_cases ho : OddVarint h.index <;> simp [ho, chunkHead]
  obtain ⟨hfile, htotal⟩ := recvChunks channelId fileSize reads.pieces 0 st reads.ne_nil
  have hw := written_eq_flatten_iff reads.pieces 0
  rw [reads.flatten_eq] at hw
  unfold ChunksRoundTrip
  constructor
  · rintro ⟨hcontent, -⟩
    rw [hfile, List.append_cancel_left_eq] at hcontent
    exact hw.mp hcontent
  · intro hodd
    rw [hw.mpr hodd] at hfile htotal
    exact ⟨hfile, htotal, fun h hh => (hheads h hh).mpr (hodd h hh)⟩

/-- A file of 129 zero bytes, read in two pieces. -/
def lateReads : FileReads (List.replicate 129 0) where
  pieces := [List.replicate 128 0, [0]]
  flatten_eq := by decide
  ne_nil := by decide
  length_le := by simp [chunkSize, maxSizeIobuf, fileHeadSize]

theorem lateReads_not_round_trip :
    ¬ ChunksRoundTrip 7 129 ⟨[], 0, false, []⟩ (List.replicate 129 0) lateReads := by
  rintro ⟨-, -, hheads⟩
  have hmem : chunkHead 128 1 ∈ chunkHeads 0 lateReads.pieces := by
    simp only [lateReads, chunkHeads, List.length_replicate]
    exact .tail _ (.head _)
  have h := hheads _ hmem
  revert h
  decide

end Hdc
