import Hdc.Tlv

/- The tag-length-value messages of `hdc-protocol/src/serializer.rs` that the
   transports, the session setup and the file transfer exchange:
   `PayloadProtect`, `SessionHandShake`, `TransferConfig`, `FileMode` and
   `TransferPayload`. Each has the source's fields with their defaults, its
   `serialize` and the table of fields its `deserialize` knows. -/
namespace Hdc
open Rust Wire

structure PayloadProtect where
  channelId : UInt32 := 0
  commandFlag : UInt32 := 0
  checkSum : UInt8 := 0
  vCode : UInt8 := 0
  deriving DecidableEq, Repr

structure SessionHandShake where
  banner : String := ""
  authType : UInt8 := 0
  sessionId : UInt32 := 0
  connectKey : String := ""
  buf : String := ""
  version : String := ""
  deriving DecidableEq, Repr

structure TransferConfig where
  fileSize : UInt64 := 0
  atime : UInt64 := 0
  mtime : UInt64 := 0
  options : String := ""
  path : String := ""
  optionalName : String := ""
  updateIfNew : Bool := false
  compressType : UInt8 := 0
  holdTimestamp : Bool := false
  functionName : String := ""
  clientCwd : String := ""
  reserve1 : String := ""
  reserve2 : String := ""
  deriving DecidableEq, Repr

structure FileMode where
  perm : UInt64 := 0
  uId : UInt64 := 0
  gId : UInt64 := 0
  context : String := ""
  fullName : String := ""
  deriving DecidableEq, Repr

structure TransferPayload where
  index : UInt64 := 0
  compressType : UInt8 := 0
  compressSize : UInt32 := 0
  uncompressSize : UInt32 := 0
  deriving DecidableEq, Repr

namespace PayloadProtect

def serialize (p : PayloadProtect) : List UInt8 :=
  (if p.channelId ≠ 0 then writeU32Field 1 p.channelId else []) ++
  (if p.commandFlag ≠ 0 then writeU32Field 2 p.commandFlag else []) ++
  (if p.checkSum ≠ 0 then pushU8Field 3 p.checkSum else []) ++
  (if p.vCode ≠ 0 then pushU8Field 4 p.vCode else [])

def fields : Fields PayloadProtect := fun fieldNumber =>
  match fieldNumber.toNat with
  | 1 => some (.u32 fun v r => { r with channelId := v })
  | 2 => some (.u32 fun v r => { r with commandFlag := v })
  | 3 => some (.u8 "check_sum" fun v r => { r with checkSum := v })
  | 4 => some (.u8 "v_code" fun v r => { r with vCode := v })
  | _ => none

def deserialize (bytes : List UInt8) : IoResult PayloadProtect := decodeTlv fields {} bytes

end PayloadProtect

namespace SessionHandShake

def serialize (h : SessionHandShake) : List UInt8 :=
  writeStringField 1 h.banner ++
  -- `auth_type` is written even when it is zero
  pushU8Field 2 h.authType ++
  (if h.sessionId ≠ 0 then writeU32Field 3 h.sessionId else []) ++
  writeStringField 4 h.connectKey ++
  writeStringField 5 h.buf ++
  writeStringField 6 h.version

def fields : Fields SessionHandShake := fun fieldNumber =>
  match fieldNumber.toNat with
  | 1 => some (.string fun v r => { r with banner := v })
  | 2 => some (.u8 "auth_type" fun v r => { r with authType := v })
  | 3 => some (.u32 fun v r => { r with sessionId := v })
  | 4 => some (.string fun v r => { r with connectKey := v })
  | 5 => some (.string fun v r => { r with buf := v })
  | 6 => some (.string fun v r => { r with version := v })
  | _ => none

def deserialize (bytes : List UInt8) : IoResult SessionHandShake := decodeTlv fields {} bytes

end SessionHandShake

namespace TransferConfig

def serialize (c : TransferConfig) : List UInt8 :=
  writeU64Field 1 c.fileSize ++
  writeU64Field 2 c.atime ++
  writeU64Field 3 c.mtime ++
  writeStringField 4 c.options ++
  writeStringField 5 c.path ++
  writeStringField 6 c.optionalName ++
  writeBoolField 7 c.updateIfNew ++
  (if c.compressType ≠ 0 then pushU8Field 8 c.compressType else []) ++
  writeBoolField 9 c.holdTimestamp ++
  writeStringField 10 c.functionName ++
  writeStringField 11 c.clientCwd ++
  writeStringField 12 c.reserve1 ++
  writeStringField 13 c.reserve2

def fields : Fields TransferConfig := fun fieldNumber =>
  match fieldNumber.toNat with
  | 1 => some (.u64 fun v r => { r with fileSize := v })
  | 2 => some (.u64 fun v r => { r with atime := v })
  | 3 => some (.u64 fun v r => { r with mtime := v })
  | 4 => some (.string fun v r => { r with options := v })
  | 5 => some (.string fun v r => { r with path := v })
  | 6 => some (.string fun v r => { r with optionalName := v })
  | 7 => some (.bool fun v r => { r with updateIfNew := v })
  | 8 => some (.u8 "compress_type" fun v r => { r with compressType := v })
  | 9 => some (.bool fun v r => { r with holdTimestamp := v })
  | 10 => some (.string fun v r => { r with functionName := v })
  | 11 => some (.string fun v r => { r with clientCwd := v })
  | 12 => some (.string fun v r => { r with reserve1 := v })
  | 13 => some (.string fun v r => { r with reserve2 := v })
  | _ => none

def deserialize (bytes : List UInt8) : IoResult TransferConfig := decodeTlv fields {} bytes

end TransferConfig

namespace FileMode

def serialize (m : FileMode) : List UInt8 :=
  writeU64Field 1 m.perm ++
  writeU64Field 2 m.uId ++
  writeU64Field 3 m.gId ++
  writeStringField 4 m.context ++
  writeStringField 5 m.fullName

def fields : Fields FileMode := fun fieldNumber =>
  match fieldNumber.toNat with
  | 1 => some (.u64 fun v r => { r with perm := v })
  | 2 => some (.u64 fun v r => { r with uId := v })
  | 3 => some (.u64 fun v r => { r with gId := v })
  | 4 => some (.string fun v r => { r with context := v })
  | 5 => some (.string fun v r => { r with fullName := v })
  | _ => none

def deserialize (bytes : List UInt8) : IoResult FileMode := decodeTlv fields {} bytes

end FileMode

namespace TransferPayload

def serialize (p : TransferPayload) : List UInt8 :=
  writeU64Field 1 p.index ++
  (if p.compressType ≠ 0 then pushU8Field 2 p.compressType else []) ++
  (if p.compressSize ≠ 0 then writeU32Field 3 p.compressSize else []) ++
  (if p.uncompressSize ≠ 0 then writeU32Field 4 p.uncompressSize else [])

def fields : Fields TransferPayload := fun fieldNumber =>
  match fieldNumber.toNat with
  | 1 => some (.u64 fun v r => { r with index := v })
  | 2 => some (.u8 "compress_type" fun v r => { r with compressType := v })
  | 3 => some (.u32 fun v r => { r with compressSize := v })
  | 4 => some (.u32 fun v r => { r with uncompressSize := v })
  | _ => none

def deserialize (bytes : List UInt8) : IoResult TransferPayload := decodeTlv fields {} bytes

end TransferPayload

/-! Optional fields: the guard around a writer repeats its own test. -/

theorem ite_writeU32Field (n v : UInt32) :
    (if v ≠ 0 then writeU32Field n v else []) = writeU32Field n v := by
  unfold writeU32Field
  by_cases h : v = 0 <;> simp [h]

theorem writeTag_length {n w : UInt32} (hn : n.toNat < 16) (hw : w.toNat < 8) :
    (writeTag n w).length = 1 := by
  rw [writeTag_eq, leb128_of_lt]
  · rfl
  · rw [makeTag_toNat (by omega) hw]; omega

theorem writeU32Field_length {n : UInt32} (hn : n.toNat < 16) {v : UInt32} (hv : v ≠ 0) :
    (writeU32Field n v).length = 1 + (leb128 v.toNat).length := by
  rw [writeU32Field, if_neg hv, List.length_append, writeTag_length hn (by decide),
    writeVarintU32_eq]

theorem writeU64Field_length {n : UInt32} (hn : n.toNat < 16) {v : UInt64} (hv : v ≠ 0) :
    (writeU64Field n v).length = 1 + (leb128 v.toNat).length := by
  rw [writeU64Field, if_neg hv, List.length_append, writeTag_length hn (by decide),
    writeVarintU64_eq]

theorem writeU32Field_length_le {n : UInt32} (hn : n.toNat < 16) (v : UInt32) :
    (writeU32Field n v).length ≤ 6 := by
  by_cases hv : v = 0
  · simp [writeU32Field, hv]
  · rw [writeU32Field_length hn hv]
    have := leb128_length_le (k := 5) (by decide) (Nat.lt_trans v.toNat_lt (by decide))
    omega

theorem pushU8Field_length {n : UInt32} (hn : n.toNat < 16) (v : UInt8) :
    (pushU8Field n v).length = 2 := by
  rw [pushU8Field, List.length_append, writeTag_length hn (by decide)]; rfl

/-- Decoding over an optional pushed byte, in either case. -/
theorem decodeTlv_ite_pushU8Field {α : Type} {fields : Fields α} {n : UInt32} (result : α)
    (rest : List UInt8) (hn : n.toNat < 2^29) {field : String} {set : UInt8 → α → α}
    (hf : fields n = some (.u8 field set)) (value : UInt8) (hv : value.toNat < 128)
    (h0 : set 0 result = result) :
    decodeTlv fields result ((if value ≠ 0 then pushU8Field n value else []) ++ rest) =
      decodeTlv fields (set value result) rest := by
  by_cases h : value = 0
  · rw [if_neg (by simp [h]), h, h0, List.nil_append]
  · rw [if_pos h]
    exact decodeTlv_pushU8Field result rest hn hf value hv

/-! `PayloadProtect`. -/

namespace PayloadProtect

theorem deserialize_serialize (p : PayloadProtect) (hc : p.checkSum.toNat < 128)
    (hv : p.vCode.toNat < 128) : deserialize p.serialize = .ok p := by
  simp only [deserialize, serialize, ite_writeU32Field, List.append_assoc]
  rw [decodeTlv_writeU32Field _ _ (by decide) rfl _ rfl,
    decodeTlv_writeU32Field _ _ (by decide) rfl _ rfl,
    decodeTlv_ite_pushU8Field _ _ (by decide) rfl _ hc rfl,
    ← List.append_nil (if p.vCode ≠ 0 then pushU8Field 4 p.vCode else []),
    decodeTlv_ite_pushU8Field _ _ (by decide) rfl _ hv rfl, decodeTlv_nil]

theorem serialize_length_le (p : PayloadProtect) : p.serialize.length ≤ 16 := by
  have h1 := writeU32Field_length_le (n := 1) (by decide) p.channelId
  have h2 := writeU32Field_length_le (n := 2) (by decide) p.commandFlag
  have hu : ∀ (n : UInt32), n.toNat < 16 → ∀ v : UInt8,
      (if v ≠ 0 then pushU8Field n v else []).length ≤ 2 := by
    intro n hn v
    split
    · rw [pushU8Field_length hn]
    · simp
  have h3 := hu 3 (by decide) p.checkSum
  have h4 := hu 4 (by decide) p.vCode
  simp only [serialize, ite_writeU32Field, List.length_append]
  omega

end PayloadProtect

/-! `TransferPayload`, also behind zero padding. -/

namespace TransferPayload

theorem decodeTlv_serialize (p : TransferPayload) (hc : p.compressType.toNat < 128)
    (rest : List UInt8) :
    decodeTlv fields {} (p.serialize ++ rest) = decodeTlv fields p rest := by
  simp only [serialize, ite_writeU32Field, List.append_assoc]
  rw [decodeTlv_writeU64Field _ _ (by decide) rfl _ rfl,
    decodeTlv_ite_pushU8Field _ _ (by decide) rfl _ hc rfl,
    decodeTlv_writeU32Field _ _ (by decide) rfl _ rfl,
    decodeTlv_writeU32Field _ _ (by decide) rfl _ rfl]

/-- A serialized payload followed by `k` zero bytes decodes to itself when `k`
is even, and is refused when `k` is odd. -/
theorem deserialize_serialize_zeros (p : TransferPayload) (hc : p.compressType.toNat < 128) (k : Nat) :
    deserialize (p.serialize ++ List.replicate k 0) =
      if k % 2 = 0 then .ok p else invalidData "truncated varint" := by
  rw [deserialize, decodeTlv_serialize p hc, decodeTlv_zeros rfl]

end TransferPayload

end Hdc
