import Hdc.Messages

/- What a tag-length-value message means (the five `deserialize` functions of
   `hdc-protocol/src/serializer.rs`), whoever wrote it: a sequence of records, each
   a tag and a value, in any order, with repetitions and with field numbers the
   decoder has never heard of.

   `TlvRecord.bytes` is the minimal encoding of a record and `storeRecords` what
   the records stand for: the default value, changed by one record after the other.
   `decodeTlv_record` is the one turn of the loop that a record takes, and
   `records_decode` says it of whole messages. -/
namespace Hdc
open Rust Wire

/-! Records. -/

/-- The value of a record, by its wire type. -/
inductive WireValue where
  | varint (v : Nat)
  | fixed64 (data : List UInt8)
  | lengthDelimited (data : List UInt8)
  | fixed32 (data : List UInt8)
  deriving DecidableEq, Repr

namespace WireValue

def wireType : WireValue → UInt32
  | .varint _ => wireVarint
  | .fixed64 _ => wireFixed64
  | .lengthDelimited _ => wireLengthDelimited
  | .fixed32 _ => wireFixed32

/-- Numbers and lengths are minimal varints. -/
def bytes : WireValue → List UInt8
  | .varint v => leb128 v
  | .fixed64 data => data
  | .lengthDelimited data => leb128 data.length ++ data
  | .fixed32 data => data

/-- The value is whole, and its number fits the widest reader. -/
def complete : WireValue → Bool
  | .varint v => v < 2^64
  | .fixed64 data => data.length = 8
  | .lengthDelimited data => data.length < 2^32
  | .fixed32 data => data.length = 4

theorem wireType_lt (value : WireValue) : value.wireType.toNat < 8 := by
  cases value <;> simp [wireType, wireVarint, wireFixed64, wireLengthDelimited, wireFixed32]

end WireValue

structure TlvRecord where
  fieldNumber : UInt32
  value : WireValue
  deriving DecidableEq, Repr

def TlvRecord.bytes (r : TlvRecord) : List UInt8 :=
  leb128 (r.value.wireType.toNat + r.fieldNumber.toNat * 8) ++ r.value.bytes

section
variable {α : Type}

/-- The value is of the wire type a known field is read at, and fits it. -/
def Field.expects : Field α → WireValue → Bool
  | .u8 .., .varint v | .u32 _, .varint v | .bool _, .varint v => v < 2^32
  | .u64 _, .varint v => v < 2^64
  | .string _, .lengthDelimited data => data.length < 2^32 && (fromUtf8 data).isSome
  | _, _ => false

/-- What a known field makes of a value it expects: a `u8` keeps the low eight bits. -/
def Field.store (f : Field α) (value : WireValue) (result : α) : α :=
  match f, value with
  | .u8 _ set, .varint v => set (UInt8.ofNat (v % 256)) result
  | .u32 set, .varint v => set (UInt32.ofNat v) result
  | .u64 set, .varint v => set (UInt64.ofNat v) result
  | .bool set, .varint v => set (decide (v ≠ 0)) result
  | .string set, .lengthDelimited data => set ((fromUtf8 data).getD "") result
  | _, _ => result

/-- A complete record that the decoder with these fields can take: a known field is
of its own wire type, an unknown one of any. -/
def TlvRecord.wellFormed (fields : Fields α) (r : TlvRecord) : Bool :=
  r.fieldNumber.toNat < 2^29 &&
    match fields r.fieldNumber with
    | some f => f.expects r.value
    | none => r.value.complete

def TlvRecord.store (fields : Fields α) (result : α) (r : TlvRecord) : α :=
  match fields r.fieldNumber with
  | some f => f.store r.value result
  | none => result

/-- The records from left to right, so that the last write of a field wins. -/
def storeRecords (fields : Fields α) (result : α) (records : List TlvRecord) : α :=
  records.foldl (TlvRecord.store fields) result

def encodeRecords (records : List TlvRecord) : List UInt8 := records.flatMap TlvRecord.bytes

/-! One record. -/

theorem TlvRecord.bytes_eq {r : TlvRecord} (hn : r.fieldNumber.toNat < 2^29) :
    r.bytes = writeTag r.fieldNumber r.value.wireType ++ r.value.bytes := by
  rw [TlvRecord.bytes, writeTag_eq, makeTag_toNat hn r.value.wireType_lt]

theorem readVarintU32_number {v : Nat} (hv : v < 2^32) (rest : List UInt8) :
    readVarintU32 (leb128 v ++ rest) = .ok (UInt32.ofNat v, rest) := by
  simp [readVarintU32, readVarint_leb128 (w := 32) (by decide) hv]

theorem readVarintU64_number {v : Nat} (hv : v < 2^64) (rest : List UInt8) :
    readVarintU64 (leb128 v ++ rest) = .ok (UInt64.ofNat v, rest) := by
  simp [readVarintU64, readVarint_leb128 (w := 64) (by decide) hv]

theorem toNat_ofNat_u32 {v : Nat} (hv : v < 2^32) : (UInt32.ofNat v).toNat = v := by
  rw [UInt32.toNat_ofNat']
  exact Nat.mod_eq_of_lt hv

/-- A known field reads a value it expects, and leaves what follows it. -/
theorem Field.read_value (f : Field α) {value : WireValue} (h : f.expects value = true)
    (result : α) (rest : List UInt8) :
    f.read value.wireType (value.bytes ++ rest) result = .ok (f.store value result, rest) := by
  cases f with
  | u8 field set =>
    cases value with
    | varint v =>
      have hv : v < 2^32 := of_decide_eq_true h
      have hlow : (UInt32.ofNat v).toUInt8 = UInt8.ofNat (v % 256) := by
        apply UInt8.toNat_inj.mp
        rw [UInt32.toNat_toUInt8, toNat_ofNat_u32 hv]
        simp
      simp [Field.read, readU8Field, WireValue.wireType, WireValue.bytes, readVarintU32_number hv,
        Field.store, hlow]
    | fixed64 _ | lengthDelimited _ | fixed32 _ => cases h
  | u32 set =>
    cases value with
    | varint v =>
      simp [Field.read, readU32Field, WireValue.wireType, WireValue.bytes,
        readVarintU32_number (of_decide_eq_true h), Field.store]
    | fixed64 _ | lengthDelimited _ | fixed32 _ => cases h
  | u64 set =>
    cases value with
    | varint v =>
      simp [Field.read, readU64Field, WireValue.wireType, WireValue.bytes,
        readVarintU64_number (of_decide_eq_true h), Field.store]
    | fixed64 _ | lengthDelimited _ | fixed32 _ => cases h
  | bool set =>
    cases value with
    | varint v =>
      have hv : v < 2^32 := of_decide_eq_true h
      have hzero : (UInt32.ofNat v != 0) = decide (v ≠ 0) := by
        rw [Bool.eq_iff_iff, bne_iff_ne, decide_eq_true_iff, Ne, ← UInt32.toNat_inj,
          toNat_ofNat_u32 hv]
        rfl
      simp [Field.read, readBoolField, WireValue.wireType, WireValue.bytes,
        readVarintU32_number hv, Field.store, hzero]
    | fixed64 _ | lengthDelimited _ | fixed32 _ => cases h
  | string set =>
    cases value with
    | lengthDelimited data =>
      simp only [Field.expects, Bool.and_eq_true, decide_eq_true_eq] at h
      obtain ⟨hlen, hutf8⟩ := h
      obtain ⟨s, hs⟩ := Option.isSome_iff_exists.mp hutf8
      simp [Field.read, readStringField, WireValue.wireType, WireValue.bytes,
        readVarintU32_number hlen, toNat_ofNat_u32 hlen, hs, Field.store]
    | varint _ | fixed64 _ | fixed32 _ => cases h

theorem skipField_value {value : WireValue} (h : value.complete = true) (rest : List UInt8) :
    skipField value.wireType (value.bytes ++ rest) = .ok rest := by
  cases value with
  | varint v =>
    simp [skipField, WireValue.wireType, WireValue.bytes,
      readVarintU64_number (of_decide_eq_true h)]
  | fixed64 data =>
    have hlen : data.length = 8 := of_decide_eq_true h
    simp [skipField, WireValue.wireType, WireValue.bytes, wireFixed64, wireVarint,
      List.drop_left' hlen]
  | lengthDelimited data =>
    have hlen : data.length < 2^32 := of_decide_eq_true h
    simp [skipField, WireValue.wireType, WireValue.bytes, wireLengthDelimited, wireFixed64,
      wireVarint, readVarintU32_number hlen, toNat_ofNat_u32 hlen]
  | fixed32 data =>
    have hlen : data.length = 4 := of_decide_eq_true h
    simp [skipField, WireValue.wireType, WireValue.bytes, wireFixed32, wireLengthDelimited,
      wireFixed64, wireVarint, List.drop_left' hlen]

/-- The turn of the loop that one record takes. -/
theorem decodeTlv_record {fields : Fields α} {r : TlvRecord} (h : r.wellFormed fields = true)
    (result : α) (rest : List UInt8) :
    decodeTlv fields result (r.bytes ++ rest) = decodeTlv fields (r.store fields result) rest := by
  simp only [TlvRecord.wellFormed, Bool.and_eq_true, decide_eq_true_eq] at h
  obtain ⟨hn, hvalue⟩ := h
  rw [TlvRecord.bytes_eq hn]
  unfold TlvRecord.store
  cases hf : fields r.fieldNumber with
  | some f =>
    rw [hf] at hvalue
    exact decodeTlv_writeTag result rest hn r.value.wireType_lt hf (f.read_value hvalue result rest)
  | none =>
    rw [hf] at hvalue
    rw [List.append_assoc, decodeTlv_cons (by simp [writeTag_ne_nil]),
      tlvStep_writeTag _ _ hn r.value.wireType_lt, hf]
    simp only [skipField_value hvalue, ok_bind]

/-! Messages. -/

theorem decodeTlv_records {fields : Fields α} {records : List TlvRecord}
    (h : ∀ r ∈ records, r.wellFormed fields = true) (result : α) :
    decodeTlv fields result (encodeRecords records) = .ok (storeRecords fields result records) := by
  induction records generalizing result with
  | nil => rfl
  | cons r records ih =>
    rw [encodeRecords, List.flatMap_cons, decodeTlv_record (h r List.mem_cons_self)]
    exact ih (fun r' hr' => h r' (List.mem_cons_of_mem r hr')) _

end

end Hdc
