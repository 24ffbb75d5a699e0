import Hdc.Messages

/- What the five tag-length-value decoders of `hdc-protocol/src/serializer.rs` accept.

   A message is whole if it is a sequence of records: a tag and a value, each with its bytes in
   the message. The varint and string readers see to that, and `tlvStep_record` says so of one
   turn of the loop. The arms that skip an unknown field do not: they move the offset on by the
   width of the value without a look at the length of the input, and an offset past the end is
   the end of the loop. So `accepts_complete_iff` has an exception, a message that ends inside
   the value of an unknown field. -/
namespace Hdc
open Rust Wire

/-! The readers, as far as the bytes they take. -/

theorem readVarint_spec {w : Nat} (hw : 0 < w) {bytes rest : List UInt8} {v : Nat}
    (h : readVarint w bytes = .ok (v, rest)) :
    ∃ digits, bytes = digits ++ rest ∧ terminated digits = true ∧ v = varintNumber digits % 2^w := by
  obtain ⟨digits, hbytes, hterm, -, hv⟩ := (readVarint_eq_ok hw).mp h
  exact ⟨digits, hbytes, hterm, hv⟩

theorem readVarintU32_spec {bytes rest : List UInt8} {v : UInt32}
    (h : readVarintU32 bytes = .ok (v, rest)) :
    ∃ digits, bytes = digits ++ rest ∧ terminated digits = true ∧ v.toNat = varintNumber digits % 2^32 := by
  obtain ⟨⟨n, r⟩, hread, he⟩ := bind_eq_ok.mp h
  obtain ⟨digits, hbytes, hterm, hn⟩ := readVarint_spec (by decide) hread
  cases he
  refine ⟨digits, hbytes, hterm, ?_⟩
  rw [hn, UInt32.toNat_ofNat']
  exact Nat.mod_mod _ _

theorem readVarintU64_spec {bytes rest : List UInt8} {v : UInt64}
    (h : readVarintU64 bytes = .ok (v, rest)) : ∃ digits, bytes = digits ++ rest ∧ terminated digits = true := by
  obtain ⟨⟨n, r⟩, hread, he⟩ := bind_eq_ok.mp h
  obtain ⟨digits, hbytes, hterm, -⟩ := readVarint_spec (by decide) hread
  cases he
  exact ⟨digits, hbytes, hterm⟩

/-! Records, as they stand on the wire. -/

/-- The bytes of a value, by its wire type. -/
inductive RawValue where
  | varint (digits : List UInt8)
  | fixed64 (data : List UInt8)
  | lengthDelimited (len data : List UInt8)
  | fixed32 (data : List UInt8)
  deriving DecidableEq, Repr

namespace RawValue

def wireType : RawValue → Nat
  | .varint _ => 0
  | .fixed64 _ => 1
  | .lengthDelimited _ _ => 2
  | .fixed32 _ => 5

def bytes : RawValue → List UInt8
  | .varint digits => digits
  | .fixed64 data => data
  | .lengthDelimited len data => len ++ data
  | .fixed32 data => data

/-- All of the value is there. A length is a 32-bit number, whatever the varint has above. -/
def complete : RawValue → Bool
  | .varint digits => terminated digits
  | .fixed64 data => data.length = 8
  | .lengthDelimited len data => terminated len && data.length = varintNumber len % 2^32
  | .fixed32 data => data.length = 4

/-- The value is cut short behind its length, if it has one. -/
def short : RawValue → Bool
  | .varint _ => false
  | .fixed64 data => data.length < 8
  | .lengthDelimited len data => terminated len && data.length < varintNumber len % 2^32
  | .fixed32 data => data.length < 4

end RawValue

structure RawRecord where
  tag : List UInt8
  value : RawValue
  deriving DecidableEq, Repr

namespace RawRecord

def bytes (r : RawRecord) : List UInt8 := r.tag ++ r.value.bytes

/-- The tag is a varint, and gives the wire type of the value. -/
def tagged (r : RawRecord) : Bool := terminated r.tag && varintNumber r.tag % 8 = r.value.wireType

def complete (r : RawRecord) : Bool := r.tagged && r.value.complete

/-- The field number, as the decoders compute it from a 32-bit tag. -/
def fieldNumber (r : RawRecord) : UInt32 := UInt32.ofNat (varintNumber r.tag % 2^32 / 8)

end RawRecord

def rawBytes (records : List RawRecord) : List UInt8 := records.flatMap RawRecord.bytes

/-- The message is a sequence of whole records. -/
def CompleteMessage (bytes : List UInt8) : Prop :=
  ∃ records : List RawRecord, (∀ r ∈ records, r.complete = true) ∧ bytes = rawBytes records

/-- The last record is of a field that is not known, and its value is cut short. -/
def EndsInUnknown (known : UInt32 → Bool) (bytes : List UInt8) : Prop :=
  ∃ (records : List RawRecord) (last : RawRecord), (∀ r ∈ records, r.complete = true) ∧
    last.tagged = true ∧ known last.fieldNumber = false ∧ last.value.short = true ∧
    bytes = rawBytes records ++ last.bytes

/-- The message is cut inside a record. -/
def CutInside (bytes : List UInt8) : Prop :=
  ∃ (records : List RawRecord) (r : RawRecord) (front rest : List UInt8),
    (∀ r ∈ records, r.complete = true) ∧ r.complete = true ∧ front ≠ [] ∧ rest ≠ [] ∧
    r.bytes = front ++ rest ∧ bytes = rawBytes records ++ front

/-! Records can be told apart. -/

theorem RawValue.complete_append_inj {u v : RawValue} {c d : List UInt8}
    (hu : u.complete = true) (hv : v.complete = true) (hw : u.wireType = v.wireType)
    (h : u.bytes ++ c = v.bytes ++ d) : u = v ∧ c = d := by
  have hfixed {x y : List UInt8} {n : Nat} (hx : x.length = n) (hy : y.length = n)
      (hxy : x ++ c = y ++ d) : x = y ∧ c = d := List.append_inj hxy (hx.trans hy.symm)
  cases u <;> cases v <;> cases hw
  case varint.varint =>
    obtain ⟨rfl, rfl⟩ := terminated_append_inj hu hv h
    exact ⟨rfl, rfl⟩
  case lengthDelimited.lengthDelimited len data len' data' =>
    simp only [RawValue.complete, Bool.and_eq_true, decide_eq_true_eq] at hu hv
    simp only [RawValue.bytes, List.append_assoc] at h
    obtain ⟨rfl, hdata⟩ := terminated_append_inj hu.1 hv.1 h
    obtain ⟨rfl, rfl⟩ := hfixed hu.2 hv.2 hdata
    exact ⟨rfl, rfl⟩
  all_goals
    obtain ⟨rfl, rfl⟩ := hfixed (of_decide_eq_true hu) (of_decide_eq_true hv) h
    exact ⟨rfl, rfl⟩

/-- No whole value begins where a value of its type is cut short at the end. -/
theorem RawValue.complete_ne_short {u v : RawValue} {c : List UInt8} (hu : u.complete = true)
    (hv : v.short = true) (hw : u.wireType = v.wireType) : u.bytes ++ c ≠ v.bytes := by
  intro h
  have hfixed {x y : List UInt8} {n : Nat} (hx : x.length = n) (hy : y.length < n)
      (hxy : x ++ c = y) : False := by
    have := congrArg List.length hxy
    rw [List.length_append] at this
    omega
  cases u <;> cases v <;> cases hw
  case varint.varint => cases hv
  case lengthDelimited.lengthDelimited len data len' data' =>
    simp only [RawValue.complete, RawValue.short, Bool.and_eq_true, decide_eq_true_eq] at hu hv
    simp only [RawValue.bytes, List.append_assoc] at h
    obtain ⟨rfl, hdata⟩ := terminated_append_inj hu.1 hv.1 h
    exact hfixed hu.2 hv.2 hdata
  all_goals exact hfixed (of_decide_eq_true hu) (of_decide_eq_true hv) h

section
variable {r r' : RawRecord} {c d : List UInt8}

theorem RawRecord.tagged_append_inj (hr : r.tagged = true) (hr' : r'.tagged = true)
    (h : r.bytes ++ c = r'.bytes ++ d) :
    r.tag = r'.tag ∧ r.value.wireType = r'.value.wireType ∧ r.value.bytes ++ c = r'.value.bytes ++ d := by
  simp only [RawRecord.tagged, Bool.and_eq_true, decide_eq_true_eq] at hr hr'
  simp only [RawRecord.bytes, List.append_assoc] at h
  obtain ⟨htag, hvalue⟩ := terminated_append_inj hr.1 hr'.1 h
  exact ⟨htag, by rw [← hr.2, ← hr'.2, htag], hvalue⟩

theorem RawRecord.complete_append_inj (hr : r.complete = true) (hr' : r'.complete = true)
    (h : r.bytes ++ c = r'.bytes ++ d) : r = r' ∧ c = d := by
  simp only [RawRecord.complete, Bool.and_eq_true] at hr hr'
  obtain ⟨htag, hwire, hvalue⟩ := tagged_append_inj hr.1 hr'.1 h
  obtain ⟨hval, hcd⟩ := RawValue.complete_append_inj hr.2 hr'.2 hwire hvalue
  obtain ⟨tag, value⟩ := r
  obtain ⟨tag', value'⟩ := r'
  cases htag
  cases hval
  exact ⟨rfl, hcd⟩

theorem RawRecord.complete_ne_short (hr : r.complete = true) (hr' : r'.tagged = true)
    (hshort : r'.value.short = true) : r.bytes ++ c ≠ r'.bytes := by
  intro h
  simp only [RawRecord.complete, Bool.and_eq_true] at hr
  obtain ⟨-, hwire, hvalue⟩ := tagged_append_inj hr.1 hr' (h.trans (List.append_nil _).symm)
  rw [List.append_nil] at hvalue
  exact RawValue.complete_ne_short hr.2 hshort hwire hvalue

end

theorem RawRecord.bytes_ne_nil {r : RawRecord} (hr : r.tagged = true) : r.bytes ≠ [] := by
  simp only [RawRecord.tagged, Bool.and_eq_true] at hr
  intro h
  rw [RawRecord.bytes, List.append_eq_nil_iff] at h
  rw [h.1] at hr
  cases hr.1

/-- Two sequences of whole records that agree as far as the first one goes: the other begins
with it. -/
theorem rawBytes_append_inj {c : List UInt8} : ∀ {records records' : List RawRecord},
    (∀ r ∈ records, r.complete = true) → (∀ r ∈ records', r.complete = true) →
    rawBytes records' = rawBytes records ++ c →
    ∃ more : List RawRecord, (∀ r ∈ more, r.complete = true) ∧ c = rawBytes more
  | [], records', _, hr', h => ⟨records', hr', h.symm⟩
  | r :: records, [], hr, _, h => by
    have hnil := List.append_eq_nil_iff.mp (List.append_eq_nil_iff.mp h.symm).1
    have htagged : r.tagged = true := (Bool.and_eq_true _ _ ▸ hr r List.mem_cons_self).1
    exact absurd hnil.1 (RawRecord.bytes_ne_nil htagged)
  | r :: records, r' :: records', hr, hr', h => by
    simp only [rawBytes, List.flatMap_cons, List.append_assoc] at h
    obtain ⟨rfl, hrest⟩ := RawRecord.complete_append_inj (hr' r' List.mem_cons_self)
      (hr r List.mem_cons_self) h
    exact rawBytes_append_inj (fun x hx => hr x (List.mem_cons_of_mem _ hx))
      (fun x hx => hr' x (List.mem_cons_of_mem _ hx)) hrest

/-- A message that ends in a value cut short is not whole. -/
theorem not_complete_of_endsInUnknown {known : UInt32 → Bool} {bytes : List UInt8}
    (h : EndsInUnknown known bytes) : ¬ CompleteMessage bytes := by
  obtain ⟨records, last, hrecords, htagged, -, hshort, rfl⟩ := h
  rintro ⟨records', hrecords', heq⟩
  obtain ⟨more, hmore, hlast⟩ := rawBytes_append_inj hrecords hrecords' heq.symm
  cases more with
  | nil => exact RawRecord.bytes_ne_nil htagged hlast
  | cons r more =>
    exact RawRecord.complete_ne_short (hmore r List.mem_cons_self) htagged hshort hlast.symm

theorem not_complete_of_cutInside {bytes : List UInt8} (h : CutInside bytes) :
    ¬ CompleteMessage bytes := by
  obtain ⟨records, r, front, rest, hrecords, hr, hfront, hrest, hbytes, rfl⟩ := h
  rintro ⟨records', hrecords', heq⟩
  obtain ⟨more, hmore, rfl⟩ := rawBytes_append_inj hrecords hrecords' heq.symm
  cases more with
  | nil => exact hfront rfl
  | cons r' more =>
    -- the record that was cut is the first of those, and nothing of it is missing
    have hinj : r = r' ∧ [] = rawBytes more ++ rest := by
      refine RawRecord.complete_append_inj hr (hmore r' List.mem_cons_self) ?_
      rw [List.append_nil, hbytes, rawBytes, rawBytes, List.flatMap_cons, List.append_assoc]
    exact hrest (List.append_eq_nil_iff.mp hinj.2.symm).2

/-! One turn of a decoder's loop. -/

theorem readTagWireType_spec {digits : List UInt8} {tagKey : UInt32}
    (h : tagKey.toNat = varintNumber digits % 2^32) :
    (readTagWireType tagKey).1 = UInt32.ofNat (varintNumber digits % 2^32 / 8) ∧
    (readTagWireType tagKey).2.toNat = varintNumber digits % 8 := by
  constructor
  · apply UInt32.toNat_inj.mp
    rw [readTagWireType, UInt32.toNat_shiftRight, h, UInt32.toNat_ofNat']
    change (varintNumber digits % 2^32) >>> 3 = _
    rw [Nat.shiftRight_eq_div_pow]
    omega
  · rw [readTagWireType, UInt32.toNat_and, h]
    change (varintNumber digits % 2^32) &&& 7 = _
    rw [Nat.and_two_pow_sub_one_eq_mod _ 3]
    omega

/-- A value that stands in front of the rest, whole. -/
def WholeValue (wireType : UInt32) (bytes rest : List UInt8) : Prop :=
  ∃ value : RawValue, value.complete = true ∧ value.wireType = wireType.toNat ∧
    bytes = value.bytes ++ rest

theorem wholeValue_varintU32 {bytes rest : List UInt8} {v : UInt32}
    (h : readVarintU32 bytes = .ok (v, rest)) : WholeValue wireVarint bytes rest := by
  obtain ⟨digits, hbytes, hterm, -⟩ := readVarintU32_spec h
  exact ⟨.varint digits, hterm, rfl, hbytes⟩

theorem wholeValue_varintU64 {bytes rest : List UInt8} {v : UInt64}
    (h : readVarintU64 bytes = .ok (v, rest)) : WholeValue wireVarint bytes rest := by
  obtain ⟨digits, hbytes, hterm⟩ := readVarintU64_spec h
  exact ⟨.varint digits, hterm, rfl, hbytes⟩

/-- A value behind its length. -/
theorem wholeValue_lengthDelimited {bytes rest : List UInt8} {len : UInt32}
    (h : readVarintU32 bytes = .ok (len, rest)) (hlen : len.toNat ≤ rest.length) :
    WholeValue wireLengthDelimited bytes (rest.drop len.toNat) := by
  obtain ⟨digits, hbytes, hterm, hv⟩ := readVarintU32_spec h
  refine ⟨.lengthDelimited digits (rest.take len.toNat), ?_, rfl, ?_⟩
  · simp only [RawValue.complete, hterm, Bool.true_and, decide_eq_true_eq, List.length_take, ← hv]
    omega
  · rw [RawValue.bytes, List.append_assoc, List.take_append_drop, hbytes]

/-- The reader of a field looks at the wire type first. -/
theorem guard_eq_ok {β : Type} {wireType expected : UInt32} {msg : String} {x : IoResult β} {b : β}
    (h : (if wireType ≠ expected then invalidData msg else x) = .ok b) :
    wireType = expected ∧ x = .ok b := by
  by_cases hw : wireType = expected
  · rw [if_neg (by simp [hw])] at h
    exact ⟨hw, h⟩
  · rw [if_pos hw] at h
    cases h

/-- The value of a known field is read whole. -/
theorem Field.read_whole {α : Type} (f : Field α) {wireType : UInt32} {bytes rest : List UInt8}
    {result result' : α} (h : f.read wireType bytes result = .ok (result', rest)) :
    WholeValue wireType bytes rest := by
  cases f with
  | u8 field set =>
    obtain ⟨⟨v, r⟩, hread, he⟩ := bind_eq_ok.mp h
    obtain ⟨rfl, hread⟩ := guard_eq_ok hread
    obtain ⟨⟨n, r'⟩, hn, hr⟩ := bind_eq_ok.mp hread
    cases hr
    cases he
    exact wholeValue_varintU32 hn
  | u32 set =>
    obtain ⟨⟨v, r⟩, hread, he⟩ := bind_eq_ok.mp h
    obtain ⟨rfl, hread⟩ := guard_eq_ok hread
    cases he
    exact wholeValue_varintU32 hread
  | u64 set =>
    obtain ⟨⟨v, r⟩, hread, he⟩ := bind_eq_ok.mp h
    obtain ⟨rfl, hread⟩ := guard_eq_ok hread
    cases he
    exact wholeValue_varintU64 hread
  | bool set =>
    obtain ⟨⟨v, r⟩, hread, he⟩ := bind_eq_ok.mp h
    obtain ⟨rfl, hread⟩ := guard_eq_ok hread
    obtain ⟨⟨n, r'⟩, hn, hr⟩ := bind_eq_ok.mp hread
    cases hr
    cases he
    exact wholeValue_varintU32 hn
  | string set =>
    obtain ⟨⟨v, r⟩, hread, he⟩ := bind_eq_ok.mp h
    obtain ⟨rfl, hread⟩ := guard_eq_ok hread
    obtain ⟨⟨len, r'⟩, hlen, hread⟩ := bind_eq_ok.mp hread
    cases he
    simp only at hread
    split at hread
    · cases hread
    · rename_i hfits
      split at hread
      · cases hread
      · cases hread
        exact wholeValue_lengthDelimited hlen (Nat.le_of_not_lt hfits)

/-- A fixed-width value is taken whole, or what is left of it. -/
theorem drop_whole_or_short {n : Nat} (bytes : List UInt8) :
    (bytes.take n).length = n ∧ bytes = bytes.take n ++ bytes.drop n ∨
    bytes.length < n ∧ bytes.drop n = [] := by
  by_cases h : n ≤ bytes.length
  · exact .inl ⟨by rw [List.length_take]; omega, (List.take_append_drop n bytes).symm⟩
  · exact .inr ⟨by omega, List.drop_eq_nil_of_le (by omega)⟩

/-- The value of an unknown field is skipped whole, or is cut short by the end. -/
theorem skipField_whole_or_short {wireType : UInt32} {bytes rest : List UInt8}
    (h : skipField wireType bytes = .ok rest) :
    WholeValue wireType bytes rest ∨ rest = [] ∧
      ∃ value : RawValue, value.short = true ∧ value.wireType = wireType.toNat ∧ bytes = value.bytes := by
  rw [skipField] at h
  split at h
  · rename_i hw
    obtain ⟨⟨v, r⟩, hread, he⟩ := bind_eq_ok.mp h
    cases he
    exact .inl (hw ▸ wholeValue_varintU64 hread)
  split at h
  · rename_i hw
    cases h
    subst hw
    rcases drop_whole_or_short (n := 8) bytes with ⟨hlen, hbytes⟩ | ⟨hlen, hnil⟩
    · exact .inl ⟨.fixed64 (bytes.take 8), by simp [RawValue.complete, hlen], rfl, hbytes⟩
    · exact .inr ⟨hnil, .fixed64 bytes, by simp [RawValue.short, hlen], rfl, rfl⟩
  split at h
  · rename_i hw
    obtain ⟨⟨len, r⟩, hread, he⟩ := bind_eq_ok.mp h
    cases he
    subst hw
    by_cases hlen : len.toNat ≤ r.length
    · exact .inl (wholeValue_lengthDelimited hread hlen)
    · obtain ⟨digits, hbytes, hterm, hv⟩ := readVarintU32_spec hread
      refine .inr ⟨List.drop_eq_nil_of_le (by omega), .lengthDelimited digits r, ?_, rfl, hbytes⟩
      simp only [RawValue.short, hterm, Bool.true_and, decide_eq_true_eq, ← hv]
      omega
  split at h
  · rename_i hw
    cases h
    subst hw
    rcases drop_whole_or_short (n := 4) bytes with ⟨hlen, hbytes⟩ | ⟨hlen, hnil⟩
    · exact .inl ⟨.fixed32 (bytes.take 4), by simp [RawValue.complete, hlen], rfl, hbytes⟩
    · exact .inr ⟨hnil, .fixed32 bytes, by simp [RawValue.short, hlen], rfl, rfl⟩
  · cases h

section
variable {α : Type} {fields : Fields α}

/-- One turn takes a whole record, or the last one of an unknown field as far as it is there. -/
theorem tlvStep_record {result result' : α} {bytes rest : List UInt8}
    (h : tlvStep fields result bytes = .ok (result', rest)) :
    (∃ r : RawRecord, r.complete = true ∧ bytes = r.bytes ++ rest) ∨
    rest = [] ∧ ∃ r : RawRecord, r.tagged = true ∧ (fields r.fieldNumber).isSome = false ∧
      r.value.short = true ∧ bytes = r.bytes := by
  obtain ⟨⟨tagKey, afterTag⟩, htag, hbody⟩ := bind_eq_ok.mp h
  simp only at hbody
  obtain ⟨digits, rfl, hterm, hnumber⟩ := readVarintU32_spec htag
  obtain ⟨hfield, hwire⟩ := readTagWireType_spec hnumber
  have htagged {value : RawValue} (hv : value.wireType = (readTagWireType tagKey).2.toNat) :
      RawRecord.tagged ⟨digits, value⟩ = true := by
    simp [RawRecord.tagged, hterm, hv, hwire]
  have hwhole (hvalue : WholeValue (readTagWireType tagKey).2 afterTag rest) :
      ∃ r : RawRecord, r.complete = true ∧ digits ++ afterTag = r.bytes ++ rest := by
    obtain ⟨value, hcomplete, hv, rfl⟩ := hvalue
    refine ⟨⟨digits, value⟩, by rw [RawRecord.complete, htagged hv, hcomplete]; rfl, ?_⟩
    rw [RawRecord.bytes, List.append_assoc]
  cases hknown : fields (readTagWireType tagKey).1 with
  | some f =>
    rw [hknown] at hbody
    exact .inl (hwhole (f.read_whole hbody))
  | none =>
    rw [hknown] at hbody
    obtain ⟨r, hskip, he⟩ := bind_eq_ok.mp hbody
    cases he
    rcases skipField_whole_or_short hskip with hvalue | ⟨hnil, value, hshort, hv, rfl⟩
    · exact .inl (hwhole hvalue)
    · refine .inr ⟨hnil, ⟨digits, value⟩, htagged hv, ?_, hshort, rfl⟩
      rw [RawRecord.fieldNumber, ← hfield, hknown]
      rfl

/-- What the loop accepts is whole, or ends in an unknown field. -/
theorem decodeTlv_complete : ∀ (n : Nat) {result v : α} {bytes : List UInt8}, bytes.length ≤ n →
    decodeTlv fields result bytes = .ok v →
    CompleteMessage bytes ∨ EndsInUnknown (fun n => (fields n).isSome) bytes
  | _, _, _, [], _, _ => .inl ⟨[], by simp, rfl⟩
  | 0, _, _, _ :: _, hn, _ => absurd hn (by simp)
  | n+1, result, v, b :: bytes, hn, h => by
    rw [decodeTlv_cons (by simp)] at h
    obtain ⟨⟨result', rest⟩, hstep, hrest⟩ := bind_eq_ok.mp h
    have hle : rest.length ≤ n := by
      have hlt := tlvStep_shortens hstep
      simp only [List.length_cons] at hn hlt
      omega
    rcases tlvStep_record hstep with ⟨r, hr, hbytes⟩ | ⟨-, r, htagged, hunknown, hshort, hbytes⟩
    · rw [hbytes]
      -- the record goes in front of what the rest of the loop takes
      have hcons {records : List RawRecord} (hrecords : ∀ x ∈ records, x.complete = true) :
          ∀ x ∈ r :: records, x.complete = true := List.forall_mem_cons.mpr ⟨hr, hrecords⟩
      rcases decodeTlv_complete n hle hrest with
        ⟨records, hrecords, rfl⟩ | ⟨records, last, hrecords, ht, hu, hs, rfl⟩
      · exact .inl ⟨r :: records, hcons hrecords, rfl⟩
      · exact .inr ⟨r :: records, last, hcons hrecords, ht, hu, hs,
          by rw [rawBytes, rawBytes, List.flatMap_cons, List.append_assoc]⟩
    · exact .inr ⟨[], r, by simp, htagged, hunknown, hshort, hbytes⟩

end

/-! The five decoders. -/

inductive TlvDecoder where
  | handShake | protect | config | mode | payload
  deriving DecidableEq, Repr

namespace TlvDecoder

def accepts : TlvDecoder → List UInt8 → Bool
  | .handShake, bytes => (SessionHandShake.deserialize bytes).isOk
  | .protect, bytes => (PayloadProtect.deserialize bytes).isOk
  | .config, bytes => (TransferConfig.deserialize bytes).isOk
  | .mode, bytes => (FileMode.deserialize bytes).isOk
  | .payload, bytes => (TransferPayload.deserialize bytes).isOk

def known : TlvDecoder → UInt32 → Bool
  | .handShake, n => (SessionHandShake.fields n).isSome
  | .protect, n => (PayloadProtect.fields n).isSome
  | .config, n => (TransferConfig.fields n).isSome
  | .mode, n => (FileMode.fields n).isSome
  | .payload, n => (TransferPayload.fields n).isSome

end TlvDecoder

theorem complete_or_endsInUnknown {d : TlvDecoder} {bytes : List UInt8} (h : d.accepts bytes = true) :
    CompleteMessage bytes ∨ EndsInUnknown d.known bytes := by
  have hloop {α : Type} {fields : Fields α} {result : α} (h : (decodeTlv fields result bytes).isOk = true) :
      CompleteMessage bytes ∨ EndsInUnknown (fun n => (fields n).isSome) bytes := by
    cases hv : decodeTlv fields result bytes with
    | ok v => exact decodeTlv_complete bytes.length (Nat.le_refl _) hv
    | error e =>
      rw [hv] at h
      cases h
  cases d <;> exact hloop h

end Hdc
