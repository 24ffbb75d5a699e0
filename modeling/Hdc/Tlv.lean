import Hdc.Varint

/- The tag-length-value layer of `hdc-protocol/src/serializer.rs`: tags, the
   field writers and readers, and the decoding loop. The five `deserialize`
   functions of the source are one loop that differs in the fields it knows,
   so the loop is written once over a table of fields (`tlvStep`, `decodeTlv`)
   and each message supplies its table.

   Each writer has one lemma that says what decoding does with the bytes it
   emits in front of any others (`decodeTlv_writeU32Field` and the like): the
   value is stored, and a value the writer leaves out is the one already there.
   A message's round trip is then a chain of rewrites. `decodeTlv_zeros` is what the
   loop makes of zero padding: it takes the zeros two at a time as empty
   unknown fields, so an even number of them is skipped and an odd number is a
   truncated field. -/
namespace Hdc
open Rust Wire

def wireVarint : UInt32 := 0
def wireFixed64 : UInt32 := 1
def wireLengthDelimited : UInt32 := 2
def wireFixed32 : UInt32 := 5

def makeTag (fieldNumber wireType : UInt32) : UInt32 := (fieldNumber <<< 3) ||| wireType

def readTagWireType (tagKey : UInt32) : UInt32 × UInt32 := (tagKey >>> 3, tagKey &&& 0x07)

def writeTag (fieldNumber wireType : UInt32) : List UInt8 :=
  writeVarintU32 (makeTag fieldNumber wireType)

def writeU32Field (fieldNumber value : UInt32) : List UInt8 :=
  if value = 0 then [] else writeTag fieldNumber wireVarint ++ writeVarintU32 value

def writeU64Field (fieldNumber : UInt32) (value : UInt64) : List UInt8 :=
  if value = 0 then [] else writeTag fieldNumber wireVarint ++ writeVarintU64 value

def writeBoolField (fieldNumber : UInt32) (value : Bool) : List UInt8 :=
  if !value then [] else writeTag fieldNumber wireVarint ++ [1]

/-- A `u8` field as the serializers write it in line: the byte itself is
pushed, not its varint. -/
def pushU8Field (fieldNumber : UInt32) (value : UInt8) : List UInt8 :=
  writeTag fieldNumber wireVarint ++ [value]

def writeStringField (fieldNumber : UInt32) (value : String) : List UInt8 :=
  if value = "" then []
  else writeTag fieldNumber wireLengthDelimited ++
    writeVarintU32 (UInt32.ofNat (utf8 value).length) ++ utf8 value

def readU32Field (wireType : UInt32) (bytes : List UInt8) : IoResult (UInt32 × List UInt8) :=
  if wireType ≠ wireVarint then invalidData "expected varint for u32" else readVarintU32 bytes

def readU64Field (wireType : UInt32) (bytes : List UInt8) : IoResult (UInt64 × List UInt8) :=
  if wireType ≠ wireVarint then invalidData "expected varint for u64" else readVarintU64 bytes

def readBoolField (wireType : UInt32) (bytes : List UInt8) : IoResult (Bool × List UInt8) := do
  if wireType ≠ wireVarint then invalidData "expected varint for bool"
  else
    let (v, rest) ← readVarintU32 bytes
    return (v != 0, rest)

/-- A `u8` field as the deserializers read it in line, `field` naming it in
the error. -/
def readU8Field (field : String) (wireType : UInt32) (bytes : List UInt8) :
    IoResult (UInt8 × List UInt8) := do
  if wireType ≠ wireVarint then invalidData s!"bad wire type for {field}"
  else
    let (v, rest) ← readVarintU32 bytes
    return (v.toUInt8, rest)

def readStringField (wireType : UInt32) (bytes : List UInt8) : IoResult (String × List UInt8) := do
  if wireType ≠ wireLengthDelimited then invalidData "expected length-delimited for string"
  else
    let (len, rest) ← readVarintU32 bytes
    if len.toNat > rest.length then invalidData "truncated string field"
    else match fromUtf8 (rest.take len.toNat) with
      | none => invalidData "invalid utf8"
      | some s => return (s, rest.drop len.toNat)

/-- The arms that skip an unknown field. A fixed-width or length-delimited
value that runs past the end moves the source's `offset` past the end, which
its loop takes for the end of the message, as the empty suffix is here. -/
def skipField (wireType : UInt32) (bytes : List UInt8) : IoResult (List UInt8) := do
  if wireType = wireVarint then
    let (_, rest) ← readVarintU64 bytes
    return rest
  else if wireType = wireFixed64 then return bytes.drop 8
  else if wireType = wireLengthDelimited then
    let (len, rest) ← readVarintU32 bytes
    return rest.drop len.toNat
  else if wireType = wireFixed32 then return bytes.drop 4
  else invalidData "unknown wire type"

/-- One known field of a message `α`: how its value is read and where it goes. -/
inductive Field (α : Type) where
  | u8 (field : String) (set : UInt8 → α → α)
  | u32 (set : UInt32 → α → α)
  | u64 (set : UInt64 → α → α)
  | bool (set : Bool → α → α)
  | string (set : String → α → α)

def Field.read {α : Type} (f : Field α) (wireType : UInt32) (bytes : List UInt8) (result : α) :
    IoResult (α × List UInt8) := do
  match f with
  | .u8 field set => let (v, rest) ← readU8Field field wireType bytes; return (set v result, rest)
  | .u32 set => let (v, rest) ← readU32Field wireType bytes; return (set v result, rest)
  | .u64 set => let (v, rest) ← readU64Field wireType bytes; return (set v result, rest)
  | .bool set => let (v, rest) ← readBoolField wireType bytes; return (set v result, rest)
  | .string set => let (v, rest) ← readStringField wireType bytes; return (set v result, rest)

abbrev Fields (α : Type) := UInt32 → Option (Field α)

section Decode
variable {α : Type} (fields : Fields α)

/-- One turn of a `deserialize` loop: a tag, then a known field or a skip. -/
def tlvStep (result : α) (bytes : List UInt8) : IoResult (α × List UInt8) := do
  let (tagKey, rest) ← readVarintU32 bytes
  let (fieldNumber, wireType) := readTagWireType tagKey
  match fields fieldNumber with
  | some f => f.read wireType rest result
  | none =>
    let rest ← skipField wireType rest
    return (result, rest)

/-- The loop `while offset < bytes.len()`. Every turn takes a byte, so the
length of the input is fuel enough (`decodeTlv_cons`). -/
def tlvLoop : Nat → α → List UInt8 → IoResult α
  | _, result, [] => .ok result
  | 0, _, _ :: _ => invalidData "out of fuel"
  | fuel+1, result, b :: bytes => do
    let (result, rest) ← tlvStep fields result (b :: bytes)
    tlvLoop fuel result rest

def decodeTlv (result : α) (bytes : List UInt8) : IoResult α :=
  tlvLoop fields bytes.length result bytes

end Decode

/-! The tag. -/

theorem makeTag_toNat {n w : UInt32} (hn : n.toNat < 2^29) (hw : w.toNat < 8) :
    (makeTag n w).toNat = w.toNat + n.toNat * 8 := by
  have hs : (n <<< 3).toNat = n.toNat <<< 3 := by
    rw [UInt32.toNat_shiftLeft, Nat.shiftLeft_eq, Nat.shiftLeft_eq]
    exact Nat.mod_eq_of_lt (show n.toNat * 8 < 4294967296 by omega)
  rw [makeTag, UInt32.toNat_or, hs, Nat.or_comm]
  exact or_shift_of_lt (s := 3) hw

theorem readTagWireType_makeTag {n w : UInt32} (hn : n.toNat < 2^29) (hw : w.toNat < 8) :
    readTagWireType (makeTag n w) = (n, w) := by
  have ht := makeTag_toNat hn hw
  have hfield : (makeTag n w >>> 3).toNat = n.toNat := by
    rw [UInt32.toNat_shiftRight, ht]
    change (w.toNat + n.toNat * 8) >>> 3 = n.toNat
    rw [Nat.shiftRight_eq_div_pow]; omega
  have hwire : (makeTag n w &&& 0x07).toNat = w.toNat := by
    rw [UInt32.toNat_and, ht]
    change (w.toNat + n.toNat * 8) &&& 7 = w.toNat
    rw [Nat.and_two_pow_sub_one_eq_mod _ 3]; omega
  simp only [readTagWireType, Prod.mk.injEq]
  exact ⟨UInt32.toNat_inj.mp hfield, UInt32.toNat_inj.mp hwire⟩

theorem writeTag_eq (n w : UInt32) : writeTag n w = leb128 (makeTag n w).toNat :=
  writeVarintU32_eq _

/-! Progress: every reader leaves a suffix no longer than its input. -/

/-- A reader that leaves no more than it was given. -/
def Shrinks {β : Type} (read : List UInt8 → IoResult (β × List UInt8)) : Prop :=
  ∀ (bytes rest : List UInt8) (v : β), read bytes = .ok (v, rest) → rest.length ≤ bytes.length

section Shrinks
variable {β γ : Type} {read : List UInt8 → IoResult (β × List UInt8)}

theorem Shrinks.map (h : Shrinks read) (f : β → γ) :
    Shrinks fun bytes => read bytes >>= fun p => pure (f p.1, p.2) := by
  intro bytes rest v hread
  obtain ⟨⟨b, r⟩, hr, he⟩ := bind_eq_ok.mp hread
  cases he
  exact h _ _ _ hr

theorem Shrinks.guard (h : Shrinks read) (c : Prop) [Decidable c] (msg : String) :
    Shrinks fun bytes => if c then invalidData msg else read bytes := by
  intro bytes rest v hread
  by_cases hc : c
  · simp only [if_pos hc, invalidData_ne_ok] at hread
  · simp only [if_neg hc] at hread
    exact h _ _ _ hread

theorem readVarintU32_shrinks : Shrinks readVarintU32 :=
  fun _ _ _ h => Nat.le_of_lt (readVarintU32_shortens h)

theorem readVarintU64_shrinks : Shrinks readVarintU64 :=
  fun _ _ _ h => Nat.le_of_lt (readVarintU64_shortens h)

theorem readStringField_shrinks (wireType : UInt32) : Shrinks (readStringField wireType) := by
  refine Shrinks.guard ?_ (wireType ≠ wireLengthDelimited) "expected length-delimited for string"
  intro bytes rest v h
  obtain ⟨⟨len, r⟩, hlen, h⟩ := bind_eq_ok.mp h
  have hlt := readVarintU32_shortens hlen
  simp only at h
  split at h
  · simp at h
  · split at h
    · simp at h
    · cases h
      rw [List.length_drop]
      omega

end Shrinks

theorem Field.read_shrinks {α : Type} (f : Field α) (wireType : UInt32) (result : α) :
    Shrinks fun bytes => f.read wireType bytes result := by
  cases f with
  | u8 field set =>
    exact ((readVarintU32_shrinks.map UInt32.toUInt8).guard _ _).map fun v => set v result
  | u32 set => exact (readVarintU32_shrinks.guard _ _).map fun v => set v result
  | u64 set => exact (readVarintU64_shrinks.guard _ _).map fun v => set v result
  | bool set => exact ((readVarintU32_shrinks.map (· != 0)).guard _ _).map fun v => set v result
  | string set => exact (readStringField_shrinks wireType).map fun v => set v result

theorem skipField_shortens {wireType : UInt32} {bytes rest : List UInt8}
    (h : skipField wireType bytes = .ok rest) : rest.length ≤ bytes.length := by
  simp only [skipField] at h
  split at h
  · simp only [bind_eq_ok, pure_eq_ok, Prod.exists, Except.ok.injEq] at h
    obtain ⟨v, r, hv, rfl⟩ := h
    exact Nat.le_of_lt (readVarintU64_shortens hv)
  · split at h
    · simp only [pure_eq_ok, Except.ok.injEq] at h
      subst h; simp
    · split at h
      · simp only [bind_eq_ok, pure_eq_ok, Prod.exists, Except.ok.injEq] at h
        obtain ⟨len, r, hv, rfl⟩ := h
        have := readVarintU32_shortens hv
        rw [List.length_drop]; omega
      · split at h
        · simp only [pure_eq_ok, Except.ok.injEq] at h
          subst h; simp
        · simp at h

section Progress
variable {α : Type} {fields : Fields α}

theorem tlvStep_shortens {result result' : α} {bytes rest : List UInt8}
    (h : tlvStep fields result bytes = .ok (result', rest)) : rest.length < bytes.length := by
  simp only [tlvStep, bind_eq_ok, Prod.exists] at h
  obtain ⟨tag, r, ht, h⟩ := h
  have hlt := readVarintU32_shortens ht
  split at h
  · rename_i f _
    exact Nat.lt_of_le_of_lt (f.read_shrinks _ _ _ _ _ h) hlt
  · simp only [bind_eq_ok, pure_eq_ok, Except.ok.injEq, Prod.mk.injEq] at h
    obtain ⟨r', hs, -, rfl⟩ := h
    exact Nat.lt_of_le_of_lt (skipField_shortens hs) hlt

/-- Any fuel that covers the input gives the same result. -/
theorem tlvLoop_fuel : ∀ (n m : Nat) (result : α) (bytes : List UInt8), bytes.length ≤ n →
    bytes.length ≤ m → tlvLoop fields n result bytes = tlvLoop fields m result bytes
  | n, m, result, [], _, _ => by cases n <;> cases m <;> rfl
  | 0, _, _, _ :: _, hn, _ => absurd hn (by simp)
  | _+1, 0, _, _ :: _, _, hm => absurd hm (by simp)
  | n+1, m+1, result, b :: bytes, hn, hm => by
    simp only [tlvLoop]
    cases hs : tlvStep fields result (b :: bytes) with
    | error e => rfl
    | ok p =>
      have hlt := tlvStep_shortens hs
      simp only [List.length_cons] at hn hm hlt
      simp only [ok_bind]
      exact tlvLoop_fuel n m p.1 p.2 (by omega) (by omega)

@[simp] theorem decodeTlv_nil (result : α) : decodeTlv fields result [] = .ok result := rfl

theorem decodeTlv_cons {result : α} {bytes : List UInt8} (hne : bytes ≠ []) :
    decodeTlv fields result bytes =
      tlvStep fields result bytes >>= fun p => decodeTlv fields p.1 p.2 := by
  obtain ⟨b, bs, rfl⟩ := List.exists_cons_of_ne_nil hne
  change tlvLoop fields (bs.length+1) result (b :: bs) = _
  rw [tlvLoop]
  cases hs : tlvStep fields result (b :: bs) with
  | error e => rfl
  | ok p =>
    have hlt := tlvStep_shortens hs
    simp only [List.length_cons] at hlt
    simp only [ok_bind]
    exact tlvLoop_fuel _ _ _ _ (by omega) (Nat.le_refl _)

end Progress

/-! What the loop makes of each writer's output. -/

section Writers
variable {α : Type} {fields : Fields α} {n : UInt32} (result : α) (rest : List UInt8)

theorem writeTag_ne_nil (w : UInt32) : writeTag n w ≠ [] := by
  rw [writeTag_eq]; exact leb128_ne_nil _

theorem tlvStep_writeTag {w : UInt32} (hn : n.toNat < 2^29) (hw : w.toNat < 8) :
    tlvStep fields result (writeTag n w ++ rest) =
      match fields n with
      | some f => f.read w rest result
      | none => skipField w rest >>= fun r => .ok (result, r) := by
  simp only [tlvStep, writeTag_eq, readVarintU32_leb128, ok_bind, readTagWireType_makeTag hn hw,
    pure_eq_ok]

/-- A known field: the loop goes on after it with its value stored. -/
theorem decodeTlv_writeTag {w : UInt32} (hn : n.toNat < 2^29) (hw : w.toNat < 8) {f : Field α}
    (hf : fields n = some f) {result' : α} {value : List UInt8}
    (hr : f.read w (value ++ rest) result = .ok (result', rest)) :
    decodeTlv fields result (writeTag n w ++ value ++ rest) = decodeTlv fields result' rest := by
  rw [List.append_assoc, decodeTlv_cons (by simp [writeTag_ne_nil]),
    tlvStep_writeTag _ _ hn hw, hf]
  simp only [hr, ok_bind]

theorem decodeTlv_writeU32Field (hn : n.toNat < 2^29) {set : UInt32 → α → α}
    (hf : fields n = some (.u32 set)) (value : UInt32) (h0 : set 0 result = result) :
    decodeTlv fields result (writeU32Field n value ++ rest) =
      decodeTlv fields (set value result) rest := by
  unfold writeU32Field
  split
  · rename_i h
    rw [h, h0, List.nil_append]
  · refine decodeTlv_writeTag result rest hn (by decide) hf ?_
    simp [Field.read, readU32Field, writeVarintU32_eq, readVarintU32_leb128]

theorem decodeTlv_writeU64Field (hn : n.toNat < 2^29) {set : UInt64 → α → α}
    (hf : fields n = some (.u64 set)) (value : UInt64) (h0 : set 0 result = result) :
    decodeTlv fields result (writeU64Field n value ++ rest) =
      decodeTlv fields (set value result) rest := by
  unfold writeU64Field
  split
  · rename_i h
    rw [h, h0, List.nil_append]
  · refine decodeTlv_writeTag result rest hn (by decide) hf ?_
    simp [Field.read, readU64Field, writeVarintU64_eq, readVarintU64_leb128]

theorem decodeTlv_writeStringField (hn : n.toNat < 2^29) {set : String → α → α}
    (hf : fields n = some (.string set)) (value : String) (hlen : (utf8 value).length < 2^32)
    (h0 : set "" result = result) :
    decodeTlv fields result (writeStringField n value ++ rest) =
      decodeTlv fields (set value result) rest := by
  unfold writeStringField
  split
  · rename_i h
    rw [h, h0, List.nil_append]
  · rw [List.append_assoc (writeTag _ _)]
    refine decodeTlv_writeTag result rest hn (by decide) hf ?_
    have hl : (UInt32.ofNat (utf8 value).length).toNat = (utf8 value).length := by
      rw [UInt32.toNat_ofNat']; exact Nat.mod_eq_of_lt hlen
    have hread := readVarintU32_leb128 (UInt32.ofNat (utf8 value).length) (utf8 value ++ rest)
    rw [hl] at hread
    simp [Field.read, readStringField, writeVarintU32_eq, hl, hread]

theorem decodeTlv_writeBoolField (hn : n.toNat < 2^29) {set : Bool → α → α}
    (hf : fields n = some (.bool set)) (value : Bool) (h0 : set false result = result) :
    decodeTlv fields result (writeBoolField n value ++ rest) =
      decodeTlv fields (set value result) rest := by
  unfold writeBoolField
  cases value with
  | false => simp [h0]
  | true =>
    have hone : [1] = leb128 (1 : UInt32).toNat := by
      rw [leb128_of_lt (by decide)]
      rfl
    refine decodeTlv_writeTag result rest hn (by decide) hf ?_
    simp only [Field.read, readBoolField]
    rw [hone, readVarintU32_leb128]
    simp

/-- A pushed byte is its own varint only below 128. -/
theorem decodeTlv_pushU8Field (hn : n.toNat < 2^29) {field : String} {set : UInt8 → α → α}
    (hf : fields n = some (.u8 field set)) (value : UInt8) (hv : value.toNat < 128) :
    decodeTlv fields result (pushU8Field n value ++ rest) =
      decodeTlv fields (set value result) rest := by
  have hval : [value] = leb128 value.toUInt32.toNat := by
    rw [UInt8.toNat_toUInt32, leb128_of_lt hv]; simp
  refine decodeTlv_writeTag result rest hn (by decide) hf ?_
  simp only [Field.read, readU8Field]
  rw [hval, readVarintU32_leb128]
  simp

end Writers

/-! Zero padding. -/

theorem tlvStep_zero_zero {α : Type} {fields : Fields α} (h0 : fields 0 = none) (result : α)
    (rest : List UInt8) : tlvStep fields result (0 :: 0 :: rest) = .ok (result, rest) := by
  have htag : readVarintU32 (0 :: 0 :: rest) = .ok (0, 0 :: rest) := rfl
  have hskip : skipField 0 (0 :: rest) = .ok rest := rfl
  simp only [tlvStep, htag, ok_bind, show readTagWireType 0 = (0, 0) from rfl, h0, hskip,
    pure_eq_ok]

/-- Zeros are skipped in pairs: an even run decodes to what came before it, an
odd one ends inside a field. -/
theorem decodeTlv_zeros {α : Type} {fields : Fields α} (h0 : fields 0 = none) (result : α) :
    ∀ k, decodeTlv fields result (List.replicate k 0) =
      if k % 2 = 0 then .ok result else invalidData "truncated varint"
  | 0 => rfl
  | 1 => by
    have hstep : tlvStep fields result [0] = invalidData "truncated varint" := by
      have htag : readVarintU32 [0] = .ok (0, []) := rfl
      simp only [tlvStep, htag, ok_bind, show readTagWireType 0 = (0, 0) from rfl, h0]
      rfl
    rw [List.replicate_one, decodeTlv_cons (by simp), hstep]
    rfl
  | k+2 => by
    rw [List.replicate_succ, List.replicate_succ, decodeTlv_cons (by simp),
      tlvStep_zero_zero h0, ok_bind, decodeTlv_zeros h0 result k]
    simp only [Nat.add_mod_right]

end Hdc
