import Hdc.Messages

/- The round trip of the tag-length-value messages: which values a `deserialize` gives
   back from what their own `serialize` wrote.

   Every field but the `u8` ones goes through a varint in both directions. A `u8` is
   pushed as one byte and read as a varint, so it survives only below 128. That it
   never survives from 128 on is a matter of size: the decoder takes at least as many
   bytes for a field as its minimal varint has (`decodeTlv_size`), and the serializer
   wrote one byte less than that. -/
namespace Hdc
open Rust Wire

/-! The size of a value: the bytes its minimal encoding takes, none for a default. -/

def varintSize (v : Nat) : Nat := if v = 0 then 0 else 1 + (leb128 v).length

def boolSize (value : Bool) : Nat := if value then 2 else 0

def stringSize (value : String) : Nat :=
  if value = "" then 0
  else 1 + (leb128 (utf8 value).length).length + (utf8 value).length

theorem varintSize_le {v k : Nat} (hk : 0 < k) (h : v < 128^k) : varintSize v ≤ 1 + k := by
  unfold varintSize
  split
  · omega
  · have := leb128_length_le hk h
    omega

theorem varintSize_mono {a b : Nat} (h : a ≤ b) : varintSize a ≤ varintSize b := by
  have := leb128_length_mono h
  unfold varintSize
  split <;> split <;> omega

theorem varintSize_pos {v : Nat} (h : v ≠ 0) : 2 ≤ varintSize v := by
  have := List.length_pos_iff.mpr (leb128_ne_nil v)
  rw [varintSize, if_neg h]
  omega

theorem varintSize_of_ge {v : Nat} (h : 128 ≤ v) : 3 ≤ varintSize v := by
  have := List.length_pos_iff.mpr (leb128_ne_nil (v / 128))
  rw [varintSize, if_neg (by omega), leb128_of_ge h, List.length_cons]
  omega

/-! Decoding makes no value larger than the bytes it takes. -/

/-- A reader pays for its value, up to `credit`, with the bytes it takes. -/
def Pays {β : Type} (credit : Nat) (size : β → Nat)
    (read : List UInt8 → IoResult (β × List UInt8)) : Prop :=
  ∀ (bytes rest : List UInt8) (v : β), read bytes = .ok (v, rest) →
    size v + rest.length ≤ bytes.length + credit

section Pays
variable {β γ : Type} {credit : Nat} {size : β → Nat}
  {read : List UInt8 → IoResult (β × List UInt8)}

theorem Pays.map (h : Pays credit size read) (more : Nat) (f : β → γ) {size' : γ → Nat}
    (hf : ∀ v, size' (f v) ≤ size v + more) :
    Pays (credit + more) size' fun bytes => read bytes >>= fun p => pure (f p.1, p.2) := by
  intro bytes rest v hread
  obtain ⟨⟨b, r⟩, hr, he⟩ := bind_eq_ok.mp hread
  cases he
  have := h _ _ _ hr
  have := hf b
  change size' (f b) + r.length ≤ _
  omega

theorem Pays.guard (h : Pays credit size read) (c : Prop) [Decidable c] (msg : String) :
    Pays credit size fun bytes => if c then invalidData msg else read bytes := by
  intro bytes rest v hread
  by_cases hc : c
  · simp only [if_pos hc, invalidData_ne_ok] at hread
  · simp only [if_neg hc] at hread
    exact h _ _ _ hread

/-- The byte of credit is the tag in front of the value. -/
theorem readVarint_pays {w : Nat} (hw : 0 < w) : Pays 1 varintSize (readVarint w) := by
  intro bytes rest v h
  obtain ⟨k, hk, hlen, hv⟩ := readVarint_consumes hw h
  have := varintSize_le hk hv
  omega

theorem readVarintU32_pays : Pays 1 (fun v => varintSize v.toNat) readVarintU32 := by
  refine (readVarint_pays (w := 32) (by decide)).map 0 UInt32.ofNat fun v => ?_
  rw [UInt32.toNat_ofNat']
  exact varintSize_mono (Nat.mod_le _ _)

theorem readVarintU64_pays : Pays 1 (fun v => varintSize v.toNat) readVarintU64 := by
  refine (readVarint_pays (w := 64) (by decide)).map 0 UInt64.ofNat fun v => ?_
  rw [UInt64.toNat_ofNat']
  exact varintSize_mono (Nat.mod_le _ _)

theorem readU8Field_pays (field : String) (w : UInt32) :
    Pays 1 (fun v => varintSize v.toNat) (readU8Field field w) := by
  refine Pays.guard (readVarintU32_pays.map 0 UInt32.toUInt8 fun v => ?_) _ _
  rw [UInt32.toNat_toUInt8]
  exact varintSize_mono (Nat.mod_le _ _)

theorem readBoolField_pays (w : UInt32) : Pays 1 boolSize (readBoolField w) := by
  refine Pays.guard (readVarintU32_pays.map 0 (· != 0) fun v => ?_) _ _
  by_cases hv : v = 0
  · simp [hv, boolSize]
  · have := varintSize_pos (v := v.toNat) (by simpa [← UInt32.toNat_inj] using hv)
    simp only [boolSize]
    split <;> omega

theorem readStringField_pays (w : UInt32) : Pays 1 stringSize (readStringField w) := by
  refine Pays.guard ?_ (w ≠ wireLengthDelimited) "expected length-delimited for string"
  intro bytes rest v h
  obtain ⟨⟨len, r⟩, hlen, h⟩ := bind_eq_ok.mp h
  have hpays : varintSize len.toNat + r.length ≤ bytes.length + 1 := readVarintU32_pays _ _ _ hlen
  simp only at h
  split at h
  · simp at h
  · split at h
    · simp at h
    · rename_i hfit _ hs
      cases h
      have hv : (utf8 v).length = len.toNat := by
        rw [utf8_of_fromUtf8 hs, List.length_take]
        omega
      have hempty : v ≠ "" → len.toNat ≠ 0 := fun hne h0 =>
        hne (utf8_eq_nil.mp (List.length_eq_zero_iff.mp (hv.trans h0)))
      unfold stringSize
      split
      · rw [List.length_drop]; omega
      · rename_i hne
        have hsize : varintSize len.toNat = 1 + (leb128 len.toNat).length := if_neg (hempty hne)
        rw [List.length_drop, hv]
        omega

end Pays

section Size
variable {α : Type}

/-- Storing a value in a field adds no more than the value's own size. -/
def Field.Bounded (size : α → Nat) : Field α → Prop
  | .u8 _ set => ∀ r v, size (set v r) ≤ varintSize v.toNat + size r
  | .u32 set => ∀ r v, size (set v r) ≤ varintSize v.toNat + size r
  | .u64 set => ∀ r v, size (set v r) ≤ varintSize v.toNat + size r
  | .bool set => ∀ r v, size (set v r) ≤ boolSize v + size r
  | .string set => ∀ r v, size (set v r) ≤ stringSize v + size r

variable {fields : Fields α} {size : α → Nat}

theorem Field.read_pays {f : Field α} (h : f.Bounded size) (w : UInt32) (result : α) :
    Pays (1 + size result) size fun bytes => f.read w bytes result := by
  cases f with
  | u8 field set => exact (readU8Field_pays field w).map _ (fun v => set v result) (h result)
  | u32 set => exact (readVarintU32_pays.guard _ _).map _ (fun v => set v result) (h result)
  | u64 set => exact (readVarintU64_pays.guard _ _).map _ (fun v => set v result) (h result)
  | bool set => exact (readBoolField_pays w).map _ (fun v => set v result) (h result)
  | string set => exact (readStringField_pays w).map _ (fun v => set v result) (h result)

theorem tlvStep_pays (hb : ∀ n f, fields n = some f → f.Bounded size) (result : α) :
    Pays (size result) size (tlvStep fields result) := by
  intro bytes rest result' h
  simp only [tlvStep, bind_eq_ok, Prod.exists] at h
  obtain ⟨tag, r, ht, h⟩ := h
  have hlt := readVarintU32_shortens ht
  split at h
  · rename_i f hf
    have := Field.read_pays (hb _ f hf) _ _ _ _ _ h
    omega
  · simp only [bind_eq_ok, pure_eq_ok, Except.ok.injEq, Prod.mk.injEq] at h
    obtain ⟨r', hs, rfl, rfl⟩ := h
    have := skipField_shortens hs
    omega

/-- A decoded value is no larger than its message. -/
theorem decodeTlv_size (hb : ∀ n f, fields n = some f → f.Bounded size) {result v : α}
    {bytes : List UInt8} (h : decodeTlv fields result bytes = .ok v) :
    size v ≤ bytes.length + size result := by
  induction hlen : bytes.length using Nat.strongRecOn generalizing bytes result with
  | ind n ih =>
    by_cases hne : bytes = []
    · subst hne
      cases h
      omega
    · rw [decodeTlv_cons hne] at h
      obtain ⟨⟨result', rest⟩, hs, h⟩ := bind_eq_ok.mp h
      have hpay := tlvStep_pays hb result _ _ _ hs
      have hlt := tlvStep_shortens hs
      have hrest : size v ≤ rest.length + size result' := ih rest.length (by omega) h rfl
      omega

end Size

/-! What the writers take. -/

section Writers
variable {n : UInt32} (hn : n.toNat < 16)
include hn

theorem writeU32Field_size (v : UInt32) : (writeU32Field n v).length = varintSize v.toNat := by
  by_cases hv : v = 0
  · simp [hv, writeU32Field, varintSize]
  · rw [writeU32Field_length hn hv, varintSize, if_neg (by simpa [← UInt32.toNat_inj] using hv)]

theorem writeU64Field_size (v : UInt64) : (writeU64Field n v).length = varintSize v.toNat := by
  by_cases hv : v = 0
  · simp [hv, writeU64Field, varintSize]
  · rw [writeU64Field_length hn hv, varintSize, if_neg (by simpa [← UInt64.toNat_inj] using hv)]

theorem writeBoolField_size (v : Bool) : (writeBoolField n v).length = boolSize v := by
  cases v with
  | false => rfl
  | true => simp [writeBoolField, boolSize, writeTag_length hn (show wireVarint.toNat < 8 by decide)]

theorem writeStringField_size {s : String} (hs : (utf8 s).length < 2^32) :
    (writeStringField n s).length = stringSize s := by
  unfold writeStringField stringSize
  split
  · rfl
  · have hl : (UInt32.ofNat (utf8 s).length).toNat = (utf8 s).length := by
      rw [UInt32.toNat_ofNat']
      exact Nat.mod_eq_of_lt hs
    simp only [List.length_append, writeTag_length hn (show wireLengthDelimited.toNat < 8 by decide),
      writeVarintU32_eq, hl]

/-- An optional pushed byte is too short for its varint from 128 on. -/
theorem ite_pushU8Field_size (v : UInt8) :
    (if v ≠ 0 then pushU8Field n v else []).length + (if v.toNat < 128 then 0 else 1) ≤
      varintSize v.toNat := by
  by_cases hv : v = 0
  · simp [hv]
  · have hpos := varintSize_pos (v := v.toNat) (by simpa [← UInt8.toNat_inj] using hv)
    rw [if_pos hv, pushU8Field_length hn]
    split
    · exact hpos
    · rename_i h
      have := varintSize_of_ge (Nat.le_of_not_lt h)
      omega

end Writers

/-! The messages: each has its size, and the round trip below the bound. -/

/-- The string's length fits the 32-bit length of its field. -/
def fitsField (s : String) : Prop := (utf8 s).length < 2^32

instance (s : String) : Decidable (fitsField s) := inferInstanceAs (Decidable (_ < _))

namespace PayloadProtect

def size (p : PayloadProtect) : Nat :=
  varintSize p.channelId.toNat + varintSize p.commandFlag.toNat + varintSize p.checkSum.toNat +
    varintSize p.vCode.toNat

theorem fields_bounded (n : UInt32) (f : Field PayloadProtect) (h : fields n = some f) :
    f.Bounded size := by
  unfold fields at h
  split at h <;> cases h <;> intro r v <;> simp only [size] <;> omega

theorem small_of_round_trip {p : PayloadProtect} (h : deserialize p.serialize = .ok p) :
    p.checkSum.toNat < 128 ∧ p.vCode.toNat < 128 := by
  have hsize := decodeTlv_size fields_bounded h
  have h3 := ite_pushU8Field_size (n := 3) (by decide) p.checkSum
  have h4 := ite_pushU8Field_size (n := 4) (by decide) p.vCode
  have h0 : size {} = 0 := rfl
  simp only [serialize, ite_writeU32Field, List.length_append,
    writeU32Field_size (n := 1) (by decide), writeU32Field_size (n := 2) (by decide), h0] at hsize
  simp only [size] at hsize
  constructor <;> by_contra hge <;> rw [if_neg hge] at * <;> omega

end PayloadProtect

namespace SessionHandShake

def size (h : SessionHandShake) : Nat :=
  stringSize h.banner + varintSize h.authType.toNat + varintSize h.sessionId.toNat +
    stringSize h.connectKey + stringSize h.buf + stringSize h.version

/-- Every string is shorter than 2^32 bytes. -/
def StringsFit (h : SessionHandShake) : Prop :=
  fitsField h.banner ∧ fitsField h.connectKey ∧ fitsField h.buf ∧ fitsField h.version

instance (h : SessionHandShake) : Decidable h.StringsFit := inferInstanceAs (Decidable (_ ∧ _))

theorem fields_bounded (n : UInt32) (f : Field SessionHandShake) (h : fields n = some f) :
    f.Bounded size := by
  unfold fields at h
  split at h <;> cases h <;> intro r v <;> simp only [size] <;> omega

theorem deserialize_serialize {h : SessionHandShake} (hs : h.StringsFit)
    (ha : h.authType.toNat < 128) : deserialize h.serialize = .ok h := by
  obtain ⟨h1, h4, h5, h6⟩ := hs
  simp only [deserialize, serialize, ite_writeU32Field, List.append_assoc]
  rw [decodeTlv_writeStringField _ _ (by decide) rfl _ h1 rfl,
    decodeTlv_pushU8Field _ _ (by decide) rfl _ ha,
    decodeTlv_writeU32Field _ _ (by decide) rfl _ rfl,
    decodeTlv_writeStringField _ _ (by decide) rfl _ h4 rfl,
    decodeTlv_writeStringField _ _ (by decide) rfl _ h5 rfl,
    ← List.append_nil (writeStringField 6 h.version),
    decodeTlv_writeStringField _ _ (by decide) rfl _ h6 rfl, decodeTlv_nil]

theorem small_of_round_trip {h : SessionHandShake} (hs : h.StringsFit)
    (hrt : deserialize h.serialize = .ok h) : h.authType.toNat < 128 := by
  obtain ⟨h1, h4, h5, h6⟩ := hs
  have hsize := decodeTlv_size fields_bounded hrt
  have h0 : size {} = 0 := rfl
  simp only [serialize, ite_writeU32Field, List.length_append,
    writeStringField_size (n := 1) (by decide) h1, pushU8Field_length (n := 2) (by decide),
    writeU32Field_size (n := 3) (by decide), writeStringField_size (n := 4) (by decide) h4,
    writeStringField_size (n := 5) (by decide) h5, writeStringField_size (n := 6) (by decide) h6,
    h0] at hsize
  simp only [size] at hsize
  by_contra hge
  have := varintSize_of_ge (Nat.le_of_not_lt hge)
  omega

end SessionHandShake

namespace TransferConfig

def size (c : TransferConfig) : Nat :=
  varintSize c.fileSize.toNat + varintSize c.atime.toNat + varintSize c.mtime.toNat +
    stringSize c.options + stringSize c.path + stringSize c.optionalName + boolSize c.updateIfNew +
    varintSize c.compressType.toNat + boolSize c.holdTimestamp + stringSize c.functionName +
    stringSize c.clientCwd + stringSize c.reserve1 + stringSize c.reserve2

/-- Every string is shorter than 2^32 bytes. -/
def StringsFit (c : TransferConfig) : Prop :=
  fitsField c.options ∧ fitsField c.path ∧ fitsField c.optionalName ∧ fitsField c.functionName ∧
    fitsField c.clientCwd ∧ fitsField c.reserve1 ∧ fitsField c.reserve2

instance (c : TransferConfig) : Decidable c.StringsFit := inferInstanceAs (Decidable (_ ∧ _))

theorem fields_bounded (n : UInt32) (f : Field TransferConfig) (h : fields n = some f) :
    f.Bounded size := by
  unfold fields at h
  split at h <;> cases h <;> intro r v <;> simp only [size] <;> omega

theorem deserialize_serialize {c : TransferConfig} (hs : c.StringsFit)
    (hc : c.compressType.toNat < 128) : deserialize c.serialize = .ok c := by
  obtain ⟨h4, h5, h6, h10, h11, h12, h13⟩ := hs
  simp only [deserialize, serialize, List.append_assoc]
  -- the projections are reduced as the fields come in: left alone they multiply
  rw [decodeTlv_writeU64Field _ _ (by decide) rfl _ rfl,
    decodeTlv_writeU64Field _ _ (by decide) rfl _ rfl]
  dsimp only
  rw [decodeTlv_writeU64Field _ _ (by decide) rfl _ rfl,
    decodeTlv_writeStringField _ _ (by decide) rfl _ h4 rfl]
  dsimp only
  rw [decodeTlv_writeStringField _ _ (by decide) rfl _ h5 rfl,
    decodeTlv_writeStringField _ _ (by decide) rfl _ h6 rfl]
  dsimp only
  rw [decodeTlv_writeBoolField _ _ (by decide) rfl _ rfl,
    decodeTlv_ite_pushU8Field _ _ (by decide) rfl _ hc rfl]
  dsimp only
  rw [decodeTlv_writeBoolField _ _ (by decide) rfl _ rfl,
    decodeTlv_writeStringField _ _ (by decide) rfl _ h10 rfl]
  dsimp only
  rw [decodeTlv_writeStringField _ _ (by decide) rfl _ h11 rfl,
    decodeTlv_writeStringField _ _ (by decide) rfl _ h12 rfl]
  dsimp only
  rw [← List.append_nil (writeStringField 13 c.reserve2),
    decodeTlv_writeStringField _ _ (by decide) rfl _ h13 rfl, decodeTlv_nil]

theorem small_of_round_trip {c : TransferConfig} (hs : c.StringsFit)
    (h : deserialize c.serialize = .ok c) : c.compressType.toNat < 128 := by
  obtain ⟨h4, h5, h6, h10, h11, h12, h13⟩ := hs
  have hsize := decodeTlv_size fields_bounded h
  have h8 := ite_pushU8Field_size (n := 8) (by decide) c.compressType
  have h0 : size {} = 0 := rfl
  simp only [serialize, List.length_append, writeU64Field_size (n := 1) (by decide),
    writeU64Field_size (n := 2) (by decide), writeU64Field_size (n := 3) (by decide),
    writeStringField_size (n := 4) (by decide) h4, writeStringField_size (n := 5) (by decide) h5,
    writeStringField_size (n := 6) (by decide) h6, writeBoolField_size (n := 7) (by decide),
    writeBoolField_size (n := 9) (by decide), writeStringField_size (n := 10) (by decide) h10,
    writeStringField_size (n := 11) (by decide) h11,
    writeStringField_size (n := 12) (by decide) h12,
    writeStringField_size (n := 13) (by decide) h13, h0] at hsize
  simp only [size] at hsize
  by_contra hge
  rw [if_neg hge] at h8
  omega

end TransferConfig

namespace FileMode

/-- Every string is shorter than 2^32 bytes. -/
def StringsFit (m : FileMode) : Prop := fitsField m.context ∧ fitsField m.fullName

instance (m : FileMode) : Decidable m.StringsFit := inferInstanceAs (Decidable (_ ∧ _))

theorem deserialize_serialize {m : FileMode} (hs : m.StringsFit) :
    deserialize m.serialize = .ok m := by
  obtain ⟨h4, h5⟩ := hs
  simp only [deserialize, serialize, List.append_assoc]
  rw [decodeTlv_writeU64Field _ _ (by decide) rfl _ rfl,
    decodeTlv_writeU64Field _ _ (by decide) rfl _ rfl,
    decodeTlv_writeU64Field _ _ (by decide) rfl _ rfl,
    decodeTlv_writeStringField _ _ (by decide) rfl _ h4 rfl,
    ← List.append_nil (writeStringField 5 m.fullName),
    decodeTlv_writeStringField _ _ (by decide) rfl _ h5 rfl, decodeTlv_nil]

end FileMode

namespace TransferPayload

def size (p : TransferPayload) : Nat :=
  varintSize p.index.toNat + varintSize p.compressType.toNat + varintSize p.compressSize.toNat +
    varintSize p.uncompressSize.toNat

theorem fields_bounded (n : UInt32) (f : Field TransferPayload) (h : fields n = some f) :
    f.Bounded size := by
  unfold fields at h
  split at h <;> cases h <;> intro r v <;> simp only [size] <;> omega

theorem deserialize_serialize {p : TransferPayload} (hc : p.compressType.toNat < 128) :
    deserialize p.serialize = .ok p := by
  have := decodeTlv_serialize p hc []
  rwa [List.append_nil, decodeTlv_nil] at this

theorem small_of_round_trip {p : TransferPayload} (h : deserialize p.serialize = .ok p) :
    p.compressType.toNat < 128 := by
  have hsize := decodeTlv_size fields_bounded h
  have h2 := ite_pushU8Field_size (n := 2) (by decide) p.compressType
  have h0 : size {} = 0 := rfl
  simp only [serialize, ite_writeU32Field, List.length_append,
    writeU64Field_size (n := 1) (by decide), writeU32Field_size (n := 3) (by decide),
    writeU32Field_size (n := 4) (by decide), h0] at hsize
  simp only [size] at hsize
  by_contra hge
  rw [if_neg hge] at h2
  omega

end TransferPayload

/-- A value of one of the five message types. -/
inductive TlvMessage where
  | handShake (h : SessionHandShake)
  | protect (p : PayloadProtect)
  | config (c : TransferConfig)
  | mode (m : FileMode)
  | payload (p : TransferPayload)

namespace TlvMessage

def StringsFit : TlvMessage → Prop
  | .handShake h => h.StringsFit
  | .config c => c.StringsFit
  | .mode m => m.StringsFit
  | .protect _ | .payload _ => True

def RoundTrips : TlvMessage → Prop
  | .handShake h => SessionHandShake.deserialize h.serialize = .ok h
  | .protect p => PayloadProtect.deserialize p.serialize = .ok p
  | .config c => TransferConfig.deserialize c.serialize = .ok c
  | .mode m => FileMode.deserialize m.serialize = .ok m
  | .payload p => TransferPayload.deserialize p.serialize = .ok p

/-- Each `u8` field is below 128. -/
def SmallBytes : TlvMessage → Prop
  | .handShake h => h.authType.toNat < 128
  | .protect p => p.checkSum.toNat < 128 ∧ p.vCode.toNat < 128
  | .config c => c.compressType.toNat < 128
  | .mode _ => True
  | .payload p => p.compressType.toNat < 128

end TlvMessage

/-- A message survives its round trip exactly when each of its `u8` fields is below 128. -/
theorem tlv_round_trip_iff (v : TlvMessage) (hs : v.StringsFit) : v.RoundTrips ↔ v.SmallBytes := by
  cases v with
  | handShake h => exact ⟨h.small_of_round_trip hs, h.deserialize_serialize hs⟩
  | protect p => exact ⟨p.small_of_round_trip, fun ⟨hc, hv⟩ => p.deserialize_serialize hc hv⟩
  | config c => exact ⟨c.small_of_round_trip hs, c.deserialize_serialize hs⟩
  | mode m => exact iff_of_true (m.deserialize_serialize hs) trivial
  | payload p => exact ⟨p.small_of_round_trip, p.deserialize_serialize⟩

theorem tlv_round_trip_small :
    SessionHandShake.deserialize
        ({ banner := "OHOS HDC", authType := 3, sessionId := 300, buf := "host" } :
          SessionHandShake).serialize =
      .ok { banner := "OHOS HDC", authType := 3, sessionId := 300, buf := "host" } ∧
    TransferConfig.deserialize
        ({ fileSize := 129, path := "/tmp", updateIfNew := true, compressType := 5 } :
          TransferConfig).serialize =
      .ok { fileSize := 129, path := "/tmp", updateIfNew := true, compressType := 5 } ∧
    FileMode.deserialize ({ perm := 493, fullName := "a" } : FileMode).serialize =
      .ok { perm := 493, fullName := "a" } :=
  ⟨(tlv_round_trip_iff (.handShake _) (by decide : SessionHandShake.StringsFit _)).mpr
      (by decide : (3 : UInt8).toNat < 128),
    (tlv_round_trip_iff (.config _) (by decide : TransferConfig.StringsFit _)).mpr
      (by decide : (5 : UInt8).toNat < 128),
    (tlv_round_trip_iff (.mode _) (by decide : FileMode.StringsFit _)).mpr trivial⟩

/-- The pushed byte 200 is the first half of a varint whose second half never comes. -/
theorem auth_type_lost :
    ({ authType := 200 } : SessionHandShake).StringsFit ∧
    SessionHandShake.deserialize ({ authType := 200 } : SessionHandShake).serialize =
      invalidData "truncated varint" := by
  decide

end Hdc
