import Hdc.Bytes
import Hdc.RustStd

/- The varint readers and writers of `hdc-protocol/src/serializer.rs`. The
   32-bit and the 64-bit functions of the source differ only in the width of
   their accumulator, so each pair is one loop over that width here. A reader's
   `offset` into `bytes` is the suffix `bytes[offset..]` it still has to read.

   `readVarint_eq_ok` says what a reader returns: the number of the varint in front,
   reduced to the width of the type. So a number that fits is read back from its
   encoding, with the bytes after it untouched (`readVarint_leb128`), and a number
   that does not fit is refused only if its varint has a byte too many: from the
   last byte an accumulator takes, bits may be lost (`varint_exact_iff`). -/
namespace Hdc
open Rust Wire

/-- The loop of `write_varint_u32` and `write_varint_u64`. It stops when no
bits are left, which `writeVarint_eq` shows happens within the given rounds. -/
def writeVarint : Nat → Nat → List UInt8
  | 0, _ => []
  | rounds+1, v =>
    let b := UInt8.ofNat (v &&& 0x7f)
    let v := v >>> 7
    if v ≠ 0 then (b ||| 0x80) :: writeVarint rounds v else [b]

def writeVarintU32 (value : UInt32) : List UInt8 := writeVarint 5 value.toNat
def writeVarintU64 (value : UInt64) : List UInt8 := writeVarint 10 value.toNat

/-- The loop of `read_varint_u32` (`w = 32`) and `read_varint_u64` (`w = 64`).
A digit shifted past the accumulator's width loses its high bits, as the
source's `<<` on the fixed-width type does. -/
def readVarintLoop (w : Nat) : Nat → Nat → List UInt8 → IoResult (Nat × List UInt8)
  | _, _, [] => invalidData "truncated varint"
  | value, shift, b :: rest =>
    let value := value ||| ((b &&& 0x7f).toNat <<< shift) % 2^w
    if b &&& 0x80 = 0 then .ok (value, rest)
    else if shift + 7 ≥ w then invalidData "varint overflow"
    else readVarintLoop w value (shift + 7) rest

def readVarint (w : Nat) (bytes : List UInt8) : IoResult (Nat × List UInt8) :=
  readVarintLoop w 0 0 bytes

def readVarintU32 (bytes : List UInt8) : IoResult (UInt32 × List UInt8) := do
  let (v, rest) ← readVarint 32 bytes
  return (UInt32.ofNat v, rest)

def readVarintU64 (bytes : List UInt8) : IoResult (UInt64 × List UInt8) := do
  let (v, rest) ← readVarint 64 bytes
  return (UInt64.ofNat v, rest)

/-! Writing. -/

theorem writeVarint_eq : ∀ (rounds v : Nat), v < 128^(rounds+1) →
    writeVarint (rounds+1) v = leb128 v
  | rounds, v, h => by
    simp only [writeVarint, shiftRight_7, and_127]
    by_cases hv : v < 128
    · rw [if_neg (by simp [Nat.div_eq_of_lt hv]), leb128_of_lt hv, Nat.mod_eq_of_lt hv]
    · have hd : v / 128 ≠ 0 := by
        intro h0
        rcases Nat.div_eq_zero_iff.mp h0 with h1 | h1 <;> omega
      have hb : UInt8.ofNat (v % 128) ||| 0x80 = UInt8.ofNat (v % 128 + 128) := by
        have hlo : (UInt8.ofNat (v % 128)).toNat = v % 128 := by simp; omega
        have hhi : (UInt8.ofNat (v % 128 + 128)).toNat = v % 128 + 128 := by simp; omega
        rw [← UInt8.toNat_inj, UInt8.toNat_or, hlo, hhi]
        exact or_128_of_lt (by omega)
      rw [if_pos hd, leb128_of_ge (by omega), hb]
      -- another round is left, since `v` has a second digit
      match rounds with
      | 0 => omega
      | rounds+1 =>
        rw [writeVarint_eq rounds (v / 128)]
        rw [Nat.div_lt_iff_lt_mul (by omega), ← Nat.pow_succ]
        exact h

theorem writeVarintU32_eq (value : UInt32) : writeVarintU32 value = leb128 value.toNat :=
  writeVarint_eq 4 _ (Nat.lt_trans value.toNat_lt (by decide))

theorem writeVarintU64_eq (value : UInt64) : writeVarintU64 value = leb128 value.toNat :=
  writeVarint_eq 9 _ (Nat.lt_trans value.toNat_lt (by decide))

/-! Varints, as they stand on the wire. -/

/-- Every byte but the last has its high bit set. -/
def terminated : List UInt8 → Bool
  | [] => false
  | b :: bytes => if b.toNat < 128 then bytes.isEmpty else terminated bytes

/-- The number a varint stands for, minimal or not. -/
def varintNumber : List UInt8 → Nat
  | [] => 0
  | b :: bytes => b.toNat % 128 + 128 * varintNumber bytes

/-- A varint has a byte without a continuation bit. -/
theorem terminated_ne_nil {digits : List UInt8} (h : terminated digits = true) : digits ≠ [] := by
  rintro rfl
  cases h

theorem terminated_append_inj : ∀ {a b c d : List UInt8}, terminated a = true → terminated b = true →
    a ++ c = b ++ d → a = b ∧ c = d
  | [], _, _, _, ha, _, _ => by cases ha
  | _ :: _, [], _, _, _, hb, _ => by cases hb
  | x :: a, y :: b, c, d, ha, hb, h => by
    obtain ⟨rfl, htail⟩ := List.cons.inj h
    rw [terminated] at ha hb
    split at ha
    · rename_i hx
      rw [if_pos hx] at hb
      rw [List.isEmpty_iff] at ha hb
      subst ha hb
      exact ⟨rfl, htail⟩
    · rename_i hx
      rw [if_neg hx] at hb
      obtain ⟨rfl, rfl⟩ := terminated_append_inj ha hb htail
      exact ⟨rfl, rfl⟩

theorem varintNumber_lt (digits : List UInt8) : varintNumber digits < 128^digits.length := by
  induction digits with
  | nil => simp [varintNumber]
  | cons b digits ih =>
    have hb : b.toNat % 128 < 128 := Nat.mod_lt _ (by decide)
    rw [varintNumber, List.length_cons, Nat.pow_succ]
    omega

theorem terminated_iff {digits : List UInt8} : terminated digits = true ↔
    ∃ front last, digits = front ++ [last] ∧ (∀ b ∈ front, 128 ≤ b.toNat) ∧ last.toNat < 128 := by
  induction digits with
  | nil => simp [terminated]
  | cons b digits ih =>
    rw [terminated]
    split
    · rename_i hb
      rw [List.isEmpty_iff]
      constructor
      · rintro rfl
        exact ⟨[], b, rfl, by simp, hb⟩
      · rintro ⟨front, last, heq, hfront, -⟩
        cases front with
        | nil => exact (List.cons.inj heq).2
        | cons c front =>
          have hc := hfront c List.mem_cons_self
          rw [← (List.cons.inj heq).1] at hc
          omega
    · rename_i hb
      rw [ih]
      constructor
      · rintro ⟨front, last, rfl, hfront, hlast⟩
        refine ⟨b :: front, last, rfl, ?_, hlast⟩
        intro c hc
        rcases List.mem_cons.mp hc with rfl | hc
        · omega
        · exact hfront c hc
      · rintro ⟨front, last, heq, hfront, hlast⟩
        cases front with
        | nil =>
          rw [(List.cons.inj heq).1] at hb
          exact absurd hlast hb
        | cons c front =>
          exact ⟨front, last, (List.cons.inj heq).2,
            fun d hd => hfront d (List.mem_cons_of_mem c hd), hlast⟩

theorem varintNumber_concat (digits : List UInt8) (b : UInt8) :
    varintNumber (digits ++ [b]) = varintNumber digits + b.toNat % 128 * 128^digits.length := by
  induction digits with
  | nil => simp [varintNumber]
  | cons c digits ih =>
    rw [List.cons_append, varintNumber, varintNumber, ih, List.length_cons, Nat.pow_succ]
    ring

/-- The minimal encoding of a number is one of its varints. -/
theorem terminated_leb128 (v : Nat) : terminated (leb128 v) = true ∧ varintNumber (leb128 v) = v := by
  induction v using Nat.strongRecOn with
  | ind v ih =>
    by_cases hv : v < 128
    · have hb : (UInt8.ofNat v).toNat = v := by simp; omega
      rw [leb128_of_lt hv]
      simp only [terminated, varintNumber, hb, if_pos hv, Nat.mod_eq_of_lt hv]
      exact ⟨rfl, rfl⟩
    · have hb : (UInt8.ofNat (v % 128 + 128)).toNat = v % 128 + 128 := by simp; omega
      obtain ⟨hterm, hnumber⟩ := ih (v / 128) (by omega)
      rw [leb128_of_ge (by omega)]
      constructor
      · rw [terminated, hb, if_neg (by omega), hterm]
      · rw [varintNumber, hb, hnumber]
        omega

/-! Reading. -/

/-- The loop takes a varint that ends before the accumulator is full, and returns its number on
top of the bits it started with, reduced to the width of the type. -/
theorem readVarintLoop_eq_ok (w : Nat) : ∀ {bytes : List UInt8} {value shift v : Nat}
    {rest : List UInt8}, value < 2^shift → shift < w →
    (readVarintLoop w value shift bytes = .ok (v, rest) ↔
      ∃ digits, bytes = digits ++ rest ∧ terminated digits = true ∧
        shift + 7 * digits.length < w + 7 ∧ v = (value + varintNumber digits * 2^shift) % 2^w)
  | [], value, shift, v, rest, _, _ => by
    refine iff_of_false (by simp [readVarintLoop]) ?_
    rintro ⟨digits, hbytes, hterm, -⟩
    exact terminated_ne_nil hterm (List.append_eq_nil_iff.mp hbytes.symm).1
  | b :: bytes, value, shift, v, rest, hval, hshift => by
    have hacc : value ||| ((b &&& 0x7f).toNat <<< shift) % 2^w =
        (value + b.toNat % 128 * 2^shift) % 2^w := by
      rw [byte_and_127, or_shift_mod hval (Nat.le_of_lt hshift)]
    rw [readVarintLoop]
    simp only [byte_and_128, hacc]
    by_cases hlast : b.toNat < 128
    · rw [if_pos hlast]
      simp only [Except.ok.injEq, Prod.mk.injEq]
      constructor
      · rintro ⟨rfl, rfl⟩
        exact ⟨[b], rfl, by simp [terminated, hlast], by simp only [List.length_singleton]; omega,
          by simp [varintNumber]⟩
      · rintro ⟨digits, hbytes, hterm, -, rfl⟩
        obtain ⟨rfl, rfl⟩ := terminated_append_inj (a := [b]) (c := bytes)
          (by simp [terminated, hlast]) hterm hbytes
        simp [varintNumber]
    · have hlt : (value + b.toNat % 128 * 2^shift) % 2^w < 2^(shift + 7) := by
        have hle : b.toNat % 128 * 2^shift ≤ 127 * 2^shift := Nat.mul_le_mul_right _ (by omega)
        refine Nat.lt_of_le_of_lt (Nat.mod_le _ _) ?_
        rw [Nat.pow_add]
        omega
      -- the digit is the lowest of those that follow
      have hvalue (digits : List UInt8) : ((value + b.toNat % 128 * 2^shift) % 2^w +
          varintNumber digits * 2^(shift + 7)) % 2^w =
          (value + varintNumber (b :: digits) * 2^shift) % 2^w := by
        rw [Nat.mod_add_mod, varintNumber, Nat.pow_add]
        congr 1
        ring
      have hcons (digits : List UInt8) : terminated (b :: digits) = terminated digits := by
        rw [terminated, if_neg hlast]
      rw [if_neg hlast]
      by_cases hwide : shift + 7 < w
      · rw [if_neg (by omega), readVarintLoop_eq_ok w hlt hwide]
        constructor
        · rintro ⟨digits, rfl, hterm, hfit, rfl⟩
          exact ⟨b :: digits, rfl, by rw [hcons, hterm], by simp only [List.length_cons]; omega,
            hvalue digits⟩
        · rintro ⟨digits, hbytes, hterm, hfit, rfl⟩
          obtain ⟨c, digits, rfl⟩ := List.exists_cons_of_ne_nil (terminated_ne_nil hterm)
          obtain ⟨rfl, rfl⟩ := List.cons.inj hbytes
          simp only [List.length_cons] at hfit
          exact ⟨digits, rfl, by rw [← hcons, hterm], by omega, (hvalue digits).symm⟩
      · rw [if_pos (by omega)]
        refine iff_of_false (by simp) ?_
        rintro ⟨digits, hbytes, hterm, hfit, -⟩
        obtain ⟨c, digits, rfl⟩ := List.exists_cons_of_ne_nil (terminated_ne_nil hterm)
        obtain ⟨rfl, -⟩ := List.cons.inj hbytes
        rw [hcons] at hterm
        have := List.length_pos_iff.mpr (terminated_ne_nil hterm)
        simp only [List.length_cons] at hfit
        omega

theorem readVarint_eq_ok {w : Nat} (hw : 0 < w) {bytes rest : List UInt8} {v : Nat} :
    readVarint w bytes = .ok (v, rest) ↔
      ∃ digits, bytes = digits ++ rest ∧ terminated digits = true ∧ 7 * digits.length < w + 7 ∧
        v = varintNumber digits % 2^w := by
  rw [readVarint, readVarintLoop_eq_ok w (by decide) hw]
  simp

theorem readVarint_leb128 {w v : Nat} (hw : 0 < w) (h : v < 2^w) (rest : List UInt8) :
    readVarint w (leb128 v ++ rest) = .ok (v, rest) := by
  obtain ⟨hterm, hnumber⟩ := terminated_leb128 v
  obtain ⟨n, hn⟩ := Nat.exists_eq_succ_of_ne_zero
    (Nat.pos_iff_ne_zero.mp (List.length_pos_iff.mpr (leb128_ne_nil v)))
  -- the number is too large for fewer digits
  have hfit : 7 * n < w := by
    rcases Nat.eq_zero_or_pos n with rfl | hpos
    · exact hw
    · have hge : 128^n ≤ v := by
        by_contra hlt
        have := leb128_length_le hpos (Nat.lt_of_not_le hlt)
        omega
      have hpow : 2^(7 * n) < 2^w := by
        rw [Nat.pow_mul]
        exact Nat.lt_of_le_of_lt hge h
      exact (Nat.pow_lt_pow_iff_right (by decide)).mp hpow
  exact (readVarint_eq_ok hw).mpr ⟨leb128 v, rfl, hterm, by omega,
    by rw [hnumber, Nat.mod_eq_of_lt h]⟩

/-- The number a reader returns is one whose minimal encoding is no longer than what it took. -/
theorem readVarint_consumes {w : Nat} (hw : 0 < w) {bytes rest : List UInt8} {v : Nat}
    (h : readVarint w bytes = .ok (v, rest)) :
    ∃ k, 0 < k ∧ bytes.length = k + rest.length ∧ v < 128^k := by
  obtain ⟨digits, rfl, hterm, -, rfl⟩ := (readVarint_eq_ok hw).mp h
  exact ⟨digits.length, List.length_pos_iff.mpr (terminated_ne_nil hterm), List.length_append,
    Nat.lt_of_le_of_lt (Nat.mod_le _ _) (varintNumber_lt digits)⟩

/-- What a reader leaves is a proper suffix: it consumes at least one byte. -/
theorem readVarint_shortens {w : Nat} (hw : 0 < w) {bytes rest : List UInt8} {v : Nat}
    (h : readVarint w bytes = .ok (v, rest)) : rest.length < bytes.length := by
  obtain ⟨k, hk, hlen, -⟩ := readVarint_consumes hw h
  omega

theorem readVarintU32_leb128 (value : UInt32) (rest : List UInt8) :
    readVarintU32 (leb128 value.toNat ++ rest) = .ok (value, rest) := by
  simp [readVarintU32, readVarint_leb128 (w := 32) (by decide) value.toNat_lt]

theorem readVarintU64_leb128 (value : UInt64) (rest : List UInt8) :
    readVarintU64 (leb128 value.toNat ++ rest) = .ok (value, rest) := by
  simp [readVarintU64, readVarint_leb128 (w := 64) (by decide) value.toNat_lt]

/-- A value read and then converted leaves as little. -/
theorem readVarint_map_shortens {β : Type} {w : Nat} (hw : 0 < w) {f : Nat → β}
    {bytes rest : List UInt8} {v : β}
    (h : (readVarint w bytes >>= fun p => pure (f p.1, p.2)) = .ok (v, rest)) :
    rest.length < bytes.length := by
  obtain ⟨⟨n, r⟩, hr, he⟩ := bind_eq_ok.mp h
  cases he
  exact readVarint_shortens hw hr

theorem readVarintU32_shortens {bytes : List UInt8} {v : UInt32} {rest : List UInt8}
    (h : readVarintU32 bytes = .ok (v, rest)) : rest.length < bytes.length :=
  readVarint_map_shortens (by decide) h

theorem readVarintU64_shortens {bytes : List UInt8} {v : UInt64} {rest : List UInt8}
    (h : readVarintU64 bytes = .ok (v, rest)) : rest.length < bytes.length :=
  readVarint_map_shortens (by decide) h

example : readVarintU32 (writeVarintU32 300 ++ [7]) = .ok (300, [7]) := by decide

/-! How exact the readers are. -/

/-- `read_varint_u32` at an offset, with the offset at which the rest begins. -/
def readVarintU32At (bytes : List UInt8) (offset : Nat) : IoResult (UInt32 × Nat) := do
  let (v, rest) ← readVarintU32 (bytes.drop offset)
  return (v, bytes.length - rest.length)

/-- `read_varint_u64` at an offset. -/
def readVarintU64At (bytes : List UInt8) (offset : Nat) : IoResult (UInt64 × Nat) := do
  let (v, rest) ← readVarintU64 (bytes.drop offset)
  return (v, bytes.length - rest.length)

/-- A varint of at most `limit` bytes stands at the offset, for the number `v` of `w` bits, and
ends in front of `next`. -/
def VarintAt (w limit : Nat) (bytes : List UInt8) (offset v next : Nat) : Prop :=
  ∃ digits rest, bytes.drop offset = digits ++ rest ∧ terminated digits = true ∧
    digits.length ≤ limit ∧ next = offset + digits.length ∧ varintNumber digits = v ∧ v < 2^w

/-- At this place the reader returns a number exactly if a varint stands there for it, and refuses
every varint of a number that does not fit. -/
structure ReadsExactly {α : Type} (w limit : Nat) (toNat : α → Nat)
    (read : List UInt8 → Nat → IoResult (α × Nat)) (bytes : List UInt8) (offset : Nat) : Prop where
  ok_iff : ∀ v next, read bytes offset = .ok (v, next) ↔ VarintAt w limit bytes offset (toNat v) next
  refuses : ∀ digits rest, bytes.drop offset = digits ++ rest → terminated digits = true →
    2^w ≤ varintNumber digits → ∃ e, read bytes offset = .error e

/-- The first byte without a continuation bit has `k` bytes in front of it and is at least `top`. -/
def Spills (k top : Nat) (bytes : List UInt8) : Prop :=
  (∀ b ∈ bytes.take k, 128 ≤ b.toNat) ∧ ∃ last ∈ bytes[k]?, top ≤ last.toNat ∧ last.toNat < 128

instance (k top : Nat) (bytes : List UInt8) : Decidable (Spills k top bytes) :=
  inferInstanceAs (Decidable (_ ∧ _))

/-- A varint within the reader's limit stands for a number that fits, unless its last byte is the
last one the accumulator takes and has bits for which there is no room. -/
theorem varints_fit_iff {w k r : Nat} (hw : w = 7 * k + r) (hr : r ≤ 7) (bytes : List UInt8) :
    (∀ digits rest, bytes = digits ++ rest → terminated digits = true → digits.length ≤ k + 1 →
        varintNumber digits < 2^w) ↔ ¬ Spills k (2^r) bytes := by
  have hpow : 2^w = 128^k * 2^r := by rw [hw, Nat.pow_add, Nat.pow_mul]
  have hr128 : 2^r ≤ 128 := Nat.pow_le_pow_right (n := 2) (by decide) hr
  constructor
  · rintro hfit ⟨hfront, last, hlast, htop, hlt⟩
    obtain ⟨hk, hget⟩ := List.getElem?_eq_some_iff.mp (Option.mem_def.mp hlast)
    have hlen : (bytes.take k).length = k := List.length_take_of_le (Nat.le_of_lt hk)
    have hbytes : bytes = (bytes.take k ++ [last]) ++ bytes.drop (k + 1) := by
      rw [List.append_assoc, List.singleton_append, ← hget, ← List.drop_eq_getElem_cons hk,
        List.take_append_drop]
    have hlow := hfit _ _ hbytes (terminated_iff.mpr ⟨_, _, rfl, hfront, hlt⟩) (by simp [hlen])
    rw [varintNumber_concat, hlen, Nat.mod_eq_of_lt hlt, hpow] at hlow
    have : 128^k * 2^r ≤ last.toNat * 128^k := by
      rw [Nat.mul_comm]
      exact Nat.mul_le_mul_right _ htop
    omega
  · intro hspill digits rest hbytes hterm hlen
    obtain ⟨front, last, rfl, hfront, hlt⟩ := terminated_iff.mp hterm
    rw [List.length_append, List.length_singleton] at hlen
    have hnumber := varintNumber_lt front
    rw [varintNumber_concat, Nat.mod_eq_of_lt hlt, hpow]
    rcases Nat.lt_or_eq_of_le (Nat.le_of_succ_le_succ hlen) with hk | hk
    · -- fewer digits than the accumulator has room for
      calc varintNumber front + last.toNat * 128^front.length
          < 128^front.length + last.toNat * 128^front.length := Nat.add_lt_add_right hnumber _
        _ = (last.toNat + 1) * 128^front.length := by ring
        _ ≤ 128 * 128^front.length := Nat.mul_le_mul_right _ hlt
        _ = 128^(front.length + 1) := by rw [Nat.pow_succ, Nat.mul_comm]
        _ ≤ 128^k := Nat.pow_le_pow_right (by decide) hk
        _ ≤ 128^k * 2^r := Nat.le_mul_of_pos_right _ (Nat.two_pow_pos r)
    · have htop : last.toNat < 2^r := by
        by_contra htop
        refine hspill ⟨?_, last, ?_, Nat.le_of_not_lt htop, hlt⟩
        · rw [hbytes, List.append_assoc, ← hk, List.take_left]
          exact hfront
        · rw [hbytes, List.append_assoc, ← hk, List.getElem?_append_right (Nat.le_refl _)]
          simp
      calc varintNumber front + last.toNat * 128^front.length
          < 128^front.length + last.toNat * 128^front.length := Nat.add_lt_add_right hnumber _
        _ = (last.toNat + 1) * 128^front.length := by ring
        _ ≤ 2^r * 128^front.length := Nat.mul_le_mul_right _ htop
        _ = 128^k * 2^r := by rw [hk, Nat.mul_comm]

/-- A reader at an offset, in the terms of the bytes that stand there. -/
theorem readVarintAt_eq_ok {α : Type} {w k r : Nat} (hw : w = 7 * k + r) (hr : 0 < r) (hr7 : r ≤ 7)
    {f : Nat → α} {bytes : List UInt8} {offset next : Nat} {v : α} :
    (readVarint w (bytes.drop offset) >>= fun p => pure (f p.1, bytes.length - p.2.length)) =
        .ok (v, next) ↔
      ∃ digits rest, bytes.drop offset = digits ++ rest ∧ terminated digits = true ∧
        digits.length ≤ k + 1 ∧ next = offset + digits.length ∧ v = f (varintNumber digits % 2^w) := by
  have hnext {digits rest : List UInt8} (h : bytes.drop offset = digits ++ rest)
      (hterm : terminated digits = true) : bytes.length - rest.length = offset + digits.length := by
    have hlen := congrArg List.length h
    have hpos := List.length_pos_iff.mpr (terminated_ne_nil hterm)
    rw [List.length_drop, List.length_append] at hlen
    omega
  rw [bind_eq_ok]
  constructor
  · rintro ⟨⟨n, rest⟩, hread, he⟩
    obtain ⟨digits, hbytes, hterm, hlen, rfl⟩ := (readVarint_eq_ok (by omega)).mp hread
    cases he
    exact ⟨digits, rest, hbytes, hterm, by omega, hnext hbytes hterm, rfl⟩
  · rintro ⟨digits, rest, hbytes, hterm, hlen, rfl, rfl⟩
    refine ⟨(_, rest), (readVarint_eq_ok (by omega)).mpr ⟨digits, hbytes, hterm, by omega, rfl⟩, ?_⟩
    rw [hnext hbytes hterm]
    rfl

theorem readsExactly_iff {α : Type} {w k r : Nat} (hw : w = 7 * k + r) (hr : 0 < r) (hr7 : r ≤ 7)
    {f : Nat → α} {toNat : α → Nat} (hf : ∀ n, toNat (f n) = n % 2^w) (hinv : ∀ v, f (toNat v) = v)
    {read : List UInt8 → Nat → IoResult (α × Nat)}
    (hread : ∀ bytes offset, read bytes offset =
      readVarint w (bytes.drop offset) >>= fun p => pure (f p.1, bytes.length - p.2.length))
    (bytes : List UInt8) (offset : Nat) :
    ReadsExactly w (k + 1) toNat read bytes offset ↔ ¬ Spills k (2^r) (bytes.drop offset) := by
  have heq {v : α} {next : Nat} := @readVarintAt_eq_ok _ _ _ _ hw hr hr7 f bytes offset next v
  rw [← varints_fit_iff hw hr7]
  constructor
  · intro hexact digits rest hbytes hterm hlen
    have hok := heq.mpr ⟨digits, rest, hbytes, hterm, hlen, rfl, rfl⟩
    rw [← hread] at hok
    by_contra hbig
    obtain ⟨e, he⟩ := hexact.refuses digits rest hbytes hterm (Nat.le_of_not_lt hbig)
    rw [he] at hok
    cases hok
  · intro hfit
    constructor
    · intro v next
      rw [hread, heq]
      constructor
      · rintro ⟨digits, rest, hbytes, hterm, hlen, rfl, rfl⟩
        have hlt := hfit digits rest hbytes hterm hlen
        refine ⟨digits, rest, hbytes, hterm, hlen, rfl, ?_, ?_⟩
        · rw [hf, Nat.mod_mod, Nat.mod_eq_of_lt hlt]
        · rw [hf]
          exact Nat.mod_lt _ (Nat.two_pow_pos w)
      · rintro ⟨digits, rest, hbytes, hterm, hlen, rfl, hnumber, hlt⟩
        refine ⟨digits, rest, hbytes, hterm, hlen, rfl, ?_⟩
        rw [hnumber, Nat.mod_eq_of_lt hlt, hinv]
    · intro digits rest hbytes hterm hbig
      cases hres : read bytes offset with
      | error e => exact ⟨e, rfl⟩
      | ok p =>
        -- what was read is this varint, and it fits
        rw [hread, heq] at hres
        obtain ⟨digits', rest', hbytes', hterm', hlen', -, -⟩ := hres
        obtain ⟨rfl, -⟩ := terminated_append_inj hterm hterm' (hbytes.symm.trans hbytes')
        exact absurd (hfit digits rest hbytes hterm hlen') (Nat.not_lt.mpr hbig)

/-- A reader is exact, at every offset of every byte string, unless the fifth byte there (the tenth
for 64 bits) is the first without a continuation bit and has bits above the width. -/
theorem varint_exact_iff (bytes : List UInt8) (offset : Nat) :
    (ReadsExactly 32 5 UInt32.toNat readVarintU32At bytes offset ↔
      ¬ Spills 4 0x10 (bytes.drop offset)) ∧
    (ReadsExactly 64 10 UInt64.toNat readVarintU64At bytes offset ↔
      ¬ Spills 9 0x02 (bytes.drop offset)) := by
  constructor
  · refine readsExactly_iff (k := 4) (r := 4) (f := UInt32.ofNat) rfl (by decide) (by decide)
      (fun n => UInt32.toNat_ofNat') (fun v => UInt32.ofNat_toNat) (fun bytes offset => ?_) bytes offset
    rw [readVarintU32At, readVarintU32]
    cases readVarint 32 (bytes.drop offset) <;> rfl
  · refine readsExactly_iff (k := 9) (r := 1) (f := UInt64.ofNat) rfl (by decide) (by decide)
      (fun n => UInt64.toNat_ofNat') (fun v => UInt64.ofNat_toNat) (fun bytes offset => ?_) bytes offset
    rw [readVarintU64At, readVarintU64]
    cases readVarint 64 (bytes.drop offset) <;> rfl

/-- The varint of 2^32 in five bytes is read as 0, and that of 2^64 in ten. -/
theorem varint_truncated :
    varintNumber [0x80, 0x80, 0x80, 0x80, 0x10] = 2^32 ∧
    readVarintU32At [0x80, 0x80, 0x80, 0x80, 0x10] 0 = .ok (0, 5) ∧
    ¬ ReadsExactly 32 5 UInt32.toNat readVarintU32At [0x80, 0x80, 0x80, 0x80, 0x10] 0 ∧
    varintNumber [0x80, 0x80, 0x80, 0x80, 0x80, 0x80, 0x80, 0x80, 0x80, 0x02] = 2^64 ∧
    readVarintU64At [0x80, 0x80, 0x80, 0x80, 0x80, 0x80, 0x80, 0x80, 0x80, 0x02] 0 = .ok (0, 10) ∧
    ¬ ReadsExactly 64 10 UInt64.toNat readVarintU64At
      [0x80, 0x80, 0x80, 0x80, 0x80, 0x80, 0x80, 0x80, 0x80, 0x02] 0 := by
  refine ⟨by decide, by decide, fun h => ?_, by decide, by decide, fun h => ?_⟩
  · obtain ⟨e, he⟩ := h.refuses _ [] (List.append_nil _).symm (by decide) (by decide)
    cases he
  · obtain ⟨e, he⟩ := h.refuses _ [] (List.append_nil _).symm (by decide) (by decide)
    cases he

end Hdc
