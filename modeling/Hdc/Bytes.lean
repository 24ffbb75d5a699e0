import Mathlib.Data.Nat.Bitwise
import Mathlib.Data.List.Basic
import Mathlib.Tactic.Ring

/- Positional byte encodings of natural numbers, with no program attached: the
   big-endian encoding in a fixed number of bytes (`be`, read back by `ofBe`),
   and the little-endian base-128 encoding whose last byte alone has a clear
   high bit (`leb128`). `leb128_length_eq` says how many bytes a number takes,
   and `or_shift_of_lt` is the one bit fact a base-128 reader needs: or-ing a
   digit in above the bits read so far is addition. -/
namespace Wire

/-- The low `w` bytes of `v`, most significant first. -/
def be : Nat → Nat → List UInt8
  | 0, _ => []
  | w+1, v => UInt8.ofNat (v / 256^w) :: be w v

/-- The number a big-endian byte string stands for. -/
def ofBe : List UInt8 → Nat
  | [] => 0
  | b :: bs => b.toNat * 256^bs.length + ofBe bs

@[simp] theorem be_length : ∀ w v, (be w v).length = w
  | 0, _ => rfl
  | w+1, v => by simp [be, be_length w v]

theorem ofBe_be_mod (w v : Nat) : ofBe (be w v) = v % 256^w := by
  induction w with
  | zero => simp [be, ofBe, Nat.mod_one]
  | succ w ih =>
    have hb : (UInt8.ofNat (v / 256^w)).toNat = v / 256^w % 256 := by simp
    simp only [be, ofBe, be_length, ih, hb]
    rw [Nat.pow_succ, Nat.mod_mul, Nat.mul_comm, Nat.add_comm]

theorem ofBe_be {w v : Nat} (h : v < 256^w) : ofBe (be w v) = v := by
  rw [ofBe_be_mod, Nat.mod_eq_of_lt h]

theorem ofBe_lt (bs : List UInt8) : ofBe bs < 256^bs.length := by
  induction bs with
  | nil => simp [ofBe]
  | cons b bs ih =>
    have hb : b.toNat + 1 ≤ 256 := b.toNat_lt
    calc ofBe (b :: bs) < b.toNat * 256^bs.length + 256^bs.length := by
          simp only [ofBe]; omega
      _ = (b.toNat + 1) * 256^bs.length := by ring
      _ ≤ 256 * 256^bs.length := Nat.mul_le_mul_right _ hb
      _ = 256^(b :: bs).length := by rw [List.length_cons, Nat.pow_succ, Nat.mul_comm]

/-- Only the low bytes of a number are encoded. -/
theorem be_add_mul (k : Nat) : ∀ {w : Nat} (v : Nat), w ≤ k → ∀ c, be w (v + c * 256^k) = be w v
  | 0, _, _, _ => rfl
  | w+1, v, hk, c => by
    have hpow : 256^k = 256^w * (256 * 256^(k - (w+1))) := by
      rw [← Nat.mul_assoc, ← Nat.pow_succ, ← Nat.pow_add]
      congr 1
      omega
    have hdiv : (v + c * 256^k) / 256^w = v / 256^w + 256 * (c * 256^(k - (w+1))) := by
      rw [hpow, show v + c * (256^w * (256 * 256^(k - (w+1)))) =
        v + 256^w * (256 * (c * 256^(k - (w+1)))) by ring]
      exact Nat.add_mul_div_left _ _ (Nat.pow_pos (by omega))
    have hbyte : UInt8.ofNat (v / 256^w + 256 * (c * 256^(k - (w+1)))) = UInt8.ofNat (v / 256^w) := by
      apply UInt8.toNat_inj.mp
      simp
    simp only [be, hdiv, hbyte, be_add_mul k v (by omega : w ≤ k) c]

/-- Every byte string is the encoding of the number it stands for. -/
theorem be_ofBe (bs : List UInt8) : be bs.length (ofBe bs) = bs := by
  induction bs with
  | nil => rfl
  | cons b bs ih =>
    have hlow : be bs.length (b.toNat * 256^bs.length + ofBe bs) = bs := by
      rw [Nat.add_comm, be_add_mul bs.length _ (Nat.le_refl _), ih]
    have htop : (b.toNat * 256^bs.length + ofBe bs) / 256^bs.length = b.toNat := by
      rw [Nat.mul_comm, Nat.mul_add_div (Nat.pow_pos (by omega)),
        Nat.div_eq_of_lt (ofBe_lt bs), Nat.add_zero]
    simp only [List.length_cons, be, ofBe, hlow, htop, UInt8.ofNat_toNat]

/-! Base 128. -/

/-- The base-128 digits of `v`, least significant first, the high bit set on
every byte but the last. -/
def leb128 (v : Nat) : List UInt8 :=
  if v < 128 then [UInt8.ofNat v]
  else UInt8.ofNat (v % 128 + 128) :: leb128 (v / 128)
termination_by v
decreasing_by omega

theorem leb128_of_lt {v : Nat} (h : v < 128) : leb128 v = [UInt8.ofNat v] := by
  rw [leb128, if_pos h]

theorem leb128_of_ge {v : Nat} (h : 128 ≤ v) :
    leb128 v = UInt8.ofNat (v % 128 + 128) :: leb128 (v / 128) := by
  rw [leb128, if_neg (by omega)]

theorem leb128_ne_nil (v : Nat) : leb128 v ≠ [] := by
  rw [leb128]; split <;> simp

/-- A number takes `k + 1` bytes when it is below `128^(k+1)` and, past the
first byte, not below `128^k`. -/
theorem leb128_length_eq (k v : Nat) (h : v < 128^(k+1)) (hlo : 0 < k → 128^k ≤ v) :
    (leb128 v).length = k + 1 := by
  induction k generalizing v with
  | zero =>
    rw [leb128_of_lt (by simpa using h)]
    rfl
  | succ k ih =>
    have hge := hlo (Nat.succ_pos k)
    have h128 : 128 ≤ v := by
      calc 128 ≤ 128^k * 128 := Nat.le_mul_of_pos_left _ (Nat.pow_pos (by omega))
        _ = 128^(k+1) := (Nat.pow_succ ..).symm
        _ ≤ v := hge
    rw [leb128_of_ge h128, List.length_cons, ih (v / 128)]
    · rw [Nat.div_lt_iff_lt_mul (by omega), ← Nat.pow_succ]
      exact h
    · intro _
      rw [Nat.le_div_iff_mul_le (by omega), ← Nat.pow_succ]
      exact hge

/-- A number below `128^k` takes at most `k` bytes. -/
theorem leb128_length_le {k v : Nat} (hk : 0 < k) (h : v < 128^k) : (leb128 v).length ≤ k := by
  induction k generalizing v with
  | zero => omega
  | succ k ih =>
    by_cases hv : v < 128
    · rw [leb128_of_lt hv]
      simp
    · rw [leb128_of_ge (by omega), List.length_cons]
      have hd : v / 128 < 128^k := by
        rw [Nat.div_lt_iff_lt_mul (by omega), ← Nat.pow_succ]
        exact h
      have hk : 0 < k := by
        rcases Nat.eq_zero_or_pos k with rfl | hk
        · simp only [Nat.pow_zero] at hd
          omega
        · exact hk
      exact Nat.succ_le_succ (ih hk hd)

theorem lt_pow_leb128_length (v : Nat) : v < 128^(leb128 v).length := by
  induction v using Nat.strongRecOn with
  | ind v ih =>
    by_cases hv : v < 128
    · rw [leb128_of_lt hv]
      simpa using hv
    · have hd := ih (v / 128) (by omega)
      rw [leb128_of_ge (by omega), List.length_cons, Nat.pow_succ]
      exact (Nat.div_lt_iff_lt_mul (by omega)).mp hd

theorem leb128_length_mono {a b : Nat} (h : a ≤ b) : (leb128 a).length ≤ (leb128 b).length :=
  leb128_length_le (List.length_pos_iff.mpr (leb128_ne_nil b))
    (Nat.lt_of_le_of_lt h (lt_pow_leb128_length b))

/-- Bits or-ed in above the first `s` are added. -/
theorem or_shift_of_lt {a b s : Nat} (h : a < 2^s) : a ||| (b <<< s) = a + b * 2^s := by
  rw [Nat.or_comm, ← Nat.shiftLeft_add_eq_or_of_lt h, Nat.shiftLeft_eq, Nat.add_comm]

/-- The same, as far as the bits fit in `w`. -/
theorem or_shift_mod {a b s w : Nat} (h : a < 2^s) (hs : s ≤ w) :
    a ||| (b <<< s) % 2^w = (a + b * 2^s) % 2^w := by
  have ha : a % 2^w = a :=
    Nat.mod_eq_of_lt (Nat.lt_of_lt_of_le h (Nat.pow_le_pow_right (by decide) hs))
  rw [← or_shift_of_lt h, Nat.or_mod_two_pow, ha]

theorem and_127 (v : Nat) : v &&& 127 = v % 128 := Nat.and_two_pow_sub_one_eq_mod v 7

theorem shiftRight_7 (v : Nat) : v >>> 7 = v / 128 := Nat.shiftRight_eq_div_pow v 7

theorem or_128_of_lt {v : Nat} (h : v < 128) : v ||| 128 = v + 128 := by
  have := or_shift_of_lt (a := v) (b := 1) (s := 7) (by simpa using h)
  simpa [Nat.shiftLeft_eq] using this

/-- The high bit of a byte, as a comparison. -/
theorem byte_and_128 (b : UInt8) : b &&& 0x80 = 0 ↔ b.toNat < 128 := by
  have hb : b.toNat < 256 := b.toNat_lt
  have h128 : b.toNat &&& 128 = (b.toNat.testBit 7).toNat * 128 := Nat.and_two_pow b.toNat 7
  rw [← UInt8.toNat_inj, UInt8.toNat_and]
  change b.toNat &&& 128 = 0 ↔ _
  rw [h128, Nat.testBit_eq_decide_div_mod_eq]
  by_cases h : b.toNat < 128
  · simp [h, Nat.div_eq_of_lt h]
  · have : b.toNat / 128 = 1 := by omega
    simp [h, this]

theorem byte_and_127 (b : UInt8) : (b &&& 0x7f).toNat = b.toNat % 128 := by
  rw [UInt8.toNat_and]; exact and_127 b.toNat

end Wire
