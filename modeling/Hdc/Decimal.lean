import Hdc.RustStd
import Mathlib.Algebra.Group.Nat.Defs

/- Decimal numbers as Rust prints them (`{}`) and reads them (`str::parse`). The digits of a text are
   worth `Nat.ofDigitChars 10 digits 0`; a printed number reads back as itself. -/
namespace Rust

/-- The value of decimal digits. -/
def decimal (digits : List Char) : Nat := Nat.ofDigitChars 10 digits 0

theorem toNat_lt_of_isDigit {c : Char} (h : c.isDigit = true) : c.toNat < 58 :=
  Nat.lt_of_le_of_lt (Char.isDigit_iff_toNat.mp h).2 (by decide)

theorem isWhitespace_of_isDigit {c : Char} (h : c.isDigit = true) : isWhitespace c = false := by
  obtain ⟨hlow, hhigh⟩ := Char.isDigit_iff_toNat.mp h
  have hlow' : 48 ≤ c.toNat := hlow
  have hhigh' : c.toNat ≤ 57 := hhigh
  rw [Bool.eq_false_iff]
  simp only [isWhitespace, Ne, Bool.or_eq_true, Bool.and_eq_true, decide_eq_true_eq]
  omega

theorem ofDigitChars_lt : ∀ {digits : List Char} (n : Nat), digits.all Char.isDigit = true →
    Nat.ofDigitChars 10 digits n < (n + 1) * 10 ^ digits.length
  | [], n, _ => by
    rw [List.length_nil, Nat.pow_zero, Nat.mul_one]
    exact Nat.lt_succ_self n
  | c :: digits, n, h => by
    obtain ⟨hc, hdigits⟩ := Bool.and_eq_true_iff.mp h
    have hval : c.toNat - 48 < 10 := by
      have := toNat_lt_of_isDigit hc
      omega
    calc Nat.ofDigitChars 10 (c :: digits) n
        = Nat.ofDigitChars 10 digits (10 * n + (c.toNat - 48)) := rfl
      _ < (10 * n + (c.toNat - 48) + 1) * 10 ^ digits.length := ofDigitChars_lt _ hdigits
      _ ≤ ((n + 1) * 10) * 10 ^ digits.length := Nat.mul_le_mul_right _ (by omega)
      _ = (n + 1) * 10 ^ (c :: digits).length := by
        rw [List.length_cons, Nat.pow_succ, Nat.mul_assoc, Nat.mul_comm 10]

/-- A number is less than the power of ten that has one digit more. -/
theorem decimal_lt {digits : List Char} (h : digits.all Char.isDigit = true) :
    decimal digits < 10 ^ digits.length := by
  have := ofDigitChars_lt 0 h
  rwa [Nat.zero_add, Nat.one_mul] at this

/-! Printed numbers. -/

theorem toList_toString (n : Nat) : (toString n).toList = Nat.toDigits 10 n := Nat.toList_repr

theorem toDigits_all_isDigit (n : Nat) : (Nat.toDigits 10 n).all Char.isDigit = true :=
  List.all_eq_true.mpr fun _ hc => Nat.isDigit_of_mem_toDigits (by decide) (by decide) hc

theorem decimal_toDigits (n : Nat) : decimal (Nat.toDigits 10 n) = n :=
  Nat.ofDigitChars_toDigits (by decide) (by decide)

theorem plus_not_isDigit {digits : List Char} (h : digits.all Char.isDigit = true)
    (rest : List Char) : digits ≠ '+' :: rest := by
  rintro rfl
  cases h

/-! Reading a `usize`. -/

theorem parseUsize_digits {s : String} (hne : s.toList ≠ []) (h : s.toList.all Char.isDigit = true) :
    parseUsize s = if decimal s.toList < UInt64.size then some (decimal s.toList) else none := by
  have hempty : s.toList.isEmpty = false := List.isEmpty_eq_false_iff.mpr hne
  unfold parseUsize
  split
  · rename_i digits hplus
    exact absurd hplus (plus_not_isDigit h digits)
  · dsimp only
    rw [hempty, h]
    rfl

theorem parseUsize_toString {n : Nat} (hn : n < UInt64.size) : parseUsize (toString n) = some n := by
  have hlist := toList_toString n
  rw [parseUsize_digits (hlist ▸ Nat.toDigits_ne_nil) (hlist ▸ toDigits_all_isDigit n), hlist,
    decimal_toDigits, if_pos hn]

/-- A text of so many characters reads as a number of so many digits at most. -/
theorem parseUsize_lt {s : String} {n : Nat} (h : parseUsize s = some n) :
    n < 10 ^ s.toList.length := by
  have hdigits : ∀ digits : List Char, digits.length ≤ s.toList.length →
      (if digits.isEmpty || !digits.all Char.isDigit then none
        else if decimal digits < UInt64.size then some (decimal digits) else none) = some n →
      n < 10 ^ s.toList.length := by
    intro digits hlen hread
    rw [Option.ite_none_left_eq_some, Option.ite_none_right_eq_some] at hread
    obtain ⟨hvalid, -, hn⟩ := hread
    cases hn
    have hall : digits.all Char.isDigit = true := by
      simp only [Bool.or_eq_true, Bool.not_eq_true', not_or, Bool.not_eq_false] at hvalid
      exact hvalid.2
    exact Nat.lt_of_lt_of_le (decimal_lt hall) (Nat.pow_le_pow_right (by decide) hlen)
  unfold parseUsize at h
  split at h
  · rename_i digits hplus
    exact hdigits digits (by rw [hplus, List.length_cons]; exact Nat.le_succ _) h
  · exact hdigits s.toList (Nat.le_refl _) h

/-! Reading a `u16`. -/

theorem le_ofDigitChars : ∀ (digits : List Char) (n : Nat), n ≤ Nat.ofDigitChars 10 digits n
  | [], n => Nat.le_refl n
  | c :: digits, n => by
    calc n ≤ 10 * n + (c.toNat - '0'.toNat) := by omega
      _ ≤ Nat.ofDigitChars 10 digits (10 * n + (c.toNat - '0'.toNat)) := le_ofDigitChars digits _
      _ = Nat.ofDigitChars 10 (c :: digits) n := rfl

/-- The loop stops at the first digit too many; the number only grows, so the last value decides. -/
theorem parseU16Loop_digits : ∀ {digits : List Char} {n : Nat}, digits.all Char.isDigit = true →
    n < UInt16.size → parseU16Loop n digits =
      if Nat.ofDigitChars 10 digits n < UInt16.size then
        .ok (UInt16.ofNat (Nat.ofDigitChars 10 digits n))
      else .error "number too large to fit in target type"
  | [], n, _, hn => by
    rw [parseU16Loop]
    exact (if_pos hn).symm
  | c :: digits, n, h, hn => by
    obtain ⟨hc, hdigits⟩ := Bool.and_eq_true_iff.mp h
    have hcons : Nat.ofDigitChars 10 (c :: digits) n =
        Nat.ofDigitChars 10 digits (10 * n + (c.toNat - 48)) := rfl
    rw [parseU16Loop, hc, hcons]
    simp only [Bool.not_true, Bool.false_eq_true, ↓reduceIte]
    split
    · rename_i hlt
      exact parseU16Loop_digits hdigits hlt
    · rename_i hge
      have hle := le_ofDigitChars digits (10 * n + (c.toNat - 48))
      rw [if_neg]
      omega

theorem parseU16_digits {s : String} (hne : s.toList ≠ []) (h : s.toList.all Char.isDigit = true) :
    parseU16 s = if decimal s.toList < UInt16.size then .ok (UInt16.ofNat (decimal s.toList))
      else .error "number too large to fit in target type" := by
  unfold parseU16
  split
  · rename_i hnil
    exact absurd hnil hne
  · rename_i hplus
    exact absurd hplus (plus_not_isDigit h [])
  · rename_i digits _ hplus
    exact absurd hplus (plus_not_isDigit h digits)
  · exact parseU16Loop_digits h (by decide)

end Rust
