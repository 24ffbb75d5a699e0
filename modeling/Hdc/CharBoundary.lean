import Hdc.RustStd

/- Where a Rust `str` may be sliced. A slice of a text at a byte offset panics unless the offset is a
   character boundary (`str::is_char_boundary`): the end of the text, or the place of a byte that
   starts a character. `isCharBoundary_iff` says the same of texts: the text is two texts in a row,
   the first of them as long as the offset. `length_le_fromUtf8Lossy` is about the other direction:
   bytes that are read as a text with replacements never get fewer. -/
namespace Rust

/-- `str::is_char_boundary`. -/
def isCharBoundary (s : String) (n : Nat) : Bool :=
  n == (utf8 s).length || (utf8 s)[n]?.any fun b => decide b.IsUTF8FirstByte

theorem length_utf8 (s : String) : (utf8 s).length = s.utf8ByteSize := by
  rw [utf8, Array.length_toList, ← String.size_toByteArray]
  rfl

theorem isCharBoundary_iff_isValid {s : String} {n : Nat} :
    isCharBoundary s n = true ↔ String.Pos.Raw.IsValid s ⟨n⟩ := by
  rw [String.Pos.Raw.isValid_iff_isUTF8FirstByte, isCharBoundary, Bool.or_eq_true, beq_iff_eq,
    length_utf8, String.Pos.Raw.ext_iff, String.byteIdx_rawEndPos, Option.any_eq_true]
  refine or_congr Iff.rfl ⟨?_, ?_⟩
  · rintro ⟨b, hget, hfirst⟩
    obtain ⟨hlt, rfl⟩ := List.getElem?_eq_some_iff.mp hget
    exact ⟨by rw [String.Pos.Raw.lt_iff, String.byteIdx_rawEndPos, ← length_utf8]; exact hlt,
      of_decide_eq_true hfirst⟩
  · rintro ⟨hlt, hfirst⟩
    rw [String.Pos.Raw.lt_iff, String.byteIdx_rawEndPos, ← length_utf8] at hlt
    exact ⟨_, List.getElem?_eq_getElem hlt, decide_eq_true hfirst⟩

/-- A boundary cuts the text in two. -/
theorem isCharBoundary_iff {s : String} {n : Nat} :
    isCharBoundary s n = true ↔ ∃ t u, s = t ++ u ∧ (utf8 t).length = n := by
  rw [isCharBoundary_iff_isValid, String.Pos.Raw.isValid_iff_exists_append]
  refine exists_congr fun t => exists_congr fun u => and_congr_right fun _ => ?_
  rw [String.Pos.Raw.ext_iff, String.byteIdx_rawEndPos, length_utf8]
  exact eq_comm

/-- The slice up to an offset. -/
theorem fromUtf8_take {s : String} {n : Nat} (hn : n ≤ (utf8 s).length) :
    (∃ t, fromUtf8 ((utf8 s).take n) = some t) ↔ isCharBoundary s n = true := by
  constructor
  · rintro ⟨t, ht⟩
    have hbytes := utf8_of_fromUtf8 ht
    have hvalid : (s.toByteArray.extract 0 n).IsValidUTF8 := by
      have heq : s.toByteArray.extract 0 n = t.toByteArray := by
        apply ByteArray.ext
        apply Array.toList_inj.mp
        rw [ByteArray.data_extract, Array.toList_extract]
        simpa [utf8] using hbytes.symm
      exact heq ▸ t.isValidUTF8
    rw [isCharBoundary_iff_isValid, String.Pos.Raw.isValid_iff_isValidUTF8_extract_zero]
    refine ⟨?_, hvalid⟩
    rw [String.Pos.Raw.le_iff, String.byteIdx_rawEndPos, ← length_utf8]
    exact hn
  · intro h
    obtain ⟨t, u, rfl, rfl⟩ := isCharBoundary_iff.mp h
    exact ⟨t, by rw [utf8_append, List.take_left, fromUtf8_utf8]⟩

theorem fromUtf8_drop {s : String} {n : Nat} (hn : n ≤ (utf8 s).length) :
    (∃ t, fromUtf8 ((utf8 s).drop n) = some t) ↔ isCharBoundary s n = true := by
  constructor
  · rintro ⟨t, ht⟩
    have hbytes := utf8_of_fromUtf8 ht
    have hvalid : (s.toByteArray.extract n s.utf8ByteSize).IsValidUTF8 := by
      have heq : s.toByteArray.extract n s.utf8ByteSize = t.toByteArray := by
        apply ByteArray.ext
        apply Array.toList_inj.mp
        rw [ByteArray.data_extract, Array.toList_extract, ← length_utf8]
        simp only [utf8] at hbytes ⊢
        rw [hbytes, List.extract_eq_take_drop]
        exact List.take_of_length_le (by simp)
      exact heq ▸ t.isValidUTF8
    rw [isCharBoundary_iff_isValid, String.Pos.Raw.isValid_iff_isValidUTF8_extract_utf8ByteSize]
    refine ⟨?_, hvalid⟩
    rw [String.Pos.Raw.le_iff, String.byteIdx_rawEndPos, ← length_utf8]
    exact hn
  · intro h
    obtain ⟨t, u, rfl, rfl⟩ := isCharBoundary_iff.mp h
    exact ⟨u, by rw [utf8_append, List.drop_left, fromUtf8_utf8]⟩

/-- An offset into the second of two texts. -/
theorem isCharBoundary_append {t u : String} {n : Nat} :
    isCharBoundary (t ++ u) ((utf8 t).length + n) = isCharBoundary u n := by
  have hlen : ((utf8 t).length + n == (utf8 t).length + (utf8 u).length) =
      (n == (utf8 u).length) := by
    rw [Bool.eq_iff_iff, beq_iff_eq, beq_iff_eq]
    omega
  rw [isCharBoundary, isCharBoundary, utf8_append, List.length_append, hlen,
    List.getElem?_append_right (Nat.le_add_right _ _), Nat.add_sub_cancel_left]

/-! ASCII. -/

theorem utf8_ofList (cs : List Char) : utf8 (String.ofList cs) = cs.flatMap String.utf8EncodeChar := by
  rw [utf8, String.toByteArray_ofList, List.utf8Encode]
  simp

theorem utf8EncodeChar_ascii {c : Char} (h : c.toNat < 128) :
    String.utf8EncodeChar c = [UInt8.ofNat c.toNat] := by
  have hv : c.val.toNat ≤ 127 := Nat.lt_succ_iff.mp h
  rw [String.utf8EncodeChar, if_pos hv]
  rfl

theorem length_utf8_ascii {cs : List Char} (h : ∀ c ∈ cs, c.toNat < 128) :
    (utf8 (String.ofList cs)).length = cs.length := by
  rw [utf8_ofList]
  induction cs with
  | nil => rfl
  | cons c cs ih =>
    have hc := utf8EncodeChar_ascii (h c List.mem_cons_self)
    have hrest := ih fun d hd => h d (List.mem_cons_of_mem c hd)
    rw [List.flatMap_cons, hc, List.length_append, hrest, List.length_singleton, List.length_cons,
      Nat.add_comm]

/-- Every offset into an ASCII text is a boundary. -/
theorem isCharBoundary_ascii {s : String} (h : ∀ c ∈ s.toList, c.toNat < 128) {n : Nat}
    (hn : n ≤ (utf8 s).length) : isCharBoundary s n = true := by
  have hlen : (utf8 s).length = s.toList.length := by
    rw [← length_utf8_ascii h, String.ofList_toList]
  refine isCharBoundary_iff.mpr
    ⟨String.ofList (s.toList.take n), String.ofList (s.toList.drop n), ?_, ?_⟩
  · rw [← String.ofList_append, List.take_append_drop, String.ofList_toList]
  · rw [length_utf8_ascii fun c hc => h c (List.mem_of_mem_take hc), List.length_take]
    omega

/-- The only character with a zero byte is NUL. -/
theorem eq_nul_of_zero_mem {c : Char} (h : 0 ∈ String.utf8EncodeChar c) : c = '\x00' := by
  have hhigh {n : Nat} (hlo : 128 ≤ n) (hhi : n < 256) : (0 : UInt8) ≠ UInt8.ofNat n := by
    intro heq
    have hnat := congrArg UInt8.toNat heq
    rw [UInt8.toNat_ofNat', Nat.mod_eq_of_lt hhi] at hnat
    exact absurd (hnat.symm.subst hlo) (by decide)
  rw [String.utf8EncodeChar] at h
  split_ifs at h with h1 h2 h3
  · have hbyte := congrArg UInt8.toNat (List.mem_singleton.mp h)
    rw [UInt8.toNat_ofNat', Nat.mod_eq_of_lt (by omega)] at hbyte
    exact Char.ext (UInt32.toNat_inj.mp hbyte.symm)
  -- the bytes of the others have their high bit set
  · rcases List.mem_pair.mp h with h | h <;> exact absurd h (hhigh (by omega) (by omega))
  · simp only [List.mem_cons, List.not_mem_nil, or_false] at h
    rcases h with h | h | h <;> exact absurd h (hhigh (by omega) (by omega))
  · simp only [List.mem_cons, List.not_mem_nil, or_false] at h
    rcases h with h | h | h | h <;> exact absurd h (hhigh (by omega) (by omega))

theorem zero_not_mem_utf8 {s : String} (h : '\x00' ∉ s.toList) : 0 ∉ utf8 s := by
  intro hzero
  rw [← String.ofList_toList (s := s), utf8_ofList] at hzero
  obtain ⟨c, hc, hbyte⟩ := List.mem_flatMap.mp hzero
  exact h (eq_nul_of_zero_mem hbyte ▸ hc)

/-! Lossy decoding. -/

theorem invalidLen_pos (b : UInt8) (rest : List UInt8) : 0 < invalidLen (b :: rest) := by
  simp only [invalidLen]
  split_ifs <;> decide

theorem invalidLen_le (bytes : List UInt8) : invalidLen bytes ≤ 3 := by
  cases bytes with
  | nil => decide
  | cons b rest =>
    simp only [invalidLen]
    split_ifs <;> decide

/-- A character stands for as many bytes as it has, and U+FFFD, which has three, for at most
three. -/
theorem length_le_lossyChars {fuel : Nat} {bytes : List UInt8} (hfuel : bytes.length ≤ fuel) :
    bytes.length ≤ ((lossyChars fuel bytes).flatMap String.utf8EncodeChar).length := by
  induction fuel generalizing bytes with
  | zero => exact hfuel.trans (Nat.zero_le _)
  | succ fuel ih =>
    cases bytes with
    | nil => exact Nat.zero_le _
    | cons b rest =>
      -- one round takes at least one byte, and no more than it gives back
      have hround : ∀ (c : Char) (n : Nat), 0 < n → n ≤ c.utf8Size →
          (b :: rest).length ≤ ((c :: lossyChars fuel ((b :: rest).drop n)).flatMap
            String.utf8EncodeChar).length := by
        intro c n hpos hle
        have hdrop : ((b :: rest).drop n).length = (b :: rest).length - n := List.length_drop
        have hrest := @ih ((b :: rest).drop n) (by omega)
        rw [List.flatMap_cons, List.length_append, String.length_utf8EncodeChar]
        omega
      rw [lossyChars]
      · cases ByteArray.utf8DecodeChar? ⟨(b :: rest).toArray⟩ 0 with
        | some c => exact hround c c.utf8Size c.utf8Size_pos (le_refl _)
        | none => exact hround _ _ (invalidLen_pos b rest) (invalidLen_le _)
      · nofun

/-- Bytes read with replacements are at least as many bytes again. -/
theorem length_le_fromUtf8Lossy (bytes : List UInt8) :
    bytes.length ≤ (utf8 (fromUtf8Lossy bytes)).length := by
  rw [fromUtf8Lossy]
  cases hbytes : fromUtf8 bytes with
  | some s => exact (congrArg List.length (utf8_of_fromUtf8 hbytes)).ge
  | none =>
    rw [utf8_ofList]
    exact length_le_lossyChars (le_refl _)

end Rust
