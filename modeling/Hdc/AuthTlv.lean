import Hdc.AuthGate
import Hdc.CharBoundary
import Hdc.Decimal

/- The records of the handshake buffer: a tag and the length of a value, each in a field of sixteen
   bytes, and the value (`make_tlv` and the two copies of `parse_tlv`, in `hdc/src/server.rs` and
   `hdcd/src/main.rs`).

   1. The two parsers are written differently and agree (`parseTlv_eq_hostParseTlv`): a field of
      sixteen bytes holds a number below 10^16, so the sum in the daemon's does not overflow.
   2. One round of the loop (`hostParseTlvLoop_record`) is over three texts in a row. The first two
      are there if the offsets 16 and 32 are character boundaries, and only then does the loop not
      panic (`hostParseTlvLoop_boundaries`). A round takes at least 32 bytes, so there is a last one
      (`hostParseTlvLoop_fuel`).
   3. So a parser returns exactly if every offset it slices at is a boundary (`tlv_returns_iff`).
   4. On records that `make_tlv` has written, the offsets are the ends of the records, and the
      parsers return them (`tlv_round_trip`). -/
namespace Hdc
open Rust

/-! The two parsers. -/

theorem length_toList_le_utf8 (s : String) : s.toList.length ≤ (utf8 s).length := by
  rw [← String.ofList_toList (s := s), utf8_ofList, String.toList_ofList]
  induction s.toList with
  | nil => exact Nat.le_refl 0
  | cons c cs ih =>
    have hpos : 0 < (String.utf8EncodeChar c).length := by
      rw [String.length_utf8EncodeChar]
      exact Char.utf8Size_pos c
    rw [List.flatMap_cons, List.length_append, List.length_cons]
    omega

theorem length_trimEnd_le (s : String) : (trimEnd s).toList.length ≤ s.toList.length := by
  rw [trimEnd, String.toList_ofList]
  exact (List.rdropWhile_prefix _ _).length_le

/-- A field of sixteen bytes holds no more than sixteen digits. -/
theorem valLen_lt {bytes : List UInt8} {field : String} {valLen : Nat}
    (hfield : fromUtf8 (bytes.take 16) = some field)
    (h : parseUsize (trimEnd field) = some valLen) : valLen < 10000000000000000 := by
  have hbytes : (utf8 field).length ≤ 16 := by
    rw [utf8_of_fromUtf8 hfield]
    exact List.length_take_le 16 bytes
  have hchars : (trimEnd field).toList.length ≤ 16 :=
    Nat.le_trans (length_trimEnd_le field) (Nat.le_trans (length_toList_le_utf8 field) hbytes)
  calc valLen < 10 ^ (trimEnd field).toList.length := parseUsize_lt h
    _ ≤ 10 ^ 16 := Nat.pow_le_pow_right (by decide) hchars
    _ = 10000000000000000 := by norm_num

/-- One round of the host's loop. -/
theorem hostParseTlvLoop_round {fuel : Nat} {remaining : List UInt8}
    {map : List (String × String)} (hlen : 32 ≤ remaining.length) :
    hostParseTlvLoop (fuel + 1) remaining map =
      (fromUtf8 (remaining.take 16)).bind fun tag =>
        (fromUtf8 ((remaining.drop 16).take 16)).bind fun field =>
          match parseUsize (trimEnd field) with
          | none => some map
          | some valLen =>
            if (remaining.drop 32).length < valLen then some map
            else (fromUtf8 ((remaining.drop 32).take valLen)).bind fun val =>
              hostParseTlvLoop fuel ((remaining.drop 32).drop valLen)
                ((trimEnd tag, val) :: map) := by
  rewrite [hostParseTlvLoop, if_neg (Nat.not_lt.mpr hlen)]
  refine Option.bind_congr fun tag _ => Option.bind_congr fun field _ => ?_
  cases parseUsize (trimEnd field) <;> rfl

/-- The bytes are fuel enough: more of it changes nothing. -/
theorem hostParseTlvLoop_fuel : ∀ {fuel fuel' : Nat} {remaining : List UInt8}
    {map : List (String × String)}, remaining.length ≤ fuel → remaining.length ≤ fuel' →
    hostParseTlvLoop fuel remaining map = hostParseTlvLoop fuel' remaining map
  | 0, 0, _, _, _, _ => rfl
  | 0, fuel'+1, remaining, map, h, _ => by
    rw [hostParseTlvLoop, hostParseTlvLoop, if_pos (by omega)]
  | fuel+1, 0, remaining, map, _, h' => by
    rw [hostParseTlvLoop, hostParseTlvLoop, if_pos (by omega)]
  | fuel+1, fuel'+1, remaining, map, h, h' => by
    rcases Nat.lt_or_ge remaining.length 32 with hshort | hlen
    · rw [hostParseTlvLoop, hostParseTlvLoop, if_pos hshort, if_pos hshort]
    rw [hostParseTlvLoop_round hlen, hostParseTlvLoop_round hlen]
    refine Option.bind_congr fun tag _ => Option.bind_congr fun field _ => ?_
    cases parseUsize (trimEnd field) with
    | none => rfl
    | some valLen =>
      have hrest : ((remaining.drop 32).drop valLen).length + 32 ≤ remaining.length := by
        rw [List.length_drop, List.length_drop]
        omega
      refine ite_congr rfl (fun _ => rfl) fun _ => Option.bind_congr fun val _ => ?_
      exact hostParseTlvLoop_fuel (by omega) (by omega)

theorem parseTlvLoop_eq_host : ∀ (fuel : Nat) (remaining : List UInt8) (map : List (String × String)),
    parseTlvLoop fuel remaining map = hostParseTlvLoop fuel remaining map
  | 0, _, _ => rfl
  | fuel+1, remaining, map => by
    rcases Nat.lt_or_ge remaining.length 32 with hshort | hlen
    · rw [parseTlvLoop, hostParseTlvLoop, if_pos hshort, if_pos hshort]
    rewrite [hostParseTlvLoop_round hlen, parseTlvLoop, if_neg (Nat.not_lt.mpr hlen)]
    refine Option.bind_congr fun tag _ => Option.bind_congr fun field hfield => ?_
    cases hval : parseUsize (trimEnd field) with
    | none =>
      show some map = some map
      rfl
    | some valLen =>
      have hlt := valLen_lt hfield hval
      have hsum : ¬ 2 ^ 64 ≤ 32 + valLen := by omega
      have hfits : (remaining.drop 32).length < valLen ↔ remaining.length < 32 + valLen := by
        rw [List.length_drop]
        omega
      simp only [if_neg hsum, hfits, List.drop_drop, parseTlvLoop_eq_host fuel, Option.bind_eq_bind]

theorem parseTlv_eq_hostParseTlv (tlv : String) : parseTlv tlv = hostParseTlv tlv :=
  parseTlvLoop_eq_host _ _ _

/-! One round. -/

section
variable {fuel : Nat} {map : List (String × String)}

/-- A tag, a length and what is behind them. -/
theorem hostParseTlvLoop_record {tag field : String} (htag : (utf8 tag).length = 16)
    (hfield : (utf8 field).length = 16) (rest : String) :
    hostParseTlvLoop (fuel + 1) (utf8 (tag ++ field ++ rest)) map =
      match parseUsize (trimEnd field) with
      | none => some map
      | some valLen =>
        if (utf8 rest).length < valLen then some map
        else (fromUtf8 ((utf8 rest).take valLen)).bind fun val =>
          hostParseTlvLoop fuel ((utf8 rest).drop valLen) ((trimEnd tag, val) :: map) := by
  have hbytes : utf8 (tag ++ field ++ rest) = utf8 tag ++ (utf8 field ++ utf8 rest) := by
    rw [utf8_append, utf8_append, List.append_assoc]
  have hdrop : (utf8 tag ++ (utf8 field ++ utf8 rest)).drop 16 = utf8 field ++ utf8 rest :=
    List.drop_left' htag
  have hdrop32 : (utf8 tag ++ (utf8 field ++ utf8 rest)).drop 32 = utf8 rest := by
    rw [← List.append_assoc]
    exact List.drop_left' (by rw [List.length_append, htag, hfield])
  have hlen : 32 ≤ (utf8 tag ++ (utf8 field ++ utf8 rest)).length := by
    rw [List.length_append, List.length_append, htag, hfield]
    omega
  rw [hbytes, hostParseTlvLoop_round hlen, List.take_left' htag, fromUtf8_utf8, Option.bind_some,
    hdrop, List.take_left' hfield, fromUtf8_utf8, Option.bind_some, hdrop32]

/-- The loop does not come past fields that are not at boundaries. -/
theorem hostParseTlvLoop_boundaries {remaining : String} (hlen : 32 ≤ (utf8 remaining).length)
    (h : hostParseTlvLoop (fuel + 1) (utf8 remaining) map ≠ none) :
    isCharBoundary remaining 16 = true ∧ isCharBoundary remaining 32 = true := by
  rw [hostParseTlvLoop_round hlen] at h
  have hle : 16 ≤ (utf8 remaining).length := by omega
  cases htag : fromUtf8 ((utf8 remaining).take 16) with
  | none =>
    rw [htag] at h
    exact absurd rfl h
  | some tag =>
    have hfirst := (fromUtf8_take hle).mp ⟨tag, htag⟩
    obtain ⟨t, u, rfl, ht⟩ := isCharBoundary_iff.mp hfirst
    have hdrop : (utf8 (t ++ u)).drop 16 = utf8 u := by
      rw [utf8_append]
      exact List.drop_left' ht
    rw [htag, hdrop] at h
    cases hfield : fromUtf8 ((utf8 u).take 16) with
    | none =>
      rw [hfield] at h
      exact absurd rfl h
    | some field =>
      have hle' : 16 ≤ (utf8 u).length := by
        rw [utf8_append, List.length_append, ht] at hlen
        omega
      have hsecond := (fromUtf8_take hle').mp ⟨field, hfield⟩
      rw [← isCharBoundary_append (t := t), ht] at hsecond
      exact ⟨hfirst, hsecond⟩

end

/-- A text with its first two fields at boundaries. -/
theorem fields_of_boundaries {remaining : String} (hfirst : isCharBoundary remaining 16 = true)
    (hsecond : isCharBoundary remaining 32 = true) :
    ∃ tag field rest, remaining = tag ++ field ++ rest ∧ (utf8 tag).length = 16 ∧
      (utf8 field).length = 16 := by
  obtain ⟨tag, u, rfl, htag⟩ := isCharBoundary_iff.mp hfirst
  have hu : isCharBoundary u 16 = true := by
    rw [← isCharBoundary_append (t := tag), htag]
    exact hsecond
  obtain ⟨field, rest, rfl, hfield⟩ := isCharBoundary_iff.mp hu
  exact ⟨tag, field, rest, (String.append_assoc ..).symm, htag, hfield⟩

/-- A round goes through if its fields and its value are texts and the next round does. -/
theorem hostParseTlvLoop_ne_none {fuel : Nat} {map : List (String × String)} {remaining : String}
    (hlen : 32 ≤ (utf8 remaining).length) :
    hostParseTlvLoop (fuel + 1) (utf8 remaining) map ≠ none ↔
      ∃ tag field rest, remaining = tag ++ field ++ rest ∧ (utf8 tag).length = 16 ∧
        (utf8 field).length = 16 ∧
        ∀ n, parseUsize (trimEnd field) = some n → n ≤ (utf8 rest).length →
          ∃ val next, rest = val ++ next ∧ (utf8 val).length = n ∧
            hostParseTlvLoop fuel (utf8 next) ((trimEnd tag, val) :: map) ≠ none := by
  constructor
  · intro h
    obtain ⟨hfirst, hsecond⟩ := hostParseTlvLoop_boundaries hlen h
    obtain ⟨tag, field, rest, rfl, htag, hfield⟩ := fields_of_boundaries hfirst hsecond
    refine ⟨tag, field, rest, rfl, htag, hfield, fun n hn hfits => ?_⟩
    rw [hostParseTlvLoop_record htag hfield, hn] at h
    dsimp only at h
    rw [if_neg (Nat.not_lt.mpr hfits)] at h
    cases hval : fromUtf8 ((utf8 rest).take n) with
    | none =>
      rw [hval] at h
      exact absurd rfl h
    | some val =>
      obtain ⟨val', next, rfl, hlen'⟩ :=
        isCharBoundary_iff.mp ((fromUtf8_take hfits).mp ⟨val, hval⟩)
      rw [utf8_append, List.take_left' hlen', fromUtf8_utf8, List.drop_left' hlen'] at h
      exact ⟨val', next, rfl, hlen', h⟩
  · rintro ⟨tag, field, rest, rfl, htag, hfield, hnext⟩
    rw [hostParseTlvLoop_record htag hfield]
    cases hn : parseUsize (trimEnd field) with
    | none => exact Option.some_ne_none map
    | some n =>
      dsimp only
      split
      · exact Option.some_ne_none map
      · rename_i hfits
        obtain ⟨val, next, rfl, hval, hloop⟩ := hnext n hn (Nat.le_of_not_lt hfits)
        rw [utf8_append, List.take_left' hval, fromUtf8_utf8, List.drop_left' hval]
        exact hloop

/-! The offsets. -/

/-- The length that the record at an offset gives for its value. -/
def valLenAt (tlv : String) (off : Nat) : Option Nat :=
  (fromUtf8 (((utf8 tlv).drop (off + 16)).take 16)).bind fun field => parseUsize (trimEnd field)

/-- An offset that the lengths lead to, record by record. -/
inductive RecordAt (tlv : String) : Nat → Prop where
  | first : RecordAt tlv 0
  | next {off n : Nat} (hrecord : RecordAt tlv off) (hhead : off + 32 ≤ (utf8 tlv).length)
    (hlen : valLenAt tlv off = some n) (hfits : off + 32 + n ≤ (utf8 tlv).length) :
    RecordAt tlv (off + 32 + n)

/-- Every field and every value of the records ends at a character boundary. -/
def Aligned (tlv : String) : Prop :=
  ∀ off, RecordAt tlv off → off + 32 ≤ (utf8 tlv).length →
    isCharBoundary tlv (off + 16) = true ∧ isCharBoundary tlv (off + 32) = true ∧
      ∀ n, valLenAt tlv off = some n → off + 32 + n ≤ (utf8 tlv).length →
        isCharBoundary tlv (off + 32 + n) = true

theorem valLenAt_record {before tag field : String} (htag : (utf8 tag).length = 16)
    (hfield : (utf8 field).length = 16) (rest : String) :
    valLenAt (before ++ (tag ++ field ++ rest)) (utf8 before).length =
      parseUsize (trimEnd field) := by
  have hbytes : utf8 (before ++ (tag ++ field ++ rest)) =
      (utf8 before ++ utf8 tag) ++ (utf8 field ++ utf8 rest) := by
    simp only [utf8_append, List.append_assoc]
  have hlen : (utf8 before ++ utf8 tag).length = (utf8 before).length + 16 := by
    rw [List.length_append, htag]
  rw [valLenAt, hbytes, List.drop_left' hlen, List.take_left' hfield, fromUtf8_utf8,
    Option.bind_some]

/-- A parser that returns has come to every record. -/
theorem RecordAt.reached {tlv : String} (h : hostParseTlv tlv ≠ none) {off : Nat}
    (hrecord : RecordAt tlv off) :
    ∃ before remaining fuel map, tlv = before ++ remaining ∧ (utf8 before).length = off ∧
      (utf8 remaining).length ≤ fuel ∧ hostParseTlvLoop fuel (utf8 remaining) map ≠ none := by
  induction hrecord with
  | first => exact ⟨"", tlv, (utf8 tlv).length, [], String.empty_append.symm, rfl, Nat.le_refl _, h⟩
  | @next off n hrecord hhead hlen hfits ih =>
    obtain ⟨before, remaining, fuel, map, rfl, rfl, hfuel, hloop⟩ := ih
    rw [utf8_append, List.length_append] at hhead hfits
    cases fuel with
    | zero => omega
    | succ fuel =>
      obtain ⟨tag, field, rest, rfl, htag, hfield, hnext⟩ :=
        (hostParseTlvLoop_ne_none (by omega)).mp hloop
      rw [valLenAt_record htag hfield] at hlen
      simp only [utf8_append, List.length_append, htag, hfield] at hfits hfuel
      obtain ⟨val, next, rfl, hval, hloop⟩ := hnext n hlen (by omega)
      simp only [utf8_append, List.length_append, hval] at hfuel
      refine ⟨before ++ tag ++ field ++ val, next, fuel, _, ?_, ?_, by omega, hloop⟩
      · simp only [String.append_assoc]
      · simp only [utf8_append, List.length_append, htag, hfield, hval]

theorem aligned_of_returns {tlv : String} (h : hostParseTlv tlv ≠ none) : Aligned tlv := by
  intro off hrecord hhead
  obtain ⟨before, remaining, fuel, map, rfl, rfl, hfuel, hloop⟩ := hrecord.reached h
  rw [utf8_append, List.length_append] at hhead
  cases fuel with
  | zero => omega
  | succ fuel =>
    obtain ⟨tag, field, rest, rfl, htag, hfield, hnext⟩ :=
      (hostParseTlvLoop_ne_none (by omega)).mp hloop
    refine ⟨?_, ?_, fun n hn hfits => ?_⟩
    · rw [isCharBoundary_append, isCharBoundary_iff]
      exact ⟨tag, field ++ rest, String.append_assoc .., htag⟩
    · rw [isCharBoundary_append, isCharBoundary_iff]
      exact ⟨tag ++ field, rest, rfl, by rw [utf8_append, List.length_append, htag, hfield]⟩
    · rw [valLenAt_record htag hfield] at hn
      simp only [utf8_append, List.length_append, htag, hfield] at hfits
      obtain ⟨val, next, rfl, hval, -⟩ := hnext n hn (by omega)
      rw [Nat.add_assoc, isCharBoundary_append, isCharBoundary_iff]
      refine ⟨tag ++ field ++ val, next, (String.append_assoc ..).symm, ?_⟩
      rw [utf8_append, utf8_append, List.length_append, List.length_append, htag, hfield, hval]

/-- On aligned records the loop goes through from each of them. -/
theorem Aligned.loop {tlv : String} (h : Aligned tlv) : ∀ (fuel : Nat) (before remaining : String)
    (map : List (String × String)), tlv = before ++ remaining → RecordAt tlv (utf8 before).length →
    hostParseTlvLoop fuel (utf8 remaining) map ≠ none
  | 0, _, _, map, _, _ => Option.some_ne_none map
  | fuel+1, before, remaining, map, htlv, hrecord => by
    rcases Nat.lt_or_ge (utf8 remaining).length 32 with hshort | hlen
    · rw [hostParseTlvLoop, if_pos hshort]
      exact Option.some_ne_none map
    · have hhead : (utf8 before).length + 32 ≤ (utf8 tlv).length := by
        rw [htlv, utf8_append, List.length_append]
        omega
      obtain ⟨hfirst, hsecond, hvalue⟩ := h _ hrecord hhead
      rw [htlv, isCharBoundary_append] at hfirst hsecond
      obtain ⟨tag, field, rest, rfl, htag, hfield⟩ := fields_of_boundaries hfirst hsecond
      refine (hostParseTlvLoop_ne_none hlen).mpr
        ⟨tag, field, rest, rfl, htag, hfield, fun n hn hfits => ?_⟩
      have hvalLen : valLenAt tlv (utf8 before).length = some n := by
        rw [htlv, valLenAt_record htag hfield, hn]
      have hend : (utf8 before).length + 32 + n ≤ (utf8 tlv).length := by
        rw [htlv]
        simp only [utf8_append, List.length_append, htag, hfield]
        omega
      have hboundary := hvalue n hvalLen hend
      have hfields : (utf8 (before ++ (tag ++ field))).length = (utf8 before).length + 32 := by
        simp only [utf8_append, List.length_append, htag, hfield]
      rw [htlv, ← String.append_assoc, ← hfields, isCharBoundary_append] at hboundary
      obtain ⟨val, next, rfl, hval⟩ := isCharBoundary_iff.mp hboundary
      refine ⟨val, next, rfl, hval, h.loop fuel (before ++ (tag ++ field) ++ val) next _ ?_ ?_⟩
      · rw [htlv]
        simp only [String.append_assoc]
      · rw [utf8_append, List.length_append, hfields, hval]
        exact hrecord.next hhead hvalLen hend

/-- Both parsers come to an end, and return a map exactly for aligned records. -/
theorem tlv_returns_iff (tlv : String) :
    ((∀ fuel, (utf8 tlv).length ≤ fuel →
        hostParseTlvLoop fuel (utf8 tlv) [] = hostParseTlv tlv ∧
          parseTlvLoop fuel (utf8 tlv) [] = parseTlv tlv) ∧
      (hostParseTlv tlv).isSome = true ∧ (parseTlv tlv).isSome = true) ↔ Aligned tlv := by
  have hfuel : ∀ fuel, (utf8 tlv).length ≤ fuel →
      hostParseTlvLoop fuel (utf8 tlv) [] = hostParseTlv tlv ∧
        parseTlvLoop fuel (utf8 tlv) [] = parseTlv tlv := by
    intro fuel hle
    have hhost : hostParseTlvLoop fuel (utf8 tlv) [] = hostParseTlv tlv :=
      hostParseTlvLoop_fuel hle (Nat.le_refl _)
    exact ⟨hhost, by rw [parseTlvLoop_eq_host, parseTlv_eq_hostParseTlv, hhost]⟩
  rw [and_iff_right hfuel, parseTlv_eq_hostParseTlv, and_self_iff, Option.isSome_iff_ne_none]
  constructor
  · exact aligned_of_returns
  · intro h
    exact h.loop _ "" tlv [] String.empty_append.symm .first

/-- The tag field ends in the middle of the euro sign. -/
theorem tlv_panics_euro :
    hostParseTlv "aaaaaaaaaaaaaaa€aaaaaaaaaaaaaaaa" = none ∧
      parseTlv "aaaaaaaaaaaaaaa€aaaaaaaaaaaaaaaa" = none := by
  decide

/-! Records as they are written. -/

/-- A tag that fits its field. -/
structure TlvTag (tag : String) : Prop where
  ascii : ∀ c ∈ tag.toList, c.toNat < 128
  size : 1 ≤ tag.toList.length ∧ tag.toList.length ≤ 16
  trailing : ∀ c, tag.toList.getLast? = some c → isWhitespace c = false

theorem tlvTag_iff {tag : String} :
    TlvTag tag ↔ (tag.toList.all fun c => decide (c.toNat < 128)) = true ∧
      (1 ≤ tag.toList.length ∧ tag.toList.length ≤ 16) ∧
      tag.toList.getLast?.any isWhitespace = false := by
  have htrailing : tag.toList.getLast?.any isWhitespace = false ↔
      ∀ c, tag.toList.getLast? = some c → isWhitespace c = false := by
    cases tag.toList.getLast? with
    | none => exact iff_of_true rfl nofun
    | some c => exact ⟨fun h d hd => Option.some.inj hd ▸ h, fun h => h c rfl⟩
  rw [List.all_eq_true, htrailing]
  constructor
  · intro h
    exact ⟨fun c hc => decide_eq_true (h.ascii c hc), h.size, h.trailing⟩
  · rintro ⟨hascii, hsize, hlast⟩
    exact ⟨fun c hc => of_decide_eq_true (hascii c hc), hsize, hlast⟩

instance (tag : String) : Decidable (TlvTag tag) := decidable_of_iff _ tlvTag_iff.symm

/-- The records one after the other. -/
def authBuf : List (String × String) → String
  | [] => ""
  | (tag, val) :: records => makeTlv tag val ++ authBuf records

/-- The daemon writes its buffer in this format too. -/
theorem buildDaemonAuthBuf_eq (env : DaemonEnv) : ∃ features,
    buildDaemonAuthBuf env = authBuf [("devname", env.hostname), ("supportfeatures", features)] := by
  refine ⟨featureHeartbeat ++ (if env.encryptChannel then "," ++ featureEncryptTcp else ""), ?_⟩
  rw [authBuf, authBuf, authBuf, String.append_empty]
  rfl

theorem rdropWhile_of_getLast {p : Char → Bool} {cs : List Char}
    (h : ∀ c, cs.getLast? = some c → p c = false) : cs.rdropWhile p = cs := by
  rw [List.rdropWhile_eq_self_iff]
  intro hne hlast
  rw [h _ (List.getLast?_eq_some_getLast hne)] at hlast
  cases hlast

theorem trimEnd_padRight {s : String} (h : ∀ c, s.toList.getLast? = some c → isWhitespace c = false)
    (width : Nat) : trimEnd (padRight width s) = s := by
  have hspaces : ∀ (n : Nat) (cs : List Char), (cs ++ List.replicate n ' ').rdropWhile isWhitespace =
      cs.rdropWhile isWhitespace := by
    intro n
    induction n with
    | zero =>
      intro cs
      rw [List.replicate_zero, List.append_nil]
    | succ n ih =>
      intro cs
      rw [List.replicate_succ', ← List.append_assoc, List.rdropWhile_concat_pos _ _ _ (by decide), ih]
  rw [trimEnd, padRight, String.toList_append, String.toList_ofList, hspaces,
    rdropWhile_of_getLast h, String.ofList_toList]

theorem length_padRight {s : String} {width : Nat} (hascii : ∀ c ∈ s.toList, c.toNat < 128)
    (hle : s.toList.length ≤ width) : (utf8 (padRight width s)).length = width := by
  have hs : (utf8 s).length = s.toList.length := by
    have := length_utf8_ascii hascii
    rwa [String.ofList_toList] at this
  have hspaces : (utf8 (String.ofList (List.replicate (width - s.toList.length) ' '))).length =
      width - s.toList.length := by
    rw [length_utf8_ascii, List.length_replicate]
    intro c hc
    rw [List.eq_of_mem_replicate hc]
    decide
  rw [padRight, utf8_append, List.length_append, hs, hspaces]
  omega

/-- The field of a length, if it fits. -/
theorem lengthField {n : Nat} (hn : n < 10000000000000000) :
    (utf8 (padRight 16 (toString n))).length = 16 ∧
      parseUsize (trimEnd (padRight 16 (toString n))) = some n := by
  have hlist := toList_toString n
  have hdigits : ∀ c ∈ (toString n).toList, c.isDigit = true :=
    List.all_eq_true.mp (hlist ▸ toDigits_all_isDigit n)
  constructor
  · refine length_padRight (fun c hc => ?_) ?_
    · exact Nat.lt_trans (toNat_lt_of_isDigit (hdigits c hc)) (by decide)
    · rw [hlist, Nat.length_toDigits_le_iff (by decide) (by decide)]
      exact hn
  · rw [trimEnd_padRight, parseUsize_toString (Nat.lt_trans hn (by decide))]
    intro c hc
    exact isWhitespace_of_isDigit (hdigits c (List.mem_of_mem_getLast? hc))

/-- A parser returns the records, and for each tag the value of its last one. -/
def RoundTrips (parse : String → Option (List (String × String)))
    (records : List (String × String)) : Prop :=
  ∃ map, parse (authBuf records) = some map ∧ ∀ tag, map.lookup tag = records.reverse.lookup tag

/-- The loop takes one record after the other. -/
theorem hostParseTlvLoop_authBuf : ∀ {records : List (String × String)} {fuel : Nat}
    (map : List (String × String)),
    (∀ record ∈ records, TlvTag record.1 ∧ (utf8 record.2).length < 10000000000000000) →
    (utf8 (authBuf records)).length ≤ fuel →
    hostParseTlvLoop fuel (utf8 (authBuf records)) map = some (records.reverse ++ map)
  | [], fuel, map, _, _ => by
    rw [authBuf, utf8_empty, List.reverse_nil, List.nil_append]
    cases fuel <;> rfl
  | (tag, val) :: records, fuel, map, h, hfuel => by
    obtain ⟨htag, hval⟩ := h (tag, val) List.mem_cons_self
    obtain ⟨hfield, hread⟩ := lengthField hval
    have hpad := length_padRight htag.ascii htag.size.2
    have hrest : ∀ record ∈ records,
        TlvTag record.1 ∧ (utf8 record.2).length < 10000000000000000 :=
      fun record hrecord => h record (List.mem_cons_of_mem _ hrecord)
    have htext : authBuf ((tag, val) :: records) =
        padRight 16 tag ++ padRight 16 (toString (utf8 val).length) ++ (val ++ authBuf records) := by
      rw [authBuf, makeTlv]
      simp only [String.append_assoc]
    rw [htext] at hfuel ⊢
    simp only [utf8_append, List.length_append, hpad, hfield] at hfuel
    cases fuel with
    | zero => omega
    | succ fuel =>
      have hfits : ¬ (utf8 (val ++ authBuf records)).length < (utf8 val).length := by
        rw [utf8_append, List.length_append]
        omega
      rw [hostParseTlvLoop_record hpad hfield, hread]
      dsimp only
      rw [if_neg hfits, utf8_append, List.take_left, fromUtf8_utf8, Option.bind_some,
        List.drop_left, trimEnd_padRight htag.trailing,
        hostParseTlvLoop_authBuf _ hrest (by omega), List.reverse_cons, List.append_assoc]
      rfl

theorem tlv_round_trip (records : List (String × String))
    (htags : ∀ record ∈ records, TlvTag record.1)
    (hvalues : ∀ record ∈ records, (utf8 record.2).length < 10000000000000000) :
    RoundTrips hostParseTlv records ∧ RoundTrips parseTlv records ∧
      ∀ env, ∃ features, buildDaemonAuthBuf env =
        authBuf [("devname", env.hostname), ("supportfeatures", features)] := by
  have hloop := hostParseTlvLoop_authBuf [] (fun record hrecord =>
    ⟨htags record hrecord, hvalues record hrecord⟩) (Nat.le_refl (utf8 (authBuf records)).length)
  rw [List.append_nil] at hloop
  refine ⟨⟨_, hloop, fun _ => rfl⟩, ⟨_, ?_, fun _ => rfl⟩, buildDaemonAuthBuf_eq⟩
  rw [parseTlv_eq_hostParseTlv]
  exact hloop

theorem tlv_round_trip_features :
    TlvTag "pubkey" ∧ TlvTag "supportfeatures" ∧
      RoundTrips hostParseTlv [("pubkey", "€"), ("supportfeatures", ""), ("pubkey", "host\u000cPEM")] :=
  have hpubkey : TlvTag "pubkey" := by decide
  have hfeatures : TlvTag "supportfeatures" := by decide
  ⟨hpubkey, hfeatures, (tlv_round_trip
    [("pubkey", "€"), ("supportfeatures", ""), ("pubkey", "host\u000cPEM")]
    (by simp [hpubkey, hfeatures]) (by decide)).1⟩

/-! A value that is too long. -/

/-- No value of a map is as long as 10^16 bytes. -/
theorem hostParseTlvLoop_values : ∀ {fuel : Nat} {remaining : List UInt8}
    {map result : List (String × String)}, hostParseTlvLoop fuel remaining map = some result →
    (∀ record ∈ map, (utf8 record.2).length < 10000000000000000) →
    ∀ record ∈ result, (utf8 record.2).length < 10000000000000000
  | 0, _, _, _, h, hmap => by
    cases h
    exact hmap
  | fuel+1, remaining, map, result, h, hmap => by
    rcases Nat.lt_or_ge remaining.length 32 with hshort | hlen
    · rw [hostParseTlvLoop, if_pos hshort] at h
      cases h
      exact hmap
    · rw [hostParseTlvLoop_round hlen] at h
      simp only [Option.bind_eq_some_iff] at h
      obtain ⟨tag, -, field, hfield, h⟩ := h
      split at h
      · cases h
        exact hmap
      · rename_i valLen hvalLen
        split at h
        · cases h
          exact hmap
        · obtain ⟨val, hval, h⟩ := Option.bind_eq_some_iff.mp h
          refine hostParseTlvLoop_values h fun record hrecord => ?_
          rcases List.mem_cons.mp hrecord with rfl | hrecord
          · have hlen : (utf8 val).length ≤ valLen := by
              rw [utf8_of_fromUtf8 hval]
              exact List.length_take_le valLen _
            exact Nat.lt_of_le_of_lt hlen (valLen_lt hfield hvalLen)
          · exact hmap record hrecord

theorem long_value_lost {tag val : String} (h : 10000000000000000 ≤ (utf8 val).length) :
    ¬ RoundTrips hostParseTlv [(tag, val)] := by
  rintro ⟨map, hmap, hlookup⟩
  have hval : map.lookup tag = some val := by
    rw [hlookup, List.reverse_singleton, List.lookup_cons_self]
  obtain ⟨before, after, heq, -⟩ := List.lookup_eq_some_iff.mp hval
  have hmem : (tag, val) ∈ map := heq ▸ List.mem_append_right before List.mem_cons_self
  have := hostParseTlvLoop_values hmap (fun _ hnil => absurd hnil List.not_mem_nil) _ hmem
  exact Nat.lt_irrefl _ (Nat.lt_of_lt_of_le this h)

/-- The length of ten petabytes has seventeen digits. -/
theorem tlv_long_value :
    TlvTag "devname" ∧
      ¬ RoundTrips hostParseTlv
        [("devname", String.ofList (List.replicate 10000000000000000 'a'))] := by
  refine ⟨by decide, long_value_lost ?_⟩
  have hascii : ∀ c ∈ List.replicate 10000000000000000 'a', c.toNat < 128 := by
    intro c hc
    rw [List.eq_of_mem_replicate hc]
    decide
  rw [length_utf8_ascii hascii, List.length_replicate]

end Hdc
