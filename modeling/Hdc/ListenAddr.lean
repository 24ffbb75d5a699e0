import Hdc.CharBoundary
import Hdc.CommandSearch
import Hdc.NetAddr

/- The addresses the host tool takes with `-s` (`normalize_listen_addr` and
   `parse_server_listen_string` in `hdc/src/parser.rs`), over the address grammar of `std::net`.

   1. What the parser accepts has a port that `check_port` has passed. It is a socket address that
      `std::net` reads with this port, or the argument as it was given, which is none
      (`normalizeListenAddr_cases`).
   2. The second case is that of brackets: the check takes all brackets off the host, the bind wants
      none around IPv4 and one pair around IPv6 (`listen_usable_iff`).
   3. In both cases the parser accepts what it has returned, and returns it again
      (`parseServerListenString_idem`). -/
namespace Hdc
open Rust

/-- The brackets `parse_server_listen_string` takes off an address. -/
def trimBrackets (s : String) : String :=
  trimEndMatches ']' (String.ofList (s.toList.dropWhile (· == '[')))

/-- An address without a colon is a port of the local host. -/
theorem parseServerListenString_port {net : NetParse} {arg : String}
    (h : rsplitOnce ':' (normalizeListenAddr net arg) = none) :
    parseServerListenString net arg = (do
      let port ← checkPort (normalizeListenAddr net arg)
      return localHost ++ ":" ++ toString port) := by
  rw [parseServerListenString]
  dsimp only
  rw [split_single (rsplitOnce_eq_none h)]
  rfl

/-- An address with one is a host and a port. -/
theorem parseServerListenString_host {net : NetParse} {arg host port : String}
    (h : rsplitOnce ':' (normalizeListenAddr net arg) = some (host, port)) :
    parseServerListenString net arg = (do
      let _ ← checkPort port
      match net.parseIpAddr (trimBrackets host) with
      | some _ => return normalizeListenAddr net arg
      | none => .error ⟨.invalidInput, "-s content ip incorrect"⟩) := by
  obtain ⟨parts, hne, hparts, hhost⟩ := split_of_rsplitOnce h
  have hlen : (parts ++ [port]).length ≠ 1 := by
    have := List.length_pos_iff.mpr hne
    rw [List.length_append, List.length_singleton]
    omega
  have hip : String.intercalate ":" parts = host := hhost
  rw [parseServerListenString]
  dsimp only
  rw [hparts, List.getLastD_concat, List.dropLast_concat, hip]
  cases checkPort port with
  | error e => rfl
  | ok value =>
    simp only [ok_bind, if_neg hlen]
    rfl

/-! The address parsers of `std::net`. -/

def stdNet : NetParse where
  isSocketAddr s := (parseSocketAddr s).isSome
  parseSocketAddrV4 := Rust.parseSocketAddrV4
  parseIpAddr := Rust.parseIpAddr

theorem stdNet_parseIpAddr (s : String) : stdNet.parseIpAddr s = Rust.parseIpAddr s := rfl

theorem normalizeListenAddr_socket {s : String} {port : UInt16} (h : parseSocketAddr s = some port) :
    normalizeListenAddr stdNet s = s := by
  have hsocket : stdNet.isSocketAddr s = true := Option.isSome_of_eq_some h
  rw [normalizeListenAddr, if_pos hsocket]

/-- A port that `check_port` passes is one for `std::net` too. -/
theorem checkPort_eq_ok {port : String} {value : UInt16} (h : checkPort port = .ok value) :
    readPort port = some value ∧ 0 < value ∧ (parseU16 port).isOk = true ∧
      port.toList.all Char.isDigit = true := by
  unfold checkPort at h
  split at h
  · cases h
  · rename_i hvalid
    simp only [Bool.or_eq_true, Bool.not_eq_true', not_or, Bool.not_eq_true,
      Bool.not_eq_false] at hvalid
    obtain ⟨⟨hempty, -⟩, hdigits⟩ := hvalid
    have hne : port.toList ≠ [] := by
      intro hnil
      rw [String.toList_eq_nil_iff.mp hnil] at hempty
      cases hempty
    rw [parseU16_digits hne hdigits] at h ⊢
    split at h
    · rename_i value' hparse
      split at hparse
      · rename_i hlt
        cases hparse
        split at h
        · rename_i hpos
          cases h
          rw [if_pos hlt]
          exact ⟨readPort_digits hne hdigits hlt, hpos, rfl, hdigits⟩
        · cases h
      · cases hparse
    · cases h

/-- A port as it is printed passes again. -/
theorem checkPort_toString {port : UInt16} (h : 0 < port) : checkPort (toString port) = .ok port := by
  have hlist : (toString port).toList = Nat.toDigits 10 port.toNat := toList_toString port.toNat
  have hdigits := hlist ▸ toDigits_all_isDigit port.toNat
  have hne : (toString port).toList ≠ [] := hlist ▸ Nat.toDigits_ne_nil
  have hvalue : decimal (toString port).toList = port.toNat := by rw [hlist, decimal_toDigits]
  have hlen : (utf8 (toString port)).length ≤ 5 := by
    have hascii : ∀ c ∈ (toString port).toList, c.toNat < 128 := by
      intro c hc
      exact Nat.lt_trans (toNat_lt_of_isDigit (List.all_eq_true.mp hdigits c hc)) (by decide)
    have hbytes := length_utf8_ascii hascii
    rw [String.ofList_toList, hlist] at hbytes
    rw [hbytes, Nat.length_toDigits_le_iff (by decide) (by decide)]
    have := port.toNat_lt
    omega
  have hempty : (toString port).isEmpty = false := by
    rw [Bool.eq_false_iff, Ne, String.isEmpty_iff]
    intro hnil
    rw [hnil] at hne
    exact hne rfl
  rw [checkPort, hempty, hdigits, parseU16_digits hne hdigits, hvalue, if_pos port.toNat_lt]
  simp [Nat.not_lt.mpr hlen, h]

/-! Brackets. -/

theorem dropWhile_of_not_mem {c : Char} {cs : List Char} (h : c ∉ cs) :
    cs.dropWhile (· == c) = cs := by
  cases cs with
  | nil => rfl
  | cons d cs =>
    have hd : (d == c) = false := by
      rw [beq_eq_false_iff_ne]
      rintro rfl
      exact h List.mem_cons_self
    rw [List.dropWhile_cons, hd]
    rfl

theorem trimBrackets_of_not_mem {s : String} (hopen : '[' ∉ s.toList) (hclose : ']' ∉ s.toList) :
    trimBrackets s = s := by
  rw [trimBrackets, dropWhile_of_not_mem hopen, String.ofList_toList,
    trimEndMatches_of_not_mem hclose]

theorem trimBrackets_pair {inner : String} (hopen : '[' ∉ inner.toList) (hclose : ']' ∉ inner.toList) :
    trimBrackets ("[" ++ inner ++ "]") = inner := by
  have hlist : ("[" ++ inner ++ "]").toList = '[' :: (inner.toList ++ [']']) := by
    rw [String.toList_append, String.toList_append]
    rfl
  have hdrop : '[' ∉ inner.toList ++ [']'] := by
    simp [hopen]
  have htext : String.ofList (inner.toList ++ [']']) = inner ++ String.singleton ']' := by
    rw [String.ofList_append, String.ofList_toList]
    rfl
  rw [trimBrackets, hlist, List.dropWhile_cons]
  simp only [beq_self_eq_true, if_true]
  rw [dropWhile_of_not_mem hdrop, htext, trimEndMatches_append]
  rintro t rfl
  apply hclose
  rw [String.toList_append, String.toList_singleton]
  exact List.mem_append_right _ List.mem_cons_self

/-- An address has no bracket. -/
theorem brackets_not_mem {s : String} {v6 : Bool} (h : Rust.parseIpAddr s = some v6) :
    '[' ∉ s.toList ∧ ']' ∉ s.toList := by
  have hchars := (parseIpAddr_chars h).1
  constructor
  · intro hmem
    exact absurd (hchars _ hmem) (by decide)
  · intro hmem
    exact absurd (hchars _ hmem) (by decide)

/-! What is accepted. -/

theorem parseIpAddr_v6 {s : String} (h : Rust.parseIpAddr s = some true) : isIpv6 s.toList = true := by
  unfold Rust.parseIpAddr at h
  split at h
  · cases h
  · rwa [Option.ite_none_right_eq_some, and_iff_left rfl] at h

theorem parseIpAddr_v4 {s : String} (h : Rust.parseIpAddr s = some false) :
    isIpv4 s.toList = true := by
  unfold Rust.parseIpAddr at h
  split at h
  · assumption
  · split at h <;> cases h

theorem parseSocketAddrV4_eq_some {s v4 : String} (h : Rust.parseSocketAddrV4 s = some v4) :
    ∃ host port value, rsplitOnce ':' s = some (host, port) ∧ isIpv4 host.toList = true ∧
      readPort port = some value ∧ v4 = host ++ String.singleton ':' ++ toString value := by
  unfold Rust.parseSocketAddrV4 at h
  split at h
  · rename_i host port hsplit
    rw [Option.ite_none_right_eq_some, Option.map_eq_some_iff] at h
    obtain ⟨hhost, value, hport, rfl⟩ := h
    exact ⟨host, port, value, hsplit, hhost, hport, rfl⟩
  · cases h

/-- What `normalize_listen_addr` makes of an address. -/
inductive NormalForm (arg : String) : String → Prop where
  | socket {port : UInt16} (hsocket : parseSocketAddr arg = some port) : NormalForm arg arg
  | mapped {rest v4 : String} (harg : toAsciiLowercase arg = "::ffff:" ++ rest)
    (hv4 : Rust.parseSocketAddrV4 rest = some v4) : NormalForm arg v4
  | bracketed {host port : String} (hsplit : rsplitOnce ':' arg = some (host, port))
    (hip : Rust.parseIpAddr host = some true) : NormalForm arg ("[" ++ host ++ "]:" ++ port)
  | kept (hsocket : parseSocketAddr arg = none)
    (hhost : ∀ host port, rsplitOnce ':' arg = some (host, port) → (parseU16 port).isOk = true →
      Rust.parseIpAddr host ≠ some true) : NormalForm arg arg

theorem normalizeListenAddr_form (arg : String) :
    NormalForm arg (normalizeListenAddr stdNet arg) := by
  cases hsocket : parseSocketAddr arg with
  | some port =>
    rw [normalizeListenAddr_socket hsocket]
    exact .socket hsocket
  | none =>
    have hnot : stdNet.isSocketAddr arg = false := by
      show (parseSocketAddr arg).isSome = false
      rw [hsocket]
      rfl
    rw [normalizeListenAddr, hnot]
    simp only [Bool.false_eq_true, if_false]
    split
    · rename_i v4 hmapped
      rw [Option.ite_none_right_eq_some, startsWith, List.isPrefixOf_iff_prefix] at hmapped
      obtain ⟨⟨rest, hrest⟩, hv4⟩ := hmapped
      have harg : toAsciiLowercase arg = "::ffff:" ++ String.ofList rest := by
        apply String.toList_injective
        have hofList : (String.ofList rest).toList = rest := String.toList_ofList
        rw [String.toList_append, hofList, hrest]
      rw [← hrest, show "::ffff:".toList = [':', ':', 'f', 'f', 'f', 'f', ':'] from rfl] at hv4
      exact .mapped harg hv4
    · split
      · rename_i host port hsplit
        split
        · rename_i hcond
          exact .bracketed hsplit (of_decide_eq_true (Bool.and_eq_true_iff.mp hcond).2)
        · rename_i hcond
          refine .kept hsocket fun host' port' hsplit' hport hip => hcond ?_
          cases hsplit.symm.trans hsplit'
          rw [hport, Bool.true_and]
          exact decide_eq_true hip
      · rename_i hsplit
        refine .kept hsocket fun host port hsplit' => ?_
        cases hsplit.symm.trans hsplit'

theorem parseSocketAddr_port {s host port : String} {value : UInt16}
    (hsplit : rsplitOnce ':' s = some (host, port)) (h : parseSocketAddr s = some value) :
    readPort port = some value := by
  rw [parseSocketAddr, hsplit] at h
  dsimp only at h
  rw [Option.ite_none_right_eq_some] at h
  exact h.2

/-- A normal form with a good port is a socket address with this port, unless it is the argument
as it was given. -/
theorem normalizeListenAddr_cases {arg host port : String} {value : UInt16}
    (hsplit : rsplitOnce ':' (normalizeListenAddr stdNet arg) = some (host, port))
    (hport : checkPort port = .ok value) :
    parseSocketAddr (normalizeListenAddr stdNet arg) = some value ∨
      (normalizeListenAddr stdNet arg = arg ∧ parseSocketAddr arg = none ∧
        Rust.parseIpAddr host ≠ some true) := by
  obtain ⟨hread, -, hu16, hdigits⟩ := checkPort_eq_ok hport
  have hform := normalizeListenAddr_form arg
  generalize normalizeListenAddr stdNet arg = addr at hform hsplit ⊢
  cases hform with
  | socket hsocket =>
    have := (parseSocketAddr_port hsplit hsocket).symm.trans hread
    exact .inl (hsocket.trans this)
  | mapped harg hv4 =>
    obtain ⟨ip, port', value', -, hip, -, rfl⟩ := parseSocketAddrV4_eq_some hv4
    have hprinted : ':' ∉ (toString value').toList := by
      rw [show (toString value').toList = _ from toList_toString value'.toNat]
      intro hmem
      exact absurd (List.all_eq_true.mp (toDigits_all_isDigit _) ':' hmem) (by decide)
    rw [rsplitOnce_append hprinted] at hsplit
    cases hsplit
    exact .inl (parseSocketAddr_v4 hip hread)
  | @bracketed ip port' hsplit' hip =>
    obtain ⟨-, hcolon⟩ := rsplitOnce_eq_some hsplit'
    have htext : "[" ++ ip ++ "]:" ++ port' = "[" ++ ip ++ "]" ++ String.singleton ':' ++ port' := by
      simp only [String.append_assoc]
      rfl
    rw [htext] at hsplit ⊢
    rw [rsplitOnce_append hcolon] at hsplit
    cases hsplit
    exact .inl (parseSocketAddr_v6 (parseIpAddr_v6 hip) hread)
  | kept hsocket hhost => exact .inr ⟨rfl, hsocket, hhost host port hsplit hu16⟩

/-- What is accepted is normal already. -/
theorem normalizeListenAddr_idem {arg host port : String} {value : UInt16}
    (hsplit : rsplitOnce ':' (normalizeListenAddr stdNet arg) = some (host, port))
    (hport : checkPort port = .ok value) :
    normalizeListenAddr stdNet (normalizeListenAddr stdNet arg) = normalizeListenAddr stdNet arg := by
  rcases normalizeListenAddr_cases hsplit hport with hsocket | ⟨hkept, -, -⟩
  · exact normalizeListenAddr_socket hsocket
  · rw [hkept, hkept]

/-- The two ways to be accepted. -/
theorem parseServerListenString_eq_ok {arg a : String}
    (h : parseServerListenString stdNet arg = .ok a) :
    (∃ value, checkPort (normalizeListenAddr stdNet arg) = .ok value ∧
        rsplitOnce ':' (normalizeListenAddr stdNet arg) = none ∧
        a = localHost ++ ":" ++ toString value) ∨
      ∃ host port value v6, rsplitOnce ':' (normalizeListenAddr stdNet arg) = some (host, port) ∧
        checkPort port = .ok value ∧ Rust.parseIpAddr (trimBrackets host) = some v6 ∧
        a = normalizeListenAddr stdNet arg := by
  cases hsplit : rsplitOnce ':' (normalizeListenAddr stdNet arg) with
  | none =>
    rw [parseServerListenString_port hsplit] at h
    obtain ⟨value, hport, heq⟩ := bind_eq_ok.mp h
    cases heq
    exact .inl ⟨value, hport, rfl, rfl⟩
  | some pair =>
    obtain ⟨host, port⟩ := pair
    rw [parseServerListenString_host hsplit] at h
    obtain ⟨value, hport, hip⟩ := bind_eq_ok.mp h
    split at hip
    · rename_i v6 hv6
      rw [stdNet_parseIpAddr] at hv6
      cases hip
      exact .inr ⟨host, port, value, v6, rfl, hport, hv6, rfl⟩
    · cases hip

/-- A port of the local host is a socket address. -/
theorem parseSocketAddr_local {value : UInt16} (h : 0 < value) :
    parseSocketAddr (localHost ++ ":" ++ toString value) = some value := by
  obtain ⟨hread, -, -, -⟩ := checkPort_eq_ok (checkPort_toString h)
  exact parseSocketAddr_v4 (by decide) hread

/-- The parser takes what it has returned, and returns it again. -/
theorem parseServerListenString_idem {arg a : String} (h : parseServerListenString stdNet arg = .ok a) :
    parseServerListenString stdNet a = .ok a := by
  rcases parseServerListenString_eq_ok h with ⟨value, hport, -, rfl⟩ |
    ⟨host, port, value, v6, hsplit, hport, hip, rfl⟩
  · obtain ⟨-, hpos, -, -⟩ := checkPort_eq_ok hport
    have hprinted := checkPort_toString hpos
    obtain ⟨-, -, -, hdigits⟩ := checkPort_eq_ok hprinted
    have hsplit := rsplitOnce_append (colon_not_mem_digits hdigits) localHost
    have hnormal := normalizeListenAddr_socket (parseSocketAddr_local hpos)
    have hip : stdNet.parseIpAddr (trimBrackets localHost) = some false := by decide
    rw [parseServerListenString_host (hnormal.symm ▸ hsplit), hprinted, ok_bind, hip, hnormal]
    rfl
  · have hidem := normalizeListenAddr_idem hsplit hport
    rw [parseServerListenString_host (hidem.symm ▸ hsplit), hport, ok_bind, stdNet_parseIpAddr, hip,
      hidem]
    rfl

/-! What is usable. -/

/-- What is accepted is read by `std::net` when the server binds, with the port that was checked. -/
def ListenUsable (arg : String) : Prop :=
  ∀ a, parseServerListenString stdNet arg = .ok a →
    ∃ port, checkPort ((split ':' (normalizeListenAddr stdNet arg)).getLastD "") = .ok port ∧
      parseSocketAddr (normalizeListenAddr stdNet a) = some port ∧ 1 ≤ port.toNat ∧
      port.toNat ≤ 65535

/-- In front of a good port, an address stands without brackets, or is an IPv6 address in one pair
of them. -/
def BracketsMatch (arg : String) : Prop :=
  ∀ host port value v6, rsplitOnce ':' arg = some (host, port) → checkPort port = .ok value →
    Rust.parseIpAddr (trimBrackets host) = some v6 →
    ('[' ∉ host.toList ∧ ']' ∉ host.toList) ∨
      ∃ inner, host = "[" ++ inner ++ "]" ∧ Rust.parseIpAddr inner = some true

theorem port_bounds {port : UInt16} (h : 0 < port) : 1 ≤ port.toNat ∧ port.toNat ≤ 65535 := by
  have hpos : 0 < port.toNat := UInt16.lt_iff_toNat_lt.mp h
  have hlt := port.toNat_lt
  omega

theorem getLastD_of_rsplitOnce {addr host port : String} (h : rsplitOnce ':' addr = some (host, port)) :
    (split ':' addr).getLastD "" = port := by
  obtain ⟨parts, -, hparts, -⟩ := split_of_rsplitOnce h
  rw [hparts, List.getLastD_concat]

/-- A normal form that is a socket address is usable. -/
theorem ListenUsable.of_socket {arg : String}
    (h : ∀ host port value, rsplitOnce ':' (normalizeListenAddr stdNet arg) = some (host, port) →
      checkPort port = .ok value → Rust.parseIpAddr (trimBrackets host) ≠ none →
      parseSocketAddr (normalizeListenAddr stdNet arg) = some value) : ListenUsable arg := by
  intro a haccepted
  rcases parseServerListenString_eq_ok haccepted with ⟨value, hport, hsplit, rfl⟩ |
    ⟨host, port, value, v6, hsplit, hport, hip, rfl⟩
  · obtain ⟨-, hpos, -, -⟩ := checkPort_eq_ok hport
    have hsocket := parseSocketAddr_local hpos
    refine ⟨value, ?_, ?_, port_bounds hpos⟩
    · rw [split_single (rsplitOnce_eq_none hsplit)]
      exact hport
    · rw [normalizeListenAddr_socket hsocket, hsocket]
  · obtain ⟨-, hpos, -, -⟩ := checkPort_eq_ok hport
    have hsocket := h host port value hsplit hport (by rw [hip]; exact Option.some_ne_none v6)
    refine ⟨value, ?_, ?_, port_bounds hpos⟩
    · rw [getLastD_of_rsplitOnce hsplit, hport]
    · rw [normalizeListenAddr_socket hsocket, hsocket]

/-- With matching brackets, an address with a good port is a socket address or becomes one. -/
theorem BracketsMatch.socket {arg host port : String} {value : UInt16} (h : BracketsMatch arg)
    (hsplit : rsplitOnce ':' (normalizeListenAddr stdNet arg) = some (host, port))
    (hport : checkPort port = .ok value) (hip : Rust.parseIpAddr (trimBrackets host) ≠ none) :
    parseSocketAddr (normalizeListenAddr stdNet arg) = some value := by
  rcases normalizeListenAddr_cases hsplit hport with hsocket | ⟨hkept, hnone, hnot6⟩
  · exact hsocket
  · exfalso
    rw [hkept] at hsplit
    obtain ⟨v6, hv6⟩ := Option.ne_none_iff_exists'.mp hip
    obtain ⟨hread, -, -, -⟩ := checkPort_eq_ok hport
    obtain ⟨htext, -⟩ := rsplitOnce_eq_some hsplit
    rcases h host port value v6 hsplit hport hv6 with ⟨hopen, hclose⟩ | ⟨inner, rfl, hinner⟩
    · rw [trimBrackets_of_not_mem hopen hclose] at hv6
      cases v6 with
      | true => exact hnot6 hv6
      | false =>
        have := parseSocketAddr_v4 (parseIpAddr_v4 hv6) hread
        rw [← htext, hnone] at this
        cases this
    · have := parseSocketAddr_v6 (parseIpAddr_v6 hinner) hread
      rw [← htext, hnone] at this
      cases this

theorem scoped_chars {inner ip scope : String}
    (hchars : inner.toList = ip.toList ++ '%' :: scope.toList)
    (h : (isIpv6 ip.toList && (readDecimal (2 ^ 32) scope.toList).isSome) = true) :
    ∀ c ∈ inner.toList, (isIpChar c || c == '%') = true := by
  obtain ⟨hip, hscope⟩ := Bool.and_eq_true_iff.mp h
  obtain ⟨n, hn⟩ := Option.isSome_iff_exists.mp hscope
  rw [readDecimal, Option.ite_none_right_eq_some] at hn
  simp only [Bool.and_eq_true] at hn
  intro c hc
  rw [hchars, List.mem_append, List.mem_cons] at hc
  rcases hc with hc | rfl | hc
  · rw [List.all_eq_true.mp (isIpv6_chars hip).1 c hc]
    rfl
  · decide
  · rw [isIpChar, isHexDigit_of_isDigit (List.all_eq_true.mp hn.1.1.2 c hc)]
    rfl

/-- A socket address has matching brackets: a scope, which no `IpAddr` has, would be left when they
are off. -/
theorem BracketsMatch.of_socket {arg : String} {value : UInt16}
    (h : parseSocketAddr arg = some value) : BracketsMatch arg := by
  intro host port value' v6 hsplit hport hip
  rw [parseSocketAddr, hsplit] at h
  dsimp only at h
  rw [Option.ite_none_right_eq_some, Bool.or_eq_true] at h
  obtain ⟨hhost | hhost, -⟩ := h
  · have hv4 : Rust.parseIpAddr host = some false := by rw [Rust.parseIpAddr, if_pos hhost]
    exact .inl (brackets_not_mem hv4)
  · obtain ⟨inner, hinner, hscoped⟩ := (Option.any_eq_true _ _).mp hhost
    obtain rfl := unbracket_eq_some.mp hinner
    rcases Bool.or_eq_true_iff.mp hscoped with hv6 | hscope
    · exact .inr ⟨inner, rfl, parseIpAddr_of_isIpv6 hv6⟩
    · obtain ⟨⟨ip, scope⟩, hpercent, hparts⟩ := (Option.any_eq_true _ _).mp hscope
      have hchars := splitOnce_eq_some hpercent
      have hscoped := scoped_chars hchars hparts
      have hopen : '[' ∉ inner.toList := fun hmem => absurd (hscoped _ hmem) (by decide)
      have hclose : ']' ∉ inner.toList := fun hmem => absurd (hscoped _ hmem) (by decide)
      rw [trimBrackets_pair hopen hclose] at hip
      have hmem : '%' ∈ inner.toList := hchars ▸ List.mem_append_right _ List.mem_cons_self
      exact absurd ((parseIpAddr_chars hip).1 '%' hmem) (by decide)

/-- A mapped address has no bracket, in any case of its letters. -/
theorem mapped_no_bracket {arg rest v4 : String} (harg : toAsciiLowercase arg = "::ffff:" ++ rest)
    (hv4 : Rust.parseSocketAddrV4 rest = some v4) : '[' ∉ arg.toList ∧ ']' ∉ arg.toList := by
  obtain ⟨ip, port, value, hsplit, hip, hport, -⟩ := parseSocketAddrV4_eq_some hv4
  obtain ⟨rfl, -⟩ := rsplitOnce_eq_some hsplit
  have hlower : arg.toList.map Char.toLower =
      "::ffff:".toList ++ (ip.toList ++ ':' :: port.toList) := by
    have := congrArg String.toList harg
    rw [toAsciiLowercase, String.toList_map, String.toList_append, String.toList_append,
      String.toList_append, String.toList_singleton, List.append_assoc, List.singleton_append] at this
    exact this
  have hchars : ∀ c ∈ arg.toList.map Char.toLower, isIpChar c = true := by
    intro c hc
    rw [hlower, List.mem_append, List.mem_append, List.mem_cons] at hc
    rcases hc with hc | hc | rfl | hc
    · have hprefix : "::ffff:".toList.all isIpChar = true := by decide
      exact List.all_eq_true.mp hprefix c hc
    · exact List.all_eq_true.mp (isIpv4_chars hip).1 c hc
    · decide
    · have := List.all_eq_true.mp (readPort_chars hport) c hc
      rw [isIpChar, isHexDigit_of_isDigit this]
      rfl
  constructor
  · intro hmem
    exact absurd (hchars _ (List.mem_map_of_mem hmem)) (by decide)
  · intro hmem
    exact absurd (hchars _ (List.mem_map_of_mem hmem)) (by decide)

theorem listen_usable_iff (arg : String) : ListenUsable arg ↔ BracketsMatch arg := by
  constructor
  · intro husable
    have hform := normalizeListenAddr_form arg
    generalize hnormal : normalizeListenAddr stdNet arg = addr at hform
    cases hform with
    | socket hsocket => exact .of_socket hsocket
    | mapped harg hv4 =>
      intro host port value v6 hsplit _ _
      obtain ⟨hopen, hclose⟩ := mapped_no_bracket harg hv4
      rw [(rsplitOnce_eq_some hsplit).1, String.toList_append, String.toList_append] at hopen hclose
      exact .inl ⟨fun h => hopen (List.mem_append_left _ (List.mem_append_left _ h)),
        fun h => hclose (List.mem_append_left _ (List.mem_append_left _ h))⟩
    | bracketed hsplit' hip' =>
      intro host port value v6 hsplit _ _
      cases hsplit'.symm.trans hsplit
      exact .inl (brackets_not_mem hip')
    | kept hsocket hhost =>
      -- the argument is accepted as it is, and it is no socket address
      intro host port value v6 hsplit hport hip
      have haccepted : parseServerListenString stdNet arg = .ok arg := by
        rw [parseServerListenString_host (hnormal.symm ▸ hsplit), hport, ok_bind,
          stdNet_parseIpAddr, hip, hnormal]
        rfl
      obtain ⟨port', -, hread, -⟩ := husable arg haccepted
      rw [hnormal, hsocket] at hread
      cases hread
  · intro hmatch
    exact .of_socket fun host port value hsplit hport hip => hmatch.socket hsplit hport hip

/-- `[[::1]]:8710` is accepted, and `std::net` does not read it. -/
theorem listen_unusable_nested :
    parseServerListenString stdNet "[[::1]]:8710" = .ok "[[::1]]:8710" ∧
      parseSocketAddr (normalizeListenAddr stdNet "[[::1]]:8710") = none ∧
      ¬ ListenUsable "[[::1]]:8710" := by
  have haccepted : parseServerListenString stdNet "[[::1]]:8710" = .ok "[[::1]]:8710" := by
    with_unfolding_all decide
  have hnone : parseSocketAddr (normalizeListenAddr stdNet "[[::1]]:8710") = none := by
    with_unfolding_all decide
  refine ⟨haccepted, hnone, fun h => ?_⟩
  obtain ⟨port, -, hread, -⟩ := h _ haccepted
  cases hnone.symm.trans hread

end Hdc
