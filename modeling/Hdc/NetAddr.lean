import Hdc.Decimal

/- The text forms of addresses in Rust's `std::net`, as `FromStr` takes them:

     IPv4      four decimal numbers up to 255, without leading zeros, with dots between them
     IPv6      eight groups of one to four hexadecimal digits, with colons between them; one `::`
               may stand for a group of zeros or more of them, an IPv4 address for the last two
     IP        IPv4 or IPv6
     socket    IPv4:port, or [IPv6]:port, or [IPv6%scope]:port

   Of an address the callers use its family, its port and how it is printed, so this is what the
   parsers here return. The parser of `std::net` reads from left to right and never takes back a
   number it has read, so it accepts just these forms. -/
namespace Rust

/-! The text around the last separator. -/

theorem split_ne_nil (sep : Char) (s : String) : split sep s ≠ [] := by
  rw [split, Ne, List.map_eq_nil_iff]
  exact List.splitOn_ne_nil sep s.toList

theorem intercalate_split (sep : Char) (s : String) :
    String.intercalate (String.singleton sep) (split sep s) = s := by
  apply String.toList_injective
  rw [String.toList_intercalate, String.toList_singleton, split, List.map_map]
  simp only [Function.comp_def, String.toList_ofList, List.map_id']
  exact List.intercalate_splitOn sep

/-- The characters of a joined text are those of its parts and of what stands between them. -/
theorem mem_intercalate {sep : String} {c : Char} : ∀ {parts : List String},
    c ∈ (String.intercalate sep parts).toList →
      c ∈ sep.toList ∨ ∃ part ∈ parts, c ∈ part.toList
  | [], h => by simp at h
  | [part], h => by
    rw [String.intercalate_singleton] at h
    exact .inr ⟨part, List.mem_singleton_self part, h⟩
  | part :: next :: parts, h => by
    rw [String.intercalate_cons_cons, String.toList_append, String.toList_append] at h
    rcases List.mem_append.mp h with h | h
    · rcases List.mem_append.mp h with h | h
      · exact .inr ⟨part, List.mem_cons_self, h⟩
      · exact .inl h
    · rcases mem_intercalate h with h | ⟨part', hpart', h⟩
      · exact .inl h
      · exact .inr ⟨part', List.mem_cons_of_mem _ hpart', h⟩

theorem mem_intercalate_of_mem {sep : String} {c : Char} : ∀ {parts : List String} {part : String},
    part ∈ parts → c ∈ part.toList → c ∈ (String.intercalate sep parts).toList
  | [], part, hpart, _ => by cases hpart
  | [first], part, hpart, hc => by
    rw [List.mem_singleton.mp hpart] at hc
    rwa [String.intercalate_singleton]
  | first :: next :: parts, part, hpart, hc => by
    rw [String.intercalate_cons_cons, String.toList_append, String.toList_append]
    rcases List.mem_cons.mp hpart with rfl | hpart
    · exact List.mem_append_left _ (List.mem_append_left _ hc)
    · exact List.mem_append_right _ (mem_intercalate_of_mem hpart hc)

theorem mem_of_mem_split {sep c : Char} {s part : String} (hpart : part ∈ split sep s)
    (hc : c ∈ part.toList) : c ∈ s.toList := by
  rw [← intercalate_split sep s]
  exact mem_intercalate_of_mem hpart hc

theorem intercalate_concat {sep : String} (last : String) : ∀ {parts : List String}, parts ≠ [] →
    String.intercalate sep (parts ++ [last]) = String.intercalate sep parts ++ sep ++ last
  | [part], _ => by
    rw [List.singleton_append, String.intercalate_cons_cons, String.intercalate_singleton,
      String.intercalate_singleton]
  | part :: next :: parts, _ => by
    rw [List.cons_append, List.cons_append, String.intercalate_cons_cons, ← List.cons_append,
      intercalate_concat last (List.cons_ne_nil next parts), String.intercalate_cons_cons]
    simp only [String.append_assoc]

/-- The parts of a text that has the separator. -/
theorem split_of_rsplitOnce {sep : Char} {s host port : String}
    (h : rsplitOnce sep s = some (host, port)) :
    ∃ parts, parts ≠ [] ∧ split sep s = parts ++ [port] ∧
      String.intercalate (String.singleton sep) parts = host := by
  unfold rsplitOnce at h
  split at h
  · rename_i last first parts hparts
    cases h
    refine ⟨(first :: parts).reverse, by simp, ?_, rfl⟩
    rw [← List.reverse_reverse (split sep s), hparts, List.reverse_cons]
  · cases h

theorem rsplitOnce_eq_some {sep : Char} {s host port : String}
    (h : rsplitOnce sep s = some (host, port)) :
    s = host ++ String.singleton sep ++ port ∧ sep ∉ port.toList := by
  obtain ⟨parts, hne, hsplit, hhost⟩ := split_of_rsplitOnce h
  constructor
  · rw [← intercalate_split sep s, hsplit, intercalate_concat port hne, hhost]
  · exact not_mem_of_mem_split (hsplit ▸ List.mem_append_right parts List.mem_cons_self)

theorem split_append_last {sep : Char} {port : String} (hport : sep ∉ port.toList)
    (host : String) : split sep (host ++ String.singleton sep ++ port) = split sep host ++ [port] := by
  have hparts : ∀ part ∈ split sep host ++ [port], sep ∉ part.toList := by
    intro part hpart
    rcases List.mem_append.mp hpart with hpart | hpart
    · exact not_mem_of_mem_split hpart
    · rw [List.mem_singleton.mp hpart]
      exact hport
  rw [← split_intercalate hparts (by simp), intercalate_concat port (split_ne_nil sep host),
    intercalate_split]

theorem rsplitOnce_append {sep : Char} {port : String} (hport : sep ∉ port.toList) (host : String) :
    rsplitOnce sep (host ++ String.singleton sep ++ port) = some (host, port) := by
  rw [rsplitOnce, split_append_last hport, List.reverse_append, List.reverse_singleton]
  cases hparts : (split sep host).reverse with
  | nil => exact absurd (List.reverse_eq_nil_iff.mp hparts) (split_ne_nil sep host)
  | cons first parts =>
    have hhost := intercalate_split sep host
    rw [← List.reverse_reverse (split sep host), hparts] at hhost
    show some (String.intercalate (String.singleton sep) (first :: parts).reverse, port) = _
    rw [hhost]

theorem rsplitOnce_eq_none {sep : Char} {s : String} (h : rsplitOnce sep s = none) :
    sep ∉ s.toList := by
  cases hparts : split sep s with
  | nil => exact absurd hparts (split_ne_nil sep s)
  | cons first parts =>
    cases parts with
    | nil =>
      have hs := intercalate_split sep s
      rw [hparts, String.intercalate_singleton] at hs
      exact hs ▸ not_mem_of_mem_split (hparts ▸ List.mem_cons_self)
    | cons next parts =>
      obtain ⟨last, before, hrev⟩ := List.exists_cons_of_ne_nil
        (show (next :: parts).reverse ≠ [] by simp)
      rw [rsplitOnce, hparts, List.reverse_cons, hrev, List.cons_append] at h
      cases before with
      | nil => cases h
      | cons second before => cases h

theorem splitOnce_eq_some {sep : Char} {s before after : String}
    (h : splitOnce sep s = some (before, after)) : s.toList = before.toList ++ sep :: after.toList := by
  unfold splitOnce at h
  split at h
  · cases h
  · rename_i c rest hdrop
    cases h
    have hc : c = sep := by
      have hhead := List.head?_dropWhile_not (· ≠ sep) s.toList
      rw [hdrop] at hhead
      simpa using hhead
    rw [String.toList_ofList, String.toList_ofList, ← hc, ← hdrop, hc,
      List.takeWhile_append_dropWhile]

/-! Numbers. -/

/-- A decimal number below `bound`, of any length. -/
def readDecimal (bound : Nat) (cs : List Char) : Option Nat :=
  if !cs.isEmpty && cs.all Char.isDigit && decide (decimal cs < bound) then some (decimal cs) else none

/-- A number of an IPv4 address. -/
def isOctet (cs : List Char) : Bool :=
  !cs.isEmpty && cs.all Char.isDigit && decide (cs.length ≤ 3) &&
    (decide (cs.length = 1) || cs.head? != some '0') && decide (decimal cs < 256)

/-- `u16::from_str_radix` takes these, of either case. -/
def isHexDigit (c : Char) : Bool :=
  c.isDigit || decide ('a' ≤ c ∧ c ≤ 'f') || decide ('A' ≤ c ∧ c ≤ 'F')

/-- A group of an IPv6 address. -/
def isGroup (cs : List Char) : Bool :=
  !cs.isEmpty && decide (cs.length ≤ 4) && cs.all isHexDigit

/-! Addresses. -/

def isIpv4 (cs : List Char) : Bool :=
  let parts := cs.splitOn '.'
  decide (parts.length = 4) && parts.all isOctet

/-- The text before and after the first `::`. -/
def doubleColon : List Char → Option (List Char × List Char)
  | [] => none
  | ':' :: ':' :: rest => some ([], rest)
  | c :: rest => (doubleColon rest).map fun (head, tail) => (c :: head, tail)

def groups (cs : List Char) : List (List Char) := if cs.isEmpty then [] else cs.splitOn ':'

/-- How many groups the parts stand for, the last of which may be an IPv4 address. -/
def countGroups : List (List Char) → Option Nat
  | [] => some 0
  | [part] => if isGroup part then some 1 else if isIpv4 part then some 2 else none
  | part :: parts => if isGroup part then (countGroups parts).map (· + 1) else none

def isIpv6 (cs : List Char) : Bool :=
  match doubleColon cs with
  | none => countGroups (groups cs) == some 8
  | some (head, tail) =>
    (groups head).all isGroup &&
      (countGroups (groups tail)).any fun n => decide ((groups head).length + n ≤ 7)

/-- `str::parse::<IpAddr>`: whether the address is an `Ipv6Addr`. -/
def parseIpAddr (s : String) : Option Bool :=
  if isIpv4 s.toList then some false else if isIpv6 s.toList then some true else none

/-- An IPv6 address, with or without a scope. -/
def isScopedIpv6 (s : String) : Bool :=
  isIpv6 s.toList ||
    (splitOnce '%' s).any fun (ip, scope) =>
      isIpv6 ip.toList && (readDecimal (2^32) scope.toList).isSome

/-- The text in one pair of brackets. -/
def unbracket (s : String) : Option String :=
  if startsWith s "[" && endsWith s "]" then some (String.ofList s.toList.tail.dropLast) else none

def readPort (s : String) : Option UInt16 := (readDecimal UInt16.size s.toList).map UInt16.ofNat

/-- `str::parse::<SocketAddr>`, as the port of the address. -/
def parseSocketAddr (s : String) : Option UInt16 :=
  match rsplitOnce ':' s with
  | some (host, port) =>
    if isIpv4 host.toList || (unbracket host).any isScopedIpv6 then readPort port else none
  | none => none

/-- `str::parse::<SocketAddrV4>`, as the text the address is printed as. No number of the address
has a leading zero, so they are printed as they stand. -/
def parseSocketAddrV4 (s : String) : Option String :=
  match rsplitOnce ':' s with
  | some (host, port) =>
    if isIpv4 host.toList then (readPort port).map fun port => host ++ ":" ++ toString port else none
  | none => none

example : parseSocketAddr "[::1]:8710" = some 8710 := by decide
example : parseSocketAddr "[fe80::1%3]:8710" = some 8710 := by decide
example : parseSocketAddr "[127.0.0.1]:8710" = none := by decide
example : parseSocketAddrV4 "127.0.0.1:00080" = some "127.0.0.1:80" := by decide
example : (["::", "1:2:3:4:5:6:7::", "::ffff:10.0.0.1", "1:2:3:4:5:6:7:8"].all
    fun s => parseIpAddr s == some true) = true := by decide
example : ([":::", "1:2:3:4:5:6:7:8:9", "1::2::3", "::12345", "1.2.3.4::", "1.2.3", "01.2.3.4"].all
    fun s => parseIpAddr s == none) = true := by decide

/-! Brackets and ports. -/

theorem unbracket_eq_some {s inner : String} : unbracket s = some inner ↔ s = "[" ++ inner ++ "]" := by
  constructor
  · intro h
    rw [unbracket, Option.ite_none_right_eq_some, Bool.and_eq_true, startsWith, endsWith,
      List.isPrefixOf_iff_prefix, List.isSuffixOf_iff_suffix] at h
    obtain ⟨⟨⟨rest, hstart⟩, hend⟩, hinner⟩ := h
    cases hinner
    have hrest : s.toList = '[' :: rest := hstart.symm
    have hne : rest ≠ [] := by
      rintro rfl
      rw [hrest] at hend
      exact absurd hend (by decide)
    have hlast : rest = rest.dropLast ++ [']'] := by
      obtain ⟨before, hbefore⟩ := hend
      rw [hrest] at hbefore
      have hget := congrArg List.getLast? hbefore
      rw [show "]".toList = [']'] from rfl, List.getLast?_concat, List.getLast?_cons_of_ne_nil hne]
        at hget
      exact (List.dropLast_append_getLast? _ hget.symm).symm
    apply String.toList_injective
    simp only [String.toList_append, hrest, List.tail_cons, String.toList_ofList]
    show '[' :: rest = ['['] ++ rest.dropLast ++ [']']
    rw [List.append_assoc, ← hlast]
    rfl
  · rintro rfl
    have hlist : ("[" ++ inner ++ "]").toList = '[' :: (inner.toList ++ [']']) := by
      rw [String.toList_append, String.toList_append]
      rfl
    have hpre : startsWith ("[" ++ inner ++ "]") "[" = true := by
      rw [startsWith, hlist]
      rfl
    have hsuf : endsWith ("[" ++ inner ++ "]") "]" = true := by
      rw [endsWith, hlist, List.isSuffixOf_iff_suffix]
      exact ⟨'[' :: inner.toList, rfl⟩
    rw [unbracket, hpre, hsuf, hlist, List.tail_cons, List.dropLast_concat, String.ofList_toList]
    rfl

theorem readPort_digits {s : String} (hne : s.toList ≠ []) (h : s.toList.all Char.isDigit = true)
    (hlt : decimal s.toList < UInt16.size) :
    readPort s = some (UInt16.ofNat (decimal s.toList)) := by
  have hempty : s.toList.isEmpty = false := List.isEmpty_eq_false_iff.mpr hne
  rw [readPort, readDecimal, hempty, h, decide_eq_true hlt]
  rfl

/-- A port is written in digits. -/
theorem readPort_chars {s : String} {port : UInt16} (h : readPort s = some port) :
    s.toList.all Char.isDigit = true := by
  obtain ⟨n, hn, -⟩ := Option.map_eq_some_iff.mp h
  rw [readDecimal, Option.ite_none_right_eq_some] at hn
  simp only [Bool.and_eq_true] at hn
  exact hn.1.1.2

theorem colon_not_mem_digits {s : String} (h : s.toList.all Char.isDigit = true) :
    ':' ∉ s.toList := by
  intro hmem
  exact absurd (List.all_eq_true.mp h ':' hmem) (by decide)

/-- An IPv4 address with a port. -/
theorem parseSocketAddr_v4 {host port : String} {value : UInt16} (hhost : isIpv4 host.toList = true)
    (hport : readPort port = some value) :
    parseSocketAddr (host ++ String.singleton ':' ++ port) = some value := by
  rw [parseSocketAddr, rsplitOnce_append (colon_not_mem_digits (readPort_chars hport))]
  dsimp only
  rw [hhost, hport]
  rfl

/-- An IPv6 address in brackets, with a port. -/
theorem parseSocketAddr_v6 {host port : String} {value : UInt16} (hhost : isIpv6 host.toList = true)
    (hport : readPort port = some value) :
    parseSocketAddr ("[" ++ host ++ "]" ++ String.singleton ':' ++ port) = some value := by
  rw [parseSocketAddr, rsplitOnce_append (colon_not_mem_digits (readPort_chars hport))]
  dsimp only
  rw [unbracket_eq_some.mpr rfl, Option.any_some, isScopedIpv6, hhost, hport, Bool.true_or,
    Bool.or_true]
  rfl

/-! The characters of an address. -/

/-- A character that may stand in an IP address. -/
def isIpChar (c : Char) : Bool := isHexDigit c || c == '.' || c == ':'

theorem isHexDigit_of_isDigit {c : Char} (h : c.isDigit = true) : isHexDigit c = true := by
  rw [isHexDigit, h]
  rfl

/-- What holds for the parts of a text and its separator holds for the text. -/
theorem all_of_splitOn {p : Char → Bool} {sep : Char} {cs : List Char} (hsep : p sep = true)
    (h : ∀ part ∈ cs.splitOn sep, part.all p = true) : cs.all p = true := by
  have hcs : [sep].intercalate (cs.splitOn sep) = cs := List.intercalate_splitOn sep
  rw [← hcs, List.all_eq_true]
  generalize cs.splitOn sep = parts at h
  clear hcs
  induction parts with
  | nil => simp
  | cons part parts ih =>
    have hpart := List.all_eq_true.mp (h part List.mem_cons_self)
    have hparts := ih fun q hq => h q (List.mem_cons_of_mem part hq)
    cases parts with
    | nil => simpa using hpart
    | cons next parts =>
      intro c hc
      rw [List.intercalate_cons_cons, List.mem_append, List.mem_append, List.mem_singleton] at hc
      rcases hc with (hc | rfl) | hc
      · exact hpart c hc
      · exact hsep
      · exact hparts c hc

theorem isIpv4_chars {cs : List Char} (h : isIpv4 cs = true) :
    cs.all isIpChar = true ∧ '.' ∈ cs ∧ ':' ∉ cs := by
  obtain ⟨hlen, hparts⟩ := Bool.and_eq_true_iff.mp h
  have hoctet : ∀ part ∈ cs.splitOn '.', part.all Char.isDigit = true := by
    intro part hpart
    have := List.all_eq_true.mp hparts part hpart
    simp only [isOctet, Bool.and_eq_true] at this
    exact this.1.1.1.2
  have hdigits : cs.all (fun c => c.isDigit || c == '.') = true := by
    have hdot : (Char.isDigit '.' || '.' == '.') = true := rfl
    refine all_of_splitOn hdot fun part hpart => ?_
    have := List.all_eq_true.mp (hoctet part hpart)
    exact List.all_eq_true.mpr fun c hc => by rw [this c hc, Bool.true_or]
  refine ⟨?_, ?_, ?_⟩
  · refine List.all_eq_true.mpr fun c hc => ?_
    rcases Bool.or_eq_true_iff.mp (List.all_eq_true.mp hdigits c hc) with hc | hc
    · rw [isIpChar, isHexDigit_of_isDigit hc]
      rfl
    · rw [beq_iff_eq.mp hc]
      rfl
  · by_contra hdot
    rw [List.splitOn_eq_singleton hdot] at hlen
    cases hlen
  · intro hcolon
    exact absurd (List.all_eq_true.mp hdigits ':' hcolon) (by decide)

theorem isGroup_chars {part : List Char} (h : isGroup part = true) : part.all isIpChar = true := by
  refine List.all_eq_true.mpr fun c hc => ?_
  have := List.all_eq_true.mp (Bool.and_eq_true_iff.mp h).2 c hc
  rw [isIpChar, this]
  rfl

theorem countGroups_chars : ∀ {parts : List (List Char)} {n : Nat}, countGroups parts = some n →
    ∀ part ∈ parts, part.all isIpChar = true
  | [part], n, h, other, hother => by
    rw [List.mem_singleton.mp hother]
    rw [countGroups] at h
    split at h
    · rename_i hgroup
      exact isGroup_chars hgroup
    · split at h
      · rename_i hip
        exact (isIpv4_chars hip).1
      · cases h
  | part :: next :: parts, n, h, other, hother => by
    rw [countGroups, Option.ite_none_right_eq_some, Option.map_eq_some_iff] at h
    · obtain ⟨hgroup, m, hm, -⟩ := h
      rcases List.mem_cons.mp hother with rfl | hother
      · exact isGroup_chars hgroup
      · exact countGroups_chars hm other hother
    · simp

theorem groups_chars {cs : List Char} (h : ∀ part ∈ groups cs, part.all isIpChar = true) :
    cs.all isIpChar = true := by
  unfold groups at h
  split at h
  · rename_i hempty
    rw [List.isEmpty_iff.mp hempty]
    rfl
  · exact all_of_splitOn rfl h

theorem doubleColon_eq_some : ∀ {cs head tail : List Char}, doubleColon cs = some (head, tail) →
    cs = head ++ ':' :: ':' :: tail := by
  intro cs
  fun_induction doubleColon cs with
  | case1 =>
    intro head tail h
    cases h
  | case2 rest =>
    intro head tail h
    cases h
    rfl
  | case3 c rest hc ih =>
    intro head tail h
    obtain ⟨⟨head', tail'⟩, hrest, heq⟩ := Option.map_eq_some_iff.mp h
    cases heq
    rw [ih hrest]
    rfl

theorem isIpv6_chars {cs : List Char} (h : isIpv6 cs = true) :
    cs.all isIpChar = true ∧ ':' ∈ cs := by
  unfold isIpv6 at h
  split at h
  · have hcount : countGroups (groups cs) = some 8 := by simpa using h
    refine ⟨groups_chars (countGroups_chars hcount), ?_⟩
    by_contra hcolon
    rw [groups] at hcount
    split at hcount
    · cases hcount
    · rw [List.splitOn_eq_singleton hcolon, countGroups] at hcount
      split at hcount
      · cases hcount
      · split at hcount <;> cases hcount
  · rename_i head tail hdouble
    obtain ⟨hhead, htail⟩ := Bool.and_eq_true_iff.mp h
    obtain ⟨n, hcount, -⟩ := (Option.any_eq_true _ _).mp htail
    have hheadChars := groups_chars fun part hpart =>
      isGroup_chars (List.all_eq_true.mp hhead part hpart)
    have htailChars := groups_chars (countGroups_chars hcount)
    rw [doubleColon_eq_some hdouble]
    constructor
    · rw [List.all_append, List.all_cons, List.all_cons, hheadChars, htailChars]
      rfl
    · exact List.mem_append_right head List.mem_cons_self

/-- An IPv6 address is no IPv4 address. -/
theorem parseIpAddr_of_isIpv6 {s : String} (h : isIpv6 s.toList = true) :
    parseIpAddr s = some true := by
  have hv4 : isIpv4 s.toList = false := by
    rw [Bool.eq_false_iff]
    intro hip
    exact (isIpv4_chars hip).2.2 (isIpv6_chars h).2
  rw [parseIpAddr, hv4, h]
  rfl

theorem parseIpAddr_chars {s : String} {v6 : Bool} (h : parseIpAddr s = some v6) :
    (∀ c ∈ s.toList, isIpChar c = true) ∧ ('.' ∈ s.toList ∨ ':' ∈ s.toList) := by
  unfold parseIpAddr at h
  split at h
  · rename_i hip
    obtain ⟨hchars, hdot, -⟩ := isIpv4_chars hip
    exact ⟨List.all_eq_true.mp hchars, .inl hdot⟩
  · split at h
    · rename_i hip
      obtain ⟨hchars, hcolon⟩ := isIpv6_chars hip
      exact ⟨List.all_eq_true.mp hchars, .inr hcolon⟩
    · cases h

end Rust
