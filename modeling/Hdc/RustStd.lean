import Mathlib.Data.List.AList
import Mathlib.Data.List.Basic
import Mathlib.Data.List.DropRight
import Mathlib.Data.List.Infix

/- The part of Rust's standard library the protocol code leans on, as far as
   Lean's own differs: `std::io::Error` with its kind and text, and the UTF-8
   conversions between byte strings and `String`. A Rust `String` is a Lean
   `String` (both are valid UTF-8 by construction) and a `Vec<u8>` or `&[u8]`
   is a `List UInt8`. -/
namespace Rust

/-- The `std::io::ErrorKind`s the code constructs or tests. -/
inductive ErrorKind where
  | addrInUse
  | brokenPipe
  | connectionAborted
  | connectionRefused
  | invalidData
  | invalidInput
  | notFound
  | other
  | permissionDenied
  | timedOut
  | unexpectedEof
  deriving DecidableEq, Repr

structure IoError where
  kind : ErrorKind
  msg : String
  deriving DecidableEq, Repr

abbrev IoResult := Except IoError

instance {α : Type} [DecidableEq α] : DecidableEq (IoResult α)
  | .ok a, .ok b => decidable_of_iff (a = b) (by simp)
  | .error a, .error b => decidable_of_iff (a = b) (by simp)
  | .ok _, .error _ => isFalse (by simp)
  | .error _, .ok _ => isFalse (by simp)

def invalidData {α : Type} (msg : String) : IoResult α := .error ⟨.invalidData, msg⟩

-- `(rfl)` keeps these from being used as definitional unfoldings, which would
-- leave the kernel to compare whole decoders.
@[simp] theorem ok_bind {α β : Type} (a : α) (f : α → IoResult β) :
    (Except.ok a >>= f) = f a := (rfl)

@[simp] theorem error_bind {α β : Type} (e : IoError) (f : α → IoResult β) :
    ((Except.error e : IoResult α) >>= f) = .error e := (rfl)

@[simp] theorem pure_eq_ok {α : Type} (a : α) : (pure a : IoResult α) = .ok a := rfl

@[simp] theorem invalidData_bind {α β : Type} (msg : String) (f : α → IoResult β) :
    (invalidData msg >>= f) = invalidData msg := (rfl)

@[simp] theorem invalidData_ne_ok {α : Type} (msg : String) (a : α) :
    (invalidData msg : IoResult α) ≠ .ok a := by
  simp [invalidData]

/-- A `?` chain succeeds exactly when each step does. -/
theorem bind_eq_ok {α β : Type} {x : IoResult α} {f : α → IoResult β} {b : β} :
    (x >>= f) = .ok b ↔ ∃ a, x = .ok a ∧ f a = .ok b := by
  cases x with
  | ok a => simp
  | error e => simp

/-! UTF-8. -/

/-- `str::as_bytes`, `String::into_bytes`. -/
def utf8 (s : String) : List UInt8 := s.toByteArray.data.toList

/-- `String::from_utf8`, the text of its error left out. -/
def fromUtf8 (bytes : List UInt8) : Option String := String.fromUTF8? ⟨bytes.toArray⟩

@[simp] theorem fromUtf8_utf8 (s : String) : fromUtf8 (utf8 s) = some s := by
  have h : (⟨(utf8 s).toArray⟩ : ByteArray) = s.toByteArray := by simp [utf8]
  simp only [fromUtf8, h, String.fromUTF8?, s.isValidUTF8, dite_true]
  rfl

theorem utf8_of_fromUtf8 {bytes : List UInt8} {s : String} (h : fromUtf8 bytes = some s) :
    utf8 s = bytes := by
  unfold fromUtf8 String.fromUTF8? at h
  split at h
  · cases h
    rfl
  · simp at h

theorem utf8_injective {s t : String} (h : utf8 s = utf8 t) : s = t := by
  have := congrArg fromUtf8 h
  simpa using this

@[simp] theorem utf8_append (s t : String) : utf8 (s ++ t) = utf8 s ++ utf8 t := by
  simp [utf8]

@[simp] theorem utf8_empty : utf8 "" = [] := by decide

theorem utf8_eq_nil {s : String} : utf8 s = [] ↔ s = "" :=
  ⟨fun h => utf8_injective (by rw [h, utf8_empty]), fun h => by rw [h, utf8_empty]⟩

/-- Whether `b` lies in `lo ..= hi`. -/
def inRange (lo hi : UInt8) (b : Option UInt8) : Bool :=
  match b with
  | some b => lo ≤ b && b ≤ hi
  | none => false

/-- The length of the ill-formed sequence `from_utf8_lossy` replaces by one
U+FFFD: the longest prefix that some well-formed character starts with, at
least one byte. -/
def invalidLen : List UInt8 → Nat
  | [] => 0
  | b :: rest =>
    let second :=
      if b = 0xE0 then inRange 0xA0 0xBF rest.head?
      else if b = 0xED then inRange 0x80 0x9F rest.head?
      else if b = 0xF0 then inRange 0x90 0xBF rest.head?
      else if b = 0xF4 then inRange 0x80 0x8F rest.head?
      else inRange 0xE1 0xF3 (some b) && inRange 0x80 0xBF rest.head?
    if !second then 1
    else if b < 0xF0 then 2
    else if inRange 0x80 0xBF rest[1]? then 3 else 2

/-- The characters of a byte string, one U+FFFD for each ill-formed sequence.
Every round takes at least one byte, so the length of the string is fuel
enough. -/
def lossyChars : Nat → List UInt8 → List Char
  | 0, _ => []
  | _, [] => []
  | fuel+1, bytes =>
    match ByteArray.utf8DecodeChar? ⟨bytes.toArray⟩ 0 with
    | some c => c :: lossyChars fuel (bytes.drop c.utf8Size)
    | none => '�' :: lossyChars fuel (bytes.drop (invalidLen bytes))

/-- `String::from_utf8_lossy`: valid input is taken as it is. -/
def fromUtf8Lossy (bytes : List UInt8) : String :=
  match fromUtf8 bytes with
  | some s => s
  | none => String.ofList (lossyChars bytes.length bytes)

@[simp] theorem fromUtf8Lossy_utf8 (s : String) : fromUtf8Lossy (utf8 s) = s := by
  simp [fromUtf8Lossy]

example : fromUtf8Lossy [0x61, 0xE2, 0x82, 0x62, 0xFF] = "a�b�" := by decide

/-- `str::trim_end_matches` with one character. -/
def trimEndMatches (c : Char) (s : String) : String := String.ofList (s.toList.rdropWhile (· == c))

theorem trimEndMatches_append {c : Char} {s : String} (h : ∀ t, s ≠ t ++ String.singleton c) :
    trimEndMatches c (s ++ String.singleton c) = s := by
  have hlast : s.toList.rdropWhile (· == c) = s.toList := by
    rw [List.rdropWhile_eq_self_iff]
    intro hne heq
    have hc : s.toList.getLast hne = c := by simpa using heq
    apply h (String.ofList s.toList.dropLast)
    apply String.toList_injective
    rw [String.toList_append, String.toList_ofList, String.toList_singleton, ← hc,
      List.dropLast_append_getLast]
  rw [trimEndMatches, String.toList_append, String.toList_singleton,
    List.rdropWhile_concat_pos _ _ _ (by simp), hlast, String.ofList_toList]

/-- `char::is_whitespace`, the Unicode property White_Space. -/
def isWhitespace (c : Char) : Bool :=
  let n := c.toNat
  (9 ≤ n && n ≤ 13) || n = 0x20 || n = 0x85 || n = 0xA0 || n = 0x1680 ||
    (0x2000 ≤ n && n ≤ 0x200A) || n = 0x2028 || n = 0x2029 || n = 0x202F || n = 0x205F || n = 0x3000

/-- `str::trim_end`. -/
def trimEnd (s : String) : String := String.ofList (s.toList.rdropWhile isWhitespace)

/-- `str::trim`. -/
def trim (s : String) : String := String.ofList ((trimEnd s).toList.dropWhile isWhitespace)

/-- `str::trim_end_matches` with a predicate. -/
def trimEndWhere (p : Char → Bool) (s : String) : String := String.ofList (s.toList.rdropWhile p)

/-- `str::contains` with a string. -/
def contains (s sub : String) : Bool := s.toList.tails.any (sub.toList.isPrefixOf ·)

theorem contains_iff {s sub : String} : contains s sub = true ↔ sub.toList <:+: s.toList := by
  rw [List.infix_iff_prefix_suffix]
  simp only [contains, List.any_eq_true, List.mem_tails, List.isPrefixOf_iff_prefix]
  exact exists_congr fun _ => and_comm

/-- The digits of `str::parse::<usize>`, after a sign that may be there. -/
def parseUsize (s : String) : Option Nat :=
  let digits := match s.toList with
    | '+' :: rest => rest
    | cs => cs
  if digits.isEmpty || !digits.all Char.isDigit then none
  else
    let n := digits.foldl (fun n c => 10 * n + (c.toNat - 48)) 0
    if n < UInt64.size then some n else none

/-- The digits of `str::parse::<u16>`, one after the other. -/
def parseU16Loop : Nat → List Char → Except String UInt16
  | n, [] => .ok (UInt16.ofNat n)
  | n, c :: cs =>
    if !c.isDigit then .error "invalid digit found in string"
    else
      let n := 10 * n + (c.toNat - 48)
      if n < UInt16.size then parseU16Loop n cs
      else .error "number too large to fit in target type"

/-- `str::parse::<u16>`, with the text of its error. -/
def parseU16 (s : String) : Except String UInt16 :=
  match s.toList with
  | [] => .error "cannot parse integer from empty string"
  | ['+'] => .error "invalid digit found in string"
  | '+' :: digits => parseU16Loop 0 digits
  | digits => parseU16Loop 0 digits

def startsWith (s pat : String) : Bool := pat.toList.isPrefixOf s.toList

def endsWith (s pat : String) : Bool := pat.toList.isSuffixOf s.toList

/-- `str::split_whitespace`. -/
def splitWhitespace (s : String) : List String :=
  ((s.toList.splitOnP isWhitespace).filter fun part => !part.isEmpty).map String.ofList

/-- `str::split_once` at one character. -/
def splitOnce (sep : Char) (s : String) : Option (String × String) :=
  match s.toList.dropWhile (· ≠ sep) with
  | [] => none
  | _ :: rest => some (String.ofList (s.toList.takeWhile (· ≠ sep)), String.ofList rest)

/-- The format `{:<width}`. -/
def padRight (width : Nat) (s : String) : String :=
  s ++ String.ofList (List.replicate (width - s.toList.length) ' ')

/-- `str::split` at one character. -/
def split (sep : Char) (s : String) : List String := (s.toList.splitOn sep).map String.ofList

/-- A text without the separator is one part. -/
theorem split_single {sep : Char} {s : String} (h : sep ∉ s.toList) : split sep s = [s] := by
  rw [split, List.splitOn_eq_singleton h, List.map_singleton, String.ofList_toList]

theorem split_append {sep : Char} {s : String} (h : sep ∉ s.toList) (t : String) :
    split sep (s ++ String.singleton sep ++ t) = s :: split sep t := by
  rw [split, String.toList_append, String.toList_append, String.toList_singleton,
    List.append_assoc, List.singleton_append, List.splitOn_append_cons_self_of_not_mem h,
    List.map_cons, String.ofList_toList, split]

/-- Parts without the separator come back from the text they are joined to. -/
theorem split_intercalate {sep : Char} {parts : List String}
    (h : ∀ part ∈ parts, sep ∉ part.toList) (hne : parts ≠ []) :
    split sep (String.intercalate (String.singleton sep) parts) = parts := by
  have hchars : ∀ cs ∈ parts.map String.toList, sep ∉ cs := by
    intro cs hcs
    obtain ⟨part, hpart, rfl⟩ := List.mem_map.mp hcs
    exact h part hpart
  rw [split, String.toList_intercalate, String.toList_singleton,
    List.splitOn_intercalate sep hchars (by simpa using hne), List.map_map]
  simp [Function.comp_def]

theorem not_mem_of_mem_splitOn {α : Type} [BEq α] [LawfulBEq α] {sep : α} :
    ∀ {l part : List α}, part ∈ l.splitOn sep → sep ∉ part
  | [], part, h => by
    have : part = [] := by simpa using h
    simp [this]
  | x :: l, part, h => by
    rw [List.splitOn_cons_eq_if_modifyHead] at h
    split at h
    · rcases List.mem_cons.mp h with rfl | h
      · exact List.not_mem_nil
      · exact not_mem_of_mem_splitOn h
    · rename_i hx
      obtain ⟨first, parts, hl⟩ := List.exists_cons_of_ne_nil (List.splitOn_ne_nil sep l)
      have ih : ∀ part ∈ first :: parts, sep ∉ part := fun part hpart =>
        not_mem_of_mem_splitOn (l := l) (hl ▸ hpart)
      rw [hl, List.modifyHead_cons] at h
      rcases List.mem_cons.mp h with rfl | h
      · have hne : sep ≠ x := fun heq => hx (by simp [heq])
        exact List.not_mem_cons_of_ne_of_not_mem hne (ih _ List.mem_cons_self)
      · exact ih _ (List.mem_cons_of_mem _ h)

theorem not_mem_of_mem_split {sep : Char} {s part : String} (h : part ∈ split sep s) :
    sep ∉ part.toList := by
  obtain ⟨cs, hcs, rfl⟩ := List.mem_map.mp h
  rw [String.toList_ofList]
  exact not_mem_of_mem_splitOn hcs

theorem trimEndMatches_of_not_mem {c : Char} {s : String} (h : c ∉ s.toList) :
    trimEndMatches c s = s := by
  rw [trimEndMatches, List.rdropWhile_eq_self_iff.mpr, String.ofList_toList]
  intro hne heq
  have hlast : s.toList.getLast hne = c := by simpa using heq
  exact h (hlast ▸ List.getLast_mem hne)

/-- `str::rsplit_once` at one character. -/
def rsplitOnce (sep : Char) (s : String) : Option (String × String) :=
  match (split sep s).reverse with
  | last :: first :: parts =>
    some (String.intercalate (String.singleton sep) (first :: parts).reverse, last)
  | _ => none

example : rsplitOnce ':' "::1:8710" = some ("::1", "8710") := by decide

/-- `Path::file_name` of a Unix path, as text: the last component that is neither
empty nor a dot, unless that is `..`. -/
def fileName (path : String) : Option String :=
  match ((split '/' path).filter fun c => c ≠ "" ∧ c ≠ ".").getLast? with
  | some ".." => none
  | last => last

/-- The text in front of the names in a directory. -/
def dirFront (dir : String) : String :=
  if dir = "" ∨ endsWith dir "/" = true then dir else dir ++ "/"

/-- `Path::join` of Unix paths, as text: an absolute path replaces the directory. -/
def join (dir path : String) : String :=
  if startsWith path "/" then path else dirFront dir ++ path

/-- A `Component::Normal` of a Unix path. -/
structure NormalComponent (name : String) : Prop where
  ne_empty : name ≠ ""
  ne_dot : name ≠ "."
  ne_dots : name ≠ ".."
  no_separator : '/' ∉ name.toList

theorem fileName_eq_some {path name : String} (h : fileName path = some name) :
    NormalComponent name := by
  have hlast : ((split '/' path).filter fun c => c ≠ "" ∧ c ≠ ".").getLast? = some name ∧
      name ≠ ".." := by
    unfold fileName at h
    split at h
    · cases h
    · rename_i hdots
      refine ⟨h, ?_⟩
      rintro rfl
      exact hdots h
  have hmem := List.mem_of_getLast? hlast.1
  rw [List.mem_filter, decide_eq_true_eq] at hmem
  exact ⟨hmem.2.1, hmem.2.2, hlast.2, not_mem_of_mem_split hmem.1⟩

/-- The last part is the name, if it can be one. -/
theorem fileName_of_split {path name : String} {parts : List String} (hname : NormalComponent name)
    (h : split '/' path = parts ++ [name]) : fileName path = some name := by
  have hkeep : [name].filter (fun c => c ≠ "" ∧ c ≠ ".") = [name] := by
    rw [List.filter_cons_of_pos (by simp [hname.ne_empty, hname.ne_dot]), List.filter_nil]
  rw [fileName, h, List.filter_append, hkeep, List.getLast?_concat]
  split
  · rename_i heq
    exact absurd (Option.some.inj heq) hname.ne_dots
  · rfl

theorem join_normal {dir name : String} (h : NormalComponent name) :
    join dir name = dirFront dir ++ name := by
  refine if_neg fun hstart => h.no_separator ?_
  rw [startsWith, List.isPrefixOf_iff_prefix] at hstart
  exact hstart.subset List.mem_cons_self

/-- A `HashMap`, where its size or its iterations matter. -/
abbrev HashMap (α β : Type) := AList fun _ : α => β

section
variable {α β : Type} [DecidableEq α]

/-- `HashMap::retain`, with a condition on the values. -/
def HashMap.retain (p : β → Bool) (m : HashMap α β) : HashMap α β where
  entries := m.entries.filter fun e => p e.2
  nodupKeys := m.nodupKeys.sublist List.filter_sublist

theorem HashMap.lookup_retain {p : β → Bool} {m : HashMap α β} {k : α} {v : β} :
    (m.retain p).lookup k = some v ↔ m.lookup k = some v ∧ p v = true := by
  have hmem : ∀ m : HashMap α β, m.lookup k = some v ↔ ⟨k, v⟩ ∈ m.entries :=
    fun m => AList.mem_lookup_iff
  rw [hmem, hmem, retain, List.mem_filter]

end

end Rust
