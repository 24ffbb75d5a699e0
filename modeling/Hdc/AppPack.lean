import Hdc.NetAddr
import Hdc.Parser
import Mathlib.Data.List.Sort
import Mathlib.Logic.Function.Basic

/- Taking the packages out of an `.app` archive (`extract_haps_from_app` in `hdc/src/server.rs`).

   Every entry whose name ends in `.hap`, from any directory of the archive, is written to the
   output directory under the last component of its name. Such a component is always there
   (`fileName_of_isHap`), so that no name leads out of the directory (`extraction_confined`). But two
   entries can have the same one, and then the later content replaces the earlier
   (`packages_kept_iff`). -/
namespace Hdc
open Rust

structure ZipEntry where
  name : String
  content : List UInt8
  deriving DecidableEq, Repr

/-- One turn of the loop over the archive: what `by_index` returns, whether the file is created,
and how many bytes reach it before the copy fails. Errors of the archive are texts. -/
structure EntryRun where
  entry : Except String ZipEntry
  create : IoResult Unit := .ok ()
  copy : Except (Nat × String) Unit := .ok ()

/-- The content of the files by their paths. -/
abbrev Files := String → Option (List UInt8)

/-- A file is created or emptied, and written. It is irreducible, since comparing two file systems
by unfolding would compare texts character by character. -/
@[irreducible] def Files.set (files : Files) (path : String) (content : List UInt8) : Files :=
  Function.update files path (some content)

theorem Files.set_self (files : Files) (path : String) (content : List UInt8) :
    files.set path content path = some content := by
  unfold Files.set
  exact Function.update_self _ _ _

theorem Files.set_of_ne (files : Files) {path path' : String} (content : List UInt8)
    (h : path' ≠ path) : files.set path content path' = files path' := by
  unfold Files.set
  exact Function.update_of_ne h _ _

/-- The files, those that have been created, and the packages found so far. -/
structure Extraction where
  files : Files
  created : List String := []
  haps : List String := []

def isHap (name : String) : Bool := endsWith (toAsciiLowercase name) ".hap"

/-- The path an entry is written to. -/
def hapPath (outDir name : String) : String := join outDir ((fileName name).getD name)

/-- `File::create`, which empties a file that is there, and the bytes written to it. -/
def Extraction.write (s : Extraction) (path : String) (content : List UInt8) : Extraction :=
  { s with files := s.files.set path content, created := s.created ++ [path] }

def extractEntry (outDir : String) (s : Extraction) (run : EntryRun) : IoResult Unit × Extraction :=
  match run.entry with
  | .error e => (invalidData ("Zip entry error: " ++ e), s)
  | .ok entry =>
    if isHap entry.name then
      let outPath := hapPath outDir entry.name
      match run.create, run.copy with
      | .error e, _ => (.error e, s)
      | .ok (), .error (n, e) =>
        (invalidData ("Extract failed: " ++ e), s.write outPath (entry.content.take n))
      | .ok (), .ok () =>
        (.ok (), { s.write outPath entry.content with haps := s.haps ++ [outPath] })
    else (.ok (), s)

def extractLoop (outDir : String) : Extraction → List EntryRun → IoResult Unit × Extraction
  | s, [] => (.ok (), s)
  | s, run :: runs =>
    match extractEntry outDir s run with
    | (.error e, s) => (.error e, s)
    | (.ok (), s) => extractLoop outDir s runs

/-- `extract_haps_from_app`, where `app` is what opening the file and reading its directory give.
The paths differ in their last component only, so that their order is that of the texts. -/
def extractHapsFromApp (app : IoResult (Except String (List EntryRun))) (outDir : String)
    (files : Files) : IoResult (List String) × Extraction :=
  match app with
  | .error e => (.error e, { files })
  | .ok (.error e) => (invalidData ("Failed to open .app as zip: " ++ e), { files })
  | .ok (.ok runs) =>
    match extractLoop outDir { files } runs with
    | (.error e, s) => (.error e, s)
    | (.ok (), s) => (.ok (s.haps.insertionSort (· ≤ ·)), s)

/-! Names that end in `.hap`. -/

theorem isHap_iff {name : String} :
    isHap name = true ↔ ['.', 'h', 'a', 'p'] <:+ name.toList.map Char.toLower := by
  rw [isHap, endsWith, List.isSuffixOf_iff_suffix, toAsciiLowercase, String.toList_map]
  rfl

theorem length_of_isHap {name : String} (h : isHap name = true) : 4 ≤ name.toList.length := by
  have hlen := (isHap_iff.mp h).length_le
  rwa [List.length_map] at hlen

theorem normal_of_isHap {name : String} (h : isHap name = true) (hsep : '/' ∉ name.toList) :
    NormalComponent name := by
  have hlen := length_of_isHap h
  refine ⟨?_, ?_, ?_, hsep⟩ <;> rintro rfl <;> exact absurd hlen (by decide)

/-- The suffix has no separator, so it is one of the last component. -/
theorem isHap_last {front last : String}
    (h : isHap (front ++ String.singleton '/' ++ last) = true) : isHap last = true := by
  rw [isHap_iff, String.toList_append, String.toList_append, String.toList_singleton,
    List.append_assoc, List.map_append, List.singleton_append, List.map_cons] at h
  rw [isHap_iff]
  rcases List.suffix_or_suffix_of_suffix h (List.suffix_append _ _) with hsuffix | hsuffix
  · rcases List.suffix_cons_iff.mp hsuffix with heq | hsuffix
    · exact absurd (List.cons.inj heq).1 (by decide)
    · exact hsuffix
  · have hmem : Char.toLower '/' ∈ ['.', 'h', 'a', 'p'] := hsuffix.subset List.mem_cons_self
    exact absurd hmem (by decide)

/-- The name of the file is never the fallback. -/
theorem fileName_of_isHap {name : String} (h : isHap name = true) :
    ∃ base, fileName name = some base ∧ NormalComponent base := by
  cases hparts : rsplitOnce '/' name with
  | none =>
    have hsep := rsplitOnce_eq_none hparts
    have hnormal := normal_of_isHap h hsep
    exact ⟨name, @fileName_of_split name name [] hnormal (split_single hsep), hnormal⟩
  | some p =>
    obtain ⟨front, last⟩ := p
    obtain ⟨hname, hsep⟩ := rsplitOnce_eq_some hparts
    rw [hname] at h
    have hnormal := normal_of_isHap (isHap_last h) hsep
    obtain ⟨parts, _, hsplit, _⟩ := split_of_rsplitOnce hparts
    exact ⟨last, fileName_of_split hnormal hsplit, hnormal⟩

theorem hapPath_eq {name base : String} (outDir : String) (hbase : fileName name = some base) :
    hapPath outDir name = dirFront outDir ++ base := by
  rw [hapPath, hbase, Option.getD_some, join_normal (fileName_eq_some hbase)]

theorem hapPath_inj {outDir name name' : String} (h : isHap name = true) (h' : isHap name' = true) :
    hapPath outDir name = hapPath outDir name' ↔ fileName name = fileName name' := by
  obtain ⟨base, hbase, _⟩ := fileName_of_isHap h
  obtain ⟨base', hbase', _⟩ := fileName_of_isHap h'
  rw [hapPath_eq outDir hbase, hapPath_eq outDir hbase', hbase, hbase', Option.some_inj]
  constructor
  · intro heq
    apply String.toList_injective
    have hlist := congrArg String.toList heq
    rwa [String.toList_append, String.toList_append, List.append_cancel_left_eq] at hlist
  · rintro rfl
    rfl

/-! What one entry does. -/

/-- The package of a turn. -/
def EntryRun.hap (run : EntryRun) : Option ZipEntry :=
  match run.entry with
  | .error _ => none
  | .ok entry => if isHap entry.name then some entry else none

theorem EntryRun.isHap_of_hap {run : EntryRun} {entry : ZipEntry} (h : run.hap = some entry) :
    isHap entry.name = true := by
  rw [EntryRun.hap] at h
  split at h
  · cases h
  · split at h
    · rename_i hhap
      cases h
      exact hhap
    · cases h

/-- A turn touches nothing, or writes its package in part and fails, or writes and adds it. -/
theorem extractEntry_cases {outDir : String} {s s' : Extraction} {run : EntryRun}
    {result : IoResult Unit} (h : extractEntry outDir s run = (result, s')) :
    (s' = s ∧ (result = .ok () → run.hap = none)) ∨
    (∃ entry n e, run.hap = some entry ∧ result = .error e ∧
      s' = s.write (hapPath outDir entry.name) (entry.content.take n)) ∨
    (∃ entry, run.hap = some entry ∧ result = .ok () ∧
      s' = { s.write (hapPath outDir entry.name) entry.content with
        haps := s.haps ++ [hapPath outDir entry.name] }) := by
  unfold extractEntry at h
  split at h
  · cases h
    exact .inl ⟨rfl, fun hok => by cases hok⟩
  · rename_i entry hentry
    have hrun : run.hap = if isHap entry.name then some entry else none := by
      rw [EntryRun.hap, hentry]
    split at h
    · rename_i hhap
      rw [if_pos hhap] at hrun
      dsimp only at h
      split at h
      · cases h
        exact .inl ⟨rfl, fun hok => by cases hok⟩
      · rename_i n e _ _
        cases h
        exact .inr (.inl ⟨entry, n, _, hrun, rfl, rfl⟩)
      · cases h
        exact .inr (.inr ⟨entry, hrun, rfl, rfl⟩)
    · rename_i hhap
      rw [if_neg hhap] at hrun
      cases h
      exact .inl ⟨rfl, fun _ => hrun⟩

/-- A turn that succeeds writes its package, if it has one. -/
theorem extractEntry_ok {outDir : String} {s s' : Extraction} {run : EntryRun}
    (h : extractEntry outDir s run = (.ok (), s')) :
    s'.haps = s.haps ++ run.hap.toList.map (fun e => hapPath outDir e.name) ∧
    s'.files = run.hap.toList.foldl (fun files e => files.set (hapPath outDir e.name) e.content)
      s.files := by
  rcases extractEntry_cases h with ⟨rfl, hnone⟩ | ⟨_, _, _, _, herror, _⟩ | ⟨entry, hhap, _, rfl⟩
  · rw [hnone rfl]
    exact ⟨(List.append_nil _).symm, rfl⟩
  · cases herror
  · rw [hhap]
    exact ⟨rfl, rfl⟩

/-! Staying in the directory. -/

/-- A path directly in the directory. -/
def DirectChild (outDir path : String) : Prop :=
  ∃ name, NormalComponent name ∧ path = dirFront outDir ++ name

/-- Only files directly in the directory have been created, and no other file has changed. -/
structure Confined (outDir : String) (files : Files) (s : Extraction) :
    Prop where
  created : ∀ path ∈ s.created, DirectChild outDir path
  unchanged : ∀ path, path ∉ s.created → s.files path = files path

section
variable {outDir : String} {files : Files}

theorem Confined.init : Confined outDir files { files } :=
  ⟨fun _ h => (List.not_mem_nil h).elim, fun _ _ => rfl⟩

theorem Confined.write {s : Extraction} (hs : Confined outDir files s) {name : String}
    (hname : isHap name = true) (content : List UInt8) :
    Confined outDir files (s.write (hapPath outDir name) content) := by
  obtain ⟨base, hbase, hnormal⟩ := fileName_of_isHap hname
  constructor
  · intro path hpath
    rcases List.mem_append.mp hpath with hpath | hpath
    · exact hs.created path hpath
    · rw [List.mem_singleton.mp hpath]
      exact ⟨base, hnormal, hapPath_eq outDir hbase⟩
  · intro path hpath
    rw [Extraction.write, List.mem_append, List.mem_singleton, not_or] at hpath
    exact (s.files.set_of_ne content hpath.2).trans (hs.unchanged path hpath.1)

theorem Confined.entry {s s' : Extraction} {run : EntryRun} {result : IoResult Unit}
    (hs : Confined outDir files s) (h : extractEntry outDir s run = (result, s')) :
    Confined outDir files s' := by
  rcases extractEntry_cases h with
    ⟨rfl, _⟩ | ⟨entry, n, _, hhap, _, rfl⟩ | ⟨entry, hhap, _, rfl⟩
  · exact hs
  · exact hs.write (EntryRun.isHap_of_hap hhap) _
  · obtain ⟨hcreated, hunchanged⟩ := hs.write (EntryRun.isHap_of_hap hhap) entry.content
    exact ⟨hcreated, hunchanged⟩

theorem Confined.loop : ∀ {runs : List EntryRun} {s s' : Extraction} {result : IoResult Unit},
    Confined outDir files s → extractLoop outDir s runs = (result, s') → Confined outDir files s'
  | [], _, _, _, hs, h => by
    cases h
    exact hs
  | run :: runs, s, s', result, hs, h => by
    rw [extractLoop] at h
    split at h
    · rename_i hentry
      cases h
      exact hs.entry hentry
    · rename_i hentry
      exact (hs.entry hentry).loop h

end

/-- Whatever the names in the archive are, and wherever the extraction stops. -/
theorem extraction_confined (app : IoResult (Except String (List EntryRun))) (outDir : String)
    (files : Files) :
    Confined outDir files (extractHapsFromApp app outDir files).2 := by
  unfold extractHapsFromApp
  split
  · exact .init
  · exact .init
  · split
    · rename_i hloop
      exact Confined.init.loop hloop
    · rename_i hloop
      exact Confined.init.loop hloop

example : (extractHapsFromApp (.ok (.ok [{ entry := .ok ⟨"../../up.hap", [1]⟩ },
      { entry := .ok ⟨"/etc//./root.HAP", [2]⟩, copy := .error (0, "no space") }])) "/t"
      fun _ => none).2.created = ["/t/up.hap", "/t/root.HAP"] := by
  with_unfolding_all decide

/-! Keeping every package. -/

/-- The entries of the archive that are packages. -/
def hapEntries (runs : List EntryRun) : List ZipEntry := runs.filterMap EntryRun.hap

/-- One path for each package, all of them different, and each with the content of its package. -/
def KeepsEvery (entries : List ZipEntry) (haps : List String)
    (files : Files) : Prop :=
  ∃ paths, haps.Perm paths ∧ paths.Nodup ∧
    List.Forall₂ (fun entry path => files path = some entry.content) entries paths

theorem hapEntries_cons (run : EntryRun) (runs : List EntryRun) :
    hapEntries (run :: runs) = run.hap.toList ++ hapEntries runs := by
  rw [hapEntries, hapEntries, List.filterMap_cons]
  cases run.hap <;> rfl

theorem isHap_of_mem_hapEntries {runs : List EntryRun} {entry : ZipEntry}
    (h : entry ∈ hapEntries runs) : isHap entry.name = true := by
  obtain ⟨run, _, hrun⟩ := List.mem_filterMap.mp h
  exact EntryRun.isHap_of_hap hrun

theorem extractLoop_ok {outDir : String} :
    ∀ {runs : List EntryRun} {s s' : Extraction}, extractLoop outDir s runs = (.ok (), s') →
      s'.haps = s.haps ++ (hapEntries runs).map (fun e => hapPath outDir e.name) ∧
      s'.files = (hapEntries runs).foldl
        (fun files e => files.set (hapPath outDir e.name) e.content) s.files
  | [], _, _, h => by
    cases h
    exact ⟨(List.append_nil _).symm, rfl⟩
  | run :: runs, s, s', h => by
    rw [extractLoop] at h
    split at h
    · cases h
    · rename_i s₁ hentry
      obtain ⟨hhaps₁, hfiles₁⟩ := extractEntry_ok hentry
      obtain ⟨hhaps, hfiles⟩ := extractLoop_ok h
      rw [hapEntries_cons, List.map_append, List.foldl_append]
      exact ⟨by rw [hhaps, hhaps₁, List.append_assoc], by rw [hfiles, hfiles₁]⟩

section
variable {path : ZipEntry → String}

theorem foldl_set_of_not_mem {p : String} : ∀ {entries : List ZipEntry} {files : Files},
    (∀ e ∈ entries, path e ≠ p) →
      entries.foldl (fun files e => files.set (path e) e.content) files p = files p
  | [], _, _ => rfl
  | e :: entries, files, h => by
    rw [List.foldl_cons, foldl_set_of_not_mem fun e' he' => h e' (List.mem_cons_of_mem e he')]
    exact files.set_of_ne e.content (h e List.mem_cons_self).symm

/-- With different paths, no content is replaced by a later one. -/
theorem foldl_set_of_nodup : ∀ {entries : List ZipEntry} {files : Files},
    (entries.map path).Nodup → ∀ e ∈ entries,
      entries.foldl (fun files e => files.set (path e) e.content) files (path e) = some e.content
  | e :: entries, files, hnodup, e', he' => by
    rw [List.map_cons, List.nodup_cons] at hnodup
    rw [List.foldl_cons]
    rcases List.mem_cons.mp he' with rfl | he'
    · have hne : ∀ e ∈ entries, path e ≠ path e' := fun e he heq =>
        hnodup.1 (heq ▸ List.mem_map_of_mem he)
      rw [foldl_set_of_not_mem hne]
      exact files.set_self (path e') e'.content
    · exact foldl_set_of_nodup hnodup.2 e' he'

end

theorem nodup_hapPath_iff (outDir : String) (runs : List EntryRun) :
    ((hapEntries runs).map fun e => hapPath outDir e.name).Nodup ↔
      ((hapEntries runs).map fun e => fileName e.name).Nodup := by
  rw [List.Nodup, List.Nodup, List.pairwise_map, List.pairwise_map]
  refine List.Pairwise.iff_of_mem fun he he' => ?_
  exact not_congr (hapPath_inj (isHap_of_mem_hapEntries he) (isHap_of_mem_hapEntries he'))

/-- An extraction that succeeds has kept every package just if no two of them have the same last
component in their names. -/
theorem packages_kept_iff (runs : List EntryRun) (outDir : String)
    (files : Files) (haps : List String) (s : Extraction)
    (h : extractHapsFromApp (.ok (.ok runs)) outDir files = (.ok haps, s)) :
    KeepsEvery (hapEntries runs) haps s.files ↔
      ((hapEntries runs).map fun e => fileName e.name).Nodup := by
  have hloop : extractLoop outDir { files } runs = (.ok (), s) ∧
      haps = s.haps.insertionSort (· ≤ ·) := by
    simp only [extractHapsFromApp] at h
    split at h
    · cases h
    · rename_i hloop
      cases h
      exact ⟨hloop, rfl⟩
  obtain ⟨hhaps, hfiles⟩ := extractLoop_ok hloop.1
  have hperm : haps.Perm ((hapEntries runs).map fun e => hapPath outDir e.name) := by
    rw [hloop.2, ← List.nil_append (List.map _ _), ← hhaps]
    exact List.perm_insertionSort _ _
  rw [← nodup_hapPath_iff outDir runs]
  constructor
  · rintro ⟨paths, hpaths, hnodup, _⟩
    exact (hperm.symm.trans hpaths).nodup_iff.mpr hnodup
  · intro hnodup
    refine ⟨_, hperm, hnodup, ?_⟩
    rw [List.forall₂_map_right_iff, List.forall₂_same]
    intro entry hentry
    rw [hfiles]
    exact foldl_set_of_nodup hnodup entry hentry

/-- An archive with two packages. -/
def twoPackages (name name' : String) : List EntryRun :=
  [{ entry := .ok ⟨name, [1]⟩ }, { entry := .ok ⟨name', [2]⟩ }, { entry := .ok ⟨"readme.txt", [3]⟩ }]

def extractTwo (name name' : String) : IoResult (List String) × Extraction :=
  extractHapsFromApp (.ok (.ok (twoPackages name name'))) "/t" fun _ => none

theorem packages_kept_two :
    (extractTwo "entry.hap" "feature/Feature.HAP").1 = .ok ["/t/Feature.HAP", "/t/entry.hap"] ∧
    KeepsEvery (hapEntries (twoPackages "entry.hap" "feature/Feature.HAP"))
      ["/t/Feature.HAP", "/t/entry.hap"] (extractTwo "entry.hap" "feature/Feature.HAP").2.files := by
  have hresult : (extractTwo "entry.hap" "feature/Feature.HAP").1 =
      .ok ["/t/Feature.HAP", "/t/entry.hap"] := by with_unfolding_all decide
  refine ⟨hresult, ?_⟩
  exact (packages_kept_iff _ "/t" _ _ _ (Prod.ext hresult rfl)).mpr (by with_unfolding_all decide)

/-- The same name in two directories: both entries get the path of the second. -/
theorem packages_overwritten :
    (extractTwo "phone/x.hap" "tablet/x.hap").1 = .ok ["/t/x.hap", "/t/x.hap"] ∧
    (extractTwo "phone/x.hap" "tablet/x.hap").2.files "/t/x.hap" = some [2] ∧
    ¬ KeepsEvery (hapEntries (twoPackages "phone/x.hap" "tablet/x.hap"))
      ["/t/x.hap", "/t/x.hap"] (extractTwo "phone/x.hap" "tablet/x.hap").2.files := by
  refine ⟨by with_unfolding_all decide, by with_unfolding_all decide, ?_⟩
  rintro ⟨paths, hperm, hnodup, _⟩
  exact absurd (hperm.nodup_iff.mpr hnodup) (by decide)

end Hdc
