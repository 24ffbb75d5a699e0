import Hdc.CommandHop
import Hdc.FileHost

/- Which local file a `file send` is about: the client adds its working directory to the parameters
   (`file_send_task` in `hdc/src/client.rs`), the server puts the two texts together
   (`resolve_file_paths` in `hdc/src/server.rs`).

   The server joins them whatever the path looks like. A relative path is found in the working
   directory, an absolute one is looked for there too; `handle_server_app_install` asks
   `Path::is_absolute` first. Both paths lose white space at their ends, and a pair of quotes
   (`stripQuotes_eq_self_iff`). -/
namespace Hdc
open Rust

/-! White space and quotes. -/

theorem trim_toList (s : String) :
    (trim s).toList = (s.toList.rdropWhile isWhitespace).dropWhile isWhitespace := by
  rw [trim, trimEnd, String.toList_ofList, String.toList_ofList]

theorem length_trim_le (s : String) : (trim s).toList.length ≤ s.toList.length := by
  rw [trim_toList]
  exact Nat.le_trans (List.dropWhile_suffix _).length_le (List.rdropWhile_prefix _ _).length_le

/-- The last character that is left is no white space. -/
theorem trim_getLast {s : String} {c : Char} (h : (trim s).toList.getLast? = some c) :
    isWhitespace c = false := by
  rw [trim_toList] at h
  obtain ⟨before, hbefore⟩ := List.dropWhile_suffix isWhitespace (l := s.toList.rdropWhile isWhitespace)
  have hlast : (s.toList.rdropWhile isWhitespace).getLast? = some c := by
    rw [← hbefore, List.getLast?_append, h]
    rfl
  have hne : s.toList.rdropWhile isWhitespace ≠ [] := by
    rintro hnil
    rw [hnil] at hlast
    cases hlast
  have hnot := List.rdropWhile_last_not isWhitespace s.toList hne
  rw [List.getLast?_eq_some_getLast hne] at hlast
  cases hlast
  exact Bool.eq_false_iff.mpr hnot

/-- A text that starts and ends with something else is kept. -/
theorem trim_eq_self {s : String} (hfirst : ∀ c, s.toList.head? = some c → isWhitespace c = false)
    (hlast : ∀ c, s.toList.getLast? = some c → isWhitespace c = false) : trim s = s := by
  have hend : s.toList.rdropWhile isWhitespace = s.toList := by
    rw [List.rdropWhile_eq_self_iff]
    intro hne hwhite
    rw [hlast _ (List.getLast?_eq_some_getLast hne)] at hwhite
    cases hwhite
  apply String.toList_injective
  rw [trim_toList, hend]
  cases hs : s.toList with
  | nil => rfl
  | cons c cs =>
    have hc : isWhitespace c = false := hfirst c (by rw [hs]; rfl)
    rw [List.dropWhile_cons, hc]
    rfl

/-- The text is in a pair of quotes. -/
def Quoted (s : String) : Prop :=
  2 ≤ (utf8 s).length ∧ s.toList.head? = some '"' ∧ s.toList.getLast? = some '"'

instance (s : String) : Decidable (Quoted s) := inferInstanceAs (Decidable (_ ∧ _ ∧ _))

theorem stripQuotes_eq (s : String) : stripQuotes s =
    if Quoted (trim s) then String.ofList (trim s).toList.tail.dropLast else trim s := rfl

theorem stripQuotes_eq_self_iff {s : String} (h : ¬ Quoted s) : stripQuotes s = s ↔ trim s = s := by
  rw [stripQuotes_eq]
  constructor
  · intro hself
    split at hself
    · -- the quotes make the text shorter
      rename_i hquoted
      have hlen := congrArg (fun t => t.toList.length) hself
      rw [String.toList_ofList, List.length_dropLast, List.length_tail] at hlen
      have hle := length_trim_le s
      have hne : (trim s).toList ≠ [] := by
        intro hnil
        rw [Quoted, hnil] at hquoted
        cases hquoted.2.1
      have := List.length_pos_iff.mpr hne
      omega
    · exact hself
  · intro htrim
    rw [htrim, if_neg h]

/-! The paths. -/

/-- The file a user means: an absolute path itself, a relative one in the working directory. -/
def namedPath (dir path : String) : String :=
  if startsWith path "/" then path else trimEndMatches '/' dir ++ "/" ++ path

/-- The server resolves the parameters of the client to the two paths that were named. -/
def PathsResolved (dir localPath remotePath : String) : Prop :=
  ∀ sent, fileSendTask (.ok dir) .fileInit ["file", "send", localPath, remotePath] = some (.ok sent) →
    resolveFilePaths sent = .ok (namedPath dir localPath, remotePath)

theorem fileSendTask_file_send (dir localPath remotePath : String) :
    fileSendTask (.ok dir) .fileInit ["file", "send", localPath, remotePath] =
      some (.ok ["file", "send", "-cwd", dir ++ "/", localPath, remotePath]) := rfl

/-- The paths are put together as texts. -/
theorem resolveFilePaths_sent (dir localPath remotePath : String) :
    resolveFilePaths ["file", "send", "-cwd", dir ++ "/", localPath, remotePath] =
      .ok (trimEndMatches '/' dir ++ "/" ++ stripQuotes localPath, stripQuotes remotePath) := by
  have hne : dir ++ "/" ≠ "" := by
    intro hempty
    have := congrArg String.toList hempty
    rw [String.toList_append] at this
    simp at this
  have htrim : trimEndMatches '/' (dir ++ "/") = trimEndMatches '/' dir := by
    rw [trimEndMatches, trimEndMatches, String.toList_append]
    exact congrArg String.ofList (List.rdropWhile_concat_pos _ _ _ rfl)
  show Except.ok (if dir ++ "/" = "" then stripQuotes localPath
    else trimEndMatches mainSeparator (dir ++ "/") ++ String.singleton mainSeparator ++
      stripQuotes localPath, stripQuotes remotePath) = _
  rw [if_neg hne, mainSeparator, htrim]
  rfl

/-- A path that starts with a separator still does after `trim`. -/
theorem trim_absolute {path : String} {rest : List Char} (h : path.toList = '/' :: rest) :
    ∃ cs, (trim path).toList = '/' :: cs := by
  have hslash : isWhitespace '/' = false := by decide
  obtain ⟨after, hafter⟩ := List.rdropWhile_prefix isWhitespace path.toList
  cases hleft : path.toList.rdropWhile isWhitespace with
  | nil =>
    rw [List.rdropWhile_eq_nil_iff] at hleft
    have := hleft '/' (h ▸ List.mem_cons_self)
    rw [hslash] at this
    cases this
  | cons c cs =>
    rw [hleft, h] at hafter
    cases hafter
    refine ⟨cs, ?_⟩
    rw [trim_toList, hleft, List.dropWhile_cons, hslash]
    rfl

/-- An absolute path is never resolved to itself. -/
theorem absolute_not_resolved {dir path : String} (habs : startsWith path "/" = true) :
    trimEndMatches '/' dir ++ "/" ++ stripQuotes path ≠ path := by
  intro h
  obtain ⟨rest, hrest⟩ := List.isPrefixOf_iff_prefix.mp habs
  have hpath : path.toList = '/' :: rest := hrest.symm
  obtain ⟨cs, hcs⟩ := trim_absolute hpath
  -- it starts with a separator, so there are no quotes
  have hstrip : stripQuotes path = trim path := by
    have hnot : ¬ Quoted (trim path) := by
      rintro ⟨-, hhead, -⟩
      rw [hcs] at hhead
      cases hhead
    rw [stripQuotes_eq, if_neg hnot]
  rw [hstrip] at h
  -- so the path ends like what `trim` leaves, and has nothing to lose
  have hself : trim path = path := by
    refine trim_eq_self (fun c hc => ?_) (fun c hc => ?_)
    · rw [hpath] at hc
      cases hc
      decide
    · have hlast := List.getLast?_eq_some_getLast (List.cons_ne_nil '/' cs)
      rw [← h, String.toList_append, List.getLast?_append, hcs, hlast, Option.some_or] at hc
      exact trim_getLast (s := path) (by rw [hcs, hlast, hc])
  have hlen := congrArg (fun t => t.toList.length) h
  simp only [hself, String.toList_append, List.length_append] at hlen
  have hone : "/".toList.length = 1 := by decide
  omega

theorem pathsResolved_iff_texts {dir localPath remotePath : String} :
    PathsResolved dir localPath remotePath ↔
      trimEndMatches '/' dir ++ "/" ++ stripQuotes localPath = namedPath dir localPath ∧
        stripQuotes remotePath = remotePath := by
  rw [PathsResolved, fileSendTask_file_send]
  constructor
  · intro h
    have hresolved := h _ rfl
    rw [resolveFilePaths_sent] at hresolved
    exact Prod.mk.inj (Except.ok.inj hresolved)
  · rintro ⟨hl, hr⟩ sent hsent
    cases hsent
    rw [resolveFilePaths_sent, hl, hr]

theorem paths_resolved_iff (dir localPath remotePath : String) (hlocal : ¬ Quoted localPath)
    (hremote : ¬ Quoted remotePath) :
    PathsResolved dir localPath remotePath ↔
      startsWith localPath "/" = false ∧ trim localPath = localPath ∧
        trim remotePath = remotePath := by
  rw [pathsResolved_iff_texts, stripQuotes_eq_self_iff hremote, namedPath]
  cases habs : startsWith localPath "/" with
  | true =>
    rw [if_pos rfl]
    refine iff_of_false (fun h => absolute_not_resolved habs h.1) fun h => ?_
    cases h.1
  | false =>
    rw [if_neg (by decide), String.append_right_inj, stripQuotes_eq_self_iff hlocal]
    exact (and_iff_right rfl).symm

theorem paths_resolved_photo :
    PathsResolved "/home/user" "photo.jpg" "/data/photo.jpg" :=
  (paths_resolved_iff "/home/user" "photo.jpg" "/data/photo.jpg" (by decide) (by decide)).mpr
    (by decide)

/-- `file send /tmp/a.txt /data/a.txt` in `/home/user` looks for `/home/user//tmp/a.txt`. -/
theorem paths_absolute_joined :
    fileSendTask (.ok "/home/user") .fileInit ["file", "send", "/tmp/a.txt", "/data/a.txt"] =
        some (.ok ["file", "send", "-cwd", "/home/user/", "/tmp/a.txt", "/data/a.txt"]) ∧
      resolveFilePaths ["file", "send", "-cwd", "/home/user/", "/tmp/a.txt", "/data/a.txt"] =
        .ok ("/home/user//tmp/a.txt", "/data/a.txt") ∧
      ¬ PathsResolved "/home/user" "/tmp/a.txt" "/data/a.txt" := by
  have hresolved : resolveFilePaths
      ["file", "send", "-cwd", "/home/user/", "/tmp/a.txt", "/data/a.txt"] =
      .ok ("/home/user//tmp/a.txt", "/data/a.txt") := by decide
  refine ⟨by decide, hresolved, fun h => ?_⟩
  rw [pathsResolved_iff_texts] at h
  exact absolute_not_resolved (by decide) h.1

end Hdc
