import Hdc.ForwardSession
import Hdc.Lts
import Mathlib.Data.List.Nodup
import Mathlib.Data.List.Perm.Subperm

/- The `ForwardMap` of a host over all its devices, next to the forwards that are up: those
   that were set up and that `remove_forward_entry` has not removed since
   (`handle_server_forward`, `handle_server_rport`, `build_forward_list` in
   `hdc/src/server.rs`).

   An entry stands under its task string, the two specs in the order of the command. Device and
   direction are no part of it, so a forward takes the place of any other with these specs.
   `forwards_kept_iff` says that nothing else can happen to an entry. -/
namespace Hdc
open Rust Lts

/-! Listing. -/

/-- The line of an entry. -/
def ForwardEntry.line (entry : ForwardEntry) : String :=
  let dirStr := match entry.direction with
    | .forward => "[Forward]"
    | .reverse => "[Reverse]"
  entry.connectKey ++ "    " ++ entry.taskString ++ "    " ++ dirStr

def forwardLines (m : ForwardMap) (connectKeyFilter : String) : List String :=
  (m.entries.filter (·.matchesFilter connectKeyFilter)).map ForwardEntry.line

def buildForwardList (m : ForwardMap) (connectKeyFilter : String) : String :=
  String.intercalate "\r\n" (forwardLines m connectKeyFilter)

/-! Forwards. -/

/-- A forward that has been set up, for the device it is resolved to. -/
inductive Forward where
  | fport (device : String) (job : ForwardJob)
  | rport (device : String) (job : RportJob)
  deriving DecidableEq, Repr

namespace Forward

def entry : Forward → ForwardEntry
  | fport device job => {
      channelId := job.channelId
      sessionId := job.sessionId
      connectKey := device
      direction := .forward
      taskString := job.localSpec ++ " " ++ job.remoteSpec
      abortHandle := true }
  | rport device job => {
      channelId := job.channelId
      sessionId := job.sessionId
      connectKey := device
      direction := .reverse
      taskString := job.taskString
      abortHandle := false }

-- It is the entry of a handler at the end of its set-up.
theorem entry_fport (device : String) (job : ForwardJob) (result : UInt32 × String) :
    HostHandler.entry device (.fport job (.ended (.ok result))) = some (fport device job).entry := rfl

theorem entry_rport (device : String) (job : RportJob) :
    HostHandler.entry device (.rport job (.ended (.ok ()))) = some (rport device job).entry := rfl

theorem taskString_ne_empty (f : Forward) : f.entry.taskString ≠ "" := by
  have happend : ∀ a b : String, a ++ " " ++ b ≠ "" := by
    intro a b h
    have := congrArg String.toList h
    simp at this
  cases f with
  | fport device job => exact happend _ _
  | rport device job => exact happend _ _

end Forward

/-! The table. -/

structure ForwardTable where
  map : ForwardMap
  live : List Forward

def ForwardTable.init : ForwardTable := ⟨.new, []⟩

inductive TableAct where
  | setUp (f : Forward)
  | remove (connectKeyFilter spec : String)
  /-- An iteration gives the entries in another order. -/
  | reorder (entries : List ForwardEntry)
  deriving DecidableEq, Repr

def ForwardTable.setUp (s : ForwardTable) (f : Forward) : ForwardTable where
  map := s.map.insert f.entry
  live := f :: s.live

def tableStep (s : ForwardTable) : TableAct → Option ForwardTable
  | .setUp f => some (s.setUp f)
  | .remove connectKeyFilter spec =>
    let (map, removed, _) := removeForwardEntry s.map connectKeyFilter spec
    some ⟨map, s.live.filter (·.entry ∉ removed)⟩
  | .reorder entries => (s.map.reorder entries).map fun map => { s with map }

/-- No forward that is up has the specs of the new one, in this order. -/
def ForwardTable.Free (s : ForwardTable) (f : Forward) : Prop :=
  ∀ g ∈ s.live, g.entry.taskString ≠ f.entry.taskString

instance (s : ForwardTable) (f : Forward) : Decidable (s.Free f) :=
  inferInstanceAs (Decidable (∀ g ∈ s.live, _))

/-- Forwards are only set up under free task strings. -/
def setUpFree (s : ForwardTable) : TableAct → Prop
  | .setUp f => s.Free f
  | _ => True

instance (s : ForwardTable) : ∀ act, Decidable (setUpFree s act)
  | .setUp f => inferInstanceAs (Decidable (s.Free f))
  | .remove _ _ | .reorder _ => inferInstanceAs (Decidable True)

/-- Every forward that is up has an entry of its own. -/
def ForwardTable.Kept (s : ForwardTable) : Prop := (s.live.map Forward.entry).Subperm s.map.entries

/-- What its entry is good for: the forward is listed for its device and in the list of all, it is
removed by its specs, and there is the abort handle of its listener. -/
structure Forward.Tabled (m : ForwardMap) (f : Forward) : Prop where
  listed : ∀ connectKeyFilter, f.entry.matchesFilter connectKeyFilter = true →
    f.entry.line ∈ forwardLines m connectKeyFilter
  removable : ∀ connectKeyFilter,
    (removeForwardEntry m connectKeyFilter f.entry.taskString).2.1 = [f.entry]
  abortable : ∀ device job, f = .fport device job →
    ∃ entry, m.get f.entry.taskString = some entry ∧ entry.channelId = job.channelId ∧
      entry.abortHandle = true

namespace ForwardMap
variable {m : ForwardMap} {entry : ForwardEntry}

theorem nodup_entries (m : ForwardMap) : m.entries.Nodup := m.nodup.of_map _

theorem get_of_mem (h : entry ∈ m.entries) : m.get entry.taskString = some entry := by
  obtain ⟨found, hfound⟩ : ∃ found, m.get entry.taskString = some found := by
    rw [← Option.isSome_iff_exists, get, List.find?_isSome]
    exact ⟨entry, h, by simp⟩
  have hkey : found.taskString = entry.taskString := by simpa using List.find?_some hfound
  rw [hfound, List.inj_on_of_nodup_map m.nodup (List.mem_of_find?_eq_some hfound) h hkey]

end ForwardMap

theorem Forward.tabled {m : ForwardMap} {f : Forward} (h : f.entry ∈ m.entries) : f.Tabled m where
  listed connectKeyFilter hfilter :=
    List.mem_map_of_mem (List.mem_filter.mpr ⟨h, hfilter⟩)
  removable connectKeyFilter := by
    have hget := ForwardMap.get_of_mem h
    rw [removeForwardEntry, if_neg f.taskString_ne_empty, ForwardMap.foundKey, hget]
    simp [hget]
  abortable device job heq := by
    subst heq
    exact ⟨_, ForwardMap.get_of_mem h, rfl, rfl⟩

/-- The entries are those of the forwards that are up. -/
def ForwardTable.Exact (s : ForwardTable) : Prop := (s.live.map Forward.entry).Perm s.map.entries

theorem ForwardTable.Exact.setUp {s : ForwardTable} (h : s.Exact) {f : Forward} (hfree : s.Free f) :
    (s.setUp f).Exact := by
  have hkey : f.entry.taskString ∉ s.map.entries.map ForwardEntry.taskString := by
    intro hmem
    obtain ⟨entry, hentry, heq⟩ := List.mem_map.mp hmem
    obtain ⟨g, hg, rfl⟩ := List.mem_map.mp (h.mem_iff.mpr hentry)
    exact hfree g hg heq
  have hentries : (s.map.insert f.entry).entries = f.entry :: s.map.entries :=
    congrArg (f.entry :: ·) (ForwardMap.filter_key_of_not_mem hkey)
  show (f.entry :: s.live.map Forward.entry).Perm (s.map.insert f.entry).entries
  rw [hentries]
  exact h.cons _

/-- An entry is removed together with its forward. -/
theorem ForwardTable.Exact.remove {s : ForwardTable} (h : s.Exact) {removed : List ForwardEntry}
    {map : ForwardMap} (hperm : (removed ++ map.entries).Perm s.map.entries) :
    (⟨map, s.live.filter (·.entry ∉ removed)⟩ : ForwardTable).Exact := by
  have hdisjoint : ∀ entry ∈ map.entries, entry ∉ removed := by
    have hnodup := hperm.nodup_iff.mpr s.map.nodup_entries
    intro entry hentry hremoved
    exact (List.nodup_append.mp hnodup).2.2 entry hremoved entry hentry rfl
  have hlive : (s.live.filter (·.entry ∉ removed)).map Forward.entry =
      (s.live.map Forward.entry).filter (· ∉ removed) := by
    rw [List.filter_map]
    rfl
  have hkept : (removed ++ map.entries).filter (· ∉ removed) = map.entries := by
    rw [List.filter_append, List.filter_eq_nil_iff.mpr (by simp),
      List.filter_eq_self.mpr (by simpa using hdisjoint), List.nil_append]
  show ((s.live.filter (·.entry ∉ removed)).map Forward.entry).Perm map.entries
  rw [hlive, ← hkept]
  exact (h.trans hperm.symm).filter _

theorem tableStep_exact {s s' : ForwardTable} {act : TableAct} (h : s.Exact)
    (hfree : setUpFree s act) (hstep : tableStep s act = some s') : s'.Exact := by
  cases act with
  | setUp f =>
    cases hstep
    exact h.setUp hfree
  | remove connectKeyFilter spec =>
    cases hstep
    exact h.remove (removeForwardEntry_perm s.map connectKeyFilter spec)
  | reorder entries =>
    obtain ⟨map, hmap, rfl⟩ := Option.map_eq_some_iff.mp hstep
    rw [ForwardMap.reorder] at hmap
    split at hmap
    · rename_i hperm
      cases hmap
      exact h.trans hperm.symm
    · cases hmap

/-- The specs of a new forward are those of another that is up: one of the two has no entry. -/
theorem ForwardTable.not_kept_setUp {s : ForwardTable} {f g : Forward} (hg : g ∈ s.live)
    (hkey : g.entry.taskString = f.entry.taskString) : ¬ (s.setUp f).Kept := by
  intro hkept
  obtain ⟨entries, hperm, hsub⟩ := hkept
  have hkeys : (((s.setUp f).live.map Forward.entry).map ForwardEntry.taskString).Nodup :=
    (hperm.map _).nodup_iff.mp ((s.setUp f).map.nodup.sublist (hsub.map _))
  rw [List.map_map, ForwardTable.setUp, List.map_cons, List.nodup_cons] at hkeys
  exact hkeys.1 (List.mem_map.mpr ⟨g, hg, hkey⟩)

/-- As long as no forward is set up with the specs of one that is up, every forward has its entry;
and the first time one is, some forward has not. -/
theorem forwards_kept_iff {s : ForwardTable} (h : Reaches tableStep setUpFree .init s) :
    s.Kept ∧ (∀ f ∈ s.live, f.Tabled s.map) ∧ ∀ f, (s.setUp f).Kept ↔ s.Free f := by
  have hexact : s.Exact := h.invariant tableStep_exact .nil
  refine ⟨hexact.subperm, ?_, ?_⟩
  · intro f hf
    exact Forward.tabled (hexact.mem_iff.mp (List.mem_map_of_mem hf))
  · intro f
    constructor
    · intro hkept g hg hkey
      exact ForwardTable.not_kept_setUp hg hkey hkept
    · intro hfree
      exact (hexact.setUp hfree).subperm

theorem reaches_setUp {s : ForwardTable} (h : Reaches tableStep anyStep .init s) (f : Forward) :
    Reaches tableStep anyStep .init (s.setUp f) :=
  h.tail (a := .setUp f) trivial rfl

/-- `rport tcp:9000 tcp:8080`, for a device. -/
def rportJob (sessionId channelId : UInt32) : RportJob := ⟨sessionId, channelId, "tcp:9000", "tcp:8080"⟩

/-- `fport tcp:9000 tcp:8080`. -/
def fportJob (sessionId channelId : UInt32) : ForwardJob :=
  ⟨sessionId, channelId, "127.0.0.1", "tcp:9000", 9000, "tcp:8080"⟩

/-- Two forwards of a device, of which one is removed, and one of another device. -/
def threeForwards : Option ForwardTable :=
  run tableStep setUpFree .init [.setUp (.fport "usb1" (fportJob 1 10)), .remove "usb1" "tcp:8080",
    .setUp (.rport "usb1" (rportJob 1 11)),
    .setUp (.fport "usb2" ⟨2, 12, "127.0.0.1", "tcp:7000", 7000, "tcp:8080"⟩)]

theorem threeForwards_isSome : threeForwards.isSome = true := by decide

theorem forwards_kept_iff_three :
    let s := threeForwards.get threeForwards_isSome
    s.live.length = 2 ∧ s.Kept ∧ (∀ f ∈ s.live, f.Tabled s.map) ∧
      ∀ f, (s.setUp f).Kept ↔ s.Free f :=
  ⟨by decide, forwards_kept_iff (.of_run (Option.some_get threeForwards_isSome).symm)⟩

/-- The same `rport` on two devices: that of the first is in no list any more. -/
def sameRports : ForwardTable :=
  (ForwardTable.init.setUp (.rport "usb1" (rportJob 1 10))).setUp (.rport "usb2" (rportJob 2 11))

/-- An `fport` and an `rport` on one device, with their specs in the same order: there is no abort
handle for the listener of the first. -/
def bothDirections : ForwardTable :=
  (ForwardTable.init.setUp (.fport "usb1" (fportJob 1 10))).setUp (.rport "usb1" (rportJob 1 11))

theorem forward_lost :
    (rportStart 1 10 ["rport", "tcp:9000", "tcp:8080"] = .ok (rportJob 1 10) ∧
      rportStart 2 11 ["rport", "tcp:9000", "tcp:8080"] = .ok (rportJob 2 11) ∧
      Reaches tableStep anyStep .init sameRports ∧ sameRports.live.length = 2 ∧
      ¬ sameRports.Kept ∧ buildForwardList sameRports.map "usb1" = "" ∧
      (removeForwardEntry sameRports.map "usb1" "").2.1 = []) ∧
    forwardStart 1 10 "127.0.0.1" ["fport", "tcp:9000", "tcp:8080"] = .ok (fportJob 1 10) ∧
      Reaches tableStep anyStep .init bothDirections ∧ bothDirections.live.length = 2 ∧
      ¬ bothDirections.Kept ∧ bothDirections.map.entries.all (!·.abortHandle) = true := by
  refine ⟨⟨by decide, by decide, ?_, rfl, ?_, by decide,
    by decide⟩, by decide, ?_, rfl, ?_, by decide⟩
  · exact reaches_setUp (reaches_setUp .refl _) _
  · exact ForwardTable.not_kept_setUp (List.mem_singleton.mpr rfl) rfl
  · exact reaches_setUp (reaches_setUp .refl _) _
  · exact ForwardTable.not_kept_setUp (List.mem_singleton.mpr rfl) rfl

end Hdc
