import Hdc.FileDaemon
import Hdc.RustStd
import Mathlib.Data.List.Nodup

/- The forwards a host has registered (`ForwardMap` in `hdc/src/server.rs`) and their removal
   (`remove_forward_entry`).

   As with `ConnectMap`, a `ForwardMap` is its entries in the order an iteration gives them.
   Both commands register an entry under its own task string, so that is its key.
   `removeForwardEntry_perm` says that what is removed and what is left make up the map: every
   entry is closed once, or kept. -/
namespace Hdc
open Rust

inductive ForwardDirection where
  | forward
  | reverse
  deriving DecidableEq, Repr

structure ForwardEntry where
  channelId : UInt32
  sessionId : UInt32
  connectKey : String
  direction : ForwardDirection
  taskString : String
  /-- Whether there is a listener to be aborted. -/
  abortHandle : Bool
  deriving DecidableEq, Repr

structure ForwardMap where
  entries : List ForwardEntry
  nodup : (entries.map ForwardEntry.taskString).Nodup

namespace ForwardMap

def new : ForwardMap := ⟨[], List.nodup_nil⟩

def get (m : ForwardMap) (key : String) : Option ForwardEntry :=
  m.entries.find? (·.taskString == key)

def remove (m : ForwardMap) (key : String) : ForwardMap where
  entries := m.entries.filter (·.taskString != key)
  nodup := m.nodup.sublist (List.filter_sublist.map _)

def insert (m : ForwardMap) (entry : ForwardEntry) : ForwardMap where
  entries := entry :: (m.remove entry.taskString).entries
  nodup := by
    rw [List.map_cons, List.nodup_cons]
    refine ⟨fun h => ?_, (m.remove entry.taskString).nodup⟩
    obtain ⟨e, he, hkey⟩ := List.mem_map.mp h
    simp only [remove, List.mem_filter, bne_iff_ne] at he
    exact he.2 hkey

/-- The same map in another order. -/
def reorder (m : ForwardMap) (entries : List ForwardEntry) : Option ForwardMap :=
  if h : entries.Perm m.entries then some ⟨entries, (h.map _).nodup_iff.mpr m.nodup⟩ else none

/-- The loop over the keys that were collected. -/
def removeAll (m : ForwardMap) : List String → ForwardMap × List ForwardEntry
  | [] => (m, [])
  | key :: keys =>
    match m.get key with
    | some entry =>
      let (rest, removed) := (m.remove key).removeAll keys
      (rest, entry :: removed)
    | none => m.removeAll keys

end ForwardMap

def ForwardEntry.matchesFilter (entry : ForwardEntry) (connectKeyFilter : String) : Bool :=
  connectKeyFilter == "" || connectKeyFilter == "any" || entry.connectKey == connectKeyFilter

/-- The key named by `spec`: itself, or one that it is a part of. -/
def ForwardMap.foundKey (m : ForwardMap) (connectKeyFilter spec : String) : Option String :=
  if (m.get spec).isSome then some spec
  else
    let found := m.entries.find? fun entry =>
      (entry.taskString == spec || endsWith entry.taskString (" " ++ spec) ||
        startsWith entry.taskString (spec ++ " ")) && entry.matchesFilter connectKeyFilter
    found.map ForwardEntry.taskString

/-- `remove_forward_entry`: the map, the entries removed, whose listeners are aborted and whose
channels are closed in this order, and the text for the client. -/
def removeForwardEntry (m : ForwardMap) (connectKeyFilter spec : String) :
    ForwardMap × List ForwardEntry × IoResult String :=
  let missing : IoResult String :=
    .error ⟨.notFound, "Remove forward ruler failed, ruler is not exist " ++ spec⟩
  if spec = "" then
    let keys := (m.entries.filter (·.matchesFilter connectKeyFilter)).map ForwardEntry.taskString
    let (rest, removed) := m.removeAll keys
    (rest, removed,
      .ok ("Remove forward ruler success, removed " ++ toString removed.length ++ " rulers"))
  else
    match m.foundKey connectKeyFilter spec with
    | some key =>
      match m.get key with
      | some entry => (m.remove key, [entry], .ok ("Remove forward ruler success, ruler:" ++ key))
      | none => (m, [], missing)
    | none => (m, [], missing)

/-! What is removed. -/

namespace ForwardMap

theorem filter_key_of_not_mem {key : String} : ∀ {entries : List ForwardEntry},
    key ∉ entries.map ForwardEntry.taskString → entries.filter (·.taskString != key) = entries := by
  intro entries h
  rw [List.filter_eq_self]
  intro e he
  rw [bne_iff_ne]
  rintro rfl
  exact h (List.mem_map_of_mem he)

theorem remove_perm {m : ForwardMap} {key : String} {entry : ForwardEntry} (h : m.get key = some entry) :
    (entry :: (m.remove key).entries).Perm m.entries := by
  obtain ⟨entries, nodup⟩ := m
  simp only [get, remove] at h ⊢
  induction entries with
  | nil => cases h
  | cons e entries ih =>
    rw [List.map_cons, List.nodup_cons] at nodup
    by_cases hkey : e.taskString = key
    · subst hkey
      rw [List.find?_cons_of_pos (by simp)] at h
      cases h
      rw [List.filter_cons_of_neg (by simp), filter_key_of_not_mem nodup.1]
    · rw [List.find?_cons_of_neg (by simpa using hkey)] at h
      rw [List.filter_cons_of_pos (by simpa using hkey)]
      exact (List.Perm.swap _ _ _).trans ((ih nodup.2 h).cons e)

theorem removeAll_perm (keys : List String) (m : ForwardMap) :
    ((m.removeAll keys).2 ++ (m.removeAll keys).1.entries).Perm m.entries := by
  induction keys generalizing m with
  | nil => exact .refl _
  | cons key keys ih =>
    rw [removeAll]
    split
    · rename_i entry h
      exact ((ih (m.remove key)).cons entry).trans (remove_perm h)
    · exact ih m

end ForwardMap

theorem removeForwardEntry_perm (m : ForwardMap) (connectKeyFilter spec : String) :
    ((removeForwardEntry m connectKeyFilter spec).2.1 ++
      (removeForwardEntry m connectKeyFilter spec).1.entries).Perm m.entries := by
  unfold removeForwardEntry
  by_cases hspec : spec = ""
  · simp only [hspec, if_true]
    exact m.removeAll_perm _
  · simp only [hspec, if_false]
    split
    · split
      · rename_i entry h
        exact ForwardMap.remove_perm h
      · exact .refl _
    · exact .refl _

/-- The loop over the keys takes out the entries that have them. -/
theorem ForwardMap.mem_removeAll {entry : ForwardEntry} (keys : List String) (m : ForwardMap) :
    entry ∈ (m.removeAll keys).1.entries ↔ entry ∈ m.entries ∧ entry.taskString ∉ keys := by
  induction keys generalizing m with
  | nil => simp [removeAll]
  | cons key keys ih =>
    rw [removeAll, List.mem_cons, not_or]
    split
    · rw [ih (m.remove key), remove, List.mem_filter, bne_iff_ne, and_assoc]
    · rename_i hget
      rw [ih m]
      have hkey : entry ∈ m.entries → entry.taskString ≠ key := by
        intro hmem heq
        rw [get, List.find?_eq_none] at hget
        exact hget entry hmem (by simpa using heq)
      exact ⟨fun h => ⟨h.1, hkey h.1, h.2⟩, fun h => ⟨h.1, h.2.2⟩⟩

/-- Without a spec, all the entries of the device are removed and no others. -/
theorem mem_removeForwardEntry_all {m : ForwardMap} {connectKeyFilter : String}
    {entry : ForwardEntry} : entry ∈ (removeForwardEntry m connectKeyFilter "").1.entries ↔
      entry ∈ m.entries ∧ entry.matchesFilter connectKeyFilter = false := by
  simp only [removeForwardEntry, if_true, ForwardMap.mem_removeAll, List.mem_map, List.mem_filter,
    not_exists, not_and, and_imp]
  refine and_congr_right fun hmem => ?_
  constructor
  · intro hnot
    by_contra hmatch
    exact hnot entry hmem (by simpa using hmatch) rfl
  · intro hmatch other hother hmatches hkey
    have hsame : other = entry := List.inj_on_of_nodup_map m.nodup hother hmem hkey
    rw [hsame, hmatch] at hmatches
    cases hmatches

/-- Registering an entry may replace another. -/
theorem ForwardMap.countP_insert_le (m : ForwardMap) (entry : ForwardEntry) (p : ForwardEntry → Bool) :
    (m.insert entry).entries.countP p ≤ m.entries.countP p + if p entry then 1 else 0 := by
  have hle : (m.remove entry.taskString).entries.countP p ≤ m.entries.countP p :=
    List.filter_sublist.countP_le
  rw [ForwardMap.insert, List.countP_cons]
  exact Nat.add_le_add_right hle _

/-! What a removal with a spec is asked for, and when it keeps to it. -/

/-- The key is the spec, or the spec is its first or its last part. -/
def ForwardEntry.matchesSpec (entry : ForwardEntry) (spec : String) : Bool :=
  entry.taskString == spec || startsWith entry.taskString (spec ++ " ") ||
    endsWith entry.taskString (" " ++ spec)

/-- The entry is named by the spec and belongs to the device, if the filter names one. -/
def ForwardEntry.Asked (entry : ForwardEntry) (connectKeyFilter spec : String) : Prop :=
  entry.matchesSpec spec = true ∧
    (connectKeyFilter ≠ "" → connectKeyFilter ≠ "any" → entry.connectKey = connectKeyFilter)

/-- The close messages of a removal, each with the session it is sent to. -/
def closeMessages (removed : List ForwardEntry) : List (UInt32 × TaskMessage) :=
  removed.map fun entry => (entry.sessionId, channelClose entry.channelId)

/-- A removal that touches only what was asked for. -/
structure TouchesAsked (m : ForwardMap) (connectKeyFilter spec : String) : Prop where
  atMostOne : (removeForwardEntry m connectKeyFilter spec).2.1.length ≤ 1
  asked : ∀ entry ∈ (removeForwardEntry m connectKeyFilter spec).2.1,
    entry ∈ m.entries ∧ entry.Asked connectKeyFilter spec
  others : ∀ entry, entry ∈ (removeForwardEntry m connectKeyFilter spec).1.entries ↔
    entry ∈ m.entries ∧ entry ∉ (removeForwardEntry m connectKeyFilter spec).2.1
  closes : ∀ close ∈ closeMessages (removeForwardEntry m connectKeyFilter spec).2.1,
    ∃ entry ∈ m.entries, entry ∉ (removeForwardEntry m connectKeyFilter spec).1.entries ∧
      close.1 = entry.sessionId ∧ close.2 = channelClose entry.channelId
  fails : ((∃ e, (removeForwardEntry m connectKeyFilter spec).2.2 = .error e) ∧
      (removeForwardEntry m connectKeyFilter spec).1 = m) ↔
    ∀ entry ∈ m.entries, ¬ entry.Asked connectKeyFilter spec

theorem ForwardEntry.matchesFilter_iff {entry : ForwardEntry} {connectKeyFilter : String} :
    entry.matchesFilter connectKeyFilter = true ↔
      (connectKeyFilter ≠ "" → connectKeyFilter ≠ "any" → entry.connectKey = connectKeyFilter) := by
  simp only [matchesFilter, Bool.or_eq_true, beq_iff_eq]
  tauto

namespace ForwardMap

theorem get_some_iff {m : ForwardMap} {key : String} {entry : ForwardEntry} :
    m.get key = some entry ↔ entry ∈ m.entries ∧ entry.taskString = key := by
  constructor
  · intro h
    exact ⟨List.mem_of_find?_eq_some h, by simpa using List.find?_some h⟩
  · rintro ⟨hmem, rfl⟩
    cases hget : m.get entry.taskString with
    | none =>
      rw [get, List.find?_eq_none] at hget
      exact absurd (beq_self_eq_true _) (hget entry hmem)
    | some other =>
      have hkey : other.taskString = entry.taskString := by simpa using List.find?_some hget
      rw [List.inj_on_of_nodup_map m.nodup (List.mem_of_find?_eq_some hget) hmem hkey]

/-- Removing a key leaves the entries other than its own. -/
theorem mem_remove_get {m : ForwardMap} {key : String} {entry other : ForwardEntry}
    (h : m.get key = some entry) :
    other ∈ (m.remove key).entries ↔ other ∈ m.entries ∧ other ∉ [entry] := by
  obtain ⟨hmem, rfl⟩ := get_some_iff.mp h
  rw [remove, List.mem_filter, bne_iff_ne, List.mem_singleton]
  refine and_congr_right fun hother => not_congr ?_
  exact ⟨List.inj_on_of_nodup_map m.nodup hother hmem, fun heq => by rw [heq]⟩

/-- With no entry under the spec itself, the one found is any that is asked for. -/
theorem foundKey_none_iff {m : ForwardMap} {connectKeyFilter spec : String}
    (hget : m.get spec = none) :
    m.foundKey connectKeyFilter spec = none ↔
      ∀ entry ∈ m.entries, ¬ entry.Asked connectKeyFilter spec := by
  rw [foundKey, hget]
  simp only [Option.isSome_none, Bool.false_eq_true, if_false, Option.map_eq_none_iff,
    List.find?_eq_none, ForwardEntry.Asked, ForwardEntry.matchesSpec,
    ← ForwardEntry.matchesFilter_iff, Bool.and_eq_true, Bool.or_right_comm]

theorem foundKey_some {m : ForwardMap} {connectKeyFilter spec key : String}
    (hget : m.get spec = none) (h : m.foundKey connectKeyFilter spec = some key) :
    ∃ entry, m.get key = some entry ∧ entry.Asked connectKeyFilter spec := by
  rw [foundKey, hget] at h
  simp only [Option.isSome_none, Bool.false_eq_true, if_false, Option.map_eq_some_iff] at h
  obtain ⟨entry, hfind, rfl⟩ := h
  have hmatch := List.find?_some hfind
  refine ⟨entry, get_some_iff.mpr ⟨List.mem_of_find?_eq_some hfind, rfl⟩, ?_⟩
  simpa only [ForwardEntry.Asked, ForwardEntry.matchesSpec, ← ForwardEntry.matchesFilter_iff,
    Bool.and_eq_true, Bool.or_right_comm] using hmatch

end ForwardMap

theorem ForwardEntry.matchesSpec_self (entry : ForwardEntry) :
    entry.matchesSpec entry.taskString = true := by
  simp [matchesSpec]

/-- A removal that found nothing. -/
theorem TouchesAsked.of_none {m : ForwardMap} {connectKeyFilter spec : String} {e : IoError}
    (hresult : removeForwardEntry m connectKeyFilter spec = (m, [], .error e))
    (hnone : ∀ entry ∈ m.entries, ¬ entry.Asked connectKeyFilter spec) :
    TouchesAsked m connectKeyFilter spec := by
  constructor
  all_goals rw [hresult]
  · exact Nat.zero_le 1
  · intro entry hmem
    cases hmem
  · intro entry
    simp
  · intro close hmem
    cases hmem
  · exact ⟨fun _ => hnone, fun _ => ⟨⟨e, rfl⟩, rfl⟩⟩

/-- A removal that found an entry it was asked for. -/
theorem TouchesAsked.of_found {m : ForwardMap} {connectKeyFilter spec key text : String}
    {entry : ForwardEntry} (hget : m.get key = some entry)
    (hresult : removeForwardEntry m connectKeyFilter spec = (m.remove key, [entry], .ok text))
    (hasked : entry.Asked connectKeyFilter spec) : TouchesAsked m connectKeyFilter spec := by
  have hmem : entry ∈ m.entries := (ForwardMap.get_some_iff.mp hget).1
  constructor
  all_goals rw [hresult]
  · exact Nat.le_refl 1
  · intro other hother
    rw [List.mem_singleton.mp hother]
    exact ⟨hmem, hasked⟩
  · intro other
    exact ForwardMap.mem_remove_get hget
  · intro close hclose
    rw [closeMessages, List.map_singleton, List.mem_singleton] at hclose
    refine ⟨entry, hmem, ?_, by rw [hclose], by rw [hclose]⟩
    rw [ForwardMap.mem_remove_get hget]
    exact fun h => h.2 (List.mem_singleton_self entry)
  · refine ⟨fun h => ?_, fun h => absurd hasked (h entry hmem)⟩
    obtain ⟨⟨e, he⟩, -⟩ := h
    cases he

/-- A removal touches only what it is asked for unless the spec is the whole key of an entry of
another device: such an entry is taken without a look at the filter. -/
theorem removal_touches_asked_iff (m : ForwardMap) (connectKeyFilter spec : String)
    (hspec : spec ≠ "") :
    TouchesAsked m connectKeyFilter spec ↔
      ∀ entry, m.get spec = some entry → entry.matchesFilter connectKeyFilter = true := by
  cases hget : m.get spec with
  | some entry =>
    have hkey := (ForwardMap.get_some_iff.mp hget).2
    have hresult : removeForwardEntry m connectKeyFilter spec =
        (m.remove spec, [entry], .ok ("Remove forward ruler success, ruler:" ++ spec)) := by
      simp [removeForwardEntry, hspec, ForwardMap.foundKey, hget]
    constructor
    · rintro htouches other ⟨⟩
      have hremoved : entry ∈ (removeForwardEntry m connectKeyFilter spec).2.1 := by
        rw [hresult]
        exact List.mem_singleton_self entry
      exact ForwardEntry.matchesFilter_iff.mpr (htouches.asked entry hremoved).2.2
    · intro hfilter
      have hmatches : entry.matchesSpec spec = true := hkey ▸ entry.matchesSpec_self
      exact .of_found hget hresult
        ⟨hmatches, ForwardEntry.matchesFilter_iff.mp (hfilter entry rfl)⟩
  | none =>
    refine iff_of_true ?_ (fun entry h => absurd h (by simp))
    cases hfound : m.foundKey connectKeyFilter spec with
    | none =>
      have hresult : removeForwardEntry m connectKeyFilter spec = (m, [],
          .error ⟨.notFound, "Remove forward ruler failed, ruler is not exist " ++ spec⟩) := by
        simp [removeForwardEntry, hspec, hfound]
      exact .of_none hresult ((ForwardMap.foundKey_none_iff hget).mp hfound)
    | some key =>
      obtain ⟨entry, hentry, hasked⟩ := ForwardMap.foundKey_some hget hfound
      have hresult : removeForwardEntry m connectKeyFilter spec =
          (m.remove key, [entry], .ok ("Remove forward ruler success, ruler:" ++ key)) := by
        simp [removeForwardEntry, hspec, hfound, hentry]
      exact .of_found hentry hresult hasked

/-- A forward of each of two devices. -/
def twoForwards : ForwardMap where
  entries := [⟨7, 1, "SN1", .forward, "tcp:19090 tcp:8080", true⟩,
    ⟨9, 2, "SN2", .reverse, "tcp:19091 tcp:8080", false⟩]
  nodup := by decide

/-- A part of both keys takes the entry of the device that asks. -/
theorem removal_touches_asked_part :
    "tcp:8080" ≠ "" ∧ TouchesAsked twoForwards "SN2" "tcp:8080" := by
  have hget : twoForwards.get "tcp:8080" = none := by decide
  refine ⟨by decide, (removal_touches_asked_iff twoForwards "SN2" "tcp:8080" (by decide)).mpr ?_⟩
  intro entry hentry
  rw [hget] at hentry
  cases hentry

/-- The device `SN2` asks for a whole key of `SN1`, and the forward of `SN1` is removed. -/
theorem removal_takes_other_device :
    "tcp:19090 tcp:8080" ≠ "" ∧ ¬ TouchesAsked twoForwards "SN2" "tcp:19090 tcp:8080" ∧
      (removeForwardEntry twoForwards "SN2" "tcp:19090 tcp:8080").2.1 =
        [⟨7, 1, "SN1", .forward, "tcp:19090 tcp:8080", true⟩] := by
  refine ⟨by decide, fun htouches => ?_, by decide⟩
  have hasked := htouches.asked ⟨7, 1, "SN1", .forward, "tcp:19090 tcp:8080", true⟩ (by decide)
  exact absurd (hasked.2.2 (by decide) (by decide)) (by decide)

end Hdc
