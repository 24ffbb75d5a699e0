import Hdc.RustStd

/- The devices a host knows (`ConnectMap` in `hdc/src/server.rs`), and the three ways in
   which it picks one of them when the user has named none.

   A `HashMap` is iterated in no particular order, so a `ConnectMap` here is its entries in
   some order, and what holds of all of them holds of every order. `resolve_connect_key` and
   `get_default_connect_key` read the status of a device back out of the line that
   `get_list` renders for it; `contains_verboseLine` and `parts_verboseLine` say what they
   find there. `default_target_iff` compares all three with what the user expects: the one
   device that is connected, if there is exactly one. -/
namespace Hdc
open Rust

inductive ConnectType where
  | usb (device : String)
  | tcp
  | uart
  | bt
  | bridge
  | hostUsb (device : String)
  deriving DecidableEq, Repr

inductive ConnStatus where
  | ready
  | connected
  | offline
  | unauthorized
  deriving DecidableEq, Repr

structure DaemonInfo where
  sessionId : UInt32
  connType : ConnectType
  connStatus : ConnStatus
  devName : String
  deriving DecidableEq, Repr

/-- The entries, in the order an iteration gives them. -/
structure ConnectMap where
  entries : List (String × DaemonInfo)
  nodup : (entries.map Prod.fst).Nodup

namespace ConnectMap

def new : ConnectMap := ⟨[], List.nodup_nil⟩

/-- `HashMap::get`. -/
def get (m : ConnectMap) (connectKey : String) : Option DaemonInfo := m.entries.lookup connectKey

def remove (m : ConnectMap) (connectKey : String) : ConnectMap where
  entries := m.entries.filter fun e => e.1 ≠ connectKey
  nodup := m.nodup.sublist (List.filter_sublist.map _)

def put (m : ConnectMap) (connectKey : String) (info : DaemonInfo) : ConnectMap where
  entries := (connectKey, info) :: (m.remove connectKey).entries
  nodup := by
    rw [List.map_cons, List.nodup_cons]
    refine ⟨fun h => ?_, (m.remove connectKey).nodup⟩
    obtain ⟨e, he, hkey⟩ := List.mem_map.mp h
    simp only [remove, List.mem_filter, decide_eq_true_eq] at he
    exact he.2 hkey

def containsKey (m : ConnectMap) (connectKey : String) : Bool := (m.get connectKey).isSome

def updateStatus (m : ConnectMap) (connectKey : String) (status : ConnStatus) : ConnectMap where
  entries := m.entries.map fun e =>
    if e.1 = connectKey then (e.1, { e.2 with connStatus := status }) else e
  nodup := by
    have hkeys : (m.entries.map fun e =>
        if e.1 = connectKey then (e.1, { e.2 with connStatus := status }) else e).map Prod.fst =
        m.entries.map Prod.fst := by
      rw [List.map_map]
      refine List.map_congr_left fun e _ => ?_
      simp only [Function.comp_apply]
      split <;> rfl
    rw [hkeys]
    exact m.nodup

/-! Lookups. -/

theorem get_remove (m : ConnectMap) (key key' : String) :
    (m.remove key).get key' = if key' = key then none else m.get key' := by
  obtain ⟨entries, nodup⟩ := m
  simp only [get, remove]
  clear nodup
  induction entries with
  | nil => simp
  | cons e entries ih =>
    by_cases he : e.1 = key
    · rw [List.filter_cons_of_neg (by simp [he]), ih]
      split
      · rfl
      · rename_i hne
        rw [List.lookup_cons, beq_false_of_ne (by rw [he]; exact hne)]
    · rw [List.filter_cons_of_pos (by simp [he]), List.lookup_cons, List.lookup_cons, ih]
      cases hk : key' == e.1 with
      | false => rfl
      | true =>
        have hne : key' ≠ key := by rw [beq_iff_eq.mp hk]; exact he
        simp only [if_neg hne]

theorem get_put (m : ConnectMap) (key key' : String) (info : DaemonInfo) :
    (m.put key info).get key' = if key' = key then some info else m.get key' := by
  have hget : (m.put key info).get key' =
      if key' = key then some info else (m.remove key).get key' := by
    simp only [get, put, List.lookup_cons]
    by_cases h : key' = key
    · simp [h]
    · rw [beq_false_of_ne h, if_neg h]
  rw [hget, get_remove]
  split <;> rfl

theorem get_updateStatus (m : ConnectMap) (key key' : String) (status : ConnStatus) :
    (m.updateStatus key status).get key' =
      if key' = key then (m.get key').map fun info => { info with connStatus := status }
      else m.get key' := by
  obtain ⟨entries, nodup⟩ := m
  simp only [get, updateStatus]
  clear nodup
  induction entries with
  | nil => simp
  | cons e entries ih =>
    rw [List.map_cons]
    by_cases he : e.1 = key
    · rw [if_pos he, List.lookup_cons, List.lookup_cons, ih]
      cases hk : key' == e.1 with
      | false => rfl
      | true =>
        have heq : key' = key := by rw [beq_iff_eq.mp hk, he]
        simp only [if_pos heq, Option.map_some]
    · rw [if_neg he, List.lookup_cons, List.lookup_cons, ih]
      cases hk : key' == e.1 with
      | false => rfl
      | true =>
        have hne : key' ≠ key := by rw [beq_iff_eq.mp hk]; exact he
        simp only [if_neg hne]

end ConnectMap

def isConnected (e : String × DaemonInfo) : Bool := e.2.connStatus = .connected

def ConnectType.label : ConnectType → String
  | .tcp => "TCP"
  | .usb _ => "USB"
  | .uart => "UART"
  | .bt => "BT"
  | .hostUsb _ => "HOSTUSB"
  | .bridge => "BRIDGE"

def ConnStatus.label : ConnStatus → String
  | .ready => "Ready"
  | .connected => "Connected"
  | .offline => "Offline"
  | .unauthorized => "Unauthorized"

def DaemonInfo.shownName (info : DaemonInfo) : String :=
  if info.devName = "" then "unknown..." else info.devName

/-- The line of `list targets -v`. -/
def verboseLine (e : String × DaemonInfo) : String :=
  e.1 ++ "\t\t" ++ e.2.connType.label ++ "\t" ++ e.2.connStatus.label ++ "\t" ++ e.2.shownName

namespace ConnectMap

def getList (m : ConnectMap) (isFull : Bool) : List String :=
  if !isFull then (m.entries.filter isConnected).map Prod.fst
  else m.entries.map verboseLine

def getSessionId (m : ConnectMap) (connectKey : String) : Option UInt32 :=
  if connectKey = "any" then
    match m.entries.find? isConnected with
    | some e => some e.2.sessionId
    | none => if m.entries.length = 1 then m.entries.head?.map fun e => e.2.sessionId else none
  else (m.get connectKey).map DaemonInfo.sessionId

end ConnectMap

def resolveConnectKey (connectMap : ConnectMap) (connectKey : String) : IoResult String :=
  if connectKey = "any" then
    let connected := (connectMap.getList true).filter (contains · "Connected")
    match connected with
    | [] => .error ⟨.notFound, "No device connected"⟩
    | [first] => .ok ((split '\t' first).headD first)
    | _ => .error ⟨.notFound,
        "Multiple devices connected, please specify target with -t option:\n" ++
          String.intercalate "\n" connected⟩
  else .ok connectKey

def resolveSessionId (connectMap : ConnectMap) (connectKey : String) : IoResult UInt32 := do
  let actualKey ← resolveConnectKey connectMap connectKey
  match connectMap.getSessionId actualKey with
  | some sessionId => return sessionId
  | none => .error ⟨.notFound, s!"Device {actualKey} is not connected"⟩

/-- The key a line gives in the loop of `get_default_connect_key`. -/
def connectedPart (entry : String) : Option String :=
  let parts := (split '\t' entry).filter fun s => s ≠ ""
  if 3 ≤ parts.length ∧ parts.getD 2 "" = "Connected" then some (parts.getD 0 "") else none

def getDefaultConnectKey (connectMap : ConnectMap) : Option String :=
  match (connectMap.getList true).findSome? connectedPart with
  | some key => some key
  | none => (connectMap.getList false).head?

/-! What the rendered lines show. -/

/-- A pattern without the separator lies on one side of it. -/
theorem infix_append_cons {α : Type} {pat a b : List α} {c : α} (hc : c ∉ pat) :
    pat <:+: a ++ c :: b ↔ pat <:+: a ∨ pat <:+: b := by
  constructor
  · rintro ⟨s, t, h⟩
    rcases List.append_eq_append_iff.mp h with ⟨a', ha, -⟩ | ⟨b', hb, hcb⟩
    · exact .inl ⟨s, a', ha.symm⟩
    cases b' with
    | nil => exact .inl ⟨s, [], by simpa using hb⟩
    | cons d b' =>
      simp only [List.cons_append, List.cons.injEq] at hcb
      obtain ⟨rfl, rfl⟩ := hcb
      rcases List.append_eq_append_iff.mp hb with ⟨s', -, hpat⟩ | ⟨s', -, hpat⟩
      · exact absurd (by rw [hpat]; simp) hc
      · cases s' with
        | nil => exact absurd (by simp only [List.nil_append] at hpat; rw [← hpat]; simp) hc
        | cons d s' =>
          simp only [List.cons_append, List.cons.injEq] at hpat
          exact .inr ⟨s', t, by rw [hpat.2]⟩
  · rintro (⟨s, t, rfl⟩ | ⟨s, t, rfl⟩)
    · exact ⟨s, t ++ c :: b, by simp⟩
    · exact ⟨a ++ c :: s, t, by simp⟩

theorem contains_tab (s t : String) :
    contains (s ++ "\t" ++ t) "Connected" = (contains s "Connected" || contains t "Connected") := by
  rw [Bool.eq_iff_iff, Bool.or_eq_true, contains_iff, contains_iff, contains_iff]
  have htab : "\t".toList = ['\t'] := by decide
  rw [String.toList_append, String.toList_append, htab, List.append_assoc, List.singleton_append]
  exact infix_append_cons (by decide)

/-- A line mentions `Connected` when the device is, or when its key or name does. -/
theorem contains_verboseLine (e : String × DaemonInfo) :
    contains (verboseLine e) "Connected" =
      (contains e.1 "Connected" || isConnected e || contains e.2.devName "Connected") := by
  have htype : contains e.2.connType.label "Connected" = false := by
    cases e.2.connType <;> simp only [ConnectType.label] <;> decide
  have hstatus : contains e.2.connStatus.label "Connected" = isConnected e := by
    unfold isConnected
    cases e.2.connStatus <;> decide
  have hname : contains e.2.shownName "Connected" = contains e.2.devName "Connected" := by
    unfold DaemonInfo.shownName
    split
    · rename_i h
      rw [h]
      decide
    · rfl
  have htabs : "\t\t" = "\t" ++ "\t" := by decide
  have hempty : e.1 ++ "\t\t" ++ e.2.connType.label = e.1 ++ "\t" ++ "" ++ "\t" ++ e.2.connType.label := by
    simp [htabs, String.append_assoc]
  rw [verboseLine, hempty, contains_tab, contains_tab, contains_tab, contains_tab, htype, hstatus,
    hname]
  simp [show contains "" "Connected" = false by decide]

/-- A key that a line shows as it is. -/
def PlainKey (key : String) : Prop := key ≠ "" ∧ '\t' ∉ key.toList

instance (key : String) : Decidable (PlainKey key) := inferInstanceAs (Decidable (_ ∧ _))

theorem split_verboseLine {e : String × DaemonInfo} (h : PlainKey e.1) :
    split '\t' (verboseLine e) =
      e.1 :: "" :: e.2.connType.label :: e.2.connStatus.label :: split '\t' e.2.shownName := by
  have htab : "\t" = String.singleton '\t' := by decide
  have htabs : "\t\t" = String.singleton '\t' ++ ("" ++ String.singleton '\t') := by decide
  have hline : verboseLine e = e.1 ++ String.singleton '\t' ++ ("" ++ String.singleton '\t' ++
      (e.2.connType.label ++ String.singleton '\t' ++
        (e.2.connStatus.label ++ String.singleton '\t' ++ e.2.shownName))) := by
    simp only [verboseLine, htab, htabs, String.append_assoc]
  have htype : '\t' ∉ e.2.connType.label.toList := by
    cases e.2.connType <;> simp only [ConnectType.label] <;> decide
  have hstatus : '\t' ∉ e.2.connStatus.label.toList := by
    cases e.2.connStatus <;> decide
  rw [hline, split_append h.2, split_append (by decide), split_append htype, split_append hstatus]

/-- The third part of a line is the status. -/
theorem connectedPart_verboseLine {e : String × DaemonInfo} (h : PlainKey e.1) :
    connectedPart (verboseLine e) = if isConnected e then some e.1 else none := by
  have htype : e.2.connType.label ≠ "" := by
    cases e.2.connType <;> simp only [ConnectType.label] <;> decide
  have hstatus : e.2.connStatus.label ≠ "" := by
    cases e.2.connStatus <;> decide
  have hlabel : e.2.connStatus.label = "Connected" ↔ isConnected e = true := by
    unfold isConnected
    cases e.2.connStatus <;> decide
  have hparts : (split '\t' (verboseLine e)).filter (fun s => s ≠ "") =
      e.1 :: e.2.connType.label :: e.2.connStatus.label ::
        (split '\t' e.2.shownName).filter fun s => s ≠ "" := by
    rw [split_verboseLine h]
    simp [h.1, htype, hstatus]
  have hlen : 3 ≤ ((split '\t' e.2.shownName).filter fun s => s ≠ "").length + 1 + 1 + 1 := by omega
  simp only [connectedPart, hparts, List.getD_cons_succ, List.getD_cons_zero, List.length_cons,
    hlabel, hlen, true_and]

/-! The three choices. -/

namespace ConnectMap

/-- The devices that are connected. -/
def connected (m : ConnectMap) : List (String × DaemonInfo) := m.entries.filter isConnected

/-- The devices whose line mentions `Connected`. -/
def mentioned (m : ConnectMap) : List (String × DaemonInfo) :=
  m.entries.filter fun e => contains (verboseLine e) "Connected"

/-- The device that is meant when none is named: the connected one, if it is the only one. -/
def target (m : ConnectMap) : Option (String × DaemonInfo) :=
  match m.connected with
  | [e] => some e
  | _ => none

theorem connected_sublist (m : ConnectMap) : m.connected.Sublist m.mentioned := by
  refine List.monotone_filter_right _ fun e he => ?_
  rw [contains_verboseLine, he]
  simp

theorem getSessionId_any (m : ConnectMap) :
    m.getSessionId "any" =
      match m.connected.head? with
      | some e => some e.2.sessionId
      | none => if m.entries.length = 1 then m.entries.head?.map fun e => e.2.sessionId else none := by
  rw [getSessionId, if_pos rfl, connected, List.head?_filter]

end ConnectMap

/-- The loop over the lines finds the first connected device. -/
theorem findSome?_connectedPart {entries : List (String × DaemonInfo)}
    (hplain : ∀ e ∈ entries, PlainKey e.1) :
    (entries.map verboseLine).findSome? connectedPart =
      (entries.filter isConnected).head?.map Prod.fst := by
  induction entries with
  | nil => rfl
  | cons e entries ih =>
    rw [List.map_cons, List.findSome?_cons, connectedPart_verboseLine (hplain e List.mem_cons_self)]
    cases he : isConnected e with
    | true => simp [he]
    | false =>
      rw [List.filter_cons_of_neg (by simp [he])]
      exact ih fun e' he' => hplain e' (List.mem_cons_of_mem e he')

theorem getDefaultConnectKey_eq {m : ConnectMap} (hplain : ∀ e ∈ m.entries, PlainKey e.1) :
    getDefaultConnectKey m = m.connected.head?.map Prod.fst := by
  have hkeys : (m.getList false).head? = m.connected.head?.map Prod.fst := by
    simp [ConnectMap.getList, ConnectMap.connected]
  have hlines : (m.getList true).findSome? connectedPart = m.connected.head?.map Prod.fst :=
    findSome?_connectedPart hplain
  rw [getDefaultConnectKey, hlines, hkeys]
  cases m.connected.head?.map Prod.fst <;> rfl

theorem resolveConnectKey_any {m : ConnectMap} (hplain : ∀ e ∈ m.entries, PlainKey e.1) :
    (resolveConnectKey m "any").toOption =
      match m.mentioned with
      | [e] => some e.1
      | _ => none := by
  have hlines : (m.getList true).filter (contains · "Connected") = m.mentioned.map verboseLine := by
    simp [ConnectMap.getList, ConnectMap.mentioned, List.filter_map, Function.comp_def]
  simp only [resolveConnectKey, if_pos, hlines]
  cases hm : m.mentioned with
  | nil => rfl
  | cons e rest =>
    cases rest with
    | nil =>
      have he : e ∈ m.entries := List.mem_of_mem_filter (by
        change e ∈ m.mentioned
        rw [hm]
        exact List.mem_singleton_self e)
      simp [split_verboseLine (hplain e he), Except.toOption]
    | cons e' rest => rfl

/-- Every path picks the target, and none picks anything where there is no target. -/
structure UnambiguousDefault (m : ConnectMap) : Prop where
  resolve : (resolveConnectKey m "any").toOption = m.target.map Prod.fst
  sessionId : m.getSessionId "any" = m.target.map fun e => e.2.sessionId
  default : getDefaultConnectKey m = m.target.map Prod.fst

section
variable {m : ConnectMap} (hplain : ∀ e ∈ m.entries, PlainKey e.1)
include hplain

theorem unambiguous_of_none (hc : m.connected = []) :
    UnambiguousDefault m ↔ m.entries.length ≠ 1 ∧ m.mentioned.length ≠ 1 := by
  have htarget : m.target = none := by rw [ConnectMap.target, hc]
  constructor
  · intro h
    have hresolve := (resolveConnectKey_any hplain).symm.trans h.resolve
    have hsession := m.getSessionId_any.symm.trans h.sessionId
    rw [htarget, hc] at *
    constructor
    · intro hlen
      obtain ⟨e, he⟩ := List.length_eq_one_iff.mp hlen
      simp [he] at hsession
    · intro hlen
      obtain ⟨e, he⟩ := List.length_eq_one_iff.mp hlen
      simp [he] at hresolve
  · rintro ⟨hlen, hmen⟩
    refine ⟨?_, ?_, ?_⟩
    · rw [resolveConnectKey_any hplain, htarget]
      split
      · rename_i he
        exact absurd (by rw [he]; rfl) hmen
      · rfl
    · rw [m.getSessionId_any, htarget, hc]
      simp [hlen]
    · rw [getDefaultConnectKey_eq hplain, htarget, hc]
      rfl

theorem unambiguous_of_sole {e : String × DaemonInfo} (hc : m.connected = [e]) :
    UnambiguousDefault m ↔ m.mentioned.length = 1 := by
  have htarget : m.target = some e := by rw [ConnectMap.target, hc]
  have hsub := m.connected_sublist
  constructor
  · intro h
    have hresolve := (resolveConnectKey_any hplain).symm.trans h.resolve
    rw [htarget] at hresolve
    split at hresolve
    · rename_i he
      rw [he]
      rfl
    · cases hresolve
  · intro hlen
    obtain ⟨e', he'⟩ := List.length_eq_one_iff.mp hlen
    rw [hc, he', List.singleton_sublist, List.mem_singleton] at hsub
    refine ⟨?_, ?_, ?_⟩
    · rw [resolveConnectKey_any hplain, htarget, he', hsub]
      rfl
    · rw [m.getSessionId_any, htarget, hc]
      rfl
    · rw [getDefaultConnectKey_eq hplain, htarget, hc]
      rfl

end

/-- With two connected devices `get_session_id` takes one of them. -/
theorem not_unambiguous_of_two {m : ConnectMap} {e e' : String × DaemonInfo}
    {rest : List (String × DaemonInfo)} (hc : m.connected = e :: e' :: rest) :
    ¬ UnambiguousDefault m := by
  intro h
  have hsession := m.getSessionId_any.symm.trans h.sessionId
  rw [ConnectMap.target, hc] at hsession
  cases hsession

/-- A device found on the network and a connected one. -/
def readyAndConnected : ConnectMap where
  entries := [("127.0.0.1:5555", ⟨0, .tcp, .ready, ""⟩),
    ("150100384754463452", ⟨9, .usb "1-2", .connected, "phone"⟩)]
  nodup := by decide

/-- Two connected devices, in one order of iteration and in the other. -/
def twoConnected (swapped : Bool) : ConnectMap where
  entries :=
    let a := ("A", ⟨1, .usb "1-1", .connected, ""⟩)
    let b := ("B", ⟨2, .usb "1-2", .connected, ""⟩)
    if swapped then [b, a] else [a, b]
  nodup := by cases swapped <;> decide

end Hdc
