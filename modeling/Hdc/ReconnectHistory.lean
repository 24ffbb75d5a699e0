import Hdc.UsbMonitor
import Mathlib.Algebra.Group.Nat.Defs
import Mathlib.Data.List.Induction

/- The numbers of the reconnect backoff (`record_session_outcome` and the reset on arrival in
   `process_usb_device_changes`, `hdc/src/server.rs`).

   The entry of a serial is made by the first failure, counted up by each further one, and dropped
   by a session that has ended and by an arrival. `backoff_arithmetic` is about every history of
   such events: the counter is the length of the last streak of failures, and the delay its power
   of two up to half a minute. `UsbMonitor.reconnect_eq_after` says that the entries of the monitor
   are those of the histories its runs make. -/
namespace Hdc
open Rust Lts

/-- What changes the entry of a serial. -/
inductive ReconnectEvent where
  | arrived
  | returned (now : Nat) (outcome : SessionOutcome)
  deriving DecidableEq, Repr

def ReconnectEvent.apply (st : Option ReconnectState) : ReconnectEvent → Option ReconnectState
  | .arrived => none
  | .returned now outcome => recordSessionOutcome st now outcome

/-- The entry after a history. -/
def reconnectAfter (history : List ReconnectEvent) : Option ReconnectState :=
  history.foldl ReconnectEvent.apply none

def failuresOf : Option ReconnectState → Nat
  | none => 0
  | some st => st.failures.toNat

def ReconnectEvent.isFailure : ReconnectEvent → Bool
  | .returned _ (.failed _) => true
  | _ => false

/-- The failures since the last event that is none. -/
def streak (history : List ReconnectEvent) : Nat :=
  (history.reverse.takeWhile ReconnectEvent.isFailure).length

/-! Streaks. -/

theorem streak_concat (history : List ReconnectEvent) (e : ReconnectEvent) :
    streak (history ++ [e]) = if e.isFailure then streak history + 1 else 0 := by
  rw [streak, List.reverse_concat, List.takeWhile_cons]
  split
  · rw [List.length_cons, streak]
  · rfl

theorem streak_le_length (history : List ReconnectEvent) : streak history ≤ history.length := by
  have h := (List.takeWhile_sublist (p := ReconnectEvent.isFailure) (l := history.reverse)).length_le
  rwa [List.length_reverse] at h

/-- Failures go on with the streak. -/
theorem streak_append {later : List ReconnectEvent} (hlater : ∀ e ∈ later, e.isFailure = true)
    (earlier : List ReconnectEvent) : streak (earlier ++ later) = streak earlier + later.length := by
  rw [streak, List.reverse_append, List.takeWhile_append_of_pos, List.length_append,
    List.length_reverse, Nat.add_comm, streak]
  intro e he
  exact hlater e (List.mem_reverse.mp he)

/-! The counter. -/

theorem reconnectAfter_concat (history : List ReconnectEvent) (e : ReconnectEvent) :
    reconnectAfter (history ++ [e]) = e.apply (reconnectAfter history) := by
  rw [reconnectAfter, List.foldl_append, List.foldl_cons, List.foldl_nil, reconnectAfter]

theorem failures_fail {st : Option ReconnectState} {n : Nat} (hst : failuresOf st = n)
    (hn : n + 1 < 2^32) (err : String) (now : Nat) :
    (ReconnectState.fail st err now).failures.toNat = n + 1 := by
  cases st with
  | none =>
    cases hst
    rfl
  | some st =>
    have hst : st.failures.toNat = n := hst
    show (st.failures + 1).toNat = n + 1
    rw [UInt32.toNat_add, hst]
    exact Nat.mod_eq_of_lt hn

theorem failuresOf_reconnectAfter {history : List ReconnectEvent} (hlen : history.length < 2^32) :
    failuresOf (reconnectAfter history) = streak history := by
  induction history using List.reverseRecOn with
  | nil => rfl
  | append_singleton history e ih =>
    rw [List.length_append, List.length_singleton] at hlen
    have ih := ih (Nat.lt_of_succ_lt hlen)
    rw [reconnectAfter_concat, streak_concat]
    cases e with
    | arrived => rfl
    | returned now outcome =>
      cases outcome with
      | ended clean reason => rfl
      | failed err =>
        have hle := streak_le_length history
        exact failures_fail ih (by omega) err now

/-! The delay. -/

theorem toNat_backoffShift {failures : UInt32} (hpos : 1 ≤ failures.toNat) :
    (min (failures - 1) 5).toNat = min (failures.toNat - 1) 5 := by
  have hsub : (failures - 1).toNat = failures.toNat - 1 :=
    UInt32.toNat_sub_of_le failures 1 hpos
  rw [UInt32.min_def]
  split
  · rename_i hle
    have hle := UInt32.le_iff_toNat_le.mp hle
    rw [hsub] at hle ⊢
    exact (Nat.min_eq_left hle).symm
  · rename_i hle
    have hlt := Nat.lt_of_not_le (mt UInt32.le_iff_toNat_le.mpr hle)
    rw [hsub] at hlt
    exact (Nat.min_eq_right (Nat.le_of_lt hlt)).symm

/-- The shift is by less than the width of the number, and no bit leaves it. -/
theorem toNat_backoffBase {shift : UInt32} (h : shift.toNat ≤ 5) :
    (reconnectBackoffBaseSecs <<< shift.toUInt64).toNat = 2^shift.toNat := by
  have hpow : 2^shift.toNat ≤ 2^5 := Nat.pow_le_pow_right (by decide) h
  rw [UInt64.toNat_shiftLeft, UInt32.toNat_toUInt64, Nat.mod_eq_of_lt (by omega : shift.toNat < 64),
    reconnectBackoffBaseSecs, UInt64.toNat_one, Nat.one_shiftLeft]
  exact Nat.mod_eq_of_lt (Nat.lt_of_le_of_lt hpow (by decide))

/-- From five failures on the maximum is below either power. -/
theorem min_pow_min (k : Nat) : min (2^(min k 5)) 30 = min (2^k) 30 := by
  rcases Nat.le_total k 5 with hk | hk
  · rw [Nat.min_eq_left hk]
  · have hpow : 2^5 ≤ 2^k := Nat.pow_le_pow_right (by decide) hk
    rw [Nat.min_eq_right hk, Nat.min_eq_right (by decide), Nat.min_eq_right (by omega)]

theorem toNat_backoffSecs {failures : UInt32} (hpos : 1 ≤ failures.toNat) :
    (backoffSecs failures).toNat = min (2^(failures.toNat - 1)) 30 := by
  have hshift := toNat_backoffShift hpos
  have hbase := toNat_backoffBase (hshift ▸ Nat.min_le_right (failures.toNat - 1) 5)
  rw [hshift] at hbase
  rw [← min_pow_min, ← hbase, backoffSecs, UInt64.min_def, Nat.min_def]
  exact apply_ite UInt64.toNat _ _ _

/-! Histories. -/

/-- The operations on fixed widths that record a failure at `now` stay exact: the counter goes up
and the one taken off it again is there, the shift is by less than the 64 bits of the base and
leaves them all in place, and the new instant is one if thirty seconds more than `now` are. -/
structure NoOverflow (st : Option ReconnectState) (now : Nat) (new : ReconnectState) : Prop where
  add : new.failures.toNat = failuresOf st + 1
  sub : (new.failures - 1).toNat = new.failures.toNat - 1
  shift : (min (new.failures - 1) 5).toNat < 64
  base : (reconnectBackoffBaseSecs <<< (min (new.failures - 1) 5).toUInt64).toNat =
    reconnectBackoffBaseSecs.toNat * 2^(min (new.failures - 1) 5).toNat
  instant : ∀ limit, now + 30 * 1000000000 < limit → new.nextAttempt < limit

theorem nextAttempt_fail (st : Option ReconnectState) (err : String) (now : Nat)
    (hpos : 1 ≤ (ReconnectState.fail st err now).failures.toNat) :
    (ReconnectState.fail st err now).nextAttempt =
      now + min (2^((ReconnectState.fail st err now).failures.toNat - 1)) 30 * 1000000000 := by
  rw [← toNat_backoffSecs hpos]
  rfl

/-- A failure as the last event. -/
theorem reconnectAfter_failed {before : List ReconnectEvent} (now : Nat) (err : String)
    (hlen : before.length + 1 < 2^32) :
    ∃ st, reconnectAfter (before ++ [.returned now (.failed err)]) = some st ∧
      NoOverflow (reconnectAfter before) now st ∧
      st.nextAttempt = now + min (2^(st.failures.toNat - 1)) 30 * 1000000000 := by
  have hbefore := failuresOf_reconnectAfter (Nat.lt_of_succ_lt hlen)
  have hle := streak_le_length before
  have hadd := failures_fail hbefore (by omega) err now
  have hpos : 1 ≤ (ReconnectState.fail (reconnectAfter before) err now).failures.toNat := by omega
  have hshift := toNat_backoffShift hpos
  have hfive := hshift ▸ Nat.min_le_right _ 5
  have hnext := nextAttempt_fail (reconnectAfter before) err now hpos
  refine ⟨_, reconnectAfter_concat before _, ⟨?_, ?_, ?_, ?_, ?_⟩, hnext⟩
  · rw [hadd, hbefore]
  · exact UInt32.toNat_sub_of_le _ 1 hpos
  · omega
  · rw [toNat_backoffBase hfive, reconnectBackoffBaseSecs, UInt64.toNat_one, Nat.one_mul]
  · intro limit hlimit
    rw [hnext]
    refine Nat.lt_of_le_of_lt (Nat.add_le_add_left ?_ now) hlimit
    exact Nat.mul_le_mul_right 1000000000 (Nat.min_le_right _ 30)

/-- A longer streak does not wait less. -/
theorem backoffSecs_mono {failures failures' : UInt32} (hpos : 1 ≤ failures.toNat)
    (hle : failures.toNat ≤ failures'.toNat) : backoffSecs failures ≤ backoffSecs failures' := by
  have hpow : 2^(failures.toNat - 1) ≤ 2^(failures'.toNat - 1) :=
    Nat.pow_le_pow_right (by decide) (Nat.sub_le_sub_right hle 1)
  rw [UInt64.le_iff_toNat_le, toNat_backoffSecs hpos, toNat_backoffSecs (Nat.le_trans hpos hle)]
  omega

/-- An entry that is there has counted a failure. -/
theorem one_le_failures {history : List ReconnectEvent} (hlen : history.length < 2^32)
    {st : ReconnectState} (h : reconnectAfter history = some st) : 1 ≤ st.failures.toNat := by
  rcases List.eq_nil_or_concat history with rfl | ⟨before, e, rfl⟩
  · cases h
  rw [List.concat_eq_append] at h hlen
  rw [List.length_append, List.length_singleton] at hlen
  cases e with
  | arrived =>
    rw [reconnectAfter_concat] at h
    cases h
  | returned now outcome =>
    cases outcome with
    | ended clean reason =>
      rw [reconnectAfter_concat] at h
      cases h
    | failed err =>
      obtain ⟨st', hst', hover, _⟩ := reconnectAfter_failed now err hlen
      rw [h] at hst'
      cases hst'
      rw [hover.add]
      exact Nat.le_add_left 1 _

theorem backoff_arithmetic (history : List ReconnectEvent) (hlen : history.length < 2^32) :
    failuresOf (reconnectAfter history) = streak history ∧
    (∀ before now err, history = before ++ [.returned now (.failed err)] →
      ∃ st, reconnectAfter history = some st ∧ NoOverflow (reconnectAfter before) now st ∧
        st.nextAttempt = now + min (2^(st.failures.toNat - 1)) 30 * 1000000000 ∧
        now + 1 * 1000000000 ≤ st.nextAttempt ∧ st.nextAttempt ≤ now + 30 * 1000000000) ∧
    (∀ earlier later st st', history = earlier ++ later → (∀ e ∈ later, e.isFailure = true) →
      reconnectAfter earlier = some st → reconnectAfter history = some st' →
        backoffSecs st.failures ≤ backoffSecs st'.failures) := by
  refine ⟨failuresOf_reconnectAfter hlen, ?_, ?_⟩
  · rintro before now err rfl
    rw [List.length_append, List.length_singleton] at hlen
    obtain ⟨st, hst, hover, hnext⟩ := reconnectAfter_failed now err hlen
    have hpow : 0 < 2^(st.failures.toNat - 1) := Nat.pow_pos (by decide)
    exact ⟨st, hst, hover, hnext, by omega, by omega⟩
  · rintro earlier later st st' rfl hlater hst hst'
    have hearlier : earlier.length < 2^32 := by
      rw [List.length_append] at hlen
      omega
    have hcount := failuresOf_reconnectAfter hearlier
    have hcount' := failuresOf_reconnectAfter hlen
    rw [hst] at hcount
    rw [hst', streak_append hlater, ← hcount] at hcount'
    refine backoffSecs_mono (one_le_failures hearlier hst) ?_
    exact Nat.le_trans (Nat.le_add_right _ _) (Nat.le_of_eq hcount'.symm)

/-- An arrival between the failures: only those after it count. -/
def exampleHistory : List ReconnectEvent :=
  [.returned 1 (.failed "a"), .arrived, .returned 5 (.failed "b"), .returned 9 (.failed "b")]

theorem backoff_arithmetic_example :
    failuresOf (reconnectAfter exampleHistory) = 2 ∧
    ∃ st, reconnectAfter exampleHistory = some st ∧ st.nextAttempt ≤ 9 + 30 * 1000000000 ∧
      st.nextAttempt = 9 + min (2^(st.failures.toNat - 1)) 30 * 1000000000 := by
  obtain ⟨hcount, hlast, _⟩ := backoff_arithmetic exampleHistory (by decide)
  obtain ⟨st, hst, _, hnext, _, hle⟩ := hlast
    [.returned 1 (.failed "a"), .arrived, .returned 5 (.failed "b")] 9 "b" rfl
  exact ⟨hcount.trans (by decide), st, hst, hle, hnext⟩

/-! The entries of the monitor. -/

/-- What a step of the monitor does to the entry of a serial. -/
def UsbMonitor.events (serial : String) (s : UsbMonitor) : MonitorAct → List ReconnectEvent
  | .clear arrived => if arrived = serial then [.arrived] else []
  | .record i =>
    match s.host.inPhase i .forgotten, s.ends i with
    | some sess, .returned outcome =>
      if sess.key = serial then [.returned s.clock outcome] else []
    | _, _ => []
  | _ => []

/-- The history of the serial over a run. -/
def UsbMonitor.history (serial : String) : UsbMonitor → List MonitorAct → List ReconnectEvent
  | _, [] => []
  | s, act :: acts =>
    match monitorStep s act with
    | none => []
    | some s' => s.events serial act ++ history serial s' acts

section
variable {serial : String} {s s' : UsbMonitor}

theorem reconnect_of_step {act : MonitorAct} (h : monitorStep s act = some s') :
    s'.reconnect serial = (s.events serial act).foldl ReconnectEvent.apply (s.reconnect serial) := by
  cases monitorStep_move h with
  | clear =>
    rw [UsbMonitor.events]
    split
    · rename_i heq
      rw [heq]
      exact Function.update_self _ _ _
    · rename_i hne
      exact Function.update_of_ne (Ne.symm hne) _ _
  | record hsess _ hret =>
    rw [UsbMonitor.events, hsess, hret]
    dsimp only
    split
    · rename_i heq
      subst heq
      exact Function.update_self _ _ _
    · rename_i hne
      exact Function.update_of_ne (Ne.symm hne) _ _
  | _ => rfl

/-- From any state, a run folds the events of its history into the entry. -/
theorem reconnect_of_run {acts : List MonitorAct} (h : run monitorStep anyStep s acts = some s') :
    s'.reconnect serial =
      (s.history serial acts).foldl ReconnectEvent.apply (s.reconnect serial) := by
  induction acts generalizing s with
  | nil =>
    cases h
    rfl
  | cons act acts ih =>
    obtain ⟨_, t, hst, hrest⟩ := run_cons_some h
    rw [UsbMonitor.history, hst, List.foldl_append, ← reconnect_of_step hst]
    exact ih hrest

/-- The entry of a serial is that of its history. -/
theorem UsbMonitor.reconnect_eq_after {acts : List MonitorAct}
    (h : run monitorStep anyStep UsbMonitor.init acts = some s) :
    s.reconnect serial = reconnectAfter (UsbMonitor.init.history serial acts) :=
  reconnect_of_run h

end

end Hdc
