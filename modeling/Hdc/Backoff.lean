import Hdc.UsbMonitor

/- The reconnect backoff of the USB monitor (`hdc/src/server.rs`), over all interleavings of its
   passes with the ends of the sessions.

   After a failure a device is to be left alone until its `next_attempt`. Two things get in the
   way, and `BackoffKept` rules them out: a pass that looks at the device between the two steps
   of a session's end, when it is no longer known and its failure not yet recorded; and a device
   that a pass does not see because its session has it open, so that the next one takes it for a
   new arrival and clears its backoff. `backoff_not_honoured` is a run of either. -/
namespace Hdc
open Rust Lts

/-! The backoff of one device. -/

def EndTask.isRecorded : EndTask → Bool
  | .recorded _ => true
  | _ => false

/-- `start_usb_session` has returned `Failed`. -/
def EndTask.hasFailed : EndTask → Bool
  | .returned (.failed _) | .recorded (some _) => true
  | _ => false

/-- The pass is about to start a session for the device. -/
def Pass.spawns (serial : String) : Pass → Bool
  | .spawning dev _ _ => dev.serialNumber == serial
  | _ => false

/-- The pass looks at the device next. -/
def Pass.considers (serial : String) : Pass → Bool
  | .adopting (dev :: _) _ => dev.serialNumber == serial
  | _ => false

def Pass.now : Pass → Option Nat
  | .waiting => none
  | .clearing _ _ now | .adopting _ now | .spawning _ _ now => some now

/-- Every failure of the device is recorded, and its `next_attempt` has come. -/
def Honoured (serial : String) (s : UsbMonitor) : Prop :=
  ∀ i, s.host.usbKey i = some serial → (s.ends i).hasFailed = true →
    ∃ next, s.ends i = .recorded (some next) ∧ next ≤ s.clock

/-- No pass looks at the device between the two steps in which a session of it ends, and none
clears a backoff that has not run out. -/
def BackoffKept (serial : String) (s : UsbMonitor) : MonitorAct → Prop
  | .clear arrived => arrived = serial → ∀ st ∈ s.reconnect serial, st.nextAttempt ≤ s.clock
  | .consider => s.pass.considers serial = true →
      ∀ i < s.host.sessions.length, s.host.usbKey i = some serial →
        (s.host.inPhase i .forgotten).isSome = true → (s.ends i).isRecorded = true
  | _ => True

/-- The outcome of the session is yet to be recorded. -/
def UsbMonitor.Open (s : UsbMonitor) (serial : String) (i : Nat) : Prop :=
  s.host.usbKey i = some serial ∧ (s.ends i).isRecorded = false

structure UsbMonitor.Kept (serial : String) (s : UsbMonitor) : Prop where
  tracked : Tracked s.host
  now_le : ∀ now, s.pass.now = some now → now ≤ s.clock
  forgotten : ∀ i key, s.host.usbKey i = some key → (s.ends i).isRecorded = true →
    (s.host.inPhase i .forgotten).isSome = true
  unique : ∀ i j, s.Open serial i → s.Open serial j → i = j
  spawning : s.pass.spawns serial = true → ∀ i, ¬ s.Open serial i
  /-- A backoff that has not run out is in the table, and there is no session. -/
  due : ∀ i next, s.host.usbKey i = some serial → s.ends i = .recorded (some next) →
    next ≤ s.clock ∨ (∀ j, ¬ s.Open serial j) ∧ s.pass.spawns serial = false ∧
      ∃ st, s.reconnect serial = some st ∧ next ≤ st.nextAttempt

/-! What the moves of the sessions leave alone. -/

section
variable {s s' : HostSessions} {act : SessionAct}

theorem usbKey_append {sess : HostSession} (hsess : s'.sessions = s.sessions ++ [sess]) (i : Nat) :
    s'.usbKey i = if i = s.sessions.length then
      (if sess.transport = .usb then some sess.key else none) else s.usbKey i := by
  unfold HostSessions.usbKey
  rw [hsess]
  rcases Nat.lt_trichotomy i s.sessions.length with hi | rfl | hi
  · rw [List.getElem?_append_left hi, if_neg (Nat.ne_of_lt hi)]
  · rw [List.getElem?_concat_length, if_pos rfl]
    by_cases husb : sess.transport = .usb <;> simp [husb]
  · have hlen : (s.sessions ++ [sess]).length ≤ i := by rw [List.length_append]; exact hi
    rw [List.getElem?_eq_none hlen, List.getElem?_eq_none (Nat.le_of_lt hi), if_neg (Nat.ne_of_gt hi)]

theorem usbKey_length (s : HostSessions) : s.usbKey s.sessions.length = none := by
  simp [HostSessions.usbKey]

theorem usbKey_set {i : Nat} {old new : HostSession} (hold : s.sessions[i]? = some old)
    (hsess : s'.sessions = s.sessions.set i new) (htransport : new.transport = old.transport)
    (hkey : new.key = old.key) : s'.usbKey = s.usbKey := by
  funext j
  unfold HostSessions.usbKey
  rw [hsess]
  by_cases hij : i = j
  · subst hij
    rw [List.getElem?_set_self (List.getElem?_eq_some_iff.mp hold).1, hold, Option.filter_some,
      Option.filter_some, htransport]
    by_cases husb : old.transport = .usb <;> simp [hkey, husb]
  · rw [List.getElem?_set_ne hij]

/-- Only the monitor starts sessions of its own. -/
theorem SessionMove.usbKey_eq (h : SessionMove s s' act)
    (hact : ∀ serial address sessionId, act ≠ .adopt serial address sessionId) :
    s'.usbKey = s.usbKey := by
  cases h with
  | same hsess _ =>
    funext i
    rw [HostSessions.usbKey, hsess, HostSessions.usbKey]
  | started htcp hsess _ =>
    funext i
    rw [usbKey_append hsess, htcp]
    split
    · rename_i hi
      rw [hi, usbKey_length]
      rfl
    · rfl
  | moved hold hsess htransport hkey _ _ _ => exact usbKey_set hold hsess htransport hkey
  | adopted _ _ _ => exact absurd rfl (hact _ _ _)
  | forgot hold _ _ hsess _ => exact usbKey_set hold hsess rfl rfl

/-- A session that is forgotten stays so. -/
theorem SessionMove.forgotten (h : SessionMove s s' act) {i : Nat}
    (hi : (s.inPhase i .forgotten).isSome = true) : (s'.inPhase i .forgotten).isSome = true := by
  obtain ⟨sess, hsess⟩ := Option.isSome_iff_exists.mp hi
  obtain ⟨hget, hphase⟩ := inPhase_eq_some.mp hsess
  have hset : ∀ {j : Nat} {old new : HostSession}, s.sessions[j]? = some old →
      old.phase ≠ .forgotten → s'.sessions = s.sessions.set j new → s'.sessions[i]? = some sess := by
    intro j old new hold hne hs'
    have hij : j ≠ i := by
      rintro rfl
      rw [hget, Option.some.injEq] at hold
      exact hne (hold ▸ hphase)
    rw [hs', List.getElem?_set_ne hij, hget]
  have hadd : ∀ {new : HostSession}, s'.sessions = s.sessions ++ [new] →
      s'.sessions[i]? = some sess := by
    intro new hs'
    rw [hs', List.getElem?_append_left (List.getElem?_eq_some_iff.mp hget).1, hget]
  have hget' : s'.sessions[i]? = some sess := by
    cases h with
    | same hs' _ => rw [hs', hget]
    | started _ hs' _ => exact hadd hs'
    | moved hold hs' _ _ hne _ _ => exact hset hold hne hs'
    | adopted _ hs' _ => exact hadd hs'
    | forgot hold _ hended hs' _ => exact hset hold (by simp [hended]) hs'
  exact Option.isSome_iff_exists.mpr ⟨sess, inPhase_eq_some.mpr ⟨hget', hphase⟩⟩

/-- A device that is not known has only sessions that are forgotten. -/
theorem Tracked.forgotten_of_unknown (h : Tracked s) {serial : String} (hunknown : serial ∉ s.known)
    {i : Nat} (hi : s.usbKey i = some serial) : (s.inPhase i .forgotten).isSome = true := by
  obtain ⟨sess, hsess, hkey⟩ := Option.map_eq_some_iff.mp hi
  obtain ⟨hget, husb⟩ := Option.filter_eq_some_iff.mp hsess
  have hzero := h.count serial
  rw [if_neg hunknown, List.countP_eq_zero] at hzero
  have hnot := hzero sess (List.mem_of_getElem? hget)
  simp only [HostSession.tracks, of_decide_eq_true husb, hkey, true_and, ne_eq, decide_not,
    Bool.not_eq_true', decide_eq_false_iff_not, not_not] at hnot
  exact Option.isSome_iff_exists.mpr ⟨sess, inPhase_eq_some.mpr ⟨hget, hnot⟩⟩

end

/-! The steps. -/

namespace UsbMonitor.Kept
variable {serial : String} {s s' : UsbMonitor}

theorem init (serial : String) : Kept serial .init where
  tracked := .init
  now_le := by simp [UsbMonitor.init, Pass.now]
  forgotten := by simp [UsbMonitor.init, HostSessions.usbKey, HostSessions.init]
  unique := by simp [UsbMonitor.Open, UsbMonitor.init, HostSessions.usbKey, HostSessions.init]
  spawning := by simp [UsbMonitor.init, Pass.spawns]
  due := by simp [UsbMonitor.init, HostSessions.usbKey, HostSessions.init]

theorem open_congr (hkey : s'.host.usbKey = s.host.usbKey)
    (hends : ∀ i, s.host.usbKey i = some serial → (s'.ends i).isRecorded = (s.ends i).isRecorded)
    (i : Nat) : s'.Open serial i ↔ s.Open serial i := by
  unfold UsbMonitor.Open
  rw [hkey]
  exact and_congr_right fun hi => by rw [hends i hi]

/-- A step that leaves the device alone, or that ends a session of it. -/
theorem of_same (h : s.Kept serial) (hhost : Tracked s'.host)
    (hkey : s'.host.usbKey = s.host.usbKey)
    (hforgot : ∀ i, (s.host.inPhase i .forgotten).isSome = true →
      (s'.host.inPhase i .forgotten).isSome = true)
    (hends : ∀ i key, s.host.usbKey i = some key →
      s'.ends i = s.ends i ∨ (s.ends i).isRecorded = false ∧ (s'.ends i).isRecorded = false)
    (hreconnect : s'.reconnect serial = s.reconnect serial) (hclock : s.clock ≤ s'.clock)
    (hpass : s'.pass.spawns serial = true → s.pass.spawns serial = true)
    (hnow : ∀ now, s'.pass.now = some now → now ≤ s'.clock) : s'.Kept serial := by
  have hrecorded : ∀ i key, s.host.usbKey i = some key →
      (s'.ends i).isRecorded = (s.ends i).isRecorded := by
    intro i key hi
    rcases hends i key hi with heq | ⟨hold, hnew⟩
    · rw [heq]
    · rw [hold, hnew]
  have hopen : ∀ i, s'.Open serial i ↔ s.Open serial i :=
    open_congr hkey fun i hi => hrecorded i serial hi
  refine ⟨hhost, hnow, fun i key hi hr => ?_, fun i j hi hj => ?_, fun hsp i hi => ?_,
    fun i next hi hr => ?_⟩
  · rw [hkey] at hi
    rw [hrecorded i key hi] at hr
    exact hforgot i (h.forgotten i key hi hr)
  · exact h.unique i j ((hopen i).mp hi) ((hopen j).mp hj)
  · exact h.spawning (hpass hsp) i ((hopen i).mp hi)
  · rw [hkey] at hi
    have hold : s.ends i = .recorded (some next) := by
      rcases hends i serial hi with heq | ⟨-, hnew⟩
      · rw [← heq, hr]
      · rw [hr] at hnew
        cases hnew
    rcases h.due i next hi hold with hle | ⟨hnone, hsp, hst⟩
    · exact .inl (Nat.le_trans hle hclock)
    · refine .inr ⟨fun j hj => hnone j ((hopen j).mp hj), ?_, hreconnect ▸ hst⟩
      cases hsp' : s'.pass.spawns serial with
      | false => rfl
      | true => exact absurd (hpass hsp') (by simp [hsp])

/-- A backoff that has run out is cleared. -/
theorem clear (h : s.Kept serial) (hdue : ∀ st ∈ s.reconnect serial, st.nextAttempt ≤ s.clock)
    (hhost : s'.host = s.host) (hends : s'.ends = s.ends) (hclock : s'.clock = s.clock)
    (hpass : s'.pass.spawns serial = false) (hnow : ∀ now, s'.pass.now = some now → now ≤ s'.clock) :
    s'.Kept serial := by
  have hopen : ∀ i, s'.Open serial i ↔ s.Open serial i :=
    open_congr (by rw [hhost]) fun i _ => by rw [hends]
  refine ⟨hhost ▸ h.tracked, hnow, by rw [hhost, hends]; exact h.forgotten, fun i j hi hj => ?_,
    by simp [hpass], fun i next hi hr => .inl ?_⟩
  · exact h.unique i j ((hopen i).mp hi) ((hopen j).mp hj)
  · rw [hhost] at hi
    rw [hends] at hr
    rw [hclock]
    rcases h.due i next hi hr with hle | ⟨-, -, st, hst, hle⟩
    · exact hle
    · exact Nat.le_trans hle (hdue st hst)

/-- The pass finds the device unknown and no backoff to wait for. -/
theorem consider (h : s.Kept serial) {now : Nat} (hunknown : serial ∉ s.host.known)
    (hrecorded : ∀ i, s.host.usbKey i = some serial →
      (s.host.inPhase i .forgotten).isSome = true → (s.ends i).isRecorded = true)
    (hdue : ∀ st, s.reconnect serial = some st → st.nextAttempt ≤ now) (hnow : now ≤ s.clock)
    {pass : Pass} (hpass : pass.now = some now) : Kept serial { s with pass } := by
  have hnone : ∀ i, ¬ s.Open serial i := by
    rintro i ⟨hi, hopen⟩
    rw [hrecorded i hi (h.tracked.forgotten_of_unknown hunknown hi)] at hopen
    cases hopen
  refine ⟨h.tracked, fun n hn => ?_, h.forgotten, h.unique, fun _ => hnone,
    fun i next hi hr => .inl ?_⟩
  · rw [hpass, Option.some.injEq] at hn
    exact hn ▸ hnow
  · rcases h.due i next hi hr with hle | ⟨-, -, st, hst, hle⟩
    · exact hle
    · exact Nat.le_trans hle (Nat.le_trans (hdue st hst) hnow)

/-- A session is started, of the device or of another. -/
theorem spawn (h : s.Kept serial) {dev : UsbDeviceInfo} {devices : List UsbDeviceInfo} {now : Nat}
    (hpass : s.pass = .spawning dev devices now) {address : String} {sessionId : UInt32}
    {host : HostSessions} (hst : sessionStep s.host (.adopt dev.serialNumber address sessionId) = some host) :
    Kept serial { s with
      host
      pass := .adopting devices now
      ends := Function.update s.ends s.host.sessions.length .session } := by
  obtain ⟨-, hsess, -⟩ := adopt_eq_some hst
  have hmove := sessionStep_move hst
  have hnew : s.host.usbKey s.host.sessions.length = none := usbKey_length s.host
  have hkey (i : Nat) : host.usbKey i =
      if i = s.host.sessions.length then some dev.serialNumber else s.host.usbKey i :=
    usbKey_append hsess i
  -- the sessions there were are as before, and the new one is open
  have hold {i : Nat} {key : String} (hi : s.host.usbKey i = some key) : i ≠ s.host.sessions.length := by
    rintro rfl
    rw [hnew] at hi
    cases hi
  have hends {i : Nat} (hi : i ≠ s.host.sessions.length) :
      Function.update s.ends s.host.sessions.length .session i = s.ends i := Function.update_of_ne hi _ _
  have hopen {i : Nat} (hi : i ≠ s.host.sessions.length)
      (h' : host.usbKey i = some serial ∧
        (Function.update s.ends s.host.sessions.length .session i).isRecorded = false) :
      s.Open serial i := by
    rw [hkey, if_neg hi, hends hi] at h'
    exact h'
  have hspawns : s.pass.spawns serial = (dev.serialNumber == serial) := by rw [hpass, Pass.spawns]
  refine ⟨h.tracked.step hst, fun n hn => h.now_le n (by rw [hpass]; exact hn), fun i key hi hr => ?_,
    fun i j hi hj => ?_, fun hsp => by simp [Pass.spawns] at hsp, fun i next hi hr => ?_⟩
  · by_cases hlen : i = s.host.sessions.length
    · simp only [hlen, Function.update_self] at hr
      cases hr
    · simp only [hkey, if_neg hlen] at hi
      simp only [hends hlen] at hr
      exact hmove.forgotten (h.forgotten i key hi hr)
  · -- if the new session is of the device, no other is open
    have hother {a b : Nat} (ha : a = s.host.sessions.length) (hb : b ≠ s.host.sessions.length)
        (hka : host.usbKey a = some serial) (hob : s.Open serial b) : False := by
      rw [hkey, if_pos ha, Option.some.injEq] at hka
      exact h.spawning (by rw [hspawns, hka, beq_self_eq_true]) b hob
    by_cases hi' : i = s.host.sessions.length <;> by_cases hj' : j = s.host.sessions.length
    · rw [hi', hj']
    · exact (hother hi' hj' hi.1 (hopen hj' hj)).elim
    · exact (hother hj' hi' hj.1 (hopen hi' hi)).elim
    · exact h.unique i j (hopen hi' hi) (hopen hj' hj)
  · by_cases hlen : i = s.host.sessions.length
    · simp only [hlen, Function.update_self] at hr
      cases hr
    · simp only [hkey, if_neg hlen] at hi
      simp only [hends hlen] at hr
      rcases h.due i next hi hr with hle | ⟨hnone, hsp, hst⟩
      · exact .inl hle
      · refine .inr ⟨fun j hj => ?_, rfl, hst⟩
        by_cases hj' : j = s.host.sessions.length
        · obtain ⟨hjkey, -⟩ := hj
          simp only [hkey, if_pos hj', Option.some.injEq] at hjkey
          rw [hspawns, hjkey, beq_self_eq_true] at hsp
          cases hsp
        · exact hnone j (hopen hj' hj)

/-- The outcome of a session is recorded, of the device or of another. -/
theorem record (h : s.Kept serial) {i : Nat} {sess : HostSession}
    (hsess : s.host.inPhase i .forgotten = some sess) (husb : sess.transport = .usb)
    {outcome : SessionOutcome} (hret : s.ends i = .returned outcome) :
    let st := recordSessionOutcome (s.reconnect sess.key) s.clock outcome
    Kept serial { s with
      reconnect := Function.update s.reconnect sess.key st
      ends := Function.update s.ends i (.recorded (st.map ReconnectState.nextAttempt)) } := by
  intro st
  have hikey : s.host.usbKey i = some sess.key := by
    simp [HostSessions.usbKey, (inPhase_eq_some.mp hsess).1, husb]
  have hends {j : Nat} (hj : j ≠ i) :
      Function.update s.ends i (.recorded (st.map ReconnectState.nextAttempt)) j = s.ends j :=
    Function.update_of_ne hj _ _
  have hopen {j : Nat} (h' : s.host.usbKey j = some serial ∧ (Function.update s.ends i
        (.recorded (st.map ReconnectState.nextAttempt)) j).isRecorded = false) :
      j ≠ i ∧ s.Open serial j := by
    have hj : j ≠ i := by
      rintro rfl
      rw [Function.update_self] at h'
      cases h'.2
    rw [hends hj] at h'
    exact ⟨hj, h'⟩
  refine ⟨h.tracked, h.now_le, fun j key hj hr => ?_, fun a b ha hb => ?_, fun hsp a ha => ?_,
    fun j next hj hr => ?_⟩
  · by_cases hji : j = i
    · rw [hji]
      exact Option.isSome_iff_exists.mpr ⟨sess, hsess⟩
    · simp only [hends hji] at hr
      exact h.forgotten j key hj hr
  · exact h.unique a b (hopen ha).2 (hopen hb).2
  · exact h.spawning hsp a (hopen ha).2
  · by_cases hkey : sess.key = serial
    · -- the session was the open one of the device, so that none is left
      subst hkey
      have hiopen : s.Open sess.key i := ⟨hikey, by rw [hret]; rfl⟩
      by_cases hji : j = i
      · refine .inr ⟨fun a ha => (hopen ha).1 (h.unique a i (hopen ha).2 hiopen), ?_, ?_⟩
        · cases hsp : s.pass.spawns sess.key with
          | false => rfl
          | true => exact absurd hiopen (h.spawning hsp i)
        · simp only [hji, Function.update_self, EndTask.recorded.injEq, Option.map_eq_some_iff] at hr
          obtain ⟨st', hst', hnext⟩ := hr
          exact ⟨st', (Function.update_self ..).trans hst', Nat.le_of_eq hnext.symm⟩
      · simp only [hends hji] at hr
        rcases h.due j next hj hr with hle | ⟨hnone, -⟩
        · exact .inl hle
        · exact absurd hiopen (hnone i)
    · have hji : j ≠ i := by
        rintro rfl
        rw [hikey, Option.some.injEq] at hj
        exact hkey hj
      simp only [hends hji] at hr
      rcases h.due j next hj hr with hle | ⟨hnone, hsp, hst⟩
      · exact .inl hle
      · refine .inr ⟨fun a ha => hnone a (hopen ha).2, hsp, ?_⟩
        simp only [Function.update_of_ne (Ne.symm hkey)]
        exact hst

/-- A step of a session, or the end of one at the monitor's. -/
theorem session (h : s.Kept serial) {act : SessionAct}
    (hact : ∀ serial address sessionId, act ≠ .adopt serial address sessionId) (clean : Bool)
    (reason : String) {host : HostSessions} (hst : sessionStep s.host act = some host) :
    Kept serial { s with host, ends := endsAfter s.ends clean reason act } := by
  have hmove := sessionStep_move hst
  have hreturns {i : Nat} {phase : SessionPhase} {sess : HostSession} {outcome : SessionOutcome}
      (hne : phase ≠ .forgotten) (hsess : s.host.inPhase i phase = some sess) (j : Nat) (key : String)
      (hj : s.host.usbKey j = some key) :
      Function.update s.ends i (.returned outcome) j = s.ends j ∨ (s.ends j).isRecorded = false ∧
        (Function.update s.ends i (.returned outcome) j).isRecorded = false := by
    by_cases hji : j = i
    · subst hji
      refine .inr ⟨?_, by rw [Function.update_self]; rfl⟩
      -- a session that is still going has not been recorded
      cases hr : (s.ends j).isRecorded with
      | false => rfl
      | true =>
        obtain ⟨sess', hsess'⟩ := Option.isSome_iff_exists.mp (h.forgotten j key hj hr)
        have hget := (inPhase_eq_some.mp hsess).1.symm.trans (inPhase_eq_some.mp hsess').1
        have hphase : phase = .forgotten := by
          rw [← (inPhase_eq_some.mp hsess).2, Option.some.inj hget, (inPhase_eq_some.mp hsess').2]
        exact absurd hphase hne
    · exact .inl (Function.update_of_ne hji _ _)
  refine h.of_same (h.tracked.step hst) (hmove.usbKey_eq hact) (fun i => hmove.forgotten)
    (fun j key hj => ?_) rfl (Nat.le_refl _) id h.now_le
  cases act with
  | failed i =>
    obtain ⟨sess, hsess, -⟩ := Option.map_eq_some_iff.mp hst
    exact hreturns (by decide) hsess j key hj
  | remove i =>
    obtain ⟨sess, hsess, -⟩ := Option.map_eq_some_iff.mp hst
    exact hreturns (by decide) hsess j key hj
  | tconn | adopt | authenticated | disconnect | forget | discover | discoverPut | reconnect
  | reconnectRemove => exact .inl rfl

/-- A step of the pass that starts nothing. -/
theorem pass_step (h : s.Kept serial) {physical : List String} {pass : Pass}
    (hpass : pass.spawns serial = false) (hnow : ∀ now, pass.now = some now → now ≤ s.clock) :
    Kept serial { s with physical, pass } :=
  h.of_same h.tracked rfl (fun _ hi => hi) (fun _ _ _ => .inl rfl) rfl (Nat.le_refl _)
    (fun hsp => by rw [hpass] at hsp; cases hsp) hnow

end UsbMonitor.Kept

theorem passBackoff_cases (st : Option ReconnectState) (dev : UsbDeviceInfo)
    (devices : List UsbDeviceInfo) (now : Nat) :
    passBackoff st dev devices now = .adopting devices now ∨
    passBackoff st dev devices now = .spawning dev devices now ∧
      ∀ st', st = some st' → st'.nextAttempt ≤ now := by
  cases st with
  | none => exact .inr ⟨rfl, by simp⟩
  | some st' =>
    rw [passBackoff]
    split
    · exact .inl rfl
    · rename_i hnot
      exact .inr ⟨rfl, fun st hst => by rw [← Option.some.inj hst]; omega⟩

theorem monitorStep_kept {serial : String} {s s' : UsbMonitor} {act : MonitorAct}
    (h : s.Kept serial) (hok : BackoffKept serial s act) (hst : monitorStep s act = some s') :
    s'.Kept serial := by
  cases monitorStep_move hst with
  | tick elapsed =>
    exact h.of_same h.tracked rfl (fun _ hi => hi) (fun _ _ _ => .inl rfl) rfl (Nat.le_add_right _ _)
      id fun now hnow => Nat.le_trans (h.now_le now hnow) (Nat.le_add_right _ _)
  | enumerate devices physical arrivals hpass =>
    exact h.pass_step rfl fun now hnow => Nat.le_of_eq (Option.some.inj hnow).symm
  | @clear arrived arrivals devices now hpass hmem =>
    have hnow : now ≤ s.clock := h.now_le now (by rw [hpass]; rfl)
    by_cases hserial : arrived = serial
    · subst hserial
      exact h.clear (hok rfl) rfl rfl rfl rfl fun n hn => by cases hn; exact hnow
    · exact h.of_same h.tracked rfl (fun _ hi => hi) (fun _ _ _ => .inl rfl)
        (Function.update_of_ne (Ne.symm hserial) _ _) (Nat.le_refl _) (fun hsp => by cases hsp)
        fun n hn => by cases hn; exact hnow
  | lockKnown hpass =>
    exact h.pass_step rfl fun n hn => h.now_le n (by rw [hpass]; exact hn)
  | @consider dev devices now hpass =>
    have hnow : now ≤ s.clock := h.now_le now (by rw [hpass]; rfl)
    have hskip : UsbMonitor.Kept serial { s with pass := .adopting devices now } :=
      h.pass_step rfl fun n hn => by cases hn; exact hnow
    split
    · exact hskip
    · rename_i hunknown
      rcases passBackoff_cases (s.reconnect dev.serialNumber) dev devices now with hb | ⟨hb, hdue⟩
      · rw [hb]
        exact hskip
      · rw [hb]
        by_cases hserial : dev.serialNumber = serial
        · subst hserial
          refine h.consider hunknown (fun i hi => ?_) hdue hnow rfl
          refine hok (by rw [hpass, Pass.considers, beq_self_eq_true]) i ?_ hi
          by_contra hlen
          have hnone : s.host.sessions[i]? = none := List.getElem?_eq_none (Nat.le_of_not_lt hlen)
          rw [HostSessions.usbKey, hnone] at hi
          cases hi
        · exact h.pass_step (beq_false_of_ne hserial) fun n hn => by cases hn; exact hnow
  | spawn hpass hhost => exact h.spawn hpass hhost
  | unlockKnown hpass => exact h.pass_step rfl fun n hn => by cases hn
  | session clean reason hact hhost =>
    refine h.session (fun _ _ _ hadopt => ?_) clean reason hhost
    rw [hadopt] at hact
    exact hact rfl
  | forget _ hhost => exact h.session (fun _ _ _ hadopt => by cases hadopt) true "" hhost
  | record hsess husb hret => exact h.record hsess husb hret

/-- When a session is to be started, every failure of the device before it has been waited for,
as long as no pass meets the device between the two steps of a session's end and none clears a
backoff that has not run out. -/
theorem backoff_honoured {serial : String} {s : UsbMonitor}
    (h : Reaches monitorStep (BackoffKept serial) .init s) (hspawns : s.pass.spawns serial = true) :
    Honoured serial s := by
  have hkept : s.Kept serial :=
    h.invariant (fun hs hok hst => monitorStep_kept hs hok hst) (.init serial)
  intro i hi hfailed
  have hclosed := hkept.spawning hspawns i
  cases hend : s.ends i with
  | session =>
    rw [hend] at hfailed
    cases hfailed
  | returned outcome => exact absurd ⟨hi, by rw [hend]; rfl⟩ hclosed
  | recorded next =>
    cases next with
    | none =>
      rw [hend] at hfailed
      cases hfailed
    | some next =>
      refine ⟨next, rfl, ?_⟩
      rcases hkept.due i next hi hend with hle | ⟨-, hsp, -⟩
      · exact hle
      · rw [hspawns] at hsp
        cases hsp

instance (serial : String) (s : UsbMonitor) : ∀ act, Decidable (BackoffKept serial s act)
  | .clear arrived =>
    inferInstanceAs (Decidable (arrived = serial → ∀ st ∈ s.reconnect serial, st.nextAttempt ≤ s.clock))
  | .consider => inferInstanceAs (Decidable (s.pass.considers serial = true →
      ∀ i < s.host.sessions.length, s.host.usbKey i = some serial →
        (s.host.inPhase i .forgotten).isSome = true → (s.ends i).isRecorded = true))
  | .tick _ | .enumerate _ | .lockKnown | .spawn _ | .unlockKnown | .session .. | .forget _
  | .record _ => inferInstanceAs (Decidable True)

/-- A first pass starts a session for the device. -/
def firstPass (dev : UsbDeviceInfo) : List MonitorAct :=
  [.enumerate [dev], .clear dev.serialNumber, .lockKnown, .consider, .spawn 7, .unlockKnown]

/-- The session fails, a pass comes too early, and the next one starts another session. -/
def waitedFor : Option UsbMonitor :=
  let dev : UsbDeviceInfo := ⟨"A1", 4⟩
  run monitorStep (BackoffKept "A1") .init (firstPass dev ++
    [.session (.failed 0) true "auth timeout", .forget 0, .record 0,
      .enumerate [dev], .lockKnown, .consider, .unlockKnown, .tick (1000000000),
      .enumerate [dev], .lockKnown, .consider])

theorem waitedFor_isSome : waitedFor.isSome = true := by decide

theorem backoff_honoured_waitedFor :
    let s := waitedFor.get waitedFor_isSome
    s.ends 0 = .recorded (some (1000000000)) ∧ s.pass.spawns "A1" = true ∧ Honoured "A1" s :=
  ⟨by decide, by decide,
    backoff_honoured (.of_run (Option.some_get (x := waitedFor) waitedFor_isSome).symm)
      (by decide)⟩

/-- The device stays attached: an enumeration leaves it out only while a session has it open. -/
def Attached (serial : String) (s : UsbMonitor) : MonitorAct → Prop
  | .enumerate devices => serial ∈ devices.map UsbDeviceInfo.serialNumber ∨
      ∃ sess ∈ s.host.sessions, sess.runsUsb serial = true
  | _ => True

instance (serial : String) (s : UsbMonitor) : ∀ act, Decidable (Attached serial s act)
  | .enumerate devices => inferInstanceAs (Decidable (serial ∈ devices.map UsbDeviceInfo.serialNumber ∨
      ∃ sess ∈ s.host.sessions, sess.runsUsb serial = true))
  | .clear _ | .consider | .tick _ | .lockKnown | .spawn _ | .unlockKnown | .session .. | .forget _
  | .record _ => inferInstanceAs (Decidable True)

/-- A pass during the session does not see the device, so that the next one takes it for a new
arrival. -/
def rearrived : Option UsbMonitor :=
  let dev : UsbDeviceInfo := ⟨"A1", 4⟩
  run monitorStep (Attached "A1") .init (firstPass dev ++
    [.enumerate [], .lockKnown, .unlockKnown,
      .session (.failed 0) true "auth timeout", .forget 0, .record 0,
      .enumerate [dev], .clear "A1", .lockKnown, .consider])

/-- A pass comes after the device has been taken out of `known_devices` and before the failure
is recorded. -/
def overtaken : Option UsbMonitor :=
  let dev : UsbDeviceInfo := ⟨"A1", 4⟩
  run monitorStep (Attached "A1") .init (firstPass dev ++
    [.session (.failed 0) true "auth timeout", .forget 0, .enumerate [dev], .lockKnown, .consider])

theorem rearrived_isSome : rearrived.isSome = true := by decide

theorem overtaken_isSome : overtaken.isSome = true := by decide

/-- In both runs a session is started at time 0: a second before the `next_attempt` that was
recorded, and before there is one. -/
theorem backoff_not_honoured :
    (∃ s, Reaches monitorStep (Attached "A1") .init s ∧ (monitorStep s (.spawn 8)).isSome = true ∧
      s.clock = 0 ∧ s.ends 0 = .recorded (some (1000000000)) ∧ ¬ Honoured "A1" s) ∧
    (∃ s, Reaches monitorStep (Attached "A1") .init s ∧ (monitorStep s (.spawn 8)).isSome = true ∧
      s.ends 0 = .returned (.failed "auth timeout") ∧ ¬ Honoured "A1" s) := by
  have hrearrived : (rearrived.get rearrived_isSome).ends 0 = .recorded (some (1000000000)) := by
    decide
  have hovertaken : (overtaken.get overtaken_isSome).ends 0 = .returned (.failed "auth timeout") := by
    decide
  refine ⟨⟨_, .of_run (Option.some_get (x := rearrived) rearrived_isSome).symm, by decide,
      by decide, hrearrived, fun h => ?_⟩,
    ⟨_, .of_run (Option.some_get (x := overtaken) overtaken_isSome).symm, by decide,
      hovertaken, fun h => ?_⟩⟩
  · obtain ⟨next, hnext, hle⟩ := h 0 (by decide) (by rw [hrearrived]; rfl)
    rw [hrearrived] at hnext
    cases hnext
    exact absurd hle (by decide)
  · obtain ⟨next, hnext, -⟩ := h 0 (by decide) (by rw [hovertaken]; rfl)
    rw [hovertaken] at hnext
    cases hnext

end Hdc
