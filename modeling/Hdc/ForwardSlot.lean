import Hdc.ForwardSession

/- One channel of a session with forwards, as far as the removal of forwards is concerned: what
   the host and the daemon have there, and how many messages are on their way that matter.

   For an `rport` the right to close moves from the listener's `ForwardSuccess` to the entry and
   to the close. `tokens` counts these, and `Reverse` says that there is at most one, and that
   the listener is listed as long as there is one. For an `fport` over TCP there never is one,
   since the host reads every check result of the daemon as a refusal (`Refusing`) and answers
   the daemon's own check through `UsbMap`. -/
namespace Hdc
open Rust Wire

/-! A channel. -/

/-- The host and the daemon on one channel. -/
structure ForwardSlot where
  handler : HostHandler
  /-- The messages on their way: `ForwardSuccess`, `ForwardInit` and `KernelChannelClose`. -/
  successes : Nat
  inits : Nat
  closes : Nat
  /-- Entries of the map, or that were removed and are to be closed. -/
  entries : Nat
  listeners : List DaemonListener
  listed : Option Nat
  inserting : Option Nat

/-- The messages of a channel that matter. -/
def isInit (c : UInt32) (msg : TaskMessage) : Bool :=
  (msg.command == .forwardInit || msg.command == .forwardRportInit) && msg.channelId == c

def isClose (c : UInt32) (msg : TaskMessage) : Bool :=
  msg.command == .kernelChannelClose && msg.channelId == c

def isSuccess (msg : TaskMessage) : Bool := msg.command == .forwardSuccess

/-- The `ForwardInit` a reverse forward has still to send. -/
def HostHandler.owed : HostHandler → Nat
  | .rport _ .start | .rport _ .init => 1
  | _ => 0

/-- The `ForwardSuccess` it has received and not yet registered. -/
def HostHandler.succeeded : HostHandler → Nat
  | .rport _ .tell | .rport _ (.ended (.ok ())) => 1
  | _ => 0

namespace ForwardSlot
variable (v : ForwardSlot)

def held : Nat := v.entries + v.closes

/-- What may still lead to a close of the channel. -/
def tokens : Nat := v.successes + v.handler.succeeded + v.held

end ForwardSlot

/-- The listener has not been told to stop. -/
structure ListenerTask.Up (l : ListenerTask) : Prop where
  aborting : l.aborting = false
  rx : .shutdown ∉ l.rx

/-- What holds of the only listener of a channel. -/
structure ForwardSlot.ListenerOk (v : ForwardSlot) (l : ListenerTask) : Prop where
  early : l.phase.Early → v.tokens = 0 ∧ l.dispatcher = .notSpawned ∧ l.Up ∧
    (v.listed = some 0 ∨ v.inserting = some 0 ∧ l.rx = [])
  confirming : l.phase = .confirming → v.listed = some 0
  once : v.tokens ≤ 1
  live : 0 < v.tokens → l.phase = .accepting ∧ l.dispatcher = .running ∧ l.Up ∧ v.listed = some 0

/-- What holds of the channel of a reverse forward. -/
structure ForwardSlot.Reverse (v : ForwardSlot) : Prop where
  once : v.handler.owed + v.inits + v.listeners.length ≤ 1
  unheard : v.listeners = [] → v.tokens = 0
  listener : ∀ l, v.listeners = [l] → v.ListenerOk l.task

/-- The phases of a forward's set-up without a confirmation of the daemon. -/
def SetupPhase.unconfirmed : SetupPhase → Bool
  | .start | .bindFirst | .check _ | .waitResult _ | .init | .waitCheck | .bind _ _ | .confirm _ _
  | .refuse _ _ | .unregister _ | .ended (.error _) => true
  | _ => false

def ForwardSlot.HandlerOk (sessionId c : UInt32) (v : ForwardSlot) : Prop :=
  match v.handler with
  | .idle => v.inits = 0 ∧ v.listeners = [] ∧ v.tokens = 0
  | .fport job phase =>
    job.sessionId = sessionId ∧ job.channelId = c ∧ phase.unconfirmed ∧ v.held = 0
  | .rport job _ => job.sessionId = sessionId ∧ job.channelId = c ∧ v.Reverse
  | .running => v.Reverse

structure ForwardSlot.Ok (sessionId c : UInt32) (v : ForwardSlot) : Prop where
  listed : ∀ n, v.listed = some n → n < v.listeners.length
  inserting : ∀ n, v.inserting = some n → n < v.listeners.length
  handler : v.HandlerOk sessionId c

/-- A check result is a refusal. -/
def Refusing (task : TaskMessage) : Prop :=
  task.command = .forwardCheckResult → ∀ r, hostReadCheckResult task.payload = some r → r.2 = false

section
variable {sessionId c : UInt32} {v v' : ForwardSlot}

/-! What the host does on a channel. -/

theorem ForwardSlot.ListenerOk.mono {l : ListenerTask} (h : v.ListenerOk l) (hlisted : v'.listed = v.listed)
    (hinserting : v'.inserting = v.inserting) (htokens : v'.tokens ≤ v.tokens) : v'.ListenerOk l where
  early := by
    intro he
    obtain ⟨hzero, hdispatcher, hup, hentry⟩ := h.early he
    rw [hlisted, hinserting]
    exact ⟨by omega, hdispatcher, hup, hentry⟩
  confirming := by
    rw [hlisted]
    exact h.confirming
  once := htokens.trans h.once
  live := by
    intro hpos
    rw [hlisted]
    exact h.live (by omega)

/-- The host may only use up what there is. -/
theorem ForwardSlot.Reverse.mono (h : v.Reverse) (hlisteners : v'.listeners = v.listeners)
    (hlisted : v'.listed = v.listed) (hinserting : v'.inserting = v.inserting)
    (hinits : v'.handler.owed + v'.inits ≤ v.handler.owed + v.inits) (htokens : v'.tokens ≤ v.tokens) :
    v'.Reverse where
  once := by
    have honce := h.once
    rw [hlisteners]
    omega
  unheard := by
    intro hnil
    have hzero := h.unheard (hlisteners ▸ hnil)
    omega
  listener := by
    intro l hl
    exact (h.listener l (hlisteners ▸ hl)).mono hlisted hinserting htokens

theorem ForwardSlot.Ok.idle (h : v.Ok sessionId c) (hidle : v.handler = .idle) :
    v.inits = 0 ∧ v.listeners = [] ∧ v.tokens = 0 := by
  simpa only [HandlerOk, hidle] using h.handler

theorem ForwardSlot.Ok.fport (h : v.Ok sessionId c) {job : ForwardJob} {phase : SetupPhase}
    (hfport : v.handler = .fport job phase) :
    job.sessionId = sessionId ∧ job.channelId = c ∧ phase.unconfirmed ∧ v.held = 0 := by
  simpa only [HandlerOk, hfport] using h.handler

theorem ForwardSlot.Ok.rport (h : v.Ok sessionId c) {job : RportJob} {phase : RportSetupPhase}
    (hrport : v.handler = .rport job phase) :
    job.sessionId = sessionId ∧ job.channelId = c ∧ v.Reverse := by
  simpa only [HandlerOk, hrport] using h.handler

/-- The handler of a channel stays, and so does what holds of it. -/
theorem ForwardSlot.Ok.handlerOk (h : v.Ok sessionId c) (hhandler : v'.handler = v.handler)
    (hidle : v.handler = .idle → v'.inits = 0 ∧ v'.listeners = [] ∧ v'.tokens = 0) (hheld : v'.held ≤ v.held)
    (hreverse : v.Reverse → v'.Reverse) : v'.HandlerOk sessionId c := by
  have hok := h.handler
  unfold HandlerOk at hok ⊢
  rw [hhandler]
  split
  · rename_i hnone
    exact hidle hnone
  · rename_i hfport
    rw [hfport] at hok
    exact ⟨hok.1, hok.2.1, hok.2.2.1, by omega⟩
  · rename_i hrport
    rw [hrport] at hok
    exact ⟨hok.1, hok.2.1, hreverse hok.2.2⟩
  · rename_i hrunning
    rw [hrunning] at hok
    exact hreverse hok

/-- Messages and entries may be lost. -/
theorem ForwardSlot.Ok.mono (h : v.Ok sessionId c) (hhandler : v'.handler = v.handler)
    (hlisteners : v'.listeners = v.listeners) (hlisted : v'.listed = v.listed)
    (hinserting : v'.inserting = v.inserting) (hinits : v'.inits ≤ v.inits)
    (hsuccesses : v'.successes ≤ v.successes) (hheld : v'.held ≤ v.held) : v'.Ok sessionId c where
  listed := by
    rw [hlisted, hlisteners]
    exact h.listed
  inserting := by
    rw [hinserting, hlisteners]
    exact h.inserting
  handler := by
    have htokens : v'.tokens ≤ v.tokens := by
      rw [ForwardSlot.tokens, ForwardSlot.tokens, hhandler]
      omega
    refine h.handlerOk hhandler (fun hidle => ?_) hheld fun hreverse => ?_
    · obtain ⟨hzero, hnil, hnone⟩ := h.idle hidle
      exact ⟨by omega, hlisteners ▸ hnil, by omega⟩
    · exact hreverse.mono hlisteners hlisted hinserting (by rw [hhandler]; omega) htokens

/-- Only reverse forwards are registered. -/
theorem ForwardSlot.Ok.reverse_of_held (h : v.Ok sessionId c) (hheld : 0 < v.held) : v.Reverse := by
  have htokens : 0 < v.tokens := by
    rw [ForwardSlot.tokens]
    omega
  cases hhandler : v.handler with
  | idle =>
    have hzero := (h.idle hhandler).2.2
    omega
  | fport job phase =>
    have hzero := (h.fport hhandler).2.2.2
    omega
  | rport job phase => exact (h.rport hhandler).2.2
  | running => simpa only [HandlerOk, hhandler] using h.handler

/-- Where there is an entry or a close there is a listener, and it is listed. -/
theorem ForwardSlot.Ok.listed_of_held (h : v.Ok sessionId c) (hheld : 0 < v.held) :
    ∃ l, v.listeners = [l] ∧ l.task.phase = .accepting ∧ v.listed = some 0 ∧ v.held = 1 := by
  have hreverse := h.reverse_of_held hheld
  have htokens : v.held ≤ v.tokens := Nat.le_add_left _ _
  have honce := hreverse.once
  match hlisteners : v.listeners with
  | [] =>
    have hzero := hreverse.unheard hlisteners
    omega
  | [l] =>
    have hl := hreverse.listener l hlisteners
    obtain ⟨haccepting, -, -, hlisted⟩ := hl.live (by omega)
    have hle := hl.once
    exact ⟨l, rfl, haccepting, hlisted, by omega⟩
  | _ :: _ :: _ =>
    rw [hlisteners, List.length_cons, List.length_cons] at honce
    omega

/-! Steps of a listener. -/

/-- A listener that is past its set-up, with nothing left that may lead to a close. -/
theorem ForwardSlot.ListenerOk.of_zero {l : ListenerTask} (hzero : v.tokens = 0)
    (hlate : ¬ l.phase.Early) : v.ListenerOk l where
  early := fun he => absurd he hlate
  confirming := fun hphase => absurd (.inr (.inr hphase)) hlate
  once := by omega
  live := by omega

/-- A step that leaves nothing to be done for a close. -/
theorem ForwardSlot.ListenerOk.zero_of_not_accepting {l : ListenerTask} (h : v.ListenerOk l)
    (hphase : l.phase ≠ .accepting) : v.tokens = 0 := by
  by_contra hpos
  exact hphase (h.live (by omega)).1

/-- The channel after a step of its only listener. -/
def ForwardSlot.onEffect (v : ForwardSlot) : ListenerEffect → ForwardSlot
  | .send msg => { v with successes := v.successes + if isSuccess msg then 1 else 0 }
  | .unlist => { v with listed := none }
  | _ => v

theorem ForwardSlot.ListenerOk.step {l l' : ListenerTask} (h : v.ListenerOk l) {listenerId : UInt32}
    {remoteSpec localSpec : String} {hasSender : Bool} {act : ListenerAct} {effect : ListenerEffect}
    (hst : listenerStep c listenerId remoteSpec localSpec hasSender l act = some (l', effect))
    (hact : act ≠ .acceptFail)
    (hsender : v.listed = some 0 ∨ v.inserting = some 0 → hasSender = true) :
    (v.onEffect effect).ListenerOk l' := by
  cases act with
  | ask ok =>
    obtain ⟨hphase, heq⟩ := Option.ite_none_right_eq_some.mp hst
    obtain ⟨hzero, hdispatcher, hup, hentry⟩ := h.early (.inl hphase)
    cases ok with
    | true =>
      cases heq
      exact {
        early := fun _ => ⟨hzero, hdispatcher, ⟨hup.aborting, hup.rx⟩, hentry⟩
        confirming := by simp
        once := h.once
        live := fun hpos => absurd hzero (Nat.ne_of_gt hpos) }
    | false =>
      cases heq
      exact .of_zero hzero (by simp [ListenerPhase.Early])
  | await =>
    obtain ⟨hphase, heq⟩ := Option.ite_none_right_eq_some.mp hst
    obtain ⟨hzero, hdispatcher, hup, hentry⟩ := h.early (.inr (.inl hphase))
    split at heq
    · rename_i m rx hrx
      cases heq
      have hlisted : v.listed = some 0 := by
        rcases hentry with hlisted | ⟨-, hnil⟩
        · exact hlisted
        · rw [hrx] at hnil
          cases hnil
      have hup' : ListenerTask.Up { l with rx, phase := .onCheck listenerId m } :=
        ⟨hup.aborting, fun hmem => hup.rx (hrx ▸ List.mem_cons_of_mem m hmem)⟩
      exact {
        early := fun _ => ⟨hzero, hdispatcher, hup', .inl hlisted⟩
        confirming := fun _ => hlisted
        once := h.once
        live := fun hpos => absurd hzero (Nat.ne_of_gt hpos) }
    · -- the queue does not end while the listener is waiting
      obtain ⟨hgone, -⟩ := Option.ite_none_left_eq_some.mp heq
      exact absurd (hsender (hentry.imp_right And.left)) hgone
  | confirm ok =>
    obtain ⟨hphase, heq⟩ := Option.ite_none_right_eq_some.mp hst
    obtain ⟨hzero, -, hup, -⟩ := h.early (.inr (.inr hphase))
    have hlate : ¬ ListenerPhase.Early .accepting := by simp [ListenerPhase.Early]
    cases ok with
    | true =>
      cases heq
      have hone : (v.onEffect (.send (daemonForwardSuccess c remoteSpec localSpec))).tokens = 1 := by
        simp only [ForwardSlot.tokens, ForwardSlot.held] at hzero
        simp only [ForwardSlot.onEffect, isSuccess, daemonForwardSuccess, ForwardSlot.tokens, ForwardSlot.held,
          beq_self_eq_true, if_true]
        omega
      exact {
        early := fun he => absurd he hlate
        confirming := by simp
        once := Nat.le_of_eq hone
        live := fun _ => ⟨rfl, rfl, ⟨hup.aborting, hup.rx⟩, h.confirming hphase⟩ }
    | false =>
      cases heq
      exact .of_zero hzero hlate
  | acceptFail => exact absurd rfl hact
  | dispatcherEnds =>
    obtain ⟨⟨-, hended⟩, heq⟩ := Option.ite_none_right_eq_some.mp hst
    cases heq
    refine .of_zero ?_ (by simp [ListenerPhase.Early])
    by_contra hpos
    have hrunning := (h.live (Nat.pos_of_ne_zero hpos)).2.1
    rw [hended] at hrunning
    cases hrunning
  | drain =>
    obtain ⟨hphase, heq⟩ := Option.ite_none_right_eq_some.mp hst
    cases heq
    exact .of_zero (h.zero_of_not_accepting (by simp [hphase])) (by simp [ListenerPhase.Early])
  | stopDispatcher =>
    obtain ⟨hphase, heq⟩ := Option.ite_none_right_eq_some.mp hst
    cases heq
    exact .of_zero (h.zero_of_not_accepting (by simp [hphase])) (by simp [ListenerPhase.Early])
  | cleanup =>
    obtain ⟨hphase, heq⟩ := Option.ite_none_right_eq_some.mp hst
    cases heq
    have hzero : v.tokens = 0 := h.zero_of_not_accepting (by simp [hphase])
    exact .of_zero hzero (by simp [ListenerPhase.Early])
  | aborted =>
    obtain ⟨haborting, heq⟩ := Option.ite_none_right_eq_some.mp hst
    cases heq
    refine .of_zero ?_ (by simp [ListenerPhase.Early])
    by_contra hpos
    have hup := (h.live (Nat.pos_of_ne_zero hpos)).2.2.1
    rw [hup.aborting] at haborting
    cases haborting
  | dispatch =>
    obtain ⟨hrunning, heq⟩ := Option.ite_none_right_eq_some.mp hst
    have hlate : ¬ l.phase.Early := by
      intro he
      have hspawn := (h.early he).2.1
      rw [hrunning] at hspawn
      cases hspawn
    split at heq
    · rename_i rx hrx
      cases heq
      refine .of_zero ?_ hlate
      by_contra hpos
      exact (h.live (Nat.pos_of_ne_zero hpos)).2.2.1.rx (by simp [hrx])
    · rename_i m rx hrx
      cases heq
      exact {
        early := fun he => absurd he hlate
        confirming := h.confirming
        once := h.once
        live := by
          intro hpos
          obtain ⟨haccepting, hrunning, hup, hlisted⟩ := h.live hpos
          refine ⟨haccepting, hrunning, ⟨hup.aborting, fun hmem => ?_⟩, hlisted⟩
          exact hup.rx (hrx ▸ List.mem_cons_of_mem (.msg m) hmem) }
    · obtain ⟨hgone, heq⟩ := Option.ite_none_left_eq_some.mp heq
      cases heq
      refine .of_zero ?_ hlate
      by_contra hpos
      exact hgone (hsender (.inl (h.live (Nat.pos_of_ne_zero hpos)).2.2.2))

/-! What the daemon does on a channel. -/

/-- The daemon changes a channel that has a listener, or is to get one. -/
theorem ForwardSlot.Ok.handlerOk_of_used (h : v.Ok sessionId c) (hused : 0 < v.inits + v.listeners.length)
    (hhandler : v'.handler = v.handler) (hheld : v'.held ≤ v.held) (hreverse : v.Reverse → v'.Reverse) :
    v'.HandlerOk sessionId c := by
  refine h.handlerOk hhandler (fun hidle => ?_) hheld hreverse
  obtain ⟨hinits, hlisteners, -⟩ := h.idle hidle
  simp [hinits, hlisteners] at hused

theorem ForwardSlot.used_of_listener {n : Nat} {l : DaemonListener} (hl : v.listeners[n]? = some l) :
    0 < v.inits + v.listeners.length := by
  obtain ⟨hn, -⟩ := List.getElem?_eq_some_iff.mp hl
  omega

/-- The only listener of a reverse forward changes. -/
theorem ForwardSlot.Reverse.listeners (h : v.Reverse) {n : Nat} {l l' : DaemonListener}
    (hl : v.listeners[n]? = some l) (hlisteners : v'.listeners = v.listeners.set n l')
    (hinits : v'.handler.owed + v'.inits = v.handler.owed + v.inits)
    (hok : n = 0 → v.ListenerOk l.task → v'.ListenerOk l'.task) : v'.Reverse := by
  have honce := h.once
  match hv : v.listeners with
  | [] => simp [hv] at hl
  | [k] =>
    obtain ⟨hn, heq⟩ := List.getElem?_eq_some_iff.mp hl
    have hn' : n = 0 := by simpa [hv] using hn
    subst hn'
    have hk : k = l := by simpa [hv] using hl
    subst hk
    have hlisteners' : v'.listeners = [l'] := by simp [hlisteners, hv]
    have hok' := hok rfl (h.listener k hv)
    refine ⟨?_, ?_, ?_⟩
    · rw [hlisteners', hinits]
      rw [hv] at honce
      exact honce
    · rw [hlisteners']
      rintro ⟨⟩
    · intro j hj
      rw [hlisteners'] at hj
      cases hj
      exact hok'
  | _ :: _ :: _ =>
    rw [hv, List.length_cons, List.length_cons] at honce
    omega

/-- The listed listener gets a message. -/
theorem ForwardSlot.Ok.push (h : v.Ok sessionId c) {n : Nat} (hlisted : v.listed = some n) {l : DaemonListener}
    (hl : v.listeners[n]? = some l) (m : RportMsg) :
    ({ v with listeners := v.listeners.set n { l with task := l.task.push (.msg m) } } : ForwardSlot).Ok
      sessionId c where
  listed := by simpa using h.listed
  inserting := by simpa using h.inserting
  handler := by
    refine h.handlerOk_of_used (used_of_listener hl) rfl (Nat.le_refl _) fun hreverse => ?_
    refine hreverse.listeners hl rfl rfl fun hn hok => ?_
    have hlisted0 : v.listed = some 0 := hn ▸ hlisted
    have hpush : l.task.Up → (l.task.push (.msg m)).Up := by
      intro hup
      exact ⟨hup.aborting, by simpa [ListenerTask.push] using hup.rx⟩
    exact {
      early := by
        intro he
        obtain ⟨hzero, hdispatcher, hup, -⟩ := hok.early he
        exact ⟨hzero, hdispatcher, hpush hup, .inl hlisted0⟩
      confirming := fun _ => hlisted0
      once := hok.once
      live := by
        intro hpos
        obtain ⟨haccepting, hrunning, hup, -⟩ := hok.live hpos
        exact ⟨haccepting, hrunning, hpush hup, hlisted0⟩ }

/-- A close arrives: the listener is told to stop. -/
theorem ForwardSlot.Ok.close (h : v.Ok sessionId c) {closes : Nat} (hcloses : v.closes = closes + 1)
    {l : DaemonListener} (hl : v.listeners[0]? = some l) :
    ({ v with closes, listed := none
              listeners := v.listeners.set 0 { l with task := l.task.close } } : ForwardSlot).Ok sessionId c := by
  have hheld : 0 < v.held := by
    rw [held]
    omega
  refine ⟨by simp, by simpa using h.inserting, ?_⟩
  refine h.handlerOk_of_used (used_of_listener hl) rfl ?_ fun hreverse => ?_
  · simp only [held]
    omega
  · refine hreverse.listeners hl rfl rfl fun _ hok => .of_zero ?_ ?_
    · have honce := hok.once
      simp only [tokens, held] at honce ⊢
      omega
    · have htokens : 0 < v.tokens := by
        rw [tokens]
        omega
      have haccepting := (hok.live htokens).1
      simp [ListenerTask.close, haccepting, ListenerPhase.Early]

/-- A `ForwardInit` arrives and spawns a listener, the first one of its channel. -/
theorem ForwardSlot.Ok.spawn (h : v.Ok sessionId c) {inits : Nat} (hinits : v.inits = inits + 1)
    {l : DaemonListener} (hl : l.task = .spawned) :
    ({ v with inits, listeners := v.listeners ++ [l]
              inserting := some v.listeners.length } : ForwardSlot).Ok sessionId c where
  listed := by
    intro n hn
    have hlt := h.listed n hn
    rw [List.length_append]
    omega
  inserting := by simp
  handler := by
    refine h.handlerOk_of_used (by omega) rfl (Nat.le_refl _) fun hreverse => ?_
    have honce := hreverse.once
    have hnil : v.listeners = [] := List.length_eq_zero_iff.mp (by omega)
    have hzero := hreverse.unheard hnil
    refine ⟨?_, by simp, ?_⟩
    · simp only [hnil, List.nil_append, List.length_singleton] at honce ⊢
      omega
    · intro k hk
      simp only [hnil, List.nil_append, List.cons.injEq, and_true] at hk
      subst hk
      rw [hl]
      exact {
        early := fun _ => ⟨hzero, rfl, ⟨rfl, by simp [ListenerTask.spawned]⟩, .inr ⟨by simp [hnil], rfl⟩⟩
        confirming := by simp [ListenerTask.spawned]
        once := (Nat.le_of_eq hzero).trans (Nat.zero_le 1)
        live := fun hpos => absurd hzero (Nat.ne_of_gt hpos) }

/-- Its entry is made. -/
theorem ForwardSlot.Ok.insert (h : v.Ok sessionId c) {n : Nat} (hinserting : v.inserting = some n) :
    ({ v with listed := some n, inserting := none } : ForwardSlot).Ok sessionId c := by
  have hn := h.inserting n hinserting
  have hl := List.getElem?_eq_getElem hn
  refine ⟨by simpa using hn, by simp, ?_⟩
  refine h.handlerOk_of_used (used_of_listener hl) rfl (Nat.le_refl _) fun hreverse => ?_
  refine hreverse.listeners hl (List.set_getElem_self hn).symm rfl fun hn0 hok => ?_
  subst hn0
  exact {
    early := by
      intro he
      obtain ⟨hzero, hdispatcher, hup, -⟩ := hok.early he
      exact ⟨hzero, hdispatcher, hup, .inl rfl⟩
    confirming := fun _ => rfl
    once := hok.once
    live := by
      intro hpos
      obtain ⟨haccepting, hrunning, hup, -⟩ := hok.live hpos
      exact ⟨haccepting, hrunning, hup, rfl⟩ }

/-- A listener takes a step. -/
theorem ForwardSlot.Ok.listener (h : v.Ok sessionId c) {n : Nat} {l : DaemonListener}
    (hl : v.listeners[n]? = some l) {hasSender : Bool} {act : ListenerAct} {task : ListenerTask}
    {effect : ListenerEffect}
    (hst : listenerStep c l.listenerId l.remoteSpec l.localSpec hasSender l.task act = some (task, effect))
    (hact : act ≠ .acceptFail) (hsender : v.listed = some n ∨ v.inserting = some n → hasSender = true) :
    ({ v.onEffect effect with listeners := v.listeners.set n { l with task } } : ForwardSlot).Ok sessionId c where
  listed := by
    cases effect with
    | unlist => simp [onEffect]
    | _ => simpa [onEffect] using h.listed
  inserting := by
    cases effect <;> simpa [onEffect] using h.inserting
  handler := by
    refine h.handlerOk_of_used (used_of_listener hl) ?_ ?_ fun hreverse => ?_
    · cases effect <;> rfl
    · cases effect <;> exact Nat.le_refl _
    · refine hreverse.listeners hl rfl ?_ fun hn hok => ?_
      · cases effect <;> rfl
      · subst hn
        exact (hok.step hst hact hsender).mono rfl rfl (Nat.le_refl _)

end

/-! Steps of a handler. -/

theorem Refusing.of_command {task : TaskMessage} (h : task.command ≠ .forwardCheckResult) : Refusing task :=
  fun hcommand => absurd hcommand h

theorem refusing_daemonCheckResult (c ctxId : UInt32) (ok : Bool) : Refusing (daemonCheckResult c ctxId ok) := by
  intro _ r hr
  rw [hostReadCheckResult_daemon] at hr
  cases hr
  rfl

section
variable {sessionId c : UInt32} {maps : SessionMaps}

/-- Without a message from the daemon the set-up of a forward gets no confirmation, since what
it sends through `UsbMap` fails. -/
theorem forwardSetup_unconfirmed {job : ForwardJob} {phase phase' : SetupPhase} {act : ServerAct SetupAct}
    {sent : List TaskMessage} (htcp : OverTcp maps job.sessionId) (hphase : phase.unconfirmed = true)
    (hact : (HandlerAct.fport act).receives = false)
    (h : (forwardSetup job).deliver maps phase act = some (phase', sent)) :
    phase'.unconfirmed = true ∧
      ∀ msg ∈ sent, msg.channelId = job.channelId ∧ msg.command ≠ .kernelChannelClose := by
  obtain ⟨a, out, hown, hstep, hsent⟩ | ⟨outcome, p, -, hp, hok, hnext, hsent⟩ | ⟨_, p, e, -, hp, -, hnext, hsent⟩ :=
    ServerHandler.deliver_cases h
  · subst hown hsent
    refine ⟨?_, by simp⟩
    cases a with
    | next =>
      cases phase with
      | start =>
        cases hstep
        split <;> rfl
      | unregister e =>
        cases hstep
        rfl
      | _ => cases hstep
    | bind outcome =>
      cases phase with
      | bindFirst => cases outcome <;> cases hstep <;> rfl
      | bind ctxId spec => cases outcome <;> cases hstep <;> rfl
      | _ => cases hstep
    | tell outcome =>
      cases phase with
      | tellFirst ctxId => cases hphase
      | tell ctxId spec => cases hphase
      | _ => cases hstep
    | recv task => cases hact
    | closed | timeout =>
      cases phase with
      | waitSuccess ctxId spec => cases hphase
      | waitFollowUp ctxId spec => cases hphase
      | waitResult ctxId =>
        cases hstep
        rfl
      | waitCheck =>
        cases hstep
        rfl
      | _ => cases hstep
  · subst hnext hsent
    cases phase with
    | check ctxId =>
      cases hp
      exact ⟨rfl, by simp [hostForwardCheck]⟩
    | init =>
      cases hp
      exact ⟨rfl, by simp [ForwardJob.initMsg]⟩
    | confirm ctxId spec =>
      cases hp
      rw [Route.send, htcp.usbSend] at hok
      cases hok
    | refuse ctxId e =>
      cases hp
      rw [Route.send, htcp.usbSend] at hok
      cases hok
    | followUp ctxId spec => cases hphase
    | _ => cases hp
  · subst hnext hsent
    refine ⟨?_, by simp⟩
    cases phase <;> cases hp <;> rfl

/-- Nor does it get one from a daemon that refuses. -/
theorem forwardSetup_receive {job : ForwardJob} {phase phase' : SetupPhase} {task : TaskMessage} {out : SetupOut}
    (hrefusing : Refusing task) (hphase : phase.unconfirmed = true)
    (h : job.step phase (.recv task) = some (phase', out)) : phase'.unconfirmed = true := by
  cases phase with
  | waitResult ctxId =>
    cases h
    unfold onCheckResult
    split
    · rename_i hcommand
      split
      · rename_i respCtxId ok hread
        have hok : ok = false := hrefusing hcommand _ hread
        rw [hok]
        split <;> rfl
      · rfl
    · rfl
    · rfl
  | waitCheck =>
    cases h
    unfold onDaemonCheck
    repeat' split
    all_goals rfl
  | waitSuccess ctxId spec => cases hphase
  | waitFollowUp ctxId spec => cases hphase
  | _ => cases h

/-- The set-up of a reverse forward sends one `ForwardInit`. -/
theorem rportSetup_sends {job : RportJob} {phase phase' : RportSetupPhase} {act : ServerAct RportSetupAct}
    {sent : List TaskMessage} (hact : (HandlerAct.rport act).receives = false)
    (h : (rportSetup job).deliver maps phase act = some (phase', sent)) :
    (HostHandler.rport job phase').owed + sent.countP (isInit job.channelId) ≤ (HostHandler.rport job phase).owed ∧
      (HostHandler.rport job phase').succeeded ≤ (HostHandler.rport job phase).succeeded ∧
      ∀ msg ∈ sent, msg.channelId = job.channelId ∧ msg.command ≠ .kernelChannelClose := by
  obtain ⟨a, out, hown, hstep, hsent⟩ | ⟨outcome, p, -, hp, hok, hnext, hsent⟩ | ⟨_, p, e, -, hp, -, hnext, hsent⟩ :=
    ServerHandler.deliver_cases h
  · subst hown hsent
    cases a with
    | recv task reachable => cases hact
    | tell outcome =>
      cases phase with
      | tell => cases outcome <;> cases hstep <;> simp [HostHandler.owed, HostHandler.succeeded]
      | _ => cases hstep
    | _ => cases phase <;> cases hstep <;> simp [HostHandler.owed, HostHandler.succeeded]
  · subst hnext hsent
    cases phase with
    | init =>
      cases hp
      simp [HostHandler.owed, HostHandler.succeeded, RportJob.initMsg, isInit]
    | reply forwardId ok =>
      cases hp
      simp [HostHandler.owed, HostHandler.succeeded, hostCheckResult, isInit]
    | _ => cases hp
  · subst hnext hsent
    cases phase <;> cases hp <;> simp [HostHandler.owed, HostHandler.succeeded]

/-- It takes one `ForwardSuccess`. -/
theorem rportSetup_receive {job : RportJob} {phase phase' : RportSetupPhase} {task : TaskMessage}
    {reachable : Bool} {out : SetupOut} (h : job.step phase (.recv task reachable) = some (phase', out)) :
    (HostHandler.rport job phase').owed ≤ (HostHandler.rport job phase).owed ∧
      (HostHandler.rport job phase').succeeded ≤ if isSuccess task then 1 else 0 := by
  cases phase <;> cases h
  unfold onRportTask
  cases hread : readRportTask task with
  | success =>
    have hcommand : task.command = .forwardSuccess := by
      unfold readRportTask at hread
      repeat' split at hread
      all_goals first | assumption | cases hread
    simp [HostHandler.owed, HostHandler.succeeded, isSuccess, hcommand]
  | _ => simp [HostHandler.owed, HostHandler.succeeded]

end

end Hdc
