import Hdc.DaemonProcess

/- Which messages of one connection reach the forwards of another (`handle_channel_close`,
   `handle_forward_task`, `handle_rport_init` and `cleanup_rport_listener` in
   `hdcd/src/forward.rs`).

   `STATE` has its connections under forward ids and its listeners under channel ids, whichever
   connection they are of, and both kinds of ids are the client's choice. So a connection
   disturbs the forwards of another when it names one of them, and `forward_isolated_iff` says
   that there is no other way. -/
namespace Hdc
open Rust Wire Feed Lts

namespace ForwardState
variable (f : ForwardState) (a : Nat)

/-- Connection `a` has an fport connection of this channel. -/
def OwnsSenderOn (channelId : UInt32) : Prop :=
  ∃ id conn, f.fportSenders.lookup id = some conn ∧ conn.owner = a ∧ conn.channelId = channelId

/-- It has an fport connection under this id that still takes data. -/
def TakesData (forwardId : UInt32) : Prop :=
  ∃ conn, f.fportSenders.lookup forwardId = some conn ∧ conn.owner = a ∧ conn.writing = true

/-- Listener `n` is its, and still takes messages. -/
def TakesMessages (n : Nat) : Prop :=
  ∃ l, f.spawned[n]? = some l ∧ l.owner = a ∧ l.task.receiving = true

/-- From `f` to `f'` nothing is delivered into the fport connections and listeners of connection
`a`, and none of them is replaced or removed. -/
structure Undisturbed (f' : ForwardState) : Prop where
  senders : ∀ id conn, f.fportSenders.lookup id = some conn → conn.owner = a →
    f'.fportSenders.lookup id = some conn
  registered : ∀ c n, f.rportListeners c = some n → f.ownerOf n = some a →
    f'.rportListeners c = some n
  listeners : ∀ (n : Nat) (l : RportListener), f.spawned[n]? = some l → l.owner = a →
    f'.spawned[n]? = some l

end ForwardState

open ForwardState in
/-- The step reaches an fport connection or a listener of connection `a`. -/
def Hits (s : DaemonProcess) (a : Nat) : ProcessAct → Prop
  | .task b outcome =>
    match s.jobs b with
    | .taken msg =>
      msg.command = .kernelChannelClose ∧
          (OwnsListener s.forward a msg.channelId ∨ OwnsSenderOn s.forward a msg.channelId) ∨
        (∃ m, routeToListener msg = some (.toListener m)) ∧
          ∃ n, s.forward.rportListeners msg.channelId = some n ∧ TakesMessages s.forward a n
    | .matched msg =>
      match matchForwardTask msg with
      | .activeSlave forwardId _ => outcome.take.connected = true ∧ OwnsSender s.forward a forwardId
      | .data forwardId _ => TakesData s.forward a forwardId
      | .freeContext forwardId => OwnsSender s.forward a forwardId
      | _ => False
    | .inserting channelId _ => OwnsListener s.forward a channelId
    | .idle | .returned _ => False
  | .listener n act =>
    -- `cleanup_rport_listener` removes what is there under the channel
    act = .cleanup ∧ ∃ l, s.forward.spawned[n]? = some l ∧ OwnsListener s.forward a l.channelId
  | .net _ | .fportEnds _ | .files _ => False

/-- The connection on whose behalf a step is taken. -/
def ProcessAct.actor (s : DaemonProcess) : ProcessAct → Option Nat
  | .net (.on i _) | .task i _ => some i
  | .listener n _ => s.forward.ownerOf n
  | .fportEnds forwardId => (s.forward.fportSenders.lookup forwardId).map FportConn.owner
  | .net .accept | .files _ => none

/-! One operation after the other. -/

namespace ForwardState
variable {f : ForwardState} {a : Nat}

theorem Undisturbed.refl (f : ForwardState) (a : Nat) : f.Undisturbed a f where
  senders _ _ h _ := h
  registered _ _ h _ := h
  listeners _ _ h _ := h

theorem undisturbed_removeSender {id : UInt32} :
    f.Undisturbed a (f.removeSender id) ↔ ¬ f.OwnsSender a id := by
  constructor
  · rintro h ⟨conn, hconn, howner⟩
    have := h.senders id conn hconn howner
    rw [removeSender, AList.lookup_erase] at this
    cases this
  · intro h
    refine { Undisturbed.refl f a with senders := ?_ }
    intro id' conn hconn howner
    have hne : id' ≠ id := by
      rintro rfl
      exact h ⟨conn, hconn, howner⟩
    rw [removeSender, AList.lookup_erase_ne hne, hconn]

theorem undisturbed_insertSender {id : UInt32} {conn : FportConn}
    (hnew : conn.owner = a → f.fportSenders.lookup id ≠ some conn) :
    f.Undisturbed a (f.insertSender id conn) ↔ ¬ f.OwnsSender a id := by
  constructor
  · rintro h ⟨old, hold, howner⟩
    have := h.senders id old hold howner
    rw [insertSender, AList.lookup_insert] at this
    cases this
    exact hnew howner hold
  · intro h
    refine { Undisturbed.refl f a with senders := ?_ }
    intro id' old hold howner
    have hne : id' ≠ id := by
      rintro rfl
      exact h ⟨old, hold, howner⟩
    rw [insertSender, AList.lookup_insert_ne hne, hold]

theorem undisturbed_sendData {id : UInt32} {data : List UInt8} :
    f.Undisturbed a (f.sendData id data) ↔ ¬ f.TakesData a id := by
  unfold sendData
  split
  · rename_i conn hconn
    have hiff : f.TakesData a id ↔ conn.writing = true ∧ f.OwnsSender a id := by
      simp only [TakesData, OwnsSender, hconn, Option.some.injEq, exists_eq_left']
      exact and_comm
    split
    · rename_i hwriting
      rw [undisturbed_insertSender, hiff, and_iff_right hwriting]
      intro _ heq
      have := congrArg FportConn.received (Option.some.inj (hconn.symm.trans heq))
      simp at this
    · rename_i hwriting
      rw [hiff]
      simp [hwriting, Undisturbed.refl]
  · rename_i hnone
    simp [TakesData, hnone, Undisturbed.refl]

theorem undisturbed_spawn (l : RportListener) : f.Undisturbed a (f.spawn l) := by
  refine { Undisturbed.refl f a with listeners := ?_ }
  intro n l' hl' _
  exact (List.getElem?_append_left (List.getElem?_eq_some_iff.mp hl').1).trans hl'

theorem undisturbed_onSpawned {n : Nat} {change : ListenerTask → ListenerTask} :
    f.Undisturbed a (f.onSpawned n change) ↔
      ∀ l, f.spawned[n]? = some l → l.owner = a → change l.task = l.task := by
  constructor
  · intro h l hl howner
    have := h.listeners n l hl howner
    rw [onSpawned, List.getElem?_modify, hl] at this
    simpa using congrArg (Option.map fun l => l.task) this
  · intro h
    refine { Undisturbed.refl f a with listeners := ?_ }
    intro m l hl howner
    rw [onSpawned, List.getElem?_modify, hl]
    split
    · rename_i hnm
      subst hnm
      simp [h l hl howner]
    · rfl

theorem undisturbed_deliver {n : Nat} {m : RportMsg} :
    f.Undisturbed a (f.deliver n m) ↔ ¬ f.TakesMessages a n := by
  rw [deliver, undisturbed_onSpawned]
  constructor
  · rintro h ⟨l, hl, howner, hreceiving⟩
    have := congrArg ListenerTask.rx (h l hl howner)
    simp [hreceiving, ListenerTask.push] at this
  · intro h l hl howner
    rw [if_neg fun hreceiving => h ⟨l, hl, howner, hreceiving⟩]

theorem undisturbed_insertListener {c : UInt32} {n : Nat} (hn : f.ownerOf n ≠ some a) :
    f.Undisturbed a (f.insertListener c n) ↔ ¬ f.OwnsListener a c := by
  constructor
  · rintro h ⟨m, hm, howner⟩
    have hnew := h.registered c m hm howner
    rw [insertListener_self] at hnew
    cases hnew
    exact hn howner
  · intro h
    refine { Undisturbed.refl f a with registered := ?_ }
    intro c' m hm howner
    have hne : c' ≠ c := by
      rintro rfl
      exact h ⟨m, hm, howner⟩
    rw [insertListener_of_ne f hne, hm]

theorem undisturbed_handleChannelClose {c : UInt32} :
    f.Undisturbed a (f.handleChannelClose c) ↔ ¬ (f.OwnsListener a c ∨ f.OwnsSenderOn a c) := by
  constructor
  · rintro h (⟨n, hn, howner⟩ | ⟨id, conn, hconn, howner, hc⟩)
    · have hnone := h.registered c n hn howner
      rw [handleChannelClose_self] at hnone
      cases hnone
    · have := (HashMap.lookup_retain.mp (h.senders id conn hconn howner)).2
      simp [hc] at this
  · intro h
    have hlistener : ¬ f.OwnsListener a c := fun hl => h (.inl hl)
    refine ⟨?_, ?_, ?_⟩
    · intro id conn hconn howner
      have hne : conn.channelId ≠ c := fun hc => h (.inr ⟨id, conn, hconn, howner, hc⟩)
      exact HashMap.lookup_retain.mpr ⟨hconn, by simp [hne]⟩
    · intro c' n hn howner
      have hne : c' ≠ c := by
        rintro rfl
        exact hlistener ⟨n, hn, howner⟩
      rw [handleChannelClose_of_ne f hne, hn]
    · intro m l hl howner
      simp only [handleChannelClose]
      split
      · rename_i n hn
        have hclose : f.Undisturbed a (f.onSpawned n .close) := by
          refine undisturbed_onSpawned.mpr fun l' hl' howner' => absurd ⟨n, hn, ?_⟩ hlistener
          rw [ownerOf, hl', Option.map_some, howner']
        exact hclose.listeners m l hl howner
      · exact hl

theorem undisturbed_onListener {n : Nat} {l l' : RportListener} (hl : f.spawned[n]? = some l)
    (hne : l.owner ≠ a) (effect : ListenerEffect) :
    f.Undisturbed a (f.onListener n l' effect) ↔
      ¬ (effect = .unlist ∧ f.OwnsListener a l'.channelId) := by
  have hlisteners : ∀ (m : Nat) (k : RportListener), f.spawned[m]? = some k → k.owner = a →
      (f.spawned.set n l')[m]? = some k := by
    intro m k hk howner
    have hnm : n ≠ m := by
      rintro rfl
      rw [hl] at hk
      cases hk
      exact hne howner
    rw [List.getElem?_set_ne hnm, hk]
  by_cases heffect : effect = .unlist
  · rw [onListener, if_pos heffect, and_iff_right heffect]
    constructor
    · rintro h ⟨m, hm, howner⟩
      have := h.registered _ m hm howner
      simp at this
    · intro h
      refine ⟨fun _ _ hconn _ => hconn, ?_, hlisteners⟩
      intro c m hm howner
      have hc : c ≠ l'.channelId := by
        rintro rfl
        exact h ⟨m, hm, howner⟩
      exact (Function.update_of_ne hc _ _).trans hm
  · rw [onListener, if_neg heffect]
    simp only [heffect, false_and, not_false_eq_true, iff_true]
    exact ⟨fun _ _ hconn _ => hconn, fun _ _ hm _ => hm, hlisteners⟩

end ForwardState

/-! One step of the process. -/

section
open ForwardState
variable {s s' : DaemonProcess} {a b : Nat} {sessionId : UInt32} {outcome : TaskOutcome}

/-- Only forward commands are routed to listeners. -/
theorem mem_forwardCommands_of_route {msg : TaskMessage} {task : ForwardTask}
    (h : routeToListener msg = some task) : msg.command ∈ forwardCommands := by
  unfold routeToListener at h
  simp only at h
  split at h
  · simp [*, forwardCommands]
  · simp [*, forwardCommands]
  · simp [*, forwardCommands]
  · simp [*, forwardCommands]
  · cases h

theorem undisturbed_handleForwardTask (f : ForwardState) (hab : a ≠ b) (msg : TaskMessage) :
    f.Undisturbed a (handleForwardTask f b msg outcome.take).1 ↔
      ¬ match matchForwardTask msg with
        | .activeSlave forwardId _ => outcome.take.connected = true ∧ OwnsSender f a forwardId
        | .data forwardId _ => TakesData f a forwardId
        | .freeContext forwardId => OwnsSender f a forwardId
        | _ => False := by
  simp only [handleForwardTask]
  cases matchForwardTask msg with
  | rportInit payload =>
    simp only [not_false_eq_true, iff_true]
    split
    · split
      · exact undisturbed_spawn _
      · exact .refl f a
    · exact .refl f a
  | activeSlave id spec =>
    simp only
    split
    · rename_i hconnected
      rw [undisturbed_insertSender fun howner => absurd howner.symm hab, and_iff_right hconnected]
    · rename_i hconnected
      simp [hconnected, Undisturbed.refl]
  | data id data => exact undisturbed_sendData
  | freeContext id => exact undisturbed_removeSender
  | toListener | check | echo | ignore => simp [Undisturbed.refl]

/-- A step of the handler of another connection. -/
theorem undisturbed_taskStep (hinv : ProcessInv s) (hab : a ≠ b)
    (h : s.taskStep b sessionId outcome (s.jobs b) = some s') :
    s.forward.Undisturbed a s'.forward ↔ ¬ Hits s a (.task b outcome) := by
  generalize hjob : s.jobs b = job at h
  simp only [Hits, hjob]
  -- a message is for the listener of its channel or a `CMD_KERNEL_CHANNEL_CLOSE`, never both
  have hclose : ∀ {msg : TaskMessage}, msg.command ∈ forwardCommands →
      msg.command ≠ .kernelChannelClose := by
    intro msg hcommand heq
    rw [heq] at hcommand
    revert hcommand
    decide
  cases DaemonProcess.taskStep_case h with
  | routed hcommand hn hroute =>
    rw [undisturbed_deliver]
    simp [hclose hcommand, hn, hroute]
  | missed hcommand hmiss =>
    refine iff_of_true (.refl s.forward a) ?_
    rintro (⟨heq, -⟩ | ⟨⟨m, hm⟩, n, hn, -⟩)
    · exact hclose hcommand heq
    · exact hmiss n m hn hm
  | @other msg _ hcommand =>
    have hroute : ¬ ∃ m, routeToListener msg = some (.toListener m) := by
      rintro ⟨m, hm⟩
      exact hcommand (mem_forwardCommands_of_route hm)
    simp only [hroute, false_and, or_false]
    by_cases hclosing : msg.command = .kernelChannelClose
    · rw [if_pos hclosing, undisturbed_handleChannelClose, and_iff_right hclosing]
    · simp [hclosing, Undisturbed.refl]
  | @matched msg => exact undisturbed_handleForwardTask s.forward hab msg
  | @inserted c n =>
    refine undisturbed_insertListener ?_
    rw [hinv.inserting b c n hjob]
    exact fun heq => hab (Option.some.inj heq).symm

theorem listenerStep_unlist {channelId listenerId : UInt32} {remoteSpec localSpec : String}
    {hasSender : Bool} {l l' : ListenerTask} {act : ListenerAct} {effect : ListenerEffect}
    (h : listenerStep channelId listenerId remoteSpec localSpec hasSender l act =
      some (l', effect)) : effect = .unlist ↔ act = .cleanup := by
  cases act <;> grind [listenerStep]

end

/-- In every reachable state, a step on behalf of connection `b` delivers nothing into the fport
connections and listeners of another connection `a`, and neither replaces nor removes any,
exactly if it does not reach one by its channel id or its forward id. -/
theorem forward_isolated_iff (env : DaemonEnv) (fs : Fs) {s s' : DaemonProcess} {act : ProcessAct}
    {a b : Nat} (hs : Reaches (processStep env) anyStep (.init fs) s)
    (h : processStep env s act = some s') (hact : act.actor s = some b) (hab : a ≠ b) :
    s.forward.Undisturbed a s'.forward ↔ ¬ Hits s a act := by
  have hinv := processInv_of_reaches hs
  cases processStep_move h with
  | net => exact iff_of_true (.refl s.forward a) fun hhit => hhit
  | task hstep =>
    cases hact
    exact undisturbed_taskStep hinv hab hstep
  | @listener n act l task effect hl hstep =>
    have howner : l.owner ≠ a := by
      intro heq
      simp only [ProcessAct.actor, ForwardState.ownerOf, hl, Option.map_some] at hact
      exact hab (heq.symm.trans (Option.some.inj hact))
    rw [ForwardState.undisturbed_onListener hl howner, listenerStep_unlist hstep]
    simp only [Hits, hl, Option.some.injEq, exists_eq_left']
  | @fportEnds id conn hconn =>
    have howner : conn.owner ≠ a := by
      intro heq
      simp only [ProcessAct.actor, hconn, Option.map_some] at hact
      exact hab (heq.symm.trans (Option.some.inj hact))
    refine iff_of_true ?_ fun hhit => hhit
    refine (ForwardState.undisturbed_insertSender ?_).mpr ?_
    · exact fun heq => absurd heq howner
    · rintro ⟨conn', hconn', heq⟩
      rw [hconn] at hconn'
      cases hconn'
      exact howner heq
  | files => cases hact

/-! Runs with two clients. -/

/-- The first has an fport connection, 5 on channel 1, and the listener of channel 2. -/
def firstForwards : List ProcessAct :=
  connectPlain 0 ++ connectPlain 1 ++ handleMsg 0 (hostActiveSlave 1 5 "tcp:1") 2 ++
    handleMsg 0 ⟨2, .forwardInit, utf8 "tcp:2 tcp:3"⟩ 3

/-- The second then sends a message, which has been handled for some steps. -/
def afterForwards (msg : TaskMessage) (steps : Nat) : Option DaemonProcess :=
  run (processStep exampleEnv) anyStep (.init fun _ => none)
    (firstForwards ++ takeMsg 1 msg ++ List.replicate steps (.task 1 exampleOutcome))

def besideForwards : Option DaemonProcess := afterForwards (hostActiveSlave 9 6 "tcp:1") 1

theorem besideForwards_isSome : besideForwards.isSome = true := by decide

/-- The state in which the second client is about to get a connection of its own, 6. -/
def beside : DaemonProcess := besideForwards.get besideForwards_isSome

set_option maxRecDepth 4000 in
theorem beside_facts :
    (processStep exampleEnv beside (.task 1 exampleOutcome)).isSome = true ∧
      beside.jobs 1 = .matched (hostActiveSlave 9 6 "tcp:1") ∧
      matchForwardTask (hostActiveSlave 9 6 "tcp:1") = .activeSlave 6 "tcp:1" ∧
      beside.forward.fportSenders.lookup 5 = some ⟨0, 1, [], true⟩ ∧
      beside.forward.fportSenders.lookup 6 = none ∧
      beside.forward.rportListeners 2 = some 0 ∧ beside.forward.ownerOf 0 = some 0 := by
  decide

theorem forward_isolated_iff_beside :
    ∃ s s' : DaemonProcess, Reaches (processStep exampleEnv) anyStep (.init fun _ => none) s ∧
      processStep exampleEnv s (.task 1 exampleOutcome) = some s' ∧
      s.forward.OwnsSender 0 5 ∧ s.forward.OwnsListener 0 2 ∧
      s.forward.Undisturbed 0 s'.forward := by
  have hreach : Reaches (processStep exampleEnv) anyStep (.init fun _ => none) beside :=
    .of_run (Option.some_get (x := besideForwards) besideForwards_isSome).symm
  obtain ⟨hstep, hjob, hmatch, hsender, hnone, hlisted, howner⟩ := beside_facts
  refine ⟨beside, _, hreach, (Option.some_get hstep).symm, ⟨_, hsender, rfl⟩, ⟨0, hlisted, howner⟩,
    (forward_isolated_iff exampleEnv _ hreach (Option.some_get hstep).symm rfl
      (by decide : 0 ≠ 1)).mpr ?_⟩
  simp only [Hits, hjob, hmatch]
  rintro ⟨-, conn, hconn, -⟩
  rw [hnone] at hconn
  cases hconn

/-- Messages of the second client that reach a forward of the first, with the number of steps
they are handled for before they do: data for its connection, the end of that connection, another
one under its id, data for its listener, another listener on its channel, and the close of each
of its channels. -/
def intrusions : List (TaskMessage × Nat) :=
  [(forwardData 9 5 [1], 1), (forwardFreeContext 9 5, 1), (hostActiveSlave 9 5 "tcp:4", 1),
    (forwardData 2 8 [1], 0), (⟨2, .forwardInit, utf8 "tcp:4 tcp:5"⟩, 2), (channelClose 1, 0),
    (channelClose 2, 0)]

/-- The first client's connection, the registration on its channel, and its listener. -/
def firstOf (f : ForwardState) : Option FportConn × Option Nat × Option RportListener :=
  (f.fportSenders.lookup 5, f.rportListeners 2, f.spawned[0]?)

def firstMade : Option FportConn × Option Nat × Option RportListener :=
  (some ⟨0, 1, [], true⟩, some 0, some ⟨⟨9, "tcp:2", "tcp:3", .spawned⟩, 0, 2⟩)

theorem firstOf_undisturbed {f f' : ForwardState} (hf : firstOf f = firstMade)
    (h : f.Undisturbed 0 f') : firstOf f' = firstMade := by
  obtain ⟨hsender, hlisted, hlistener⟩ : f.fportSenders.lookup 5 = some ⟨0, 1, [], true⟩ ∧
      f.rportListeners 2 = some 0 ∧
      f.spawned[0]? = some ⟨⟨9, "tcp:2", "tcp:3", .spawned⟩, 0, 2⟩ := by
    simpa only [firstOf, firstMade, Prod.mk.injEq] using hf
  have howner : f.ownerOf 0 = some 0 := by rw [ForwardState.ownerOf, hlistener, Option.map_some]
  rw [firstOf, h.senders 5 _ hsender rfl, h.registered 2 0 hlisted howner,
    h.listeners 0 _ hlistener rfl, firstMade]

theorem intrusions_disturb : ∀ p ∈ intrusions, ((afterForwards p.1 p.2).any fun s =>
    firstOf s.forward = firstMade ∧
      (processStep exampleEnv s (.task 1 exampleOutcome)).any fun s' =>
        firstOf s'.forward ≠ firstMade) = true := by
  decide +kernel

theorem forward_disturbed : intrusions.Forall fun p => ∃ s s' : DaemonProcess,
    afterForwards p.1 p.2 = some s ∧
      Reaches (processStep exampleEnv) anyStep (.init fun _ => none) s ∧
      processStep exampleEnv s (.task 1 exampleOutcome) = some s' ∧
      ¬ s.forward.Undisturbed 0 s'.forward := by
  rw [List.forall_iff_forall_mem]
  intro p hp
  obtain ⟨s, hs, hdisturbs⟩ := (Option.any_eq_true _ _).mp (intrusions_disturb p hp)
  rw [decide_eq_true_eq] at hdisturbs
  obtain ⟨hbefore, hafter⟩ := hdisturbs
  obtain ⟨s', hs', hne⟩ := (Option.any_eq_true _ _).mp hafter
  rw [decide_eq_true_eq] at hne
  exact ⟨s, s', hs, .of_run hs, hs', fun h => hne (firstOf_undisturbed hbefore h)⟩

end Hdc
