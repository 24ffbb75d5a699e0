import Hdc.ForwardSlot
import Hdc.Lts

/- The removal of forwards over a TCP session, and what it does to the daemon's main loop.

   The host sends `KernelChannelClose` for each entry it removes, and the daemon takes one for a
   channel without a listener as the end of the session. So the host's entries have to be
   matched by the daemon's, which `Inv` says channel by channel.

   That holds if every forward command has a channel of its own and no listener fails to
   accept. A listener that fails takes itself off the list without a word, and of two forwards
   on one channel only the later one is listed. -/
namespace Hdc
open Rust Wire Lts

/-! The channels of a session. -/

def ForwardEntry.isOf (sessionId c : UInt32) (entry : ForwardEntry) : Bool :=
  entry.sessionId == sessionId && entry.channelId == c

def MainLoop.insertingOn (c : UInt32) : MainLoop → Option Nat
  | .inserting i n => if i = c then some n else none
  | _ => none

def ForwardSession.slotWith (sessionId : UInt32) (s : ForwardSession) (c : UInt32) (ch : ForwardChannel) :
    ForwardSlot where
  handler := ch.handler
  successes := ch.toHost.countP isSuccess
  inits := s.toDaemon.countP (isInit c)
  closes := s.toDaemon.countP (isClose c)
  entries := s.closing.countP (·.isOf sessionId c) + s.map.entries.countP (·.isOf sessionId c)
  listeners := ch.listeners
  listed := ch.listed
  inserting := s.main.insertingOn c

def ForwardSession.slot (sessionId : UInt32) (s : ForwardSession) (c : UInt32) : ForwardSlot :=
  s.slotWith sessionId c (s.channels c)

structure ForwardSession.Inv (sessionId : UInt32) (s : ForwardSession) : Prop where
  alive : s.main ≠ .aborted
  slots : ∀ c, (s.slot sessionId c).Ok sessionId c
  refusing : ∀ c, ∀ task ∈ (s.channels c).toHost, Refusing task

/-! The session. -/

section
variable {sessionId c : UInt32} {s s' : ForwardSession}

/-- The other channels do not see what happens on one. -/
theorem ForwardSession.slot_setChannel_of_ne {i : UInt32} (hi : i ≠ c) (ch : ForwardChannel) :
    (s.setChannel c ch).slot sessionId i = s.slot sessionId i := by
  simp only [slot, slotWith, setChannel, Function.update_of_ne hi]

theorem ForwardSession.slot_setChannel_self (ch : ForwardChannel) :
    (s.setChannel c ch).slot sessionId c = s.slotWith sessionId c ch := by
  simp only [slot, slotWith, setChannel, Function.update_self]

/-- Something happens on one channel. -/
theorem ForwardSession.Inv.of_slot (h : s.Inv sessionId) (c : UInt32) (halive : s'.main ≠ .aborted)
    (hframe : ∀ i, i ≠ c → (s'.slot sessionId i).Ok sessionId i)
    (hslot : (s'.slot sessionId c).Ok sessionId c)
    (htoHost : ∀ i, (s'.channels i).toHost = (s.channels i).toHost) : s'.Inv sessionId where
  alive := halive
  slots := by
    intro i
    by_cases hi : i = c
    · subst hi
      exact hslot
    · exact hframe i hi
  refusing := by
    intro i
    rw [htoHost]
    exact h.refusing i

theorem ForwardSession.toHost_setChannel {ch : ForwardChannel} (hch : ch.toHost = (s.channels c).toHost)
    (i : UInt32) : ((s.setChannel c ch).channels i).toHost = (s.channels i).toHost := by
  by_cases hi : i = c
  · subst hi
    simpa only [setChannel, Function.update_self] using hch
  · simp only [setChannel, Function.update_of_ne hi]

theorem ForwardSession.Inv.setChannel (h : s.Inv sessionId) {ch : ForwardChannel}
    (hslot : (s.slotWith sessionId c ch).Ok sessionId c) (hrefusing : ∀ task ∈ ch.toHost, Refusing task) :
    (s.setChannel c ch).Inv sessionId where
  alive := h.alive
  slots := by
    intro i
    by_cases hi : i = c
    · subst hi
      rw [slot_setChannel_self]
      exact hslot
    · rw [slot_setChannel_of_ne hi]
      exact h.slots i
  refusing := by
    intro i
    by_cases hi : i = c
    · subst hi
      simpa only [ForwardSession.setChannel, Function.update_self] using hrefusing
    · simpa only [ForwardSession.setChannel, Function.update_of_ne hi] using h.refusing i

/-- The handler of a channel changes. -/
theorem ForwardSession.Inv.setHandler (h : s.Inv sessionId) {handler : HostHandler}
    (hok : ({ s.slot sessionId c with handler } : ForwardSlot).HandlerOk sessionId c) :
    (s.setHandler c handler).Inv sessionId :=
  h.setChannel ⟨(h.slots c).listed, (h.slots c).inserting, hok⟩ (h.refusing c)

/-- A message for the host is taken. -/
theorem ForwardSession.Inv.popHost (h : s.Inv sessionId) {task : TaskMessage} {toHost : List TaskMessage}
    (htoHost : (s.channels c).toHost = task :: toHost) :
    (s.setChannel c { s.channels c with toHost }).Inv sessionId := by
  refine h.setChannel ((h.slots c).mono rfl rfl rfl rfl (Nat.le_refl _) ?_ (Nat.le_refl _)) ?_
  · simp only [ForwardSession.slotWith, ForwardSession.slot, htoHost, List.countP_cons]
    omega
  · intro t ht
    exact h.refusing c t (htoHost ▸ List.mem_cons_of_mem task ht)

/-- A message is sent to the host that is of no interest for removals. -/
theorem ForwardSession.Inv.reply (h : s.Inv sessionId) {msg : TaskMessage} (hsuccess : isSuccess msg = false)
    (hrefusing : Refusing msg) : (s.reply msg).Inv sessionId := by
  refine h.setChannel ((h.slots msg.channelId).mono rfl rfl rfl rfl (Nat.le_refl _) ?_ (Nat.le_refl _)) ?_
  · simp [ForwardSession.slotWith, ForwardSession.slot, hsuccess]
  · intro task htask
    rcases List.mem_append.mp htask with hmem | hmem
    · exact h.refusing _ task hmem
    · rw [List.mem_singleton.mp hmem]
      exact hrefusing

/-- Changes outside of the channels that add nothing to any of them. -/
theorem ForwardSession.Inv.shrink (h : s.Inv sessionId) (hchannels : s'.channels = s.channels)
    (hmain : s'.main = s.main)
    (hinits : ∀ i, (s'.slot sessionId i).inits ≤ (s.slot sessionId i).inits)
    (hheld : ∀ i, (s'.slot sessionId i).held ≤ (s.slot sessionId i).held) : s'.Inv sessionId where
  alive := by
    rw [hmain]
    exact h.alive
  slots := by
    intro i
    refine (h.slots i).mono ?_ ?_ ?_ ?_ (hinits i) ?_ (hheld i)
    all_goals simp only [slot, slotWith, hchannels, hmain, Nat.le_refl]
  refusing := by
    rw [hchannels]
    exact h.refusing

/-! Steps of the host. -/

theorem ForwardSession.Inv.startFport (h : s.Inv sessionId) (hidle : (s.channels c).handler = .idle)
    {listenIp : String} {params : List String} {job : ForwardJob}
    (hjob : forwardStart sessionId c listenIp params = .ok job) :
    (s.setHandler c (.fport job .start)).Inv sessionId := by
  obtain ⟨hsession, hchannel⟩ := forwardStart_ids hjob
  have htokens := ((h.slots c).idle hidle).2.2
  have hheld : (s.slot sessionId c).held = 0 := by
    rw [ForwardSlot.tokens] at htokens
    omega
  exact h.setHandler ⟨hsession, hchannel, rfl, hheld⟩

theorem ForwardSession.Inv.startRport (h : s.Inv sessionId) (hidle : (s.channels c).handler = .idle)
    {params : List String} {job : RportJob} (hjob : rportStart sessionId c params = .ok job) :
    (s.setHandler c (.rport job .start)).Inv sessionId := by
  obtain ⟨hsession, hchannel⟩ := rportStart_ids hjob
  obtain ⟨hinits, hlisteners, htokens⟩ := (h.slots c).idle hidle
  refine h.setHandler ⟨hsession, hchannel, ?_⟩
  exact {
    once := by simp only [hinits, hlisteners, HostHandler.owed, List.length_nil, Nat.le_refl]
    unheard := by
      intro _
      simp only [ForwardSlot.tokens, ForwardSlot.held, HostHandler.succeeded] at htokens ⊢
      omega
    listener := by
      intro l hl
      rw [hlisteners] at hl
      cases hl }

/-- The handler of a channel changes, and sends something on it. -/
theorem ForwardSession.Inv.sendHandler (h : s.Inv sessionId) {handler : HostHandler} {sent : List TaskMessage}
    (hsent : ∀ msg ∈ sent, msg.channelId = c ∧ msg.command ≠ .kernelChannelClose)
    (hok : ({ s.slot sessionId c with
      handler, inits := (s.slot sessionId c).inits + sent.countP (isInit c) } : ForwardSlot).HandlerOk sessionId c) :
    ForwardSession.Inv sessionId { s.setHandler c handler with toDaemon := s.toDaemon ++ sent } := by
  have hcloses : ∀ i, (s.toDaemon ++ sent).countP (isClose i) = s.toDaemon.countP (isClose i) := by
    intro i
    have hzero : sent.countP (isClose i) = 0 :=
      List.countP_eq_zero.mpr fun msg hmsg => by simp [isClose, (hsent msg hmsg).2]
    rw [List.countP_append, hzero, Nat.add_zero]
  have hinits : ∀ i, i ≠ c → (s.toDaemon ++ sent).countP (isInit i) = s.toDaemon.countP (isInit i) := by
    intro i hi
    have hzero : sent.countP (isInit i) = 0 :=
      List.countP_eq_zero.mpr fun msg hmsg => by simp [isInit, (hsent msg hmsg).1, Ne.symm hi]
    rw [List.countP_append, hzero, Nat.add_zero]
  refine h.of_slot c h.alive (fun i hi => ?_) ?_ (ForwardSession.toHost_setChannel rfl)
  · convert h.slots i using 1
    simp only [slot, slotWith, ForwardSession.setHandler, ForwardSession.setChannel, Function.update_of_ne hi,
      hcloses, hinits i hi]
  · have hsent' : ({ s.slot sessionId c with
        handler, inits := (s.slot sessionId c).inits + sent.countP (isInit c) } : ForwardSlot).Ok sessionId c :=
      ⟨(h.slots c).listed, (h.slots c).inserting, hok⟩
    simpa only [slot, slotWith, ForwardSession.setHandler, ForwardSession.setChannel, Function.update_self,
      List.countP_append, hcloses] using hsent'

theorem ForwardSession.Inv.handlerStep (h : s.Inv sessionId) {maps : SessionMaps} (htcp : OverTcp maps sessionId)
    {act : HandlerAct} (hact : act.receives = false) {handler : HostHandler} {sent : List TaskMessage}
    (hst : (s.channels c).handler.step maps act = some (handler, sent)) :
    ForwardSession.Inv sessionId { s.setHandler c handler with toDaemon := s.toDaemon ++ sent } := by
  unfold HostHandler.step at hst
  split at hst
  · rename_i job phase act hhandler
    obtain ⟨⟨phase', _⟩, hdeliver, heq⟩ := Option.map_eq_some_iff.mp hst
    cases heq
    obtain ⟨hsession, hchannel, hphase, hheld⟩ := (h.slots c).fport hhandler
    obtain ⟨hphase', hsent⟩ := forwardSetup_unconfirmed (hsession ▸ htcp) hphase hact hdeliver
    exact h.sendHandler (hchannel ▸ hsent) ⟨hsession, hchannel, hphase', hheld⟩
  · rename_i job phase act hhandler
    obtain ⟨⟨phase', _⟩, hdeliver, heq⟩ := Option.map_eq_some_iff.mp hst
    cases heq
    obtain ⟨hsession, hchannel, hreverse⟩ := (h.slots c).rport hhandler
    obtain ⟨howed, hsucceeded, hsent⟩ := rportSetup_sends hact hdeliver
    rw [hchannel] at howed hsent
    have hold : (s.slot sessionId c).handler = .rport job phase := hhandler
    refine h.sendHandler hsent ⟨hsession, hchannel, hreverse.mono rfl rfl rfl ?_ ?_⟩
    · rw [hold]
      simp only
      omega
    · simp only [ForwardSlot.tokens, ForwardSlot.held, hold]
      omega
  · cases hst

/-- What `fport` receives is a refusal. -/
theorem ForwardSession.Inv.receiveFport (h : s.Inv sessionId) {job : ForwardJob} {phase phase' : SetupPhase}
    {task : TaskMessage} {out : SetupOut} (hhandler : (s.channels c).handler = .fport job phase)
    (hrefusing : Refusing task) (hst : job.step phase (.recv task) = some (phase', out)) :
    (s.setHandler c (.fport job phase')).Inv sessionId := by
  obtain ⟨hsession, hchannel, hphase, hheld⟩ := (h.slots c).fport hhandler
  exact h.setHandler ⟨hsession, hchannel, forwardSetup_receive hrefusing hphase hst, hheld⟩

/-- What `rport` receives may be the `ForwardSuccess` it waits for. -/
theorem ForwardSession.Inv.receiveRport (h : s.Inv sessionId) {job : RportJob} {phase phase' : RportSetupPhase}
    {task : TaskMessage} {toHost : List TaskMessage} {reachable : Bool} {out : SetupOut}
    (hhandler : (s.channels c).handler = .rport job phase) (htoHost : (s.channels c).toHost = task :: toHost)
    (hst : job.step phase (.recv task reachable) = some (phase', out)) :
    (s.setChannel c { s.channels c with toHost, handler := .rport job phase' }).Inv sessionId := by
  obtain ⟨hsession, hchannel, hreverse⟩ := (h.slots c).rport hhandler
  obtain ⟨howed, hsucceeded⟩ := rportSetup_receive hst
  have hold : (s.slot sessionId c).handler = .rport job phase := hhandler
  have hcount : (s.slot sessionId c).successes = toHost.countP isSuccess + if isSuccess task then 1 else 0 := by
    simp only [slot, slotWith, htoHost, List.countP_cons]
  refine h.setChannel ⟨(h.slots c).listed, (h.slots c).inserting, hsession, hchannel,
    hreverse.mono rfl rfl rfl ?_ ?_⟩ ?_
  · rw [hold]
    exact Nat.add_le_add_right howed _
  · have hheld : (s.slotWith sessionId c { s.channels c with toHost, handler := .rport job phase' }).held =
        (s.slot sessionId c).held := rfl
    rw [ForwardSlot.tokens, ForwardSlot.tokens, hheld, hcount]
    simp only [slotWith]
    omega
  · intro t ht
    exact h.refusing c t (htoHost ▸ List.mem_cons_of_mem task ht)

theorem ForwardSession.Inv.receive (h : s.Inv sessionId) {source : UInt32} {task : TaskMessage}
    {toHost : List TaskMessage} (htoHost : (s.channels source).toHost = task :: toHost) {reachable : Bool}
    {handler : HostHandler} (hst : (s.channels c).handler.receive task reachable = some handler)
    (hsource : source = c ∨ handler.isFport = true) :
    ((s.setChannel source { s.channels source with toHost }).setHandler c handler).Inv sessionId := by
  unfold HostHandler.receive at hst
  split at hst
  · rename_i job phase hhandler
    obtain ⟨⟨phase', out⟩, hstep, heq⟩ := Option.map_eq_some_iff.mp hst
    cases heq
    have hrefusing : Refusing task := h.refusing source task (htoHost ▸ List.mem_cons_self)
    refine (h.popHost htoHost).receiveFport ?_ hrefusing hstep
    by_cases hi : c = source
    · subst hi
      simpa only [ForwardSession.setChannel, Function.update_self] using hhandler
    · simpa only [ForwardSession.setChannel, Function.update_of_ne hi] using hhandler
  · rename_i job phase hhandler
    obtain ⟨⟨phase', out⟩, hstep, heq⟩ := Option.map_eq_some_iff.mp hst
    cases heq
    obtain rfl : source = c := by simpa [HostHandler.isFport] using hsource
    have hinv := h.receiveRport hhandler htoHost hstep
    simpa only [ForwardSession.setHandler, ForwardSession.setChannel, Function.update_self,
      Function.update_idem] using hinv
  · cases hst

/-- Only the set-up of a reverse forward gets to register an entry. -/
theorem ForwardSession.Inv.entry (h : s.Inv sessionId) {connectKey : String} {entry : ForwardEntry}
    (hentry : (s.channels c).handler.entry connectKey = some entry) :
    ∃ job, (s.channels c).handler = .rport job (.ended (.ok ())) ∧ entry.sessionId = sessionId ∧
      entry.channelId = c := by
  unfold HostHandler.entry at hentry
  split at hentry
  · rename_i hhandler
    have hphase := ((h.slots c).fport hhandler).2.2.1
    cases hphase
  · rename_i job hhandler
    cases hentry
    obtain ⟨hsession, hchannel, -⟩ := (h.slots c).rport hhandler
    exact ⟨job, hhandler, hsession, hchannel⟩
  · cases hentry

theorem ForwardSession.Inv.register (h : s.Inv sessionId) {connectKey : String} {entry : ForwardEntry}
    (hentry : (s.channels c).handler.entry connectKey = some entry) :
    ForwardSession.Inv sessionId { s.setHandler c .running with map := s.map.insert entry } := by
  obtain ⟨job, hhandler, hsession, hchannel⟩ := h.entry hentry
  have hreverse := ((h.slots c).rport hhandler).2.2
  have hinsert : ∀ i, (s.map.insert entry).entries.countP (·.isOf sessionId i) ≤
      s.map.entries.countP (·.isOf sessionId i) + if c = i then 1 else 0 := by
    intro i
    have hle := s.map.countP_insert_le entry (·.isOf sessionId i)
    simpa only [ForwardEntry.isOf, hsession, hchannel, beq_self_eq_true, Bool.true_and, beq_iff_eq] using hle
  refine h.of_slot c h.alive (fun i hi => ?_) ?_ (ForwardSession.toHost_setChannel rfl)
  · have hle := hinsert i
    rw [if_neg (Ne.symm hi)] at hle
    refine (h.slots i).mono ?_ ?_ ?_ rfl (Nat.le_refl _) ?_ ?_
    all_goals simp only [slot, slotWith, ForwardSession.setHandler, ForwardSession.setChannel,
      Function.update_of_ne hi, Nat.le_refl]
    simp only [ForwardSlot.held]
    omega
  · have hle := hinsert c
    rw [if_pos rfl] at hle
    have hregistered : ({ s.slot sessionId c with
        handler := .running
        entries := s.closing.countP (·.isOf sessionId c) +
          (s.map.insert entry).entries.countP (·.isOf sessionId c) } : ForwardSlot).Ok sessionId c := by
      refine ⟨(h.slots c).listed, (h.slots c).inserting, hreverse.mono rfl rfl rfl ?_ ?_⟩
      · exact Nat.add_le_add_right (Nat.zero_le _) _
      · simp only [ForwardSlot.tokens, ForwardSlot.held, slot, slotWith, hhandler, HostHandler.succeeded]
        omega
    simpa only [slot, slotWith, ForwardSession.setHandler, ForwardSession.setChannel,
      Function.update_self] using hregistered

theorem ForwardSession.Inv.registerOther (h : s.Inv sessionId) {entry : ForwardEntry}
    (hother : entry.sessionId ≠ sessionId) :
    ForwardSession.Inv sessionId { s with map := s.map.insert entry } := by
  refine h.shrink rfl rfl (fun _ => Nat.le_refl _) fun i => ?_
  have hle := s.map.countP_insert_le entry (·.isOf sessionId i)
  simp only [ForwardEntry.isOf, beq_eq_false_iff_ne.mpr hother, Bool.false_and, Bool.false_eq_true,
    if_false] at hle
  simp only [ForwardSlot.held, slot, slotWith, ForwardEntry.isOf]
  omega

theorem ForwardSession.Inv.reorder (h : s.Inv sessionId) {entries : List ForwardEntry} {map : ForwardMap}
    (hmap : s.map.reorder entries = some map) : ForwardSession.Inv sessionId { s with map } := by
  obtain ⟨hperm, heq⟩ := Option.dite_none_right_eq_some.mp hmap
  cases heq
  refine h.shrink rfl rfl (fun _ => Nat.le_refl _) fun i => Nat.le_of_eq ?_
  simp only [ForwardSlot.held, slot, slotWith, hperm.countP_eq]

/-- An entry that is removed is to be closed. -/
theorem ForwardSession.Inv.remove (h : s.Inv sessionId) (hclosing : s.closing = [])
    (connectKeyFilter spec : String) :
    ForwardSession.Inv sessionId { s with
      map := (removeForwardEntry s.map connectKeyFilter spec).1
      closing := (removeForwardEntry s.map connectKeyFilter spec).2.1 } := by
  refine h.shrink rfl rfl (fun _ => Nat.le_refl _) fun i => Nat.le_of_eq ?_
  have hperm := (removeForwardEntry_perm s.map connectKeyFilter spec).countP_eq (·.isOf sessionId i)
  rw [List.countP_append] at hperm
  simp only [ForwardSlot.held, slot, slotWith, hperm, hclosing, List.countP_nil, Nat.zero_add]

/-- The close of an entry is sent, or is not. -/
theorem ForwardSession.Inv.close (h : s.Inv sessionId) {entry : ForwardEntry} {closing : List ForwardEntry}
    (hclosing : s.closing = entry :: closing) {sent : Prop} [Decidable sent] (hsent : sent → entry.sessionId = sessionId) :
    ForwardSession.Inv sessionId { s with
      closing, toDaemon := s.toDaemon ++ if sent then [channelClose entry.channelId] else [] } := by
  refine h.shrink rfl rfl (fun i => ?_) fun i => ?_
  · simp only [slot, slotWith, List.countP_append]
    split <;> simp [isInit, channelClose]
  · simp only [ForwardSlot.held, slot, slotWith, hclosing, List.countP_append, List.countP_cons]
    by_cases hs : sent
    · have hof : entry.isOf sessionId i = isClose i (channelClose entry.channelId) := by
        simp [ForwardEntry.isOf, isClose, channelClose, hsent hs]
      simp only [if_pos hs, List.countP_singleton, hof]
      omega
    · simp only [if_neg hs, List.countP_nil]
      omega

theorem ForwardSession.Inv.hostSends (h : s.Inv sessionId) {msg : TaskMessage} (hmsg : hostOwn msg = false) :
    ForwardSession.Inv sessionId { s with toDaemon := s.toDaemon ++ [msg] } := by
  simp only [hostOwn, Bool.or_eq_false_iff] at hmsg
  obtain ⟨⟨⟨hinit, hrport⟩, hclose⟩, -⟩ := hmsg
  refine h.shrink rfl rfl (fun i => Nat.le_of_eq ?_) fun i => Nat.le_of_eq ?_
  · simp [slot, slotWith, isInit, hinit, hrport]
  · simp [ForwardSlot.held, slot, slotWith, isClose, hclose]

/-! Steps of the daemon. -/

theorem ForwardSession.Inv.pop (h : s.Inv sessionId) {msg : TaskMessage} {toDaemon : List TaskMessage}
    (htoDaemon : s.toDaemon = msg :: toDaemon) : ForwardSession.Inv sessionId { s with toDaemon } := by
  refine h.shrink rfl rfl (fun i => ?_) (fun i => ?_)
  · simp only [slot, slotWith, htoDaemon, List.countP_cons]
    omega
  · simp only [ForwardSlot.held, slot, slotWith, htoDaemon, List.countP_cons]
    omega

theorem ForwardSession.Inv.echo (h : s.Inv sessionId) (i : UInt32) (text : String) (level : MessageLevel) :
    (s.reply (echoClient i text level)).Inv sessionId := by
  have hcommand : (echoClient i text level).command = .kernelEcho := rfl
  exact h.reply (by simp [isSuccess, hcommand]) (.of_command (by simp [hcommand]))

/-- Something happens to the listener that has the channel's entry. -/
theorem ForwardSession.onListed_eq {n : Nat} (hlisted : (s.channels c).listed = some n) {l : DaemonListener}
    (hl : (s.channels c).listeners[n]? = some l) (f : ListenerTask → ListenerTask) :
    s.onListed c f = (s.channels c).listeners.set n { l with task := f l.task } := by
  simp only [onListed, hlisted, List.modify_eq_set_getElem?, hl, Option.map_eq_map, Option.map_some,
    Option.getD_some]

theorem ForwardSession.Inv.push (h : s.Inv sessionId) (m : RportMsg) :
    (s.setChannel c { s.channels c with
      listeners := s.onListed c (·.push (.msg m)) }).Inv sessionId := by
  cases hlisted : (s.channels c).listed with
  | none =>
    have hsame : s.onListed c (·.push (.msg m)) = (s.channels c).listeners := by
      simp only [ForwardSession.onListed, hlisted]
    rw [hsame]
    exact h.setChannel (h.slots c) (h.refusing c)
  | some n =>
    have hl := List.getElem?_eq_getElem ((h.slots c).listed n hlisted)
    rw [ForwardSession.onListed_eq hlisted hl]
    exact h.setChannel ((h.slots c).push hlisted hl m) (h.refusing c)

/-- The message at the front of the session is a close. Then its channel has a listed
listener. -/
theorem ForwardSession.Inv.channelClosed (h : s.Inv sessionId) {msg : TaskMessage} {toDaemon : List TaskMessage}
    (htoDaemon : s.toDaemon = msg :: toDaemon) (hmsg : msg.command = .kernelChannelClose)
    (hreading : s.main = .reading) :
    (ForwardSession.channelClosed { s with toDaemon } msg.channelId).Inv sessionId := by
  generalize hc : msg.channelId = c
  have hcloses : (s.slot sessionId c).closes = toDaemon.countP (isClose c) + 1 := by
    simp [slot, slotWith, htoDaemon, isClose, hmsg, hc]
  have hinits : (s.slot sessionId c).inits = toDaemon.countP (isInit c) := by
    simp [slot, slotWith, htoDaemon, isInit, hmsg]
  obtain ⟨l, hlisteners, -, hlisted, -⟩ := (h.slots c).listed_of_held (by rw [ForwardSlot.held]; omega)
  have hlisted' : (s.channels c).listed = some 0 := hlisted
  have hl : (s.channels c).listeners[0]? = some l := by
    rw [show (s.channels c).listeners = [l] from hlisteners]
    rfl
  have hmain : (if s.forwardChannel c then MainLoop.reading else .aborted) = s.main := by
    simp [ForwardSession.forwardChannel, hlisted', hreading]
  have hpopped : ForwardSession.Inv sessionId { s with
      toDaemon, main := if s.forwardChannel c then MainLoop.reading else .aborted
      senders := s.senders.filter (·.2 != c) } :=
    (h.pop htoDaemon).shrink rfl hmain (fun _ => Nat.le_refl _) (fun _ => Nat.le_refl _)
  have hset : ForwardSession.onListed { s with toDaemon } c .close =
      (s.channels c).listeners.set 0 { l with task := l.task.close } :=
    ForwardSession.onListed_eq (s := { s with toDaemon }) hlisted' hl _
  have hreply : isSuccess (channelClose c) = false := rfl
  have hrefusing : Refusing (channelClose c) := .of_command (by simp [channelClose])
  refine ForwardSession.Inv.reply ?_ hreply hrefusing
  refine hpopped.setChannel ?_ (h.refusing c)
  have hclosed := (h.slots c).close hcloses hl
  simp only [slotWith, hset]
  rw [hinits] at hclosed
  exact hmain ▸ hclosed

/-- The message at the front of the session spawns a listener. -/
theorem ForwardSession.Inv.spawn (h : s.Inv sessionId) {msg : TaskMessage} {toDaemon : List TaskMessage}
    (htoDaemon : s.toDaemon = msg :: toDaemon) (hinit : isInit c msg = true) (hreading : s.main = .reading)
    {l : DaemonListener} (hl : l.task = .spawned) :
    ForwardSession.Inv sessionId { ForwardSession.setChannel { s with toDaemon } c
        { s.channels c with listeners := (s.channels c).listeners ++ [l] } with
      main := .inserting c (s.channels c).listeners.length } := by
  have hmsg := hinit
  simp only [isInit, Bool.and_eq_true, Bool.or_eq_true, beq_iff_eq] at hmsg
  have hclose : ∀ i, isClose i msg = false := by
    intro i
    rcases hmsg.1 with hcommand | hcommand <;> rw [isClose, hcommand] <;> rfl
  have hother : ∀ i, i ≠ c → isInit i msg = false := by
    intro i hi
    simp [isInit, hmsg.2, Ne.symm hi]
  refine h.of_slot c (by simp) (fun i hi => ?_) ?_ (ForwardSession.toHost_setChannel rfl)
  · convert h.slots i using 1
    simp [slot, slotWith, ForwardSession.setChannel, Function.update_of_ne hi, htoDaemon, hclose, hother i hi,
      MainLoop.insertingOn, Ne.symm hi, hreading]
  · have hcount : (s.slot sessionId c).inits = toDaemon.countP (isInit c) + 1 := by
      simp only [slot, slotWith, htoDaemon, List.countP_cons, hinit, if_true]
    have hspawned := (h.slots c).spawn hcount hl
    simpa [slot, slotWith, ForwardSession.setChannel, htoDaemon, hclose, MainLoop.insertingOn] using hspawned

/-- A listener is not given a `ForwardInit`. -/
theorem routeToListener_ne {msg : TaskMessage} {task : ForwardTask} (payload : List UInt8)
    (h : routeToListener msg = some task) : task ≠ .rportInit payload := by
  unfold routeToListener at h
  dsimp only at h
  split at h
  all_goals
    cases h
    try split <;> nofun

theorem matchForwardTask_rportInit {msg : TaskMessage} {payload : List UInt8}
    (h : matchForwardTask msg = .rportInit payload) :
    msg.command = .forwardInit ∨ msg.command = .forwardRportInit := by
  unfold matchForwardTask at h
  dsimp only at h
  split at h
  · exact .inl ‹_›
  · exact .inr ‹_›
  all_goals first
    | cases h
    | (split at h <;> cases h)

theorem decodeForwardTask_rportInit {hasListener : Bool} {msg : TaskMessage} {payload : List UInt8}
    (h : decodeForwardTask hasListener msg = .rportInit payload) :
    msg.command = .forwardInit ∨ msg.command = .forwardRportInit := by
  cases hrouted : (if hasListener then routeToListener msg else none) with
  | none =>
    rw [decodeForwardTask, hrouted] at h
    exact matchForwardTask_rportInit h
  | some task =>
    rw [decodeForwardTask, hrouted] at h
    obtain ⟨-, hroute⟩ := Option.ite_none_right_eq_some.mp hrouted
    exact absurd h (routeToListener_ne payload hroute)

theorem ForwardSession.Inv.forwardTask (h : s.Inv sessionId) {msg : TaskMessage} {toDaemon : List TaskMessage}
    (htoDaemon : s.toDaemon = msg :: toDaemon) (hreading : s.main = .reading) (outcome : TakeOutcome) :
    (ForwardSession.forwardTask { s with toDaemon } msg outcome).Inv sessionId := by
  have hpop : ForwardSession.Inv sessionId { s with toDaemon } := h.pop htoDaemon
  have hsenders : ∀ senders, ForwardSession.Inv sessionId { s with toDaemon, senders } := fun senders =>
    hpop.shrink rfl rfl (fun _ => Nat.le_refl _) (fun _ => Nat.le_refl _)
  simp only [ForwardSession.forwardTask]
  split
  · exact hpop.push _
  · rename_i payload hdecode
    have hinit : isInit msg.channelId msg = true := by
      rcases decodeForwardTask_rportInit hdecode with hcommand | hcommand <;> simp [isInit, hcommand]
    unfold ForwardSession.rportInit
    split
    · split
      · exact h.spawn htoDaemon hinit hreading rfl
      · exact hpop.echo _ _ _
    · exact hpop.echo _ _ _
  · exact hpop.reply (by simp [isSuccess, daemonCheckResult]) (refusing_daemonCheckResult _ _ _)
  · split
    · exact (hsenders _).reply (by simp [isSuccess, daemonActiveMaster])
        (.of_command (by simp [daemonActiveMaster]))
    · exact hpop.reply (by simp [isSuccess, forwardFreeContext]) (.of_command (by simp [forwardFreeContext]))
  · exact hpop
  · exact hsenders _
  · exact hpop.echo _ _ _
  · exact hpop

theorem ForwardSession.Inv.dispatch (h : s.Inv sessionId) {msg : TaskMessage} {toDaemon : List TaskMessage}
    (htoDaemon : s.toDaemon = msg :: toDaemon) (hreading : s.main = .reading) (outcome : TakeOutcome) :
    (ForwardSession.dispatch { s with toDaemon } msg outcome).Inv sessionId := by
  unfold ForwardSession.dispatch
  split
  · rename_i hclose
    exact h.channelClosed htoDaemon hclose hreading
  · split
    · exact h.forwardTask htoDaemon hreading outcome
    · exact h.pop htoDaemon

theorem ForwardSession.Inv.insert (h : s.Inv sessionId) {n : Nat} (hmain : s.main = .inserting c n) :
    ForwardSession.Inv sessionId
      { s.setChannel c { s.channels c with listed := some n } with main := .reading } := by
  refine h.of_slot c (by simp) (fun i hi => ?_) ?_ (ForwardSession.toHost_setChannel rfl)
  · convert h.slots i using 1
    simp [slot, slotWith, ForwardSession.setChannel, Function.update_of_ne hi, MainLoop.insertingOn, Ne.symm hi,
      hmain]
  · have hinserting : (s.slot sessionId c).inserting = some n := by
      simp [slot, slotWith, hmain, MainLoop.insertingOn]
    have hinserted := (h.slots c).insert hinserting
    simpa [slot, slotWith, ForwardSession.setChannel, MainLoop.insertingOn] using hinserted

theorem MainLoop.insertingOn_eq_some {main : MainLoop} {n : Nat} :
    main.insertingOn c = some n ↔ main = .inserting c n := by
  cases main with
  | inserting i m =>
    simp only [insertingOn, inserting.injEq]
    split <;> simp_all
  | _ => simp [insertingOn]

/-- What a listener sends is no check result. -/
theorem listenerStep_send {listenerId : UInt32} {remoteSpec localSpec : String} {hasSender : Bool}
    {l l' : ListenerTask} {act : ListenerAct} {msg : TaskMessage}
    (h : listenerStep c listenerId remoteSpec localSpec hasSender l act = some (l', .send msg)) : Refusing msg := by
  cases act with
  | ask ok =>
    obtain ⟨-, heq⟩ := Option.ite_none_right_eq_some.mp h
    cases ok <;> cases heq
    exact .of_command (by simp [daemonForwardCheck])
  | confirm ok =>
    obtain ⟨-, heq⟩ := Option.ite_none_right_eq_some.mp h
    cases ok <;> cases heq
    exact .of_command (by simp [daemonForwardSuccess])
  | await =>
    obtain ⟨-, heq⟩ := Option.ite_none_right_eq_some.mp h
    repeat' split at heq
    all_goals cases heq
  | dispatch =>
    obtain ⟨-, heq⟩ := Option.ite_none_right_eq_some.mp h
    repeat' split at heq
    all_goals cases heq
  | _ =>
    obtain ⟨-, heq⟩ := Option.ite_none_right_eq_some.mp h
    cases heq

theorem ForwardSession.Inv.listener (h : s.Inv sessionId) {n : Nat} {l : DaemonListener}
    (hl : (s.channels c).listeners[n]? = some l) {act : ListenerAct} {task : ListenerTask} {effect : ListenerEffect}
    (hst : listenerStep c l.listenerId l.remoteSpec l.localSpec (s.hasSender c n) l.task act = some (task, effect))
    (hact : act ≠ .acceptFail) : (s.onListener c n { l with task } effect).Inv sessionId := by
  have hsender : (s.slot sessionId c).listed = some n ∨ (s.slot sessionId c).inserting = some n →
      s.hasSender c n = true := by
    rintro (hlisted | hinserting)
    · have hlisted' : (s.channels c).listed = some n := hlisted
      simp [ForwardSession.hasSender, hlisted']
    · have hmain : s.main = .inserting c n := MainLoop.insertingOn_eq_some.mp hinserting
      simp [ForwardSession.hasSender, hmain]
  have hok := (h.slots c).listener hl hst hact hsender
  cases effect with
  | send msg =>
    refine h.setChannel ?_ ?_
    · simpa [ForwardSlot.onEffect, slot, slotWith, List.countP_singleton] using hok
    · intro t ht
      rcases List.mem_append.mp ht with hmem | hmem
      · exact h.refusing c t hmem
      · rw [List.mem_singleton.mp hmem]
        exact listenerStep_send hst
  | _ => exact h.setChannel hok (h.refusing c)

/-! Every step. -/

/-- A forward command has a channel of its own, and no listener fails to accept. -/
def Careful (s : ForwardSession) : ForwardAct → Prop
  | .fport c _ _ | .rport c _ => (s.channels c).handler = .idle
  | .listener _ _ act => act ≠ .acceptFail
  | _ => True

instance (s : ForwardSession) : (act : ForwardAct) → Decidable (Careful s act)
  | .fport c _ _ | .rport c _ => inferInstanceAs (Decidable ((s.channels c).handler = .idle))
  | .listener _ _ act => inferInstanceAs (Decidable (act ≠ .acceptFail))
  | .handler _ _ | .receive _ _ _ | .register _ _ | .registerOther _ | .reorder _ | .remove _ _ | .close _
  | .hostSends _ | .daemonSends _ | .drop _ | .take _ | .insert => inferInstanceAs (Decidable True)

theorem ForwardSession.Inv.init : ForwardSession.init.Inv sessionId where
  alive := by simp [ForwardSession.init]
  slots := fun _ => ⟨by simp [slot, slotWith, ForwardSession.init], by
    simp [slot, slotWith, ForwardSession.init, MainLoop.insertingOn], ⟨rfl, rfl, rfl⟩⟩
  refusing := by simp [ForwardSession.init]

theorem ForwardSession.Inv.step {maps : SessionMaps} (htcp : OverTcp maps sessionId) (h : s.Inv sessionId)
    {act : ForwardAct} (hcareful : Careful s act) (hst : forwardStep maps sessionId s act = some s') :
    s'.Inv sessionId := by
  cases act with
  | fport c listenIp params =>
    obtain ⟨-, heq⟩ := Option.ite_none_right_eq_some.mp hst
    split at heq
    · rename_i job hjob
      cases heq
      exact h.startFport hcareful hjob
    · cases heq
      exact h
  | rport c params =>
    obtain ⟨-, heq⟩ := Option.ite_none_right_eq_some.mp hst
    split at heq
    · rename_i job hjob
      cases heq
      exact h.startRport hcareful hjob
    · cases heq
      exact h
  | handler c act =>
    obtain ⟨hact, heq⟩ := Option.ite_none_left_eq_some.mp hst
    obtain ⟨⟨handler, sent⟩, hhandler, heq⟩ := Option.map_eq_some_iff.mp heq
    cases heq
    exact h.handlerStep htcp (by simpa using hact) hhandler
  | receive c source reachable =>
    simp only [forwardStep] at hst
    split at hst
    · rename_i task toHost htoHost
      obtain ⟨handler, hreceive, heq⟩ := Option.bind_eq_some_iff.mp hst
      obtain ⟨hsource, heq⟩ := Option.ite_none_right_eq_some.mp heq
      cases heq
      exact h.receive htoHost hreceive hsource
    · cases hst
  | register c connectKey =>
    obtain ⟨-, heq⟩ := Option.ite_none_right_eq_some.mp hst
    obtain ⟨entry, hentry, heq⟩ := Option.map_eq_some_iff.mp heq
    cases heq
    exact h.register hentry
  | registerOther entry =>
    obtain ⟨⟨-, hother⟩, heq⟩ := Option.ite_none_right_eq_some.mp hst
    cases heq
    exact h.registerOther hother
  | reorder entries =>
    obtain ⟨map, hmap, heq⟩ := Option.map_eq_some_iff.mp hst
    cases heq
    exact h.reorder hmap
  | remove connectKeyFilter spec =>
    obtain ⟨hclosing, heq⟩ := Option.ite_none_right_eq_some.mp hst
    cases heq
    exact h.remove hclosing connectKeyFilter spec
  | close outcome =>
    simp only [forwardStep] at hst
    split at hst
    · rename_i entry closing hclosing
      cases hst
      exact h.close hclosing And.left
    · cases hst
  | hostSends msg =>
    obtain ⟨hmsg, heq⟩ := Option.ite_none_left_eq_some.mp hst
    cases heq
    exact h.hostSends (by simpa using hmsg)
  | daemonSends msg =>
    obtain ⟨hmsg, heq⟩ := Option.ite_none_left_eq_some.mp hst
    cases heq
    simp only [daemonOwn, Bool.or_eq_true, beq_iff_eq, not_or] at hmsg
    exact h.reply (by simpa [isSuccess] using hmsg.1) (.of_command hmsg.2)
  | drop c =>
    simp only [forwardStep] at hst
    split at hst
    · rename_i htoHost
      cases hst
      exact h.popHost htoHost
    · cases hst
  | take outcome =>
    obtain ⟨hreading, heq⟩ := Option.ite_none_right_eq_some.mp hst
    split at heq
    · rename_i htoDaemon
      cases heq
      exact h.dispatch htoDaemon hreading outcome
    · cases heq
  | insert =>
    simp only [forwardStep] at hst
    split at hst
    · rename_i hmain
      cases hst
      exact h.insert hmain
    · cases hst
  | listener c n act =>
    obtain ⟨l, hl, heq⟩ := Option.bind_eq_some_iff.mp hst
    obtain ⟨⟨task, effect⟩, hlistener, heq⟩ := Option.map_eq_some_iff.mp heq
    cases heq
    exact h.listener hl hlistener hcareful

end

/-! Removals. -/

/-- A close that arrives next is answered, and `dispatch_task` returns as for any other
message. -/
def ForwardSession.ServesClose (sessionId : UInt32) (s : ForwardSession) : Prop :=
  ∀ msg toDaemon, s.toDaemon = msg :: toDaemon → msg.command = .kernelChannelClose → ∀ others io d,
    dispatchTask ⟨others, s.forwardChannel⟩ sessionId io d msg = (d, [channelClose msg.channelId], .ok ())

/-- In every run over a TCP session with a channel for every forward command and without a failed
accept, the daemon takes every close for one of a forward, and its main loop goes on. -/
theorem removal_keeps_session {maps : SessionMaps} {sessionId : UInt32} (htcp : OverTcp maps sessionId)
    {s : ForwardSession} (h : Reaches (forwardStep maps sessionId) Careful .init s) :
    s.main ≠ .aborted ∧ s.ServesClose sessionId := by
  have hinv : s.Inv sessionId := h.invariant (fun hi hc hst => hi.step htcp hc hst) .init
  refine ⟨hinv.alive, ?_⟩
  intro msg toDaemon htoDaemon hmsg others io d
  have hheld : 0 < (s.slot sessionId msg.channelId).held := by
    simp only [ForwardSlot.held, ForwardSession.slot, ForwardSession.slotWith, htoDaemon, List.countP_cons,
      isClose, hmsg, beq_self_eq_true, Bool.and_self, if_true]
    omega
  obtain ⟨-, -, -, hlisted, -⟩ := (hinv.slots msg.channelId).listed_of_held hheld
  have hlisted' : (s.channels msg.channelId).listed = some 0 := hlisted
  have hchannel : s.forwardChannel msg.channelId = true := by
    simp [ForwardSession.forwardChannel, hlisted']
  simp only [dispatchTask, hmsg, hchannel, if_true]

/-- Session 9, over TCP. -/
def exampleMaps : SessionMaps := ⟨[9], []⟩

/-- A reverse forward on a channel, from the command to its entry; its listener is the `n`th of
the channel. -/
def exampleReverse (c listenerId : UInt32) (n : Nat) (remoteSpec localSpec : String) : List ForwardAct :=
  [.rport c ["rport", remoteSpec, localSpec], .handler c (.rport (.own .next)),
    .handler c (.rport (.send (.ok ()))), .take ⟨.ok (), listenerId, true, true⟩, .insert,
    .listener c n (.ask true), .receive c c true, .handler c (.rport (.send (.ok ()))),
    .take ⟨.ok (), 0, true, true⟩, .listener c n .await, .listener c n (.confirm true),
    .receive c c true, .handler c (.rport (.own (.tell (.ok ())))), .register c "10.0.0.1:5555"]

/-- Two forwards are set up on their channels, and both are removed. -/
def exampleRemoval : Option ForwardSession :=
  run (forwardStep exampleMaps 9) Careful .init
    (exampleReverse 1 5 0 "tcp:8080" "tcp:18080" ++ exampleReverse 2 6 0 "tcp:8081" "tcp:18081" ++
      [.remove "any" "", .close (.ok ()), .close (.ok ())])

theorem exampleRemoval_isSome : exampleRemoval.isSome = true := by decide

theorem removal_keeps_session_two :
    OverTcp exampleMaps 9 ∧
    (exampleRemoval.get exampleRemoval_isSome).toDaemon = [channelClose 2, channelClose 1] ∧
    (exampleRemoval.get exampleRemoval_isSome).main ≠ .aborted ∧
      (exampleRemoval.get exampleRemoval_isSome).ServesClose 9 :=
  ⟨by decide, by decide, removal_keeps_session (by decide : OverTcp exampleMaps 9)
    (.of_run (Option.some_get (x := exampleRemoval) exampleRemoval_isSome).symm)⟩

/-- The message that arrives next is a close for which `dispatch_task` fails, and the main loop
is left. -/
def ForwardSession.EndsSession (maps : SessionMaps) (sessionId c : UInt32) (s : ForwardSession) : Prop :=
  s.toDaemon = [channelClose c] ∧
  (∀ others io d, dispatchTask ⟨others, s.forwardChannel⟩ sessionId io d (channelClose c) =
    (d, [channelClose c], .error ⟨.connectionAborted, "channel closed"⟩)) ∧
  ∀ outcome, (forwardStep maps sessionId s (.take outcome)).map (·.main) = some .aborted

/-- So it is with a close for a channel that has nothing of a forward. -/
theorem ForwardSession.EndsSession.of_missing {maps : SessionMaps} {sessionId c : UInt32} {s : ForwardSession}
    (htoDaemon : s.toDaemon = [channelClose c]) (hreading : s.main = .reading)
    (hmissing : s.forwardChannel c = false) : s.EndsSession maps sessionId c := by
  have hcommand : (channelClose c).command = .kernelChannelClose := rfl
  have hchannel : (channelClose c).channelId = c := rfl
  have hmissing' : ((s.channels c).listed.isSome || s.senders.any (·.2 == c)) = false := hmissing
  refine ⟨htoDaemon, fun others io d => ?_, fun outcome => ?_⟩
  · simp only [dispatchTask, hcommand, hchannel, hmissing, Bool.false_eq_true, if_false]
  · simp only [forwardStep, hreading, if_true, htoDaemon, Option.map_some, ForwardSession.dispatch, hcommand,
      hchannel, ForwardSession.channelClosed, ForwardSession.forwardChannel, hmissing', Bool.false_eq_true,
      if_false, ForwardSession.reply, ForwardSession.setChannel]

/-- Two forwards are set up on one channel, which a client may keep open, and both are removed;
the first close has been taken. -/
def exampleShared : Option ForwardSession :=
  run (forwardStep exampleMaps 9) anyStep .init
    (exampleReverse 1 5 0 "tcp:8080" "tcp:18080" ++ exampleReverse 1 6 1 "tcp:8081" "tcp:18081" ++
      [.remove "any" "", .close (.ok ()), .close (.ok ()), .take ⟨.ok (), 0, true, true⟩])

/-- The listener of a forward fails to accept, and the forward is removed. -/
def exampleFailed : Option ForwardSession :=
  run (forwardStep exampleMaps 9) anyStep .init
    (exampleReverse 1 5 0 "tcp:8080" "tcp:18080" ++
      [.listener 1 0 .acceptFail, .listener 1 0 .drain, .listener 1 0 .stopDispatcher, .listener 1 0 .cleanup,
        .remove "any" "tcp:8080", .close (.ok ())])

theorem exampleShared_isSome : exampleShared.isSome = true := by decide

theorem exampleFailed_isSome : exampleFailed.isSome = true := by decide

/-- In both a close of the host ends the session. -/
theorem removal_ends_session :
    OverTcp exampleMaps 9 ∧
    (∃ s, Reaches (forwardStep exampleMaps 9) anyStep .init s ∧ exampleShared = some s ∧
      s.EndsSession exampleMaps 9 1) ∧
    ∃ s, Reaches (forwardStep exampleMaps 9) anyStep .init s ∧ exampleFailed = some s ∧
      s.EndsSession exampleMaps 9 1 := by
  refine ⟨by decide, ⟨_, ?_, (Option.some_get exampleShared_isSome).symm, ?_⟩,
    ⟨_, ?_, (Option.some_get exampleFailed_isSome).symm, ?_⟩⟩
  · exact .of_run (Option.some_get (x := exampleShared) exampleShared_isSome).symm
  · exact .of_missing (by decide) (by decide) (by decide)
  · exact .of_run (Option.some_get (x := exampleFailed) exampleFailed_isSome).symm
  · exact .of_missing (by decide) (by decide) (by decide)

end Hdc
