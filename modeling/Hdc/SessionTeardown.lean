import Hdc.ServerMaps

/- What the end of a session leaves behind (`hdc/src/server.rs`): the cleanup at the end of
   `start_usb_session`, and that of the reader task of `start_tcp_daemon_session`, once a read has
   failed.

   The first drops the sender and the response channels, closes the clients' channels and removes
   the forwards of its device; the second drops the writer and nothing else. `Covered` is the
   state of the maps in which that is enough, and `teardown_complete_iff` says that it is no more
   than needed. Under ids of their own, USB sessions are always covered. -/
namespace Hdc
open Rust Lts

/-- At `t` nothing is left of what is registered under an id; the channels are those that were
associated with it at `s`. -/
structure Released (s t : HostServer) (id : UInt32) : Prop where
  writer : t.tcp.sessionWriters id = none
  cipher : t.tcp.sessionCiphers id = none
  sender : t.usb.sessionSenders id = none
  responses : ∀ c, t.usb.responseChannels id c = none
  channels : ∀ c, s.tcp.channelSessions c = some id → t.tcp.channelWriters c = false
  forwards : ∀ entry ∈ t.forwards.entries, entry.sessionId ≠ id

/-- What the cleanup of the session does not look at is not there. -/
def HostServer.Covered (s : HostServer) (sess : HostSession) : Prop :=
  let id := sess.sessionId
  match sess.transport with
  | .tcp => s.tcp.sessionCiphers id = none ∧ s.usb.sessionSenders id = none ∧
      (∀ c, s.usb.responseChannels id c = none) ∧
      (∀ c, s.tcp.channelSessions c = some id → s.tcp.channelWriters c = false) ∧
      ∀ entry ∈ s.forwards.entries, entry.sessionId ≠ id
  | .usb => s.tcp.sessionWriters id = none ∧ s.tcp.sessionCiphers id = none ∧
      ∀ entry ∈ s.forwards.entries, entry.sessionId = id → entry.matchesFilter sess.key = true

/-! The steps in between. -/

/-- From `t` to `t'` nothing is registered under the id, no channel is opened that was associated
with it at `s`, and none that is still open loses this association. -/
structure AddsNothing (s : HostServer) (id : UInt32) (t t' : HostServer) : Prop where
  writer : t.tcp.sessionWriters id = none → t'.tcp.sessionWriters id = none
  cipher : t.tcp.sessionCiphers id = none → t'.tcp.sessionCiphers id = none
  sender : t.usb.sessionSenders id = none → t'.usb.sessionSenders id = none
  response : ∀ c, t.usb.responseChannels id c = none → t'.usb.responseChannels id c = none
  channel : ∀ c, s.tcp.channelSessions c = some id → t'.tcp.channelWriters c = true →
    t.tcp.channelWriters c = true ∧
      (t.tcp.channelSessions c = some id → t'.tcp.channelSessions c = some id)
  forward : ∀ entry ∈ t'.forwards.entries, entry.sessionId = id → entry ∈ t.forwards.entries

/-- The steps of the cleanup of session `i`. -/
def ByCleanup (i : Nat) (_ : HostServer) (act : MapAct) : Prop :=
  act = .session (.remove i) ∨ act = .cleanup i

instance (i : Nat) (t : HostServer) (act : MapAct) : Decidable (ByCleanup i t act) :=
  inferInstanceAs (Decidable (_ ∨ _))

/-- A step of the cleanup, or one that registers nothing under the id. -/
def Quiet (s : HostServer) (i : Nat) (id : UInt32) (t : HostServer) (act : MapAct) : Prop :=
  ByCleanup i t act ∨ ∀ t', mapStep t act = some t' → AddsNothing s id t t'

/-- Other steps leave the cleanup of a session where it is. -/
theorem mapStep_cleanup {t t' : HostServer} {act : MapAct} {i : Nat} (hact : ¬ ByCleanup i t act)
    (h : mapStep t act = some t') : t'.cleanup i = t.cleanup i := by
  cases act with
  | session act =>
    rw [mapStep] at h
    split at h
    · obtain ⟨host, -, rfl⟩ := Option.map_eq_some_iff.mp h
      cases act with
      | remove j =>
        have hij : i ≠ j := fun heq => hact (Or.inl (by rw [heq]))
        exact Function.update_of_ne hij _ _
      | _ => rfl
    · cases h
  | cleanup j =>
    have hij : i ≠ j := fun heq => hact (Or.inr (by rw [heq]))
    obtain ⟨sess, -, h⟩ := Option.bind_eq_some_iff.mp h
    unfold HostServer.cleanupStep at h
    split at h <;> cases h <;> exact Function.update_of_ne hij _ _
  | setCipher | endStarting | openSender | writerEnds =>
    obtain ⟨sess, -, h⟩ := Option.bind_eq_some_iff.mp h
    split at h <;> cases h
    rfl
  | startChannel | endChannel | takeChannelWriter | unregister | removeForward =>
    cases h
    rfl
  | resolve key =>
    rw [mapStep] at h
    split at h
    · cases h
    · obtain ⟨id, -, rfl⟩ := Option.map_eq_some_iff.mp h
      rfl
  | associate | register | endResolved | forward =>
    rw [mapStep] at h
    split at h <;> cases h
    rfl
  | reorder entries =>
    obtain ⟨forwards, -, rfl⟩ := Option.map_eq_some_iff.mp h
    rfl

/-! The cleanup. -/

/-- `end_session_with_cleanup` is over. -/
def Cleanup.senderDropped : Cleanup → Bool
  | .closeChannels | .removeForwards | .done => true
  | .idle | .endSession => false

/-- `close_session_channels` is over. -/
def Cleanup.channelsClosed : Cleanup → Bool
  | .removeForwards | .done => true
  | .idle | .endSession | .closeChannels => false

/-- Session `i` is the one it was. -/
def HostServer.IsSession (t : HostServer) (i : Nat) (sess : HostSession) : Prop :=
  ∃ sess', t.host.Settled i sess' ∧ sess'.SameDevice sess ∧ sess'.sessionId = sess.sessionId

theorem HostServer.IsSession.step {t t' : HostServer} {act : MapAct} {i : Nat} {sess : HostSession}
    (h : t.IsSession i sess) (hst : mapStep t act = some t') : t'.IsSession i sess := by
  obtain ⟨sess', hsettled, hdevice, hid⟩ := h
  obtain ⟨sess₁, hsettled₁, hdevice₁, hid₁⟩ := (mapStep_retains hst).settled i sess' hsettled
  exact ⟨sess₁, hsettled₁, ⟨hdevice₁.1.trans hdevice.1, hdevice₁.2.trans hdevice.2⟩, hid₁.trans hid⟩

/-- What is so at `t`, after some of the cleanup of session `i`, which has started at `s`: nothing
has come to be registered under its id, and the operations that are over have done their part. -/
structure Cleaning (s : HostServer) (i : Nat) (sess : HostSession) (t : HostServer) : Prop where
  session : t.IsSession i sess
  adds : AddsNothing s sess.sessionId s t
  writerDropped : sess.transport = .tcp → t.cleanup i = .done →
    t.tcp.sessionWriters sess.sessionId = none
  senderDropped : sess.transport = .usb → (t.cleanup i).senderDropped = true →
    t.usb.sessionSenders sess.sessionId = none ∧
      ∀ c, t.usb.responseChannels sess.sessionId c = none
  channelsClosed : sess.transport = .usb → (t.cleanup i).channelsClosed = true →
    ∀ c, s.tcp.channelSessions c = some sess.sessionId → t.tcp.channelWriters c = false
  forwardsRemoved : sess.transport = .usb → t.cleanup i = .done →
    ∀ entry ∈ t.forwards.entries, entry.sessionId = sess.sessionId →
      entry.matchesFilter sess.key = false

namespace AddsNothing
variable {s t t' : HostServer} {id : UInt32}

theorem refl (s t : HostServer) (id : UInt32) : AddsNothing s id t t where
  writer h := h
  cipher h := h
  sender h := h
  response _ h := h
  channel _ _ hopen := ⟨hopen, fun h => h⟩
  forward _ hentry _ := hentry

theorem trans {t'' : HostServer} (h : AddsNothing s id t t') (h' : AddsNothing s id t' t'') :
    AddsNothing s id t t'' where
  writer hnone := h'.writer (h.writer hnone)
  cipher hnone := h'.cipher (h.cipher hnone)
  sender hnone := h'.sender (h.sender hnone)
  response c hnone := h'.response c (h.response c hnone)
  channel c hc hopen := by
    obtain ⟨hopen', hkeeps'⟩ := h'.channel c hc hopen
    obtain ⟨hopen, hkeeps⟩ := h.channel c hc hopen'
    exact ⟨hopen, fun hassoc => hkeeps' (hkeeps hassoc)⟩
  forward entry hentry hid := h.forward entry (h'.forward entry hentry hid) hid

theorem endTcpSession (s t : HostServer) (id : UInt32) (cleanup : Nat → Cleanup) :
    AddsNothing s id t { t with tcp := t.tcp.endSession id, cleanup } :=
  { refl s t id with writer := fun _ => Function.update_self _ _ _ }

theorem endSessionWithCleanup (s t : HostServer) (id : UInt32) (cleanup : Nat → Cleanup) :
    AddsNothing s id t { t with usb := t.usb.endSessionWithCleanup id, cleanup } :=
  { refl s t id with
    sender := fun _ => Function.update_self _ _ _
    response := fun c _ => by
      show (t.usb.endSessionWithCleanup id).responseChannels id c = none
      rw [UsbMap.endSessionWithCleanup_response, if_pos rfl] }

theorem closeSessionChannels (s t : HostServer) (id : UInt32) (cleanup : Nat → Cleanup) :
    AddsNothing s id t { t with tcp := t.tcp.closeSessionChannels id, cleanup } := by
  refine { refl s t id with channel := fun c _ hopen => ?_ }
  have hassoc : t.tcp.channelSessions c ≠ some id := by
    intro heq
    simp [TcpMap.closeSessionChannels, heq] at hopen
  simp only [TcpMap.closeSessionChannels, if_neg hassoc] at hopen
  exact ⟨hopen, fun heq => absurd heq hassoc⟩

theorem removeForwards (s t : HostServer) (id : UInt32) (key : String) (cleanup : Nat → Cleanup) :
    AddsNothing s id t { t with forwards := (removeForwardEntry t.forwards key "").1, cleanup } :=
  { refl s t id with
    forward := fun entry hentry _ => removeForwardEntry_subset t.forwards key "" entry hentry }

end AddsNothing

namespace Cleaning
variable {s t t' : HostServer} {i : Nat} {sess : HostSession}

/-- A step that adds nothing, and is none of the cleanup. -/
theorem other {act : MapAct} (h : Cleaning s i sess t) (hst : mapStep t act = some t')
    (hadds : AddsNothing s sess.sessionId t t') (hcleanup : t'.cleanup i = t.cleanup i) :
    Cleaning s i sess t' where
  session := h.session.step hst
  adds := h.adds.trans hadds
  writerDropped htcp hdone := hadds.writer (h.writerDropped htcp (hcleanup ▸ hdone))
  senderDropped husb hstage := by
    rw [hcleanup] at hstage
    obtain ⟨hsender, hresponses⟩ := h.senderDropped husb hstage
    exact ⟨hadds.sender hsender, fun c => hadds.response c (hresponses c)⟩
  channelsClosed husb hstage c hc := by
    rw [hcleanup] at hstage
    by_contra hopen
    have hclosed := h.channelsClosed husb hstage c hc
    rw [(hadds.channel c hc (by simpa using hopen)).1] at hclosed
    cases hclosed
  forwardsRemoved husb hdone entry hentry hid :=
    h.forwardsRemoved husb (hcleanup ▸ hdone) entry (hadds.forward entry hentry hid) hid

/-- The entry in the `ConnectMap` is removed, and the cleanup starts. -/
theorem remove (h : Cleaning s i sess t) (hst : mapStep t (.session (.remove i)) = some t') :
    Cleaning s i sess t' := by
  have hsession := h.session.step hst
  rw [mapStep] at hst
  split at hst
  · obtain ⟨host, -, rfl⟩ := Option.map_eq_some_iff.mp hst
    have hstage : Function.update t.cleanup i .endSession i = .endSession := Function.update_self _ _ _
    refine ⟨hsession, { h.adds with }, ?_, ?_, ?_, ?_⟩ <;> intro _ hcleanup <;>
      simp only [cleanupAfter, hstage] at hcleanup <;> cases hcleanup
  · cases hst

theorem step (h : Cleaning s i sess t) (hst : mapStep t (.cleanup i) = some t') :
    Cleaning s i sess t' := by
  have hsession := h.session.step hst
  obtain ⟨sess', hget, hst⟩ := Option.bind_eq_some_iff.mp hst
  obtain ⟨sess₀, hsettled, ⟨hkey, htransport⟩, hid⟩ := h.session
  obtain rfl : sess₀ = sess' := Option.some_inj.mp (hsettled.1.symm.trans hget)
  have hupdate : ∀ stage, Function.update t.cleanup i stage i = stage := fun stage =>
    Function.update_self _ _ _
  unfold HostServer.cleanupStep at hst
  split at hst
  · rename_i htcp hstage
    cases hst
    have hnotUsb : sess.transport ≠ .usb := by rw [← htransport, htcp]; simp
    rw [hid] at hsession ⊢
    exact ⟨hsession, h.adds.trans (.endTcpSession s t _ _), fun _ _ => Function.update_self _ _ _,
      fun husb => absurd husb hnotUsb, fun husb => absurd husb hnotUsb,
      fun husb => absurd husb hnotUsb⟩
  · rename_i husb hstage
    cases hst
    have hnotTcp : sess.transport ≠ .tcp := by rw [← htransport, husb]; simp
    rw [hid] at hsession ⊢
    refine ⟨hsession, h.adds.trans (.endSessionWithCleanup s t _ _), fun htcp => absurd htcp hnotTcp,
      fun _ _ => ⟨Function.update_self _ _ _, fun c => ?_⟩, ?_, ?_⟩
    · show (t.usb.endSessionWithCleanup sess.sessionId).responseChannels sess.sessionId c = none
      rw [UsbMap.endSessionWithCleanup_response, if_pos rfl]
    · intro _ hcleanup
      simp [HostServer.setCleanup, Cleanup.channelsClosed] at hcleanup
    · intro _ hcleanup
      simp [HostServer.setCleanup] at hcleanup
  · rename_i husb hstage
    cases hst
    have hnotTcp : sess.transport ≠ .tcp := by rw [← htransport, husb]; simp
    rw [hid] at hsession ⊢
    refine ⟨hsession, h.adds.trans (.closeSessionChannels s t _ _),
      fun htcp => absurd htcp hnotTcp,
      fun husb _ => h.senderDropped husb (by rw [hstage]; rfl), fun _ _ c hc => ?_, ?_⟩
    · -- a channel that is still open is still associated with the session
      show (t.tcp.closeSessionChannels sess.sessionId).channelWriters c = false
      simp only [TcpMap.closeSessionChannels]
      split
      · rfl
      · rename_i hassoc
        by_contra hopen
        exact hassoc ((h.adds.channel c hc (by simpa using hopen)).2 hc)
    · intro _ hcleanup
      simp [HostServer.setCleanup] at hcleanup
  · rename_i husb hstage
    cases hst
    have hnotTcp : sess.transport ≠ .tcp := by rw [← htransport, husb]; simp
    rw [hkey] at hsession ⊢
    refine ⟨hsession, h.adds.trans (.removeForwards s t _ _ _), fun htcp => absurd htcp hnotTcp,
      fun husb _ => h.senderDropped husb (by rw [hstage]; rfl),
      fun husb _ => h.channelsClosed husb (by rw [hstage]; rfl), ?_⟩
    intro _ _ entry hentry _
    exact (mem_removeForwardEntry_all.mp hentry).2
  · cases hst

end Cleaning

theorem Cleaning.of_reaches {s t : HostServer} {i : Nat} {sess : HostSession}
    (hsess : s.host.inPhase i .ending = some sess) (hidle : s.cleanup i = .idle)
    (h : Reaches mapStep (Quiet s i sess.sessionId) s t) : Cleaning s i sess t := by
  have hstart : Cleaning s i sess s := by
    obtain ⟨hget, hphase⟩ := inPhase_eq_some.mp hsess
    refine ⟨⟨sess, ⟨hget, Or.inr (by simp [hphase])⟩, ⟨rfl, rfl⟩, rfl⟩, .refl s s _, ?_, ?_, ?_, ?_⟩ <;>
      intro _ hcleanup <;> rw [hidle] at hcleanup <;> cases hcleanup
  refine h.invariant (fun {t act t'} ht hquiet hst => ?_) hstart
  by_cases hown : ByCleanup i t act
  · rcases hown with rfl | rfl
    · exact ht.remove hst
    · exact ht.step hst
  · exact ht.other hst (hquiet.resolve_left hown t' hst) (mapStep_cleanup hown hst)

/-- Where the cleanup is over and the session was covered, nothing is left. -/
theorem Cleaning.released {s t : HostServer} {i : Nat} {sess : HostSession} (h : Cleaning s i sess t)
    (hdone : t.cleanup i = .done) (hcovered : s.Covered sess) : Released s t sess.sessionId := by
  cases htransport : sess.transport with
  | tcp =>
    simp only [HostServer.Covered, htransport] at hcovered
    obtain ⟨hcipher, hsender, hresponses, hchannels, hforwards⟩ := hcovered
    refine ⟨h.writerDropped htransport hdone, h.adds.cipher hcipher, h.adds.sender hsender,
      fun c => h.adds.response c (hresponses c), fun c hc => ?_, fun entry hentry hid => ?_⟩
    · by_contra hopen
      have hclosed := hchannels c hc
      rw [(h.adds.channel c hc (by simpa using hopen)).1] at hclosed
      cases hclosed
    · exact hforwards entry (h.adds.forward entry hentry hid) hid
  | usb =>
    simp only [HostServer.Covered, htransport] at hcovered
    obtain ⟨hwriter, hcipher, hforwards⟩ := hcovered
    obtain ⟨hsender, hresponses⟩ := h.senderDropped htransport (by rw [hdone]; rfl)
    refine ⟨h.adds.writer hwriter, h.adds.cipher hcipher, hsender, hresponses,
      h.channelsClosed htransport (by rw [hdone]; rfl), fun entry hentry hid => ?_⟩
    have hmatch := hforwards entry (h.adds.forward entry hentry hid) hid
    rw [h.forwardsRemoved htransport hdone entry hentry hid] at hmatch
    cases hmatch

/-! What the cleanup leaves alone. -/

/-- At `t` is still all that the cleanup of the session does not look at. -/
structure Untouched (s : HostServer) (i : Nat) (sess : HostSession) (t : HostServer) : Prop where
  session : t.IsSession i sess
  cipher : t.tcp.sessionCiphers = s.tcp.sessionCiphers
  tcp : sess.transport = .tcp →
    t.usb = s.usb ∧ t.tcp.channelWriters = s.tcp.channelWriters ∧ t.forwards = s.forwards
  usb : sess.transport = .usb → t.tcp.sessionWriters = s.tcp.sessionWriters ∧
    ∀ entry ∈ s.forwards.entries, entry.matchesFilter sess.key = false → entry ∈ t.forwards.entries

theorem Untouched.remove {s t t' : HostServer} {i : Nat} {sess : HostSession}
    (h : Untouched s i sess t) (hst : mapStep t (.session (.remove i)) = some t') :
    Untouched s i sess t' := by
  have hsession := h.session.step hst
  rw [mapStep] at hst
  split at hst
  · obtain ⟨host, -, rfl⟩ := Option.map_eq_some_iff.mp hst
    exact { h with session := hsession }
  · cases hst

theorem Untouched.step {s t t' : HostServer} {i : Nat} {sess : HostSession}
    (h : Untouched s i sess t) (hst : mapStep t (.cleanup i) = some t') : Untouched s i sess t' := by
  have hsession := h.session.step hst
  obtain ⟨sess', hget, hst⟩ := Option.bind_eq_some_iff.mp hst
  obtain ⟨sess₀, hsettled, ⟨hkey, htransport⟩, hid⟩ := h.session
  obtain rfl : sess₀ = sess' := Option.some_inj.mp (hsettled.1.symm.trans hget)
  unfold HostServer.cleanupStep at hst
  split at hst
  · rename_i htcp hstage
    cases hst
    refine { h with session := hsession, usb := fun husb => ?_ }
    rw [← htransport, htcp] at husb
    cases husb
  · rename_i husb hstage
    cases hst
    refine { h with session := hsession, tcp := fun htcp => ?_ }
    rw [← htransport, husb] at htcp
    cases htcp
  · rename_i husb hstage
    cases hst
    refine { h with session := hsession, tcp := fun htcp => ?_ }
    rw [← htransport, husb] at htcp
    cases htcp
  · rename_i husb hstage
    cases hst
    refine { h with
      session := hsession
      tcp := fun htcp => ?_
      usb := fun husb => ⟨(h.usb husb).1, fun entry hentry hmatch => ?_⟩ }
    · rw [← htransport, husb] at htcp
      cases htcp
    · rw [← hkey] at hmatch
      exact mem_removeForwardEntry_all.mpr ⟨(h.usb husb).2 entry hentry (hkey ▸ hmatch), hmatch⟩
  · cases hst

theorem Untouched.of_reaches {s t : HostServer} {i : Nat} {sess : HostSession}
    (hsess : s.host.inPhase i .ending = some sess) (h : Reaches mapStep (ByCleanup i) s t) :
    Untouched s i sess t := by
  have hstart : Untouched s i sess s := by
    obtain ⟨hget, hphase⟩ := inPhase_eq_some.mp hsess
    exact ⟨⟨sess, ⟨hget, Or.inr (by simp [hphase])⟩, ⟨rfl, rfl⟩, rfl⟩, rfl,
      fun _ => ⟨rfl, rfl, rfl⟩, fun _ => ⟨rfl, fun _ hentry _ => hentry⟩⟩
  refine h.invariant (fun {t act t'} ht hown hst => ?_) hstart
  rcases hown with rfl | rfl
  · exact ht.remove hst
  · exact ht.step hst

theorem Untouched.covered {s t : HostServer} {i : Nat} {sess : HostSession}
    (h : Untouched s i sess t) (hreleased : Released s t sess.sessionId) : s.Covered sess := by
  have hcipher : s.tcp.sessionCiphers sess.sessionId = none := h.cipher ▸ hreleased.cipher
  cases htransport : sess.transport with
  | tcp =>
    obtain ⟨husb, hchannels, hforwards⟩ := h.tcp htransport
    simp only [HostServer.Covered, htransport]
    exact ⟨hcipher, husb ▸ hreleased.sender, husb ▸ hreleased.responses,
      hchannels ▸ hreleased.channels, hforwards ▸ hreleased.forwards⟩
  | usb =>
    obtain ⟨hwriters, hforwards⟩ := h.usb htransport
    simp only [HostServer.Covered, htransport]
    refine ⟨hwriters ▸ hreleased.writer, hcipher, fun entry hentry hid => ?_⟩
    by_contra hmatch
    exact hreleased.forwards entry (hforwards entry hentry (by simpa using hmatch)) hid

/-- A USB session whose id no other device has had is covered. -/
theorem Owned.covered {s : HostServer} (h : Owned s) {i : Nat} {sess : HostSession}
    (hsess : s.host.sessions[i]? = some sess) (husb : sess.transport = .usb) : s.Covered sess := by
  have hmem := List.mem_of_getElem? hsess
  have hnotTcp : ∀ j, ¬ s.host.Holds .tcp sess.sessionId j := by
    rintro j ⟨other, hsettled, htcp, hid⟩
    have hsame := (h.ids.unique other (List.mem_of_getElem? hsettled.1) sess hmem hid).2
    rw [htcp, husb] at hsame
    cases hsame
  simp only [HostServer.Covered, husb]
  refine ⟨?_, ?_, fun entry hentry hid => ?_⟩
  · exact Option.eq_none_iff_forall_ne_some.mpr fun j hj => hnotTcp j (h.writer _ j hj)
  · exact Option.eq_none_iff_forall_ne_some.mpr fun j hj => hnotTcp j (h.cipher _ j hj)
  · rcases h.forward entry hentry with hzero | ⟨j, other, hsettled, hkey, hother⟩
    · exact absurd (hid.symm.trans hzero) (h.ids.nonzero sess hmem)
    · have hsame := (h.ids.unique other (List.mem_of_getElem? hsettled.1) sess hmem
        (hother.trans hid)).1
      simp [ForwardEntry.matchesFilter, ← hkey, hsame]

/-- Session `i` is at the end of its reader loop at `s`, and its cleanup is over at `t`. If nothing
was registered under its id in between, being covered is enough for everything to be released;
if nothing else was done at all, it is also necessary; and a USB session with an id of its own is
always covered. -/
theorem teardown_complete_iff (s t : HostServer) (i : Nat) (sess : HostSession)
    (hsess : s.host.inPhase i .ending = some sess) (hidle : s.cleanup i = .idle)
    (hdone : t.cleanup i = .done) :
    (Reaches mapStep (Quiet s i sess.sessionId) s t → s.Covered sess →
      Released s t sess.sessionId) ∧
    (Reaches mapStep (ByCleanup i) s t → (Released s t sess.sessionId ↔ s.Covered sess)) ∧
    (Reaches mapStep OwnIds .init s → sess.transport = .usb → s.Covered sess) := by
  refine ⟨?_, ?_, ?_⟩
  · intro hrun hcovered
    exact (Cleaning.of_reaches hsess hidle hrun).released hdone hcovered
  · intro hrun
    have hquiet : Reaches mapStep (Quiet s i sess.sessionId) s t := hrun.mono fun _ _ => Or.inl
    exact ⟨(Untouched.of_reaches hsess hrun).covered,
      (Cleaning.of_reaches hsess hidle hquiet).released hdone⟩
  · intro hrun husb
    exact (owned_of_reaches hrun).covered (inPhase_eq_some.mp hsess).1 husb

/-- A forward to a device. -/
def forwardOn (sessionId : UInt32) (device : String) : ForwardEntry :=
  ⟨5, sessionId, device, .forward, "tcp:9000 tcp:8080", true⟩

/-- A USB device with a command and a forward, at the end of its reader loop. -/
def usbBusy : Option HostServer :=
  run mapStep OwnIds .init [.session (.adopt "usb1" "1" 1), .session (.authenticated 0 7 ""),
    .openSender 0, .startChannel 5, .resolve "usb1", .register "usb1" 7 5, .associate "usb1" 7 5,
    .forward (forwardOn 7 "usb1"), .session (.disconnect 0)]

theorem usbBusy_isSome : usbBusy.isSome = true := by decide

/-- Its cleanup. -/
def usbCleaned : Option HostServer :=
  run mapStep (ByCleanup 0) (usbBusy.get usbBusy_isSome)
    [.session (.remove 0), .cleanup 0, .cleanup 0, .cleanup 0]

theorem usbCleaned_isSome : usbCleaned.isSome = true := by decide

theorem teardown_complete_iff_usb :
    Released (usbBusy.get usbBusy_isSome) (usbCleaned.get usbCleaned_isSome) 7 := by
  have hiff := teardown_complete_iff (usbBusy.get usbBusy_isSome) (usbCleaned.get usbCleaned_isSome)
    0 ⟨.usb, "usb1", 7, .ending⟩ (by decide) (by decide) (by decide)
  exact (hiff.2.1 (.of_run (Option.some_get (x := usbCleaned) usbCleaned_isSome).symm)).mpr
    (hiff.2.2 (.of_run (Option.some_get (x := usbBusy) usbBusy_isSome).symm) rfl)

/-- A TCP daemon with encryption, a command and a forward, at the end of its reader loop. -/
def tcpBusy : Option HostServer :=
  run mapStep OwnIds .init [.session (.tconn "10.0.0.2:5555" 1), .setCipher 0,
    .session (.authenticated 0 0 ""), .startChannel 5, .resolve "10.0.0.2:5555",
    .register "10.0.0.2:5555" 1 5, .associate "10.0.0.2:5555" 1 5,
    .forward (forwardOn 1 "10.0.0.2:5555"), .session (.disconnect 0)]

theorem tcpBusy_isSome : tcpBusy.isSome = true := by decide

def tcpCleaned : Option HostServer :=
  run mapStep (ByCleanup 0) (tcpBusy.get tcpBusy_isSome) [.session (.remove 0), .cleanup 0]

theorem tcpCleaned_isSome : tcpCleaned.isSome = true := by decide

/-- The cleanup of `usbBusy`, with a command that has looked up the session before and registers
its channel too late. -/
def usbLate : Option HostServer :=
  run mapStep anyStep (usbBusy.get usbBusy_isSome)
    [.session (.remove 0), .cleanup 0, .register "usb1" 7 6, .cleanup 0, .cleanup 0]

theorem usbLate_isSome : usbLate.isSome = true := by decide

/-- Of the TCP session the cipher, the response channel, the client's channel and the forward are
left; of the USB session the response channel that came too late. -/
theorem teardown_incomplete :
    (∃ s t, Reaches mapStep anyStep .init s ∧ Reaches mapStep (ByCleanup 0) s t ∧
      s.host.inPhase 0 .ending = some ⟨.tcp, "10.0.0.2:5555", 1, .ending⟩ ∧
      t.cleanup 0 = .done ∧ t.tcp.sessionCiphers 1 = some 0 ∧
      t.usb.responseChannels 1 5 = some "10.0.0.2:5555" ∧
      s.tcp.channelSessions 5 = some 1 ∧ t.tcp.channelWriters 5 = true ∧
      forwardOn 1 "10.0.0.2:5555" ∈ t.forwards.entries) ∧
    ∃ s t, Reaches mapStep anyStep .init s ∧ Reaches mapStep anyStep s t ∧
      s.host.inPhase 0 .ending = some ⟨.usb, "usb1", 7, .ending⟩ ∧
      t.cleanup 0 = .done ∧ t.usb.responseChannels 7 6 = some "usb1" := by
  have hany : ∀ {s t}, Reaches mapStep OwnIds s t → Reaches mapStep anyStep s t := fun h =>
    h.mono fun _ _ _ => trivial
  refine ⟨⟨tcpBusy.get tcpBusy_isSome, tcpCleaned.get tcpCleaned_isSome, ?_, ?_, ?_⟩,
    usbBusy.get usbBusy_isSome, usbLate.get usbLate_isSome, ?_, ?_, ?_⟩
  · exact hany (.of_run (Option.some_get (x := tcpBusy) tcpBusy_isSome).symm)
  · exact .of_run (Option.some_get (x := tcpCleaned) tcpCleaned_isSome).symm
  · decide
  · exact hany (.of_run (Option.some_get (x := usbBusy) usbBusy_isSome).symm)
  · exact .of_run (Option.some_get (x := usbLate) usbLate_isSome).symm
  · decide

end Hdc
