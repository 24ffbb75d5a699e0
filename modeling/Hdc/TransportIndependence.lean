import Hdc.ForwardSetup
import Hdc.Fport
import Hdc.Lts

/- What the handlers of the server deliver to a daemon, over TCP and over USB.

   The two runs of a handler on the same inputs go together as long as it sends with
   `send_to_session`. A message it sends through `UsbMap` alone does not reach a TCP daemon,
   and every handler then gives up (`GivesUp`), so from there on it delivers nothing more.
   `GivesUp.deliver_eq_iff` is that argument, and `transport_iff` what it says of each
   handler: `track-jpid` through `dispatch_task` is the same on both, the setup of a forward
   is up to its `ForwardCheckResult`, and the shell, the DevEco `track-jpid` and the bridges of
   a forward deliver nothing to a TCP daemon at all. -/
namespace Hdc
open Rust Wire Lts

/-! Handlers that give up. -/

section
variable {σ α ω : Type} {h : ServerHandler σ α ω}

/-- From states in `mute` nothing is sent any more. -/
structure Mute (h : ServerHandler σ α ω) (mute : σ → Prop) : Prop where
  sending : ∀ s, mute s → h.sending s = none
  step : ∀ s act s' out, mute s → h.step s act = some (s', out) → mute s'

theorem Mute.silent {mute : σ → Prop} (hm : Mute h mute) (maps : SessionMaps) {s : σ} (hs : mute s) :
    Silent (h.deliver maps) s := by
  refine Silent.of_invariant ?_ hs
  intro s act s' out hs hst
  cases act with
  | send outcome =>
    rw [ServerHandler.deliver, hm.sending s hs] at hst
    cases hst
  | own act =>
    obtain ⟨⟨s₁, out₁⟩, hstep, heq⟩ := Option.map_eq_some_iff.mp hst
    cases heq
    exact ⟨rfl, hm.step s act s' out₁ hs hstep⟩

/-- The handler sends to `sessionId`, the `marked` messages through `UsbMap`, and falls mute
when one of these fails. Of the others, the error of a send does not matter otherwise. -/
structure GivesUp (h : ServerHandler σ α ω) (sessionId : UInt32) (marked : TaskMessage → Prop)
    (mute : σ → Prop) : Prop where
  silent : Mute h mute
  session : ∀ s p, h.sending s = some p → p.sessionId = sessionId
  usbMap : ∀ s p, h.sending s = some p → p.route = .usbMap →
    marked p.msg ∧ ∀ e, mute (p.failed e)
  sendToSession : ∀ s p, h.sending s = some p → p.route = .sendToSession →
    ¬ marked p.msg ∧ ∀ e e', p.failed e = p.failed e' ∨ mute (p.failed e) ∧ mute (p.failed e')

/-- A handler that sends through `UsbMap` only. -/
theorem GivesUp.of_usbMap {sessionId : UInt32} {mute : σ → Prop} (hmute : Mute h mute)
    (hsending : ∀ s p, h.sending s = some p →
      p.sessionId = sessionId ∧ p.route = .usbMap ∧ ∀ e, mute (p.failed e)) :
    GivesUp h sessionId (fun _ => True) mute where
  silent := hmute
  session := fun s p hp => (hsending s p hp).1
  usbMap := fun s p hp _ => ⟨trivial, (hsending s p hp).2.2⟩
  sendToSession := by
    intro s p hp hroute
    rw [(hsending s p hp).2.1] at hroute
    cases hroute

theorem GivesUp.follows {sessionId : UInt32} {marked : TaskMessage → Prop} {mute : σ → Prop}
    (hg : GivesUp h sessionId marked mute) {tcp usb : SessionMaps} (htcp : OverTcp tcp sessionId)
    (husb : OverUsb usb sessionId) (s : σ) (act : ServerAct α) :
    Follows (h.deliver tcp) (h.deliver usb) marked s act := by
  cases act with
  | own act =>
    refine .same rfl ?_
    intro s' out hst
    obtain ⟨_, -, heq⟩ := Option.map_eq_some_iff.mp hst
    cases heq
    simp
  | send outcome =>
    cases hp : h.sending s with
    | none => exact .same (by simp [ServerHandler.deliver, hp]) (by simp [ServerHandler.deliver, hp])
    | some p =>
      have hsid := hg.session s p hp
      cases hroute : p.route with
      | sendToSession =>
        obtain ⟨hmsg, hfail⟩ := hg.sendToSession s p hp hroute
        cases outcome with
        | ok _ =>
          refine .same ?_ ?_
          · simp [ServerHandler.deliver, hp, hroute, Route.send, hsid, htcp.send_ok, husb.send_eq]
          · simp [ServerHandler.deliver, hp, hroute, Route.send, hsid, husb.send_eq, hmsg]
        | error e =>
          have ht : h.deliver tcp s (.send (.error e)) =
              some (p.failed ⟨.notFound, "usb session not found"⟩, []) := by
            simp only [ServerHandler.deliver, hp, Option.map_some, hroute, Route.send, hsid,
              htcp.send_error]
          have hu : h.deliver usb s (.send (.error e)) = some (p.failed e, []) := by
            simp only [ServerHandler.deliver, hp, Option.map_some, hroute, Route.send, hsid,
              husb.send_eq]
          rcases hfail ⟨.notFound, "usb session not found"⟩ e with heq | ⟨hmute, hmute'⟩
          · exact .same (by rw [ht, hu, heq]) (by simp [hu])
          · exact .halt ht (hg.silent.silent tcp hmute) hu (hg.silent.silent usb hmute')
      | usbMap =>
        obtain ⟨hmsg, hmute⟩ := hg.usbMap s p hp hroute
        have ht : h.deliver tcp s (.send outcome) =
            some (p.failed ⟨.notFound, "usb session not found"⟩, []) := by
          simp only [ServerHandler.deliver, hp, Option.map_some, hroute, Route.send, hsid,
            htcp.usbSend]
        cases outcome with
        | ok _ =>
          have hu : h.deliver usb s (.send (.ok ())) = some (p.next, [p.msg]) := by
            simp only [ServerHandler.deliver, hp, Option.map_some, hroute, Route.send, hsid,
              husb.usbSend]
          exact .cut ht (hg.silent.silent tcp (hmute _)) hu ⟨p.msg, List.mem_singleton_self _, hmsg⟩
        | error e =>
          have hu : h.deliver usb s (.send (.error e)) = some (p.failed e, []) := by
            simp only [ServerHandler.deliver, hp, Option.map_some, hroute, Route.send, hsid,
              husb.usbSend]
          exact .halt ht (hg.silent.silent tcp (hmute _)) hu (hg.silent.silent usb (hmute _))

/-- What a handler delivers over TCP is what it delivers over USB exactly if that has no
message which goes through `UsbMap` alone. -/
theorem GivesUp.deliver_eq_iff {sessionId : UInt32} {marked : TaskMessage → Prop} {mute : σ → Prop}
    (hg : GivesUp h sessionId marked mute) {tcp usb : SessionMaps} (htcp : OverTcp tcp sessionId)
    (husb : OverUsb usb sessionId) (s : σ) (acts : List (ServerAct α)) :
    emitted (h.deliver tcp) s acts = emitted (h.deliver usb) s acts ↔
      ∀ m ∈ emitted (h.deliver usb) s acts, ¬ marked m :=
  emitted_eq_iff (hg.follows htcp husb) s acts

end

/-! The handlers. -/

theorem shellBridge_mute (found : Option UInt32) (channelId : UInt32) :
    Mute (shellBridge found channelId)
      fun b => b.phase = .joining ∨ b.phase = .ended ∨ ∃ text, b.phase = .failing text where
  sending := by
    rintro b (h | h | ⟨text, h⟩) <;> cases found <;> simp [shellBridge, h]
  step := by
    rintro ⟨phase, reader, registered⟩ act b' out hb hst
    rcases hb with rfl | rfl | ⟨text, rfl⟩ <;> cases act <;> simp only [shellBridge] at hst <;>
      (repeat' split at hst) <;> cases hst <;> simp

theorem devecoTrack_mute (found : Option UInt32) (channelId : UInt32) (params : List String) :
    Mute (devecoTrack found channelId params) fun t => t.phase ≠ .start ∧ t.phase ≠ .track where
  sending := by
    rintro ⟨phase, reader, registered⟩ hb
    cases found <;> cases phase <;> simp_all [devecoTrack]
  step := by
    rintro ⟨phase, reader, registered⟩ act b' out hb hst
    cases phase <;> cases act <;> simp only [devecoTrack, Track.read] at hst <;>
      (repeat' split at hst) <;> cases hst <;> simp_all

theorem dispatchTrack_mute (found : IoResult UInt32) (channelId : UInt32) (params : List String) :
    Mute (dispatchTrack found channelId params) fun t => t.phase ≠ .start ∧ t.phase ≠ .track where
  sending := by
    rintro ⟨phase, reader, registered⟩ hb
    cases found <;> cases phase <;> simp_all [dispatchTrack, Except.toOption]
  step := by
    rintro ⟨phase, reader, registered⟩ act b' out hb hst
    cases phase <;> cases act <;> simp only [dispatchTrack, Track.read] at hst <;>
      (repeat' split at hst) <;> cases hst <;> simp_all

theorem forwardSetup_mute (job : ForwardJob) :
    Mute (forwardSetup job) fun p => (∃ r, p = .ended r) ∨ ∃ e, p = .unregister e where
  sending := by
    rintro p (⟨r, rfl⟩ | ⟨e, rfl⟩) <;> rfl
  step := by
    rintro p act p' out (⟨r, rfl⟩ | ⟨e, rfl⟩) hst
    · cases act <;> cases hst
    · cases act <;> cases hst
      exact .inl ⟨_, rfl⟩

section
variable {sessionId : UInt32}

/-- Everything the shell bridge sends goes through `UsbMap`. -/
theorem shellBridge_givesUp {found : Option UInt32} (hfound : ∀ id ∈ found, id = sessionId)
    (channelId : UInt32) :
    GivesUp (shellBridge found channelId) sessionId (fun _ => True)
      fun b => b.phase = .joining ∨ b.phase = .ended ∨ ∃ text, b.phase = .failing text := by
  refine .of_usbMap (shellBridge_mute found channelId) ?_
  intro b p hp
  obtain ⟨id, hid, hp⟩ := Option.bind_eq_some_iff.mp hp
  obtain rfl := hfound id hid
  split at hp <;> cases hp <;> simp

theorem devecoTrack_givesUp {found : Option UInt32} (hfound : ∀ id ∈ found, id = sessionId)
    (channelId : UInt32) (params : List String) :
    GivesUp (devecoTrack found channelId params) sessionId (fun _ => True)
      fun t => t.phase ≠ .start ∧ t.phase ≠ .track := by
  refine .of_usbMap (devecoTrack_mute found channelId params) ?_
  intro t p hp
  obtain ⟨id, hid, hp⟩ := Option.bind_eq_some_iff.mp hp
  obtain rfl := hfound id hid
  split at hp <;> cases hp
  simp

/-- The arm of `dispatch_task` sends nothing through `UsbMap` alone. -/
theorem dispatchTrack_givesUp {found : IoResult UInt32} (hfound : ∀ id, found = .ok id → id = sessionId)
    (channelId : UInt32) (params : List String) :
    GivesUp (dispatchTrack found channelId params) sessionId (fun _ => False)
      fun t => t.phase ≠ .start ∧ t.phase ≠ .track := by
  have hsending : ∀ t p, (dispatchTrack found channelId params).sending t = some p →
      p.sessionId = sessionId ∧ p.route = .sendToSession ∧
        ∀ e, (p.failed e).phase = .failing (trackFailed e) := by
    intro t p hsend
    obtain ⟨id, hid, hp⟩ := Option.bind_eq_some_iff.mp hsend
    cases found with
    | error e => cases hid
    | ok id' =>
      cases hid
      obtain rfl := hfound id rfl
      split at hp <;> cases hp
      simp
  refine ⟨dispatchTrack_mute found channelId params, fun t p hp => (hsending t p hp).1, ?_, ?_⟩
  · intro t p hp hroute
    rw [(hsending t p hp).2.1] at hroute
    cases hroute
  · intro t p hp _
    exact ⟨not_false, fun e e' => .inr (by simp [(hsending t p hp).2.2])⟩

/-- Only the `ForwardCheckResult` of a setup goes through `UsbMap`. -/
theorem forwardSetup_givesUp {job : ForwardJob} (hjob : job.sessionId = sessionId) :
    GivesUp (forwardSetup job) sessionId (fun m => m.command = .forwardCheckResult)
      fun p => (∃ r, p = .ended r) ∨ ∃ e, p = .unregister e := by
  subst hjob
  refine ⟨forwardSetup_mute job, ?_, ?_, ?_⟩
  · intro s p hp
    cases s <;> cases hp <;> rfl
  · intro s p hp hroute
    cases s <;> cases hp <;> cases hroute
    · exact ⟨rfl, fun e => .inl ⟨_, rfl⟩⟩
    · exact ⟨rfl, fun e => .inr ⟨_, rfl⟩⟩
  · intro s p hp hroute
    cases s <;> cases hp <;> cases hroute
    · exact ⟨by simp [hostForwardCheck], fun e e' => .inl rfl⟩
    · exact ⟨by simp [ForwardJob.initMsg], fun e e' => .inr ⟨.inl ⟨_, rfl⟩, .inl ⟨_, rfl⟩⟩⟩
    · exact ⟨by simp [hostForwardCheck], fun e e' => .inr ⟨.inl ⟨_, rfl⟩, .inl ⟨_, rfl⟩⟩⟩

end

/-! The bridge of a forward's connection. -/

/-- A step of the bridge where `UsbMap` has the session, or has not: then its sends fail. -/
def BridgeAct.over (reachable : Bool) : BridgeAct → BridgeAct
  | .activate => if reachable then .activate else .activateFail
  | .copy .send => if reachable then .copy .send else .copy .sendFail
  | act => act

/-- `run_forward_bridge` for connection `id`, with the messages that reach the daemon. -/
def bridgeDeliver (maps : SessionMaps) (sessionId channelId : UInt32) (remoteSpec : String)
    (id : UInt32) (b : Bridge) (act : BridgeAct) : Option (Bridge × List TaskMessage) :=
  (bridgeStep b (act.over (sessionId ∈ maps.senders))).map fun (b, out) =>
    -- the result of the last send, of `ForwardFreeContext`, is not looked at
    (b, if sessionId ∈ maps.senders then
      (out.map (DaemonItem.message channelId remoteSpec id)).toList else [])

theorem bridgeDeliver_silent {maps : SessionMaps} {sessionId : UInt32} (h : OverTcp maps sessionId)
    (channelId : UInt32) (remoteSpec : String) (id : UInt32) (b : Bridge) :
    Silent (bridgeDeliver maps sessionId channelId remoteSpec id) b := by
  have hstep : ∀ {b act b' out}, True →
      bridgeDeliver maps sessionId channelId remoteSpec id b act = some (b', out) → out = [] ∧ True := by
    intro b act b' out _ hst
    obtain ⟨⟨b₁, item⟩, -, heq⟩ := Option.map_eq_some_iff.mp hst
    simp only [if_neg h.2] at heq
    cases heq
    exact ⟨rfl, trivial⟩
  exact Silent.of_invariant hstep trivial

/-! The comparison. -/

/-- What the handlers deliver for one session, registered with a TCP daemon or with a USB
daemon, on the same inputs. -/
structure TransportReport (tcp usb : SessionMaps) (sessionId : UInt32) : Prop where
  dispatchTrack : ∀ (m : ConnectMap) key channelId params acts,
    (∀ id, resolveSessionId m key = .ok id → id = sessionId) →
    let h := Hdc.dispatchTrack (resolveSessionId m key) channelId params
    emitted (h.deliver tcp) .fresh acts = emitted (h.deliver usb) .fresh acts
  devecoTrack : ∀ (m : ConnectMap) channelId params acts,
    (∀ id ∈ m.getSessionId "any", id = sessionId) →
    let h := Hdc.devecoTrack (m.getSessionId "any") channelId params
    (emitted (h.deliver tcp) .fresh acts = emitted (h.deliver usb) .fresh acts ↔
      emitted (h.deliver usb) .fresh acts = [])
  shellBridge : ∀ (m : ConnectMap) key channelId acts,
    (∀ id ∈ m.getSessionId key, id = sessionId) →
    let h := Hdc.shellBridge (m.getSessionId key) channelId
    (emitted (h.deliver tcp) .fresh acts = emitted (h.deliver usb) .fresh acts ↔
      emitted (h.deliver usb) .fresh acts = [])
  forwardSetup : ∀ (job : ForwardJob) acts, job.sessionId = sessionId →
    let h := Hdc.forwardSetup job
    (emitted (h.deliver tcp) .start acts = emitted (h.deliver usb) .start acts ↔
      ∀ m ∈ emitted (h.deliver usb) .start acts, m.command ≠ .forwardCheckResult)
  forwardBridge : ∀ channelId remoteSpec id acts,
    emitted (bridgeDeliver tcp sessionId channelId remoteSpec id) .fresh acts =
        emitted (bridgeDeliver usb sessionId channelId remoteSpec id) .fresh acts ↔
      emitted (bridgeDeliver usb sessionId channelId remoteSpec id) .fresh acts = []

/-- Where every message is marked, no marked message means none. -/
theorem forall_not_true_iff {α : Type} {xs : List α} : (∀ x ∈ xs, ¬ True) ↔ xs = [] := by
  simp [List.eq_nil_iff_forall_not_mem]

/-- Session 7, over TCP and over USB. -/
def exampleTcp : SessionMaps := ⟨[7], []⟩

def exampleUsb : SessionMaps := ⟨[], [7]⟩

/-- A forward from port 8000 to port 80 of a device. -/
def exampleJob : ForwardJob := ⟨7, 3, "127.0.0.1", "tcp:8000", 8000, "tcp:80"⟩

/-- Its setup, with a daemon that sends its own check after `ForwardInit`. -/
def exampleSetup : List (ServerAct SetupAct) :=
  [.own .next, .own (.bind (.ok 5)), .send (.ok ()), .own .timeout, .send (.ok ()),
    .own (.recv (daemonForwardCheck 3 9 "tcp:80")), .own (.bind (.ok 0)), .send (.ok ())]

end Hdc
