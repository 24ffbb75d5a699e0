import Hdc.ForwardTable
import Hdc.ServerMaps

/- The response channels that the setup of a port forward leaves in the `UsbMap`
   (`handle_server_forward` and `remove_forward_entry` in `hdc/src/server.rs`).

   The handler registers its channel first, and in the `ForwardCheck` flow the id of the context it
   draws. One of its error exits takes a registration off again: that of a listener which cannot be
   bound after the daemon's check, and it takes off the channel only. `remove_forward_entry` does
   not touch the `UsbMap`.

   `StageMove` is what a step of the handler can do with regard to this, and `FportRun.Inv` what is
   registered at each stage. So it all depends on how the two attempts to bind have gone
   (`drawn`, `refusedBind`). -/
namespace Hdc
open Rust Lts

/-! The call. -/

/-- A run of the handler: where it stands, the `UsbMap`, the channels it has registered, and what
has happened. -/
structure FportRun where
  phase : SetupPhase
  usb : UsbMap
  registered : List UInt32
  acts : List (ServerAct SetupAct)

def FportRun.start (usb : UsbMap) : FportRun := ⟨.start, usb, [], []⟩

/-- What a step registers and takes off. -/
def SetupOut.apply (out : SetupOut) (sessionId : UInt32) (connectKey : String) (usb : UsbMap) :
    UsbMap :=
  let usb := out.registered.foldl (fun m c => m.registerResponseChannel sessionId c connectKey) usb
  out.unregistered.foldl (fun m c => m.unregisterResponseChannel sessionId c) usb

def fportCallStep (job : ForwardJob) (connectKey : String) (r : FportRun)
    (act : ServerAct SetupAct) : Option FportRun :=
  match act with
  | .send outcome => (job.sending r.phase).map fun p =>
    let phase := match outcome with
      | .ok _ => p.next
      | .error e => p.failed e
    { r with phase, acts := r.acts ++ [act] }
  | .own a => (job.step r.phase a).map fun (phase, out) =>
    { phase
      usb := out.apply job.sessionId connectKey r.usb
      registered := r.registered ++ out.registered
      acts := r.acts ++ [act] }

/-- `handle_server_forward`: the `UsbMap` it leaves, the channels it has registered and its result,
if it has returned. -/
def forwardCall (sessionId channelId : UInt32) (listenIp connectKey : String) (params : List String)
    (usb : UsbMap) (acts : List (ServerAct SetupAct)) :
    Option (UsbMap × List UInt32 × IoResult (UInt32 × String)) :=
  match forwardStart sessionId channelId listenIp params with
  | .error e => some (usb, [], .error e)
  | .ok job =>
    match run (fportCallStep job connectKey) anyStep (.start usb) acts with
    | some ⟨.ended result, usb, registered, _⟩ => some (usb, registered, result)
    | _ => none

/-- `remove_forward_entry` on both maps, with what is removed. -/
def removeForward (forwards : ForwardMap) (usb : UsbMap) (connectKeyFilter spec : String) :
    (ForwardMap × UsbMap) × List ForwardEntry :=
  let (forwards, removed, _) := removeForwardEntry forwards connectKeyFilter spec
  ((forwards, usb), removed)

/-! What happens to the `UsbMap` between a setup and the removal of its entry. -/

inductive UsbOp where
  | startSession (id : UInt32) (tx : Nat)
  | endSession (id : UInt32)
  | endSessionWithCleanup (id : UInt32)
  | registerResponseChannel (sessionId channelId : UInt32) (tx : String)
  | unregisterResponseChannel (sessionId channelId : UInt32)
  deriving DecidableEq, Repr

def UsbMap.apply (m : UsbMap) : UsbOp → UsbMap
  | .startSession id tx => m.startSession id tx
  | .endSession id => m.endSession id
  | .endSessionWithCleanup id => m.endSessionWithCleanup id
  | .registerResponseChannel sessionId channelId tx =>
    m.registerResponseChannel sessionId channelId tx
  | .unregisterResponseChannel sessionId channelId =>
    m.unregisterResponseChannel sessionId channelId

/-- The operation registers the channel. -/
def UsbOp.registers (sessionId c : UInt32) : UsbOp → Bool
  | .registerResponseChannel id c' _ => id == sessionId && c' == c
  | _ => false

/-- The operation takes the channel off. -/
def UsbOp.drops (sessionId c : UInt32) : UsbOp → Bool
  | .unregisterResponseChannel id c' => id == sessionId && c' == c
  | .endSessionWithCleanup id => id == sessionId
  | _ => false

/-- The channel is taken off, and not registered again. -/
def Dropped (sessionId c : UInt32) (later : List UsbOp) : Prop :=
  ∃ before op after, later = before ++ op :: after ∧ op.drops sessionId c = true ∧
    ∀ o ∈ after, o.registers sessionId c = false

theorem UsbMap.apply_response (m : UsbMap) (op : UsbOp) (sessionId c : UInt32) :
    (m.apply op).responseChannels sessionId c = none ↔ op.drops sessionId c = true ∨
      op.registers sessionId c = false ∧ m.responseChannels sessionId c = none := by
  cases op with
  | startSession id tx => simp [UsbMap.apply, UsbOp.drops, UsbOp.registers, UsbMap.startSession]
  | endSession id => simp [UsbMap.apply, UsbOp.drops, UsbOp.registers, UsbMap.endSession]
  | endSessionWithCleanup id =>
    simp only [UsbMap.apply, UsbOp.drops, UsbOp.registers, UsbMap.endSessionWithCleanup_response,
      beq_iff_eq, true_and, @eq_comm _ id]
    by_cases h : sessionId = id <;> simp [h]
  | registerResponseChannel id c' tx =>
    simp only [UsbMap.apply, UsbOp.drops, UsbOp.registers, UsbMap.registerResponseChannel,
      UsbMap.setResponseChannel_response, Bool.false_eq_true, false_or, Bool.and_eq_false_iff,
      beq_eq_false_iff_ne, @eq_comm _ id, @eq_comm _ c', ne_eq, ← not_and_or]
    by_cases h : sessionId = id ∧ c = c' <;> simp [h]
  | unregisterResponseChannel id c' =>
    simp only [UsbMap.apply, UsbOp.drops, UsbOp.registers, UsbMap.unregisterResponseChannel,
      UsbMap.setResponseChannel_response, Bool.and_eq_true, beq_iff_eq, true_and, @eq_comm _ id,
      @eq_comm _ c']
    by_cases h : sessionId = id ∧ c = c' <;> simp [h]

theorem dropped_concat {sessionId c : UInt32} {later : List UsbOp} {op : UsbOp} :
    Dropped sessionId c (later ++ [op]) ↔ op.drops sessionId c = true ∨
      op.registers sessionId c = false ∧ Dropped sessionId c later := by
  constructor
  · rintro ⟨before, op', after, heq, hdrops, hafter⟩
    rcases List.eq_nil_or_concat after with rfl | ⟨after, last, rfl⟩
    · obtain ⟨-, hlast⟩ := List.append_inj' heq rfl
      cases hlast
      exact Or.inl hdrops
    · have heq' : later ++ [op] = (before ++ op' :: after) ++ [last] := by simp [heq]
      obtain ⟨rfl, hlast⟩ := List.append_inj' heq' rfl
      cases hlast
      refine Or.inr ⟨hafter op (by simp), before, op', after, rfl, hdrops, ?_⟩
      exact fun o ho => hafter o (by simp [ho])
  · rintro (hdrops | ⟨hop, before, op', after, rfl, hdrops, hafter⟩)
    · exact ⟨later, op, [], rfl, hdrops, by simp⟩
    · refine ⟨before, op', after ++ [op], by simp, hdrops, fun o ho => ?_⟩
      rcases List.mem_append.mp ho with ho | ho
      · exact hafter o ho
      · rw [List.mem_singleton.mp ho, hop]

/-- A channel that is registered is gone after some operations exactly if they have dropped it. -/
theorem gone_iff_dropped {m : UsbMap} {sessionId c : UInt32}
    (h : m.responseChannels sessionId c ≠ none) (later : List UsbOp) :
    (later.foldl UsbMap.apply m).responseChannels sessionId c = none ↔
      Dropped sessionId c later := by
  induction later using List.reverseRecOn with
  | nil =>
    refine iff_of_false h ?_
    rintro ⟨before, op, after, heq, -⟩
    simp at heq
  | append_singleton later op ih =>
    rw [List.foldl_append, List.foldl_cons, List.foldl_nil, UsbMap.apply_response, ih,
      dropped_concat]

/-! The stages of a setup. -/

/-- How far the handler has come with what it registers. -/
inductive SetupStage where
  | start
  /-- The listener of the `ForwardCheck` flow is to be bound. -/
  | first
  /-- The rest of the `ForwardCheck` flow. -/
  | checking
  /-- The `ForwardInit` flows, up to the listener. -/
  | initing
  | bound
  | refusing
  | succeeded
  | failed
  deriving DecidableEq, Repr

def SetupPhase.stage : SetupPhase → SetupStage
  | .start => .start
  | .bindFirst => .first
  | .check _ | .waitResult _ | .tellFirst _ => .checking
  | .init | .waitCheck | .bind _ _ => .initing
  | .confirm _ _ | .waitSuccess _ _ | .followUp _ _ | .waitFollowUp _ _ | .tell _ _ => .bound
  | .refuse _ _ | .unregister _ => .refusing
  | .ended (.ok _) => .succeeded
  | .ended (.error _) => .failed

/-- The stages between which a step neither binds, nor registers, nor succeeds. -/
inductive SetupStage.QuietTo : SetupStage → SetupStage → Prop
  | check : QuietTo .checking .checking
  | fallBack : QuietTo .checking .initing
  | init : QuietTo .initing .initing
  | initFails : QuietTo .initing .failed
  | bound : QuietTo .bound .bound
  | boundFails : QuietTo .bound .failed
  | refuse : QuietTo .refusing .refusing

/-- The attempt to bind that an act is. -/
def bindOf : ServerAct SetupAct → Option (IoResult UInt32)
  | .own (.bind outcome) => some outcome
  | _ => none

/-- The client has taken the result. -/
def tellsOk : ServerAct SetupAct → Bool
  | .own (.tell (.ok ())) => true
  | _ => false

/-- What a step can do: from a stage, on an act, to a stage, with the channels it registers and
those it takes off. -/
inductive StageMove (job : ForwardJob) : SetupStage → ServerAct SetupAct → SetupStage →
    List UInt32 → List UInt32 → Prop
  | start : StageMove job .start (.own .next) (if job.isDebugForward then .initing else .first)
      [job.channelId] []
  | bindFirst (ctxId : UInt32) :
      StageMove job .first (.own (.bind (.ok ctxId))) .checking [ctxId] []
  | bindFirstFails (e : IoError) : StageMove job .first (.own (.bind (.error e))) .initing [] []
  | bind (n : UInt32) : StageMove job .initing (.own (.bind (.ok n))) .bound [] []
  | bindFails (e : IoError) : StageMove job .initing (.own (.bind (.error e))) .refusing [] []
  | takeOff : StageMove job .refusing (.own .next) .failed [] [job.channelId]
  | succeed (stage : SetupStage) (h : stage = .checking ∨ stage = .bound) :
    StageMove job stage (.own (.tell (.ok ()))) .succeeded [] []
  | quiet (stage stage' : SetupStage) (act : ServerAct SetupAct)
      (h : stage.QuietTo stage') (hbind : bindOf act = none) (htell : tellsOk act = false) :
    StageMove job stage act stage' [] []

section
variable {job : ForwardJob}

theorem stage_onCheckResult (ctxId : UInt32) (task : TaskMessage) :
    SetupStage.QuietTo .checking (onCheckResult ctxId task).stage := by
  unfold onCheckResult
  repeat' split
  all_goals constructor

theorem stage_onDaemonCheck (task : TaskMessage) :
    SetupStage.QuietTo .initing (onDaemonCheck task).stage := by
  unfold onDaemonCheck
  repeat' split
  all_goals constructor

theorem stage_afterSuccess (ctxId : UInt32) (spec : String) :
    (job.afterSuccess ctxId spec).stage = .bound := by
  unfold ForwardJob.afterSuccess
  split <;> rfl

/-- A message that is sent, or cannot be, is quiet. -/
theorem stageMove_of_sending {phase : SetupPhase} {p : Sending SetupPhase}
    (h : job.sending phase = some p) (outcome : IoResult Unit) :
    StageMove job phase.stage (.send outcome)
      (match outcome with | .ok _ => p.next | .error e => p.failed e).stage [] [] := by
  refine .quiet _ _ _ ?_ rfl rfl
  cases phase <;> cases h <;> cases outcome <;> constructor

theorem stageMove_of_step {phase phase' : SetupPhase} {act : SetupAct} {out : SetupOut}
    (h : job.step phase act = some (phase', out)) :
    StageMove job phase.stage (.own act) phase'.stage out.registered out.unregistered := by
  cases phase with
  | start =>
    cases act with
    | next =>
      cases h
      rw [apply_ite SetupPhase.stage]
      exact .start
    | _ => cases h
  | bindFirst =>
    cases act with
    | bind outcome =>
      cases outcome with
      | ok ctxId =>
        cases h
        exact .bindFirst _
      | error e =>
        cases h
        exact .bindFirstFails _
    | _ => cases h
  | waitResult ctxId =>
    cases act with
    | recv task =>
      cases h
      exact .quiet _ _ _ (stage_onCheckResult _ _) rfl rfl
    | closed | timeout =>
      cases h
      exact .quiet _ _ _ .fallBack rfl rfl
    | _ => cases h
  | tellFirst ctxId =>
    cases act with
    | tell outcome =>
      cases outcome with
      | ok =>
        cases h
        exact .succeed _ (Or.inl rfl)
      | error e =>
        cases h
        exact .quiet _ _ _ .fallBack rfl rfl
    | _ => cases h
  | waitCheck =>
    cases act with
    | recv task =>
      cases h
      exact .quiet _ _ _ (stage_onDaemonCheck _) rfl rfl
    | closed | timeout =>
      cases h
      exact .quiet _ _ _ .initFails rfl rfl
    | _ => cases h
  | bind ctxId spec =>
    cases act with
    | bind outcome =>
      cases outcome with
      | ok =>
        cases h
        exact .bind _
      | error e =>
        cases h
        exact .bindFails _
    | _ => cases h
  | unregister e =>
    cases act with
    | next =>
      cases h
      exact .takeOff
    | _ => cases h
  | waitSuccess ctxId spec =>
    cases act with
    | recv task =>
      cases h
      refine .quiet _ _ _ ?_ rfl rfl
      rw [apply_ite SetupPhase.stage, stage_afterSuccess]
      split <;> exact .bound
    | closed | timeout =>
      cases h
      exact .quiet _ _ _ (stage_afterSuccess _ _ ▸ .bound) rfl rfl
    | _ => cases h
  | waitFollowUp ctxId spec =>
    cases act with
    | recv task =>
      cases h
      refine .quiet _ _ _ ?_ rfl rfl
      rw [apply_ite SetupPhase.stage]
      split <;> exact .bound
    | closed | timeout =>
      cases h
      exact .quiet _ _ _ .bound rfl rfl
    | _ => cases h
  | tell ctxId spec =>
    cases act with
    | tell outcome =>
      cases outcome with
      | ok =>
        cases h
        exact .succeed _ (Or.inr rfl)
      | error e =>
        cases h
        exact .quiet _ _ _ .boundFails rfl rfl
    | _ => cases h
  -- the others are about to send, or have ended
  | _ => cases act <;> cases h

/-- A step of a run. -/
theorem fportCallStep_move {connectKey : String} {r r' : FportRun} {act : ServerAct SetupAct}
    (h : fportCallStep job connectKey r act = some r') :
    ∃ registered unregistered,
      StageMove job r.phase.stage act r'.phase.stage registered unregistered ∧
      r'.usb = SetupOut.apply { registered, unregistered } job.sessionId connectKey r.usb ∧
      r'.registered = r.registered ++ registered ∧ r'.acts = r.acts ++ [act] := by
  cases act with
  | send outcome =>
    obtain ⟨p, hp, rfl⟩ := Option.map_eq_some_iff.mp h
    exact ⟨[], [], stageMove_of_sending hp outcome, rfl, by simp, rfl⟩
  | own act =>
    obtain ⟨⟨phase, out⟩, hstep, rfl⟩ := Option.map_eq_some_iff.mp h
    exact ⟨out.registered, out.unregistered, stageMove_of_step hstep, rfl, rfl, rfl⟩

end

/-! What is registered. -/

/-- The attempts to bind. -/
def binds (acts : List (ServerAct SetupAct)) : List (IoResult UInt32) := acts.filterMap bindOf

/-- How often a setup binds in the `ForwardCheck` flow. -/
def ForwardJob.firstBinds (job : ForwardJob) : Nat := if job.isDebugForward then 0 else 1

/-- The context id that the handler draws when the first listener is bound. -/
def drawn (job : ForwardJob) (acts : List (ServerAct SetupAct)) : Option UInt32 :=
  match (binds acts).take job.firstBinds with
  | [.ok ctxId] => some ctxId
  | _ => none

/-- The listener cannot be bound after the daemon's check. -/
def refusedBind (job : ForwardJob) (acts : List (ServerAct SetupAct)) : Bool :=
  match (binds acts).drop job.firstBinds with
  | .error _ :: _ => true
  | _ => false

/-- The last that has happened is that the client has taken the result. -/
def toldOk (acts : List (ServerAct SetupAct)) : Bool := acts.getLast?.any tellsOk

/-- The map with the channel and, if there is one, the context id. -/
def ForwardJob.registerIn (job : ForwardJob) (connectKey : String) (usb : UsbMap)
    (ctxId : Option UInt32) : UsbMap :=
  SetupOut.apply { registered := job.channelId :: ctxId.toList } job.sessionId connectKey usb

/-- What is in the map at each stage, and what has been registered, after some acts. -/
inductive AtStage (job : ForwardJob) (connectKey : String) (usb : UsbMap)
    (acts : List (ServerAct SetupAct)) : SetupStage → UsbMap → List UInt32 → Prop
  | start (hbinds : binds acts = []) : AtStage job connectKey usb acts .start usb []
  | first (hbinds : binds acts = []) (hdebug : job.isDebugForward = false) :
    AtStage job connectKey usb acts .first (job.registerIn connectKey usb none) [job.channelId]
  | checking (hbinds : (binds acts).length = job.firstBinds) :
    AtStage job connectKey usb acts .checking (job.registerIn connectKey usb (drawn job acts))
      (job.channelId :: (drawn job acts).toList)
  | initing (hbinds : (binds acts).length = job.firstBinds) :
    AtStage job connectKey usb acts .initing (job.registerIn connectKey usb (drawn job acts))
      (job.channelId :: (drawn job acts).toList)
  | bound (hrefused : refusedBind job acts = false) :
    AtStage job connectKey usb acts .bound (job.registerIn connectKey usb (drawn job acts))
      (job.channelId :: (drawn job acts).toList)
  | refusing (hrefused : refusedBind job acts = true) :
    AtStage job connectKey usb acts .refusing (job.registerIn connectKey usb (drawn job acts))
      (job.channelId :: (drawn job acts).toList)
  | succeeded (htold : toldOk acts = true) :
    AtStage job connectKey usb acts .succeeded (job.registerIn connectKey usb (drawn job acts))
      (job.channelId :: (drawn job acts).toList)
  | failed (htold : toldOk acts = false) (hrefused : refusedBind job acts = false) :
    AtStage job connectKey usb acts .failed (job.registerIn connectKey usb (drawn job acts))
      (job.channelId :: (drawn job acts).toList)
  | takenOff (htold : toldOk acts = false) (hrefused : refusedBind job acts = true) :
    AtStage job connectKey usb acts .failed
      ((job.registerIn connectKey usb (drawn job acts)).unregisterResponseChannel job.sessionId
        job.channelId) (job.channelId :: (drawn job acts).toList)

section
variable {job : ForwardJob} {connectKey : String} {usb : UsbMap}
  {acts : List (ServerAct SetupAct)} {act : ServerAct SetupAct}

theorem binds_concat : binds (acts ++ [act]) = binds acts ++ (bindOf act).toList := by
  rw [binds, List.filterMap_append]
  cases h : bindOf act <;> simp [h, binds]

theorem binds_concat_none (h : bindOf act = none) : binds (acts ++ [act]) = binds acts := by
  simp [binds_concat, h]

theorem drawn_concat_none (h : bindOf act = none) : drawn job (acts ++ [act]) = drawn job acts := by
  rw [drawn, drawn, binds_concat_none h]

theorem refusedBind_concat_none (h : bindOf act = none) :
    refusedBind job (acts ++ [act]) = refusedBind job acts := by
  rw [refusedBind, refusedBind, binds_concat_none h]

theorem toldOk_concat : toldOk (acts ++ [act]) = tellsOk act := by
  simp [toldOk]

/-- The context id is drawn at the first attempt, and the others do not matter to it. -/
theorem drawn_concat (h : (binds acts).length = job.firstBinds) :
    drawn job (acts ++ [act]) = drawn job acts := by
  rw [drawn, drawn, binds_concat, List.take_append_of_le_length h.ge]

/-- The attempt after the daemon's check decides. -/
theorem refusedBind_concat (h : (binds acts).length = job.firstBinds) (outcome : IoResult UInt32) :
    refusedBind job (acts ++ [.own (.bind outcome)]) =
      match outcome with | .ok _ => false | .error _ => true := by
  rw [refusedBind, binds_concat, List.drop_append_of_le_length h.ge, ← h, List.drop_length]
  cases outcome <;> rfl

theorem refusedBind_of_length (h : (binds acts).length = job.firstBinds) :
    refusedBind job acts = false := by
  rw [refusedBind, ← h, List.drop_length]

/-- A step that neither binds nor registers. -/
theorem AtStage.quiet {stage stage' : SetupStage} {m : UsbMap} {registered : List UInt32}
    (h : AtStage job connectKey usb acts stage m registered) (hquiet : stage.QuietTo stage')
    (hbind : bindOf act = none) (htell : tellsOk act = false) :
    AtStage job connectKey usb (acts ++ [act]) stage' m registered := by
  have htold : toldOk (acts ++ [act]) = false := by rw [toldOk_concat, htell]
  cases h with
  | start => cases hquiet
  | first => cases hquiet
  | checking hbinds =>
    rw [← binds_concat_none hbind] at hbinds
    rw [← drawn_concat_none hbind]
    cases hquiet with
    | check => exact .checking hbinds
    | fallBack => exact .initing hbinds
  | initing hbinds =>
    rw [← binds_concat_none hbind] at hbinds
    rw [← drawn_concat_none hbind]
    cases hquiet with
    | init => exact .initing hbinds
    | initFails => exact .failed htold (refusedBind_of_length hbinds)
  | bound hrefused =>
    rw [← refusedBind_concat_none hbind] at hrefused
    rw [← drawn_concat_none hbind]
    cases hquiet with
    | bound => exact .bound hrefused
    | boundFails => exact .failed htold hrefused
  | refusing hrefused =>
    rw [← refusedBind_concat_none hbind] at hrefused
    rw [← drawn_concat_none hbind]
    cases hquiet
    exact .refusing hrefused
  | succeeded => cases hquiet
  | failed => cases hquiet
  | takenOff => cases hquiet

theorem AtStage.step {stage stage' : SetupStage} {m : UsbMap}
    {held registered unregistered : List UInt32}
    (h : AtStage job connectKey usb acts stage m held)
    (hmove : StageMove job stage act stage' registered unregistered) :
    AtStage job connectKey usb (acts ++ [act]) stage'
      (SetupOut.apply { registered, unregistered } job.sessionId connectKey m)
      (held ++ registered) := by
  cases hmove with
  | start =>
    cases h with
    | start hbinds =>
      rw [← @binds_concat_none acts (.own .next) rfl] at hbinds
      cases hdebug : job.isDebugForward with
      | true =>
        have hlength : (binds (acts ++ [.own .next])).length = job.firstBinds := by
          rw [hbinds, ForwardJob.firstBinds, hdebug]
          rfl
        have hdrawn : drawn job (acts ++ [.own .next]) = none := by
          rw [drawn, hbinds, List.take_nil]
        have hnext := @AtStage.initing job connectKey usb _ hlength
        rw [hdrawn] at hnext
        exact hnext
      | false => exact .first hbinds hdebug
  | bindFirst ctxId =>
    cases h with
    | first hbinds hdebug =>
      have hbinds' : binds (acts ++ [.own (.bind (.ok ctxId))]) = [.ok ctxId] := by
        rw [binds_concat, hbinds]
        rfl
      have hdrawn : drawn job (acts ++ [.own (.bind (.ok ctxId))]) = some ctxId := by
        rw [drawn, hbinds', ForwardJob.firstBinds, hdebug]
        rfl
      have hnext := @AtStage.checking job connectKey usb (acts ++ [.own (.bind (.ok ctxId))])
        (by rw [hbinds', ForwardJob.firstBinds, hdebug]; rfl)
      rw [hdrawn] at hnext
      exact hnext
  | bindFirstFails e =>
    cases h with
    | first hbinds hdebug =>
      have hbinds' : binds (acts ++ [.own (.bind (.error e))]) = [.error e] := by
        rw [binds_concat, hbinds]
        rfl
      have hdrawn : drawn job (acts ++ [.own (.bind (.error e))]) = none := by
        rw [drawn, hbinds', ForwardJob.firstBinds, hdebug]
        rfl
      have hnext := @AtStage.initing job connectKey usb (acts ++ [.own (.bind (.error e))])
        (by rw [hbinds', ForwardJob.firstBinds, hdebug]; rfl)
      rw [hdrawn] at hnext
      exact hnext
  | bind n =>
    cases h with
    | initing hbinds =>
      rw [List.append_nil, ← @drawn_concat job acts (.own (.bind (.ok n))) hbinds]
      exact .bound (refusedBind_concat hbinds (.ok n))
  | bindFails e =>
    cases h with
    | initing hbinds =>
      rw [List.append_nil, ← @drawn_concat job acts (.own (.bind (.error e))) hbinds]
      exact .refusing (refusedBind_concat hbinds (.error e))
  | takeOff =>
    cases h with
    | refusing hrefused =>
      rw [← @refusedBind_concat_none job acts (.own .next) rfl] at hrefused
      rw [List.append_nil, ← @drawn_concat_none job acts (.own .next) rfl]
      exact .takenOff toldOk_concat hrefused
  | succeed _ hstage =>
    rw [List.append_nil]
    have hend : AtStage job connectKey usb (acts ++ [.own (.tell (.ok ()))]) .succeeded
        (job.registerIn connectKey usb (drawn job acts))
        (job.channelId :: (drawn job acts).toList) := by
      rw [← @drawn_concat_none job acts (.own (.tell (.ok ()))) rfl]
      exact .succeeded toldOk_concat
    rcases hstage with rfl | rfl
    · cases h
      exact hend
    · cases h
      exact hend
  | quiet _ _ _ hquiet hbind htell =>
    rw [List.append_nil]
    exact h.quiet hquiet hbind htell

theorem FportRun.atStage {r : FportRun}
    (h : Reaches (fportCallStep job connectKey) anyStep (.start usb) r) :
    AtStage job connectKey usb r.acts r.phase.stage r.usb r.registered := by
  have hstep : ∀ {r act r'}, AtStage job connectKey usb (FportRun.acts r) r.phase.stage r.usb
      r.registered → anyStep r act → fportCallStep job connectKey r act = some r' →
      AtStage job connectKey usb r'.acts r'.phase.stage r'.usb r'.registered := by
    intro r act r' hr _ hst
    obtain ⟨registered, unregistered, hmove, husb, hregistered, hacts⟩ := fportCallStep_move hst
    rw [husb, hregistered, hacts]
    exact hr.step hmove
  exact h.invariant hstep (.start rfl)

theorem run_acts {r r' : FportRun} {acts : List (ServerAct SetupAct)}
    (h : run (fportCallStep job connectKey) anyStep r acts = some r') :
    r'.acts = r.acts ++ acts := by
  induction acts generalizing r with
  | nil =>
    cases h
    simp
  | cons act acts ih =>
    obtain ⟨-, r₁, hst, hrun⟩ := run_cons_some h
    obtain ⟨-, -, -, -, -, hacts⟩ := fportCallStep_move hst
    rw [ih hrun, hacts, List.append_assoc]
    rfl

/-! The keys. -/

/-- The same response channels are registered. -/
def SameResponseKeys (m m' : UsbMap) : Prop :=
  ∀ id c, (m'.responseChannels id c).isSome = (m.responseChannels id c).isSome

theorem registerIn_response (ctxId : Option UInt32) (id c : UInt32) :
    (job.registerIn connectKey usb ctxId).responseChannels id c =
      if id = job.sessionId ∧ (c = job.channelId ∨ ctxId = some c) then some connectKey
      else usb.responseChannels id c := by
  cases ctxId with
  | none =>
    simp [ForwardJob.registerIn, SetupOut.apply, UsbMap.registerResponseChannel,
      UsbMap.setResponseChannel_response]
  | some ctxId =>
    simp only [ForwardJob.registerIn, SetupOut.apply, UsbMap.registerResponseChannel, Option.toList,
      List.foldl_cons, List.foldl_nil, UsbMap.setResponseChannel_response, Option.some.injEq,
      @eq_comm _ ctxId]
    by_cases hid : id = job.sessionId <;> by_cases hc : c = ctxId <;>
      by_cases hch : c = job.channelId <;> simp [hid, hc, hch]

/-- The context id does not add a key. -/
def ForwardJob.Harmless (job : ForwardJob) (usb : UsbMap) (ctxId : Option UInt32) : Prop :=
  ∀ c, ctxId = some c → c = job.channelId ∨ usb.responseChannels job.sessionId c ≠ none

theorem sameResponseKeys_registerIn_iff (ctxId : Option UInt32) :
    SameResponseKeys usb (job.registerIn connectKey usb ctxId) ↔
      usb.responseChannels job.sessionId job.channelId ≠ none ∧ job.Harmless usb ctxId := by
  simp only [SameResponseKeys, registerIn_response]
  constructor
  · intro h
    refine ⟨fun hnone => ?_, fun c hc => ?_⟩
    · have hch := h job.sessionId job.channelId
      simp [hnone] at hch
    · have hctx := h job.sessionId c
      rw [if_pos ⟨rfl, Or.inr hc⟩] at hctx
      exact Or.inr (Option.isSome_iff_ne_none.mp hctx.symm)
  · rintro ⟨hch, hctx⟩ id c
    split
    · rename_i hkey
      obtain ⟨rfl, rfl | hc⟩ := hkey
      · exact (Option.isSome_iff_ne_none.mpr hch).symm
      · rcases hctx c hc with rfl | hsome
        · exact (Option.isSome_iff_ne_none.mpr hch).symm
        · exact (Option.isSome_iff_ne_none.mpr hsome).symm
    · rfl

theorem sameResponseKeys_takenOff_iff (ctxId : Option UInt32) :
    SameResponseKeys usb
      ((job.registerIn connectKey usb ctxId).unregisterResponseChannel job.sessionId
        job.channelId) ↔
      usb.responseChannels job.sessionId job.channelId = none ∧ job.Harmless usb ctxId := by
  simp only [SameResponseKeys, UsbMap.unregisterResponseChannel, UsbMap.setResponseChannel_response,
    registerIn_response]
  constructor
  · intro h
    refine ⟨?_, fun c hc => ?_⟩
    · have hch := h job.sessionId job.channelId
      simpa using hch.symm
    · by_cases hne : c = job.channelId
      · exact Or.inl hne
      · have hctx := h job.sessionId c
        rw [if_neg (fun h => hne h.2), if_pos ⟨rfl, Or.inr hc⟩] at hctx
        exact Or.inr (Option.isSome_iff_ne_none.mp hctx.symm)
  · rintro ⟨hch, hctx⟩ id c
    split
    · rename_i hkey
      obtain ⟨rfl, rfl⟩ := hkey
      rw [hch]
    · rename_i hkey
      split
      · rename_i hadded
        obtain ⟨rfl, hc⟩ := hadded
        have hne : c ≠ job.channelId := fun heq => hkey ⟨rfl, heq⟩
        have hsome := (hctx c (hc.resolve_left hne)).resolve_left hne
        exact (Option.isSome_iff_ne_none.mpr hsome).symm
      · rfl

/-! What the two ends come to. -/

theorem AtStage.sameResponseKeys_iff {m : UsbMap} {held : List UInt32}
    (h : AtStage job connectKey usb acts .failed m held) :
    toldOk acts = false ∧ (SameResponseKeys usb m ↔
      (refusedBind job acts = true ↔ usb.responseChannels job.sessionId job.channelId = none) ∧
        job.Harmless usb (drawn job acts)) := by
  cases h with
  | failed htold hrefused =>
    refine ⟨htold, ?_⟩
    rw [sameResponseKeys_registerIn_iff, hrefused]
    simp
  | takenOff htold hrefused =>
    refine ⟨htold, ?_⟩
    rw [sameResponseKeys_takenOff_iff, hrefused]
    simp

theorem AtStage.gone_iff {m : UsbMap} {held : List UInt32}
    (h : AtStage job connectKey usb acts .succeeded m held) (later : List UsbOp) :
    toldOk acts = true ∧ held = job.channelId :: (drawn job acts).toList ∧ ∀ c ∈ held,
      ((later.foldl UsbMap.apply m).responseChannels job.sessionId c = none ↔
        Dropped job.sessionId c later) := by
  cases h with
  | succeeded htold =>
    refine ⟨htold, rfl, fun c hc => gone_iff_dropped ?_ later⟩
    have hadded : c = job.channelId ∨ drawn job acts = some c := by
      simpa using hc
    rw [registerIn_response, if_pos ⟨rfl, hadded⟩]
    simp

end

/-! The two halves together. -/

section
variable (sessionId channelId : UInt32) (listenIp connectKey : String) (params : List String)
  (usb : UsbMap) (later : List UsbOp) (forwards : ForwardMap) (connectKeyFilter spec : String)

/-- A failed call leaves the keys of the response channels as they were; and once the entry of the
forward has been removed, with some operations of others in between, none that its setup has
registered is left. -/
structure LeavesNoRegistration (usb' : UsbMap) (registered : List UInt32)
    (result : IoResult (UInt32 × String)) : Prop where
  failed : ∀ e, result = .error e → SameResponseKeys usb usb'
  removed : ∀ job v, forwardStart sessionId channelId listenIp params = .ok job → result = .ok v →
    let (maps, removed) :=
      removeForward forwards (later.foldl UsbMap.apply usb') connectKeyFilter spec
    (Forward.fport connectKey job).entry ∈ removed →
      ∀ c ∈ registered, maps.2.responseChannels job.sessionId c = none

/-- A call that fails does so because a listener cannot be bound after the daemon's check, on a
channel that was not registered, and it has not registered a context id; or all its ids were
registered before. The registrations of a call that succeeds are dropped by others before its entry
is removed. -/
def OthersTakeOff (acts : List (ServerAct SetupAct)) : Prop :=
  ∀ job, forwardStart sessionId channelId listenIp params = .ok job →
    if toldOk acts = true then
      (Forward.fport connectKey job).entry ∈
          (removeForwardEntry forwards connectKeyFilter spec).2.1 →
        ∀ c ∈ job.channelId :: (drawn job acts).toList, Dropped job.sessionId c later
    else (refusedBind job acts = true ↔ usb.responseChannels job.sessionId job.channelId = none) ∧
      job.Harmless usb (drawn job acts)

end

/-- A setup leaves no registration behind exactly if it cannot be bound, or others take off what it
has registered. -/
theorem forward_registrations_iff (sessionId channelId : UInt32) (listenIp connectKey : String)
    (params : List String) (usb : UsbMap) (acts : List (ServerAct SetupAct)) (later : List UsbOp)
    (forwards : ForwardMap) (connectKeyFilter spec : String) (usb' : UsbMap)
    (registered : List UInt32) (result : IoResult (UInt32 × String))
    (hcall : forwardCall sessionId channelId listenIp connectKey params usb acts =
      some (usb', registered, result)) :
    LeavesNoRegistration sessionId channelId listenIp connectKey params usb later forwards
        connectKeyFilter spec usb' registered result ↔
      OthersTakeOff sessionId channelId listenIp connectKey params usb later forwards
        connectKeyFilter spec acts := by
  unfold forwardCall at hcall
  cases hstart : forwardStart sessionId channelId listenIp params with
  | error e =>
    rw [hstart] at hcall
    cases hcall
    refine iff_of_true ⟨fun _ _ _ _ => rfl, fun job v hjob => ?_⟩ (fun job hjob => ?_)
    · rw [hstart] at hjob
      cases hjob
    · rw [hstart] at hjob
      cases hjob
  | ok job =>
    rw [hstart] at hcall
    dsimp only at hcall
    split at hcall
    case h_2 => cases hcall
    case h_1 result' usb'' registered' acts' hrun =>
      cases hcall
      have hacts : acts' = acts := run_acts hrun
      subst hacts
      have hstage := FportRun.atStage (.of_run hrun)
      cases result with
      | error e =>
        obtain ⟨htold, hkeys⟩ := hstage.sameResponseKeys_iff
        constructor
        · intro h job' hjob
          cases hstart.symm.trans hjob
          rw [htold]
          exact hkeys.mp (h.failed e rfl)
        · intro h
          have htakeOff := h job hstart
          rw [htold] at htakeOff
          exact ⟨fun _ _ => hkeys.mpr htakeOff, fun _ v _ hv => by cases hv⟩
      | ok v =>
        obtain ⟨htold, hheld, hgone⟩ := hstage.gone_iff later
        constructor
        · intro h job' hjob
          cases hstart.symm.trans hjob
          rw [if_pos htold]
          intro hentry c hc
          rw [← hheld] at hc
          exact (hgone c hc).mp (h.removed job v hstart rfl hentry c hc)
        · intro h
          have hdropped := h job hstart
          rw [if_pos htold, ← hheld] at hdropped
          refine ⟨fun e he => absurd he (by simp), fun job' v' hjob _ hentry c hc => ?_⟩
          cases hstart.symm.trans hjob
          exact (hgone c hc).mpr (hdropped hentry c hc)

/-- A forward to a port of the device. -/
def plainForward : List String := ["fport", "tcp:8000", "tcp:80"]

def plainJob : ForwardJob := ⟨7, 3, "127.0.0.1", "tcp:8000", 8000, "tcp:80"⟩

theorem forwardStart_plain : forwardStart 7 3 "127.0.0.1" plainForward = .ok plainJob := by
  decide

/-- A call on an empty map. -/
def plainCall (acts : List (ServerAct SetupAct)) :
    Option (UsbMap × List UInt32 × IoResult (UInt32 × String)) :=
  forwardCall 7 3 "127.0.0.1" "SN1" plainForward .new acts

/-- The port is in use, which the host finds once before its `ForwardInit` and once after the
daemon's check. -/
def portInUse : List (ServerAct SetupAct) :=
  [.own .next, .own (.bind (.error ⟨.addrInUse, "in use"⟩)), .send (.ok ()),
    .own (.recv (hostForwardCheck 3 9 "tcp:80")), .own (.bind (.error ⟨.addrInUse, "in use"⟩)),
    .send (.ok ()), .own .next]

theorem plainCall_portInUse : (plainCall portInUse).isSome = true := by decide

theorem forward_registrations_port_in_use :
    let (usb', registered, result) := (plainCall portInUse).get plainCall_portInUse
    LeavesNoRegistration 7 3 "127.0.0.1" "SN1" plainForward .new [] .new "" "" usb' registered
      result := by
  refine (forward_registrations_iff 7 3 "127.0.0.1" "SN1" plainForward .new portInUse [] .new "" ""
    _ _ _ (Option.some_get plainCall_portInUse).symm).mpr ?_
  intro job hjob
  cases forwardStart_plain.symm.trans hjob
  have hdrawn : drawn plainJob portInUse = none := by decide
  rw [if_neg (by decide), hdrawn]
  exact ⟨iff_of_true (by decide) rfl, fun c hc => by cases hc⟩

/-- The daemon does not answer the check, and then not the `ForwardInit`. -/
def daemonSilent : List (ServerAct SetupAct) :=
  [.own .next, .own (.bind (.ok 42)), .send (.ok ()), .own .timeout, .send (.ok ()), .own .timeout]

/-- The daemon accepts the check. -/
def daemonAccepts : List (ServerAct SetupAct) :=
  [.own .next, .own (.bind (.ok 42)), .send (.ok ()), .own (.recv (hostCheckResult 3 42 true)),
    .own (.tell (.ok ()))]

/-- The channel and the context id stay registered when the call times out, and when the forward
has been set up and removed again. -/
theorem forward_registrations_left :
    ((plainCall daemonSilent).map fun (usb', _, result) =>
      (result, usb'.responseChannels 7 3, usb'.responseChannels 7 42)) =
      some (.error ⟨.timedOut, "Timeout waiting for ForwardCheck from daemon"⟩, some "SN1",
        some "SN1") ∧
    ((plainCall daemonAccepts).map fun (usb', _, result) =>
      let forwards := ForwardMap.new.insert (Forward.fport "SN1" plainJob).entry
      let (maps, removed) := removeForward forwards usb' "SN1" "tcp:8000 tcp:80"
      (result, removed, maps.2.responseChannels 7 3, maps.2.responseChannels 7 42)) =
      some (.ok (42, "tcp:80"), [(Forward.fport "SN1" plainJob).entry], some "SN1",
        some "SN1") := by
  decide

end Hdc
