import Hdc.AppHost
import Hdc.Lts

/- What a call of `handle_server_app_install` (`hdc/src/server.rs`) leaves behind: the temporary
   directories it made for the packs, and its response channel.

   A directory is noted for its removal only after its pack has been read and packages were found
   in it. So an archive that cannot be read, or is without packages, ends the call with its
   directory in place; every other way to leave the loops removes all of them
   (`install_cleans_up_iff`). The response channel is always taken off.

   For this the phases of an install are seen as four stages, and `Install.Turn` says what a step
   does at each. -/
namespace Hdc
open Rust Lts

/-! Calls. -/

/-- A call with the directories made and removed so far, and whether its response channel is
registered. -/
structure InstallCall where
  args : InstallArgs
  install : Install
  created : List String := []
  removed : List String := []
  registered : Bool
  deriving DecidableEq, Repr

/-- A call without a package returns before it registers its channel. -/
def InstallCall.begin (params : List String) : InstallCall :=
  match installStart params with
  | .error e => { args := {}, install := ⟨.ended (.error e), [], [], []⟩, registered := false }
  | .ok args => { args, install := .start args, registered := true }

inductive InstallEvent where
  /-- The message of the phase is sent, with the maps of that moment. -/
  | send (maps : SessionMaps) (outcome : IoResult Unit)
  /-- Another step; `stuck` are the directories whose `remove_dir_all` fails. -/
  | own (act : InstallAct) (stuck : List String)
  deriving DecidableEq, Repr

/-- Where the handler goes on after a send. -/
def Sending.after {σ : Type} (p : Sending σ) (maps : SessionMaps) (outcome : IoResult Unit) : σ :=
  match p.route.send maps p.sessionId outcome with
  | .ok () => p.next
  | .error e => p.failed e

/-- The outcome of a removal is not looked at. -/
def InstallCall.record (c : InstallCall) (stuck : List String) (p : Install × InstallOut) :
    InstallCall :=
  { c with
    install := p.1
    created := c.created ++ p.2.createdDirs
    removed := c.removed ++ p.2.removedDirs.filter (· ∉ stuck)
    registered := c.registered && !p.2.unregister }

def InstallCall.step (sessionId channelId : UInt32) (c : InstallCall) :
    InstallEvent → Option InstallCall
  | .send maps outcome => ((appInstall sessionId channelId c.args).sending c.install).map fun p =>
      { c with install := p.after maps outcome }
  | .own act stuck => ((appInstall sessionId channelId c.args).step c.install act).map (c.record stuck)

/-- Nothing of the call is left. -/
structure CleanedUp (c : InstallCall) : Prop where
  removed : ∀ dir ∈ c.created, dir ∈ c.removed
  unregistered : c.registered = false

/-! Stages. -/

inductive InstallStage where
  | working
  /-- A pack is to be read to this directory. -/
  | extracting (dir : String)
  | closing
  | returned
  deriving DecidableEq, Repr

def InstallPhase.stage : InstallPhase → InstallStage
  | .extract _ dir => .extracting dir
  | .cleanup _ => .closing
  | .ended _ => .returned
  | _ => .working

/-- The pack has packages, or its directory is that of an earlier pack; and the removals work. -/
def cleanEvent (c : InstallCall) : InstallEvent → Bool
  | .send _ _ => true
  | .own act stuck =>
    match c.install.phase.stage, act with
    | .extracting _, .extracted (_ :: _) => true
    | .extracting dir, _ => dir ∈ c.install.cleanupDirs
    | .closing, _ => c.install.cleanupDirs.all (· ∉ stuck)
    | .working, _ | .returned, _ => true

def CleanEvent (c : InstallCall) (event : InstallEvent) : Prop := cleanEvent c event = true

instance (c : InstallCall) (event : InstallEvent) : Decidable (CleanEvent c event) :=
  inferInstanceAs (Decidable (_ = true))

/-! What a step does. -/

/-- The loops go on, or the clean-up is next. -/
structure Install.GoesOn (s s' : Install) : Prop where
  stage : s'.phase.stage = .working ∨ s'.phase.stage = .closing
  dirs : s'.cleanupDirs = s.cleanupDirs

/-- The steps of the handler, by what they do to its directories and its channel. -/
inductive Install.Turn (s : Install) (act : InstallAct) : Install → InstallOut → Prop
  | work {s' : Install} {out : InstallOut} : s.phase.stage = .working → s.GoesOn s' →
      out.createdDirs = [] → out.removedDirs = [] → out.unregister = false → Turn s act s' out
  | create {s' : Install} (dir : String) : s.phase.stage = .working →
      s'.phase.stage = .extracting dir → s'.cleanupDirs = s.cleanupDirs →
      Turn s act s' { createdDirs := [dir] }
  | extract {s' : Install} (dir hap : String) (haps : List String) :
      s.phase.stage = .extracting dir → act = .extracted (hap :: haps) →
      s'.phase.stage = .working → s'.cleanupDirs = s.cleanupDirs ++ [dir] → Turn s act s' {}
  | fail {s' : Install} (dir : String) : s.phase.stage = .extracting dir →
      (∀ hap haps, act ≠ .extracted (hap :: haps)) → s'.phase.stage = .closing →
      s'.cleanupDirs = s.cleanupDirs → Turn s act s' {}
  | close {s' : Install} : s.phase.stage = .closing → s'.phase.stage = .returned →
      s'.cleanupDirs = s.cleanupDirs →
      Turn s act s' { unregister := true, removedDirs := s.cleanupDirs }

section
variable {s s' : Install} {hap : Hap}

theorem Install.goesOn_fail (s : Install) (e : IoError) : s.GoesOn (s.fail e) := ⟨.inr rfl, rfl⟩

theorem Install.turn_fail {act : InstallAct} (h : s.phase.stage = .working) (e : IoError) :
    s.Turn act (s.fail e) {} :=
  .work h (s.goesOn_fail e) rfl rfl rfl

theorem Install.goesOn_onBegin (task : TaskMessage) : s.GoesOn (s.onBegin hap task) := by
  unfold Install.onBegin
  split
  · exact ⟨.inl rfl, rfl⟩
  · exact ⟨.inl rfl, rfl⟩
  · exact s.goesOn_fail _

theorem Install.goesOn_onAppFinish (payload : List UInt8) : s.GoesOn (s.onAppFinish hap payload) := by
  unfold Install.onAppFinish
  split
  · split
    · exact ⟨.inl rfl, rfl⟩
    · exact s.goesOn_fail _
  · exact s.goesOn_fail _

/-- Messages of the daemon touch neither the directories nor the channel. -/
theorem Install.turn_onResult (hphase : s.phase = .waitFinish hap) (act : InstallAct)
    (task : TaskMessage) : s.Turn act (s.onResult hap task).1 (s.onResult hap task).2 := by
  have hstage : s.phase.stage = .working := by rw [hphase]; rfl
  unfold Install.onResult
  split
  · exact .work hstage (goesOn_onAppFinish task.payload) rfl rfl rfl
  · exact .work hstage ⟨.inl hstage, rfl⟩ rfl rfl rfl
  · exact .work hstage ⟨.inl hstage, rfl⟩ rfl rfl rfl
  · exact turn_fail hstage _
  · exact .work hstage ⟨.inl hstage, rfl⟩ rfl rfl rfl

end

theorem Install.turn_of_step {args : InstallArgs} {s s' : Install} {act : InstallAct}
    {out : InstallOut} (h : Install.step args s act = some (s', out)) : s.Turn act s' out := by
  obtain ⟨phase, haps, packages, dirs⟩ := s
  cases phase with
  | nextPackage =>
    cases packages with
    | nil =>
      cases act <;> cases h
      exact .work rfl ⟨.inr rfl, rfl⟩ rfl rfl rfl
    | cons package packages =>
      cases act <;> cases h
      refine .work rfl ?_ rfl rfl rfl
      split
      · exact ⟨.inl rfl, rfl⟩
      · exact ⟨.inl rfl, rfl⟩
  | createDir appPath =>
    cases act <;> cases h
    · exact .create _ rfl rfl rfl
    · exact turn_fail rfl _
  | extract appPath dir =>
    cases act <;> cases h
    · rename_i found
      cases found with
      | nil => exact .fail dir rfl (fun _ _ heq => by cases heq) rfl rfl
      | cons hap haps => exact .extract dir hap haps rfl rfl rfl rfl
    · exact .fail dir rfl (fun _ _ heq => by cases heq) rfl rfl
  | nextHap =>
    cases haps with
    | nil =>
      cases act <;> cases h
      exact .work rfl ⟨.inl rfl, rfl⟩ rfl rfl rfl
    | cons path haps =>
      cases act <;> cases h
      · exact .work rfl ⟨.inl rfl, rfl⟩ rfl rfl rfl
      · exact turn_fail rfl _
  | waitBegin hap =>
    cases act <;> cases h
    · exact .work rfl (goesOn_onBegin _) rfl rfl rfl
    · exact turn_fail rfl _
    · exact turn_fail rfl _
  | opening hap =>
    cases act <;> cases h
    · exact .work rfl ⟨.inl rfl, rfl⟩ rfl rfl rfl
    · exact turn_fail rfl _
  | reading hap offset rest =>
    cases act with
    | next =>
      cases rest <;> cases h
      exact .work rfl ⟨.inl rfl, rfl⟩ rfl rfl rfl
    | read n =>
      have hread : (if 0 < n ∧ n ≤ chunkSize ∧ n ≤ rest.length then
          some (⟨.data hap offset (rest.take n) (rest.drop n), haps, packages, dirs⟩, {}) else none) =
            some (s', out) := by
        cases rest <;> exact h
      split at hread <;> cases hread
      exact .work rfl ⟨.inl rfl, rfl⟩ rfl rfl rfl
    | fail e =>
      cases rest <;> cases h <;> exact turn_fail rfl _
    | _ => cases rest <;> cases h
  | waitFinish hap =>
    cases act with
    | recv task =>
      have heq := Option.some.inj h
      have hturn := Install.turn_onResult (s := ⟨.waitFinish hap, haps, packages, dirs⟩) rfl
        (.recv task) task
      rwa [heq] at hturn
    | closed | timeout =>
      cases h
      exact turn_fail rfl _
    | _ => cases h
  | tell hap =>
    cases act with
    | tell outcome =>
      cases outcome <;> cases h
      · exact turn_fail rfl _
      · exact .work rfl ⟨.inl rfl, rfl⟩ rfl rfl rfl
    | _ => cases h
  | cleanup result =>
    cases act <;> cases h
    exact .close rfl rfl rfl
  | init | check | data | ended => cases act <;> cases h

/-- A send, whatever comes of it. -/
theorem Install.goesOn_sending {sessionId channelId : UInt32} {args : InstallArgs} {s : Install}
    {p : Sending Install} (h : Install.sending sessionId channelId args s = some p) :
    s.phase.stage = .working ∧ ∀ maps outcome, s.GoesOn (p.after maps outcome) := by
  have hafter {next : Install} (hp : p.next = next) (hfailed : p.failed = s.fail)
      (hnext : s.GoesOn next) (maps : SessionMaps) (outcome : IoResult Unit) :
      s.GoesOn (p.after maps outcome) := by
    unfold Sending.after
    split
    · rw [hp]
      exact hnext
    · rw [hfailed]
      exact s.goesOn_fail _
  unfold Install.sending at h
  split at h
  · rename_i hphase
    cases h
    exact ⟨by rw [hphase]; rfl, hafter rfl rfl ⟨.inl rfl, rfl⟩⟩
  · rename_i hphase
    cases h
    exact ⟨by rw [hphase]; rfl, hafter rfl rfl ⟨.inl rfl, rfl⟩⟩
  · rename_i hphase
    cases h
    exact ⟨by rw [hphase]; rfl, hafter rfl rfl ⟨.inl rfl, rfl⟩⟩
  · cases h

/-! Runs. -/

section
variable {sessionId channelId : UInt32} {c c' : InstallCall} {event : InstallEvent}

/-- A send is a step that makes and removes nothing. -/
theorem InstallCall.step_cases (h : c.step sessionId channelId event = some c') :
    (∃ maps outcome s, event = .send maps outcome ∧ c.install.phase.stage = .working ∧
      c.install.GoesOn s ∧ c' = c.record [] (s, {})) ∨
    (∃ act stuck s out, event = .own act stuck ∧ c.install.Turn act s out ∧
      c' = c.record stuck (s, out)) := by
  cases event with
  | send maps outcome =>
    obtain ⟨p, hp, rfl⟩ := Option.map_eq_some_iff.mp h
    obtain ⟨hstage, hafter⟩ := Install.goesOn_sending hp
    refine .inl ⟨maps, outcome, _, rfl, hstage, hafter maps outcome, ?_⟩
    simp [InstallCall.record]
  | own act stuck =>
    obtain ⟨⟨s, out⟩, hstep, rfl⟩ := Option.map_eq_some_iff.mp h
    exact .inr ⟨act, stuck, s, out, rfl, Install.turn_of_step hstep, rfl⟩

/-- Every directory there is will be removed, or its pack is just to be read. -/
structure Noted (c : InstallCall) : Prop where
  going : c.install.phase.stage ≠ .returned
  registered : c.registered = true
  removed : c.removed = []
  created : ∀ dir, dir ∈ c.created ↔
    dir ∈ c.install.cleanupDirs ∨ c.install.phase.stage = .extracting dir

/-- A directory that will not be removed. -/
def Lost (c : InstallCall) : Prop :=
  ∃ dir ∈ c.created, dir ∉ c.removed ∧ (c.install.phase.stage = .returned ∨
    c.install.phase.stage = .closing ∧ dir ∉ c.install.cleanupDirs)

theorem InstallCall.step_of_returned (h : c.install.phase.stage = .returned) (event : InstallEvent) :
    c.step sessionId channelId event = none := by
  rw [Option.eq_none_iff_forall_not_mem]
  intro c' hc'
  rcases InstallCall.step_cases hc' with ⟨_, _, _, _, hstage, _⟩ | ⟨act, stuck, s, out, _, hturn, _⟩
  · rw [hstage] at h
    cases h
  · cases hturn with
    | work hstage | create _ hstage | extract _ _ _ hstage | fail _ hstage | close hstage =>
      rw [hstage] at h
      cases h

theorem Lost.step (hc : Lost c) (h : c.step sessionId channelId event = some c') : Lost c' := by
  obtain ⟨dir, hcreated, hremoved, hstage | ⟨hstage, hdirs⟩⟩ := hc
  · rw [InstallCall.step_of_returned hstage] at h
    cases h
  rcases InstallCall.step_cases h with ⟨_, _, _, _, hwork, _⟩ | ⟨act, stuck, s, out, _, hturn, rfl⟩
  · rw [hstage] at hwork
    cases hwork
  · cases hturn with
    | work hwork | create _ hwork | extract _ _ _ hwork | fail _ hwork =>
      rw [hstage] at hwork
      cases hwork
    | close _ hended _ =>
      refine ⟨dir, List.mem_append_left _ hcreated, ?_, .inl hended⟩
      intro hmem
      rcases List.mem_append.mp hmem with hmem | hmem
      · exact hremoved hmem
      · exact hdirs (List.mem_of_mem_filter hmem)

/-! The condition, stage by stage. -/

section
variable {act : InstallAct} {stuck : List String} {dir : String}

theorem cleanEvent_working (h : c.install.phase.stage = .working) :
    CleanEvent c (.own act stuck) := by
  unfold CleanEvent cleanEvent
  simp only [h]

theorem cleanEvent_extracted (h : c.install.phase.stage = .extracting dir) (hap : String)
    (haps : List String) : CleanEvent c (.own (.extracted (hap :: haps)) stuck) := by
  unfold CleanEvent cleanEvent
  simp only [h]

theorem cleanEvent_fail_iff (h : c.install.phase.stage = .extracting dir)
    (hact : ∀ hap haps, act ≠ .extracted (hap :: haps)) :
    CleanEvent c (.own act stuck) ↔ dir ∈ c.install.cleanupDirs := by
  unfold CleanEvent cleanEvent
  simp only [h]
  exact decide_eq_true_iff

theorem cleanEvent_closing_iff (h : c.install.phase.stage = .closing) :
    CleanEvent c (.own act stuck) ↔ ∀ dir ∈ c.install.cleanupDirs, dir ∉ stuck := by
  unfold CleanEvent cleanEvent
  simp only [h, List.all_eq_true, decide_eq_true_eq]

end

/-! The steps that make, note, lose and remove directories. -/

section
variable {s : Install} {stuck : List String} {dir : String}

theorem Noted.record {out : InstallOut} (hc : Noted c) (hgoing : s.phase.stage ≠ .returned)
    (hremoved : out.removedDirs = []) (hunregister : out.unregister = false)
    (hcreated : ∀ d, d ∈ c.created ∨ d ∈ out.createdDirs ↔
      d ∈ s.cleanupDirs ∨ s.phase.stage = .extracting d) : Noted (c.record stuck (s, out)) where
  going := hgoing
  registered := by rw [InstallCall.record, hunregister, hc.registered]; rfl
  removed := by rw [InstallCall.record, hremoved, hc.removed]; rfl
  created d := by rw [InstallCall.record, List.mem_append, hcreated]

/-- Work in the loops changes nothing of what is owed. -/
theorem Noted.goesOn {out : InstallOut} (hc : Noted c) (hstage : c.install.phase.stage = .working)
    (hs : c.install.GoesOn s) (hcreated : out.createdDirs = []) (hremoved : out.removedDirs = [])
    (hunregister : out.unregister = false) : Noted (c.record stuck (s, out)) := by
  refine hc.record ?_ hremoved hunregister fun d => ?_
  · rcases hs.stage with h | h <;> rw [h] <;> decide
  · rw [hc.created, hstage, hcreated, hs.dirs]
    rcases hs.stage with h | h <;> simp [h]

theorem Noted.create (hc : Noted c) (hstage : c.install.phase.stage = .working)
    (hnext : s.phase.stage = .extracting dir) (hdirs : s.cleanupDirs = c.install.cleanupDirs) :
    Noted (c.record stuck (s, { createdDirs := [dir] })) := by
  refine hc.record (by simp [hnext]) rfl rfl fun d => ?_
  simp [hnext, hdirs, hc.created, hstage, eq_comm]

theorem Noted.extract (hc : Noted c) (hstage : c.install.phase.stage = .extracting dir)
    (hnext : s.phase.stage = .working) (hdirs : s.cleanupDirs = c.install.cleanupDirs ++ [dir]) :
    Noted (c.record stuck (s, {})) := by
  refine hc.record (by simp [hnext]) rfl rfl fun d => ?_
  simp [hnext, hdirs, hc.created, hstage, eq_comm]

/-- A pack that fails is no loss only if another pack had the same directory. -/
theorem Noted.fail_same (hc : Noted c) (hstage : c.install.phase.stage = .extracting dir)
    (hnext : s.phase.stage = .closing) (hdirs : s.cleanupDirs = c.install.cleanupDirs)
    (hsame : dir ∈ c.install.cleanupDirs) : Noted (c.record stuck (s, {})) := by
  refine hc.record (by simp [hnext]) rfl rfl fun d => ?_
  have hd : d ∈ c.created ↔ d ∈ c.install.cleanupDirs := by
    rw [hc.created, hstage, or_iff_left_of_imp]
    intro heq
    cases heq
    exact hsame
  simp [hnext, hdirs, hd]

theorem Noted.fail_lost (hc : Noted c) (hstage : c.install.phase.stage = .extracting dir)
    (hnext : s.phase.stage = .closing) (hdirs : s.cleanupDirs = c.install.cleanupDirs)
    (hnew : dir ∉ c.install.cleanupDirs) : Lost (c.record stuck (s, {})) := by
  refine ⟨dir, ?_, ?_, .inr ⟨hnext, ?_⟩⟩
  · exact List.mem_append_left _ ((hc.created dir).mpr (.inr hstage))
  · simp [InstallCall.record, hc.removed]
  · rw [InstallCall.record, hdirs]
    exact hnew

theorem Noted.mem_created_closing (hc : Noted c) (hstage : c.install.phase.stage = .closing) :
    dir ∈ c.created ↔ dir ∈ c.install.cleanupDirs := by
  rw [hc.created, hstage, or_iff_left (by simp)]

theorem Noted.close (hc : Noted c) (hstage : c.install.phase.stage = .closing)
    (hfree : ∀ dir ∈ c.install.cleanupDirs, dir ∉ stuck) :
    CleanedUp (c.record stuck (s, { unregister := true, removedDirs := c.install.cleanupDirs })) := by
  constructor
  · intro dir hdir
    rw [InstallCall.record, List.append_nil, hc.mem_created_closing hstage] at hdir
    exact List.mem_append_right _ (List.mem_filter.mpr ⟨hdir, decide_eq_true (hfree dir hdir)⟩)
  · rw [InstallCall.record, Bool.not_true, Bool.and_false]

theorem Noted.close_stuck (hc : Noted c) (hstage : c.install.phase.stage = .closing)
    (hnext : s.phase.stage = .returned) (hdir : dir ∈ c.install.cleanupDirs) (hstuck : dir ∈ stuck) :
    Lost (c.record stuck (s, { unregister := true, removedDirs := c.install.cleanupDirs })) := by
  refine ⟨dir, List.mem_append_left _ ((hc.mem_created_closing hstage).mpr hdir), ?_, .inl hnext⟩
  simp [InstallCall.record, hc.removed, hstuck]

end

/-- A step that meets the condition keeps the directories noted, or returns with all of them
removed; any other loses one. -/
theorem Noted.step (hc : Noted c) (h : c.step sessionId channelId event = some c') :
    CleanEvent c event ∧ (Noted c' ∨ c'.install.phase.stage = .returned ∧ CleanedUp c') ∨
    ¬ CleanEvent c event ∧ Lost c' := by
  rcases InstallCall.step_cases h with
    ⟨maps, outcome, s, rfl, hstage, hs, rfl⟩ | ⟨act, stuck, s, out, rfl, hturn, rfl⟩
  · exact .inl ⟨rfl, .inl (hc.goesOn hstage hs rfl rfl rfl)⟩
  cases hturn with
  | work hstage hs hcreated hremoved hunregister =>
    exact .inl ⟨cleanEvent_working hstage, .inl (hc.goesOn hstage hs hcreated hremoved hunregister)⟩
  | create dir hstage hnext hdirs =>
    exact .inl ⟨cleanEvent_working hstage, .inl (hc.create hstage hnext hdirs)⟩
  | extract dir hap haps hstage hact hnext hdirs =>
    rw [hact]
    exact .inl ⟨cleanEvent_extracted hstage hap haps, .inl (hc.extract hstage hnext hdirs)⟩
  | fail dir hstage hact hnext hdirs =>
    rw [cleanEvent_fail_iff hstage hact]
    by_cases hsame : dir ∈ c.install.cleanupDirs
    · exact .inl ⟨hsame, .inl (hc.fail_same hstage hnext hdirs hsame)⟩
    · exact .inr ⟨hsame, hc.fail_lost hstage hnext hdirs hsame⟩
  | close hstage hnext hdirs =>
    rw [cleanEvent_closing_iff hstage]
    by_cases hfree : ∀ dir ∈ c.install.cleanupDirs, dir ∉ stuck
    · exact .inl ⟨hfree, .inr ⟨hnext, hc.close hstage hfree⟩⟩
    · obtain ⟨dir, hdir, hstuck⟩ : ∃ dir ∈ c.install.cleanupDirs, dir ∈ stuck := by
        simpa only [not_forall, not_not, exists_prop] using hfree
      exact .inr ⟨hfree, hc.close_stuck hstage hnext hdir hstuck⟩

/-- The channel is taken off with the return. -/
theorem InstallCall.unregistered_of_step (h : c.step sessionId channelId event = some c')
    (hend : c'.install.phase.stage = .returned) : c'.registered = false := by
  rcases InstallCall.step_cases h with
    ⟨maps, outcome, s, _, _, hs, rfl⟩ | ⟨act, stuck, s, out, _, hturn, rfl⟩
  · rcases hs.stage with hstage | hstage <;> cases hstage.symm.trans hend
  · cases hturn with
    | work _ hs => rcases hs.stage with hstage | hstage <;> cases hstage.symm.trans hend
    | create _ _ hstage | extract _ _ _ _ _ hstage | fail _ _ _ hstage =>
      cases hstage.symm.trans hend
    | close => rw [InstallCall.record, Bool.not_true, Bool.and_false]

theorem Lost.not_cleanedUp (hc : Lost c) : ¬ CleanedUp c := by
  obtain ⟨dir, hcreated, hremoved, _⟩ := hc
  exact fun hclean => hremoved (hclean.removed dir hcreated)

/-- A call that has returned does nothing more. -/
theorem run_of_returned {events : List InstallEvent} (hc : c.install.phase.stage = .returned)
    (h : run (InstallCall.step sessionId channelId) anyStep c events = some c') :
    events = [] ∧ c' = c := by
  cases events with
  | nil =>
    cases h
    exact ⟨rfl, rfl⟩
  | cons event events =>
    obtain ⟨_, t, hstep, _⟩ := run_cons_some h
    rw [InstallCall.step_of_returned hc] at hstep
    cases hstep

theorem Noted.run {events : List InstallEvent} (hc : Noted c)
    (h : run (InstallCall.step sessionId channelId) anyStep c events = some c')
    (hend : c'.install.phase.stage = .returned) :
    CleanedUp c' ↔ Lts.run (InstallCall.step sessionId channelId) CleanEvent c events = some c' := by
  induction events generalizing c with
  | nil =>
    cases h
    exact absurd hend hc.going
  | cons event events ih =>
    obtain ⟨_, t, hstep, hrest⟩ := run_cons_some h
    rcases hc.step hstep with ⟨hclean, ht | ⟨hreturned, ht⟩⟩ | ⟨hclean, ht⟩
    · rw [run_cons hclean hstep]
      exact ih ht hrest
    · obtain ⟨rfl, rfl⟩ := run_of_returned hreturned hrest
      rw [run_cons hclean hstep]
      exact iff_of_true ht rfl
    · -- what is lost here stays lost to the end of the call
      have hlost {t : InstallCall} {act : InstallEvent} {t' : InstallCall} (ht : Lost t)
          (_ : anyStep t act) (hst : t.step sessionId channelId act = some t') : Lost t' :=
        ht.step hst
      have hfinal := (Reaches.of_run hrest).invariant hlost ht
      rw [Lts.run, if_neg hclean]
      exact iff_of_false hfinal.not_cleanedUp (by simp)

end

theorem InstallCall.begin_noted {params : List String} {args : InstallArgs}
    (h : installStart params = .ok args) : Noted (InstallCall.begin params) := by
  rw [InstallCall.begin, h]
  exact ⟨by simp [Install.start, InstallPhase.stage], rfl, rfl,
    fun dir => by simp [Install.start, InstallPhase.stage]⟩

/-- A call that has returned has removed its directories and taken off its channel just if in every
step it took the condition was met. -/
theorem install_cleans_up_iff (sessionId channelId : UInt32) (params : List String)
    (events : List InstallEvent) (c : InstallCall) (result : IoResult Unit)
    (hrun : run (InstallCall.step sessionId channelId) anyStep (.begin params) events = some c)
    (hend : c.install.phase = .ended result) :
    c.registered = false ∧
    (CleanedUp c ↔
      run (InstallCall.step sessionId channelId) CleanEvent (.begin params) events = some c) := by
  have hreturned : c.install.phase.stage = .returned := by rw [hend]; rfl
  cases hstart : installStart params with
  | error e =>
    have hbegin : (InstallCall.begin params).install.phase.stage = .returned ∧
        CleanedUp (InstallCall.begin params) := by
      rw [InstallCall.begin, hstart]
      exact ⟨rfl, fun _ h => (List.not_mem_nil h).elim, rfl⟩
    obtain ⟨rfl, rfl⟩ := run_of_returned hbegin.1 hrun
    exact ⟨hbegin.2.unregistered, iff_of_true hbegin.2 rfl⟩
  | ok args =>
    have hnoted := InstallCall.begin_noted hstart
    have hstep {t : InstallCall} {event : InstallEvent} {t' : InstallCall}
        (_ : t.install.phase.stage = .returned → t.registered = false) (_ : anyStep t event)
        (hst : t.step sessionId channelId event = some t') :
        t'.install.phase.stage = .returned → t'.registered = false :=
      InstallCall.unregistered_of_step hst
    have hinv := (Reaches.of_run hrun).invariant hstep fun h => absurd h hnoted.going
    exact ⟨hinv hreturned, hnoted.run hrun hreturned⟩

/-- The first steps of a call with one pack, in which these packages are found. -/
def packEvents (found : List String) : List InstallEvent :=
  [.own .next [], .own (.tempDir "/tmp/pack") [], .own (.extracted found) []]

/-- The file of the package that was found is gone. -/
def missingEvents : List InstallEvent :=
  packEvents ["/tmp/pack/a.hap"] ++ [.own (.fail ⟨.notFound, "gone"⟩) [], .own .next []]

def missingCall : InstallCall where
  args := { packages := ["/x.app"] }
  install := ⟨.ended (.error ⟨.notFound, "App file not found: gone"⟩), ["/tmp/pack/a.hap"], [],
    ["/tmp/pack"]⟩
  created := ["/tmp/pack"]
  removed := ["/tmp/pack"]
  registered := false

theorem install_cleans_up_missing :
    run (InstallCall.step 1 2) anyStep (.begin ["install", "/x.app"]) missingEvents =
      some missingCall ∧ CleanedUp missingCall := by
  have hrun : run (InstallCall.step 1 2) anyStep (.begin ["install", "/x.app"]) missingEvents =
      some missingCall := by with_unfolding_all decide
  refine ⟨hrun, ?_⟩
  exact (install_cleans_up_iff 1 2 _ _ _ _ hrun rfl).2.mpr (by with_unfolding_all decide)

def emptyPackCall : InstallCall where
  args := { packages := ["/x.app"] }
  install := ⟨.ended (invalidData "No .hap found in .app package"), [], [], []⟩
  created := ["/tmp/pack"]
  registered := false

/-- A pack without packages: the call returns, and the directory stays. -/
theorem install_leaves_directory :
    run (InstallCall.step 1 2) anyStep (.begin ["install", "/x.app"])
      (packEvents [] ++ [.own .next []]) = some emptyPackCall ∧ ¬ CleanedUp emptyPackCall := by
  refine ⟨by with_unfolding_all decide, fun h => ?_⟩
  exact absurd (h.removed "/tmp/pack" List.mem_cons_self) List.not_mem_nil

end Hdc
