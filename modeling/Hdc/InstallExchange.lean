import Hdc.AppHost
import Hdc.SessionExchange

/- An install between this server and this daemon. The server announces a package with an `AppInit`
   that has no payload (`install_single_hap`); the daemon looks for the path of the package there
   (`parse_app_path`), finds none and says so. The server then waits for `AppBegin`, takes the
   message for an answer of the wrong kind and gives up.

   `install_refused`: so no install gets past its first package, in any order of the messages and
   whatever else is sent on the session. Nothing of the package is sent, and the client is not told
   that anything was installed. -/
namespace Hdc
open Rust Wire Lts

/-! The two ends. -/

def InstallAct.receives : InstallAct → Bool
  | .recv _ => true
  | _ => false

def Install.listens (s : Install) : Bool :=
  match s.phase with
  | .ended _ => false
  | _ => true

section
variable (sessionId channelId : UInt32) (args : InstallArgs)

def installEnd : HandlerEnd Install InstallAct InstallOut where
  handler := appInstall sessionId channelId args
  channelId
  recv := .recv
  receives := InstallAct.receives
  listens := Install.listens

def appInitMsg : TaskMessage := ⟨channelId, .appInit, []⟩

def missingPath : TaskMessage := echoClient channelId "Missing app path" .fail

def appBeginMsg : TaskMessage := ⟨channelId, .appBegin, []⟩

end

/-- The answers of the daemon to the two messages that announce a package. -/
def installAnswers (msg : TaskMessage) : List TaskMessage :=
  match msg.command with
  | .appInit => [missingPath msg.channelId]
  | .appCheck => [appBeginMsg msg.channelId]
  | _ => []

/-- Whether the input and output of the handler may fail is left open; a pack without a package in
it counts as a failure. -/
def InstallMay (mayFail : Prop) : EndAct InstallAct → Prop
  | .send | .take | .own .next | .own (.tempDir _) | .own (.metadata _) => True
  | .own (.extracted haps) => haps ≠ [] ∨ mayFail
  | _ => mayFail

def installRefused : IoError := ⟨.invalidData, "Expected AppBegin, got KernelEcho"⟩

section
variable {sessionId channelId : UInt32} {args : InstallArgs} {mayFail : Prop}

theorem parseAppPath_nil : parseAppPath [] = none := by decide

theorem answered_appInit :
    Answered sessionId channelId installAnswers (appInitMsg channelId) where
  channel := rfl
  keepsServing := ⟨nofun, nofun⟩
  served := by
    intro env d
    show (handleAppInit sessionId d (appInitMsg channelId)).2 = _
    rw [handleAppInit, show (appInitMsg channelId).payload = [] from rfl, parseAppPath_nil]
    rfl
  no_heartbeat := by simp [installAnswers, appInitMsg, missingPath, echoClient]

theorem answered_appCheck (hap : Hap) :
    Answered sessionId channelId installAnswers (appCheck channelId args hap) where
  channel := rfl
  keepsServing := ⟨nofun, nofun⟩
  served := fun _ _ => rfl
  no_heartbeat := by simp [installAnswers, appCheck, appBeginMsg]

/-! The dialog. -/

/-- The client is told nothing. -/
def Untold (out : List InstallOut) : Prop := ∀ o ∈ out, o.texts = [] ∧ o.mayEnd = false

theorem Untold.next {out : List InstallOut} {o : InstallOut} (h : Untold out)
    (htexts : o.texts = []) (hend : o.mayEnd = false) : Untold (out ++ [o]) := by
  intro o' ho'
  rcases List.mem_append.mp ho' with ho' | ho'
  · exact h o' ho'
  · rw [List.mem_singleton.mp ho']
    exact ⟨htexts, hend⟩

/-- Nothing has been sent but the announcement of a package, or the beginning of it. -/
def Announced (channelId : UInt32) (args : InstallArgs) (sent : List TaskMessage) : Prop :=
  ∃ hap, sent <+: [appInitMsg channelId, appCheck channelId args hap]

theorem Announced.nil : Announced channelId args [] := ⟨⟨"", []⟩, List.nil_prefix⟩

/-- Where the dialog is, by the phase of the handler. -/
def Announcing (channelId : UInt32) (args : InstallArgs) (mayFail : Prop)
    (d : Dialog Install InstallOut) : Prop :=
  Untold d.out ∧
  match d.host.phase with
  | .nextPackage => d.host.packages ≠ [] ∧ d.owed = [] ∧ d.sent = []
  | .nextHap => d.host.haps ≠ [] ∧ d.owed = [] ∧ d.sent = []
  | .createDir _ | .extract _ _ | .init _ => d.owed = [] ∧ d.sent = []
  | .check _ => d.owed = [missingPath channelId] ∧ d.sent = [appInitMsg channelId]
  | .waitBegin hap =>
    d.owed = [missingPath channelId, appBeginMsg channelId] ∧
      d.sent = [appInitMsg channelId, appCheck channelId args hap]
  | .cleanup (.error err) | .ended (.error err) =>
    (mayFail ∨ err = installRefused) ∧ Announced channelId args d.sent
  | _ => False

/-- The steps left. -/
@[simp] def InstallPhase.work : InstallPhase → Nat
  | .nextPackage => 8
  | .createDir _ => 7
  | .extract _ _ => 6
  | .nextHap => 5
  | .init _ => 4
  | .check _ => 3
  | .waitBegin _ => 2
  | .cleanup _ => 1
  | _ => 0

section
variable {host host' : Install} {out : List InstallOut} {owed sent : List TaskMessage}

/-- The message of a phase, which is sent or fails. -/
theorem Announcing.send {p : Sending Install}
    (h : Announcing channelId args mayFail ⟨host, out, owed, sent⟩)
    (hp : host.sending sessionId channelId args = some p) :
    Answered sessionId channelId installAnswers p.msg ∧
    (Announcing channelId args mayFail
      ⟨p.next, out, owed ++ installAnswers p.msg, sent ++ [p.msg]⟩ ∧
      p.next.phase.work < host.phase.work) ∧
    ∀ err, mayFail → Announcing channelId args mayFail ⟨p.failed err, out, owed, sent⟩ ∧
      (p.failed err).phase.work < host.phase.work := by
  obtain ⟨phase, haps, packages, dirs⟩ := host
  obtain ⟨huntold, hstage⟩ := h
  cases phase with
  | init hap =>
    cases hp
    obtain ⟨rfl, rfl⟩ := hstage
    exact ⟨answered_appInit, ⟨⟨huntold, rfl, rfl⟩, by simp⟩,
      fun err hfail => ⟨⟨huntold, .inl hfail, .nil⟩, by simp [Install.fail]⟩⟩
  | check hap =>
    cases hp
    obtain ⟨rfl, rfl⟩ := hstage
    exact ⟨answered_appCheck hap, ⟨⟨huntold, rfl, rfl⟩, by simp⟩, fun err hfail =>
      ⟨⟨huntold, .inl hfail, hap, List.prefix_append [_] [_]⟩, by simp [Install.fail]⟩⟩
  | data hap offset buf rest => cases hstage
  | _ => cases hp

theorem Announcing.fail {o : InstallOut} {err : IoError} (hout : Untold out)
    (htexts : o.texts = []) (hend : o.mayEnd = false) (hfail : mayFail ∨ err = installRefused)
    (hsent : Announced channelId args sent) (hwork : 1 < host.phase.work) :
    Announcing channelId args mayFail ⟨host.fail err, out ++ [o], owed, sent⟩ ∧
      (host.fail err).phase.work < host.phase.work :=
  ⟨⟨hout.next htexts hend, hfail, hsent⟩, hwork⟩

theorem Announcing.own {act : InstallAct} {o : InstallOut}
    (h : Announcing channelId args mayFail ⟨host, out, owed, sent⟩)
    (hmay : InstallMay mayFail (.own act)) (hown : act.receives = false)
    (hst : host.step args act = some (host', o)) :
    Announcing channelId args mayFail ⟨host', out ++ [o], owed, sent⟩ ∧
      host'.phase.work < host.phase.work := by
  obtain ⟨phase, haps, packages, dirs⟩ := host
  obtain ⟨huntold, hstage⟩ := h
  cases phase with
  | nextPackage =>
    obtain ⟨hpackages, rfl, rfl⟩ := hstage
    cases packages with
    | nil => exact absurd rfl hpackages
    | cons package packages =>
      cases act with
      | next =>
        cases hst
        split
        · exact ⟨⟨huntold.next rfl rfl, rfl, rfl⟩, by simp⟩
        · exact ⟨⟨huntold.next rfl rfl, nofun, rfl, rfl⟩, by simp⟩
      | _ => cases hst
  | createDir appPath =>
    obtain ⟨rfl, rfl⟩ := hstage
    cases act with
    | tempDir dir =>
      cases hst
      exact ⟨⟨huntold.next rfl rfl, rfl, rfl⟩, by simp⟩
    | fail err =>
      cases hst
      exact Announcing.fail huntold rfl rfl (.inl hmay) .nil (by simp)
    | _ => cases hst
  | extract appPath tempDir =>
    obtain ⟨rfl, rfl⟩ := hstage
    cases act with
    | extracted found =>
      cases hst
      split
      · rename_i hnone
        have hfail : mayFail := hmay.resolve_left (absurd hnone)
        exact Announcing.fail huntold rfl rfl (.inl hfail) .nil (by simp)
      · rename_i hsome
        exact ⟨⟨huntold.next rfl rfl, hsome, rfl, rfl⟩, by simp⟩
    | fail err =>
      cases hst
      exact Announcing.fail huntold rfl rfl (.inl hmay) .nil (by simp)
    | _ => cases hst
  | nextHap =>
    obtain ⟨hhaps, rfl, rfl⟩ := hstage
    cases haps with
    | nil => exact absurd rfl hhaps
    | cons path haps =>
      cases act with
      | metadata content =>
        cases hst
        exact ⟨⟨huntold.next rfl rfl, rfl, rfl⟩, by simp⟩
      | fail err =>
        cases hst
        exact Announcing.fail huntold rfl rfl (.inl hmay) .nil (by simp)
      | _ => cases hst
  | init hap | check hap =>
    cases act <;> cases hst
  | waitBegin hap =>
    obtain ⟨rfl, rfl⟩ := hstage
    cases act with
    | recv task => cases hown
    | closed | timeout =>
      cases hst
      exact Announcing.fail huntold rfl rfl (.inl hmay) ⟨hap, List.prefix_rfl⟩ (by simp)
    | _ => cases hst
  | cleanup result =>
    cases result with
    | ok done => cases hstage
    | error err =>
      cases act with
      | next =>
        cases hst
        exact ⟨⟨huntold.next rfl rfl, hstage⟩, by simp⟩
      | _ => cases hst
  | ended result => cases act <;> cases hst
  | _ => cases hstage

theorem Install.onBegin_missingPath (hap : Hap) :
    host.onBegin hap (missingPath channelId) = host.fail installRefused := by
  simp [Install.onBegin, missingPath, echoClient, installRefused, HdcCommand.debug]

theorem Announcing.take {task : TaskMessage} {o : InstallOut}
    (h : Announcing channelId args mayFail ⟨host, out, task :: owed, sent⟩)
    (hst : host.step args (.recv task) = some (host', o)) :
    Announcing channelId args mayFail ⟨host', out ++ [o], owed, sent⟩ ∧
      host'.phase.work < host.phase.work := by
  obtain ⟨phase, haps, packages, dirs⟩ := host
  obtain ⟨huntold, hstage⟩ := h
  cases phase with
  | waitBegin hap =>
    obtain ⟨howed, rfl⟩ := hstage
    obtain ⟨rfl, rfl⟩ := List.cons.inj howed
    have hst : some (Install.onBegin _ hap (missingPath channelId), ({} : InstallOut)) =
        some (host', o) := hst
    rw [Install.onBegin_missingPath] at hst
    cases hst
    exact Announcing.fail huntold rfl rfl (.inr rfl) ⟨hap, List.prefix_rfl⟩ (by simp)
  | _ => simp_all [Install.step, Install.stepLoops, Install.stepHap]

end

/-- The dialog goes from stage to stage, and down up to its end. -/
theorem Announcing.step {d d' : Dialog Install InstallOut} {a : DialogAct InstallAct}
    (h : Announcing channelId args mayFail d) (hmay : DialogOk (InstallMay mayFail) d a)
    (hst : dialogStep (installEnd sessionId channelId args) installAnswers d a = some d') :
    Announcing channelId args mayFail d' ∧
      ((∀ result, d.host.phase ≠ .ended result) → d'.host.phase.work < d.host.phase.work) := by
  obtain ⟨host, out, owed, sent⟩ := d
  obtain ⟨p, rfl, hp, rfl⟩ | ⟨err, p, rfl, hp, rfl⟩ | ⟨act, host', o, rfl, hown, hact, rfl⟩ |
    ⟨task, owed, host', o, rfl, rfl, htake, rfl⟩ | ⟨i, rfl, hdeaf, hi, rfl⟩ := dialogStep_cases hst
  · obtain ⟨-, ⟨hstage, hwork⟩, -⟩ := h.send hp
    exact ⟨hstage, fun _ => hwork⟩
  · obtain ⟨hstage, hwork⟩ := (h.send hp).2.2 err hmay
    exact ⟨hstage, fun _ => hwork⟩
  · obtain ⟨hstage, hwork⟩ := h.own hmay hown hact
    exact ⟨hstage, fun _ => hwork⟩
  · obtain ⟨hstage, hwork⟩ := h.take htake
    exact ⟨hstage, fun _ => hwork⟩
  · obtain ⟨phase, haps, packages, dirs⟩ := host
    cases phase with
    | ended result =>
      cases result with
      | ok done => exact h.2.elim
      | error err => exact ⟨h, fun hgoing => absurd rfl (hgoing _)⟩
    | _ => cases hdeaf

/-- Until the end there is a step to take that is no failure. -/
theorem Announcing.live {d : Dialog Install InstallOut} (h : Announcing channelId args mayFail d)
    (hgoing : ∀ result, d.host.phase ≠ .ended result) :
    Enabled (dialogStep (installEnd sessionId channelId args) installAnswers)
      (DialogMust (InstallMay False)) d := by
  obtain ⟨⟨phase, haps, packages, dirs⟩, out, owed, sent⟩ := d
  obtain ⟨-, hstage⟩ := h
  cases phase with
  | nextPackage =>
    obtain ⟨hpackages, -⟩ := hstage
    cases packages with
    | nil => exact absurd rfl hpackages
    | cons package packages => exact ⟨.handler (.own .next), _, trivial, rfl⟩
  | createDir appPath => exact ⟨.handler (.own (.tempDir "")), _, trivial, rfl⟩
  | extract appPath tempDir =>
    exact ⟨.handler (.own (.extracted [""])), _, .inl (by simp), rfl⟩
  | nextHap =>
    obtain ⟨hhaps, -⟩ := hstage
    cases haps with
    | nil => exact absurd rfl hhaps
    | cons path haps => exact ⟨.handler (.own (.metadata [])), _, trivial, rfl⟩
  | init hap | check hap => exact ⟨.handler .send, _, trivial, rfl⟩
  | waitBegin hap =>
    obtain ⟨rfl, -⟩ := hstage
    exact ⟨.handler .take, _, trivial, rfl⟩
  | cleanup result => exact ⟨.handler (.own .next), _, trivial, rfl⟩
  | ended result => exact absurd rfl (hgoing result)
  | _ => cases hstage

theorem installEnd_talksTo :
    (installEnd sessionId channelId args).TalksTo sessionId installAnswers (InstallMay mayFail)
      (Announcing channelId args mayFail) where
  sends := fun h hp => (h.send hp).1
  step := fun h hmay hst => (h.step hmay hst).1

/-- An install comes to an end in any case and never to a good one, and nothing has been sent of a
package but its announcement; where nothing fails on the server's side, the reason is the daemon's
complaint. -/
theorem install_refused (mayFail : Prop) (hargs : args.packages ≠ [])
    {s : SharedRun Install InstallOut}
    (hs : s.Opens (installEnd sessionId channelId args) (.start args)) :
    Inevitable (sharedStep (installEnd sessionId channelId args) sessionId)
      (SharedOk (InstallMay mayFail)) (SharedMust (InstallMay False))
      (fun s => ∃ err, s.host.phase = .ended (.error err) ∧ (¬ mayFail → err = installRefused) ∧
        Announced channelId args (onChannel channelId s.served) ∧ Untold s.out) s := by
  have htalks : (installEnd sessionId channelId args).TalksTo sessionId installAnswers
      (InstallMay mayFail) (Announcing channelId args mayFail) := installEnd_talksTo
  refine (htalks.ends (·.phase.work) (∃ result, ·.phase = .ended result) hs
    ⟨nofun, hargs, rfl, rfl⟩
    (fun d a d' hd hmay hst hgoing => (hd.step hmay hst).2 (not_exists.mp hgoing))
    fun d hd hgoing => hd.live (not_exists.mp hgoing)).mono ?_
  rintro t ⟨⟨huntold, hstage⟩, result, hend⟩
  rw [hend] at hstage
  cases result with
  | ok done => cases hstage
  | error err =>
    obtain ⟨herr, hap, hsent⟩ := hstage
    exact ⟨err, hend, herr.resolve_left, ⟨hap, (List.prefix_append _ _).trans hsent⟩, huntold⟩

/-- A pack and a package. -/
def packAndHap : InstallArgs := { packages := ["a.app", "b.hap"] }

theorem install_refused_packAndHap :
    ∃ s, Reaches (sharedStep (installEnd 1 7 packAndHap) 1) (SharedOk (InstallMay False))
      (busySession (.start packAndHap)) s ∧
      ∃ err, s.host.phase = .ended (.error err) ∧ (¬ False → err = installRefused) ∧
        Announced 7 packAndHap (onChannel 7 s.served) ∧ Untold s.out :=
  (install_refused False (by decide) (busySession_opens rfl _)).exists_reaches SharedOk.of_must

end
end Hdc
