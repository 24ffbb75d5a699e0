import Hdc.DaemonProcess

/- What a connection leaves behind in the daemon (`handle_client` in `hdcd/src/main.rs`,
   `run_shell_bridge` in `hdcd/src/shell.rs`).

   All that happens at the end of `handle_client` is that the session's cipher is removed, and
   not even that when the connection has been handed to a shell. `session_released_iff` says that
   a connection leaves nothing behind exactly if there was nothing else to be released by then.
   Once it is over, nothing is made on its behalf any more. -/
namespace Hdc
open Rust Wire Feed Lts

namespace DaemonProcess
variable (s : DaemonProcess) (a : Nat)

/-- An fport sender or an rport listener made by connection `a` is registered. -/
def HasForward : Prop := (∃ id, s.forward.OwnsSender a id) ∨ ∃ c, s.forward.OwnsListener a c

/-- `FileTaskMap` has a transfer that connection `a` has started. -/
def HasTransfer : Prop := ∃ key, (s.files.tasks key).isSome ∧ s.starters key = some a

/-- The cipher connection `a` has installed is registered. -/
def HasCipher : Prop := ∃ id handle, s.net.ciphers id = some handle ∧ s.installed a = some handle

/-- `handle_client` has returned for connection `a`, and the shell it was handed to has ended. -/
def Over : Prop := ∃ conn, s.net.conns[a]? = some conn ∧ conn.phase = .ended

/-- Nothing that connection `a` has made is registered. -/
def Released : Prop := ¬ s.HasForward a ∧ ¬ s.HasTransfer a ∧ ¬ s.HasCipher a

end DaemonProcess

/-! Forwards are made for the connection whose message is handled. -/

namespace ForwardState

/-- From `f` to `f'` nothing is made for connection `a`. -/
structure GivesNothing (a : Nat) (f f' : ForwardState) : Prop where
  sender : ∀ id, f'.OwnsSender a id → f.OwnsSender a id
  listener : ∀ c, f'.OwnsListener a c → f.OwnsListener a c

namespace GivesNothing
variable {a : Nat} (f : ForwardState)

protected theorem refl : GivesNothing a f f where
  sender _ h := h
  listener _ h := h

/-- The same listeners are registered, or fewer. -/
theorem of_listeners {f f' : ForwardState} (hsenders : f'.fportSenders = f.fportSenders)
    (howners : ∀ n, f'.ownerOf n = f.ownerOf n)
    (hlisteners : ∀ c n, f'.rportListeners c = some n → f.rportListeners c = some n) :
    GivesNothing a f f' where
  sender id h := by
    rw [OwnsSender, hsenders] at h
    exact h
  listener := by
    rintro c ⟨n, hn, howner⟩
    exact ⟨n, hlisteners c n hn, howners n ▸ howner⟩

theorem deliver (n : Nat) (msg : RportMsg) : GivesNothing a f (f.deliver n msg) :=
  .of_listeners rfl (fun m => f.ownerOf_onSpawned n m _) fun _ _ h => h

theorem onListener {n : Nat} {l l' : RportListener} (hl : f.spawned[n]? = some l)
    (howner : l'.owner = l.owner) (effect : ListenerEffect) :
    GivesNothing a f (f.onListener n l' effect) := by
  have hupdate : ∀ c m, Function.update f.rportListeners l'.channelId none c = some m →
      f.rportListeners c = some m := by
    intro c m h
    rw [Function.update_apply] at h
    split at h
    · cases h
    · exact h
  refine .of_listeners ?_ (f.ownerOf_onListener hl howner effect) ?_
  · unfold ForwardState.onListener
    split <;> rfl
  · unfold ForwardState.onListener
    split
    · exact hupdate
    · exact fun _ _ h => h

theorem handleChannelClose (c : UInt32) : GivesNothing a f (f.handleChannelClose c) where
  sender := by
    rintro id ⟨conn, hconn, howner⟩
    exact ⟨conn, (HashMap.lookup_retain.mp hconn).1, howner⟩
  listener := by
    rintro c' ⟨n, hn, howner⟩
    rw [ownerOf_handleChannelClose] at howner
    by_cases hc : c' = c
    · rw [hc, handleChannelClose_self] at hn
      cases hn
    · rw [handleChannelClose_of_ne f hc] at hn
      exact ⟨n, hn, howner⟩

theorem removeSender (id : UInt32) : GivesNothing a f (f.removeSender id) where
  sender := by
    rintro id' ⟨conn, hconn, howner⟩
    by_cases hid : id' = id
    · rw [hid, ForwardState.removeSender, AList.lookup_erase] at hconn
      cases hconn
    · rw [ForwardState.removeSender, AList.lookup_erase_ne hid] at hconn
      exact ⟨conn, hconn, howner⟩
  listener _ h := h

/-- An fport connection is made for another connection, or changed. -/
theorem insertSender {id : UInt32} {conn : FportConn} (h : conn.owner = a → f.OwnsSender a id) :
    GivesNothing a f (f.insertSender id conn) where
  sender := by
    rintro id' ⟨conn', hconn', howner⟩
    by_cases hid : id' = id
    · subst hid
      rw [ForwardState.insertSender, AList.lookup_insert] at hconn'
      cases hconn'
      exact h howner
    · rw [ForwardState.insertSender, AList.lookup_insert_ne hid] at hconn'
      exact ⟨conn', hconn', howner⟩
  listener _ h := h

theorem sendData (id : UInt32) (data : List UInt8) : GivesNothing a f (f.sendData id data) := by
  unfold ForwardState.sendData
  split
  · rename_i conn hconn
    split
    · exact insertSender f fun howner => ⟨conn, hconn, howner⟩
    · exact .refl f
  · exact .refl f

theorem spawn {l : RportListener} (hl : l.owner ≠ a) : GivesNothing a f (f.spawn l) where
  sender _ h := h
  listener := by
    rintro c ⟨n, hn, howner⟩
    rw [ownerOf_spawn] at howner
    split at howner
    · exact absurd (Option.some.inj howner) hl
    · exact ⟨n, hn, howner⟩

theorem insertListener {n : Nat} (hn : f.ownerOf n ≠ some a) (c : UInt32) :
    GivesNothing a f (f.insertListener c n) where
  sender _ h := h
  listener := by
    rintro c' ⟨m, hm, howner⟩
    by_cases hc : c' = c
    · rw [hc, insertListener_self] at hm
      cases hm
      exact absurd howner hn
    · rw [insertListener_of_ne f hc] at hm
      exact ⟨m, hm, howner⟩

end GivesNothing

end ForwardState

theorem handleForwardTask_givesNothing {a b : Nat} (hab : a ≠ b) (f : ForwardState)
    (msg : TaskMessage) (outcome : TakeOutcome) :
    f.GivesNothing a (handleForwardTask f b msg outcome).1 := by
  rcases handleForwardTask_cases f b msg outcome with ⟨h, -⟩ | ⟨l, howner, h, -⟩ |
    ⟨id, conn, howner, h, -⟩ | ⟨id, data, h, -⟩ | ⟨id, h, -⟩ <;> rw [h]
  · exact .refl f
  · exact .spawn f fun heq => hab (heq.symm.trans howner)
  · exact .insertSender f fun heq => absurd (heq.symm.trans howner) hab
  · exact .sendData f id data
  · exact .removeSender f id

theorem taskStep_givesNothing {s s' : DaemonProcess} {a b : Nat} {sessionId : UInt32}
    {outcome : TaskOutcome} (hinv : ProcessInv s) (hab : a ≠ b)
    (h : s.taskStep b sessionId outcome (s.jobs b) = some s') :
    s.forward.GivesNothing a s'.forward := by
  generalize hjob : s.jobs b = job at h
  cases DaemonProcess.taskStep_case h with
  | @routed msg n m => exact .deliver s.forward n m
  | missed => exact .refl s.forward
  | @other msg =>
    simp only
    split
    · exact .handleChannelClose s.forward msg.channelId
    · exact .refl s.forward
  | @matched msg => exact handleForwardTask_givesNothing hab s.forward msg outcome.take
  | @inserted c n =>
    refine .insertListener s.forward ?_ c
    rw [hinv.inserting b c n hjob]
    exact fun heq => hab (Option.some.inj heq).symm

/-! Transfers are entered by the commands that start one. -/

/-- From `d` to `d'` no transfer is entered, but for the one at `key` if `starts` says so. -/
def Enters (key : UInt32 × UInt32) (starts : Bool) (d d' : DaemonFiles) : Prop :=
  ∀ k, (d'.tasks k).isSome → (d.tasks k).isSome ∨ starts = true ∧ k = key

namespace Enters
variable {sessionId channelId : UInt32} {starts : Bool} {d d' : DaemonFiles}

theorem of_eq {key : UInt32 × UInt32} (h : d'.tasks = d.tasks) : Enters key starts d d' :=
  fun _ hk => .inl (h ▸ hk)

theorem remove {key : UInt32 × UInt32} : Enters key starts d (d.remove sessionId channelId) := by
  intro k hk
  simp only [DaemonFiles.remove, Function.update_apply] at hk
  split at hk
  · cases hk
  · exact .inl hk

theorem put {state : FileTransferState} (hstarts : starts = true) :
    Enters (sessionId, channelId) starts d (d.put sessionId channelId state) := by
  intro k hk
  by_cases hkey : k = (sessionId, channelId)
  · exact .inr ⟨hstarts, hkey⟩
  · simp only [DaemonFiles.put, Function.update_of_ne hkey] at hk
    exact .inl hk

/-- A transfer that is there is updated; the file system may change before. -/
theorem update {key : UInt32 × UInt32} {state old : FileTransferState}
    (hold : d.get sessionId channelId = some old) (htasks : d'.tasks = d.tasks) :
    Enters key starts d (d'.put sessionId channelId state) := by
  intro k hk
  by_cases hkey : k = (sessionId, channelId)
  · rw [hkey]
    exact .inl (Option.isSome_of_eq_some hold)
  · simp only [DaemonFiles.put, Function.update_of_ne hkey, htasks] at hk
    exact .inl hk

end Enters

section
variable {sessionId : UInt32} {outcome : TaskOutcome} {d : DaemonFiles} {msg : TaskMessage}

theorem handleFileTask_enters (hsend : msg.command = .fileRecvInit → outcome.sendError = none) :
    Enters (sessionId, msg.channelId) (startsTransfer outcome d msg) d
      (handleFileTask sessionId outcome.io d msg).1 := by
  unfold handleFileTask
  split
  · rename_i hcommand
    unfold handleFileInit
    split
    · exact .of_eq rfl
    · rename_i hparse
      exact .put (by simp [startsTransfer, hcommand, hparse])
  · unfold handleFileCheck
    split
    · exact .of_eq rfl
    · simp only
      split
      · rename_i hget
        exact .update hget rfl
      · exact .of_eq rfl
  · unfold handleFileBegin
    split
    · exact .of_eq rfl
    · rename_i state hget
      split
      · split
        · exact .update hget rfl
        · exact .of_eq rfl
      · unfold handleDaemonFileSend
        split
        · exact .of_eq rfl
        · exact .of_eq rfl
        · simp only
          split
          · exact .of_eq rfl
          · exact .remove
  · unfold handleFileData
    split
    · exact .of_eq rfl
    · rename_i state hget
      split
      · exact .of_eq rfl
      · split
        · exact .of_eq rfl
        · exact .update hget rfl
        · exact .update hget rfl
  · unfold handleFileFinish
    split
    · exact .of_eq rfl
    · exact .remove
  · rename_i hcommand
    unfold handleFileRecvInit
    split
    · exact .of_eq rfl
    · rename_i remotePath _ hparse
      split
      · exact .of_eq rfl
      · exact .of_eq rfl
      · rename_i hio hfs
        exact .put (by simp [startsTransfer, hcommand, hparse, hio, hfs, hsend hcommand])
  · exact .of_eq rfl

theorem handleAppTask_enters (bm : Bm) :
    Enters (sessionId, msg.channelId) (startsTransfer outcome d msg) d
      (handleAppTask sessionId outcome.io bm d msg).1 := by
  unfold handleAppTask
  split
  · rename_i hcommand
    unfold handleAppInit
    split
    · exact .of_eq rfl
    · rename_i hparse
      exact .put (by simp [startsTransfer, hcommand, hparse])
  · exact .of_eq rfl
  · unfold handleAppBegin
    split
    · exact .of_eq rfl
    · rename_i state hget
      split
      · exact .update hget rfl
      · exact .of_eq rfl
  · unfold handleAppData
    split
    · exact .of_eq rfl
    · rename_i state hget
      split
      · exact .update hget rfl
      · exact .update hget rfl
      · exact .update hget rfl
  · unfold handleAppFinish
    split
    · exact .of_eq rfl
    · exact .remove
  · exact .of_eq rfl
  · exact .of_eq rfl

/-- `dispatch_task` leaves the transfers to the file commands and to the other handlers. -/
theorem dispatchTask_files (handlers : DaemonHandlers) (sessionId : UInt32) (io : FsOutcome)
    (d : DaemonFiles) (msg : TaskMessage) :
    (dispatchTask handlers sessionId io d msg).1 = d ∨
      (dispatchTask handlers sessionId io d msg).1 = (handleFileTask sessionId io d msg).1 ∨
      (dispatchTask handlers sessionId io d msg).1 = (handlers.others d msg).1 := by
  unfold dispatchTask
  split
  all_goals first
    | exact .inl rfl
    | exact .inr (.inr rfl)
    | exact .inr (.inl rfl)
    | (split <;> exact .inl rfl)

theorem handleTask_enters (forwardChannel : UInt32 → Bool) :
    Enters (sessionId, msg.channelId) (startsTransfer outcome d msg) d
      (handleTask sessionId forwardChannel outcome d msg).1 := by
  simp only [handleTask]
  split
  · exact .of_eq rfl
  · rename_i hstored
    have hsend : msg.command = .fileRecvInit → outcome.sendError = none := by
      intro hcommand
      by_contra hne
      exact hstored ⟨Option.isSome_iff_ne_none.mpr hne, by simp [storesLast, hcommand]⟩
    rcases dispatchTask_files _ sessionId outcome.io d msg with h | h | h <;> rw [h]
    · exact .of_eq rfl
    · exact handleFileTask_enters hsend
    · simp only
      split
      · exact handleAppTask_enters outcome.bm
      · exact .of_eq rfl

end

/-! Steps of the process. -/

section
variable {env : DaemonEnv} {s s' : DaemonProcess} {a : Nat}

theorem taskStep_transfer {b : Nat} {sessionId : UInt32} {outcome : TaskOutcome} {job : TaskJob}
    (hab : a ≠ b) (h : s.taskStep b sessionId outcome job = some s')
    (htransfer : s'.HasTransfer a) : s.HasTransfer a := by
  cases DaemonProcess.taskStep_case h with
  | routed | missed | matched | inserted => exact htransfer
  | @other msg =>
    obtain ⟨key, hkey, hstarter⟩ := htransfer
    have hne : ¬ (startsTransfer outcome s.files msg = true ∧ key = (sessionId, msg.channelId)) := by
      rintro ⟨hstarts, rfl⟩
      simp only [if_pos hstarts, Function.update_self] at hstarter
      exact hab (Option.some.inj hstarter).symm
    refine ⟨key, (handleTask_enters _ key hkey).resolve_right hne, ?_⟩
    simp only at hstarter
    split at hstarter
    · rename_i hstarts
      rwa [Function.update_of_ne fun heq => hne ⟨hstarts, heq⟩] at hstarter
    · exact hstarter

/-- A cipher of a connection is registered by its own `set_session_cipher` only. -/
theorem net_cipher {net : Daemon} {act : DaemonAct} (hinv : ProcessInv s)
    (h : daemonStep env s.net act = some net) (hact : act ≠ .on a .install)
    (hcipher : DaemonProcess.HasCipher
      { s with net, jobs := s.jobsAfter net act, installed := s.installedAfter act } a) :
    s.HasCipher a := by
  obtain ⟨id, handle, hid, hinstalled⟩ := hcipher
  cases act with
  | accept =>
    cases h
    exact ⟨id, handle, hid, hinstalled⟩
  | on i act =>
    obtain ⟨conn, -, hstep⟩ := Option.bind_eq_some_iff.mp h
    obtain ⟨conn', hmove⟩ := connStep_move hstep
    rcases DaemonProcess.installedAfter_cases hinstalled with hinstalled | ⟨rfl, rfl, -⟩
    · rcases hmove.cipher_cases hid with hid | ⟨-, -, heq⟩
      · exact ⟨id, handle, hid, hinstalled⟩
      · exact absurd heq (hinv.installed a handle hinstalled).1.ne
    · exact absurd rfl hact

/-- A connection after a step: it has taken that step, or has just been accepted, or is as it
was. -/
theorem daemonStep_conn {net : Daemon} {act : DaemonAct} {conn' : Conn}
    (h : daemonStep env s.net act = some net) (hconn' : net.conns[a]? = some conn') :
    s.net.conns[a]? = some conn' ∨ (s.net.conns[a]? = none ∧ conn' = Conn.fresh) ∨
      ∃ act' conn, act = .on a act' ∧ s.net.conns[a]? = some conn ∧
        ConnMove s.net net a conn conn' act' := by
  cases act with
  | accept =>
    cases h
    rw [List.getElem?_append] at hconn'
    split at hconn'
    · exact .inl hconn'
    · rename_i hge
      exact .inr (.inl ⟨List.getElem?_eq_none (Nat.not_lt.mp hge),
        List.mem_singleton.mp (List.mem_of_getElem? hconn')⟩)
  | on i act =>
    obtain ⟨conn, hi, hstep⟩ := Option.bind_eq_some_iff.mp h
    obtain ⟨conn₁, hmove⟩ := connStep_move hstep
    rw [hmove.conns] at hconn'
    by_cases hia : i = a
    · subst hia
      rw [List.getElem?_set_self (List.getElem?_eq_some_iff.mp hi).1] at hconn'
      cases hconn'
      exact .inr (.inr ⟨act, conn, rfl, hi, hmove⟩)
    · rw [List.getElem?_set_ne hia] at hconn'
      exact .inl hconn'

theorem daemonStep_length {net : Daemon} {act : DaemonAct} (h : daemonStep env s.net act = some net) :
    s.net.conns.length ≤ net.conns.length := by
  cases act with
  | accept =>
    cases h
    simp
  | on i act =>
    obtain ⟨conn, -, hstep⟩ := Option.bind_eq_some_iff.mp h
    obtain ⟨conn', hmove⟩ := connStep_move hstep
    rw [hmove.conns, List.length_set]

theorem over_net {net : Daemon} {act : DaemonAct} (h : daemonStep env s.net act = some net)
    (hover : s.Over a) : ∃ conn, net.conns[a]? = some conn ∧ conn.phase = .ended := by
  obtain ⟨conn, hconn, hended⟩ := hover
  have hlt : a < net.conns.length :=
    (List.getElem?_eq_some_iff.mp hconn).1.trans_le (daemonStep_length h)
  refine ⟨_, List.getElem?_eq_getElem hlt, ?_⟩
  rcases daemonStep_conn h (List.getElem?_eq_getElem hlt) with hsame | ⟨hnone, -⟩ |
    ⟨act', conn₁, -, hconn₁, hmove⟩
  · rw [hconn] at hsame
    exact Option.some.inj hsame ▸ hended
  · rw [hconn] at hnone
    cases hnone
  · rw [hconn] at hconn₁
    exact hmove.ended (Option.some.inj hconn₁ ▸ hended)

theorem not_over_of_install {net : Daemon} (h : daemonStep env s.net (.on a .install) = some net) :
    ¬ s.Over a := by
  rintro ⟨conn, hconn, hended⟩
  obtain ⟨conn₁, hconn₁, hstep⟩ := Option.bind_eq_some_iff.mp h
  obtain ⟨conn', hmove⟩ := connStep_move hstep
  rw [hconn] at hconn₁
  cases hconn₁
  exact hmove.ends rfl (hmove.ended hended)

/-- The connection is over, and has left nothing behind. -/
structure Gone (a : Nat) (s : DaemonProcess) : Prop where
  inv : ProcessInv s
  ended : s.Over a
  released : s.Released a

/-- Nothing is made on behalf of a connection that is over. -/
theorem Gone.step {act : ProcessAct} (hgone : Gone a s) (_ : anyStep s act)
    (h : processStep env s act = some s') : Gone a s' := by
  obtain ⟨hinv, hover, hforward, htransfer, hcipher⟩ := hgone
  have hinv' := processStep_keeps hinv h
  have hkeeps : ∀ {f : ForwardState}, s.forward.GivesNothing a f →
      ¬ DaemonProcess.HasForward { s with forward := f } a := by
    rintro f hf (⟨id, hid⟩ | ⟨c, hc⟩)
    · exact hforward (.inl ⟨id, hf.sender id hid⟩)
    · exact hforward (.inr ⟨c, hf.listener c hc⟩)
  cases processStep_move h with
  | @net act net hstep =>
    have hact : act ≠ .on a .install := by
      rintro rfl
      exact not_over_of_install hstep hover
    exact ⟨hinv', over_net hstep hover, hforward, htransfer,
      fun hc => hcipher (net_cipher hinv hstep hact hc)⟩
  | @task b _ outcome _ hstep =>
    have hmove := DaemonProcess.taskStep_move hstep
    have hab : a ≠ b := by
      rintro rfl
      obtain ⟨conn₁, hconn₁, hbusy⟩ := hinv.busy a hmove.busy
      obtain ⟨conn₂, hconn₂, hended⟩ := hover
      rw [hconn₁] at hconn₂
      cases hconn₂
      rw [hbusy] at hended
      cases hended
    refine ⟨hinv', ?_, ?_, fun ht => htransfer (taskStep_transfer hab hstep ht), ?_⟩
    · rw [DaemonProcess.Over, hmove.net]
      exact hover
    · exact hkeeps (taskStep_givesNothing hinv hab hstep)
    · rw [DaemonProcess.HasCipher, hmove.net, hmove.installed]
      exact hcipher
  | @listener _ _ l task effect hl =>
    exact ⟨hinv', hover, hkeeps (.onListener s.forward hl (by rfl) effect), htransfer, hcipher⟩
  | @fportEnds id conn hconn =>
    exact ⟨hinv', hover, hkeeps (.insertSender s.forward fun howner => ⟨conn, hconn, howner⟩),
      htransfer, hcipher⟩
  | files => exact ⟨hinv', hover, hforward, htransfer, hcipher⟩

/-- A connection comes to its end in a step of its own, which is not `set_session_cipher`. -/
theorem ends_by {act : ProcessAct} (h : processStep env s act = some s') (hlive : ¬ s.Over a)
    (hover : s'.Over a) : ∃ act' conn conn' net, act = .net (.on a act') ∧ act' ≠ .install ∧
      s.net.conns[a]? = some conn ∧ ConnMove s.net net a conn conn' act' ∧
      s' = { s with net, jobs := s.jobsAfter net (.on a act') } := by
  have hnet : s'.net ≠ s.net := by
    intro heq
    rw [DaemonProcess.Over, heq] at hover
    exact hlive hover
  cases processStep_move h with
  | @net act net hstep =>
    obtain ⟨conn', hconn', hended⟩ := hover
    rcases daemonStep_conn hstep hconn' with hsame | ⟨-, rfl⟩ | ⟨act', conn, rfl, hconn, hmove⟩
    · exact absurd ⟨conn', hsame, hended⟩ hlive
    · cases hended
    · have hact : act' ≠ .install := fun heq => hmove.ends heq hended
      refine ⟨act', conn, conn', net, rfl, hact, hconn, hmove, ?_⟩
      cases act' <;> first | rfl | exact absurd rfl hact
  | task hstep => exact absurd (DaemonProcess.taskStep_move hstep).net hnet
  | listener | fportEnds | files => exact absurd rfl hnet

/-- At the end of a connection its cipher is removed by `remove_session_cipher`, and by nothing
else. -/
theorem cipher_after_end {net : Daemon} {act : ConnAct} {conn conn' : Conn} (hinv : ProcessInv s)
    (hconn : s.net.conns[a]? = some conn) (hact : act ≠ .install)
    (hmove : ConnMove s.net net a conn conn' act) (jobs : Nat → TaskJob) :
    DaemonProcess.HasCipher { s with net, jobs } a ↔ act ≠ .remove ∧ s.HasCipher a := by
  constructor
  · rintro ⟨id, handle, hid, hinstalled⟩
    have hold : s.net.ciphers id = some handle :=
      (hmove.cipher_cases hid).resolve_right fun h => hact h.1
    refine ⟨?_, id, handle, hold, hinstalled⟩
    rintro rfl
    -- it was under the connection's session id
    obtain ⟨-, conn₁, hconn₁, -, hids⟩ := hinv.installed a handle hinstalled
    rw [hconn] at hconn₁
    cases hconn₁
    simp only [hids id hold, hmove.ciphers, Function.update_self] at hid
    cases hid
  · rintro ⟨hremove, id, handle, hid, hinstalled⟩
    refine ⟨id, handle, ?_, hinstalled⟩
    have hciphers : net.ciphers = s.net.ciphers := by
      rw [hmove.ciphers]
      split
      · exact absurd rfl hact
      · exact absurd rfl hremove
      · rfl
    exact (congrFun hciphers id).trans hid

end

/-- A connection that comes to its end leaves nothing registered, then and ever after, exactly if
no fport sender, rport listener or transfer of its is registered at that time, and its cipher is
not either unless `remove_session_cipher` is its last step. -/
theorem session_released_iff (env : DaemonEnv) (fs : Fs) {s s' : DaemonProcess} {act : ProcessAct}
    {a : Nat} (hs : Reaches (processStep env) anyStep (.init fs) s)
    (h : processStep env s act = some s') (hlive : ¬ s.Over a) (hover : s'.Over a) :
    (∀ t, Reaches (processStep env) anyStep s' t → t.Released a) ↔
      ¬ s.HasForward a ∧ ¬ s.HasTransfer a ∧ (act = .net (.on a .remove) ∨ ¬ s.HasCipher a) := by
  have hinv := processInv_of_reaches hs
  have hinv' := processStep_keeps hinv h
  obtain ⟨act', conn, conn', net, rfl, hact, hconn, hmove, rfl⟩ := ends_by h hlive hover
  have hcipher := cipher_after_end hinv hconn hact hmove (s.jobsAfter net (.on a act'))
  have hend : DaemonProcess.Released { s with net, jobs := s.jobsAfter net (.on a act') } a ↔
      ¬ s.HasForward a ∧ ¬ s.HasTransfer a ∧
        (ProcessAct.net (.on a act') = .net (.on a .remove) ∨ ¬ s.HasCipher a) := by
    refine and_congr Iff.rfl (and_congr Iff.rfl ?_)
    rw [hcipher, not_and_or, not_not]
    simp
  rw [← hend]
  constructor
  · intro hall
    exact hall _ .refl
  · intro hreleased t ht
    have hgone : Gone a t := ht.invariant Gone.step ⟨hinv', hover, hreleased⟩
    exact hgone.released

/-! Runs. -/

/-- The connections alone take a step. -/
def ByNet (_ : DaemonProcess) : ProcessAct → Prop
  | .net _ => True
  | _ => False

instance (s : DaemonProcess) : ∀ act, Decidable (ByNet s act)
  | .net _ => inferInstanceAs (Decidable True)
  | .task _ _ | .listener _ _ | .fportEnds _ | .files _ => inferInstanceAs (Decidable False)

/-- No forward and no transfer has been made. -/
def Bare (s : DaemonProcess) : Prop := s.forward = .init ∧ s.starters = fun _ => none

theorem Bare.step {env : DaemonEnv} {s s' : DaemonProcess} {act : ProcessAct} (h : Bare s)
    (hact : ByNet s act) (hstep : processStep env s act = some s') : Bare s' := by
  cases processStep_move hstep with
  | net => exact h
  | task | listener | fportEnds | files => exact hact.elim

theorem Bare.hasNone {s : DaemonProcess} (h : Bare s) (a : Nat) :
    ¬ s.HasForward a ∧ ¬ s.HasTransfer a := by
  obtain ⟨hforward, hstarters⟩ := h
  constructor
  · rintro (⟨id, conn, hconn, -⟩ | ⟨c, n, hn, -⟩)
    · rw [hforward, ForwardState.init, AList.lookup_empty] at hconn
      cases hconn
    · rw [hforward] at hn
      cases hn
  · rintro ⟨key, -, hkey⟩
    rw [hstarters] at hkey
    cases hkey

/-- Client 0 gets an encrypted session, and something happens on its connection. -/
def encryptedSession (acts : List ConnAct) : Option DaemonProcess :=
  run (processStep exampleEnv) ByNet (.init fun _ => none)
    ((exampleConnect 0 (exampleHello encryptingBuf) ++
      (ConnAct.install :: acts).map (DaemonAct.on 0)).map .net)

/-- It hangs up instead of sending its PSK-ACK. -/
def hungUp : Option DaemonProcess :=
  encryptedSession [.lookup, .frame hangUp 0 examplePsk]

theorem hungUp_closing : hungUp.any (fun s =>
    (processStep exampleEnv s (.net (.on 0 .remove))).map
        (fun s' => s'.net.conns[0]?.map Conn.phase) = some (some .ended) ∧
      s.net.conns[0]?.map Conn.phase = some .closing ∧
      s.net.ciphers 7 = some 0 ∧ s.installed 0 = some 0) = true := by
  decide

/-- Its cipher is then removed, with which all is released. -/
theorem session_released_iff_hungUp :
    ∃ s s' : DaemonProcess, Reaches (processStep exampleEnv) anyStep (.init fun _ => none) s ∧
      processStep exampleEnv s (.net (.on 0 .remove)) = some s' ∧ s.HasCipher 0 ∧
      ∀ t, Reaches (processStep exampleEnv) anyStep s' t → t.Released 0 := by
  obtain ⟨s, hs, hclosing⟩ := (Option.any_eq_true _ _).mp hungUp_closing
  have hrun : Reaches (processStep exampleEnv) ByNet (.init fun _ => none) s := .of_run hs
  have hreach : Reaches (processStep exampleEnv) anyStep (.init fun _ => none) s :=
    hrun.mono fun _ _ _ => trivial
  obtain ⟨hforward, htransfer⟩ := (hrun.invariant Bare.step ⟨rfl, rfl⟩).hasNone 0
  obtain ⟨hstep, hphase, hcipher, hinstalled⟩ := of_decide_eq_true hclosing
  obtain ⟨s', hstep, hended⟩ := Option.map_eq_some_iff.mp hstep
  have hlive : ¬ s.Over 0 := by
    rintro ⟨conn, hconn, hover⟩
    rw [hconn, Option.map_some, hover] at hphase
    cases hphase
  have hover : s'.Over 0 := Option.map_eq_some_iff.mp hended
  exact ⟨s, s', hreach, hstep, ⟨7, 0, hcipher, hinstalled⟩,
    (session_released_iff exampleEnv _ hreach hstep hlive hover).mpr
      ⟨hforward, htransfer, .inl rfl⟩⟩

/-- A client has an fport connection and a listener made, begins to send a file, and hangs up. -/
def abandoned : Option DaemonProcess :=
  run (processStep exampleEnv) anyStep (.init fun _ => none)
    (connectPlain 0 ++ handleMsg 0 (hostActiveSlave 1 5 "tcp:1") 2 ++
      handleMsg 0 ⟨2, .forwardInit, utf8 "tcp:2 tcp:3"⟩ 3 ++
      handleMsg 0 ⟨3, .fileInit, utf8 "file send a b"⟩ 1 ++
      [.net (.on 0 .lookup), .net (.on 0 (.frame hangUp 0 examplePsk)),
        .net (.on 0 .remove)])

/-- The frames a host writes, as they arrive. -/
def arrivingEncrypted : PskCipher → List TaskMessage → List (Chunks UInt8)
  | _, [] => []
  | cipher, msg :: msgs =>
    match sendToSession exampleAes (some cipher) (concatPack msg) with
    | .ok (b :: bytes, some cipher) => ⟨[b :: bytes], by simp⟩ :: arrivingEncrypted cipher msgs
    | _ => []

/-- A client with an encrypted session opens a shell and leaves it. -/
def leftShell : Option DaemonProcess :=
  let frames := arrivingEncrypted (.new examplePsk true) [⟨0, .kernelHandshake, []⟩, ⟨1, .shellInit, []⟩]
  encryptedSession ((frames.flatMap fun rd => [.lookup, .frame rd 0 examplePsk]) ++ [.shellEnd])

theorem abandoned_leaves : abandoned.any (fun s =>
    s.net.conns[0]?.map Conn.phase = some .ended ∧
      s.forward.fportSenders.lookup 5 = some ⟨0, 1, [], true⟩ ∧
      s.forward.rportListeners 2 = some 0 ∧ s.forward.ownerOf 0 = some 0 ∧
      (s.files.tasks (7, 3)).isSome ∧ s.starters (7, 3) = some 0) = true := by
  decide

theorem leftShell_leaves : leftShell.any (fun s =>
    s.net.conns[0]?.map Conn.phase = some .ended ∧
      s.net.ciphers 7 = some 0 ∧ s.installed 0 = some 0) = true := by
  decide

/-- The first leaves its connection, its listener and its transfer behind, and the second its
cipher. -/
theorem session_not_released :
    (∃ s : DaemonProcess, Reaches (processStep exampleEnv) anyStep (.init fun _ => none) s ∧
      s.Over 0 ∧ s.forward.OwnsSender 0 5 ∧ s.forward.OwnsListener 0 2 ∧ s.HasTransfer 0) ∧
    ∃ s : DaemonProcess, Reaches (processStep exampleEnv) anyStep (.init fun _ => none) s ∧
      s.Over 0 ∧ s.HasCipher 0 := by
  constructor
  · obtain ⟨s, hs, hleaves⟩ := (Option.any_eq_true _ _).mp abandoned_leaves
    obtain ⟨hended, hsender, hlisted, howner, htask, hstarter⟩ := of_decide_eq_true hleaves
    exact ⟨s, .of_run hs, Option.map_eq_some_iff.mp hended, ⟨_, hsender, rfl⟩,
      ⟨0, hlisted, howner⟩, (7, 3), htask, hstarter⟩
  · obtain ⟨s, hs, hleaves⟩ := (Option.any_eq_true _ _).mp leftShell_leaves
    obtain ⟨hended, hcipher, hinstalled⟩ := of_decide_eq_true hleaves
    have hrun : Reaches (processStep exampleEnv) ByNet (.init fun _ => none) s := .of_run hs
    exact ⟨s, hrun.mono fun _ _ _ => trivial, Option.map_eq_some_iff.mp hended, 7, 0, hcipher,
      hinstalled⟩

end Hdc
