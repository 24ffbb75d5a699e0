import Hdc.DaemonTasks
import Hdc.Feeder
import Hdc.Lts
import Mathlib.Data.List.TakeWhile

/- The daemon's interactive shell (`run_shell_bridge` in `hdcd/src/shell.rs`), to which the main loop
   hands a connection over at `ShellInit`. Three helpers stand around the loop: a task that unpacks
   the host's messages, a thread that reads the terminal of the shell and a thread that writes to
   it, each with a queue. The system below is the loop and the three of them, with the host and the
   shell as surroundings that may do anything at any time.

   `pty_bridge_faithful`: in every state the terminal has been given the first bytes of what the
   host typed up to its first `KernelChannelClose`, and the host has been sent the first bytes of
   what the shell printed, in order and nothing twice; besides, the host is only ever sent its
   heartbeats, on the channel of the shell. The loop ends by a close, by a write that fails, or
   because both of its sources have run dry, which is a panic. In particular the host is never told
   that the shell has ended.

   `pty_bridge_drains`: as long as nothing fails, all that was typed reaches the terminal, even if
   the loop ends at a close before it does, and without a close all that was printed and every
   heartbeat reaches the host, also once the shell has ended or the host has hung up. -/
namespace Hdc
open Rust Wire Lts

/-! The loop and its helpers. -/

inductive BridgeStatus where
  | running
  /-- At a `KernelChannelClose`. -/
  | closed
  /-- At a write of `ShellData` that failed. -/
  | broken
  /-- In a `select!` none of whose branches is left. -/
  | panicked
  deriving DecidableEq, Repr

/-- A bridge. `arrived`, `taken` and `printed` are the record of the host's messages, of those the
loop has taken and of what the shell has written. -/
structure PtyBridge where
  channelId : UInt32
  arrived : List TaskMessage
  /-- What is left to unpack. -/
  inbound : List TaskMessage
  /-- The reader task with `tcp_msg_rx`. -/
  msgs : Feeder TaskMessage
  taken : List TaskMessage
  /-- `tcp_to_pty_rx`. -/
  toPty : List (List UInt8)
  writerDone : Bool
  /-- What has been written to the terminal. -/
  ptyIn : List UInt8
  printed : List UInt8
  /-- What is left to read from the terminal. -/
  ptyOut : List UInt8
  /-- The reader thread with `pty_to_tcp_rx`. -/
  data : Feeder (List UInt8)
  sent : List TaskMessage
  status : BridgeStatus
  deriving DecidableEq

/-- Both queues to the loop are `channel(64)`. -/
def bridgeQueue : Nat := 64

/-- The buffer of the reader thread. -/
def ptyBuffer : Nat := 4096

/-- How far the set-up of the terminal and the shell gets. -/
inductive PtySetup where
  | ready | openFailed | spawnFailed | cloneFailed
  deriving DecidableEq, Repr

/-- `send_echo` of `shell.rs`. -/
def shellEcho (channelId : UInt32) (msg : String) : TaskMessage :=
  ⟨channelId, .kernelEcho, [2] ++ utf8 (msg ++ "\r\n")⟩

/-- `run_shell_bridge` up to its loop: the bridge, or what is sent instead. -/
def runShellBridge (setup : PtySetup) (channelId : UInt32) : Except (List TaskMessage) PtyBridge :=
  match setup with
  | .ready => .ok ⟨channelId, [], [], .new, [], [], false, [], [], [], .new, [], .running⟩
  | .openFailed | .spawnFailed => .error [shellEcho channelId "Shell initialize failed"]
  | .cloneFailed => .error []

inductive PtyAct where
  /-- A message of the host arrives. -/
  | host (msg : TaskMessage)
  /-- The shell writes to its terminal. -/
  | shell (bytes : List UInt8)
  /-- The reader task: a message is unpacked or cannot be, and is passed on. -/
  | unpack (msg : TaskMessage) | unpackFails | passMsg (msg : TaskMessage)
  /-- The reader thread: a read of some bytes or one that fails, and the bytes are passed on. -/
  | read (n : Nat) | readFails | passData (data : List UInt8)
  /-- The writer thread: a write that succeeds, or fails after some bytes. -/
  | write (data : List UInt8) | writeFails (data : List UInt8) (n : Nat)
  /-- The loop: a branch of the `select!`, whose write to the socket succeeds or not, or none. -/
  | takeMsg (msg : TaskMessage) (sends : Bool) | takeData (data : List UInt8) (sends : Bool) | panic
  deriving DecidableEq

namespace PtyBridge

/-- The loop at a message. -/
def onMsg (s : PtyBridge) (msg : TaskMessage) (sends : Bool) : PtyBridge :=
  match msg.command with
  | .shellData => if s.writerDone then s else { s with toPty := s.toPty ++ [msg.payload] }
  | .heartbeatMsg =>
    if sends then { s with sent := s.sent ++ [⟨s.channelId, .heartbeatMsg, msg.payload⟩] } else s
  | .kernelChannelClose => { s with status := .closed }
  | _ => s

/-- Whether a step can be taken. -/
def Can (s : PtyBridge) : PtyAct → Prop
  | .host _ | .shell _ => True
  | .unpack msg => msg ∈ s.inbound.head? ∧ s.msgs.Idle
  | .unpackFails => s.msgs.Idle
  | .passMsg msg =>
    msg ∈ s.msgs.hand ∧ (s.status = .running → s.msgs.queue.length < bridgeQueue)
  | .read n => s.data.Idle ∧ 0 < n ∧ n ≤ ptyBuffer ∧ n ≤ s.ptyOut.length
  | .readFails => s.data.Idle
  | .passData data =>
    data ∈ s.data.hand ∧ (s.status = .running → s.data.queue.length < bridgeQueue)
  | .write data | .writeFails data _ => data ∈ s.toPty.head? ∧ s.writerDone = false
  | .takeMsg msg _ => msg ∈ s.msgs.queue.head? ∧ s.status = .running
  | .takeData data _ => data ∈ s.data.queue.head? ∧ s.status = .running
  | .panic => s.status = .running ∧ (s.msgs.queue = [] ∧ s.msgs.done = true) ∧
      s.data.queue = [] ∧ s.data.done = true

instance (s : PtyBridge) : (a : PtyAct) → Decidable (s.Can a)
  | .host _ | .shell _ => inferInstanceAs (Decidable True)
  | .unpackFails | .readFails => inferInstanceAs (Decidable (Feeder.Idle _))
  | .unpack _ | .passMsg _ | .read _ | .passData _ | .write _ | .writeFails _ _ | .takeMsg _ _
  | .takeData _ _ | .panic => inferInstanceAs (Decidable (_ ∧ _))

/-- What it leaves. -/
def after (s : PtyBridge) : PtyAct → PtyBridge
  | .host msg => { s with arrived := s.arrived ++ [msg], inbound := s.inbound ++ [msg] }
  | .shell bytes => { s with printed := s.printed ++ bytes, ptyOut := s.ptyOut ++ bytes }
  | .unpack msg => { s with inbound := s.inbound.tail, msgs := s.msgs.get msg }
  | .unpackFails => { s with msgs := s.msgs.stop }
  | .passMsg _ => { s with msgs := s.msgs.pass (s.status = .running) }
  | .read n => { s with ptyOut := s.ptyOut.drop n, data := s.data.get (s.ptyOut.take n) }
  | .readFails => { s with data := s.data.stop }
  | .passData _ => { s with data := s.data.pass (s.status = .running) }
  | .write data => { s with toPty := s.toPty.tail, ptyIn := s.ptyIn ++ data }
  | .writeFails data n =>
    { s with toPty := [], ptyIn := s.ptyIn ++ data.take n, writerDone := true }
  | .takeMsg msg sends =>
    { s with msgs := s.msgs.take, taken := s.taken ++ [msg] }.onMsg msg sends
  | .takeData data true =>
    { s with data := s.data.take, sent := s.sent ++ [⟨s.channelId, .shellData, data⟩] }
  | .takeData _ false => { s with data := s.data.take, status := .broken }
  | .panic => { s with status := .panicked }

end PtyBridge

def ptyStep (s : PtyBridge) (a : PtyAct) : Option PtyBridge :=
  if s.Can a then some (s.after a) else none

theorem ptyStep_eq_some {s s' : PtyBridge} {a : PtyAct} (h : ptyStep s a = some s') :
    s.Can a ∧ s' = s.after a := by
  obtain ⟨hcan, heq⟩ := Option.ite_none_right_eq_some.mp h
  exact ⟨hcan, (Option.some.inj heq).symm⟩

/-! What goes through. -/

/-- The messages up to the first that closes. -/
def upToClose (msgs : List TaskMessage) : List TaskMessage :=
  msgs.takeWhile (fun msg => msg.command != .kernelChannelClose)

/-- The payloads of the messages of a command. -/
def payloadsOf (command : HdcCommand) (msgs : List TaskMessage) : List (List UInt8) :=
  (msgs.filter (fun msg => msg.command == command)).map TaskMessage.payload

/-- The bytes for the shell, or of it. -/
def shellBytes (msgs : List TaskMessage) : List UInt8 := (payloadsOf .shellData msgs).flatten

/-- The channel is not closed by the messages. -/
def KeepsOpen (msgs : List TaskMessage) : Prop :=
  ∀ msg ∈ msgs, msg.command ≠ .kernelChannelClose

section
variable {command : HdcCommand} {msg : TaskMessage} {msgs msgs' : List TaskMessage}

@[simp] theorem payloadsOf_nil : payloadsOf command [] = [] := rfl

@[simp] theorem payloadsOf_append :
    payloadsOf command (msgs ++ msgs') = payloadsOf command msgs ++ payloadsOf command msgs' := by
  simp [payloadsOf]

@[simp] theorem payloadsOf_singleton :
    payloadsOf command [msg] = if msg.command = command then [msg.payload] else [] := by
  by_cases h : msg.command = command <;> simp [payloadsOf, h]

@[simp] theorem shellBytes_append :
    shellBytes (msgs ++ msgs') = shellBytes msgs ++ shellBytes msgs' := by
  simp [shellBytes]

@[simp] theorem shellBytes_singleton :
    shellBytes [msg] = if msg.command = .shellData then msg.payload else [] := by
  by_cases h : msg.command = .shellData <;> simp [shellBytes, h]

theorem upToClose_of_keepsOpen (h : KeepsOpen msgs) : upToClose msgs = msgs := by
  apply List.takeWhile_eq_self_iff.mpr
  intro msg hmsg
  simpa using h msg hmsg

theorem upToClose_append (h : KeepsOpen msgs) :
    upToClose (msgs ++ msgs') = msgs ++ upToClose msgs' := by
  have hself := upToClose_of_keepsOpen h
  unfold upToClose at hself ⊢
  rw [List.takeWhile_append, hself, if_pos rfl]

end

/-- A message changes what the terminal, the host or the status gets. -/
theorem PtyBridge.onMsg_eq (s : PtyBridge) (msg : TaskMessage) (sends : Bool) :
    s.onMsg msg sends = { s with
      toPty := s.toPty ++
        if msg.command = .shellData ∧ s.writerDone = false then [msg.payload] else []
      sent := s.sent ++
        if msg.command = .heartbeatMsg ∧ sends then [⟨s.channelId, .heartbeatMsg, msg.payload⟩]
        else []
      status := if msg.command = .kernelChannelClose then .closed else s.status } := by
  unfold PtyBridge.onMsg
  split
  · rename_i h
    obtain ⟨_, _, _, _, _, _, writerDone⟩ := s
    cases writerDone <;> simp [h]
  · rename_i h
    cases sends <;> simp [h]
  · rename_i h
    simp [h]
  · simp_all

/-! Every run. -/

namespace PtyBridge

/-- Nothing is lost at the loop: it runs, or has panicked with its queues empty. -/
def Whole (s : PtyBridge) : Prop := s.status = .running ∨ s.status = .panicked

/-- What holds of the host's side. -/
structure Takes (s : PtyBridge) : Prop where
  reader : s.msgs.Sane
  taken : s.taken <+: s.arrived
  queued : s.Whole → s.taken ++ s.msgs.items ++ s.inbound = s.arrived
  keepsOpen : s.status ≠ .closed → KeepsOpen s.taken
  closed : s.status = .closed → ∃ before msg, s.taken = before ++ [msg] ∧ KeepsOpen before ∧
    msg.command = .kernelChannelClose
  panicked : s.status = .panicked → s.msgs.queue = [] ∧ s.msgs.done = true

/-- What holds of the terminal: it has got or will get what the host typed, unless a write fails. -/
def Types (s : PtyBridge) : Prop :=
  ∃ lost, s.ptyIn ++ s.toPty.flatten ++ lost = shellBytes s.taken ∧
    (s.writerDone = false → lost = [])

/-- What holds of the shell's side. -/
structure Prints (s : PtyBridge) : Prop where
  reader : s.data.Sane
  sent : ∀ msg ∈ s.sent, msg.channelId = s.channelId ∧
    (msg.command = .shellData ∨ msg.command = .heartbeatMsg)
  shown : shellBytes s.sent <+: s.printed
  queued : s.Whole → shellBytes s.sent ++ s.data.items.flatten ++ s.ptyOut = s.printed
  heartbeats : (payloadsOf .heartbeatMsg s.sent).Sublist (payloadsOf .heartbeatMsg s.taken)
  panicked : s.status = .panicked → s.data.queue = [] ∧ s.data.done = true

variable {s : PtyBridge} {a : PtyAct}

/-- A panicked loop has no worker that could hold an item for it. -/
theorem not_panicked {α : Type} {f : Feeder α} {item : α} (hsane : f.Sane)
    (hpanicked : s.status = .panicked → f.queue = [] ∧ f.done = true) (hitem : item ∈ f.hand) :
    s.status ≠ .panicked := by
  intro hpanic
  rw [Option.mem_def, hsane (hpanicked hpanic).2] at hitem
  cases hitem

theorem Takes.after (hs : s.Takes) (h : s.Can a) : (s.after a).Takes := by
  obtain ⟨hreader, htaken, hqueued, hopen, hclosed, hpanicked⟩ := hs
  cases a with
  | host msg =>
    refine ⟨hreader, htaken.trans (List.prefix_append _ _), ?_, hopen, hclosed, hpanicked⟩
    intro hwhole
    simp only [PtyBridge.after, ← hqueued hwhole, List.append_assoc]
  | unpack msg =>
    refine ⟨.get h.2, htaken, ?_, hopen, hclosed, hpanicked⟩
    intro hwhole
    simp only [PtyBridge.after, Feeder.items_get h.2, ← hqueued hwhole, List.append_assoc,
      List.singleton_append]
    rw [← List.eq_cons_of_mem_head? h.1]
  | unpackFails =>
    exact ⟨.stop h, htaken, hqueued, hopen, hclosed, fun hp => ⟨(hpanicked hp).1, rfl⟩⟩
  | passMsg msg =>
    have hnot := not_panicked hreader hpanicked h.1
    refine ⟨.pass _, htaken, ?_, hopen, hclosed, fun hp => absurd hp hnot⟩
    intro hwhole
    have hrun : s.status = .running := hwhole.resolve_right hnot
    simp only [PtyBridge.after, hrun, decide_true, Feeder.items_pass]
    exact hqueued hwhole
  | takeMsg msg sends =>
    obtain ⟨hmsg, hrun⟩ := h
    have hq : s.taken ++ [msg] ++ s.msgs.take.items ++ s.inbound = s.arrived := by
      rw [← hqueued (.inl hrun), Feeder.items_take hmsg]
      simp
    have hkept : KeepsOpen s.taken := hopen (by rw [hrun]; decide)
    have htaken' : s.taken ++ [msg] <+: s.arrived :=
      ⟨s.msgs.take.items ++ s.inbound, (List.append_assoc ..).symm.trans hq⟩
    rw [PtyBridge.after, onMsg_eq]
    by_cases hclose : msg.command = .kernelChannelClose
    · refine ⟨hreader, htaken', ?_, ?_, fun _ => ⟨_, _, rfl, hkept, hclose⟩, ?_⟩
      · simp [Whole, hclose]
      · simp [hclose]
      · simp [hclose]
    · refine ⟨hreader, htaken', fun _ => hq, ?_, by simp [hclose, hrun], by simp [hclose, hrun]⟩
      intro _ m hm
      rcases List.mem_append.mp hm with hm | hm
      · exact hkept m hm
      · rw [List.mem_singleton.mp hm]
        exact hclose
  | takeData data sends =>
    cases sends with
    | true => exact ⟨hreader, htaken, hqueued, hopen, hclosed, hpanicked⟩
    | false =>
      refine ⟨hreader, htaken, ?_, fun _ => hopen (by rw [h.2]; decide), ?_, ?_⟩
      all_goals simp [PtyBridge.after, Whole]
  | panic =>
    refine ⟨hreader, htaken, fun _ => hqueued (.inl h.1), fun _ => hopen (by rw [h.1]; decide), ?_,
      fun _ => h.2.1⟩
    simp [PtyBridge.after]
  | _ => exact ⟨hreader, htaken, hqueued, hopen, hclosed, hpanicked⟩

theorem Types.after (hs : s.Types) (h : s.Can a) : (s.after a).Types := by
  obtain ⟨lost, htyped, hlost⟩ := hs
  cases a with
  | write data =>
    refine ⟨lost, ?_, hlost⟩
    rw [List.eq_cons_of_mem_head? h.1] at htyped
    simpa [PtyBridge.after] using htyped
  | writeFails data n =>
    refine ⟨data.drop n ++ s.toPty.tail.flatten ++ lost, ?_, by simp [PtyBridge.after]⟩
    rw [List.eq_cons_of_mem_head? h.1] at htyped
    simp only [PtyBridge.after, List.flatten_nil, List.append_nil, ← htyped, List.flatten_cons,
      List.append_assoc]
    rw [← List.append_assoc (data.take n), List.take_append_drop]
  | takeMsg msg sends =>
    rw [PtyBridge.after, onMsg_eq]
    by_cases hdone : s.writerDone = true
    · -- what is typed from now on is lost
      refine ⟨lost ++ shellBytes [msg], ?_, by simp [hdone]⟩
      simp [hdone, ← htyped]
    · refine ⟨[], ?_, fun _ => rfl⟩
      have hnone : lost = [] := hlost (by simpa using hdone)
      by_cases hdata : msg.command = .shellData <;> simp [hdata, hdone, ← htyped, hnone]
  | takeData data sends => cases sends <;> exact ⟨lost, htyped, hlost⟩
  | _ => exact ⟨lost, htyped, hlost⟩

theorem Prints.after (hs : s.Prints) (h : s.Can a) : (s.after a).Prints := by
  obtain ⟨hreader, hsent, hshown, hqueued, hbeats, hpanicked⟩ := hs
  cases a with
  | shell bytes =>
    refine ⟨hreader, hsent, hshown.trans (List.prefix_append _ _), ?_, hbeats, hpanicked⟩
    intro hwhole
    simp only [PtyBridge.after, ← hqueued hwhole, List.append_assoc]
  | read n =>
    refine ⟨.get h.1, hsent, hshown, ?_, hbeats, hpanicked⟩
    intro hwhole
    simp [PtyBridge.after, Feeder.items_get h.1, ← hqueued hwhole]
  | readFails =>
    exact ⟨.stop h, hsent, hshown, hqueued, hbeats, fun hp => ⟨(hpanicked hp).1, rfl⟩⟩
  | passData data =>
    have hnot := not_panicked hreader hpanicked h.1
    refine ⟨.pass _, hsent, hshown, ?_, hbeats, fun hp => absurd hp hnot⟩
    intro hwhole
    have hrun : s.status = .running := hwhole.resolve_right hnot
    simp only [PtyBridge.after, hrun, decide_true, Feeder.items_pass]
    exact hqueued hwhole
  | takeMsg msg sends =>
    rw [PtyBridge.after, onMsg_eq]
    refine ⟨hreader, ?_, ?_, ?_, ?_, ?_⟩
    · intro m hm
      rcases List.mem_append.mp hm with hm | hm
      · exact hsent m hm
      · split at hm
        · rw [List.mem_singleton.mp hm]
          exact ⟨rfl, .inr rfl⟩
        · cases hm
    · by_cases hbeat : msg.command = .heartbeatMsg ∧ sends = true <;> simp [hbeat, hshown]
    · intro _
      have hq := hqueued (.inl h.2)
      by_cases hbeat : msg.command = .heartbeatMsg ∧ sends = true <;> simpa [hbeat] using hq
    · simp only [payloadsOf_append]
      apply hbeats.append
      by_cases hbeat : msg.command = .heartbeatMsg ∧ sends = true <;> simp [hbeat]
    · by_cases hclose : msg.command = .kernelChannelClose <;> simp [hclose, h.2]
  | takeData data sends =>
    have hq : shellBytes s.sent ++ data ++ s.data.take.items.flatten ++ s.ptyOut = s.printed := by
      rw [← hqueued (.inl h.2), Feeder.items_take h.1]
      simp
    cases sends with
    | true =>
      have hbytes : shellBytes (s.sent ++ [⟨s.channelId, .shellData, data⟩]) =
          shellBytes s.sent ++ data := by simp
      refine ⟨hreader, ?_, ?_, fun _ => by rw [PtyBridge.after, hbytes]; exact hq,
        by simpa [PtyBridge.after] using hbeats, by simp [PtyBridge.after, h.2]⟩
      · intro m hm
        rcases List.mem_append.mp hm with hm | hm
        · exact hsent m hm
        · rw [List.mem_singleton.mp hm]
          exact ⟨rfl, .inl rfl⟩
      · rw [PtyBridge.after, hbytes, ← hq]
        exact ⟨s.data.take.items.flatten ++ s.ptyOut, by simp⟩
    | false =>
      exact ⟨hreader, hsent, hshown, by simp [PtyBridge.after, Whole], hbeats,
        by simp [PtyBridge.after]⟩
  | panic =>
    exact ⟨hreader, hsent, hshown, fun _ => hqueued (.inl h.1), hbeats, fun _ => h.2.2⟩
  | _ => exact ⟨hreader, hsent, hshown, hqueued, hbeats, hpanicked⟩

/-- What holds in every state of a bridge. -/
structure Sound (channelId : UInt32) (s : PtyBridge) : Prop where
  channel : s.channelId = channelId
  takes : s.Takes
  types : s.Types
  prints : s.Prints

theorem after_channelId (s : PtyBridge) (a : PtyAct) : (s.after a).channelId = s.channelId := by
  cases a with
  | takeMsg msg sends => rw [PtyBridge.after, onMsg_eq]
  | takeData data sends => cases sends <;> rfl
  | _ => rfl

theorem Sound.step {channelId : UInt32} {s' : PtyBridge} (hs : s.Sound channelId)
    (hst : ptyStep s a = some s') : s'.Sound channelId := by
  obtain ⟨hcan, rfl⟩ := ptyStep_eq_some hst
  exact ⟨(after_channelId s a).trans hs.channel, hs.takes.after hcan, hs.types.after hcan,
    hs.prints.after hcan⟩

theorem sound_of_run {setup : PtySetup} {channelId : UInt32}
    (h : runShellBridge setup channelId = .ok s) : s.Sound channelId := by
  cases setup with
  | ready =>
    cases h
    exact ⟨rfl, ⟨nofun, by simp, by simp, by simp [KeepsOpen], nofun, nofun⟩,
      ⟨[], rfl, fun _ => rfl⟩, ⟨nofun, by simp, by simp [shellBytes], by simp [shellBytes],
        by simp, nofun⟩⟩
  | _ => cases h

/-- The bytes taken up to a close are a beginning of those that arrived up to one. -/
theorem Takes.typed (hs : s.Takes) :
    ∃ rest, shellBytes (upToClose s.arrived) = shellBytes s.taken ++ rest ∧
      (s.taken = s.arrived ∨ s.status = .closed → rest = []) := by
  obtain ⟨rest, hrest⟩ := hs.taken
  by_cases hclosed : s.status = .closed
  · obtain ⟨before, msg, htaken, hopen, hclose⟩ := hs.closed hclosed
    refine ⟨[], ?_, fun _ => rfl⟩
    rw [← hrest, htaken, List.append_assoc, upToClose_append hopen]
    simp [upToClose, hclose]
  · have hopen := hs.keepsOpen hclosed
    refine ⟨shellBytes (upToClose rest), ?_, ?_⟩
    · rw [← hrest, upToClose_append hopen, shellBytes_append]
    · rintro (hall | h)
      · have hnil : rest = [] := by simpa [hall] using hrest
        rw [hnil]
        rfl
      · exact absurd h hclosed

end PtyBridge

theorem pty_bridge_faithful {setup : PtySetup} {channelId : UInt32} {b s : PtyBridge}
    (hstart : runShellBridge setup channelId = .ok b) (hrun : Reaches ptyStep anyStep b s) :
    s.ptyIn <+: shellBytes (upToClose s.arrived) ∧
    shellBytes s.sent <+: s.printed ∧
    (payloadsOf .heartbeatMsg s.sent).Sublist (payloadsOf .heartbeatMsg s.arrived) ∧
    (∀ msg ∈ s.sent, msg.channelId = channelId ∧
      (msg.command = .shellData ∨ msg.command = .heartbeatMsg)) ∧
    (s.status = .closed → ¬ KeepsOpen s.arrived) ∧
    (s.status = .panicked → s.msgs.done = true ∧ s.data.done = true) := by
  obtain ⟨hchannel, htakes, ⟨lost, htyped, -⟩, hprints⟩ :=
    hrun.invariant (fun hs _ hst => hs.step hst) (PtyBridge.sound_of_run hstart)
  refine ⟨?_, hprints.shown, ?_, hchannel ▸ hprints.sent, ?_, ?_⟩
  · obtain ⟨rest, hrest, -⟩ := htakes.typed
    rw [hrest, ← htyped]
    exact ⟨s.toPty.flatten ++ lost ++ rest, by simp⟩
  · obtain ⟨rest, hrest⟩ := htakes.taken
    rw [← hrest, payloadsOf_append]
    exact hprints.heartbeats.trans (List.sublist_append_left _ _)
  · intro hclosed hopen
    obtain ⟨before, msg, htaken, -, hclose⟩ := htakes.closed hclosed
    have hmem : msg ∈ s.taken := by simp [htaken]
    exact hopen msg (htakes.taken.subset hmem) hclose
  · intro hpanicked
    exact ⟨(htakes.panicked hpanicked).2, (hprints.panicked hpanicked).2⟩

/-- A prompt, a command, a heartbeat, a close, and a word that comes too late. -/
def promptRun : List PtyAct :=
  [.shell [36, 32], .read 2, .passData [36, 32], .takeData [36, 32] true] ++
  [⟨7, .shellData, [108, 115, 10]⟩, ⟨0, .heartbeatMsg, [1]⟩, ⟨3, .kernelChannelClose, [0]⟩].flatMap
    (fun msg => [.host msg, .unpack msg, .passMsg msg, .takeMsg msg true]) ++
  [.host ⟨3, .shellData, [120]⟩]

theorem pty_bridge_faithful_prompt :
    ∃ b s, runShellBridge .ready 3 = .ok b ∧ run ptyStep anyStep b promptRun = some s ∧
      s.sent = [⟨3, .shellData, [36, 32]⟩, ⟨3, .heartbeatMsg, [1]⟩] ∧ s.status = .closed ∧
      s.ptyIn <+: [108, 115, 10] ∧ ¬ KeepsOpen s.arrived := by
  refine ⟨_, _, rfl, rfl, rfl, rfl, ?_⟩
  have h := @pty_bridge_faithful .ready 3 _ _ rfl
    (Reaches.of_run (rfl : run ptyStep anyStep _ promptRun = some _))
  exact ⟨h.1, h.2.2.2.2.1 rfl⟩

/-! Runs in which nothing fails. -/

/-- No write fails, the terminal and the socket are read to their ends, and there is nothing more
of the host or of the shell once the end has been read. -/
def PtyOk (s : PtyBridge) : PtyAct → Prop
  | .host _ => s.msgs.done = false
  | .shell _ => s.data.done = false
  | .unpackFails => s.inbound = []
  | .readFails => s.ptyOut = []
  | .writeFails _ _ => False
  | .takeMsg _ sends | .takeData _ sends => sends = true
  | _ => True

instance (s : PtyBridge) : (a : PtyAct) → Decidable (PtyOk s a)
  | .host _ | .shell _ | .unpackFails | .readFails | .takeMsg _ _ | .takeData _ _ =>
    inferInstanceAs (Decidable (_ = _))
  | .writeFails _ _ => inferInstanceAs (Decidable False)
  | .unpack _ | .passMsg _ | .read _ | .passData _ | .write _ | .panic =>
    inferInstanceAs (Decidable True)

/-- The steps of the bridge itself. -/
def PtyMay (s : PtyBridge) : PtyAct → Prop
  | .host _ | .shell _ => False
  | a => PtyOk s a

/-- Those that do not wait for the host or for the shell to end. -/
def PtyMust (s : PtyBridge) : PtyAct → Prop
  | .unpackFails | .readFails | .panic => False
  | a => PtyMay s a

theorem PtyMay.ok {s : PtyBridge} {a : PtyAct} (h : PtyMay s a) : PtyOk s a := by
  cases a with
  | host | shell => exact h.elim
  | _ => exact h

namespace PtyBridge
variable {s : PtyBridge} {a : PtyAct} {channelId : UInt32}

/-- All has got to where it goes, as far as a close lets it. -/
def Delivered (s : PtyBridge) : Prop :=
  s.ptyIn = shellBytes (upToClose s.arrived) ∧
  (KeepsOpen s.arrived → shellBytes s.sent = s.printed ∧
    payloadsOf .heartbeatMsg s.sent = payloadsOf .heartbeatMsg s.arrived)

structure Flawless (channelId : UInt32) (s : PtyBridge) : Prop where
  sound : s.Sound channelId
  writer : s.writerDone = false
  unbroken : s.status ≠ .broken
  reader : s.Whole → s.msgs.done = true → s.inbound = []
  ptyReader : s.Whole → s.data.done = true → s.ptyOut = []
  heartbeats : payloadsOf .heartbeatMsg s.sent = payloadsOf .heartbeatMsg s.taken

theorem Flawless.step {s' : PtyBridge} (hs : s.Flawless channelId) (hok : PtyOk s a)
    (hst : ptyStep s a = some s') : s'.Flawless channelId := by
  have hsound := hs.sound.step hst
  obtain ⟨⟨-, htakes, -, hprints⟩, hwriter, hunbroken, hreader, hptyReader, hbeats⟩ := hs
  obtain ⟨hcan, rfl⟩ := ptyStep_eq_some hst
  cases a with
  | host msg =>
    exact ⟨hsound, hwriter, hunbroken, fun _ hdone => absurd (hok.symm.trans hdone) (by decide),
      hptyReader, hbeats⟩
  | shell bytes =>
    exact ⟨hsound, hwriter, hunbroken, hreader,
      fun _ hdone => absurd (hok.symm.trans hdone) (by decide), hbeats⟩
  | unpack msg =>
    exact ⟨hsound, hwriter, hunbroken,
      fun _ hdone => absurd (hcan.2.1.symm.trans hdone) (by decide), hptyReader, hbeats⟩
  | unpackFails => exact ⟨hsound, hwriter, hunbroken, fun _ _ => hok, hptyReader, hbeats⟩
  | passMsg msg =>
    refine ⟨hsound, hwriter, hunbroken, ?_, hptyReader, hbeats⟩
    intro hwhole hdone
    have hrun : s.status = .running :=
      hwhole.resolve_right (not_panicked htakes.reader htakes.panicked hcan.1)
    refine hreader hwhole ?_
    simpa [PtyBridge.after, Feeder.pass, hrun] using hdone
  | read n =>
    exact ⟨hsound, hwriter, hunbroken, hreader,
      fun _ hdone => absurd (hcan.1.1.symm.trans hdone) (by decide), hbeats⟩
  | readFails => exact ⟨hsound, hwriter, hunbroken, hreader, fun _ _ => hok, hbeats⟩
  | passData data =>
    refine ⟨hsound, hwriter, hunbroken, hreader, ?_, hbeats⟩
    intro hwhole hdone
    have hrun : s.status = .running :=
      hwhole.resolve_right (not_panicked hprints.reader hprints.panicked hcan.1)
    refine hptyReader hwhole ?_
    simpa [PtyBridge.after, Feeder.pass, hrun] using hdone
  | writeFails data n => exact hok.elim
  | takeMsg msg sends =>
    obtain rfl : sends = true := hok
    rw [PtyBridge.after, onMsg_eq] at hsound ⊢
    refine ⟨hsound, hwriter, ?_, fun _ => hreader (.inl hcan.2),
      fun _ => hptyReader (.inl hcan.2), ?_⟩
    · by_cases hclose : msg.command = .kernelChannelClose <;> simp [hclose, hcan.2]
    · by_cases hbeat : msg.command = .heartbeatMsg <;> simp [hbeat, hbeats]
  | takeData data sends =>
    obtain rfl : sends = true := hok
    exact ⟨hsound, hwriter, hunbroken, hreader, hptyReader, by simpa [PtyBridge.after] using hbeats⟩
  | panic =>
    exact ⟨hsound, hwriter, by simp [PtyBridge.after], fun _ => hreader (.inl hcan.1),
      fun _ => hptyReader (.inl hcan.1), hbeats⟩
  | _ => exact ⟨hsound, hwriter, hunbroken, hreader, hptyReader, hbeats⟩

/-- The steps a state still has in it. -/
def work (s : PtyBridge) : Nat :=
  4 * s.inbound.length + s.msgs.load + s.toPty.length + (4 * s.ptyOut.length + s.data.load) +
  (s.status == .running).toNat

theorem work_lt (hcan : s.Can a) (hmay : PtyMay s a) : (s.after a).work < s.work := by
  cases a with
  | host | shell | writeFails => exact hmay.elim
  | unpack msg =>
    have hlength := congrArg List.length (List.eq_cons_of_mem_head? hcan.1)
    simp only [List.length_cons] at hlength
    simp only [work, PtyBridge.after, Feeder.load_get hcan.2]
    omega
  | unpackFails | readFails =>
    have hload := Feeder.load_stop hcan
    simp only [work, PtyBridge.after]
    omega
  | passMsg item | passData item =>
    have hload := Feeder.load_pass hcan.1 (s.status = .running)
    simp only [work, PtyBridge.after]
    omega
  | read n =>
    obtain ⟨hidle, hpos, -, hthere⟩ := hcan
    simp only [work, PtyBridge.after, Feeder.load_get hidle, List.length_drop]
    omega
  | write data =>
    have hlength := congrArg List.length (List.eq_cons_of_mem_head? hcan.1)
    simp only [List.length_cons] at hlength
    simp only [work, PtyBridge.after]
    omega
  | takeMsg msg sends =>
    have hload := Feeder.load_take hcan.1
    have hqueue : (if msg.command = .shellData ∧ s.writerDone = false then [msg.payload]
        else []).length ≤ 1 := by split <;> simp
    have hstatus : ((if msg.command = .kernelChannelClose then BridgeStatus.closed else s.status) ==
        .running).toNat ≤ (s.status == .running).toNat := by
      rw [hcan.2]
      split <;> decide
    simp only [work, PtyBridge.after, onMsg_eq, List.length_append]
    omega
  | takeData data sends =>
    obtain rfl : sends = true := hmay
    have hload := Feeder.load_take hcan.1
    simp only [work, PtyBridge.after]
    omega
  | panic => simp [work, PtyBridge.after, hcan.1]

/-- After a close only the writer goes on. -/
theorem Flawless.delivered_of_closed (hs : s.Flawless channelId) (hclosed : s.status = .closed)
    (hpty : s.toPty = []) : s.Delivered := by
  obtain ⟨lost, htyped, hlost⟩ := hs.sound.types
  obtain ⟨rest, hrest, hnil⟩ := hs.sound.takes.typed
  obtain ⟨before, msg, htaken, -, hclose⟩ := hs.sound.takes.closed hclosed
  refine ⟨?_, ?_⟩
  · simpa [hpty, hlost hs.writer, hnil (.inr hclosed), hrest] using htyped
  · intro hopen
    have hmem : msg ∈ s.taken := by simp [htaken]
    exact absurd hclose (hopen msg (hs.sound.takes.taken.subset hmem))

theorem Flawless.delivered_of_empty (hs : s.Flawless channelId) (hwhole : s.Whole)
    (hpty : s.toPty = []) (hmsgs : s.msgs.items = []) (hin : s.inbound = [])
    (hdata : s.data.items = []) (hout : s.ptyOut = []) : s.Delivered := by
  obtain ⟨lost, htyped, hlost⟩ := hs.sound.types
  obtain ⟨rest, hrest, hnil⟩ := hs.sound.takes.typed
  have htaken : s.taken = s.arrived := by
    simpa [hmsgs, hin] using hs.sound.takes.queued hwhole
  refine ⟨?_, fun _ => ⟨?_, by rw [hs.heartbeats, htaken]⟩⟩
  · simpa [hpty, hlost hs.writer, hnil (.inl htaken), hrest] using htyped
  · simpa [hdata, hout] using hs.sound.prints.queued hwhole

theorem enabled (hmust : PtyMust s a) (hcan : s.Can a) : Enabled ptyStep PtyMust s :=
  ⟨a, s.after a, hmust, if_pos hcan⟩

/-- A loop that runs: whatever is on its way is taken on, from the loop backwards. -/
theorem Flawless.live_running (hs : s.Flawless channelId) (hrun : s.status = .running)
    (hpty : s.toPty = []) (hgoal : ¬ s.Delivered) : Enabled ptyStep PtyMust s := by
  have hwhole : s.Whole := .inl hrun
  rcases hmsgs : s.msgs.queue with _ | ⟨msg, rest⟩
  case cons => exact enabled (a := .takeMsg msg true) rfl ⟨by simp [hmsgs], hrun⟩
  rcases hhand : s.msgs.hand with _ | msg
  case some =>
    exact enabled (a := .passMsg msg) trivial ⟨hhand, fun _ => by simp [hmsgs, bridgeQueue]⟩
  rcases hin : s.inbound with _ | ⟨msg, rest⟩
  case cons =>
    have hdone : s.msgs.done = false := by
      by_contra h
      simp [hs.reader hwhole (by simpa using h)] at hin
    exact enabled (a := .unpack msg) trivial ⟨by simp [hin], hdone, hhand⟩
  rcases hdata : s.data.queue with _ | ⟨data, rest⟩
  case cons => exact enabled (a := .takeData data true) rfl ⟨by simp [hdata], hrun⟩
  rcases hbuffer : s.data.hand with _ | data
  case some =>
    exact enabled (a := .passData data) trivial ⟨hbuffer, fun _ => by simp [hdata, bridgeQueue]⟩
  rcases hout : s.ptyOut with _ | ⟨byte, rest⟩
  case cons =>
    have hdone : s.data.done = false := by
      by_contra h
      simp [hs.ptyReader hwhole (by simpa using h)] at hout
    exact enabled (a := .read 1) trivial
      ⟨⟨hdone, hbuffer⟩, by decide, by decide, by simp [hout]⟩
  have hnone : s.msgs.items = [] := by simp [Feeder.items, hmsgs, hhand]
  exact absurd (hs.delivered_of_empty hwhole hpty hnone hin (by simp [Feeder.items, hdata, hbuffer])
    hout) hgoal

/-- As long as something is on its way there is a step that takes it on. -/
theorem Flawless.live (hs : s.Flawless channelId) (hgoal : ¬ s.Delivered) :
    Enabled ptyStep PtyMust s := by
  rcases hpty : s.toPty with _ | ⟨data, rest⟩
  case cons => exact enabled (a := .write data) trivial ⟨by simp [hpty], hs.writer⟩
  cases hstatus : s.status with
  | running => exact hs.live_running hstatus hpty hgoal
  | closed => exact absurd (hs.delivered_of_closed hstatus hpty) hgoal
  | broken => exact absurd hstatus hs.unbroken
  | panicked =>
    have hwhole : s.Whole := .inr hstatus
    obtain ⟨hmsgs, hreader⟩ := hs.sound.takes.panicked hstatus
    obtain ⟨hdata, hptyReader⟩ := hs.sound.prints.panicked hstatus
    have hnone : s.msgs.items = [] := by
      simp [Feeder.items, hmsgs, hs.sound.takes.reader hreader]
    have hnone' : s.data.items = [] := by
      simp [Feeder.items, hdata, hs.sound.prints.reader hptyReader]
    exact absurd (hs.delivered_of_empty hwhole hpty hnone (hs.reader hwhole hreader) hnone'
      (hs.ptyReader hwhole hptyReader)) hgoal

theorem flawless_of_run {setup : PtySetup} (h : runShellBridge setup channelId = .ok s) :
    s.Flawless channelId := by
  have hsound := sound_of_run h
  cases setup with
  | ready =>
    cases h
    exact ⟨hsound, rfl, nofun, nofun, nofun, rfl⟩
  | _ => cases h

end PtyBridge

theorem pty_bridge_drains {setup : PtySetup} {channelId : UInt32} {b s : PtyBridge}
    (hstart : runShellBridge setup channelId = .ok b) (hrun : Reaches ptyStep PtyOk b s) :
    Inevitable ptyStep PtyMay PtyMust PtyBridge.Delivered s := by
  apply Inevitable.of_wellFounded (PtyBridge.Flawless channelId) (measure PtyBridge.work).wf
  · intro s a s' hs _ hmay hst
    refine ⟨hs.step hmay.ok hst, ?_⟩
    obtain ⟨hcan, rfl⟩ := ptyStep_eq_some hst
    exact PtyBridge.work_lt hcan hmay
  · intro s hs hgoal
    exact hs.live hgoal
  · exact hrun.invariant (fun hs hok hst => hs.step hok hst) (PtyBridge.flawless_of_run hstart)

/-- What is typed before a close still gets to the terminal after it. -/
theorem pty_bridge_drains_prompt :
    ∃ b s, runShellBridge .ready 3 = .ok b ∧ run ptyStep PtyOk b promptRun = some s ∧
      s.status = .closed ∧ s.ptyIn = [] ∧
      Inevitable ptyStep PtyMay PtyMust PtyBridge.Delivered s := by
  refine ⟨_, _, rfl, rfl, rfl, rfl, ?_⟩
  exact @pty_bridge_drains .ready 3 _ _ rfl
    (Reaches.of_run (rfl : run ptyStep PtyOk _ promptRun = some _))

end Hdc
