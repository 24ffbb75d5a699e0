import Mathlib.Data.List.Basic

/- The copying of a port forward, on either side (`run_forward_bridge` in
   `hdc/src/server.rs`, the `ForwardActiveSlave` arm of `handle_forward_task` in
   `hdcd/src/forward.rs`). Each side has a socket, a task that reads it and sends
   what it reads, a queue behind an entry of a map of senders, and a task that takes
   from the queue and writes to the socket; `copyStep` is the step of these two tasks,
   and `copyStep_cases` says all it can do.

   `Stream src dst inflight` is what one direction keeps: nothing was written to
   `dst` that is not what `src` received, in order, and while `dst` still takes
   items, nothing in between is missing. -/
namespace Hdc

/-! The copy tasks of one side. -/

/-- The task that reads the socket. -/
inductive ReadTask where
  | notSpawned
  | reading
  /-- It has read `data` and is to send it. -/
  | sending (data : List UInt8)
  /-- Its loop is over. -/
  | over
  | ended
  deriving DecidableEq, Repr

/-- The task that takes items from the queue and writes them. `ended` also stands
for a queue whose receiver was dropped. -/
inductive WriteTask where
  | notSpawned
  | receiving
  /-- In `write_all`, with `rest` still to be written. -/
  | writing (rest : List UInt8)
  | ended
  deriving DecidableEq, Repr

/-- A connected socket with its two tasks, and the queue that feeds it. -/
structure Endpoint where
  connected : Bool
  /-- Everything the peer at the socket has sent, and what of it is not read yet. -/
  sent : List UInt8
  unread : List UInt8
  reader : ReadTask
  /-- Whether `forward_conns`, or `fport_senders`, holds the queue's sender. -/
  registered : Bool
  queue : List (List UInt8)
  writer : WriteTask
  /-- Everything written to the peer. -/
  written : List UInt8
  deriving DecidableEq, Repr

def Endpoint.fresh : Endpoint := ⟨false, [], [], .notSpawned, false, [], .notSpawned, []⟩

/-- The `vec![0u8; 4096]` of the readers. -/
def forwardBufSize : Nat := 4096

/-- `sender.send(data)` on the sender of the map, if it has one. -/
def Endpoint.deliver (e : Endpoint) (data : List UInt8) : Endpoint :=
  if e.registered = true ∧ e.writer ≠ .ended then { e with queue := e.queue ++ [data] } else e

def Endpoint.unregister (e : Endpoint) : Endpoint := { e with registered := false }

inductive CopyAct where
  | peerSends (data : List UInt8)
  /-- `read` gives `n` bytes. -/
  | read (n : Nat)
  /-- `read` gives 0 or fails. -/
  | readEnd
  | send
  | sendFail
  | receive
  /-- `write_all` gets `n` more bytes out. -/
  | write (n : Nat)
  | wrote
  | writeFail
  deriving DecidableEq, Repr

/-- A step of the two tasks, with the data it sends. `skipEmpty` is for the host,
which does not write empty items. -/
def copyStep (skipEmpty : Bool) (e : Endpoint) : CopyAct → Option (Endpoint × Option (List UInt8))
  | .peerSends data =>
    if e.connected then
      some ({ e with sent := e.sent ++ data, unread := e.unread ++ data }, none)
    else none
  | .read n =>
    match e.reader with
    | .reading =>
      if 0 < n ∧ n ≤ forwardBufSize ∧ n ≤ e.unread.length then
        some ({ e with reader := .sending (e.unread.take n), unread := e.unread.drop n }, none)
      else none
    | _ => none
  | .readEnd =>
    match e.reader with
    | .reading => some ({ e with reader := .over }, none)
    | _ => none
  | .send =>
    match e.reader with
    | .sending data => some ({ e with reader := .reading }, some data)
    | _ => none
  | .sendFail =>
    match e.reader with
    | .sending _ => some ({ e with reader := .over }, none)
    | _ => none
  | .receive =>
    match e.writer, e.queue with
    | .receiving, item :: queue =>
      if skipEmpty = true ∧ item = [] then some ({ e with queue := queue }, none)
      else some ({ e with queue := queue, writer := .writing item }, none)
    | .receiving, [] =>
      -- `recv` returns `None` once the sender is gone
      if e.registered then none else some ({ e with writer := .ended }, none)
    | _, _ => none
  | .write n =>
    match e.writer with
    | .writing rest =>
      if 0 < n ∧ n ≤ rest.length then
        some ({ e with written := e.written ++ rest.take n, writer := .writing (rest.drop n) }, none)
      else none
    | _ => none
  | .wrote =>
    match e.writer with
    | .writing [] => some ({ e with writer := .receiving }, none)
    | _ => none
  | .writeFail =>
    match e.writer with
    | .writing _ => some ({ e with writer := .ended, queue := [] }, none)
    | _ => none

/-! One direction. -/

/-- What the reader has read and not sent. -/
def ReadTask.pending : ReadTask → List UInt8
  | .sending data => data
  | _ => []

/-- The reader has not left its loop. -/
def ReadTask.Live (r : ReadTask) : Prop := r ≠ .over ∧ r ≠ .ended

/-- What the writer has taken and not written. -/
def WriteTask.rest : WriteTask → List UInt8
  | .writing rest => rest
  | _ => []

/-- What has been put into the queue, written or not. -/
def Endpoint.accepted (e : Endpoint) : List UInt8 :=
  e.written ++ (e.writer.rest ++ e.queue.flatten)

/-- Items are still put into the queue. -/
def Endpoint.Open (e : Endpoint) : Prop := e.registered = true ∧ e.writer ≠ .ended

/-- What is delivered to `dst` is what the peer of `src` has sent, from its start; and
as long as `dst` takes items, `inflight` and what the reader holds continue it, up
to what is still unread if the reader goes on. -/
structure Stream (src dst : Endpoint) (inflight : List (List UInt8)) : Prop where
  accepted : dst.accepted <+: src.sent
  taken : dst.Open → dst.accepted ++ (inflight.flatten ++ src.reader.pending) <+: src.sent
  whole : dst.Open → src.reader.Live →
    dst.accepted ++ (inflight.flatten ++ (src.reader.pending ++ src.unread)) = src.sent

section
variable {src src' dst dst' : Endpoint} {inflight : List (List UInt8)} {item : List UInt8}

theorem Stream.written (h : Stream src dst inflight) : dst.written <+: src.sent :=
  (List.prefix_append _ _).trans h.accepted

/-- A destination that only drops what it had, and only when it closes. -/
theorem Stream.of_dst (h : Stream src dst inflight) (hle : dst'.accepted <+: dst.accepted)
    (hopen : dst'.Open → dst.Open ∧ dst'.accepted = dst.accepted) : Stream src dst' inflight where
  accepted := hle.trans h.accepted
  taken := by
    intro ho
    obtain ⟨hd, he⟩ := hopen ho
    rw [he]
    exact h.taken hd
  whole := by
    intro ho hlive
    obtain ⟨hd, he⟩ := hopen ho
    rw [he]
    exact h.whole hd hlive

/-- A source whose reader only changes its place. -/
theorem Stream.of_src (h : Stream src dst inflight) (hsent : src'.sent = src.sent)
    (hpending : src'.reader.pending = src.reader.pending)
    (hlive : src'.reader.Live → src.reader.Live ∧ src'.unread = src.unread) :
    Stream src' dst inflight where
  accepted := hsent ▸ h.accepted
  taken := by
    rw [hsent, hpending]
    exact h.taken
  whole := by
    intro ho hl
    obtain ⟨hs, hu⟩ := hlive hl
    rw [hsent, hpending, hu]
    exact h.whole ho hs

/-- Delivering an item changes the queue only. -/
theorem Endpoint.deliver_frame (e : Endpoint) (data : List UInt8) :
    (e.deliver data).connected = e.connected ∧ (e.deliver data).registered = e.registered ∧
      (e.deliver data).reader = e.reader ∧ (e.deliver data).writer = e.writer ∧
      (e.deliver data).unread = e.unread ∧ (e.deliver data).sent = e.sent := by
  unfold Endpoint.deliver
  split <;> simp

theorem Stream.deliver (h : Stream src dst (item :: inflight)) :
    Stream src (dst.deliver item) inflight := by
  unfold Endpoint.deliver
  split
  · rename_i hopen
    have hacc : ({ dst with queue := dst.queue ++ [item] } : Endpoint).accepted =
        dst.accepted ++ item := by
      simp [Endpoint.accepted]
    have htaken := h.taken hopen
    rw [List.flatten_cons, List.append_assoc, ← List.append_assoc] at htaken
    exact {
      accepted := by
        rw [hacc]
        exact (List.prefix_append _ _).trans htaken
      taken := by
        intro _
        rw [hacc]
        exact htaken
      whole := by
        intro _ hlive
        rw [hacc, List.append_assoc, ← h.whole hopen hlive]
        simp }
  · rename_i hclosed
    -- no longer open, so only what was accepted matters
    exact ⟨h.accepted, fun ho => absurd ho hclosed, fun ho => absurd ho hclosed⟩

theorem Stream.unregister (h : Stream src dst inflight) : Stream src dst.unregister inflight :=
  h.of_dst (List.prefix_rfl) (fun ho => by simp [Endpoint.Open, Endpoint.unregister] at ho)

/-- The streams of a destination that has just been opened. -/
theorem Stream.opened (haccepted : dst.accepted = []) (hpending : src.reader.pending = [])
    (hunread : src.unread = src.sent) : Stream src dst [] where
  accepted := by simp [haccepted]
  taken := by simp [haccepted, hpending]
  whole := by simp [haccepted, hpending, hunread]

end

/-! What the copy tasks can do. -/

/-- The steps of the reader and of the peer it reads from. -/
inductive ReadStep (e : Endpoint) : Endpoint → Option (List UInt8) → Prop
  | peerSends (data : List UInt8) (hconn : e.connected = true) :
    ReadStep e { e with sent := e.sent ++ data, unread := e.unread ++ data } none
  | read (n : Nat) (hreader : e.reader = .reading) :
    ReadStep e { e with reader := .sending (e.unread.take n), unread := e.unread.drop n } none
  | readEnd (hreader : e.reader = .reading) : ReadStep e { e with reader := .over } none
  | send (data : List UInt8) (hreader : e.reader = .sending data) :
    ReadStep e { e with reader := .reading } (some data)
  | sendFail (data : List UInt8) (hreader : e.reader = .sending data) :
    ReadStep e { e with reader := .over } none

/-- The steps of the writer. -/
inductive WriteStep (e : Endpoint) : Endpoint → Prop
  | skip (queue : List (List UInt8)) (hwriter : e.writer = .receiving)
    (hqueue : e.queue = [] :: queue) : WriteStep e { e with queue := queue }
  | receive (item : List UInt8) (queue : List (List UInt8)) (hwriter : e.writer = .receiving)
    (hqueue : e.queue = item :: queue) :
    WriteStep e { e with queue := queue, writer := .writing item }
  | closed (hwriter : e.writer = .receiving) : WriteStep e { e with writer := .ended }
  | write (n : Nat) (rest : List UInt8) (hwriter : e.writer = .writing rest) :
    WriteStep e { e with written := e.written ++ rest.take n, writer := .writing (rest.drop n) }
  | wrote (hwriter : e.writer = .writing []) : WriteStep e { e with writer := .receiving }
  | fail (rest : List UInt8) (hwriter : e.writer = .writing rest) :
    WriteStep e { e with writer := .ended, queue := [] }

theorem copyStep_cases {skipEmpty : Bool} {e e' : Endpoint} {act : CopyAct}
    {out : Option (List UInt8)} (h : copyStep skipEmpty e act = some (e', out)) :
    ReadStep e e' out ∨ WriteStep e e' ∧ out = none := by
  cases act with
  | peerSends data =>
    simp only [copyStep, Option.ite_none_right_eq_some] at h
    obtain ⟨hconn, h⟩ := h
    cases h
    exact .inl (.peerSends data hconn)
  | read n =>
    simp only [copyStep] at h
    split at h
    · rename_i hreader
      simp only [Option.ite_none_right_eq_some] at h
      obtain ⟨-, h⟩ := h
      cases h
      exact .inl (.read n hreader)
    · cases h
  | readEnd =>
    simp only [copyStep] at h
    split at h
    · cases h
      exact .inl (.readEnd ‹_›)
    · cases h
  | send =>
    simp only [copyStep] at h
    split at h
    · cases h
      exact .inl (.send _ ‹_›)
    · cases h
  | sendFail =>
    simp only [copyStep] at h
    split at h
    · cases h
      exact .inl (.sendFail _ ‹_›)
    · cases h
  | receive =>
    simp only [copyStep] at h
    split at h
    · rename_i item queue hwriter hqueue
      split at h
      · rename_i hskip
        cases h
        exact .inr ⟨.skip queue hwriter (by rw [hqueue, hskip.2]), rfl⟩
      · cases h
        exact .inr ⟨.receive item queue hwriter hqueue, rfl⟩
    · rename_i hwriter _
      split at h
      · cases h
      · cases h
        exact .inr ⟨.closed hwriter, rfl⟩
    · cases h
  | write n =>
    simp only [copyStep] at h
    split at h
    · rename_i rest hwriter
      simp only [Option.ite_none_right_eq_some] at h
      obtain ⟨-, h⟩ := h
      cases h
      exact .inr ⟨.write n rest hwriter, rfl⟩
    · cases h
  | wrote =>
    simp only [copyStep] at h
    split at h
    · cases h
      exact .inr ⟨.wrote ‹_›, rfl⟩
    · cases h
  | writeFail =>
    simp only [copyStep] at h
    split at h
    · cases h
      exact .inr ⟨.fail _ ‹_›, rfl⟩
    · cases h

section
variable {src src' dst dst' e e' : Endpoint} {inflight : List (List UInt8)}
  {out : Option (List UInt8)} {skipEmpty : Bool} {act : CopyAct}

theorem Stream.readStep (h : Stream src dst inflight) (hstep : ReadStep src src' out) :
    Stream src' dst (inflight ++ out.toList) := by
  cases hstep with
  | peerSends data =>
    simp only [Option.toList_none, List.append_nil]
    refine ⟨h.accepted.trans (List.prefix_append _ _),
      fun ho => (h.taken ho).trans (List.prefix_append _ _), ?_⟩
    intro ho hlive
    simp only [← h.whole ho hlive, List.append_assoc]
  | read n hreader =>
    have hlive : src.reader.Live := by simp [hreader, ReadTask.Live]
    have hwhole : dst.Open → dst.accepted ++ (inflight.flatten ++ (src.unread.take n ++
        src.unread.drop n)) = src.sent := by
      intro ho
      simpa [hreader, ReadTask.pending] using h.whole ho hlive
    simp only [Option.toList_none, List.append_nil]
    refine ⟨h.accepted, ?_, fun ho _ => hwhole ho⟩
    intro ho
    refine ⟨src.unread.drop n, ?_⟩
    rw [← hwhole ho]
    simp only [ReadTask.pending, List.append_assoc]
  | readEnd hreader =>
    simp only [Option.toList_none, List.append_nil]
    exact h.of_src rfl (by simp [hreader, ReadTask.pending]) (by simp [ReadTask.Live])
  | send data hreader =>
    -- the data moves from the reader to the end of what is in flight
    refine ⟨h.accepted, ?_, ?_⟩
    · intro ho
      simpa [hreader, ReadTask.pending] using h.taken ho
    · intro ho _
      simpa [hreader, ReadTask.pending] using h.whole ho (by simp [hreader, ReadTask.Live])
  | sendFail data hreader =>
    simp only [Option.toList_none, List.append_nil]
    refine ⟨h.accepted, ?_, by simp [ReadTask.Live]⟩
    intro ho
    refine List.IsPrefix.trans ?_ (h.taken ho)
    simp [ReadTask.pending]

/-- The writer moves bytes on, and loses some only when it ends. -/
theorem WriteStep.accepted (h : WriteStep e e') :
    e'.accepted <+: e.accepted ∧ (e'.Open → e.Open ∧ e'.accepted = e.accepted) := by
  have hkeep {e' : Endpoint} (hreg : e'.registered = e.registered) (hw : e.writer ≠ .ended)
      (heq : e'.accepted = e.accepted) :
      e'.accepted <+: e.accepted ∧ (e'.Open → e.Open ∧ e'.accepted = e.accepted) :=
    ⟨heq ▸ List.prefix_rfl, fun ho => ⟨⟨hreg ▸ ho.1, hw⟩, heq⟩⟩
  cases h with
  | skip queue hwriter hqueue =>
    exact hkeep rfl (by simp [hwriter]) (by simp [Endpoint.accepted, hqueue])
  | receive item queue hwriter hqueue =>
    exact hkeep rfl (by simp [hwriter])
      (by simp [Endpoint.accepted, hqueue, hwriter, WriteTask.rest])
  | closed hwriter =>
    refine ⟨?_, fun ho => absurd rfl ho.2⟩
    simp [Endpoint.accepted, hwriter, WriteTask.rest]
  | write n rest hwriter =>
    refine hkeep rfl (by simp [hwriter]) ?_
    simp only [Endpoint.accepted, hwriter, WriteTask.rest]
    rw [List.append_assoc, ← List.append_assoc (rest.take n), List.take_append_drop]
  | wrote hwriter =>
    exact hkeep rfl (by simp [hwriter]) (by simp [Endpoint.accepted, hwriter, WriteTask.rest])
  | fail rest hwriter =>
    refine ⟨?_, fun ho => absurd rfl ho.2⟩
    simp [Endpoint.accepted, WriteTask.rest]

/-- A side's own steps, as the source of one stream. -/
theorem Stream.src_step (h : Stream src dst inflight)
    (hstep : copyStep skipEmpty src act = some (src', out)) :
    Stream src' dst (inflight ++ out.toList) := by
  rcases copyStep_cases hstep with hread | ⟨hwrite, rfl⟩
  · exact h.readStep hread
  · simp only [Option.toList_none, List.append_nil]
    cases hwrite <;> exact h.of_src rfl rfl (fun hl => ⟨hl, rfl⟩)

/-- And as the destination of the other. -/
theorem Stream.dst_step (h : Stream src dst inflight)
    (hstep : copyStep skipEmpty dst act = some (dst', out)) : Stream src dst' inflight := by
  rcases copyStep_cases hstep with hread | ⟨hwrite, -⟩
  · cases hread <;> exact h.of_dst List.prefix_rfl (fun ho => ⟨ho, rfl⟩)
  · exact h.of_dst hwrite.accepted.1 hwrite.accepted.2

/-- What the copy tasks leave as it is. -/
theorem copyStep_frame (h : copyStep skipEmpty e act = some (e', out)) :
    e'.connected = e.connected ∧ e'.registered = e.registered ∧
      (e'.reader = .notSpawned ↔ e.reader = .notSpawned) ∧
      (e.writer = .notSpawned → e'.writer = .notSpawned ∧ e'.queue = e.queue) ∧
      (e.reader = .notSpawned → out = none ∧ (e.unread = e.sent → e'.unread = e'.sent)) ∧
      (e.queue = [] → e'.queue = []) := by
  rcases copyStep_cases h with hread | ⟨hwrite, rfl⟩
  · cases hread <;> simp_all
  · cases hwrite <;> simp_all

theorem copyStep_out {data : List UInt8}
    (h : copyStep skipEmpty e act = some (e', some data)) : act = .send := by
  cases act with
  | send => rfl
  | _ =>
    simp only [copyStep] at h
    repeat' split at h
    all_goals cases h

theorem copyStep_fresh : copyStep skipEmpty .fresh act = none := by
  cases act <;> rfl

end

/-! What has been read. -/

/-- What has been read of what the peer has sent. -/
def Endpoint.read (e : Endpoint) : List UInt8 := e.sent.take (e.sent.length - e.unread.length)

/-- The socket as if its peer had sent just that. -/
def Endpoint.seen (e : Endpoint) : Endpoint := { e with connected := true, sent := e.read, unread := [] }

section
variable {e e' dst : Endpoint} {inflight : List (List UInt8)} {out : Option (List UInt8)}
  {skipEmpty : Bool} {act : CopyAct}

theorem Endpoint.read_of_append {xs ys : List UInt8} (hsent : e.sent = xs ++ ys)
    (hunread : e.unread = ys) : e.read = xs := by
  rw [Endpoint.read, hsent, hunread, List.length_append, Nat.add_sub_cancel, List.take_left]

theorem Endpoint.read_append_unread (h : e.unread <:+ e.sent) : e.read ++ e.unread = e.sent := by
  obtain ⟨xs, hxs⟩ := h
  rw [Endpoint.read_of_append hxs.symm rfl, hxs]

/-- What is unread is the end of what was sent. -/
theorem copyStep_unread (h : e.unread <:+ e.sent) (hstep : copyStep skipEmpty e act = some (e', out)) :
    e'.unread <:+ e'.sent := by
  rcases copyStep_cases hstep with hread | ⟨hwrite, -⟩
  · cases hread with
    | peerSends data =>
      obtain ⟨xs, hxs⟩ := h
      exact ⟨xs, by rw [← hxs, List.append_assoc]⟩
    | read n => exact (List.drop_suffix n _).trans h
    | readEnd => exact h
    | send => exact h
    | sendFail => exact h
  · cases hwrite <;> exact h

/-- A side's own steps, as the source of a stream of what it has read. -/
theorem Stream.seen_step (h : Stream e.seen dst inflight) (hunread : e.unread <:+ e.sent)
    (hstep : copyStep skipEmpty e act = some (e', out)) :
    Stream e'.seen dst (inflight ++ out.toList) := by
  have hsplit := Endpoint.read_append_unread hunread
  rcases copyStep_cases hstep with hread | ⟨hwrite, rfl⟩
  · cases hread with
    | peerSends data =>
      have hread' : Endpoint.read { e with sent := e.sent ++ data, unread := e.unread ++ data } =
          e.read :=
        Endpoint.read_of_append (by rw [← List.append_assoc, hsplit]) rfl
      rw [Option.toList_none, List.append_nil]
      exact h.of_src hread' rfl (fun hl => ⟨hl, rfl⟩)
    | read n hreader =>
      -- the peer sends what is read, and all of it is read
      have hread' : Endpoint.read { e with
          reader := .sending (e.unread.take n), unread := e.unread.drop n } = e.read ++ e.unread.take n :=
        Endpoint.read_of_append (by rw [List.append_assoc, List.take_append_drop, hsplit]) rfl
      have h1 := (h.readStep (.peerSends (e.unread.take n) rfl)).readStep
        (.read (e.unread.take n).length hreader)
      simp only [Option.toList_none, List.append_nil, Endpoint.seen, List.nil_append, List.take_length,
        List.drop_length] at h1 ⊢
      rw [hread']
      exact h1
    | readEnd hreader => exact h.readStep (.readEnd hreader)
    | send data hreader => exact h.readStep (.send data hreader)
    | sendFail data hreader => exact h.readStep (.sendFail data hreader)
  · rw [Option.toList_none, List.append_nil]
    cases hwrite <;> exact h.of_src rfl rfl (fun hl => ⟨hl, rfl⟩)

end

end Hdc
