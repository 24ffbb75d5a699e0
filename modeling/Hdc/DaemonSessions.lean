import Hdc.Handshake
import Hdc.Lts
import Hdc.SecureChannel
import Mathlib.Logic.Function.Basic

/- The daemon's connections and the ciphers they share (`handle_client` in
   `hdcd/src/main.rs`, `SESSION_CIPHERS` in `hdcd/src/transfer/tcp.rs`).

   Ciphers are kept in one map of the process, under the session id the client put
   into its handshake. Every read and every write of a frame first looks the cipher
   up and later uses what it found, so `connStep` takes the two apart: other
   connections may install and remove ciphers in between. What is looked up is a
   shared handle, an index into the heap of ciphers.

   `no_downgrade` is about all interleavings of any number of connections: as long
   as no connection installs or removes a cipher under an id that another live
   connection holds one under, uses id 0 for a cipher, or writes after its handler
   has taken its cipher away, every frame of a connection that has a cipher is read
   and written under its own PSK, and first frames are read as they are. -/
namespace Hdc
open Rust Wire Feed Lts

/-! Connections. -/

/-- Which of its frames a connection is reading: the handshake, the host's PSK-ACK,
a frame of the main loop, or one of the shell bridge it was handed to. -/
inductive Stage where
  | first | ack | loop | shell
  deriving DecidableEq, Repr

/-- Where `handle_client` stands. -/
inductive Phase where
  /-- About to look up the cipher for the next frame. -/
  | idle (stage : Stage)
  /-- Waiting for the frame, with what the lookup found. -/
  | reading (stage : Stage) (cipher : Option Nat)
  /-- The response to the first frame is to be sent. -/
  | replying (reply : HandshakeReply)
  /-- It has been sent, and its cipher is to be installed. -/
  | installing (psk : Psk) (encryptEnabled : Bool)
  | dispatching
  /-- The session is over and its cipher is to be removed. -/
  | closing
  | ended
  deriving DecidableEq

/-- A connection. `psk` is the key it was given with `set_session_cipher`;
`sending` is the message whose sender holds the writer, with what its lookup
found; `tasks` says that there are tasks with a `SharedWriter`, which may outlive
the handler. -/
structure Conn where
  phase : Phase
  sessionId : UInt32
  psk : Option Psk
  sending : Option (TaskMessage × Option Nat)
  tasks : Bool
  deriving DecidableEq

def Conn.fresh : Conn := ⟨.idle .first, 0, none, none, false⟩

/-- A frame taken from or written to a connection, with the key the connection had
been given by then. -/
inductive SessionEvent where
  | accepted (conn : Nat) (own : Option Psk) (rd : Chunks UInt8) (msg : TaskMessage)
  | sent (conn : Nat) (own : Option Psk) (msg : TaskMessage) (bytes : List UInt8)

structure Daemon where
  /-- `SESSION_CIPHERS`. -/
  ciphers : UInt32 → Option Nat
  heap : List PskCipher
  conns : List Conn
  log : List SessionEvent

def Daemon.init : Daemon := ⟨fun _ => none, [], [], []⟩

/-! Steps. -/

inductive ConnAct where
  | lookup
  /-- The bytes `rd` arrive; `random` and `psk` are for the handshake. -/
  | frame (rd : Chunks UInt8) (random : UInt32) (psk : Psk)
  | timeout
  | sendLookup (msg : TaskMessage)
  | sendWrite
  /-- The socket refuses the write. -/
  | sendFail
  | install
  /-- `dispatch_task` returns, perhaps with `ConnectionAborted`. -/
  | dispatched (aborted : Bool)
  | remove
  | shellEnd

inductive DaemonAct where
  | accept
  | on (i : Nat) (act : ConnAct)

/-- The id under which a frame's cipher is looked up. -/
def Conn.lookupId (conn : Conn) : Stage → UInt32
  | .first => 0
  | .ack | .loop | .shell => conn.sessionId

/-- The handler after a frame. -/
def Conn.afterFrame (env : DaemonEnv) (conn : Conn) (msg : TaskMessage) (random : UInt32)
    (psk : Psk) : Stage → Conn
  | .first =>
    match replyHandshake env msg random psk with
    | some (.ok reply) => { conn with phase := .replying reply, sessionId := reply.sessionId }
    | _ => { conn with phase := .ended }
  | .ack =>
    if msg.command = .kernelHandshake then { conn with phase := .idle .loop }
    else { conn with phase := .closing }
  | .loop =>
    if msg.command = .shellInit then { conn with phase := .idle .shell, tasks := true }
    else { conn with phase := .dispatching, tasks := true }
  | .shell => { conn with phase := .idle .shell }

/-- The handler after a read that failed. Only the ack and the main loop take the
cipher away. -/
def failPhase : Stage → Phase
  | .first | .shell => .ended
  | .ack | .loop => .closing

/-- The handler after its own response has been written; other writers leave it
where it is. -/
def afterSend : Phase → Phase
  | .replying reply =>
    match reply.psk with
    | some psk => .installing psk reply.encryptEnabled
    | none => if reply.encryptEnabled then .idle .ack else .idle .loop
  | phase => phase

def afterSendError : Phase → Phase
  | .replying _ => .ended
  | phase => phase

/-- Whether `msg` may be sent: the response of the handshake, or anything once there
are tasks. -/
def Conn.maySend (conn : Conn) (msg : TaskMessage) : Bool :=
  match conn.phase with
  | .replying reply => msg = reply.response
  | _ => conn.tasks

/-- The heap after a cipher behind a handle has been used. -/
def store (heap : List PskCipher) (handle : Option Nat) (cipher : Option PskCipher) :
    List PskCipher :=
  match handle, cipher with
  | some n, some c => heap.set n c
  | _, _ => heap

def Daemon.cipherAt (s : Daemon) (handle : Option Nat) : Option PskCipher :=
  handle.bind (s.heap[·]?)

/-- The heap after a read that failed. A frame that was decrypted and could not be
unpacked has used its cipher. -/
def Daemon.heapAfterRead (aes : Aes128Gcm) (s : Daemon) (handle : Option Nat)
    (rd : Chunks UInt8) : List PskCipher :=
  match daemonRecvFrame aes (s.cipherAt handle) rd with
  | .ok ((_, cipher), _) => store s.heap handle cipher
  | .error _ => s.heap

/-- The heap after a write that failed. `encrypt` has counted the frame by then. -/
def Daemon.heapAfterWrite (aes : Aes128Gcm) (s : Daemon) (handle : Option Nat)
    (msg : TaskMessage) : List PskCipher :=
  match sendMessage aes (s.cipherAt handle) msg with
  | .ok (_, cipher) => store s.heap handle cipher
  | .error _ => s.heap

def Daemon.put (s : Daemon) (i : Nat) (conn : Conn) : Daemon :=
  { s with conns := s.conns.set i conn }

def connStep (env : DaemonEnv) (s : Daemon) (i : Nat) (conn : Conn) : ConnAct → Option Daemon
  | .lookup =>
    match conn.phase with
    | .idle stage =>
      some (s.put i { conn with phase := .reading stage (s.ciphers (conn.lookupId stage)) })
    | _ => none
  | .frame rd random psk =>
    match conn.phase with
    | .reading stage handle =>
      match daemonUnpackTaskMessage env.aes (s.cipherAt handle) rd with
      | .ok ((msg, cipher), _) =>
        some { s.put i (conn.afterFrame env msg random psk stage) with
          heap := store s.heap handle cipher
          log := s.log ++ [.accepted i conn.psk rd msg] }
      | .error _ =>
        some { s.put i { conn with phase := failPhase stage } with
          heap := s.heapAfterRead env.aes handle rd }
    | _ => none
  | .timeout =>
    match conn.phase with
    | .reading .ack _ => some (s.put i { conn with phase := .closing })
    | _ => none
  | .sendLookup msg =>
    if conn.sending = none ∧ conn.maySend msg then
      some (s.put i { conn with sending := some (msg, s.ciphers conn.sessionId) })
    else none
  | .sendWrite =>
    match conn.sending with
    | some (msg, handle) =>
      match sendMessage env.aes (s.cipherAt handle) msg with
      | .ok (bytes, cipher) =>
        some { s.put i { conn with sending := none, phase := afterSend conn.phase } with
          heap := store s.heap handle cipher
          log := s.log ++ [.sent i conn.psk msg bytes] }
      | .error _ => some (s.put i { conn with sending := none, phase := afterSendError conn.phase })
    | none => none
  | .sendFail =>
    match conn.sending with
    | some (msg, handle) =>
      some { s.put i { conn with sending := none, phase := afterSendError conn.phase } with
        heap := s.heapAfterWrite env.aes handle msg }
    | none => none
  | .install =>
    match conn.phase with
    | .installing psk encryptEnabled =>
      some { s.put i { conn with
            psk := some psk
            phase := if encryptEnabled then .idle .ack else .idle .loop } with
        ciphers := Function.update s.ciphers conn.sessionId (some s.heap.length)
        heap := s.heap ++ [PskCipher.new psk false] }
    | _ => none
  | .dispatched aborted =>
    match conn.phase with
    | .dispatching => some (s.put i { conn with phase := if aborted then .closing else .idle .loop })
    | _ => none
  | .remove =>
    match conn.phase with
    | .closing =>
      some { s.put i { conn with phase := .ended } with
        ciphers := Function.update s.ciphers conn.sessionId none }
    | _ => none
  | .shellEnd =>
    match conn.phase with
    | .idle .shell | .reading .shell _ => some (s.put i { conn with phase := .ended })
    | _ => none

def daemonStep (env : DaemonEnv) (s : Daemon) : DaemonAct → Option Daemon
  | .accept => some { s with conns := s.conns ++ [Conn.fresh] }
  | .on i act => s.conns[i]?.bind fun conn => connStep env s i conn act

/-! The property and the condition. -/

/-- A frame of a connection with a key is one that the daemon's own code reads, or
writes, with a cipher under that key. -/
def SessionEvent.Sound (aes : Aes128Gcm) : SessionEvent → Prop
  | .accepted _ (some psk) rd msg => ∃ cipher : PskCipher,
      cipher.recvKey = (PskCipher.new psk false).recvKey ∧
      ∃ after rd', daemonUnpackTaskMessage aes (some cipher) rd = .ok ((msg, after), rd')
  | .sent _ (some psk) msg bytes => ∃ cipher : PskCipher,
      cipher.sendKey = (PskCipher.new psk false).sendKey ∧
      ∃ after, sendMessage aes (some cipher) msg = .ok (bytes, after)
  | _ => True

/-- No frame of a connection with a key has left that key, and no first frame is
being read under any. -/
structure NoDowngrade (aes : Aes128Gcm) (s : Daemon) : Prop where
  sound : ∀ e ∈ s.log, e.Sound aes
  firstPlain : ∀ conn ∈ s.conns, ∀ handle, conn.phase = .reading .first handle → handle = none

/-- Another live connection holds a cipher under `id`. -/
def Shared (s : Daemon) (i : Nat) (id : UInt32) : Prop :=
  ∃ p ∈ s.conns.zipIdx, p.2 ≠ i ∧ p.1.sessionId = id ∧ p.1.psk.isSome ∧ p.1.phase ≠ .ended

instance (s : Daemon) (i : Nat) (id : UInt32) : Decidable (Shared s i id) :=
  inferInstanceAs (Decidable (∃ p ∈ s.conns.zipIdx, _))

/-- The condition on one action of one connection. -/
def ConnOk (s : Daemon) (i : Nat) (conn : Conn) : ConnAct → Prop
  | .install => conn.sessionId ≠ 0 ∧ ¬ Shared s i conn.sessionId
  | .remove => ¬ Shared s i conn.sessionId
  | .sendLookup _ => conn.psk.isSome → conn.phase ≠ .ended
  | _ => True

instance (s : Daemon) (i : Nat) (conn : Conn) : ∀ act, Decidable (ConnOk s i conn act)
  | .install => inferInstanceAs (Decidable (_ ∧ _))
  | .remove => inferInstanceAs (Decidable (¬ _))
  | .sendLookup _ => inferInstanceAs (Decidable (_ → _))
  | .lookup | .frame .. | .timeout | .sendWrite | .sendFail | .dispatched _ | .shellEnd =>
    inferInstanceAs (Decidable True)

def KeepsApart (s : Daemon) : DaemonAct → Prop
  | .accept => True
  | .on i act => ∀ conn ∈ s.conns[i]?, ConnOk s i conn act

instance (s : Daemon) : ∀ act, Decidable (KeepsApart s act)
  | .accept => inferInstanceAs (Decidable True)
  | .on i act => inferInstanceAs (Decidable (∀ conn ∈ s.conns[i]?, ConnOk s i conn act))

/-! Using a cipher keeps its keys. -/

def SameKeys (c c' : PskCipher) : Prop := c'.sendKey = c.sendKey ∧ c'.recvKey = c.recvKey

/-- Every cipher of a heap is still there, with the same keys. -/
def HeapLe (heap heap' : List PskCipher) : Prop :=
  ∀ (n : Nat) (c : PskCipher), heap[n]? = some c → ∃ c', heap'[n]? = some c' ∧ SameKeys c c'

theorem HeapLe.refl (heap : List PskCipher) : HeapLe heap heap :=
  fun _ c h => ⟨c, h, rfl, rfl⟩

theorem HeapLe.append (heap : List PskCipher) (c : PskCipher) : HeapLe heap (heap ++ [c]) := by
  intro n c' h
  refine ⟨c', ?_, rfl, rfl⟩
  rw [List.getElem?_append_left, h]
  exact (List.getElem?_eq_some_iff.mp h).1

theorem HeapLe.store {heap : List PskCipher} {handle : Option Nat} {cipher : Option PskCipher}
    (h : ∀ c', cipher = some c' → ∃ c, handle.bind (heap[·]?) = some c ∧ SameKeys c c') :
    HeapLe heap (Hdc.store heap handle cipher) := by
  unfold Hdc.store
  split
  · rename_i n c'
    obtain ⟨c, hc, hkeys⟩ := h c' rfl
    intro m d hd
    have hn : heap[n]? = some c := hc
    rw [List.getElem?_set]
    by_cases hnm : n = m
    · subst hnm
      rw [hn] at hd
      cases hd
      rw [if_pos rfl, if_pos (List.getElem?_eq_some_iff.mp hn).1]
      exact ⟨c', rfl, hkeys⟩
    · rw [if_neg hnm]
      exact ⟨d, hd, rfl, rfl⟩
  · exact .refl heap

theorem sendMessage_keys {aes : Aes128Gcm} {cipher after : Option PskCipher} {msg : TaskMessage}
    {bytes : List UInt8} (h : sendMessage aes cipher msg = .ok (bytes, after)) (c' : PskCipher)
    (hc' : after = some c') : ∃ c, cipher = some c ∧ SameKeys c c' := by
  subst hc'
  cases cipher with
  | none => cases h
  | some c =>
    obtain ⟨⟨ct, c₁⟩, henc, h⟩ := bind_eq_ok.mp h
    obtain ⟨-, -, -, rfl⟩ := PskCipher.encrypt_eq_ok henc
    cases h
    exact ⟨c, rfl, rfl, rfl⟩

theorem decrypt_keys {aes : Aes128Gcm} {c c' : PskCipher} {data plaintext : List UInt8}
    (h : c.decrypt aes data = .ok (plaintext, c')) : SameKeys c c' := by
  unfold PskCipher.decrypt at h
  split at h
  · cases h
  · simp only at h
    split at h
    · cases h
    · cases h
      exact ⟨rfl, rfl⟩

theorem daemonRecvFrame_keys {aes : Aes128Gcm} {cipher after : Option PskCipher}
    {rd rd' : Chunks UInt8} {frame : List UInt8}
    (h : daemonRecvFrame aes cipher rd = .ok ((frame, after), rd')) (c' : PskCipher)
    (hc' : after = some c') : ∃ c, cipher = some c ∧ SameKeys c c' := by
  subst hc'
  cases cipher with
  | none =>
    obtain ⟨⟨_, _⟩, -, h⟩ := bind_eq_ok.mp h
    cases h
  | some c =>
    obtain ⟨⟨⟨_, c₁⟩, _⟩, hrecv, h⟩ := bind_eq_ok.mp h
    cases h
    obtain ⟨⟨_, _⟩, -, h⟩ := bind_eq_ok.mp hrecv
    obtain ⟨⟨_, _⟩, -, h⟩ := bind_eq_ok.mp h
    obtain ⟨⟨_, _⟩, hdec, h⟩ := bind_eq_ok.mp h
    cases h
    exact ⟨c, rfl, decrypt_keys hdec⟩

theorem daemonUnpackTaskMessage_keys {aes : Aes128Gcm} {cipher after : Option PskCipher}
    {rd rd' : Chunks UInt8} {msg : TaskMessage}
    (h : daemonUnpackTaskMessage aes cipher rd = .ok ((msg, after), rd')) (c' : PskCipher)
    (hc' : after = some c') : ∃ c, cipher = some c ∧ SameKeys c c' := by
  obtain ⟨⟨⟨frame, after'⟩, rd₁⟩, hframe, h⟩ := bind_eq_ok.mp h
  obtain ⟨msg', -, h⟩ := bind_eq_ok.mp h
  cases h
  exact daemonRecvFrame_keys hframe c' hc'

theorem HeapLe.afterRead (aes : Aes128Gcm) (s : Daemon) (handle : Option Nat)
    (rd : Chunks UInt8) : HeapLe s.heap (s.heapAfterRead aes handle rd) := by
  unfold Daemon.heapAfterRead
  split
  · rename_i hframe
    exact .store (daemonRecvFrame_keys hframe)
  · exact .refl s.heap

theorem HeapLe.afterWrite (aes : Aes128Gcm) (s : Daemon) (handle : Option Nat)
    (msg : TaskMessage) : HeapLe s.heap (s.heapAfterWrite aes handle msg) := by
  unfold Daemon.heapAfterWrite
  split
  · rename_i hsend
    exact .store (sendMessage_keys hsend)
  · exact .refl s.heap

/-! The invariant. -/

/-- The handle leads to a cipher under `psk`, as `set_session_cipher` installs it. -/
def Holds (s : Daemon) (handle : Option Nat) (psk : Psk) : Prop :=
  ∃ c, s.cipherAt handle = some c ∧ SameKeys (PskCipher.new psk false) c

theorem Holds.mono {s s' : Daemon} {handle : Option Nat} {psk : Psk}
    (hheap : HeapLe s.heap s'.heap) (h : Holds s handle psk) : Holds s' handle psk := by
  obtain ⟨c, hc, hkeys⟩ := h
  cases handle with
  | none => cases hc
  | some n =>
    obtain ⟨c', hc', hkeys'⟩ := hheap n c hc
    exact ⟨c', hc', hkeys'.1.trans hkeys.1, hkeys'.2.trans hkeys.2⟩

/-- The phases before a cipher can be there. -/
def Phase.early : Phase → Bool
  | .idle .first | .reading .first _ | .replying _ | .installing _ _ => true
  | _ => false

/-- What holds of one connection: while it lives with a key, the map and everything
it has looked up lead to a cipher under that key. -/
structure ConnInv (s : Daemon) (conn : Conn) : Prop where
  installed : ∀ psk, conn.psk = some psk → conn.phase ≠ .ended →
    conn.sessionId ≠ 0 ∧ Holds s (s.ciphers conn.sessionId) psk
  reads : ∀ psk stage handle, conn.psk = some psk → conn.phase = .reading stage handle →
    Holds s handle psk
  sends : ∀ psk msg handle, conn.psk = some psk → conn.sending = some (msg, handle) →
    Holds s handle psk
  firstPlain : ∀ handle, conn.phase = .reading .first handle → handle = none
  unkeyed : conn.phase.early = true → conn.psk = none ∧ conn.tasks = false
  quiet : conn.phase.early = true → (∀ reply, conn.phase ≠ .replying reply) → conn.sending = none

structure DaemonInv (aes : Aes128Gcm) (s : Daemon) : Prop where
  zero : s.ciphers 0 = none
  conns : ∀ (i : Nat) (conn : Conn), s.conns[i]? = some conn → ConnInv s conn
  sound : ∀ e ∈ s.log, e.Sound aes

theorem DaemonInv.init (aes : Aes128Gcm) : DaemonInv aes Daemon.init where
  zero := rfl
  conns := by
    intro i conn h
    simp [Daemon.init] at h
  sound := by
    intro e he
    simp [Daemon.init] at he

theorem DaemonInv.noDowngrade {aes : Aes128Gcm} {s : Daemon} (h : DaemonInv aes s) :
    NoDowngrade aes s where
  sound := h.sound
  firstPlain := by
    intro conn hmem
    obtain ⟨i, hi⟩ := List.mem_iff_getElem?.mp hmem
    exact (h.conns i conn hi).firstPlain

/-- A connection is not touched by steps that keep the heap's keys and, while it lives
with a key, its own entry of the map. -/
theorem ConnInv.frame {s s' : Daemon} {conn : Conn} (h : ConnInv s conn)
    (hheap : HeapLe s.heap s'.heap)
    (hciphers : conn.psk.isSome → conn.phase ≠ .ended →
      s'.ciphers conn.sessionId = s.ciphers conn.sessionId) : ConnInv s' conn where
  installed := by
    intro psk hpsk hlive
    obtain ⟨hid, hh⟩ := h.installed psk hpsk hlive
    rw [hciphers (by simp [hpsk]) hlive]
    exact ⟨hid, hh.mono hheap⟩
  reads psk stage handle hpsk hphase := (h.reads psk stage handle hpsk hphase).mono hheap
  sends psk msg handle hpsk hsending := (h.sends psk msg handle hpsk hsending).mono hheap
  firstPlain := h.firstPlain
  unkeyed := h.unkeyed
  quiet := h.quiet

/-- The shape of every step of a connection: its own record is replaced, no cipher
loses its keys, and no other live connection with a key loses its entry. -/
theorem DaemonInv.update {aes : Aes128Gcm} {s s' : Daemon} {i : Nat} {conn' : Conn}
    (hinv : DaemonInv aes s) (hconns : s'.conns = s.conns.set i conn')
    (hheap : HeapLe s.heap s'.heap)
    (hciphers : ∀ (j : Nat) (other : Conn), j ≠ i → s.conns[j]? = some other → other.psk.isSome →
      other.phase ≠ .ended → s'.ciphers other.sessionId = s.ciphers other.sessionId)
    (hzero : s'.ciphers 0 = none) (hconn : ConnInv s' conn')
    (hsound : ∀ e ∈ s'.log, e.Sound aes) : DaemonInv aes s' where
  zero := hzero
  conns := by
    intro j other hj
    rw [hconns, List.getElem?_set] at hj
    by_cases hij : i = j
    · rw [if_pos hij] at hj
      split at hj
      · cases hj
        exact hconn
      · cases hj
    · rw [if_neg hij] at hj
      exact (hinv.conns j other hj).frame hheap
        (hciphers j other (fun h => hij h.symm) hj)
  sound := hsound

theorem not_shared {s : Daemon} {i j : Nat} {id : UInt32} {other : Conn} (h : ¬ Shared s i id)
    (hij : j ≠ i) (hj : s.conns[j]? = some other) (hkey : other.psk.isSome)
    (hlive : other.phase ≠ .ended) : other.sessionId ≠ id := by
  intro hid
  exact h ⟨(other, j), by simpa [List.mk_mem_zipIdx_iff_getElem?] using hj, hij, hid, hkey, hlive⟩

/-! Records that keep the invariant. -/

/-- A handler past its handshake moves on to a phase that is not a read. -/
theorem ConnInv.move {s : Daemon} {conn : Conn} (h : ConnInv s conn) (hlive : conn.phase ≠ .ended)
    {phase : Phase} (hlate : phase.early = false)
    (hread : ∀ stage handle, phase ≠ .reading stage handle) (tasks : Bool) :
    ConnInv s { conn with phase, tasks } where
  installed psk hpsk _ := h.installed psk hpsk hlive
  reads _ stage handle _ hphase := absurd hphase (hread stage handle)
  sends := h.sends
  firstPlain handle hphase := absurd hphase (hread .first handle)
  unkeyed hearly := absurd (hlate.symm.trans hearly) Bool.false_ne_true
  quiet hearly := absurd (hlate.symm.trans hearly) Bool.false_ne_true

/-- A connection without a key and without writers has nothing to lose. -/
theorem ConnInv.of_unkeyed {s : Daemon} {conn : Conn} (hpsk : conn.psk = none)
    (htasks : conn.tasks = false) (hquiet : conn.sending = none ∨ ∃ reply, conn.phase = .replying reply)
    (hread : ∀ handle, conn.phase ≠ .reading .first handle) : ConnInv s conn where
  installed psk h := by simp [hpsk] at h
  reads psk _ _ h := by simp [hpsk] at h
  sends psk _ _ h := by simp [hpsk] at h
  firstPlain handle h := absurd h (hread handle)
  unkeyed _ := ⟨hpsk, htasks⟩
  quiet _ hne := by
    rcases hquiet with h | ⟨reply, h⟩
    · exact h
    · exact absurd h (hne reply)

/-- The writer is released and the handler stays where it is. -/
theorem ConnInv.release {s : Daemon} {conn : Conn} (h : ConnInv s conn) :
    ConnInv s { conn with sending := none } where
  installed := h.installed
  reads := h.reads
  sends _ _ _ _ hsending := by cases hsending
  firstPlain := h.firstPlain
  unkeyed := h.unkeyed
  quiet _ _ := rfl

/-- The same when the handler's response was the message, and it moves on. -/
theorem ConnInv.release_reply {s : Daemon} {conn : Conn} (h : ConnInv s conn) {move : Phase → Phase}
    (hother : (∀ reply, conn.phase ≠ .replying reply) → move conn.phase = conn.phase)
    (hreply : ∀ reply handle, conn.phase = .replying reply →
      move conn.phase ≠ .reading .first handle) :
    ConnInv s { conn with sending := none, phase := move conn.phase } := by
  by_cases hr : ∃ reply, conn.phase = .replying reply
  · obtain ⟨reply, hr⟩ := hr
    obtain ⟨hpsk, htasks⟩ := h.unkeyed (by rw [hr]; rfl)
    exact .of_unkeyed hpsk htasks (.inl rfl) fun handle => hreply reply handle hr
  · have hr' : ∀ reply, conn.phase ≠ .replying reply := fun reply hp => hr ⟨reply, hp⟩
    rw [hother hr']
    exact h.release

theorem afterSend_ne_first (reply : HandshakeReply) (handle : Option Nat) :
    afterSend (.replying reply) ≠ .reading .first handle := by
  unfold afterSend
  simp only
  split
  · simp
  · split <;> simp

theorem afterSend_other {phase : Phase} (h : ∀ reply, phase ≠ .replying reply) :
    afterSend phase = phase := by
  unfold afterSend
  split
  · rename_i reply
    exact absurd rfl (h reply)
  · rfl

theorem afterSendError_other {phase : Phase} (h : ∀ reply, phase ≠ .replying reply) :
    afterSendError phase = phase := by
  unfold afterSendError
  split
  · rename_i reply
    exact absurd rfl (h reply)
  · rfl

theorem ConnInv.release_error {s : Daemon} {conn : Conn} (h : ConnInv s conn) :
    ConnInv s { conn with sending := none, phase := afterSendError conn.phase } := by
  refine h.release_reply (fun hne => afterSendError_other hne) ?_
  intro reply handle hr
  rw [hr]
  simp [afterSendError]

theorem ConnInv.lookup {aes : Aes128Gcm} {s : Daemon} {conn : Conn} (hinv : DaemonInv aes s)
    (h : ConnInv s conn) {stage : Stage} (hphase : conn.phase = .idle stage) :
    ConnInv s { conn with phase := .reading stage (s.ciphers (conn.lookupId stage)) } := by
  have hlive : conn.phase ≠ .ended := by
    rw [hphase]
    simp
  have hfirst : stage = .first → conn.phase.early = true := by
    rintro rfl
    rw [hphase]
    rfl
  have hstage : ∀ handle, (Phase.reading stage handle).early = true → stage = .first := by
    intro handle he
    cases stage <;> simp [Phase.early] at he ⊢
  refine ⟨fun psk hpsk _ => h.installed psk hpsk hlive, ?_, h.sends, ?_, ?_, ?_⟩
  · intro psk stage' handle hpsk heq
    cases heq
    obtain ⟨-, hh⟩ := h.installed psk hpsk hlive
    cases stage with
    | first =>
      have := (h.unkeyed (hfirst rfl)).1
      simp only at hpsk
      rw [this] at hpsk
      cases hpsk
    | ack => exact hh
    | loop => exact hh
    | shell => exact hh
  · intro handle heq
    cases heq
    exact hinv.zero
  · intro he
    exact h.unkeyed (hfirst (hstage _ he))
  · intro he _
    exact h.quiet (hfirst (hstage _ he)) (by rw [hphase]; simp)

theorem ConnInv.afterFrame {s : Daemon} {conn : Conn} (h : ConnInv s conn) {stage : Stage}
    {handle : Option Nat} (hphase : conn.phase = .reading stage handle) (env : DaemonEnv)
    (msg : TaskMessage) (random : UInt32) (psk : Psk) :
    ConnInv s (conn.afterFrame env msg random psk stage) := by
  have hlive : conn.phase ≠ .ended := by
    rw [hphase]
    simp
  cases stage with
  | first =>
    have hearly : conn.phase.early = true := by
      rw [hphase]
      rfl
    obtain ⟨hpsk, htasks⟩ := h.unkeyed hearly
    have hquiet := h.quiet hearly (by rw [hphase]; simp)
    unfold Conn.afterFrame
    simp only
    split
    · exact .of_unkeyed hpsk htasks (.inl hquiet) (by simp)
    · exact .of_unkeyed hpsk htasks (.inl hquiet) (by simp)
  | ack =>
    unfold Conn.afterFrame
    simp only
    split
    · exact h.move hlive rfl (by simp) conn.tasks
    · exact h.move hlive rfl (by simp) conn.tasks
  | loop =>
    unfold Conn.afterFrame
    simp only
    split
    · exact h.move hlive rfl (by simp) true
    · exact h.move hlive rfl (by simp) true
  | shell => exact h.move hlive rfl (by simp) conn.tasks

/-! Steps keep the invariant. -/

section
variable {env : DaemonEnv} {s s' : Daemon} {i : Nat} {conn : Conn}

/-- A step that uses a cipher and logs nothing. -/
theorem DaemonInv.spend (hinv : DaemonInv env.aes s) {conn' : Conn} (hconn : ConnInv s conn')
    {heap : List PskCipher} (hheap : HeapLe s.heap heap) :
    DaemonInv env.aes { s.put i conn' with heap } :=
  hinv.update rfl hheap (fun _ _ _ _ _ _ => rfl) hinv.zero
    (hconn.frame hheap fun _ _ => rfl) hinv.sound

/-- A step that only replaces the record of its connection. -/
theorem DaemonInv.put (hinv : DaemonInv env.aes s) {conn' : Conn} (hconn : ConnInv s conn') :
    DaemonInv env.aes (s.put i conn') :=
  hinv.spend hconn (.refl s.heap)

/-- A step that also uses a cipher and logs a frame. -/
theorem DaemonInv.use (hinv : DaemonInv env.aes s) {conn' : Conn} (hconn : ConnInv s conn')
    {heap : List PskCipher} (hheap : HeapLe s.heap heap) {e : SessionEvent}
    (he : e.Sound env.aes) :
    DaemonInv env.aes { s.put i conn' with heap, log := s.log ++ [e] } := by
  refine hinv.update rfl hheap (fun _ _ _ _ _ _ => rfl) hinv.zero
    (hconn.frame hheap fun _ _ => rfl) ?_
  intro e' he'
  rcases List.mem_append.mp he' with h | h
  · exact hinv.sound e' h
  · rw [List.mem_singleton.mp h]
    exact he

theorem frame_keeps (hinv : DaemonInv env.aes s) (hi : s.conns[i]? = some conn)
    {rd : Chunks UInt8} {random : UInt32} {psk : Psk}
    (h : connStep env s i conn (.frame rd random psk) = some s') : DaemonInv env.aes s' := by
  have hc := hinv.conns i conn hi
  unfold connStep at h
  dsimp only at h
  split at h
  · rename_i stage handle hphase
    split at h
    · rename_i msg cipher rd' hunpack
      cases h
      refine hinv.use (hc.afterFrame hphase env msg random psk)
        (.store (daemonUnpackTaskMessage_keys hunpack)) ?_
      cases hpsk : conn.psk with
      | none => trivial
      | some own =>
        obtain ⟨c, hcipher, -, hrecv⟩ := hc.reads own stage handle hpsk hphase
        rw [hcipher] at hunpack
        exact ⟨c, hrecv, cipher, rd', hunpack⟩
    · cases h
      refine hinv.spend (hc.move (by rw [hphase]; simp) ?_ ?_ conn.tasks)
        (.afterRead env.aes s handle rd)
      · cases stage <;> rfl
      · cases stage <;> simp [failPhase]
  · cases h

theorem sendLookup_keeps (hinv : DaemonInv env.aes s) (hi : s.conns[i]? = some conn)
    {msg : TaskMessage} (hok : conn.psk.isSome → conn.phase ≠ .ended)
    (h : connStep env s i conn (.sendLookup msg) = some s') : DaemonInv env.aes s' := by
  have hc := hinv.conns i conn hi
  unfold connStep at h
  dsimp only at h
  split at h
  · rename_i hsend
    cases h
    refine hinv.put { hc with sends := ?_, quiet := ?_ }
    · intro psk msg' handle hpsk heq
      cases heq
      exact (hc.installed psk hpsk (hok (by simp only at hpsk; simp [hpsk]))).2
    · -- before the main loop only the handler itself writes
      intro hearly hne
      have hmay := hsend.2
      have htasks := (hc.unkeyed hearly).2
      unfold Conn.maySend at hmay
      split at hmay
      · rename_i reply hreply
        exact absurd hreply (hne reply)
      · rw [htasks] at hmay
        cases hmay
  · cases h

theorem sendWrite_keeps (hinv : DaemonInv env.aes s) (hi : s.conns[i]? = some conn)
    (h : connStep env s i conn .sendWrite = some s') : DaemonInv env.aes s' := by
  have hc := hinv.conns i conn hi
  have hdone : ConnInv s { conn with sending := none, phase := afterSend conn.phase } := by
    refine hc.release_reply (fun hne => afterSend_other hne) ?_
    intro reply handle hr
    rw [hr]
    exact afterSend_ne_first reply handle
  unfold connStep at h
  dsimp only at h
  split at h
  · rename_i msg handle hsending
    split at h
    · rename_i bytes cipher hsend
      cases h
      refine hinv.use hdone (.store (sendMessage_keys hsend)) ?_
      cases hpsk : conn.psk with
      | none => trivial
      | some own =>
        obtain ⟨c, hcipher, hkey, -⟩ := hc.sends own msg handle hpsk hsending
        rw [hcipher] at hsend
        exact ⟨c, hkey, cipher, hsend⟩
    · cases h
      exact hinv.put hc.release_error
  · cases h

theorem install_keeps (hinv : DaemonInv env.aes s) (hi : s.conns[i]? = some conn)
    (hid : conn.sessionId ≠ 0) (hshared : ¬ Shared s i conn.sessionId)
    (h : connStep env s i conn .install = some s') : DaemonInv env.aes s' := by
  have hc := hinv.conns i conn hi
  unfold connStep at h
  dsimp only at h
  split at h
  · rename_i psk encryptEnabled hphase
    cases h
    have hquiet := hc.quiet (by rw [hphase]; rfl) (by rw [hphase]; simp)
    refine hinv.update rfl (.append _ _) ?_ ?_ ?_ hinv.sound
    · intro j other hij hj hkey hlive
      exact Function.update_of_ne (not_shared hshared hij hj hkey hlive) _ _
    · exact (Function.update_of_ne (Ne.symm hid) _ _).trans hinv.zero
    · have hnew : Holds { s.put i { conn with
              psk := some psk
              phase := if encryptEnabled then .idle .ack else .idle .loop } with
            ciphers := Function.update s.ciphers conn.sessionId (some s.heap.length)
            heap := s.heap ++ [PskCipher.new psk false] } (some s.heap.length) psk := by
        refine ⟨PskCipher.new psk false, ?_, rfl, rfl⟩
        simp [Daemon.cipherAt]
      refine ⟨?_, ?_, ?_, ?_, ?_, ?_⟩
      · intro psk' hpsk' _
        cases hpsk'
        refine ⟨hid, ?_⟩
        simp only [Function.update_self]
        exact hnew
      · intro _ _ _ _ hread
        cases encryptEnabled <;> cases hread
      · intro _ _ _ _ hsending
        simp only [hquiet] at hsending
        cases hsending
      · intro _ hread
        cases encryptEnabled <;> cases hread
      · intro hearly
        cases encryptEnabled <;> cases hearly
      · intro _ _
        exact hquiet
  · cases h

theorem remove_keeps (hinv : DaemonInv env.aes s) (hi : s.conns[i]? = some conn)
    (hshared : ¬ Shared s i conn.sessionId)
    (h : connStep env s i conn .remove = some s') : DaemonInv env.aes s' := by
  have hc := hinv.conns i conn hi
  unfold connStep at h
  dsimp only at h
  split at h
  · rename_i hphase
    cases h
    refine hinv.update rfl (.refl _) ?_ ?_ ?_ hinv.sound
    · intro j other hij hj hkey hlive
      exact Function.update_of_ne (not_shared hshared hij hj hkey hlive) _ _
    · by_cases hid : conn.sessionId = 0
      · simp [hid]
      · exact (Function.update_of_ne (Ne.symm hid) _ _).trans hinv.zero
    · have hended : ConnInv s { conn with phase := .ended } :=
        hc.move (by rw [hphase]; simp) rfl (by simp) conn.tasks
      exact hended.frame (.refl _) fun _ hlive => absurd rfl hlive
  · cases h

theorem connStep_keeps {act : ConnAct} (hinv : DaemonInv env.aes s) (hi : s.conns[i]? = some conn)
    (hok : ConnOk s i conn act) (h : connStep env s i conn act = some s') :
    DaemonInv env.aes s' := by
  have hc := hinv.conns i conn hi
  unfold connStep at h
  cases act with
  | lookup =>
    dsimp only at h
    split at h
    · rename_i stage hphase
      cases h
      exact hinv.put (hc.lookup hinv hphase)
    · cases h
  | frame rd random psk => exact frame_keeps hinv hi h
  | timeout =>
    dsimp only at h
    split at h
    · rename_i handle hphase
      cases h
      exact hinv.put (hc.move (by rw [hphase]; simp) rfl (by simp) conn.tasks)
    · cases h
  | sendLookup msg => exact sendLookup_keeps hinv hi hok h
  | sendWrite => exact sendWrite_keeps hinv hi h
  | sendFail =>
    dsimp only at h
    split at h
    · rename_i msg handle hsending
      cases h
      exact hinv.spend hc.release_error (.afterWrite env.aes s handle msg)
    · cases h
  | install => exact install_keeps hinv hi hok.1 hok.2 h
  | dispatched aborted =>
    dsimp only at h
    split at h
    · rename_i hphase
      cases h
      refine hinv.put (hc.move (by rw [hphase]; simp) ?_ ?_ conn.tasks)
      · cases aborted <;> rfl
      · cases aborted <;> simp
    · cases h
  | remove => exact remove_keeps hinv hi hok h
  | shellEnd =>
    dsimp only at h
    split at h
    · rename_i hphase
      cases h
      exact hinv.put (hc.move (by rw [hphase]; simp) rfl (by simp) conn.tasks)
    · rename_i handle hphase
      cases h
      exact hinv.put (hc.move (by rw [hphase]; simp) rfl (by simp) conn.tasks)
    · cases h

theorem daemonStep_keeps {act : DaemonAct} (hinv : DaemonInv env.aes s) (hok : KeepsApart s act)
    (h : daemonStep env s act = some s') : DaemonInv env.aes s' := by
  cases act with
  | accept =>
    cases h
    refine ⟨hinv.zero, ?_, hinv.sound⟩
    intro j other hj
    have hfresh : ∀ t : Daemon, ConnInv t Conn.fresh :=
      fun t => .of_unkeyed rfl rfl (.inl rfl) (by simp [Conn.fresh])
    rcases List.mem_append.mp (List.mem_of_getElem? hj) with hmem | hmem
    · obtain ⟨k, hk⟩ := List.mem_iff_getElem?.mp hmem
      exact (hinv.conns k other hk).frame (.refl _) fun _ _ => rfl
    · rw [List.mem_singleton.mp hmem]
      exact hfresh _
  | on i act =>
    obtain ⟨conn, hi, hstep⟩ := Option.bind_eq_some_iff.mp h
    exact connStep_keeps hinv hi (hok conn hi) hstep

end

/-- In every run of the daemon whose steps keep live ciphers apart, every frame of a
connection that has been given a PSK is read and written under that PSK, and the
first frame of every connection is read as plaintext. -/
theorem no_downgrade (env : DaemonEnv) (s : Daemon)
    (h : Reaches (daemonStep env) KeepsApart Daemon.init s) : NoDowngrade env.aes s :=
  (h.invariant daemonStep_keeps (DaemonInv.init env.aes)).noDowngrade

/-! Two runs. -/

/-- A daemon with encryption switched on; its RSA and base64 do nothing. -/
def exampleEnv : DaemonEnv where
  aes := exampleAes
  encryptChannel := true
  hostname := "d"
  encryptPskWithPubkey _ psk := .ok psk.1
  base64 _ := ""

/-- The bytes of one packet, as they arrive. -/
def arriving (msg : TaskMessage) : Chunks UInt8 :=
  ⟨[concatPack msg], by simp [concatPack, PayloadHead.serialize]⟩

/-- A client's first message, with session id 7. -/
def exampleHello (buf : String) : TaskMessage :=
  ⟨0, .kernelHandshake, SessionHandShake.serialize { sessionId := 7, buf }⟩

/-- The buffer of a client that supports encryption and sends its key. -/
def encryptingBuf : String :=
  padRight 16 "supportfeatures" ++ padRight 16 "11" ++ featureEncryptTcp ++
    (padRight 16 "pubkey" ++ padRight 16 "1" ++ "k")

/-- Connection `i` is accepted and answered, up to its installation of a cipher. -/
def exampleConnect (i : Nat) (hello : TaskMessage) : List DaemonAct :=
  let response := match replyHandshake exampleEnv hello 0 examplePsk with
    | some (.ok reply) => reply.response
    | _ => hello
  [.accept, .on i .lookup, .on i (.frame (arriving hello) 0 examplePsk),
    .on i (.sendLookup response), .on i .sendWrite]

def exampleSession : Option Daemon :=
  run (daemonStep exampleEnv) KeepsApart Daemon.init
    (exampleConnect 0 (exampleHello encryptingBuf) ++ [.on 0 .install, .on 0 .lookup])

theorem exampleSession_reads :
    ∃ s, exampleSession = some s ∧ (s.conns.map fun conn => (conn.psk, conn.phase)) =
      [(some examplePsk, .reading .ack (some 0))] :=
  Option.map_eq_some_iff.mp (by decide)

theorem exampleSession_isSome : exampleSession.isSome = true := by
  obtain ⟨s, hs, -⟩ := exampleSession_reads
  rw [hs, Option.isSome_some]

theorem no_downgrade_session :
    ((exampleSession.get exampleSession_isSome).conns.map fun conn => (conn.psk, conn.phase)) =
      [(some examplePsk, .reading .ack (some 0))] ∧
    NoDowngrade exampleEnv.aes (exampleSession.get exampleSession_isSome) := by
  obtain ⟨s, hs, hreads⟩ := exampleSession_reads
  rw [Option.get_of_eq_some exampleSession_isSome hs]
  exact ⟨hreads, no_downgrade exampleEnv s (.of_run hs)⟩

/-- A frame that is no encrypted frame under any key: its first bytes announce more
than there is. -/
theorem daemonUnpackTaskMessage_plain (aes : Aes128Gcm) (cipher : PskCipher) {rd : Chunks UInt8}
    {len rest : List UInt8} (hrd : rd.bytes = len ++ rest) (hlen : len.length = 4)
    (hrest : rest.length < ofBe len) :
    daemonUnpackTaskMessage aes (some cipher) rd = .error peerShutdown := by
  obtain ⟨rd₁, hr₁, hb₁⟩ := readFrame_append hrd
  rw [hlen] at hr₁
  have hr₂ : readFrame rd₁ (ofBe len) = .error peerShutdown := readFrame_short (by rw [hb₁]; exact hrest)
  simp only [daemonUnpackTaskMessage, daemonRecvFrame, recvEncrypted, hr₁, ok_bind, hr₂, error_bind]

/-- A second client with the id of an encrypted session connects in plaintext and hangs
up; its handler takes the cipher of the first away. -/
def downgradeRun : Option Daemon :=
  run (daemonStep exampleEnv) anyStep Daemon.init
    (exampleConnect 0 (exampleHello encryptingBuf) ++ [.on 0 .install] ++
      exampleConnect 1 (exampleHello "") ++
      [.on 1 .lookup, .on 1 (.frame ⟨[], by simp⟩ 0 examplePsk), .on 1 .remove,
        .on 0 .lookup, .on 0 (.frame (arriving ⟨0, .kernelHandshake, []⟩) 0 examplePsk)])

/-- The first connection then takes a plaintext frame. -/
theorem downgradeRun_log : ∃ s, downgradeRun = some s ∧ s.log.getLast? =
    some (.accepted 0 (some examplePsk) (arriving ⟨0, .kernelHandshake, []⟩)
      ⟨0, .kernelHandshake, []⟩) :=
  Option.map_eq_some_iff.mp rfl

theorem shared_id_downgrades :
    ∃ s, Reaches (daemonStep exampleEnv) anyStep Daemon.init s ∧ ¬ NoDowngrade exampleEnv.aes s := by
  obtain ⟨s, hs, hlog⟩ := downgradeRun_log
  refine ⟨s, .of_run hs, fun h => ?_⟩
  obtain ⟨cipher, -, after, rd', hu⟩ := h.sound _ (List.mem_of_getLast? hlog)
  have hrd : (arriving ⟨0, .kernelHandshake, []⟩).bytes =
      [72, 87, 0, 0] ++ (concatPack ⟨0, .kernelHandshake, []⟩).drop 4 := by decide
  rw [daemonUnpackTaskMessage_plain _ cipher hrd rfl (by decide)] at hu
  cases hu

end Hdc
