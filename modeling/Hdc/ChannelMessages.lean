import Hdc.ServerHandlers
import Hdc.Tcp

/- The messages between a client and the server: a length in four bytes and the payload.
   `TcpMap::send_channel_message` writes them (`lengthPrefixed`), and three loops read them: the
   server's `recv_channel_message` and `read_loopback_messages` (`hdc/src/server.rs`) and the
   client's `recv` (`hdc/src/client.rs`).

   A stream may be cut anywhere, also inside a length. What the readers have in common is
   `ReadsPrefixed`, with a lemma for a message at the front of the stream and one for a stream that
   ends inside a message; `channel_messages_decode` is about the streams of any number of
   messages. -/
namespace Hdc
open Rust Wire Feed

/-- How a stream ends: the peer closes it, or a read fails. -/
inductive StreamEnd where
  | closed
  | failed (e : IoError)
  deriving DecidableEq, Repr

/-- The error a reader returns there, where `eof` is its own for a closed stream. -/
def StreamEnd.error (eof : IoError) : StreamEnd → IoError
  | .closed => eof
  | .failed e => e

/-- The error of tokio's `read_exact` on a closed stream. -/
def earlyEof : IoError := ⟨.unexpectedEof, "early eof"⟩

def peerClosed : IoError := ⟨.connectionAborted, "peer closed"⟩

/-- A length in four bytes, and that many bytes. -/
def recvPrefixed (eof : IoError) (rd : Chunks UInt8) : IoResult (List UInt8 × Chunks UInt8) := do
  let (lenBytes, rd) ← readExpected eof rd 4
  readExpected eof rd (ofBe lenBytes)

/-- `recv_channel_message` of the server. -/
def recvChannelMessage (ending : StreamEnd) : Chunks UInt8 → IoResult (List UInt8 × Chunks UInt8) :=
  recvPrefixed (ending.error earlyEof)

/-- `Client::recv`; `rd` is missing once the client has closed its stream. -/
def clientRecv (ending : StreamEnd) (rd : Option (Chunks UInt8)) :
    IoResult (List UInt8 × Chunks UInt8) :=
  match rd with
  | none => .error ⟨.other, "stream closed"⟩
  | some rd => recvPrefixed (ending.error peerClosed) rd

/-! The loopback reader. -/

/-- What `read_loopback_messages` returns at the end of the stream; `none` is a read that saw
nothing for the idle time. -/
def loopbackResult : Option StreamEnd → IoResult Unit
  | none => .ok ()
  | some .closed => .ok ()
  | some (.failed e) => if e.kind = .unexpectedEof then .ok () else .error e

def loopbackLimit : Nat := 16 * 1024 * 1024

/-- Either of its two loops of reads, which leave the function at the end of the stream. -/
def readWithin (ending : Option StreamEnd) (rd : Chunks UInt8) (len : Nat) :
    Except (IoResult Unit) (List UInt8 × Chunks UInt8) :=
  match rd.readExact len with
  | some (buf, rd) => .ok (buf, rd)
  | none => .error (loopbackResult ending)

/-- One turn of its loop: a payload, or the value the function returns. -/
def loopbackTurn (ending : Option StreamEnd) (rd : Chunks UInt8) :
    Except (IoResult Unit) (List UInt8 × Chunks UInt8) :=
  match readWithin ending rd 4 with
  | .error result => .error result
  | .ok (lenBuf, rd) =>
    let len := ofBe lenBuf
    if len > loopbackLimit then .error (invalidData "loopback message too large")
    else readWithin ending rd len

def loopbackLoop (ending : Option StreamEnd) :
    Nat → Chunks UInt8 → List UInt8 → Option (IoResult Unit × List UInt8)
  | 0, _, _ => none
  | fuel + 1, rd, output =>
    match loopbackTurn ending rd with
    | .error result => some (result, output)
    | .ok (payload, rd) => loopbackLoop ending fuel rd (output ++ payload)

/-- `read_loopback_messages`: its result and `output` behind the call. Every turn but the last
takes a length off the stream, so that this fuel is enough. -/
def readLoopbackMessages (ending : Option StreamEnd) (rd : Chunks UInt8) (output : List UInt8) :
    Option (IoResult Unit × List UInt8) :=
  loopbackLoop ending (rd.bytes.length + 1) rd output

/-! Where a message can be cut. -/

/-- Inside its length or inside its payload. -/
theorem lengthPrefixed_cut {payload xs lost : List UInt8} (hl : lost ≠ [])
    (h : xs ++ lost = lengthPrefixed payload) :
    xs.length < 4 ∨ ∃ front, xs = be 4 payload.length ++ front ∧ front.length < payload.length := by
  rcases cut_append h with hshort | ⟨front, hxs, hfront⟩
  · rw [be_length] at hshort
    exact .inl hshort
  · have hpos : 0 < lost.length := List.length_pos_iff.mpr hl
    have hsum := congrArg List.length hfront
    rw [List.length_append] at hsum
    exact .inr ⟨front, hxs, by omega⟩

/-! Readers of messages. -/

/-- A decoder that fills a buffer of four bytes with `read`, and then one of the length in it, if
it accepts that; `e` is for a stream that ends. -/
structure ReadsPrefixed {ε : Type} (read : Chunks UInt8 → Nat → Except ε (List UInt8 × Chunks UInt8))
    (e : ε) (accepts : Nat → Prop) (decode : Chunks UInt8 → Except ε (List UInt8 × Chunks UInt8)) :
    Prop where
  full : ∀ {rd : Chunks UInt8} {front rest : List UInt8}, rd.bytes = front ++ rest →
    ∃ rd', read rd front.length = .ok (front, rd') ∧ rd'.bytes = rest
  short : ∀ {rd : Chunks UInt8} {n : Nat}, rd.bytes.length < n → read rd n = .error e
  stops : ∀ {rd : Chunks UInt8}, read rd 4 = .error e → decode rd = .error e
  goesOn : ∀ {rd rd' : Chunks UInt8} {lenBytes : List UInt8}, read rd 4 = .ok (lenBytes, rd') →
    accepts (ofBe lenBytes) → decode rd = read rd' (ofBe lenBytes)

namespace ReadsPrefixed
variable {ε : Type} {read : Chunks UInt8 → Nat → Except ε (List UInt8 × Chunks UInt8)} {e : ε}
  {accepts : Nat → Prop} {decode : Chunks UInt8 → Except ε (List UInt8 × Chunks UInt8)}
  {payload : List UInt8} {rd : Chunks UInt8}

/-- Behind the length of a message, the decoder reads its payload. -/
theorem length (h : ReadsPrefixed read e accepts decode) (hlen : payload.length < 2^32)
    (haccepts : accepts payload.length) {rest : List UInt8}
    (hrd : rd.bytes = be 4 payload.length ++ rest) :
    ∃ rd', decode rd = read rd' payload.length ∧ rd'.bytes = rest := by
  obtain ⟨rd', hread, hrest⟩ := h.full hrd
  rw [be_length] at hread
  have hofBe : ofBe (be 4 payload.length) = payload.length := ofBe_be hlen
  rw [← hofBe] at haccepts
  have hdecode := h.goesOn hread haccepts
  rw [hofBe] at hdecode
  exact ⟨rd', hdecode, hrest⟩

theorem append (h : ReadsPrefixed read e accepts decode) (hlen : payload.length < 2^32)
    (haccepts : accepts payload.length) {rest : List UInt8}
    (hrd : rd.bytes = lengthPrefixed payload ++ rest) :
    ∃ rd', decode rd = .ok (payload, rd') ∧ rd'.bytes = rest := by
  rw [lengthPrefixed, List.append_assoc] at hrd
  obtain ⟨rd₁, hdecode, hrd₁⟩ := h.length hlen haccepts hrd
  obtain ⟨rd₂, hread, hrest⟩ := h.full hrd₁
  exact ⟨rd₂, hdecode.trans hread, hrest⟩

theorem cut (h : ReadsPrefixed read e accepts decode) (hlen : payload.length < 2^32)
    (haccepts : accepts payload.length) {lost : List UInt8} (hl : lost ≠ [])
    (hrd : rd.bytes ++ lost = lengthPrefixed payload) : decode rd = .error e := by
  rcases lengthPrefixed_cut hl hrd with hshort | ⟨front, hfront, hshort⟩
  · exact h.stops (h.short hshort)
  · obtain ⟨rd₁, hdecode, hrd₁⟩ := h.length hlen haccepts hfront
    rw [← hrd₁] at hshort
    exact hdecode.trans (h.short hshort)

theorem drains (h : ReadsPrefixed read e accepts decode) {payloads : List (List UInt8)}
    (hlen : ∀ p ∈ payloads, p.length < 2^32) (haccepts : ∀ p ∈ payloads, accepts p.length) (n : Nat)
    (hrd : rd.bytes = (payloads.map lengthPrefixed).flatten.take n) :
    Drains decode rd (wholeIn lengthPrefixed n payloads) e := by
  refine Drains.of_take (fun p hp s rest => h.append (hlen p hp) (haccepts p hp)) (fun s hs => ?_)
    (fun p hp s lost => h.cut (hlen p hp) (haccepts p hp)) n hrd
  exact h.stops (h.short (by simp [hs]))

end ReadsPrefixed

/-- The server's reader and the client's accept every length. -/
theorem recvPrefixed_reads (eof : IoError) :
    ReadsPrefixed (readExpected eof) eof (fun _ => True) (recvPrefixed eof) where
  full := readExpected_append eof
  short := readExpected_short eof
  stops h := by rw [recvPrefixed, h, error_bind]
  goesOn h _ := by rw [recvPrefixed, h, ok_bind]

section
variable {ending : Option StreamEnd} {payload : List UInt8} {rd : Chunks UInt8}

theorem readWithin_eq_ok {n : Nat} {buf : List UInt8} {rd' : Chunks UInt8}
    (h : readWithin ending rd n = .ok (buf, rd')) :
    n ≤ rd.bytes.length ∧ rd'.bytes = rd.bytes.drop n := by
  rw [readWithin] at h
  split at h
  · rename_i hread
    cases h
    exact ⟨(Chunks.readExact_eq_some hread).1, (Chunks.readExact_eq_some hread).2.2⟩
  · cases h

/-- The loopback reader accepts those up to its limit. -/
theorem loopbackTurn_reads (ending : Option StreamEnd) :
    ReadsPrefixed (readWithin ending) (loopbackResult ending) (· ≤ loopbackLimit)
      (loopbackTurn ending) where
  full h := by
    obtain ⟨rd', hread, hrest⟩ := Chunks.readExact_append h
    exact ⟨rd', by rw [readWithin, hread], hrest⟩
  short h := by rw [readWithin, Chunks.readExact_of_lt h]
  stops h := by rw [loopbackTurn, h]
  goesOn h haccepts := by
    rw [loopbackTurn, h]
    exact if_neg (Nat.not_lt.mpr haccepts)

theorem loopbackTurn_shortens {rd' : Chunks UInt8} (h : loopbackTurn ending rd = .ok (payload, rd')) :
    rd'.bytes.length < rd.bytes.length := by
  rw [loopbackTurn] at h
  split at h
  · cases h
  · rename_i lenBuf rd₁ hlength
    obtain ⟨hfour, hrd₁⟩ := readWithin_eq_ok hlength
    dsimp only at h
    split at h
    · cases h
    · obtain ⟨_, hrd'⟩ := readWithin_eq_ok h
      rw [hrd', hrd₁, List.length_drop, List.length_drop]
      omega

/-- The loop adds what its turns return, however long it has to run for that. -/
theorem loopbackLoop_of_drains {payloads : List (List UInt8)} {result : IoResult Unit}
    (h : Drains (loopbackTurn ending) rd payloads result) :
    ∀ {fuel : Nat}, payloads.length < fuel → ∀ output,
      loopbackLoop ending fuel rd output = some (result, output ++ payloads.flatten) := by
  induction h with
  | stop hturn =>
    intro fuel hfuel output
    obtain ⟨fuel, rfl⟩ := Nat.exists_eq_succ_of_ne_zero (Nat.ne_of_gt hfuel)
    simp only [loopbackLoop, hturn, List.flatten_nil, List.append_nil]
  | next hturn _ ih =>
    intro fuel hfuel output
    obtain ⟨fuel, rfl⟩ := Nat.exists_eq_succ_of_ne_zero (Nat.ne_of_gt (Nat.zero_lt_of_lt hfuel))
    simp only [loopbackLoop, hturn, ih (Nat.lt_of_succ_lt_succ hfuel), List.flatten_cons,
      List.append_assoc]

end

/-- A length within the limit is one that four bytes hold. -/
theorem lt_of_le_loopbackLimit {n : Nat} (h : n ≤ loopbackLimit) : n < 2^32 :=
  Nat.lt_of_le_of_lt h (by decide)

theorem readLoopbackMessages_eq {ending : Option StreamEnd} {payloads : List (List UInt8)}
    (hlimit : ∀ p ∈ payloads, p.length ≤ loopbackLimit) (n : Nat) {rd : Chunks UInt8}
    (hrd : rd.bytes = (payloads.map lengthPrefixed).flatten.take n) (output : List UInt8) :
    readLoopbackMessages ending rd output =
      some (loopbackResult ending, output ++ (wholeIn lengthPrefixed n payloads).flatten) := by
  have hdrains := (loopbackTurn_reads ending).drains
    (fun p hp => lt_of_le_loopbackLimit (hlimit p hp)) hlimit n hrd
  have hlen := hdrains.length_le loopbackTurn_shortens
  exact loopbackLoop_of_drains hdrains (Nat.lt_succ_of_le hlen) output

/-- Whatever the reads return of the first `n` bytes of a stream of messages, the three readers
decode the messages that are complete in them, in order, and nothing of the next one. -/
theorem channel_messages_decode (payloads : List (List UInt8)) (n : Nat) (rd : Chunks UInt8)
    (hlen : ∀ p ∈ payloads, p.length < 2^32)
    (hrd : rd.bytes = (payloads.map lengthPrefixed).flatten.take n) :
    (∀ ending, Drains (recvChannelMessage ending) rd (wholeIn lengthPrefixed n payloads)
      (ending.error earlyEof)) ∧
    (∀ ending, Drains (fun rd => clientRecv ending (some rd)) rd (wholeIn lengthPrefixed n payloads)
      (ending.error peerClosed)) ∧
    ((∀ p ∈ payloads, p.length ≤ loopbackLimit) → ∀ ending output,
      readLoopbackMessages ending rd output =
        some (loopbackResult ending, output ++ (wholeIn lengthPrefixed n payloads).flatten)) :=
  ⟨fun _ => (recvPrefixed_reads _).drains hlen (fun _ _ => trivial) n hrd,
    fun _ => (recvPrefixed_reads _).drains hlen (fun _ _ => trivial) n hrd,
    fun hlimit _ output => readLoopbackMessages_eq hlimit n hrd output⟩

/-- Three messages, the second of them empty, in pieces that do not respect them, with the last
one cut inside its payload. -/
def cutChunks : Chunks UInt8 where
  pieces := [[0, 0], [0, 2, 7], [8, 0, 0, 0, 0, 0, 0], [0, 3, 9]]
  nonempty := by decide

theorem channel_messages_decode_cut :
    wholeIn lengthPrefixed 15 [[7, 8], [], [9, 9, 9]] = [[7, 8], []] ∧
    readLoopbackMessages none cutChunks [1] = some (.ok (), [1] ++ [7, 8]) := by
  have hlen : ∀ p ∈ ([[7, 8], [], [9, 9, 9]] : List (List UInt8)), p.length ≤ loopbackLimit := by
    decide
  have h := channel_messages_decode [[7, 8], [], [9, 9, 9]] 15 cutChunks
    (fun p hp => lt_of_le_loopbackLimit (hlen p hp)) (by decide)
  exact ⟨by decide, h.2.2 hlen none [1]⟩

end Hdc
