import Hdc.ChannelMessages

/- What the client does with the messages the server sends for its command (`hdc/src/client.rs`,
   `main` in `hdc/src/main.rs`). Most commands print them one after the other until the server ends
   the channel. `loop_recv` takes that for success and prints what is no text as bytes;
   `general_task` and `app_uninstall_task` return the error, and stop at a message that is no text;
   `bug_report_task` writes the messages to a file.

   They are one loop with parameters, `recvLoop`. Whatever pieces the messages arrive in,
   `recvAll_eq` says what has been shown when the loop returns, and that it returns.
   `client_shows_messages` is what the user sees of a command whose channel the server ends: every
   message that is complete, and no word about the end. -/
namespace Hdc
open Rust Feed

/-! The loop. -/

section
variable {ω : Type} (ending : StreamEnd) (take : List UInt8 → IoResult ω)
  (atEnd : IoError → IoResult Unit)

/-- `loop { self.recv() }`: a message is taken, or the function returns. -/
def recvLoop : Nat → Chunks UInt8 → Option (List ω × IoResult Unit)
  | 0, _ => none
  | fuel + 1, rd =>
    match clientRecv ending (some rd) with
    | .error e => some ([], atEnd e)
    | .ok (recv, rd) =>
      match take recv with
      | .error e => some ([], .error e)
      | .ok shown => (recvLoop fuel rd).map fun (rest, result) => (shown :: rest, result)

/-- Every turn but the last takes a length off the stream, so that this fuel is enough. -/
def recvAll (rd : Chunks UInt8) : Option (List ω × IoResult Unit) :=
  recvLoop ending take atEnd (rd.bytes.length + 1) rd

/-- What comes of a list of messages and the error behind them. -/
def takeAll (e : IoError) : List (List UInt8) → List ω × IoResult Unit
  | [] => ([], atEnd e)
  | recv :: rest =>
    match take recv with
    | .error e => ([], .error e)
    | .ok shown => (shown :: (takeAll e rest).1, (takeAll e rest).2)

end

/-! The commands. -/

/-- What the user sees of a message. -/
inductive Display where
  | print (msg : String)
  | println (msg : String)
  /-- On the standard error. -/
  | binary (recv : List UInt8)
  deriving DecidableEq, Repr

def printOrBinary (recv : List UInt8) : Display :=
  match fromUtf8 recv with
  | some msg => .print msg
  | none => .binary recv

section
variable (utf8Error : List UInt8 → String) (ending : StreamEnd) (rd : Chunks UInt8)

/-- `loop_recv`. -/
def loopRecv : Option (List Display × IoResult Unit) :=
  recvAll ending (fun recv => .ok (printOrBinary recv))
    (fun e => if e.kind = .connectionAborted then .ok () else .error e) rd

/-- The messages of `general_task` and of `app_uninstall_task` have to be texts. The texts of
the error are those of the standard library. -/
def takeText (failed : String) (display : String → Display) (recv : List UInt8) :
    IoResult Display :=
  match fromUtf8 recv with
  | some msg => .ok (display msg)
  | none => invalidData (failed ++ utf8Error recv)

def generalTask : Option (List Display × IoResult Unit) :=
  recvAll ending (takeText utf8Error "recv data to str failed: " .print) .error rd

def appUninstallTask : Option (List Display × IoResult Unit) :=
  recvAll ending (takeText utf8Error "" .println) .error rd

/-- `bug_report_task` with a file, whose writes do not fail; the messages are written to it as
they are. -/
def bugReportTask : Option (List (List UInt8) × IoResult Unit) := recvAll ending .ok .error rd

end

/-- What `main` prints of the result of `run_client_mode`. -/
def clientReport : IoResult Unit → Option String
  | .ok () => none
  | .error e => if e.kind = .other then some ("[Fail]" ++ e.msg) else none

/-! What the loop comes to. -/

section
variable {ω : Type} {ending : StreamEnd} {take : List UInt8 → IoResult ω}
  {atEnd : IoError → IoResult Unit} {rd rd' : Chunks UInt8} {recv : List UInt8}

theorem readExpected_eq_ok {eof : IoError} {n : Nat} (h : readExpected eof rd n = .ok (recv, rd')) :
    n ≤ rd.bytes.length ∧ rd'.bytes = rd.bytes.drop n := by
  rw [readExpected] at h
  split at h
  · rename_i hn
    cases h
    simp [hn]
  · split at h
    · rename_i hread
      cases h
      exact ⟨(Chunks.readExact_eq_some hread).1, (Chunks.readExact_eq_some hread).2.2⟩
    · cases h

theorem clientRecv_shortens (h : clientRecv ending (some rd) = .ok (recv, rd')) :
    rd'.bytes.length < rd.bytes.length := by
  rw [clientRecv, recvPrefixed] at h
  obtain ⟨⟨lenBytes, rd₁⟩, hlength, hpayload⟩ := bind_eq_ok.mp h
  obtain ⟨hfour, hrd₁⟩ := readExpected_eq_ok hlength
  obtain ⟨-, hrd'⟩ := readExpected_eq_ok hpayload
  rw [hrd', hrd₁, List.length_drop, List.length_drop]
  omega

theorem recvLoop_of_drains {recvs : List (List UInt8)} {e : IoError}
    (h : Drains (fun rd => clientRecv ending (some rd)) rd recvs e) :
    ∀ {fuel : Nat}, recvs.length < fuel →
      recvLoop ending take atEnd fuel rd = some (takeAll take atEnd e recvs) := by
  induction h with
  | stop hrecv =>
    intro fuel hfuel
    obtain ⟨fuel, rfl⟩ := Nat.exists_eq_succ_of_ne_zero (Nat.ne_of_gt hfuel)
    rw [recvLoop, hrecv]
    rfl
  | @next rd rd' recv recvs e hrecv _ ih =>
    intro fuel hfuel
    obtain ⟨fuel, rfl⟩ := Nat.exists_eq_succ_of_ne_zero (Nat.ne_of_gt (Nat.zero_lt_of_lt hfuel))
    rw [recvLoop, hrecv, takeAll]
    dsimp only
    cases take recv with
    | error e => rfl
    | ok shown => simp only [ih (Nat.lt_of_succ_lt_succ hfuel), Option.map_some]

/-- Whatever the reads return of the first `n` bytes of a stream of messages. -/
theorem recvAll_eq {payloads : List (List UInt8)} (hlen : ∀ p ∈ payloads, p.length < 2^32) (n : Nat)
    (hrd : rd.bytes = (payloads.map lengthPrefixed).flatten.take n) :
    recvAll ending take atEnd rd =
      some (takeAll take atEnd (ending.error peerClosed) (wholeIn lengthPrefixed n payloads)) := by
  have hdrains : Drains (fun rd => clientRecv ending (some rd)) rd
      (wholeIn lengthPrefixed n payloads) (ending.error peerClosed) :=
    (recvPrefixed_reads _).drains hlen (fun _ _ => trivial) n hrd
  have hlen := hdrains.length_le clientRecv_shortens
  exact recvLoop_of_drains hdrains (Nat.lt_succ_of_le hlen)

/-- The messages of a stream of texts that are complete in its first `n` bytes. -/
theorem wholeIn_texts (n : Nat) (texts : List String) :
    wholeIn lengthPrefixed n (texts.map utf8) =
      (wholeIn (fun text => lengthPrefixed (utf8 text)) n texts).map utf8 := by
  induction texts generalizing n with
  | nil => rfl
  | cons text texts ih =>
    rw [List.map_cons, wholeIn, wholeIn]
    split
    · rw [ih, List.map_cons]
    · rfl

/-- A loop that takes every text shows all of them. -/
theorem takeAll_texts {display : String → ω} (htake : ∀ text, take (utf8 text) = .ok (display text))
    (e : IoError) (texts : List String) :
    takeAll take atEnd e (texts.map utf8) = (texts.map display, atEnd e) := by
  induction texts with
  | nil => rfl
  | cons text texts ih =>
    rw [List.map_cons, takeAll, htake, ih]
    rfl

theorem recvAll_texts {display : String → ω} (htake : ∀ text, take (utf8 text) = .ok (display text))
    {texts : List String} (hlen : ∀ text ∈ texts, (utf8 text).length < 2^32) (n : Nat)
    (hrd : rd.bytes = ((texts.map utf8).map lengthPrefixed).flatten.take n) :
    recvAll ending take atEnd rd =
      some ((wholeIn (fun text => lengthPrefixed (utf8 text)) n texts).map display,
        atEnd (ending.error peerClosed)) := by
  have hpayloads : ∀ p ∈ texts.map utf8, p.length < 2^32 := by
    intro p hp
    obtain ⟨text, htext, rfl⟩ := List.mem_map.mp hp
    exact hlen text htext
  rw [recvAll_eq hpayloads n hrd, wholeIn_texts, takeAll_texts htake]

end

/-- A stream that is not cut is printed as a whole. -/
theorem loopRecv_texts {texts : List String} (hlen : ∀ text ∈ texts, (utf8 text).length < 2^32)
    {rd : Chunks UInt8} (hrd : rd.bytes = ((texts.map utf8).map lengthPrefixed).flatten) :
    loopRecv .closed rd = some (texts.map .print, .ok ()) := by
  have hwhole := wholeIn_length (fun text => lengthPrefixed (utf8 text)) texts
  have hmap : texts.map (fun text => lengthPrefixed (utf8 text)) =
      (texts.map utf8).map lengthPrefixed := by
    rw [List.map_map]
    rfl
  rw [loopRecv, recvAll_texts (fun text => by rw [printOrBinary, fromUtf8_utf8]) hlen _
    (hrd.trans (List.take_length (l := _)).symm), ← hmap, hwhole]
  rfl

/-- When the server ends the channel after `texts`, anywhere in them, the user has seen every text
that is complete, whichever loop the command has, and is told nothing of the end. -/
theorem client_shows_messages (utf8Error : List UInt8 → String) (texts : List String) (n : Nat)
    (rd : Chunks UInt8) (hlen : ∀ text ∈ texts, (utf8 text).length < 2^32)
    (hrd : rd.bytes = ((texts.map utf8).map lengthPrefixed).flatten.take n) :
    let whole := wholeIn (fun text => lengthPrefixed (utf8 text)) n texts
    loopRecv .closed rd = some (whole.map .print, .ok ()) ∧
    generalTask utf8Error .closed rd = some (whole.map .print, .error peerClosed) ∧
    appUninstallTask utf8Error .closed rd = some (whole.map .println, .error peerClosed) ∧
    bugReportTask .closed rd = some (whole.map utf8, .error peerClosed) ∧
    clientReport (.error peerClosed) = none := by
  refine ⟨?_, ?_, ?_, ?_, rfl⟩
  · exact recvAll_texts (fun text => by rw [printOrBinary, fromUtf8_utf8]) hlen n hrd
  · exact recvAll_texts (fun text => by rw [takeText, fromUtf8_utf8]) hlen n hrd
  · exact recvAll_texts (fun text => by rw [takeText, fromUtf8_utf8]) hlen n hrd
  · exact recvAll_texts (fun _ => rfl) hlen n hrd

/-- Two texts, in pieces that do not respect them, the second of them cut. -/
def cutTexts : Chunks UInt8 where
  pieces := [[0, 0], [0, 2, 104], [105, 0, 0, 0, 2], [33]]
  nonempty := by decide

theorem client_shows_messages_cut :
    loopRecv .closed cutTexts = some ([.print "hi"], .ok ()) ∧
    appUninstallTask (fun _ => "") .closed cutTexts =
      some ([.println "hi"], .error peerClosed) := by
  have h := client_shows_messages (fun _ => "") ["hi", "!?"] 11 cutTexts (by decide) (by decide)
  exact ⟨h.1, h.2.2.1⟩

end Hdc
