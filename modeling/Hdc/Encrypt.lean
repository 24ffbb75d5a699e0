import Hdc.Aead
import Hdc.Bytes
import Hdc.RustStd

/- The PSK cipher of the TCP channel (`hdc-protocol/src/encrypt.rs`). AES-128-GCM
   is a `Crypto.Aead`, of which the module uses only what the crate documents.

   A frame is the sender's 64-bit counter followed by the ciphertext, and the
   counter is the nonce. `decrypt` takes whatever counter a frame carries:
   `recv_counter` is written and never read. So the receiver accepts every frame
   of its peer, in any order and any number of times (`receive_frames`), and
   `accepted_increasing_iff` says that it is the delivery, not the receiver, that
   decides whether the accepted counters increase. -/
namespace Hdc
open Rust Wire Crypto

/-- A fixed-size array `[u8; n]`. -/
abbrev ByteArrayOf (n : Nat) := { bytes : List UInt8 // bytes.length = n }

def keyLen : Nat := 16
def nonceLen : Nat := 12
def tagLen : Nat := 16

/-- AES-128-GCM, which refuses plaintexts of more than 2^36 bytes. -/
abbrev Aes128Gcm := Aead (ByteArrayOf keyLen) (ByteArrayOf nonceLen) tagLen (2^36)

abbrev Psk := ByteArrayOf 32

structure PskCipher where
  sendKey : ByteArrayOf keyLen
  recvKey : ByteArrayOf keyLen
  sendCounter : UInt64
  recvCounter : UInt64
  deriving DecidableEq

/-- The two halves of a PSK. -/
def Psk.firstHalf (psk : Psk) : ByteArrayOf keyLen :=
  ⟨psk.1.take keyLen, by simp [psk.2, keyLen]⟩

def Psk.secondHalf (psk : Psk) : ByteArrayOf keyLen :=
  ⟨(psk.1.drop keyLen).take keyLen, by simp [psk.2, keyLen]⟩

def PskCipher.new (psk : Psk) (isHost : Bool) : PskCipher where
  sendKey := if isHost then psk.firstHalf else psk.secondHalf
  recvKey := if isHost then psk.secondHalf else psk.firstHalf
  sendCounter := 0
  recvCounter := 0

def counterToNonce (counter : UInt64) : ByteArrayOf nonceLen :=
  ⟨List.replicate 4 0 ++ be 8 counter.toNat, by simp [nonceLen]⟩

/-- The counter a frame carries. -/
def frameCounter (data : List UInt8) : UInt64 := UInt64.ofNat (ofBe (data.take 8))

namespace PskCipher
variable (aes : Aes128Gcm)

def encrypt (cipher : PskCipher) (plaintext : List UInt8) : IoResult (List UInt8 × PskCipher) :=
  match aes.encrypt cipher.sendKey (counterToNonce cipher.sendCounter) plaintext with
  | none => .error ⟨.other, "AES-GCM encrypt: Error"⟩
  | some ciphertext =>
    .ok (be 8 cipher.sendCounter.toNat ++ ciphertext,
      { cipher with sendCounter := cipher.sendCounter + 1 })

def decrypt (cipher : PskCipher) (data : List UInt8) : IoResult (List UInt8 × PskCipher) :=
  if data.length < 8 + tagLen then invalidData "encrypted frame too short"
  else
    let counter := frameCounter data
    match aes.decrypt cipher.recvKey (counterToNonce counter) (data.drop 8) with
    | none => invalidData "AES-GCM decrypt: Error"
    | some plaintext => .ok (plaintext, { cipher with recvCounter := counter + 1 })

/-! One frame. -/

theorem frameCounter_be (counter : UInt64) (rest : List UInt8) :
    frameCounter (be 8 counter.toNat ++ rest) = counter := by
  have htake : (be 8 counter.toNat ++ rest).take 8 = be 8 counter.toNat :=
    List.take_left' (be_length 8 _)
  rw [frameCounter, htake, ofBe_be (w := 8) counter.toNat_lt, UInt64.ofNat_toNat]

/-- What a successful encryption returns. -/
theorem encrypt_eq_ok {aes : Aes128Gcm} {cipher cipher' : PskCipher} {plaintext frame : List UInt8}
    (h : cipher.encrypt aes plaintext = .ok (frame, cipher')) :
    ∃ ciphertext, aes.encrypt cipher.sendKey (counterToNonce cipher.sendCounter) plaintext =
        some ciphertext ∧
      frame = be 8 cipher.sendCounter.toNat ++ ciphertext ∧
      cipher' = { cipher with sendCounter := cipher.sendCounter + 1 } := by
  unfold encrypt at h
  split at h
  · cases h
  · rename_i ciphertext henc
    cases h
    exact ⟨ciphertext, henc, rfl, rfl⟩

/-- Every plaintext within the limit of the cipher is encrypted. -/
theorem exists_encrypt (aes : Aes128Gcm) (cipher : PskCipher) (plaintext : List UInt8)
    (h : plaintext.length ≤ 2^36) :
    ∃ ciphertext, ciphertext.length = plaintext.length + tagLen ∧
      cipher.encrypt aes plaintext = .ok (be 8 cipher.sendCounter.toNat ++ ciphertext,
        { cipher with sendCounter := cipher.sendCounter + 1 }) := by
  obtain ⟨ciphertext, henc⟩ := aes.exists_encrypt (k := cipher.sendKey)
    (n := counterToNonce cipher.sendCounter) h
  exact ⟨ciphertext, aes.encrypt_length henc, by simp only [encrypt, henc]⟩

/-- A ciphertext under the receiving key is decrypted behind any counter, whatever
the cipher's own counters are. -/
theorem decrypt_ciphertext {aes : Aes128Gcm} {receiver : PskCipher} {counter : UInt64}
    {plaintext ciphertext : List UInt8}
    (h : aes.encrypt receiver.recvKey (counterToNonce counter) plaintext = some ciphertext) :
    receiver.decrypt aes (be 8 counter.toNat ++ ciphertext) =
      .ok (plaintext, { receiver with recvCounter := counter + 1 }) := by
  have hlen := aes.encrypt_length h
  have hdrop : (be 8 counter.toNat ++ ciphertext).drop 8 = ciphertext :=
    List.drop_left' (be_length 8 _)
  have hdec := aes.decrypt_of_encrypt h
  rw [decrypt, if_neg (by simp; omega)]
  simp only [frameCounter_be, hdrop, hdec]

/-- A frame is decrypted by every cipher that holds the sender's key. -/
theorem decrypt_encrypt {aes : Aes128Gcm} {sender sender' receiver : PskCipher}
    (hkey : receiver.recvKey = sender.sendKey) {plaintext frame : List UInt8}
    (h : sender.encrypt aes plaintext = .ok (frame, sender')) :
    receiver.decrypt aes frame =
      .ok (plaintext, { receiver with recvCounter := sender.sendCounter + 1 }) := by
  obtain ⟨ciphertext, henc, rfl, -⟩ := encrypt_eq_ok h
  rw [← hkey] at henc
  exact decrypt_ciphertext henc

end PskCipher

/-! Runs of frames. -/

section
variable (aes : Aes128Gcm)

/-- The frames of successive `encrypt`s. -/
def encryptAll : PskCipher → List (List UInt8) → IoResult (List (List UInt8))
  | _, [] => .ok []
  | cipher, plaintext :: rest => do
    let (frame, cipher) ← cipher.encrypt aes plaintext
    let frames ← encryptAll cipher rest
    return frame :: frames

/-- Successive `decrypt`s: the counter and the plaintext of each frame that is
accepted. -/
def receive : PskCipher → List (List UInt8) → List (UInt64 × List UInt8)
  | _, [] => []
  | cipher, data :: rest =>
    match cipher.decrypt aes data with
    | .ok (plaintext, cipher) => (frameCounter data, plaintext) :: receive cipher rest
    | .error _ => receive cipher rest

end

/-- Frame `i` of a run carries the counter `i` steps after the first and is
accepted by every cipher that holds the key. -/
theorem encryptAll_get {aes : Aes128Gcm} : ∀ {sender : PskCipher} {plaintexts frames : List (List UInt8)},
    encryptAll aes sender plaintexts = .ok frames → ∀ i : Fin frames.length,
    frameCounter (frames.get i) = sender.sendCounter + UInt64.ofNat i.val ∧
    ∀ receiver : PskCipher, receiver.recvKey = sender.sendKey →
      ∃ plaintext receiver', receiver.decrypt aes (frames.get i) = .ok (plaintext, receiver') ∧
        receiver'.recvKey = sender.sendKey
  | sender, [], frames, h, i => by
    cases h
    exact i.elim0
  | sender, plaintext :: rest, frames, h, i => by
    obtain ⟨⟨frame, sender'⟩, henc, h⟩ := bind_eq_ok.mp h
    obtain ⟨frames', hrest, h⟩ := bind_eq_ok.mp h
    cases h
    obtain ⟨ciphertext, -, hframe, hsender⟩ := PskCipher.encrypt_eq_ok henc
    refine Fin.cases ⟨?_, fun receiver hkey => ?_⟩ (fun j => ?_) i
    · show frameCounter frame = _
      rw [hframe, PskCipher.frameCounter_be]
      simp
    · exact ⟨plaintext, _, PskCipher.decrypt_encrypt hkey henc, hkey⟩
    · have ih := encryptAll_get hrest j
      rw [hsender] at ih
      refine ⟨?_, ih.2⟩
      show frameCounter (frames'.get j) = _
      rw [ih.1]
      simp only [Fin.val_succ, UInt64.ofNat_add, UInt64.add_assoc]
      congr 1
      exact UInt64.add_comm _ _

/-- A receiver with the sender's key accepts every delivered frame of its peer,
in the order of delivery. -/
theorem receive_frames {aes : Aes128Gcm} {sender : PskCipher} {plaintexts frames : List (List UInt8)}
    (h : encryptAll aes sender plaintexts = .ok frames) (delivery : List (Fin frames.length))
    (receiver : PskCipher) (hkey : receiver.recvKey = sender.sendKey) :
    (receive aes receiver (delivery.map frames.get)).map Prod.fst =
      delivery.map fun i => sender.sendCounter + UInt64.ofNat i.val := by
  induction delivery generalizing receiver with
  | nil => rfl
  | cons i delivery ih =>
    obtain ⟨hcounter, hdec⟩ := encryptAll_get h i
    obtain ⟨plaintext, receiver', hok, hkey'⟩ := hdec receiver hkey
    simp only [List.map_cons, receive, hok, hcounter, ih receiver' hkey']

/-- The peer of a cipher holds its sending key as receiving key. -/
theorem PskCipher.new_recvKey (psk : Psk) (isHost : Bool) :
    (PskCipher.new psk !isHost).recvKey = (PskCipher.new psk isHost).sendKey := by
  cases isHost <;> rfl

/-- Whatever frames of its peer are delivered to a receiver, the counters of the
frames it accepts increase strictly exactly when those of the delivered frames
do. Frame `i` of a sender has counter `i`, modulo 2^64. -/
theorem accepted_increasing_iff (aes : Aes128Gcm) (psk : Psk) (isHost : Bool)
    (plaintexts frames : List (List UInt8))
    (h : encryptAll aes (PskCipher.new psk isHost) plaintexts = .ok frames)
    (delivery : List (Fin frames.length)) :
    ((receive aes (PskCipher.new psk !isHost) (delivery.map frames.get)).map Prod.fst).Pairwise
      (· < ·) ↔ (delivery.map fun i => UInt64.ofNat i.val).Pairwise (· < ·) := by
  have hrun := receive_frames h delivery _ (PskCipher.new_recvKey psk isHost)
  have hzero : (PskCipher.new psk isHost).sendCounter = 0 := rfl
  simp only [hrun, hzero, UInt64.zero_add]

/-- A cipher for the examples: the tag is the sum of the key's and the nonce's
bytes. -/
def exampleAes : Aes128Gcm := Aead.tagging fun key nonce => (key.1 ++ nonce.1).foldl (· + ·) 0

def examplePsk : Psk := ⟨List.replicate 16 1 ++ List.replicate 16 2, by decide⟩

/-- Two frames of the host, with plaintexts `[10]` and `[11]`. -/
def exampleFrames : List (List UInt8) :=
  [be 8 0 ++ 10 :: List.replicate 16 16, be 8 1 ++ 11 :: List.replicate 16 17]

theorem accepted_increasing_iff_in_order :
    encryptAll exampleAes (PskCipher.new examplePsk true) [[10], [11]] = .ok exampleFrames ∧
    (((receive exampleAes (PskCipher.new examplePsk !true)
        ([⟨0, by decide⟩, ⟨1, by decide⟩].map exampleFrames.get)).map Prod.fst).Pairwise (· < ·) ↔
      ([(0 : UInt64), 1]).Pairwise (· < ·)) :=
  ⟨by decide, accepted_increasing_iff exampleAes examplePsk true [[10], [11]] exampleFrames
    (by decide) [⟨0, by decide⟩, ⟨1, by decide⟩]⟩

/-- The first frame of a sender, delivered twice, is accepted twice. -/
theorem replayed_frame_accepted :
    encryptAll exampleAes (PskCipher.new examplePsk true) [[10], [11]] = .ok exampleFrames ∧
    receive exampleAes (PskCipher.new examplePsk false)
      ([⟨0, by decide⟩, ⟨0, by decide⟩].map exampleFrames.get) = [(0, [10]), (0, [10])] ∧
    ¬ ((receive exampleAes (PskCipher.new examplePsk false)
      ([⟨0, by decide⟩, ⟨0, by decide⟩].map exampleFrames.get)).map Prod.fst).Pairwise (· < ·) := by
  refine ⟨by decide, by decide, by decide⟩

end Hdc
