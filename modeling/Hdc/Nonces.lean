import Hdc.Encrypt
import Mathlib.Logic.Function.Basic

/- The nonces of the two ciphers of a session (`PskCipher` in `hdc-protocol/src/encrypt.rs`).

   A cipher builds its nonce from `send_counter`, and moves the counter on after each ciphertext.
   The two endpoints send under different halves of the PSK. `CipherPair.Fresh` is what follows for
   any interleaving of calls, as long as no counter wraps around: whatever an endpoint has produced
   was made with a counter it has since passed. `nonces_never_reused` reads off that no nonce comes
   twice under one key. -/
namespace Hdc
open Rust Wire Crypto

/-! The calls. -/

/-- A ciphertext that was produced: what the cipher was called with, and the frame it is in. -/
structure Sealed where
  key : ByteArrayOf keyLen
  nonce : ByteArrayOf nonceLen
  plaintext : List UInt8
  frame : List UInt8
  deriving DecidableEq

/-- The ciphers of the two endpoints, that of the host at `true`, and all they have produced. -/
structure CipherPair where
  cipher : Bool → PskCipher
  produced : List Sealed

def CipherPair.init (psk : Psk) : CipherPair := ⟨PskCipher.new psk, []⟩

inductive CipherCall where
  | encrypt (isHost : Bool) (plaintext : List UInt8)
  | decrypt (isHost : Bool) (data : List UInt8)
  deriving DecidableEq, Repr

def CipherCall.encryptsAt (isHost : Bool) : CipherCall → Bool
  | .encrypt endpoint _ => endpoint == isHost
  | .decrypt .. => false

/-- A call at one of the endpoints. One that fails leaves its cipher as it is. -/
def CipherPair.call (aes : Aes128Gcm) (s : CipherPair) : CipherCall → CipherPair
  | .encrypt isHost plaintext =>
    let cipher := s.cipher isHost
    match cipher.encrypt aes plaintext with
    | .ok (frame, cipher') => {
        cipher := Function.update s.cipher isHost cipher'
        produced := s.produced ++
          [⟨cipher.sendKey, counterToNonce cipher.sendCounter, plaintext, frame⟩] }
    | .error _ => s
  | .decrypt isHost data =>
    match (s.cipher isHost).decrypt aes data with
    | .ok (_, cipher') => { s with cipher := Function.update s.cipher isHost cipher' }
    | .error _ => s

/-! One ciphertext. -/

theorem counterToNonce_injective {a b : UInt64} (h : counterToNonce a = counterToNonce b) : a = b := by
  have hbytes : be 8 a.toNat = be 8 b.toNat := List.append_cancel_left (congrArg Subtype.val h)
  have hnat := congrArg ofBe hbytes
  rw [ofBe_be (w := 8) a.toNat_lt, ofBe_be (w := 8) b.toNat_lt] at hnat
  exact UInt64.toNat_inj.mp hnat

theorem PskCipher.decrypt_eq_ok {aes : Aes128Gcm} {cipher cipher' : PskCipher}
    {data plaintext : List UInt8} (h : cipher.decrypt aes data = .ok (plaintext, cipher')) :
    cipher'.sendKey = cipher.sendKey ∧ cipher'.sendCounter = cipher.sendCounter := by
  unfold decrypt at h
  split at h
  · cases h
  · simp only at h
    split at h <;> cases h
    exact ⟨rfl, rfl⟩

theorem PskCipher.sendKey_ne {psk : Psk} (hpsk : psk.firstHalf ≠ psk.secondHalf) {a b : Bool}
    (hab : a ≠ b) : (PskCipher.new psk a).sendKey ≠ (PskCipher.new psk b).sendKey := by
  cases a <;> cases b
  · exact absurd rfl hab
  · exact hpsk.symm
  · exact hpsk
  · exact absurd rfl hab

/-- The ciphertext was made at the endpoint, with this counter. -/
structure Sealed.MadeAt (aes : Aes128Gcm) (psk : Psk) (e : Sealed) (isHost : Bool) (counter : UInt64) :
    Prop where
  key_eq : e.key = (PskCipher.new psk isHost).sendKey
  nonce_eq : e.nonce = counterToNonce counter
  counter_eq : e.frame.take 8 = be 8 counter.toNat
  ciphertext_eq : aes.encrypt e.key e.nonce e.plaintext = some (e.frame.drop 8)

/-! Runs of calls. -/

/-- The nonces are fresh, after at most so many calls of `encrypt` at each endpoint. -/
structure CipherPair.Fresh (aes : Aes128Gcm) (psk : Psk) (s : CipherPair) (calls : Bool → Nat) :
    Prop where
  sendKey_eq : ∀ isHost, (s.cipher isHost).sendKey = (PskCipher.new psk isHost).sendKey
  counter_le : ∀ isHost, (s.cipher isHost).sendCounter.toNat ≤ calls isHost
  made : ∀ e ∈ s.produced, ∃ isHost counter, e.MadeAt aes psk isHost counter ∧
    counter.toNat < (s.cipher isHost).sendCounter.toNat
  distinct : s.produced.Pairwise fun a b => (a.key, a.nonce) ≠ (b.key, b.nonce)

namespace CipherPair.Fresh
variable {aes : Aes128Gcm} {psk : Psk} {s : CipherPair} {calls calls' : Bool → Nat}

theorem init (aes : Aes128Gcm) (psk : Psk) : (CipherPair.init psk).Fresh aes psk fun _ => 0 where
  sendKey_eq _ := rfl
  counter_le _ := Nat.le_refl 0
  made e he := by cases he
  distinct := .nil

/-- A call that leaves the sending halves of the ciphers alone. -/
theorem of_same (h : s.Fresh aes psk calls) {cipher : Bool → PskCipher}
    (hcipher : ∀ isHost, (cipher isHost).sendKey = (s.cipher isHost).sendKey ∧
      (cipher isHost).sendCounter = (s.cipher isHost).sendCounter)
    (hcalls : ∀ isHost, calls isHost ≤ calls' isHost) :
    Fresh aes psk { s with cipher } calls' where
  sendKey_eq isHost := (hcipher isHost).1.trans (h.sendKey_eq isHost)
  counter_le isHost := by
    show (cipher isHost).sendCounter.toNat ≤ calls' isHost
    rw [(hcipher isHost).2]
    exact Nat.le_trans (h.counter_le isHost) (hcalls isHost)
  made e he := by
    obtain ⟨isHost, counter, hmade, hlt⟩ := h.made e he
    refine ⟨isHost, counter, hmade, ?_⟩
    show counter.toNat < (cipher isHost).sendCounter.toNat
    rw [(hcipher isHost).2]
    exact hlt
  distinct := h.distinct

/-- A new ciphertext takes the counter that is next, and moves it on. -/
theorem encrypt (h : s.Fresh aes psk calls) (hpsk : psk.firstHalf ≠ psk.secondHalf) {isHost : Bool}
    {plaintext frame : List UInt8} {cipher' : PskCipher}
    (henc : (s.cipher isHost).encrypt aes plaintext = .ok (frame, cipher'))
    (hcalls : ∀ side, calls side + (if isHost = side then 1 else 0) ≤ calls' side)
    (hlt : calls' isHost < 2^64) :
    Fresh aes psk {
      cipher := Function.update s.cipher isHost cipher'
      produced := s.produced ++ [⟨(s.cipher isHost).sendKey,
        counterToNonce (s.cipher isHost).sendCounter, plaintext, frame⟩] } calls' := by
  obtain ⟨ciphertext, haes, rfl, hcipher'⟩ := PskCipher.encrypt_eq_ok henc
  have hkeys (side : Bool) : (Function.update s.cipher isHost cipher' side).sendKey =
      (s.cipher side).sendKey := by
    by_cases hside : side = isHost
    · rw [hside, Function.update_self, hcipher']
    · rw [Function.update_of_ne hside]
  -- the counter does not wrap around
  have hcounters (side : Bool) : (Function.update s.cipher isHost cipher' side).sendCounter.toNat =
      (s.cipher side).sendCounter.toNat + if isHost = side then 1 else 0 := by
    by_cases hside : side = isHost
    · have hle := h.counter_le isHost
      have hcall := hcalls isHost
      rw [if_pos rfl] at hcall
      rw [hside, Function.update_self, hcipher', if_pos rfl, UInt64.toNat_add]
      exact Nat.mod_eq_of_lt (show _ + 1 < 2^64 by omega)
    · rw [Function.update_of_ne hside, if_neg (Ne.symm hside), Nat.add_zero]
  constructor
  · intro side
    exact (hkeys side).trans (h.sendKey_eq side)
  · intro side
    have hle := h.counter_le side
    have hcall := hcalls side
    have hcounter := hcounters side
    dsimp only
    omega
  · intro e he
    rcases List.mem_append.mp he with he | he
    · obtain ⟨side, counter, hmade, hcounter⟩ := h.made e he
      refine ⟨side, counter, hmade, Nat.lt_of_lt_of_le hcounter ?_⟩
      rw [hcounters]
      exact Nat.le_add_right _ _
    · rw [List.mem_singleton.mp he]
      refine ⟨isHost, (s.cipher isHost).sendCounter, ⟨h.sendKey_eq isHost, rfl, ?_, ?_⟩, ?_⟩
      · exact List.take_left' (be_length 8 _)
      · rw [List.drop_left' (be_length 8 _)]
        exact haes
      · rw [hcounters, if_pos rfl]
        exact Nat.lt_succ_self _
  · refine List.pairwise_append.mpr ⟨h.distinct, List.pairwise_singleton _ _, ?_⟩
    intro e he e' he' heq
    rw [List.mem_singleton.mp he'] at heq
    obtain ⟨hkey, hnonce⟩ := Prod.mk.inj heq
    obtain ⟨side, counter, hmade, hcounter⟩ := h.made e he
    by_cases hside : side = isHost
    · -- the same endpoint, at an earlier counter
      rw [counterToNonce_injective (hmade.nonce_eq.symm.trans hnonce), hside] at hcounter
      exact Nat.lt_irrefl _ hcounter
    · exact PskCipher.sendKey_ne hpsk hside (hmade.key_eq.symm.trans (hkey.trans (h.sendKey_eq isHost)))

theorem call (h : s.Fresh aes psk calls) (hpsk : psk.firstHalf ≠ psk.secondHalf) (c : CipherCall)
    (hcalls : ∀ side, calls side + (if c.encryptsAt side then 1 else 0) ≤ calls' side)
    (hlt : ∀ side, calls' side < 2^64) : (s.call aes c).Fresh aes psk calls' := by
  have hle (side : Bool) : calls side ≤ calls' side := Nat.le_trans (Nat.le_add_right _ _) (hcalls side)
  cases c with
  | encrypt isHost plaintext =>
    rw [CipherPair.call]
    split
    · rename_i frame cipher' henc
      refine h.encrypt hpsk henc (fun side => ?_) (hlt isHost)
      have := hcalls side
      simpa [CipherCall.encryptsAt] using this
    · exact h.of_same (fun _ => ⟨rfl, rfl⟩) hle
  | decrypt isHost data =>
    rw [CipherPair.call]
    split
    · rename_i plaintext cipher' hdec
      refine h.of_same (fun side => ?_) hle
      by_cases hside : side = isHost
      · subst hside
        rw [Function.update_self]
        exact PskCipher.decrypt_eq_ok hdec
      · rw [Function.update_of_ne hside]
        exact ⟨rfl, rfl⟩
    · exact h.of_same (fun _ => ⟨rfl, rfl⟩) hle

theorem calls_of_run (hpsk : psk.firstHalf ≠ psk.secondHalf) (run : List CipherCall)
    (h : s.Fresh aes psk calls)
    (hlt : ∀ side, calls side + run.countP (CipherCall.encryptsAt side) < 2^64) :
    (run.foldl (CipherPair.call aes) s).Fresh aes psk
      fun side => calls side + run.countP (CipherCall.encryptsAt side) := by
  induction run generalizing s calls with
  | nil => exact h
  | cons c run ih =>
    have hcount (side : Bool) : (c :: run).countP (CipherCall.encryptsAt side) =
        (if c.encryptsAt side then 1 else 0) + run.countP (CipherCall.encryptsAt side) := by
      rw [List.countP_cons, Nat.add_comm]
    simp only [hcount, ← Nat.add_assoc] at hlt ⊢
    exact ih (h.call hpsk c (fun _ => Nat.le_refl _) fun side =>
      Nat.lt_of_le_of_lt (Nat.le_add_right _ _) (hlt side)) hlt

end CipherPair.Fresh

/-- In every interleaving of calls at the two endpoints, with fewer than 2^64 of `encrypt` at
each, no two ciphertexts were produced with the same key and nonce, and every frame starts with the
counter its nonce was built from. -/
theorem nonces_never_reused (aes : Aes128Gcm) (psk : Psk) (hpsk : psk.firstHalf ≠ psk.secondHalf)
    (run : List CipherCall) (hcalls : ∀ isHost, run.countP (CipherCall.encryptsAt isHost) < 2^64) :
    let s := run.foldl (CipherPair.call aes) (.init psk)
    (s.produced.Pairwise fun a b => (a.key, a.nonce) ≠ (b.key, b.nonce)) ∧
    ∀ e ∈ s.produced, aes.encrypt e.key e.nonce e.plaintext = some (e.frame.drop 8) ∧
      ∃ counter : UInt64, e.frame.take 8 = be 8 counter.toNat ∧ e.nonce = counterToNonce counter := by
  have hfresh := CipherPair.Fresh.calls_of_run hpsk run (.init aes psk)
    fun side => by rw [Nat.zero_add]; exact hcalls side
  refine ⟨hfresh.distinct, fun e he => ?_⟩
  obtain ⟨isHost, counter, hmade, -⟩ := hfresh.made e he
  exact ⟨hmade.ciphertext_eq, counter, hmade.counter_eq, hmade.nonce_eq⟩

/-- Two frames of the host around one of the daemon, which the host reads. -/
def exampleCalls : List CipherCall :=
  [.encrypt true [10], .encrypt false [12], .decrypt true (be 8 0 ++ 12 :: List.replicate 16 32),
    .encrypt true [11]]

theorem nonces_never_reused_example :
    (exampleCalls.foldl (CipherPair.call exampleAes) (.init examplePsk)).produced.length = 3 ∧
    (exampleCalls.foldl (CipherPair.call exampleAes) (.init examplePsk)).produced.Pairwise
      fun a b => (a.key, a.nonce) ≠ (b.key, b.nonce) :=
  ⟨by decide, (nonces_never_reused exampleAes examplePsk (by decide) exampleCalls (by decide)).1⟩

end Hdc
