import Mathlib.Data.List.Basic

/- Authenticated encryption as its users may rely on it, with no program
   attached: an encryption and a decryption function under a key and a nonce, of
   which the first never fails on short enough input and the second returns what
   was encrypted. `Aead.tagging` is an instance, in which nothing is secret but a
   byte string is refused under any other key or nonce whose tag differs. -/
namespace Crypto

/-- An authenticated cipher on byte strings of at most `maxLen` bytes that adds
`tagLen` bytes. -/
structure Aead (Key Nonce : Type) (tagLen maxLen : Nat) where
  encrypt : Key → Nonce → List UInt8 → Option (List UInt8)
  decrypt : Key → Nonce → List UInt8 → Option (List UInt8)
  decrypt_of_encrypt : ∀ {k n p c}, encrypt k n p = some c → decrypt k n c = some p
  encrypt_length : ∀ {k n p c}, encrypt k n p = some c → c.length = p.length + tagLen
  exists_encrypt : ∀ {k n p}, p.length ≤ maxLen → ∃ c, encrypt k n p = some c

namespace Aead
variable {Key Nonce : Type} {maxLen : Nat}

/-- Encrypting by appending a tag that depends on the key and the nonce. -/
def tagging (tag : Key → Nonce → UInt8) : Aead Key Nonce 16 maxLen where
  encrypt k n p := some (p ++ List.replicate 16 (tag k n))
  decrypt k n c :=
    if List.replicate 16 (tag k n) <:+ c then some (c.take (c.length - 16)) else none
  decrypt_of_encrypt := by
    intro k n p c h
    cases h
    rw [if_pos (List.suffix_append p _)]
    simp
  encrypt_length := by
    intro k n p c h
    cases h
    simp
  exists_encrypt := fun _ => ⟨_, rfl⟩

end Aead

end Crypto
