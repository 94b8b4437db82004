import SecurePipe.Lib.Rust

/-!
# SecurePipe.Lib.Aead

Authenticated encryption with associated data, as a pair of functions on byte strings:
what two implementations of one cipher have in common. Only correctness is required of
it: a ciphertext is as long as its plaintext, and decryption undoes encryption.
-/

open Rust

/-- A cipher with tags of `tagLen` bytes. -/
structure Aead (tagLen : Nat) where
  encrypt (key nonce aad plaintext : Bytes) : Bytes × U8Array tagLen
  decrypt (key nonce aad ciphertext : Bytes) (tag : U8Array tagLen) : Option Bytes
  length_encrypt : ∀ key nonce aad plaintext,
    (encrypt key nonce aad plaintext).1.length = plaintext.length
  decrypt_encrypt : ∀ key nonce aad plaintext,
    decrypt key nonce aad (encrypt key nonce aad plaintext).1 (encrypt key nonce aad plaintext).2 =
      some plaintext

namespace Aead

variable {tagLen : Nat}

/-- The ciphertext with the tag appended. -/
def sealed (aead : Aead tagLen) (key nonce aad plaintext : Bytes) : Bytes :=
  (aead.encrypt key nonce aad plaintext).1 ++ (aead.encrypt key nonce aad plaintext).2.toList

/-- The cipher that sends everything in the clear, under one tag that says nothing. -/
def clear (tag : U8Array tagLen) : Aead tagLen where
  encrypt _ _ _ plaintext := (plaintext, tag)
  decrypt _ _ _ ciphertext tag' := if tag' = tag then some ciphertext else none
  length_encrypt _ _ _ _ := rfl
  decrypt_encrypt _ _ _ _ := if_pos rfl

/-- A cipher changed at one message, to the ciphertext and tag given for it. The tag must be
one that the cipher never uses. -/
def override (aead : Aead tagLen) (key nonce aad plaintext ciphertext : Bytes) (tag : U8Array tagLen)
    (hlen : ciphertext.length = plaintext.length)
    (htag : ∀ k n a p, (aead.encrypt k n a p).2 ≠ tag) : Aead tagLen where
  encrypt k n a p :=
    if k = key ∧ n = nonce ∧ a = aad ∧ p = plaintext then (ciphertext, tag)
    else aead.encrypt k n a p
  decrypt k n a c t :=
    if k = key ∧ n = nonce ∧ a = aad ∧ c = ciphertext ∧ t = tag then some plaintext
    else aead.decrypt k n a c t
  length_encrypt k n a p := by
    split
    case isTrue h => rw [h.2.2.2]; exact hlen
    case isFalse => exact aead.length_encrypt k n a p
  decrypt_encrypt k n a p := by
    by_cases h : k = key ∧ n = nonce ∧ a = aad ∧ p = plaintext
    · rw [if_pos h, if_pos ⟨h.1, h.2.1, h.2.2.1, rfl, rfl⟩, h.2.2.2]
    · rw [if_neg h, if_neg fun h' => htag _ _ _ _ h'.2.2.2.2]
      exact aead.decrypt_encrypt k n a p

end Aead
