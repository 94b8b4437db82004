import SecurePipe.Lib.Aead
import SecurePipe.Protocol.Frame

/-!
# SecurePipe.Crypto.AesGcm

The gateway's use of AES-256-GCM (`src/crypto/aes_gcm.rs`). The `ring` crate is a
parameter: `Ring` lists the three calls the code makes, with what they return.
-/

namespace SecurePipe

open Rust

/-- `SessionKey`. -/
structure SessionKey where
  bytes : U8Array 32
  deriving DecidableEq

/-- `SessionKey::dev_test_key`. -/
def SessionKey.devTestKey : SessionKey where
  bytes := ⟨[0x01, 0x02, 0x03, 0x04, 0x05, 0x06, 0x07, 0x08,
    0x09, 0x0A, 0x0B, 0x0C, 0x0D, 0x0E, 0x0F, 0x10,
    0x11, 0x12, 0x13, 0x14, 0x15, 0x16, 0x17, 0x18,
    0x19, 0x1A, 0x1B, 0x1C, 0x1D, 0x1E, 0x1F, 0x20], rfl⟩

/-- `ring::aead::NONCE_LEN`. -/
def NONCE_LEN : Nat := 12

/-- The calls into `ring::aead`, at the algorithm `AES_256_GCM`. `none` is
`ring::error::Unspecified`. -/
structure Ring where
  /-- `UnboundKey::new` accepts the key bytes. -/
  unboundKey : Bytes → Bool
  /-- `open_in_place` on a buffer: the buffer afterwards, and the length of the
  plaintext slice at its start. -/
  openInPlace (key : Bytes) (nonce : U8Array NONCE_LEN) (aad inOut : Bytes) : Option (Bytes × Nat)
  /-- `seal_in_place_append_tag` on a buffer: the buffer afterwards. -/
  sealInPlaceAppendTag (key : Bytes) (nonce : U8Array NONCE_LEN) (aad inOut : Bytes) :
    Option Bytes

/-- `ring` computes this cipher. AES-GCM takes plaintexts and ciphertexts of up to 2³⁶ - 32
bytes. -/
structure Ring.Implements (ring : Ring) (aead : Aead AUTH_TAG_SIZE) : Prop where
  unboundKey (key : U8Array 32) : ring.unboundKey key.toList = true
  openInPlace {key : U8Array 32} {nonce : U8Array NONCE_LEN} {aad ciphertext : Bytes}
    {tag : AuthTag} {plaintext : Bytes} (hlen : ciphertext.length ≤ 2 ^ 36 - 32)
    (h : aead.decrypt key.toList nonce.toList aad ciphertext tag = some plaintext) :
    ∃ rest, ring.openInPlace key.toList nonce aad (ciphertext ++ tag.toList) =
      some (plaintext ++ rest, plaintext.length)
  sealInPlaceAppendTag (key : U8Array 32) (nonce : U8Array NONCE_LEN) (aad plaintext : Bytes)
    (h : plaintext.length ≤ 2 ^ 36 - 32) :
    ring.sealInPlaceAppendTag key.toList nonce aad plaintext =
      some (aead.sealed key.toList nonce.toList aad plaintext)

/-- The library made of a cipher. -/
def Ring.ofAead (aead : Aead AUTH_TAG_SIZE) : Ring where
  unboundKey key := key.length = 32
  openInPlace key nonce aad inOut :=
    if h : (inOut.drop (inOut.length - AUTH_TAG_SIZE)).length = AUTH_TAG_SIZE then
      (aead.decrypt key nonce.toList aad (inOut.take (inOut.length - AUTH_TAG_SIZE))
        ⟨inOut.drop (inOut.length - AUTH_TAG_SIZE), h⟩).map fun plaintext =>
          (plaintext ++ inOut.drop plaintext.length, plaintext.length)
    else none
  sealInPlaceAppendTag key nonce aad inOut := some (aead.sealed key nonce.toList aad inOut)

theorem Ring.ofAead_implements (aead : Aead AUTH_TAG_SIZE) : (Ring.ofAead aead).Implements aead where
  unboundKey key := decide_eq_true (toList_length key)
  openInPlace {key nonce aad ciphertext tag plaintext} _ h := by
    have hcut : (ciphertext ++ tag.toList).length - AUTH_TAG_SIZE = ciphertext.length := by
      rw [List.length_append, toList_length, Nat.add_sub_cancel]
    have htake : (ciphertext ++ tag.toList).take ciphertext.length = ciphertext := List.take_left
    have hdrop : (ciphertext ++ tag.toList).drop ciphertext.length = tag.toList := List.drop_left
    refine ⟨(ciphertext ++ tag.toList).drop plaintext.length, ?_⟩
    unfold ofAead
    simp only [hcut, htake, hdrop, toList_length, dif_pos]
    rw [show (⟨tag.toList, toList_length tag⟩ : AuthTag) = tag from rfl, h]
    rfl
  sealInPlaceAppendTag _ _ _ _ _ := rfl

/-- One message sealed with AES-256-GCM. -/
structure Sealed where
  key : SessionKey
  nonce : Nonce
  aad : Bytes
  plaintext : Bytes
  ciphertextWithTag : Bytes

/-- The library as a table of sealed messages: it opens these and no others. -/
def Ring.ofTable (table : List Sealed) : Ring where
  unboundKey key := key.length = 32
  openInPlace key nonce aad inOut :=
    (table.find? fun m => decide (m.key.bytes.toList = key ∧ m.nonce.toList = nonce.toList ∧ m.aad = aad ∧
      m.ciphertextWithTag = inOut)).map fun m =>
        (m.plaintext ++ inOut.drop m.plaintext.length, m.plaintext.length)
  sealInPlaceAppendTag key nonce aad inOut :=
    (table.find? fun m => decide (m.key.bytes.toList = key ∧ m.nonce.toList = nonce.toList ∧ m.aad = aad ∧
      m.plaintext = inOut)).map (·.ciphertextWithTag)

variable (ring : Ring)

/-- `decrypt_payload`. -/
def decryptPayload (key : SessionKey) (nonce : Nonce) (aad encryptedPayloadWithTag : Bytes) :
    Result Bytes := do
  if !ring.unboundKey key.bytes.toList then .err .decryptionFailed else
  let nonceBytes ← copyFromSlice NONCE_LEN nonce.toList
  let inOut := encryptedPayloadWithTag
  match ring.openInPlace key.bytes.toList nonceBytes aad inOut with
  | none => .err .authTagInvalid
  | some (inOut, plaintextLen) => return inOut.take plaintextLen

/-- `encrypt_payload`. -/
def encryptPayload (key : SessionKey) (nonce : Nonce) (aad plaintext : Bytes) :
    Result Bytes := do
  if !ring.unboundKey key.bytes.toList then .err .decryptionFailed else
  let nonceBytes ← copyFromSlice NONCE_LEN nonce.toList
  let inOut := plaintext
  match ring.sealInPlaceAppendTag key.bytes.toList nonceBytes aad inOut with
  | none => .err .decryptionFailed
  | some inOut => return inOut

/-- The copy of the nonce never fails: the two lengths are the same number. -/
theorem copyNonce (nonce : Nonce) : (copyFromSlice NONCE_LEN nonce.toList : Result Nonce) = .ok nonce :=
  copyFromSlice_eq (toList_length nonce)

theorem decryptPayload_eq (key : SessionKey) (nonce : Nonce) (aad payload : Bytes)
    (hkey : ring.unboundKey key.bytes.toList = true) :
    decryptPayload ring key nonce aad payload =
      match ring.openInPlace key.bytes.toList nonce aad payload with
      | none => .err .authTagInvalid
      | some (inOut, plaintextLen) => .ok (inOut.take plaintextLen) := by
  unfold decryptPayload
  rw [hkey]
  exact congrArg (· >>= _) (copyNonce nonce)

/-- Decryption never panics. -/
theorem decryptPayload_cases (key : SessionKey) (nonce : Nonce) (aad payload : Bytes) :
    (∃ e, decryptPayload ring key nonce aad payload = .err e) ∨
      ∃ plaintext, decryptPayload ring key nonce aad payload = .ok plaintext := by
  cases hkey : ring.unboundKey key.bytes.toList with
  | false => exact .inl ⟨_, by unfold decryptPayload; rw [hkey]; rfl⟩
  | true =>
      rw [decryptPayload_eq ring key nonce aad payload hkey]
      cases ring.openInPlace key.bytes.toList nonce aad payload with
      | none => exact .inl ⟨_, rfl⟩
      | some opened => exact .inr ⟨_, rfl⟩

/-- What the cipher sealed, `decrypt_payload` opens. -/
theorem decryptPayload_sealed {ring : Ring} {aead : Aead AUTH_TAG_SIZE}
    (hring : ring.Implements aead) (key : SessionKey) (nonce : Nonce) (aad : Bytes)
    {plaintext : Bytes} (hlen : plaintext.length ≤ 2 ^ 36 - 32) :
    decryptPayload ring key nonce aad (aead.sealed key.bytes.toList nonce.toList aad plaintext) =
      .ok plaintext := by
  have hciphertext :
      (aead.encrypt key.bytes.toList nonce.toList aad plaintext).1.length ≤ 2 ^ 36 - 32 := by
    rwa [aead.length_encrypt]
  obtain ⟨rest, hopen⟩ :=
    hring.openInPlace hciphertext (aead.decrypt_encrypt key.bytes.toList nonce.toList aad plaintext)
  rw [decryptPayload_eq ring key nonce aad _ (hring.unboundKey key.bytes), Aead.sealed, hopen]
  exact congrArg Outcome.ok List.take_left

theorem encryptPayload_eq (key : SessionKey) (nonce : Nonce) (aad plaintext : Bytes)
    (hkey : ring.unboundKey key.bytes.toList = true) :
    encryptPayload ring key nonce aad plaintext =
      match ring.sealInPlaceAppendTag key.bytes.toList nonce aad plaintext with
      | none => .err .decryptionFailed
      | some inOut => .ok inOut := by
  unfold encryptPayload
  rw [hkey]
  exact congrArg (· >>= _) (copyNonce nonce)

/-- `encrypt_payload` seals with the cipher. -/
theorem encryptPayload_sealed {ring : Ring} {aead : Aead AUTH_TAG_SIZE}
    (hring : ring.Implements aead) (key : SessionKey) (nonce : Nonce) (aad : Bytes)
    {plaintext : Bytes} (hlen : plaintext.length ≤ 2 ^ 36 - 32) :
    encryptPayload ring key nonce aad plaintext =
      .ok (aead.sealed key.bytes.toList nonce.toList aad plaintext) := by
  rw [encryptPayload_eq ring key nonce aad plaintext (hring.unboundKey key.bytes),
    hring.sealInPlaceAppendTag key.bytes nonce aad plaintext hlen]
  rfl

end SecurePipe
