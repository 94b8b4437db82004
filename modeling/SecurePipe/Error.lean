import SecurePipe.Lib.Rust

/-!
# SecurePipe.Error

The gateway's error type (`src/error.rs`) and the texts its `Display` renders.
The texts reach the dashboard through the `detail` of security events, so they
are kept word for word.
-/

namespace SecurePipe

open Rust

/-- The `std::io::ErrorKind`s that `read_exact` can end with, as far as the
gateway tells them apart. -/
inductive IoErrorKind
  | unexpectedEof
  /-- Any other kind, with the message the platform gives it. -/
  | other (message : String)
  deriving Repr, DecidableEq

/-- `SecurePipeError`. -/
inductive SecurePipeError
  | invalidMagic
  | unsupportedVersion (version : UInt8)
  | frameTooShort (expected got : Nat)
  | payloadTooLarge (max got : Nat)
  | deviceNotAllowed (deviceId : UInt32)
  | authTagInvalid
  | decryptionFailed
  | keyDerivationFailed
  | replaySequence (sequenceNr : UInt32)
  | replayNonce
  | frameStale (seconds : UInt64)
  | frameFuture (seconds : UInt64)
  | handshakeFailed (reason : String)
  | unknownDevice (deviceId : UInt32)
  | connectionClosed
  | io (kind : IoErrorKind)
  deriving Repr, DecidableEq

/-- `{:08X}`: upper-case hexadecimal, padded to eight digits. -/
def upperHex8 (n : UInt32) : String :=
  let digits := (Nat.toDigits 16 n.toNat).map Char.toUpper
  String.ofList (List.replicate (8 - digits.length) '0' ++ digits)

namespace SecurePipeError

/-- `Display for SecurePipeError`, as `#[error(..)]` derives it. -/
def toString : SecurePipeError → String
  | invalidMagic => "Invalid magic bytes - not a SecurePipe frame"
  | unsupportedVersion version =>
      "Unsupported protocol version: " ++ version.toNat.repr
  | frameTooShort expected got =>
      "Frame too short: expected " ++ expected.repr ++ " bytes, got " ++ got.repr
  | payloadTooLarge max got =>
      "Declared payload length " ++ got.repr ++ " exceeds maximum of " ++ max.repr
        ++ " bytes - frame rejected before allocation"
  | deviceNotAllowed deviceId =>
      "Device " ++ upperHex8 deviceId ++ " is not on the allowed-devices list - frame rejected"
  | authTagInvalid => "Authentication tag verification failed - frame tampered or wrong key"
  | decryptionFailed => "Decryption failed"
  | keyDerivationFailed => "Key derivation failed"
  | replaySequence sequenceNr =>
      "Replay detected: sequence number " ++ sequenceNr.toNat.repr ++ " already seen"
  | replayNonce => "Replay detected: nonce already seen"
  | frameStale seconds =>
      "Frame too old: timestamp " ++ seconds.toNat.repr ++ " seconds in the past"
  | frameFuture seconds =>
      "Frame from the future: timestamp " ++ seconds.toNat.repr ++ " seconds ahead"
  | handshakeFailed reason => "Handshake failed: " ++ reason
  | unknownDevice deviceId => "Unknown device ID: " ++ deviceId.toNat.repr
  | connectionClosed => "Connection closed by peer"
  | io .unexpectedEof => "IO error: early eof"
  | io (.other message) => "IO error: " ++ message

end SecurePipeError

/-- The crate's `Result<T>`. -/
abbrev Result (α : Type) := Outcome SecurePipeError α

end SecurePipe
