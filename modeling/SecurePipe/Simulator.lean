import SecurePipe.Crypto.AesGcm
import SecurePipe.Protocol.FrameCodec
import SecurePipe.Protocol.Replay

/-!
# SecurePipe.Simulator

The simulator (`src/simulator.rs`): the frame that it builds, and the loop of its `main`.
-/

namespace SecurePipe

open Rust BigEndian

namespace Simulator

/-- The simulator's nonce: the sequence number, the low half of the timestamp, the device. -/
def nonceOf (deviceId sequenceNr : UInt32) (timestamp : UInt64) : Nonce :=
  ⟨(u32ToBytes sequenceNr).toList ++ (u64ToBytes timestamp).toList.drop 4
    ++ (u32ToBytes deviceId).toList, by simp [NONCE_SIZE]⟩

/-- `build_frame`, given what the clock reads. -/
def buildFrame (ring : Ring) (key : SessionKey) (deviceId sequenceNr : UInt32) (tempRaw : Int32)
    (now : SystemTime) : Result Bytes := do
  let timestamp ← now.asSecs
  let nonce := nonceOf deviceId sequenceNr timestamp
  -- Build sensor payload
  let payload := [SENSOR_TEMPERATURE] ++ (i32ToBytes tempRaw).toList ++ [UNIT_CELSIUS]
  let crc := crc16 payload
  let payload := payload ++ (u16ToBytes crc).toList
  -- Build header (for AAD computation)
  let payloadLen := UInt32.ofNat payload.length
  let header := MAGIC ++ [PROTOCOL_VERSION] ++ (u32ToBytes deviceId).toList
    ++ (u32ToBytes sequenceNr).toList ++ (u64ToBytes timestamp).toList
    ++ (u32ToBytes payloadLen).toList ++ nonce.toList
  match encryptPayload ring key nonce header payload with
  | .ok encrypted => return header ++ encrypted
  | .err _ => .panic .unwrapErr
  | .panic p => .panic p

/-! ### The loop of `main` -/

def DEVICE_ID : UInt32 := 0x00000001

/-- The variables of `main`, and what it has written to the gateway. -/
structure Session where
  sequenceNr : UInt32
  firstFrame : Option Bytes
  written : List Bytes

/-- `main` before its loop. -/
def Session.start : Session := { sequenceNr := 0, firstFrame := none, written := [] }

/-- `stream.write_all(bytes)`, on a connection that stays open. -/
def writeAll (bytes : Bytes) : Stateful Session SecurePipeError Unit :=
  .modify fun session => { session with written := session.written ++ [bytes] }

/-- 20.00 + small variation. -/
def tempRawOf (sequenceNr : UInt32) : Int32 := 2000 + sequenceNr.toInt32 % 10 * 37

/-- One turn of the loop, given what the clock reads. -/
def turn (ring : Ring) (replayMode : Bool) (now : SystemTime) :
    Stateful Session SecurePipeError Unit := do
  let session ← .get
  let sequenceNr ← .lift (u32Add session.sequenceNr 1)
  .modify fun session => { session with sequenceNr }
  let tempRaw := tempRawOf sequenceNr
  let frameBytes ← .lift (buildFrame ring .devTestKey DEVICE_ID sequenceNr tempRaw now)
  if sequenceNr = 1 then
    .modify fun session => { session with firstFrame := some frameBytes }
  writeAll frameBytes
  -- After frame 5, send the replay attack
  if replayMode && sequenceNr = 5 then
    match (← .get).firstFrame with
    | some replay => writeAll replay
    | none => .lift (.panic .unwrapErr)

end Simulator

end SecurePipe
