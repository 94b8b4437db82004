import SecurePipe.Lib.BigEndian
import SecurePipe.Error
import SecurePipe.Protocol.Crc

/-!
# SecurePipe.Protocol.Frame

The wire format (`src/protocol/frame.rs`): the constants, the parsed frame with
its parser and the header re-encoder that feeds the authenticated data, and the
decrypted sensor payload with its own parser.

`SecurePipeFrame.parse` and `SensorPayload.parse` are transcribed statement by
statement, with every slice, `try_into().unwrap()`, `copy_from_slice` and
`usize` sum as the operation of `SecurePipe.Lib.Rust` that may panic. What they
compute is stated, once and for all inputs, in `SecurePipe.Protocol.FrameCodec`.
-/

namespace SecurePipe

open Rust BigEndian

/-! ### Constants -/

/-- "SP" in ASCII. -/
def MAGIC : Bytes := [0x53, 0x50]
def PROTOCOL_VERSION : UInt8 := 0x01

def NONCE_SIZE : Nat := 12
def AUTH_TAG_SIZE : Nat := 16
def HEADER_SIZE : Nat := 35
def MIN_FRAME_SIZE : Nat := HEADER_SIZE + AUTH_TAG_SIZE
def PAYLOAD_SIZE : Nat := 8
def MAX_PAYLOAD_SIZE : Nat := 512

def SENSOR_TEMPERATURE : UInt8 := 0x01
def SENSOR_HUMIDITY : UInt8 := 0x02
def SENSOR_PRESSURE : UInt8 := 0x03
def SENSOR_DISTANCE : UInt8 := 0x04
def SENSOR_PROXIMITY : UInt8 := 0x06

def UNIT_CELSIUS : UInt8 := 0x01
def UNIT_PERCENT : UInt8 := 0x02
def UNIT_HPA : UInt8 := 0x03
def UNIT_CM : UInt8 := 0x04

def MAX_FRAME_AGE_SECS : UInt64 := 30
def NONCE_CACHE_SIZE : Nat := 64

/-- `[u8; NONCE_SIZE]`. -/
abbrev Nonce := U8Array NONCE_SIZE

/-- `[u8; AUTH_TAG_SIZE]`. -/
abbrev AuthTag := U8Array AUTH_TAG_SIZE

/-! ### The frame -/

/-- A parsed, not yet decrypted frame. -/
structure SecurePipeFrame where
  version : UInt8
  deviceId : UInt32
  sequenceNr : UInt32
  timestamp : UInt64
  nonce : Nonce
  encryptedPayload : Bytes
  authTag : AuthTag
  deriving DecidableEq

namespace SecurePipeFrame

/-- `SecurePipeFrame::parse`. -/
def parse (raw : Bytes) : Result SecurePipeFrame := do
  if raw.length < MIN_FRAME_SIZE then
    .err (.frameTooShort MIN_FRAME_SIZE raw.length)
  else
  -- Check magic bytes first
  if (← slice raw 0 2) ≠ MAGIC then .err .invalidMagic else
  let version ← index raw 2
  if version ≠ PROTOCOL_VERSION then .err (.unsupportedVersion version) else
  let deviceId ← readU32 raw 3 7
  let sequenceNr ← readU32 raw 7 11
  let timestamp ← readU64 raw 11 19
  let payloadLen ← readU32 raw 19 23
  let payloadLen := payloadLen.toNat
  if payloadLen > MAX_PAYLOAD_SIZE then
    .err (.payloadTooLarge MAX_PAYLOAD_SIZE payloadLen)
  else
  let expectedTotal ← usizeAdd (← usizeAdd HEADER_SIZE payloadLen) AUTH_TAG_SIZE
  if raw.length < expectedTotal then
    .err (.frameTooShort expectedTotal raw.length)
  else
  let nonce ← copyFromSlice NONCE_SIZE (← slice raw 23 35)
  let encryptedPayload ← slice raw 35 (35 + payloadLen)
  let authTag ← copyFromSlice AUTH_TAG_SIZE
    (← slice raw (35 + payloadLen) (35 + payloadLen + AUTH_TAG_SIZE))
  return { version, deviceId, sequenceNr, timestamp, nonce, encryptedPayload, authTag }

/-- `total_len`: the byte length of the frame on the wire. -/
def totalLen (f : SecurePipeFrame) : Nat :=
  HEADER_SIZE + f.encryptedPayload.length + AUTH_TAG_SIZE

/-- `header_as_aad`: the header bytes, rebuilt from the parsed fields. The payload
length goes through the truncating cast `as u32`. -/
def headerAsAad (f : SecurePipeFrame) : Bytes :=
  MAGIC ++ [f.version] ++ (u32ToBytes f.deviceId).toList ++ (u32ToBytes f.sequenceNr).toList
    ++ (u64ToBytes f.timestamp).toList
    ++ (u32ToBytes (UInt32.ofNat f.encryptedPayload.length)).toList ++ f.nonce.toList

end SecurePipeFrame

/-! ### The sensor payload -/

/-- Decrypted, parsed sensor data. -/
structure SensorPayload where
  sensorType : UInt8
  valueRaw : Int32
  unit : UInt8
  deriving Repr, DecidableEq

namespace SensorPayload

/-- `value_f32`. -/
def valueF32 (p : SensorPayload) : Float32 := p.valueRaw.toFloat32 / 100.0

/-- `sensor_type_str`. -/
def sensorTypeStr (p : SensorPayload) : String :=
  if p.sensorType = SENSOR_TEMPERATURE then "temperature"
  else if p.sensorType = SENSOR_HUMIDITY then "humidity"
  else if p.sensorType = SENSOR_PRESSURE then "pressure"
  else if p.sensorType = SENSOR_DISTANCE then "distance"
  else if p.sensorType = SENSOR_PROXIMITY then "proximity"
  else "unknown"

/-- `unit_str`. -/
def unitStr (p : SensorPayload) : String :=
  if p.unit = UNIT_CELSIUS then "°C"
  else if p.unit = UNIT_PERCENT then "%"
  else if p.unit = UNIT_HPA then "hPa"
  else if p.unit = UNIT_CM then "cm"
  else "?"

/-- `SensorPayload::parse`: reads the first eight bytes and checks their CRC. -/
def parse (raw : Bytes) : Result SensorPayload := do
  if raw.length < PAYLOAD_SIZE then
    .err (.frameTooShort PAYLOAD_SIZE raw.length)
  else
  let sensorType ← index raw 0
  let valueRaw ← readI32 raw 1 5
  let unit ← index raw 5
  let receivedCrc ← readU16 raw 6 8
  let computedCrc := crc16 (← slice raw 0 6)
  if receivedCrc ≠ computedCrc then .err .authTagInvalid else
  return { sensorType, valueRaw, unit }

end SensorPayload

end SecurePipe
