import SecurePipe.Crypto.AesGcm
import SecurePipe.Protocol.FrameCodec
import SecurePipe.Protocol.Registry
import SecurePipe.Protocol.Replay

/-!
# SecurePipe.Transport.Tcp

The gateway's state and `process_frame` (`src/transport/tcp.rs`).

The two broadcast channels are the lists of what was sent on them, oldest first.
`processFrame` is cut where the source takes and releases the lock of the replay
guard: `authenticate` (steps 1 to 3) and `publish` (step 5) run without it,
`replayCheck` (step 4) runs under it. Each part returns `none` or `false` where the
source returns from `process_frame` early.
-/

namespace SecurePipe

open Rust

/-- `SensorReading`: what dashboard clients are sent. -/
structure SensorReading where
  deviceId : UInt32
  sensorType : String
  value : Float32
  unit : String
  sequenceNr : UInt32
  timestamp : UInt64

/-- `SecurityEvent`. -/
structure SecurityEvent where
  deviceId : Option UInt32
  eventType : String
  detail : String
  deriving DecidableEq

/-- `GatewayState`. -/
structure GatewayState where
  key : SessionKey
  readingsTx : List SensorReading
  eventsTx : List SecurityEvent
  replayGuard : ReplayGuard
  deviceRegistry : DeviceRegistry

/-- Code of the gateway. No function below returns an `Err` of its own: failures
become security events. -/
abbrev Gateway (α : Type) := Stateful GatewayState SecurePipeError α

/-- `emit_security_event`. -/
def emitSecurityEvent (deviceId : Option UInt32) (eventType detail : String) : Gateway Unit :=
  .modify fun state => { state with eventsTx := state.eventsTx ++ [{ deviceId, eventType, detail }] }

/-- `readings_tx.send`. -/
def sendReading (reading : SensorReading) : Gateway Unit :=
  .modify fun state => { state with readingsTx := state.readingsTx ++ [reading] }

variable (ring : Ring)

/-- `process_frame`, steps 1 to 3: parse, verify the tag, consult the whitelist. -/
def authenticate (raw : Bytes) : Gateway (Option (SecurePipeFrame × Bytes)) := do
  -- Step 1: Parse frame structure
  match ← .matchResult (.lift (SecurePipeFrame.parse raw)) with
  | .error e =>
      emitSecurityEvent none "parse_error" e.toString
      return none
  | .ok frame =>
  let deviceId := frame.deviceId
  -- Step 2: Verify auth tag FIRST
  let payloadWithTag := frame.encryptedPayload ++ frame.authTag.toList
  let aad := frame.headerAsAad
  let state ← .get
  match ← .matchResult (.lift (decryptPayload ring state.key frame.nonce aad payloadWithTag)) with
  | .error _ =>
      emitSecurityEvent (some deviceId) "auth_tag_invalid" "Frame rejected: authentication failed"
      return none
  | .ok plaintext =>
  -- Step 3: Device whitelist check
  if !state.deviceRegistry.isAllowed deviceId then
    emitSecurityEvent (some deviceId) "unknown_device"
      "Frame rejected: device_id not on whitelist"
    return none
  else
    return some (frame, plaintext)

/-- `process_frame`, step 4: the replay check, under the lock. -/
def replayCheck (now : SystemTime) (frame : SecurePipeFrame) : Gateway Bool := do
  match ← .matchResult (.zoom GatewayState.replayGuard
      (fun state replayGuard => { state with replayGuard })
      (ReplayGuard.check now frame.deviceId frame.sequenceNr frame.timestamp frame.nonce)) with
  | .error e =>
      emitSecurityEvent (some frame.deviceId) "replay_detected" e.toString
      return false
  | .ok () => return true

/-- The reading of a frame and its parsed payload. -/
def reading (frame : SecurePipeFrame) (sensor : SensorPayload) : SensorReading where
  deviceId := frame.deviceId
  sensorType := sensor.sensorTypeStr
  value := sensor.valueF32
  unit := sensor.unitStr
  sequenceNr := frame.sequenceNr
  timestamp := frame.timestamp

/-- `process_frame`, step 5: parse the sensor payload and broadcast the reading. -/
def publish (frame : SecurePipeFrame) (plaintext : Bytes) : Gateway Unit := do
  match ← .matchResult (.lift (SensorPayload.parse plaintext)) with
  | .error _ => return ()
  | .ok sensor => sendReading (reading frame sensor)

/-- `process_frame`, given what the clock reads. -/
def processFrame (now : SystemTime) (raw : Bytes) : Gateway Unit := do
  match ← authenticate ring raw with
  | none => return ()
  | some (frame, plaintext) =>
  if !(← replayCheck now frame) then return () else
  publish frame plaintext

/-! ### Two frames as a device would send them -/

/-- A gateway that has just started, with the development key and no whitelist. -/
def freshGateway : GatewayState where
  key := .devTestKey
  readingsTx := []
  eventsTx := []
  replayGuard := .new
  deviceRegistry := .open

/-- The sealed message that a frame carries under the development key. -/
def sealedIn (frame : SecurePipeFrame) (plaintext : Bytes) : Sealed where
  key := .devTestKey
  nonce := frame.nonce
  aad := frame.headerAsAad
  plaintext := plaintext
  ciphertextWithTag := frame.encryptedPayload ++ frame.authTag.toList

/-- A temperature of 21.37 degrees, encrypted under the development key. -/
def temperatureFrame : SecurePipeFrame where
  version := PROTOCOL_VERSION
  deviceId := 1
  sequenceNr := 1
  timestamp := 1700000000
  nonce := List.Vector.replicate NONCE_SIZE 0x01
  encryptedPayload := [0x26, 0xB9, 0xDE, 0x49, 0xCF, 0x35, 0xF8, 0x07]
  authTag := ⟨[0x1D, 0x6F, 0x0B, 0xC6, 0x5D, 0x3A, 0x8E, 0xC1,
    0x7B, 0x8C, 0x07, 0xE2, 0xC3, 0xC9, 0x38, 0xCF], rfl⟩

/-- The same header with an empty payload, encrypted under the development key. -/
def emptyFrame : SecurePipeFrame where
  version := PROTOCOL_VERSION
  deviceId := 1
  sequenceNr := 1
  timestamp := 1700000000
  nonce := List.Vector.replicate NONCE_SIZE 0x01
  encryptedPayload := []
  authTag := ⟨[0xF4, 0xD2, 0x04, 0x10, 0x45, 0x75, 0x49, 0xB8,
    0xA2, 0xD2, 0xFE, 0x0B, 0x63, 0x91, 0xC9, 0xE9], rfl⟩

/-- AES-256-GCM on the two frames. -/
def twoFrameRing : Ring := .ofTable
  [sealedIn temperatureFrame (SensorPayload.encode ⟨SENSOR_TEMPERATURE, 2137, UNIT_CELSIUS⟩),
   sealedIn emptyFrame []]

end SecurePipe
