import SecurePipe.Arduino.Esp32Frame
import SecurePipe.Arduino.SensorNode
import SecurePipe.Simulator
import SecurePipe.Transport.Tcp

/-!
# SecurePipe.Arduino.EndToEnd

**The senders and the gateway agree.** Five encoders and decoders in three code bases
meet here: the raw frame of the sensor node and its readers on the ESP32, the frames
of the ESP32 and of the simulator and their readers on the gateway. Every reading comes
out as it went in (`senders_and_gateway_agree`), whatever the values.

Both senders produce the bytes of one `WireHeader` and a sealed `SensorPayload`, so the
gateway's side is proved once (`gatewayReads_sealed`).
-/

namespace SecurePipe

open Rust BigEndian

/-- The gateway, holding `key`, reads these fields and this payload from the bytes: they
parse, the payload decrypts under the rebuilt header, and the plaintext parses. -/
def GatewayReads (ring : Ring) (key : SessionKey) (raw : Bytes) (deviceId sequenceNr : UInt32)
    (timestamp : UInt64) (nonce : Nonce) (p : SensorPayload) : Prop :=
  ∃ frame plaintext, SecurePipeFrame.parse raw = .ok frame ∧
    frame.version = PROTOCOL_VERSION ∧ frame.deviceId = deviceId ∧
    frame.sequenceNr = sequenceNr ∧ frame.timestamp = timestamp ∧ frame.nonce = nonce ∧
    decryptPayload ring key frame.nonce frame.headerAsAad
      (frame.encryptedPayload ++ frame.authTag.toList) = .ok plaintext ∧
    SensorPayload.parse plaintext = .ok p

section GatewaySide

variable {ring : Ring} {aead : Aead AUTH_TAG_SIZE} (deviceId sequenceNr : UInt32)
  (timestamp : UInt64) (nonce : Nonce) (p : SensorPayload)

theorem sealed_length (aead : Aead AUTH_TAG_SIZE) (key nonce aad : Bytes) :
    (aead.sealed key nonce aad p.encode).length = PAYLOAD_SIZE + AUTH_TAG_SIZE := by
  rw [Aead.sealed, List.length_append, aead.length_encrypt, p.encode_length, toList_length]

/-- The gateway reads every header followed by its sealed payload. -/
theorem gatewayReads_sealed (hring : ring.Implements aead) (key : SessionKey) :
    GatewayReads ring key
      ((WireHeader.v1 deviceId sequenceNr timestamp nonce 8).bytes ++
        aead.sealed key.bytes.toList nonce.toList
          (WireHeader.v1 deviceId sequenceNr timestamp nonce 8).bytes p.encode)
      deviceId sequenceNr timestamp nonce p := by
  generalize hheader : WireHeader.v1 deviceId sequenceNr timestamp nonce 8 = h
  have hmagic : h.magic.toList = MAGIC := by rw [← hheader]; rfl
  have hlen : (aead.encrypt key.bytes.toList nonce.toList h.bytes p.encode).1.length =
      h.payloadLen.toNat := by
    rw [aead.length_encrypt, p.encode_length, ← hheader]
    rfl
  have hparse := SecurePipeFrame.parse_complete
    (aead.encrypt key.bytes.toList nonce.toList h.bytes p.encode).2 [] hmagic
    (by rw [← hheader]; rfl) (by rw [← hlen, aead.length_encrypt, p.encode_length]; decide) hlen
  have haad := SecurePipeFrame.header_toFrame
    (aead.encrypt key.bytes.toList nonce.toList h.bytes p.encode).2 hmagic hlen
  refine ⟨_, p.encode, by rw [Aead.sealed, ← hparse, List.append_nil], ?_, ?_, ?_, ?_, ?_, ?_,
    p.parse_encode⟩
  · rw [← hheader]; rfl
  · rw [← hheader]; rfl
  · rw [← hheader]; rfl
  · rw [← hheader]; rfl
  · rw [← hheader]; rfl
  · rw [SecurePipeFrame.headerAsAad_eq, haad]
    have hnonce : (h.toFrame (aead.encrypt key.bytes.toList nonce.toList h.bytes p.encode).1
        (aead.encrypt key.bytes.toList nonce.toList h.bytes p.encode).2).nonce = nonce := by
      rw [← hheader]
      rfl
    rw [hnonce]
    exact decryptPayload_sealed hring key nonce h.bytes (by rw [p.encode_length]; decide)

end GatewaySide

/-! ### The simulator -/

/-- The temperature reading that the simulator sends. -/
def Simulator.payload (tempRaw : Int32) : SensorPayload :=
  { sensorType := SENSOR_TEMPERATURE, valueRaw := tempRaw, unit := UNIT_CELSIUS }

/-- What the simulator's `build_frame` returns: the header, and the sealed payload. -/
theorem Simulator.buildFrame_eq {ring : Ring} {aead : Aead AUTH_TAG_SIZE}
    (hring : ring.Implements aead) (key : SessionKey) (deviceId sequenceNr : UInt32)
    (tempRaw : Int32) (timestamp : UInt64) :
    Simulator.buildFrame ring key deviceId sequenceNr tempRaw (.unix timestamp) =
      .ok ((WireHeader.v1 deviceId sequenceNr timestamp
          (nonceOf deviceId sequenceNr timestamp) 8).bytes ++
        aead.sealed key.bytes.toList (nonceOf deviceId sequenceNr timestamp).toList
          (WireHeader.v1 deviceId sequenceNr timestamp
            (nonceOf deviceId sequenceNr timestamp) 8).bytes (payload tempRaw).encode) := by
  have hlen : (payload tempRaw).encode.length ≤ 2 ^ 36 - 32 := by
    rw [SensorPayload.encode_length]
    decide
  have hpayloadLen : UInt32.ofNat (payload tempRaw).encode.length = 8 := by
    rw [SensorPayload.encode_length]
    rfl
  have hseal := encryptPayload_sealed hring key (nonceOf deviceId sequenceNr timestamp)
    (WireHeader.v1 deviceId sequenceNr timestamp
      (nonceOf deviceId sequenceNr timestamp) 8).bytes hlen
  have hheader : MAGIC ++ [PROTOCOL_VERSION] ++ (u32ToBytes deviceId).toList
      ++ (u32ToBytes sequenceNr).toList ++ (u64ToBytes timestamp).toList
      ++ (u32ToBytes (UInt32.ofNat (payload tempRaw).encode.length)).toList
      ++ (nonceOf deviceId sequenceNr timestamp).toList =
        (WireHeader.v1 deviceId sequenceNr timestamp
          (nonceOf deviceId sequenceNr timestamp) 8).bytes := by
    rw [hpayloadLen]
    rfl
  have hbody : [SENSOR_TEMPERATURE] ++ (i32ToBytes tempRaw).toList ++ [UNIT_CELSIUS] =
      (payload tempRaw).body := rfl
  have hencode : (payload tempRaw).body ++ (u16ToBytes (crc16 (payload tempRaw).body)).toList =
      (payload tempRaw).encode := rfl
  unfold Simulator.buildFrame
  rw [SystemTime.asSecs, Outcome.ok_bind]
  dsimp only
  rw [hbody, hencode, hheader, hseal]
  rfl

/-! ### End to end -/

/-- **The senders and the gateway agree.** With one cipher behind both libraries: (a) what
the sensor node sends passes the ESP32's validation and is read back; (b) what the ESP32
makes of a reading, and (c) what the simulator makes of a temperature, is accepted by the
gateway with the same header fields, decrypts, and is read back. -/
theorem senders_and_gateway_agree {ring : Ring} {mbedtls : Esp32.MbedTls}
    {aead : Aead AUTH_TAG_SIZE} (hring : ring.Implements aead)
    (hmbedtls : mbedtls.Implements aead) :
    (∀ p : SensorPayload, ∃ raw,
      SensorNode.sendFrame p.sensorType p.valueRaw p.unit = some raw ∧ raw.length = 10 ∧
        Esp32.validateRawFrame raw = some true ∧ Esp32.readRawFrame raw = some p) ∧
    (∀ (deviceId sequenceNr : UInt32) (p : SensorPayload) (nonce : Nonce) (timestamp : UInt64),
      ∃ raw, Esp32.buildFrame mbedtls deviceId sequenceNr p.sensorType p.valueRaw p.unit nonce
          timestamp = some raw ∧ raw.length = 59 ∧
        GatewayReads ring .devTestKey raw deviceId sequenceNr timestamp nonce p) ∧
    (∀ (key : SessionKey) (deviceId sequenceNr : UInt32) (tempRaw : Int32) (timestamp : UInt64),
      ∃ raw, Simulator.buildFrame ring key deviceId sequenceNr tempRaw (.unix timestamp) =
          .ok raw ∧ raw.length = 59 ∧
        GatewayReads ring key raw deviceId sequenceNr timestamp
          (Simulator.nonceOf deviceId sequenceNr timestamp)
          { sensorType := SENSOR_TEMPERATURE, valueRaw := tempRaw, unit := UNIT_CELSIUS }) := by
  refine ⟨?_, ?_, ?_⟩
  · intro p
    obtain ⟨hvalid, hread⟩ := Esp32.raw_frame_eq p _ (u16OfBytes_toBytes _)
    refine ⟨_, SensorNode.sendFrame_eq p, ?_, hvalid, hread⟩
    simp [p.body_length]
  · intro deviceId sequenceNr p nonce timestamp
    refine ⟨_, Esp32.buildFrame_eq hmbedtls deviceId sequenceNr p nonce timestamp, ?_,
      gatewayReads_sealed deviceId sequenceNr timestamp nonce p hring .devTestKey⟩
    rw [List.length_append, WireHeader.bytes_length, sealed_length]
    rfl
  · intro key deviceId sequenceNr tempRaw timestamp
    refine ⟨_, Simulator.buildFrame_eq hring key deviceId sequenceNr tempRaw timestamp, ?_,
      gatewayReads_sealed deviceId sequenceNr timestamp _ (Simulator.payload tempRaw) hring key⟩
    rw [List.length_append, WireHeader.bytes_length, sealed_length]
    rfl

/-- A cipher that treats the temperature frame as AES-256-GCM does. -/
def temperatureAead : Aead AUTH_TAG_SIZE :=
  (Aead.clear (List.Vector.replicate AUTH_TAG_SIZE 0)).override
    SessionKey.devTestKey.bytes.toList temperatureFrame.nonce.toList temperatureFrame.headerAsAad
    (SensorPayload.encode ⟨SENSOR_TEMPERATURE, 2137, UNIT_CELSIUS⟩)
    temperatureFrame.encryptedPayload temperatureFrame.authTag
    (by rw [SensorPayload.encode_length]; rfl)
    (fun _ _ _ _ =>
      (by decide : List.Vector.replicate AUTH_TAG_SIZE 0 ≠ temperatureFrame.authTag))

/-- The temperature frame, from the ESP32 to the gateway. -/
theorem senders_and_gateway_agree_temperature :
    ∃ raw, Esp32.buildFrame (.ofAead temperatureAead) 1 1 SENSOR_TEMPERATURE 2137 UNIT_CELSIUS
        temperatureFrame.nonce 1700000000 = some raw ∧ raw.length = 59 ∧
      GatewayReads (.ofAead temperatureAead) .devTestKey raw 1 1 1700000000 temperatureFrame.nonce
        ⟨SENSOR_TEMPERATURE, 2137, UNIT_CELSIUS⟩ :=
  (senders_and_gateway_agree (Ring.ofAead_implements temperatureAead)
    (Esp32.MbedTls.ofAead_implements temperatureAead)).2.1 1 1
    ⟨SENSOR_TEMPERATURE, 2137, UNIT_CELSIUS⟩ temperatureFrame.nonce 1700000000

end SecurePipe
