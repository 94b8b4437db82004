import SecurePipe.Crypto.AesGcm
import SecurePipe.Lib.C
import SecurePipe.Protocol.FrameCodec

/-!
# SecurePipe.Arduino.Esp32Frame

How the ESP32 sender (`arduino/esp32_sender/esp32_sender.ino`) reads a raw frame of the
sensor node and builds the frame for the gateway. An `int` of the ESP32 has 32 bits:
narrower operands are promoted to it, and the result is cut back when stored.

mbedTLS is a parameter, as `ring` is for the gateway.
-/

namespace SecurePipe

open Rust BigEndian

namespace Esp32

def SP_MAGIC_0 : UInt8 := 0x53
def SP_MAGIC_1 : UInt8 := 0x50
def SP_VERSION : UInt8 := 0x01

def RAW_FRAME_START : UInt8 := 0xAA
def RAW_FRAME_END : UInt8 := 0x55
def RAW_FRAME_SIZE : Nat := 10

/-- `SESSION_KEY`. -/
def SESSION_KEY : Bytes :=
  [0x01, 0x02, 0x03, 0x04, 0x05, 0x06, 0x07, 0x08,
    0x09, 0x0A, 0x0B, 0x0C, 0x0D, 0x0E, 0x0F, 0x10,
    0x11, 0x12, 0x13, 0x14, 0x15, 0x16, 0x17, 0x18,
    0x19, 0x1A, 0x1B, 0x1C, 0x1D, 0x1E, 0x1F, 0x20]

/-- One turn of the inner loop of `crc16`, over a 32-bit `int`. -/
def crcBit (crc : UInt16) : UInt16 :=
  if C.ofU16 crc &&& 0x8000 ≠ 0 then C.toU16 ((C.ofU16 crc <<< 1) ^^^ 0x1021)
  else C.toU16 (C.ofU16 crc <<< 1)

/-- `crc16`. The outer loop counter is a `uint16_t`, the inner one a `uint8_t`. -/
def crc16 (data : Bytes) (length : UInt16) : Option UInt16 :=
  C.forLoop 16 length.toNat (fun i crc => do
    let byte ← data[i]?
    let crc := C.toU16 (C.ofU16 crc ^^^ (C.ofU16 byte.toUInt16 <<< 8))
    C.forLoop 8 8 (fun _ crc => some (crcBit crc)) crc) 0xFFFF

/-! ### The raw frame of the sensor node -/

/-- `validateRawFrame`. -/
def validateRawFrame (frame : Bytes) : Option Bool := do
  -- Check start and end bytes
  if (← frame[0]?) ≠ RAW_FRAME_START ∨ (← frame[9]?) ≠ RAW_FRAME_END then return false
  -- Verify CRC-16 over bytes 0..6
  let receivedCrc := C.toU16 ((C.ofU16 (← frame[7]?).toUInt16 <<< 8) ||| C.ofU8 (← frame[8]?))
  let computedCrc ← crc16 frame 7
  return receivedCrc = computedCrc

/-- The sensor readings that `processAndSend` takes out of a raw frame. -/
def readRawFrame (rawFrame : Bytes) : Option SensorPayload := do
  let sensorType ← rawFrame[1]?
  let valueRaw := (C.ofU8 (← rawFrame[2]?) <<< 24) ||| (C.ofU8 (← rawFrame[3]?) <<< 16)
    ||| (C.ofU8 (← rawFrame[4]?) <<< 8) ||| C.ofU8 (← rawFrame[5]?)
  let unit ← rawFrame[6]?
  return { sensorType, valueRaw, unit }

/-! ### The frame for the gateway -/

/-- `buildPayload`: the eight bytes it writes. -/
def buildPayload (sensorType : UInt8) (valueRaw : Int32) (unit : UInt8) : Option Bytes := do
  let out :=
    [sensorType,
      C.toU8 ((valueRaw >>> 24) &&& 0xFF), C.toU8 ((valueRaw >>> 16) &&& 0xFF),
      C.toU8 ((valueRaw >>> 8) &&& 0xFF), C.toU8 (valueRaw &&& 0xFF),
      unit]
  -- CRC-16 over first 6 bytes
  let crc ← crc16 out 6
  return out ++ [C.toU8 ((C.ofU16 crc >>> 8) &&& 0xFF), C.toU8 (C.ofU16 crc &&& 0xFF)]

/-- `buildHeader`: the 35 bytes it writes. The device id and the sequence number are
globals of the firmware. -/
def buildHeader (deviceId sequenceNr : UInt32) (timestamp : UInt64) (nonce : Nonce)
    (payloadLen : UInt32) : Bytes :=
  [SP_MAGIC_0, SP_MAGIC_1, SP_VERSION,
    -- Device ID (big-endian)
    ((deviceId >>> 24) &&& 0xFF).toUInt8, ((deviceId >>> 16) &&& 0xFF).toUInt8,
    ((deviceId >>> 8) &&& 0xFF).toUInt8, (deviceId &&& 0xFF).toUInt8,
    -- Sequence number (big-endian)
    ((sequenceNr >>> 24) &&& 0xFF).toUInt8, ((sequenceNr >>> 16) &&& 0xFF).toUInt8,
    ((sequenceNr >>> 8) &&& 0xFF).toUInt8, (sequenceNr &&& 0xFF).toUInt8,
    -- Timestamp (big-endian, 8 bytes)
    ((timestamp >>> 56) &&& 0xFF).toUInt8, ((timestamp >>> 48) &&& 0xFF).toUInt8,
    ((timestamp >>> 40) &&& 0xFF).toUInt8, ((timestamp >>> 32) &&& 0xFF).toUInt8,
    ((timestamp >>> 24) &&& 0xFF).toUInt8, ((timestamp >>> 16) &&& 0xFF).toUInt8,
    ((timestamp >>> 8) &&& 0xFF).toUInt8, (timestamp &&& 0xFF).toUInt8,
    -- Payload length (big-endian, 4 bytes)
    ((payloadLen >>> 24) &&& 0xFF).toUInt8, ((payloadLen >>> 16) &&& 0xFF).toUInt8,
    ((payloadLen >>> 8) &&& 0xFF).toUInt8, (payloadLen &&& 0xFF).toUInt8] ++
  -- Nonce (12 bytes)
  nonce.toList

/-- The calls into `mbedtls/gcm.h`, with what they return. -/
structure MbedTls where
  /-- `mbedtls_gcm_setkey`, for AES: the status. -/
  gcmSetkey (key : Bytes) (keyBits : Nat) : Int32
  /-- `mbedtls_gcm_crypt_and_tag`, encrypting: the status, the output and the tag. -/
  gcmCryptAndTag (key nonce aad input : Bytes) (tagLen : Nat) : Int32 × Bytes × Bytes

/-- mbedTLS computes this cipher, with 256-bit keys. -/
structure MbedTls.Implements (mbedtls : MbedTls) (aead : Aead AUTH_TAG_SIZE) : Prop where
  gcmSetkey (key : U8Array 32) : mbedtls.gcmSetkey key.toList 256 = 0
  gcmCryptAndTag (key : U8Array 32) (nonce : Nonce) (aad input : Bytes)
    (h : input.length ≤ 2 ^ 36 - 32) :
    mbedtls.gcmCryptAndTag key.toList nonce.toList aad input AUTH_TAG_SIZE =
      (0, (aead.encrypt key.toList nonce.toList aad input).1,
        (aead.encrypt key.toList nonce.toList aad input).2.toList)

/-- The library made of a cipher. Its error statuses are `MBEDTLS_ERR_GCM_BAD_INPUT`. -/
def MbedTls.ofAead (aead : Aead AUTH_TAG_SIZE) : MbedTls where
  gcmSetkey key keyBits := if key.length = 32 ∧ keyBits = 256 then 0 else -0x14
  gcmCryptAndTag key nonce aad input tagLen :=
    if tagLen = AUTH_TAG_SIZE then
      (0, (aead.encrypt key nonce aad input).1, (aead.encrypt key nonce aad input).2.toList)
    else (-0x14, [], [])

theorem MbedTls.ofAead_implements (aead : Aead AUTH_TAG_SIZE) :
    (MbedTls.ofAead aead).Implements aead where
  gcmSetkey key := if_pos ⟨toList_length key, rfl⟩
  gcmCryptAndTag _ _ _ _ _ := by simp [ofAead]

variable (mbedtls : MbedTls)

/-- `encryptPayload`: the ciphertext and the tag, unless it returns `false`. -/
def encryptPayload (plaintext aad nonce : Bytes) : Option (Bytes × Bytes) :=
  let ret := mbedtls.gcmSetkey SESSION_KEY 256
  if ret ≠ 0 then none
  else
    let (ret, ciphertext, tag) :=
      mbedtls.gcmCryptAndTag SESSION_KEY nonce aad plaintext AUTH_TAG_SIZE
    if ret = 0 then some (ciphertext, tag) else none

/-- The frame that `sendSecurePipeFrame` assembles and writes to the connection. -/
def securePipeFrame (header encPayload authTag : Bytes) : Bytes :=
  header.take HEADER_SIZE ++ encPayload.take PAYLOAD_SIZE ++ authTag.take AUTH_TAG_SIZE

/-- What `processAndSend` and `processAndSendDirect` make of a reading, once the nonce is
drawn and the clock read: the frame to send, unless the encryption fails. -/
def buildFrame (deviceId sequenceNr : UInt32) (sensorType : UInt8) (valueRaw : Int32)
    (unit : UInt8) (nonce : Nonce) (timestamp : UInt64) : Option Bytes := do
  let payload ← buildPayload sensorType valueRaw unit
  let header := buildHeader deviceId sequenceNr timestamp nonce (UInt32.ofNat PAYLOAD_SIZE)
  let (encryptedPayload, authTag) ← encryptPayload mbedtls payload header nonce.toList
  return securePipeFrame header encryptedPayload authTag

/-! ### What the functions compute -/

theorem crcBit_eq (crc : UInt16) : crcBit crc = SecurePipe.crcBit crc := by
  have htop : C.ofU16 crc &&& 0x8000 ≠ 0 ↔ crc &&& 0x8000 ≠ 0 := by
    rw [C.ofU16_and_0x8000]
    exact C.ofU16_injective.ne_iff' rfl
  unfold crcBit SecurePipe.crcBit
  by_cases hbit : crc &&& 0x8000 ≠ 0
  · rw [if_pos (htop.mpr hbit), if_pos hbit, C.toU16_shiftLeft_xor]
  · rw [if_neg (mt htop.mp hbit), if_neg hbit, C.toU16_shiftLeft]

/-- The ESP32's CRC is the gateway's, on buffers that a 16-bit length can describe. -/
theorem crc16_eq {data : Bytes} {length : UInt16} (h : length.toNat ≤ data.length) :
    crc16 data length = some (SecurePipe.crc16 (data.take length.toNat)) := by
  unfold crc16
  rw [C.forLoop_bytes length.toNat_lt h crcByte]
  · rfl
  intro i crc
  cases data[i]? with
  | none => rfl
  | some byte =>
      rw [Option.bind_eq_bind, Option.bind_some, C.forLoop_repeat (by decide), Option.map_some,
        crcByte, C.toU16_xor_shiftLeft, funext crcBit_eq]

/-- `buildPayload` encodes the payload as the gateway parses it. -/
theorem buildPayload_eq (p : SensorPayload) :
    buildPayload p.sensorType p.valueRaw p.unit = some p.encode := by
  have hbody : [p.sensorType,
      C.toU8 ((p.valueRaw >>> 24) &&& 0xFF), C.toU8 ((p.valueRaw >>> 16) &&& 0xFF),
      C.toU8 ((p.valueRaw >>> 8) &&& 0xFF), C.toU8 (p.valueRaw &&& 0xFF), p.unit] = p.body := by
    rw [SensorPayload.body, ← C.bytes_i32]
    simp only [List.cons_append, List.nil_append]
  have hlen : (6 : UInt16).toNat = p.body.length := by
    rw [p.body_length]
    rfl
  unfold buildPayload
  dsimp only
  rw [hbody, crc16_eq hlen.le, hlen, List.take_length]
  simp only [Option.bind_eq_bind, Option.bind_some, Option.pure_def, C.bytes_ofU16,
    SensorPayload.encode]

/-- `buildHeader` encodes the header as the gateway parses it. -/
theorem buildHeader_eq (deviceId sequenceNr : UInt32) (timestamp : UInt64) (nonce : Nonce)
    (payloadLen : UInt32) :
    buildHeader deviceId sequenceNr timestamp nonce payloadLen =
      (WireHeader.v1 deviceId sequenceNr timestamp nonce payloadLen).bytes := by
  have hmagic : List.Vector.toList (⟨MAGIC, rfl⟩ : U8Array 2) = [SP_MAGIC_0, SP_MAGIC_1] := rfl
  have hversion : PROTOCOL_VERSION = SP_VERSION := rfl
  unfold buildHeader WireHeader.bytes WireHeader.v1
  simp only [hmagic, hversion, ← C.bytes_u32, ← C.bytes_u64, List.cons_append, List.nil_append]

/-- What the ESP32 makes of a raw frame that has the shape `sendFrame` gives it: it passes
validation, and the same reading comes out. -/
theorem raw_frame_eq (p : SensorPayload) (crc : U8Array 2)
    (hcrc : u16OfBytes crc = SecurePipe.crc16 (RAW_FRAME_START :: p.body)) :
    validateRawFrame (RAW_FRAME_START :: p.body ++ crc.toList ++ [RAW_FRAME_END]) = some true ∧
      readRawFrame (RAW_FRAME_START :: p.body ++ crc.toList ++ [RAW_FRAME_END]) = some p := by
  obtain ⟨b₀, b₁, b₂, b₃, hvalue⟩ : ∃ b₀ b₁ b₂ b₃, (i32ToBytes p.valueRaw).toList = [b₀, b₁, b₂, b₃] :=
    ⟨_, _, _, _, (C.bytes_i32 p.valueRaw).symm⟩
  obtain ⟨c₀, c₁, hbytes⟩ : ∃ c₀ c₁, crc.toList = [c₀, c₁] :=
    List.length_eq_two.mp (toList_length crc)
  have hbody : p.body = [p.sensorType, b₀, b₁, b₂, b₃, p.unit] := by
    rw [SensorPayload.body, hvalue]
    rfl
  have hraw : RAW_FRAME_START :: p.body ++ crc.toList ++ [RAW_FRAME_END] =
      [RAW_FRAME_START, p.sensorType, b₀, b₁, b₂, b₃, p.unit, c₀, c₁, RAW_FRAME_END] := by
    rw [hbody, hbytes]
    rfl
  rw [hraw]
  rw [hbody] at hcrc
  refine ⟨?_, ?_⟩
  · have hcomputed : crc16
        [RAW_FRAME_START, p.sensorType, b₀, b₁, b₂, b₃, p.unit, c₀, c₁, RAW_FRAME_END] 7 =
          some (SecurePipe.crc16 [RAW_FRAME_START, p.sensorType, b₀, b₁, b₂, b₃, p.unit]) :=
      crc16_eq (by simp)
    simp [validateRawFrame, hcomputed, C.assemble_u16 crc hbytes, hcrc]
  · have hread : readRawFrame
        [RAW_FRAME_START, p.sensorType, b₀, b₁, b₂, b₃, p.unit, c₀, c₁, RAW_FRAME_END] =
          some ⟨p.sensorType, (C.ofU8 b₀ <<< 24) ||| (C.ofU8 b₁ <<< 16) ||| (C.ofU8 b₂ <<< 8) |||
            C.ofU8 b₃, p.unit⟩ := rfl
    rw [hread, C.assemble_i32 (i32ToBytes p.valueRaw) hvalue, i32OfBytes_toBytes]

/-- The ESP32's `SESSION_KEY` is the gateway's development key. -/
theorem SESSION_KEY_eq : SESSION_KEY = SessionKey.devTestKey.bytes.toList := rfl

theorem encryptPayload_eq {mbedtls : MbedTls} {aead : Aead AUTH_TAG_SIZE}
    (hmbedtls : mbedtls.Implements aead) {plaintext : Bytes} (aad : Bytes) (nonce : Nonce)
    (h : plaintext.length ≤ 2 ^ 36 - 32) :
    encryptPayload mbedtls plaintext aad nonce.toList =
      some ((aead.encrypt SessionKey.devTestKey.bytes.toList nonce.toList aad plaintext).1,
        (aead.encrypt SessionKey.devTestKey.bytes.toList nonce.toList aad plaintext).2.toList) := by
  unfold encryptPayload
  rw [SESSION_KEY_eq, hmbedtls.gcmSetkey, hmbedtls.gcmCryptAndTag _ _ _ _ h]
  rfl

/-- What `buildFrame` makes of a reading: the header, and the sealed payload. -/
theorem buildFrame_eq {mbedtls : MbedTls} {aead : Aead AUTH_TAG_SIZE}
    (hmbedtls : mbedtls.Implements aead) (deviceId sequenceNr : UInt32) (p : SensorPayload)
    (nonce : Nonce) (timestamp : UInt64) :
    buildFrame mbedtls deviceId sequenceNr p.sensorType p.valueRaw p.unit nonce timestamp =
      some ((WireHeader.v1 deviceId sequenceNr timestamp nonce 8).bytes ++
        aead.sealed SessionKey.devTestKey.bytes.toList nonce.toList
          (WireHeader.v1 deviceId sequenceNr timestamp nonce 8).bytes p.encode) := by
  have hpayload : p.encode.length ≤ 2 ^ 36 - 32 := by
    rw [p.encode_length]
    decide
  have hheader : buildHeader deviceId sequenceNr timestamp nonce (UInt32.ofNat PAYLOAD_SIZE) =
      (WireHeader.v1 deviceId sequenceNr timestamp nonce 8).bytes :=
    buildHeader_eq deviceId sequenceNr timestamp nonce 8
  unfold buildFrame
  rw [buildPayload_eq, hheader, Option.bind_eq_bind, Option.bind_some]
  dsimp only
  rw [encryptPayload_eq hmbedtls _ nonce hpayload, Option.bind_eq_bind, Option.bind_some]
  refine congrArg some ?_
  simp only [securePipeFrame, Aead.sealed]
  rw [← WireHeader.bytes_length, List.take_length, ← p.encode_length,
    ← aead.length_encrypt SessionKey.devTestKey.bytes.toList nonce.toList _ p.encode,
    List.take_length, List.take_of_length_le (toList_length _).le, List.append_assoc]

/-- Whatever the library answers, a frame that is built starts with its header. -/
theorem buildFrame_header {mbedtls : MbedTls} {deviceId sequenceNr : UInt32} {p : SensorPayload}
    {nonce : Nonce} {timestamp : UInt64} {bytes : Bytes}
    (h : buildFrame mbedtls deviceId sequenceNr p.sensorType p.valueRaw p.unit nonce timestamp =
      some bytes) :
    ∃ rest, bytes = (WireHeader.v1 deviceId sequenceNr timestamp nonce 8).bytes ++ rest := by
  have hheader : buildHeader deviceId sequenceNr timestamp nonce (UInt32.ofNat PAYLOAD_SIZE) =
      (WireHeader.v1 deviceId sequenceNr timestamp nonce 8).bytes :=
    buildHeader_eq deviceId sequenceNr timestamp nonce 8
  unfold buildFrame at h
  rw [buildPayload_eq, hheader, Option.bind_eq_bind, Option.bind_some, Option.bind_eq_bind] at h
  obtain ⟨⟨ciphertext, tag⟩, -, hbytes⟩ := Option.bind_eq_some_iff.mp h
  refine ⟨ciphertext.take PAYLOAD_SIZE ++ tag.take AUTH_TAG_SIZE, ?_⟩
  rw [← Option.some.inj hbytes, securePipeFrame, ← WireHeader.bytes_length, List.take_length,
    List.append_assoc]

end Esp32

end SecurePipe
