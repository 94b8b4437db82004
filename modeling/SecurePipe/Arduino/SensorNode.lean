import SecurePipe.Lib.C
import SecurePipe.Protocol.FrameCodec

/-!
# SecurePipe.Arduino.SensorNode

The Arduino sensor node (`arduino/sensor_node/sensor_node.ino`): the ten-byte frame it
sends over the UART, and its CRC-16. An `int` of the Arduino has sixteen bits, so the
CRC arithmetic is that of `uint16_t`; the value is a 32-bit `long`.
-/

namespace SecurePipe

open Rust BigEndian

namespace SensorNode

def FRAME_START : UInt8 := 0xAA
def FRAME_END : UInt8 := 0x55

/-- `crc16`. Both loop counters are `uint8_t`. -/
def crc16 (data : Bytes) (length : UInt8) : Option UInt16 :=
  C.forLoop 8 length.toNat (fun i crc => do
    let byte ← data[i]?
    let crc := crc ^^^ (byte.toUInt16 <<< 8)
    C.forLoop 8 8 (fun _ crc =>
      some (if crc &&& 0x8000 ≠ 0 then (crc <<< 1) ^^^ 0x1021 else crc <<< 1)) crc) 0xFFFF

/-- `sendFrame`: the bytes it writes to the UART. -/
def sendFrame (sensorType : UInt8) (valueRaw : Int32) (unit : UInt8) : Option Bytes := do
  let frame :=
    [FRAME_START, sensorType,
      C.toU8 ((valueRaw >>> 24) &&& 0xFF), C.toU8 ((valueRaw >>> 16) &&& 0xFF),
      C.toU8 ((valueRaw >>> 8) &&& 0xFF), C.toU8 (valueRaw &&& 0xFF),
      unit]
  let crc ← crc16 frame 7
  return frame ++ [((crc >>> 8) &&& 0xFF).toUInt8, (crc &&& 0xFF).toUInt8, FRAME_END]

/-- The Arduino's CRC is the gateway's, on buffers that an 8-bit length can describe. -/
theorem crc16_eq {data : Bytes} {length : UInt8} (h : length.toNat ≤ data.length) :
    crc16 data length = some (SecurePipe.crc16 (data.take length.toNat)) := by
  unfold crc16
  rw [C.forLoop_bytes length.toNat_lt h crcByte]
  · rfl
  intro i crc
  cases data[i]? with
  | none => rfl
  | some byte =>
      rw [Option.bind_eq_bind, Option.bind_some, Option.map_some, crcByte,
        ← C.forLoop_repeat (show 8 < 2 ^ 8 by decide)]
      rfl

/-- What `sendFrame` sends: the payload's body and a CRC, between the two markers. -/
theorem sendFrame_eq (p : SensorPayload) :
    sendFrame p.sensorType p.valueRaw p.unit =
      some (FRAME_START :: p.body ++
        (u16ToBytes (SecurePipe.crc16 (FRAME_START :: p.body))).toList ++ [FRAME_END]) := by
  have hbody : [FRAME_START, p.sensorType,
      C.toU8 ((p.valueRaw >>> 24) &&& 0xFF), C.toU8 ((p.valueRaw >>> 16) &&& 0xFF),
      C.toU8 ((p.valueRaw >>> 8) &&& 0xFF), C.toU8 (p.valueRaw &&& 0xFF), p.unit] =
        FRAME_START :: p.body := by
    rw [SensorPayload.body, ← C.bytes_i32]
    simp only [List.cons_append, List.nil_append]
  have hlen : (7 : UInt8).toNat = (FRAME_START :: p.body).length := by
    rw [List.length_cons, p.body_length]
    rfl
  unfold sendFrame
  dsimp only
  rw [hbody, crc16_eq hlen.le, hlen, List.take_length]
  simp only [Option.bind_eq_bind, Option.bind_some, Option.pure_def, ← C.bytes_u16,
    List.append_assoc, List.cons_append, List.nil_append]

end SensorNode

end SecurePipe
