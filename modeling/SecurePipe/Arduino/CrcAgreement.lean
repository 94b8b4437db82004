import SecurePipe.Arduino.Esp32Frame
import SecurePipe.Arduino.SensorNode
import SecurePipe.Protocol.CrcAlgebra

/-!
# SecurePipe.Arduino.CrcAgreement

**All three CRC-16 functions compute the mathematical CRC** (`crc_is_remainder`): the
remainder of the message, shifted up by the width of the CRC and started at `0xFFFF`, modulo
`X ^ 16 + X ^ 12 + X ^ 5 + 1`.

For the gateway's function this is read off `residue_foldl`. The two of the firmware come
down to it loop by loop (`Esp32.crc16_eq`, `SensorNode.crc16_eq`), on every message whose
length their loop counters can hold.
-/

namespace SecurePipe

open Rust BigEndian Polynomial

/-- The message as a polynomial, its most significant bit first. -/
noncomputable def messagePoly : Bytes → (ZMod 2)[X]
  | [] => 0
  | byte :: data => Gf2.poly byte.toNat * X ^ (8 * data.length) + messagePoly data

theorem messagePoly_eq (data : Bytes) : messagePoly data = Gf2.poly (valueOf data) := by
  induction data with
  | nil => rw [messagePoly, valueOf, Gf2.poly_zero]
  | cons byte data ih =>
      rw [messagePoly, ih, valueOf, ← Gf2.poly_append _ (valueOf_lt_two_pow data), Nat.pow_mul]

/-- The gateway's CRC is the remainder. -/
theorem crc16_remainder (data : Bytes) :
    (messagePoly data * X ^ 16 + Gf2.poly 0xFFFF * X ^ (8 * data.length)) %ₘ
      (X ^ 16 + X ^ 12 + X ^ 5 + 1) = Gf2.poly (crc16 data).toNat := by
  rw [← generator_crc, ← UInt16.toNat_toBitVec]
  refine Gf2.modByMonic_generator ?_
  rw [UInt16.toNat_toBitVec]
  refine (residue_foldl data 0xFFFF).trans ?_
  rw [messagePoly_eq, map_add, map_mul, map_mul, map_pow, map_pow, AdjoinRoot.mk_X, add_comm]
  rfl

/-- **The three CRCs are the mathematical one.** The two of the firmware read the first
`data.length` bytes of a buffer, and stop, if their loop counters can hold that length. -/
theorem crc_is_remainder (data rest : Bytes) :
    Gf2.poly (crc16 data).toNat =
      (messagePoly data * X ^ 16 + Gf2.poly 0xFFFF * X ^ (8 * data.length)) %ₘ
        (X ^ 16 + X ^ 12 + X ^ 5 + 1) ∧
    (data.length ≤ 65535 →
      Esp32.crc16 (data ++ rest) (UInt16.ofNat data.length) = some (crc16 data)) ∧
    (data.length ≤ 255 →
      SensorNode.crc16 (data ++ rest) (UInt8.ofNat data.length) = some (crc16 data)) := by
  have hfits : data.length ≤ (data ++ rest).length := by
    rw [List.length_append]
    exact Nat.le_add_right _ _
  refine ⟨(crc16_remainder data).symm, ?_, ?_⟩
  · intro hlen
    have hlength : (UInt16.ofNat data.length).toNat = data.length :=
      UInt16.toNat_ofNat_of_lt' (Nat.lt_succ_of_le hlen)
    rw [Esp32.crc16_eq (hlength.symm ▸ hfits), hlength, List.take_left]
  · intro hlen
    have hlength : (UInt8.ofNat data.length).toNat = data.length :=
      UInt8.toNat_ofNat_of_lt' (Nat.lt_succ_of_le hlen)
    rw [SensorNode.crc16_eq (hlength.symm ▸ hfits), hlength, List.take_left]

/-- The ASCII digits 1 to 9, in a buffer with one more byte. -/
theorem crc_is_remainder_check :
    let digits : Bytes := [0x31, 0x32, 0x33, 0x34, 0x35, 0x36, 0x37, 0x38, 0x39]
    Esp32.crc16 (digits ++ [0x00]) 9 = some 0x29B1 ∧
      SensorNode.crc16 (digits ++ [0x00]) 9 = some 0x29B1 := by
  intro digits
  have hcheck : crc16 digits = 0x29B1 := by decide +kernel
  obtain ⟨-, hesp32, hsensorNode⟩ := crc_is_remainder digits [0x00]
  rw [hcheck] at hesp32 hsensorNode
  exact ⟨hesp32 (by decide), hsensorNode (by decide)⟩

end SecurePipe
