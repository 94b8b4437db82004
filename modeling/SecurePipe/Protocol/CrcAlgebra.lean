import SecurePipe.Lib.BigEndian
import SecurePipe.Lib.Gf2
import SecurePipe.Protocol.Crc

/-!
# SecurePipe.Protocol.CrcAlgebra

The CRC-16 loop as arithmetic over GF(2).

A turn of the inner loop is a step of a shift register, so it multiplies by `X` modulo the
generator `X ^ 16 + X ^ 12 + X ^ 5 + 1`. Over a whole message this makes `crc16` an affine
function of the message polynomial (`residue_foldl`).
-/

namespace SecurePipe

open Rust BigEndian Polynomial

/-- The feedback of the CRC register. -/
def CRC_FEEDBACK : BitVec 16 := 0x1021#16

/-- The generator, written out. -/
theorem generator_crc : Gf2.generator CRC_FEEDBACK = X ^ 16 + X ^ 12 + X ^ 5 + 1 := by
  have hones : Gf2.ones CRC_FEEDBACK.toNat = {12, 5, 0} := by decide
  rw [Gf2.generator, Gf2.poly, hones, Gf2.pattern, Finset.sum_insert (by decide),
    Finset.sum_insert (by decide), Finset.sum_singleton, pow_zero]
  ring

/-- `X` modulo the generator. -/
noncomputable def crcRoot : AdjoinRoot (Gf2.generator CRC_FEEDBACK) :=
  AdjoinRoot.root (Gf2.generator CRC_FEEDBACK)

theorem crcBit_toBitVec (crc : UInt16) :
    (crcBit crc).toBitVec = Gf2.step CRC_FEEDBACK crc.toBitVec := by
  have htop : crc &&& 0x8000 ≠ 0 ↔ crc.toBitVec.msb = true := by
    rw [Ne, ← UInt16.toBitVec_inj]
    show ¬ crc.toBitVec &&& BitVec.twoPow 16 15 = 0#16 ↔ _
    rw [BitVec.and_twoPow, BitVec.msb_eq_getLsbD_last]
    cases crc.toBitVec.getLsbD 15 <;> decide
  unfold crcBit Gf2.step
  by_cases hmsb : crc.toBitVec.msb = true
  · rw [if_pos (htop.mpr hmsb), if_pos hmsb]
    rfl
  · rw [if_neg (mt htop.mp hmsb), if_neg hmsb]
    rfl

theorem repeat_crcBit_toBitVec (n : Nat) (crc : UInt16) :
    (Nat.repeat crcBit n crc).toBitVec = (Gf2.step CRC_FEEDBACK)^[n] crc.toBitVec := by
  induction n with
  | zero => rfl
  | succ n ih => rw [Function.iterate_succ_apply', ← ih, ← crcBit_toBitVec, Nat.repeat]

/-- One byte: the register moves up eight places, and the byte comes in above it. -/
theorem residue_crcByte (crc : UInt16) (byte : UInt8) :
    Gf2.residue CRC_FEEDBACK (crcByte crc byte).toNat =
      Gf2.residue CRC_FEEDBACK crc.toNat * crcRoot ^ 8 +
        Gf2.residue CRC_FEEDBACK byte.toNat * crcRoot ^ 16 := by
  have hbyte : (byte.toUInt16 <<< 8).toNat = byte.toNat * 2 ^ 8 + 0 := by
    have hlt := byte.toNat_lt
    simp [Nat.shiftLeft_eq]
    omega
  have hin : Gf2.residue CRC_FEEDBACK (crc ^^^ (byte.toUInt16 <<< 8)).toNat =
      Gf2.residue CRC_FEEDBACK crc.toNat + Gf2.residue CRC_FEEDBACK byte.toNat * crcRoot ^ 8 := by
    rw [UInt16.toNat_xor, Gf2.residue_xor, hbyte, Gf2.residue_append _ _ (by decide),
      Gf2.residue_zero, add_zero, crcRoot]
  calc Gf2.residue CRC_FEEDBACK (crcByte crc byte).toNat
      = crcRoot ^ 8 * Gf2.residue CRC_FEEDBACK (crc ^^^ (byte.toUInt16 <<< 8)).toNat := by
        rw [← UInt16.toNat_toBitVec, crcByte, repeat_crcBit_toBitVec, Gf2.residue_iterate]
        rfl
    _ = _ := by
        rw [hin]
        ring

/-- **The CRC is affine in the message.** The register started at `crc` and fed the message
holds `crc * X ^ (8 n) + message * X ^ 16`, modulo the generator. -/
theorem residue_foldl (data : Bytes) (crc : UInt16) :
    Gf2.residue CRC_FEEDBACK (data.foldl crcByte crc).toNat =
      Gf2.residue CRC_FEEDBACK crc.toNat * crcRoot ^ (8 * data.length) +
        Gf2.residue CRC_FEEDBACK (valueOf data) * crcRoot ^ 16 := by
  induction data generalizing crc with
  | nil =>
      rw [List.foldl_nil, valueOf, Gf2.residue_zero, zero_mul, add_zero, List.length_nil,
        Nat.mul_zero, pow_zero, mul_one]
  | cons byte data ih =>
      have hlt : valueOf data < 2 ^ (8 * data.length) := by
        rw [Nat.pow_mul]
        exact valueOf_lt data
      have hvalue : valueOf (byte :: data) =
          byte.toNat * 2 ^ (8 * data.length) + valueOf data := by
        rw [valueOf, Nat.pow_mul]
      rw [List.foldl_cons, ih, residue_crcByte, hvalue, Gf2.residue_append _ _ hlt,
        List.length_cons]
      show _ = _ * _ + (_ * crcRoot ^ _ + _) * _
      ring

/-! ### Code words -/

/-- A byte string followed by its CRC, high byte first. -/
def withCrc (data : Bytes) : Bytes := data ++ (u16ToBytes (crc16 data)).toList

/-- The last two bytes are the CRC of the rest. -/
def EndsInCrc (word : Bytes) : Prop := ∃ data, word = withCrc data

/-- The bits in which two byte strings of one length differ. A bit has the number that it
has in the big-endian integer that the string spells. -/
def differing (word word' : Bytes) : Finset ℕ :=
  (Finset.range (8 * word.length)).filter fun k =>
    (valueOf word).testBit k ≠ (valueOf word').testBit k

theorem length_withCrc (data : Bytes) : (withCrc data).length = data.length + 2 := by
  rw [withCrc, List.length_append, toList_length]

theorem valueOf_lt_two_pow (word : Bytes) : valueOf word < 2 ^ (8 * word.length) := by
  rw [Nat.pow_mul]
  exact valueOf_lt word

/-- What a code word leaves modulo the generator depends on its length only. -/
theorem residue_withCrc (data : Bytes) :
    Gf2.residue CRC_FEEDBACK (valueOf (withCrc data)) =
      Gf2.residue CRC_FEEDBACK 0xFFFF * crcRoot ^ (8 * data.length) := by
  have hcrc : Gf2.residue CRC_FEEDBACK (crc16 data).toNat =
      Gf2.residue CRC_FEEDBACK 0xFFFF * crcRoot ^ (8 * data.length) +
        Gf2.residue CRC_FEEDBACK (valueOf data) * crcRoot ^ 16 := residue_foldl data 0xFFFF
  have hself := Gf2.residue_add_self CRC_FEEDBACK (valueOf data)
  have happend := Gf2.residue_append CRC_FEEDBACK (valueOf data) (crc16 data).toNat_lt
  rw [withCrc, valueOf_append, valueOf_u16ToBytes, toList_length]
  refine happend.trans ?_
  rw [hcrc]
  show _ * crcRoot ^ 16 + _ = _
  linear_combination crcRoot ^ 16 * hself

theorem pattern_differing {word word' : Bytes} (hlen : word'.length = word.length) :
    Gf2.pattern (differing word word') =
      Gf2.poly (valueOf word) + Gf2.poly (valueOf word') := by
  have hones : differing word word' = Gf2.ones (valueOf word ^^^ valueOf word') := by
    ext k
    rw [differing, Finset.mem_filter, Finset.mem_range, Gf2.mem_ones, Nat.testBit_xor]
    by_cases hk : k < 8 * word.length
    · simp [hk]
    · have hpow := Nat.pow_le_pow_right (show 0 < 2 by decide) (not_lt.mp hk)
      have h := valueOf_lt_two_pow word
      have h' := valueOf_lt_two_pow word'
      rw [hlen] at h'
      rw [Nat.testBit_lt_two_pow (h.trans_le hpow), Nat.testBit_lt_two_pow (h'.trans_le hpow)]
      simp [hk]
  rw [hones, ← Gf2.poly_xor, Gf2.poly]

/-- **Two code words of one length differ by a multiple of the generator.** -/
theorem dvd_differing {word word' : Bytes} (hword : EndsInCrc word) (hword' : EndsInCrc word')
    (hlen : word'.length = word.length) :
    Gf2.generator CRC_FEEDBACK ∣ Gf2.pattern (differing word word') := by
  obtain ⟨data, rfl⟩ := hword
  obtain ⟨data', rfl⟩ := hword'
  have hdata : data'.length = data.length := by
    rw [length_withCrc, length_withCrc] at hlen
    omega
  have hresidue : Gf2.residue CRC_FEEDBACK (valueOf (withCrc data)) =
      Gf2.residue CRC_FEEDBACK (valueOf (withCrc data')) := by
    rw [residue_withCrc, residue_withCrc, hdata]
  rw [pattern_differing hlen, ← CharTwo.sub_eq_add]
  exact AdjoinRoot.mk_eq_mk.mp hresidue

end SecurePipe
