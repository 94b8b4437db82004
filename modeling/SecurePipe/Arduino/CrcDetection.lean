import SecurePipe.Arduino.Esp32Frame
import SecurePipe.Protocol.CrcAlgebra

/-!
# SecurePipe.Arduino.CrcDetection

Which errors the CRC-16 detects, in a message of any length, in a sensor payload and in a
raw frame of the sensor node.

An error goes unnoticed when it turns a code word into another one, so when the generator
divides the pattern of the bits it changes (`dvd_differing`). The generator has a constant
term and the factor `X + 1`, and its register does not come round to `1` within the length
of a raw frame.
-/

namespace SecurePipe

open Rust BigEndian Polynomial

/-! ### The generator -/

theorem generator_coeff_zero : (Gf2.generator CRC_FEEDBACK).coeff 0 = 1 := by
  simp [generator_crc, coeff_X_pow]

theorem generator_eval_one : (Gf2.generator CRC_FEEDBACK).eval 1 = 0 := by
  simp only [generator_crc, eval_add, eval_pow, eval_X, eval_one, one_pow]
  decide

/-- The register does not come round to `1` in fewer steps than a raw frame has bits. -/
theorem step_iterate_ne_one :
    ∀ j < 80, 0 < j → (Gf2.step CRC_FEEDBACK)^[j] 1#16 ≠ 1#16 := by
  decide +kernel

/-! ### Code words -/

/-- The differing bits lie within sixteen consecutive places. -/
def IsBurst (bits : Finset ℕ) : Prop := ∃ a, ∀ k ∈ bits, a ≤ k ∧ k < a + 16

theorem differing_nonempty {word word' : Bytes} (hlen : word'.length = word.length)
    (hne : word' ≠ word) : (differing word word').Nonempty := by
  rw [Finset.nonempty_iff_ne_empty]
  intro hempty
  have hpattern := pattern_differing hlen
  rw [hempty, Gf2.pattern_eq_zero.mpr rfl, ← CharTwo.sub_eq_add] at hpattern
  have hvalue := Gf2.poly_injective (sub_eq_zero.mp hpattern.symm)
  exact hne ((valueOf_inj hlen.symm).mp hvalue).symm

/-- Bursts and odd numbers of changed bits are noticed, whatever the length. -/
theorem not_endsInCrc_of_changed {word word' : Bytes} (hword : EndsInCrc word)
    (hlen : word'.length = word.length) (hne : word' ≠ word)
    (hchanged : IsBurst (differing word word') ∨ Odd (differing word word').card) :
    ¬ EndsInCrc word' := by
  intro hword'
  have hdvd := dvd_differing hword hword' hlen
  rcases hchanged with ⟨a, hburst⟩ | hodd
  · exact Gf2.not_dvd_burst generator_coeff_zero (differing_nonempty hlen hne) hburst hdvd
  · exact Gf2.not_dvd_odd generator_eval_one hodd hdvd

theorem lt_of_mem_differing {word word' : Bytes} {k : ℕ} (h : k ∈ differing word word') :
    k < 8 * word.length :=
  Finset.mem_range.mp (Finset.mem_filter.mp h).1

/-- Up to three changed bits are noticed in words of at most ten bytes. -/
theorem not_endsInCrc_of_few {word word' : Bytes} (hword : EndsInCrc word)
    (hlen : word'.length = word.length) (hshort : word.length ≤ 10)
    (hpos : 1 ≤ (differing word word').card) (hfew : (differing word word').card ≤ 3) :
    ¬ EndsInCrc word' := by
  intro hword'
  have hbound : ∀ k ∈ differing word word', k < 80 := fun k hk =>
    (lt_of_mem_differing hk).trans_le (Nat.mul_le_mul_left 8 hshort)
  exact Gf2.not_dvd_few generator_coeff_zero generator_eval_one step_iterate_ne_one hbound hpos
    hfew (dvd_differing hword hword' hlen)

/-! ### The two receivers -/

/-- A payload of eight bytes that is accepted ends in its CRC. -/
theorem endsInCrc_of_parse {raw : Bytes} {p : SensorPayload} (hlen : raw.length = PAYLOAD_SIZE)
    (h : SensorPayload.parse raw = .ok p) : EndsInCrc raw := by
  rcases SensorPayload.parse_cases raw with ⟨-, e, herr⟩ | ⟨p', t, rfl, -⟩
  · rw [herr] at h
    cases h
  · rw [List.length_append, p'.encode_length] at hlen
    have ht : t = [] := List.eq_nil_of_length_eq_zero (by omega)
    rw [ht, List.append_nil]
    exact ⟨p'.body, rfl⟩

/-- What `validateRawFrame` compares. -/
theorem validateRawFrame_eq (first last : UInt8) (body : U8Array 6) (crc : UInt16) :
    Esp32.validateRawFrame (first :: body.toList ++ (u16ToBytes crc).toList ++ [last]) =
      some (decide (first = Esp32.RAW_FRAME_START ∧ last = Esp32.RAW_FRAME_END ∧
        crc = crc16 (first :: body.toList))) := by
  obtain ⟨c₀, c₁, hbytes⟩ : ∃ c₀ c₁, (u16ToBytes crc).toList = [c₀, c₁] :=
    List.length_eq_two.mp (toList_length _)
  have hbody : body.toList.length = 6 := toList_length body
  rw [hbytes]
  have hcomputed : Esp32.crc16 (first :: body.toList ++ [c₀, c₁] ++ [last]) 7 =
      some (crc16 (first :: body.toList)) := by
    rw [Esp32.crc16_eq (by simp), List.append_assoc]
    exact congrArg (fun data => some (crc16 data)) (List.take_left' (by simp))
  have hreceived := C.assemble_u16 (u16ToBytes crc) hbytes
  rw [u16OfBytes_toBytes] at hreceived
  have hstart : (first :: body.toList ++ [c₀, c₁] ++ [last])[0]? = some first := rfl
  have hhigh : (first :: body.toList ++ [c₀, c₁] ++ [last])[7]? = some c₀ := by
    simp [hbody]
  have hlow : (first :: body.toList ++ [c₀, c₁] ++ [last])[8]? = some c₁ := by
    simp [hbody]
  have hend : (first :: body.toList ++ [c₀, c₁] ++ [last])[9]? = some last := by
    simp [hbody]
  unfold Esp32.validateRawFrame
  rw [hcomputed, hstart, hhigh, hlow, hend]
  by_cases hmarkers : first = Esp32.RAW_FRAME_START ∧ last = Esp32.RAW_FRAME_END
  · obtain ⟨rfl, rfl⟩ := hmarkers
    simp [hreceived]
  · have hrefused : first ≠ Esp32.RAW_FRAME_START ∨ last ≠ Esp32.RAW_FRAME_END := by tauto
    have hfalse : decide (first = Esp32.RAW_FRAME_START ∧ last = Esp32.RAW_FRAME_END ∧
        crc = crc16 (first :: body.toList)) = false :=
      decide_eq_false fun h => hmarkers ⟨h.1, h.2.1⟩
    rw [hfalse]
    simp [hrefused]

/-- Every ten bytes are a marker, a body, a CRC field and a marker. -/
theorem rawFrame_view {frame : Bytes} (hlen : frame.length = Esp32.RAW_FRAME_SIZE) :
    ∃ (first last : UInt8) (body : U8Array 6) (crc : UInt16),
      frame = first :: body.toList ++ (u16ToBytes crc).toList ++ [last] := by
  simp only [Esp32.RAW_FRAME_SIZE] at hlen
  obtain ⟨s, frame, rfl⟩ := exists_front 1 frame (by omega)
  obtain ⟨body, frame, rfl⟩ := exists_front 6 frame (by simp at hlen; omega)
  obtain ⟨c, frame, rfl⟩ := exists_front 2 frame (by simp at hlen; omega)
  obtain ⟨first, hfirst⟩ : ∃ b, s.toList = [b] := List.length_eq_one_iff.mp (toList_length s)
  obtain ⟨last, rfl⟩ : ∃ b, frame = [b] := by
    refine List.length_eq_one_iff.mp ?_
    simp at hlen
    omega
  refine ⟨first, last, body, u16OfBytes c, ?_⟩
  rw [hfirst, u16ToBytes_ofBytes]
  simp

/-- A frame of ten bytes that is accepted is a word that ends in its CRC, and the end
marker. -/
theorem endsInCrc_of_validate {frame : Bytes} (hlen : frame.length = Esp32.RAW_FRAME_SIZE)
    (h : Esp32.validateRawFrame frame = some true) :
    ∃ word, EndsInCrc word ∧ frame = word ++ [Esp32.RAW_FRAME_END] := by
  obtain ⟨first, last, body, crc, rfl⟩ := rawFrame_view hlen
  rw [validateRawFrame_eq, Option.some.injEq, decide_eq_true_iff] at h
  obtain ⟨-, rfl, hcrc⟩ := h
  exact ⟨_, ⟨first :: body.toList, by rw [withCrc, ← hcrc]⟩, rfl⟩

/-- A common end moves the differing bits up. -/
theorem differing_append {word word' : Bytes} (hlen : word'.length = word.length) (tail : Bytes) :
    differing (word ++ tail) (word' ++ tail) =
      (differing word word').image (8 * tail.length + ·) := by
  have hlen' : (word' ++ tail).length = (word ++ tail).length := by
    rw [List.length_append, List.length_append, hlen]
  have hvalue : ∀ w : Bytes, Gf2.poly (valueOf (w ++ tail)) =
      Gf2.poly (valueOf w) * Polynomial.X ^ (8 * tail.length) + Gf2.poly (valueOf tail) := by
    intro w
    rw [valueOf_append, show 256 = 2 ^ 8 from rfl, ← Nat.pow_mul]
    exact Gf2.poly_append _ (valueOf_lt_two_pow tail)
  apply Gf2.pattern_injective
  rw [Gf2.pattern_image_add, pattern_differing hlen, pattern_differing hlen', hvalue, hvalue]
  linear_combination CharTwo.add_self_eq_zero (Gf2.poly (valueOf tail))

/-- **The errors that CRC-16 detects.** In a message of any length: every burst within
sixteen bits, and every odd number of changed bits. In a sensor payload, and in a raw frame,
markers included: every one, two or three changed bits. -/
theorem crc_detects :
    (∀ data word : Bytes, word.length = (withCrc data).length → word ≠ withCrc data →
      IsBurst (differing (withCrc data) word) ∨ Odd (differing (withCrc data) word).card →
        ¬ EndsInCrc word) ∧
    (∀ raw raw' : Bytes, raw.length = PAYLOAD_SIZE → raw'.length = PAYLOAD_SIZE →
      (∃ p, SensorPayload.parse raw = .ok p) →
        1 ≤ (differing raw raw').card → (differing raw raw').card ≤ 3 →
          ¬ ∃ p, SensorPayload.parse raw' = .ok p) ∧
    (∀ frame frame' : Bytes, frame.length = Esp32.RAW_FRAME_SIZE →
      frame'.length = Esp32.RAW_FRAME_SIZE → Esp32.validateRawFrame frame = some true →
        1 ≤ (differing frame frame').card → (differing frame frame').card ≤ 3 →
          Esp32.validateRawFrame frame' = some false) := by
  refine ⟨?_, ?_, ?_⟩
  · intro data word hlen hne hchanged
    exact not_endsInCrc_of_changed ⟨data, rfl⟩ hlen hne hchanged
  · intro raw raw' hlen hlen' ⟨p, hp⟩ hpos hfew ⟨p', hp'⟩
    refine not_endsInCrc_of_few (endsInCrc_of_parse hlen hp) (hlen'.trans hlen.symm) ?_ hpos hfew
      (endsInCrc_of_parse hlen' hp')
    rw [hlen]
    decide
  · intro frame frame' hlen hlen' hvalid hpos hfew
    obtain ⟨word, hword, rfl⟩ := endsInCrc_of_validate hlen hvalid
    have hrefused : Esp32.validateRawFrame frame' ≠ some true := by
      intro hvalid'
      obtain ⟨word', hword', rfl⟩ := endsInCrc_of_validate hlen' hvalid'
      rw [List.length_append] at hlen hlen'
      have hwords : word'.length = word.length := by omega
      rw [differing_append hwords, Finset.card_image_of_injective _ (add_right_injective _)]
        at hpos hfew
      refine not_endsInCrc_of_few hword hwords ?_ hpos hfew hword'
      simp only [Esp32.RAW_FRAME_SIZE] at hlen
      omega
    obtain ⟨first, last, body, crc, rfl⟩ := rawFrame_view hlen'
    rw [validateRawFrame_eq] at hrefused ⊢
    rw [Ne, Option.some.injEq] at hrefused
    rw [Option.some.injEq]
    exact Bool.eq_false_iff.mpr hrefused

/-- The CRC of the empty message, a payload and a raw frame, each with one bit changed. -/
theorem crc_detects_one :
    ¬ EndsInCrc [0xFF, 0xFE] ∧
    (¬ ∃ p, SensorPayload.parse
      ((SensorPayload.encode ⟨SENSOR_DISTANCE, 1000, UNIT_CM⟩).set 5 0x05) = .ok p) ∧
    Esp32.validateRawFrame [0xAA, 0x04, 0x00, 0x00, 0x03, 0xE8, 0x05, 0x41, 0xE1, 0x55] =
      some false := by
  have hvalid : Esp32.validateRawFrame
      [0xAA, 0x04, 0x00, 0x00, 0x03, 0xE8, 0x04, 0x41, 0xE1, 0x55] = some true := by
    have hvalidate := validateRawFrame_eq 0xAA 0x55
      ⟨[0x04, 0x00, 0x00, 0x03, 0xE8, 0x04], rfl⟩ 0x41E1
    refine hvalidate.trans ?_
    decide +kernel
  refine ⟨?_, ?_, ?_⟩
  · exact crc_detects.1 [] [0xFF, 0xFE] rfl (by decide) (.inr (by decide +kernel))
  · exact crc_detects.2.1 (SensorPayload.encode ⟨SENSOR_DISTANCE, 1000, UNIT_CM⟩) _ rfl rfl
      ⟨_, SensorPayload.parse_encode _⟩ (by decide +kernel) (by decide +kernel)
  · exact crc_detects.2.2 _ _ rfl rfl hvalid (by decide +kernel) (by decide +kernel)

end SecurePipe
