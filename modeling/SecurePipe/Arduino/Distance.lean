import SecurePipe.Arduino.SensorNode
import SecurePipe.Lib.Binary32

/-!
# SecurePipe.Arduino.Distance

What the sensor node makes of an echo (`arduino/sensor_node/sensor_node.ino`): `measureDistance`
divides its duration by 58, in a `float`, and `readAndSend` sends a hundred times the quotient, cut
off to a `long`.

Neither the bounds on the distance nor the value that is sent suffers from the rounding: the result
is that of integer arithmetic on the duration (`readAndSend_eq`).
-/

namespace SecurePipe

open Rust Binary32

namespace SensorNode

def DIST_MIN_CM : Int32 := 2
def DIST_MAX_CM : Int32 := 400
def SENSOR_DISTANCE : UInt8 := 0x04
def UNIT_CM : UInt8 := 0x04

/-- `measureDistance`, where `duration` is what `pulseIn` returns. -/
def measureDistance (duration : Int32) : Float32 :=
  if duration = 0 then -1.0
  else
    let distCm := ofInt32 duration / 58.0
    if distCm < ofInt32 DIST_MIN_CM ∨ ofInt32 DIST_MAX_CM < distCm then -1.0 else distCm

/-- `readAndSend`: the new `frameCount`, and the bytes written to the UART. -/
def readAndSend (duration : Int32) (frameCount : UInt32) : Option (UInt32 × Bytes) := do
  let distCm := measureDistance duration
  if distCm < ofInt32 0 then return (frameCount, [])
  let distRaw := toInt32 (distCm * 100.0)
  let frame ← sendFrame SENSOR_DISTANCE distRaw UNIT_CM
  return (frameCount + 1, frame)

/-! ### The quotient -/

theorem hasValue_58 : HasValue 58.0 .positive 58 :=
  ⟨58 * 2 ^ 18, -18, by decide, rfl, by constructor <;> decide, by norm_num⟩

theorem hasValue_100 : HasValue 100.0 .positive 100 :=
  ⟨100 * 2 ^ 17, -17, by decide, rfl, by constructor <;> decide, by norm_num⟩

theorem moderate {x : ℚ} (hlower : 1 / 100 ≤ x) (hupper : x ≤ 2 ^ 32) : Moderate x := by
  constructor
  · exact le_trans (by norm_num) hlower
  · exact le_trans hupper (by norm_num)

variable {duration : Int32} {k : Nat}

/-- Small durations are converted without loss, and divided once. -/
theorem gives_quotient (hk : 0 < k) (hk' : k < 2 ^ 24) (h : duration.toInt = k) :
    Gives (ofInt32 duration / 58.0) .positive (k / 58) := by
  have hlower : (1 : ℚ) ≤ k := by exact_mod_cast hk
  have hupper : (k : ℚ) ≤ 2 ^ 24 := by exact_mod_cast hk'.le
  exact gives_div (hasValue_ofInt32 hk hk' h) hasValue_58 (moderate (by linarith) (by linarith))

/-- The quotient of a duration beyond the range of the sensor. -/
theorem quotient_large (hk : 23200 < k) (h : duration.toInt = k) :
    ∃ z, HasValue (ofInt32 duration / 58.0) .positive z ∧ 400 < z := by
  obtain ⟨x, hx, hnear⟩ := gives_ofInt32 (by omega) h
  have hlower : (23201 : ℚ) ≤ k := by exact_mod_cast hk
  have hupper : (k : ℚ) ≤ 2 ^ 31 := by
    have := duration.toInt_lt
    have hnat : k ≤ 2 ^ 31 := by omega
    exact_mod_cast hnat
  have hxlower := hnear.lower
  have hxupper := hnear.upper
  obtain ⟨z, hz, hnear'⟩ := gives_div hx hasValue_58 (moderate (by linarith) (by linarith))
  have hzlower := hnear'.lower
  exact ⟨z, hz, by linarith⟩

/-- A negative duration has a negative quotient. -/
theorem quotient_negative (hk : 0 < k) (h : duration.toInt = -k) :
    ∃ z, HasValue (ofInt32 duration / 58.0) .negative z := by
  obtain ⟨x, hx, hnear⟩ := gives_ofInt32_neg hk h
  have hlower : (1 : ℚ) ≤ k := by exact_mod_cast hk
  have hupper : (k : ℚ) ≤ 2 ^ 31 := by
    have := duration.le_toInt
    have hnat : k ≤ 2 ^ 31 := by omega
    exact_mod_cast hnat
  have hxlower := hnear.lower
  have hxupper := hnear.upper
  obtain ⟨z, hz, -⟩ := gives_div hx hasValue_58 (moderate (by linarith) (by linarith))
  exact ⟨z, hz⟩

/-- Multiples of 29 have a quotient that a `float` can represent. -/
theorem representable_quotient (hk : k < 2 ^ 24) (hdvd : 29 ∣ k) : Representable (k / 58) := by
  obtain ⟨i, rfl⟩ := hdvd
  refine ⟨i, -1, by omega, ?_⟩
  push_cast
  rw [zpow_neg_one]
  ring

/-- The quotient of a duration in the range of the sensor, within the bounds on the distance. -/
structure Quotient (z : ℚ) (k : Nat) : Prop where
  near : Near z (k / 58)
  lower : 2 ≤ z
  upper : z ≤ 400

theorem quotient_inside (hk : 116 ≤ k) (hk' : k ≤ 23200) {z : ℚ} (hnear : Near z (k / 58)) :
    Quotient z k := by
  by_cases hdvd : 29 ∣ k
  · have hz := hnear.exact (representable_quotient (by omega) hdvd)
    have hlower : (116 : ℚ) ≤ k := by exact_mod_cast hk
    have hupper : (k : ℚ) ≤ 23200 := by exact_mod_cast hk'
    exact ⟨hnear, by linarith, by linarith⟩
  · -- both bounds are multiples of 29
    have hlower : (117 : ℚ) ≤ k := by exact_mod_cast (by omega : 117 ≤ k)
    have hupper : (k : ℚ) ≤ 23199 := by exact_mod_cast (by omega : k ≤ 23199)
    have hzlower := hnear.lower
    have hzupper := hnear.upper
    exact ⟨hnear, by linarith, by linarith⟩

theorem hasValue_min : HasValue (ofInt32 DIST_MIN_CM) .positive (2 : Nat) :=
  hasValue_ofInt32 (by decide) (by decide) rfl

theorem hasValue_max : HasValue (ofInt32 DIST_MAX_CM) .positive (400 : Nat) :=
  hasValue_ofInt32 (by decide) (by decide) rfl

/-- **A distance that is measured** is the quotient. -/
theorem measureDistance_inside (h : duration.toInt = k) (hk : 116 ≤ k) (hk' : k ≤ 23200) :
    ∃ z, HasValue (measureDistance duration) .positive z ∧ Quotient z k := by
  obtain ⟨z, hz, hnear⟩ := gives_quotient (by omega) (by omega) h
  have hquotient := quotient_inside hk hk' hnear
  have hne : duration ≠ 0 := by
    intro hzero
    rw [hzero] at h
    change (0 : Int) = k at h
    omega
  have hinside : ¬ (ofInt32 duration / 58.0 < ofInt32 DIST_MIN_CM ∨
      ofInt32 DIST_MAX_CM < ofInt32 duration / 58.0) := by
    rw [lt_iff hz hasValue_min, lt_iff hasValue_max hz]
    push_cast
    rintro (hlt | hgt)
    · linarith [hquotient.lower]
    · linarith [hquotient.upper]
  refine ⟨z, ?_, hquotient⟩
  rw [measureDistance, if_neg hne]
  simp only [if_neg hinside]
  exact hz

/-- **No distance** is measured outside the range. -/
theorem measureDistance_outside (h : ¬ (116 ≤ duration.toInt ∧ duration.toInt ≤ 23200)) :
    measureDistance duration = -1.0 := by
  by_cases hzero : duration = 0
  · rw [measureDistance, if_pos hzero]
  have hne : duration.toInt ≠ 0 := fun heq => hzero (Int32.toInt_inj.mp heq)
  have houtside : ofInt32 duration / 58.0 < ofInt32 DIST_MIN_CM ∨
      ofInt32 DIST_MAX_CM < ofInt32 duration / 58.0 := by
    rcases lt_or_gt_of_ne hne with hneg | hpos
    · obtain ⟨k, hk⟩ := Int.eq_ofNat_of_zero_le (show 0 ≤ -duration.toInt by omega)
      have hk' : duration.toInt = -k := by omega
      obtain ⟨z, hz⟩ := quotient_negative (by omega) hk'
      exact .inl (lt_of_negative hz hasValue_min)
    · obtain ⟨k, hk⟩ := Int.eq_ofNat_of_zero_le hpos.le
      rw [hk] at h
      by_cases hsmall : k < 116
      · obtain ⟨z, hz, hnear⟩ := gives_quotient (by omega) (by omega) hk
        have hupper : (k : ℚ) ≤ 115 := by exact_mod_cast (by omega : k ≤ 115)
        have hzupper := hnear.upper
        left
        rw [lt_iff hz hasValue_min]
        push_cast
        linarith
      · obtain ⟨z, hz, hlarge⟩ := quotient_large (by omega) hk
        right
        rw [lt_iff hasValue_max hz]
        exact_mod_cast hlarge
  rw [measureDistance, if_neg hzero]
  exact if_pos houtside

/-! ### The value that is sent -/

/-- The product is as far from the next whole number as the rounding can carry it. -/
theorem product_floor {z p : ℚ} (hk' : k ≤ 23200) (hz : Near z (k / 58))
    (hp : Near p (z * 100)) : ((k * 100 / 58 : Nat) : ℚ) ≤ p ∧ p < ((k * 100 / 58 : Nat) : ℚ) + 1 := by
  by_cases hdvd : 29 ∣ k
  · have hexact := hz.exact (representable_quotient (by omega) hdvd)
    obtain ⟨i, rfl⟩ := hdvd
    have hproduct : z * 100 = (50 * i : Nat) := by
      rw [hexact]
      push_cast
      ring
    have hrep : Representable (z * 100) := ⟨50 * i, 0, by omega, by rw [hproduct, zpow_zero, mul_one]⟩
    have hwhole : 29 * i * 100 / 58 = 50 * i := by omega
    rw [hp.exact hrep, hproduct, hwhole]
    exact ⟨le_refl _, lt_add_one _⟩
  · -- the remainder of the division is even, and at least two
    obtain ⟨n, hn⟩ : ∃ n, n = k * 100 / 58 := ⟨_, rfl⟩
    have hbelow : ((58 * n + 2 : Nat) : ℚ) ≤ ((k * 100 : Nat) : ℚ) := by
      exact_mod_cast (by omega : 58 * n + 2 ≤ k * 100)
    have habove : ((k * 100 + 2 : Nat) : ℚ) ≤ ((58 * (n + 1) : Nat) : ℚ) := by
      exact_mod_cast (by omega : k * 100 + 2 ≤ 58 * (n + 1))
    have hsmall : (k : ℚ) ≤ 23200 := by exact_mod_cast hk'
    have hnonneg : (0 : ℚ) ≤ k := Nat.cast_nonneg k
    push_cast at hbelow habove
    rw [← hn]
    have hzlower := hz.lower
    have hzupper := hz.upper
    have hplower := hp.lower
    have hpupper := hp.upper
    exact ⟨by linarith, by linarith⟩

/-- The value in integers, without overflow. -/
theorem value_toInt (h : duration.toInt = k) (hk' : k ≤ 23200) :
    (duration * 100 / 58).toInt = (k * 100 / 58 : Nat) := by
  have hmul : (duration * 100).toInt = k * 100 := by
    rw [Int32.toInt_mul, h]
    show (k * 100 : Int).bmod (2 ^ 32) = _
    rw [Int.bmod_eq_of_le (by omega) (by omega)]
  rw [Int32.toInt_div, hmul]
  show ((k * 100 : Int).tdiv 58).bmod (2 ^ 32) = _
  rw [Int.tdiv_eq_ediv_of_nonneg (by omega), Int.bmod_eq_of_le (by omega) (by omega)]
  omega

/-- A distance that is measured is sent as the quotient of integers. -/
theorem toInt32_product (h : duration.toInt = k) (hk : 116 ≤ k) (hk' : k ≤ 23200) :
    toInt32 (measureDistance duration * 100.0) = duration * 100 / 58 := by
  obtain ⟨z, hz, hquotient⟩ := measureDistance_inside h hk hk'
  have hlower := hquotient.lower
  have hupper := hquotient.upper
  obtain ⟨p, hp, hnear⟩ := gives_mul hz hasValue_100 (moderate (by linarith) (by linarith))
  obtain ⟨hfloor, hceil⟩ := product_floor hk' hquotient.near hnear
  refine toInt32_eq hp ?_ ?_
  · rw [value_toInt h hk']
    exact_mod_cast hfloor
  · rw [value_toInt h hk']
    exact_mod_cast hceil

/-- The reading that an echo of this duration stands for. -/
def reading (duration : Int32) : Option SensorPayload :=
  if 116 ≤ duration.toInt ∧ duration.toInt ≤ 23200 then
    some { sensorType := SENSOR_DISTANCE, valueRaw := duration * 100 / 58, unit := UNIT_CM }
  else none

/-- **An echo is sent** with the distance that integer arithmetic gives, or not at all. -/
theorem readAndSend_eq (duration : Int32) (frameCount : UInt32) :
    readAndSend duration frameCount =
      match reading duration with
      | none => some (frameCount, [])
      | some p => (sendFrame p.sensorType p.valueRaw p.unit).map (frameCount + 1, ·) := by
  unfold readAndSend reading
  by_cases hinside : 116 ≤ duration.toInt ∧ duration.toInt ≤ 23200
  · obtain ⟨k, hk⟩ := Int.eq_ofNat_of_zero_le (show 0 ≤ duration.toInt by omega)
    obtain ⟨z, hz, -⟩ := measureDistance_inside hk (by omega) (by omega)
    have hpositive : ¬ measureDistance duration < ofInt32 0 :=
      not_lt_zero hz (show (ofInt32 0).toModel.unpack = .zero .positive from rfl)
    rw [if_pos hinside]
    simp only [if_neg hpositive, toInt32_product hk (by omega) (by omega)]
    cases sendFrame SENSOR_DISTANCE (duration * 100 / 58) UNIT_CM with
    | none => rfl
    | some frame => rfl
  · have hnegative : (-1.0 : Float32) < ofInt32 0 := by decide
    rw [if_neg hinside, measureDistance_outside hinside]
    simp only [if_pos hnegative]
    rfl

end SensorNode

end SecurePipe
