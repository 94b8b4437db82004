import Mathlib.Algebra.Order.Field.Power
import Mathlib.Data.Nat.Cast.Order.Field
import Mathlib.Data.Rat.Floor
import Mathlib.Tactic.Linarith
import Mathlib.Tactic.Positivity
import Mathlib.Tactic.Ring

/-!
# SecurePipe.Lib.Binary32

Arithmetic in `Float32`, as arithmetic on rational numbers.

`HasValue f s x` says that `f` is a normal number with the sign `s` and the absolute value `x`. Each
operation on such numbers gives one whose value is `Near` that of the exact result: off by one
unit in the last place at most, and not at all if the exact result can be represented
(`gives_mul`, `gives_div`, `gives_ofInt32`). Comparisons and the cast to an integer are those
of the values. `ofInt32` and `toInt32` are the conversions between a C `long` and a `float`.

All results are for magnitudes between `2 ^ (-100)` and `2 ^ 100`, well within the normal numbers.
-/

namespace Binary32

open Float.Model Float.Model.UnpackedFloat

/-! ### Shifting and rounding a mantissa -/

theorem shiftRight_succ (em : ExtendedMantissa) (k : Nat) :
    em >>> (k + 1) = (em >>> k).shiftRightOne := rfl

theorem mantissa_shiftRight (em : ExtendedMantissa) (k : Nat) :
    (em >>> k).mantissa = em.mantissa / 2 ^ k := by
  induction k with
  | zero => exact (Nat.div_one _).symm
  | succ k ih =>
      rw [shiftRight_succ, ExtendedMantissa.shiftRightOne, ih, Nat.div_div_eq_div_mul, Nat.pow_succ]

theorem accuracy_eq_exact (em : ExtendedMantissa) :
    em.accuracy = .exact ↔ em.roundBit = false ∧ em.stickyBit = false := by
  obtain ⟨mantissa, roundBit, stickyBit⟩ := em
  cases roundBit <;> cases stickyBit <;> simp [ExtendedMantissa.accuracy]

/-- A shift is exact if only zeros are shifted out. -/
theorem accuracy_shiftRight {em : ExtendedMantissa} {k : Nat} (h : em.accuracy = .exact)
    (hdvd : 2 ^ k ∣ em.mantissa) : (em >>> k).accuracy = .exact := by
  induction k with
  | zero => exact h
  | succ k ih =>
      have hexact := ih (Nat.dvd_trans (Nat.pow_dvd_pow 2 (Nat.le_succ k)) hdvd)
      rw [accuracy_eq_exact] at hexact ⊢
      have heven : (em >>> k).mantissa % 2 = 0 := by
        rw [mantissa_shiftRight]
        exact Nat.mod_eq_zero_of_dvd (Nat.dvd_div_of_mul_dvd (Nat.pow_succ 2 k ▸ hdvd))
      rw [shiftRight_succ, ExtendedMantissa.shiftRightOne]
      simp [heven, hexact]

/-- A mantissa is rounded down, or up to the next one. -/
theorem roundedMantissa_bounds (em : ExtendedMantissa) :
    em.mantissa ≤ em.roundedMantissa ∧ em.roundedMantissa ≤ em.mantissa + 1 := by
  unfold ExtendedMantissa.roundedMantissa Accuracy.roundToNearestEven
  cases em.accuracy with
  | exact => exact ⟨Nat.le_refl _, Nat.le_succ _⟩
  | inexact ordering =>
      cases ordering with
      | lt => exact ⟨Nat.le_refl _, Nat.le_succ _⟩
      | eq =>
          simp only
          omega
      | gt => exact ⟨Nat.le_succ _, Nat.le_refl _⟩

theorem roundedMantissa_exact {em : ExtendedMantissa} (h : em.accuracy = .exact) :
    em.roundedMantissa = em.mantissa := by
  rw [ExtendedMantissa.roundedMantissa, h]
  rfl

theorem mantissa_ofMantissaAndAccuracy (m : Nat) (acc : Accuracy) :
    (ExtendedMantissa.ofMantissaAndAccuracy m acc).mantissa = m := by
  unfold ExtendedMantissa.ofMantissaAndAccuracy
  split <;> rfl

/-! ### Packing and unpacking -/

theorem unpackSign_packComponents {spec : Format} (s : Sign) (e : BitVec spec.exponentBits)
    (m : BitVec spec.mantissaBitsWithoutImplicit) :
    unpackSign (packComponents spec s e m) = s.toBitVec := by
  delta unpackSign
  ext i hi
  obtain rfl : i = 0 := by omega
  simp [packComponents, BitVec.getLsbD_eq_getElem, BitVec.getLsbD_append, BitVec.getElem_append]

theorem ofBitVec_toBitVec (s : Sign) : Sign.ofBitVec s.toBitVec = s := by
  cases s <;> rfl

/-- The bits of a normal number. -/
theorem unpack_normal {b : BitVec Format.binary32.numBits} (hmax : unpackExponent b ≠ -1#8)
    (hzero : unpackExponent b ≠ 0#8) :
    ∃ hpos, UnpackedFloat.unpack Format.binary32 b =
      .finite (Sign.ofBitVec (unpackSign b)) (1#1 ++ unpackMantissa b).toNat
        ((unpackExponent b).toNat - (127 + 23)) hpos := by
  delta UnpackedFloat.unpack
  dsimp only
  rw [if_neg hmax, if_neg hzero]
  exact ⟨_, rfl⟩

theorem finite_congr {s s' : Sign} {m m' : Nat} {e e' : Int} {h : 0 < m} {h' : 0 < m'}
    (hs : s = s') (hm : m = m') (he : e = e') :
    UnpackedFloat.finite s m e h = .finite s' m' e' h' := by
  subst hs hm he
  rfl

/-- The mantissa has 24 bits, and the exponent is that of a normal number. -/
structure Normal (m : Nat) (e : Int) : Prop where
  le_mantissa : 2 ^ 23 ≤ m
  mantissa_lt : m < 2 ^ 24
  le_exponent : -149 ≤ e
  exponent_le : e ≤ 104

/-- **A normal number survives packing.** -/
theorem unpack_pack {s : Sign} {m : Nat} {e : Int} (hpos : 0 < m) (h : Normal m e) :
    (Float32.Model.pack (.finite s m e hpos)).unpack = .finite s m e hpos := by
  obtain ⟨hlo, hhi, he, he'⟩ := h
  have hlog : m.log2 = 23 := (Nat.log2_eq_iff (by omega)).mpr ⟨hlo, hhi⟩
  obtain ⟨b, hb⟩ : ∃ b : Nat, (e + 150 : Int) = b := Int.eq_ofNat_of_zero_le (by omega)
  have hbiased : (e + ((Format.binary32.exponentBias : Nat) : Int) +
      ((Format.binary32.mantissaBitsWithoutImplicit : Nat) : Int)).toNat = b := by
    show (e + 127 + 23).toNat = b
    omega
  have hpack : UnpackedFloat.pack Format.binary32 (.finite s m e hpos) =
      packComponents Format.binary32 s (BitVec.ofNat 8 b) (BitVec.ofNat 23 m) := by
    delta UnpackedFloat.pack
    dsimp only
    rw [hlog, hbiased, if_neg (by change ¬ 256 ≤ b + 1; omega)]
    exact if_pos (by decide)
  have hexponent : (BitVec.ofNat 8 b).toNat = b := by
    rw [BitVec.toNat_ofNat, Nat.mod_eq_of_lt (by omega)]
  have hmantissa : (1#1 ++ BitVec.ofNat 23 m).toNat = m := by
    rw [BitVec.toNat_append, ← Nat.shiftLeft_add_eq_or_of_lt (BitVec.isLt _), BitVec.toNat_ofNat]
    show 1 * 2 ^ 23 + m % 2 ^ 23 = m
    omega
  have hmax : BitVec.ofNat 8 b ≠ -1#8 := by
    intro heq
    have hnat : b = 255 := hexponent ▸ congrArg BitVec.toNat heq
    omega
  have hzero : BitVec.ofNat 8 b ≠ 0#8 := by
    intro heq
    have hnat : b = 0 := hexponent ▸ congrArg BitVec.toNat heq
    omega
  show UnpackedFloat.unpack Format.binary32
    (UnpackedFloat.pack Format.binary32 (.finite s m e hpos)) = _
  rw [hpack]
  obtain ⟨hpos', hunpack⟩ := unpack_normal
    (b := packComponents Format.binary32 s (BitVec.ofNat 8 b) (BitVec.ofNat 23 m))
    (by rwa [unpackExponent_packComponents]) (by rwa [unpackExponent_packComponents])
  rw [hunpack]
  refine finite_congr ?_ ?_ ?_
  · rw [unpackSign_packComponents, ofBitVec_toBitVec]
  · rwa [unpackMantissa_packComponents]
  · rw [unpackExponent_packComponents, hexponent]
    omega

/-! ### Rounding -/

/-- The number can be written with 24 bits. -/
def Representable (x : ℚ) : Prop := ∃ (k : Nat) (j : Int), k < 2 ^ 24 ∧ x = k * 2 ^ j

/-- What an operation may give for the exact result `x`. -/
structure Near (z x : ℚ) : Prop where
  error : |z - x| ≤ x / 2 ^ 23
  exact : Representable x → z = x

theorem Near.lower {z x : ℚ} (h : Near z x) : x - x / 2 ^ 23 ≤ z := by
  linarith [(abs_le.mp h.error).1]

theorem Near.upper {z x : ℚ} (h : Near z x) : z ≤ x + x / 2 ^ 23 := by
  linarith [(abs_le.mp h.error).2]

/-- The magnitudes of this library. -/
structure Moderate (x : ℚ) : Prop where
  lower : (2 : ℚ) ^ (-100 : Int) ≤ x
  upper : x ≤ (2 : ℚ) ^ (100 : Int)

/-- The mantissa, with its exponent and accuracy, stands for the number. -/
structure Reads (m : Nat) (e : Int) (acc : Accuracy) (x : ℚ) : Prop where
  lower : m * 2 ^ e ≤ x
  upper : x < (m + 1) * 2 ^ e
  exact : x = m * 2 ^ e → acc = .exact

theorem two_zpow_pos (e : Int) : (0 : ℚ) < 2 ^ e := zpow_pos two_pos e

theorem two_zpow_add (e : Int) (k : Nat) : (2 : ℚ) ^ (e + k) = 2 ^ e * 2 ^ k := by
  rw [zpow_add₀ two_ne_zero, zpow_natCast]

theorem targetExponent_eq {m : Nat} {e : Int} (h : -149 ≤ (m.log2 : Int) + e - 23) :
    Format.binary32.targetExponent (totalExponent m e) = m.log2 + e - 23 := by
  unfold Format.targetExponent totalExponent
  show max ((m.log2 : Int) + 1 + e - 24) (3 - 2 ^ 7 - 24) = _
  omega

/-- Shifting a mantissa to the exponent of a normal number leaves 24 bits of it. -/
theorem shiftToTargetExponent_eq {m : Nat} {e : Int} (acc : Accuracy) (hm : 2 ^ 23 ≤ m)
    (he : -149 ≤ (m.log2 : Int) + e - 23) :
    shiftToTargetExponent Format.binary32 m e acc =
      (ExtendedMantissa.ofMantissaAndAccuracy m acc >>> (m.log2 - 23),
        e + ((m.log2 - 23 : Nat) : Int)) := by
  have hlog : 23 ≤ m.log2 := (Nat.le_log2 (by omega)).mpr hm
  have hamount : ((m.log2 : Int) + e - 23 - e).toNat = m.log2 - 23 := by omega
  simp only [shiftToTargetExponent, shiftToExponent, targetExponent_eq he, hamount]

/-- The first 24 bits of a number: where they stand, and how far off they are. -/
theorem leading_bits {m : Nat} {e : Int} {acc : Accuracy} {x : ℚ} (h : Reads m e acc x)
    (hm : 2 ^ 23 ≤ m) (hx : Moderate x) :
    ∃ (k q : Nat), m.log2 = 23 + k ∧ q = m / 2 ^ k ∧ 2 ^ 23 ≤ q ∧ q < 2 ^ 24 ∧
      -124 < e + k ∧ e + k ≤ 77 ∧ (q : ℚ) * 2 ^ (e + k) ≤ x ∧ x < (q + 1) * 2 ^ (e + k) := by
  have hne : m ≠ 0 := by omega
  obtain ⟨k, hk⟩ := Nat.exists_eq_add_of_le ((Nat.le_log2 hne).mpr hm)
  have hlow : 2 ^ 23 * 2 ^ k ≤ m := by
    rw [← Nat.pow_add, ← hk]
    exact Nat.log2_self_le hne
  have hhigh : m < 2 ^ 24 * 2 ^ k := by
    rw [← Nat.pow_add, show 24 + k = m.log2 + 1 by omega]
    exact Nat.lt_log2_self
  have hpos : 0 < 2 ^ k := Nat.two_pow_pos k
  have hdown : m / 2 ^ k * 2 ^ k ≤ m := Nat.div_mul_le_self m _
  have hup : m + 1 ≤ (m / 2 ^ k + 1) * 2 ^ k := by
    have hmod := Nat.mod_lt m hpos
    have hsum := Nat.div_add_mod' m (2 ^ k)
    rw [Nat.add_mul]
    omega
  have hlower : ((m / 2 ^ k : Nat) : ℚ) * 2 ^ (e + k) ≤ x := by
    refine le_trans ?_ h.lower
    rw [two_zpow_add, mul_comm ((2 : ℚ) ^ e), ← mul_assoc]
    exact mul_le_mul_of_nonneg_right (by exact_mod_cast hdown) (two_zpow_pos e).le
  have hupper : x < ((m / 2 ^ k : Nat) + 1 : ℚ) * 2 ^ (e + k) := by
    refine lt_of_lt_of_le h.upper ?_
    rw [two_zpow_add, mul_comm ((2 : ℚ) ^ e), ← mul_assoc]
    exact mul_le_mul_of_nonneg_right (by exact_mod_cast hup) (two_zpow_pos e).le
  have hq : 2 ^ 23 ≤ m / 2 ^ k := (Nat.le_div_iff_mul_le hpos).mpr hlow
  have hq' : m / 2 ^ k < 2 ^ 24 := (Nat.div_lt_iff_lt_mul hpos).mpr hhigh
  refine ⟨k, m / 2 ^ k, hk, rfl, hq, hq', ?_, ?_, hlower, hupper⟩
  · have hlt : (2 : ℚ) ^ (-100 : Int) < 2 ^ (24 + (e + k)) := by
      refine lt_of_le_of_lt hx.lower (lt_of_lt_of_le hupper ?_)
      rw [zpow_add₀ two_ne_zero 24]
      have hsucc : ((m / 2 ^ k : Nat) + 1 : ℚ) ≤ 2 ^ (24 : Int) := by
        exact_mod_cast Nat.succ_le_of_lt hq'
      exact mul_le_mul_of_nonneg_right hsucc (two_zpow_pos _).le
    have hexp := (zpow_lt_zpow_iff_right₀ one_lt_two).mp hlt
    omega
  · have hle : (2 : ℚ) ^ (23 + (e + k)) ≤ 2 ^ (100 : Int) := by
      refine le_trans (le_trans ?_ hlower) hx.upper
      rw [zpow_add₀ two_ne_zero]
      exact mul_le_mul_of_nonneg_right (by exact_mod_cast hq) (two_zpow_pos _).le
    have hexp := (zpow_le_zpow_iff_right₀ one_lt_two).mp hle
    omega

/-- A number that can be written with 24 bits is its first 24 bits. -/
theorem eq_leading_bits {q : Nat} {e : Int} {x : ℚ} (hx : Representable x) (hq : 2 ^ 23 ≤ q)
    (hlower : (q : ℚ) * 2 ^ e ≤ x) (hupper : x < (q + 1) * 2 ^ e) : x = q * 2 ^ e := by
  obtain ⟨n, j, hn, rfl⟩ := hx
  have hle : e ≤ j := by
    by_contra hlt
    have hsmall : (n : ℚ) * 2 ^ j < 2 ^ 23 * 2 ^ e := by
      have hstep : (2 : ℚ) ^ j ≤ 2 ^ (e - 1) :=
        zpow_le_zpow_right₀ one_le_two (by omega)
      calc (n : ℚ) * 2 ^ j < 2 ^ 24 * 2 ^ j :=
            mul_lt_mul_of_pos_right (by exact_mod_cast hn) (two_zpow_pos j)
        _ ≤ 2 ^ 24 * 2 ^ (e - 1) := mul_le_mul_of_nonneg_left hstep (by positivity)
        _ = 2 ^ 23 * 2 ^ e := by rw [zpow_sub_one₀ two_ne_zero]; ring
    have hlarge : (2 : ℚ) ^ 23 * 2 ^ e ≤ q * 2 ^ e :=
      mul_le_mul_of_nonneg_right (by exact_mod_cast hq) (two_zpow_pos e).le
    linarith
  obtain ⟨i, rfl⟩ : ∃ i : Nat, j = e + i := ⟨(j - e).toNat, by omega⟩
  rw [two_zpow_add, mul_comm ((2 : ℚ) ^ e), ← mul_assoc] at hlower hupper ⊢
  have hdown : q ≤ n * 2 ^ i := by
    exact_mod_cast (mul_le_mul_iff_left₀ (two_zpow_pos e)).mp hlower
  have hup : n * 2 ^ i < q + 1 := by
    exact_mod_cast (mul_lt_mul_iff_left₀ (two_zpow_pos e)).mp hupper
  have heq : n * 2 ^ i = q := by omega
  rw [← heq]
  push_cast
  rfl

/-- Once rounded, the mantissa is that of a normal number, possibly one exponent further. -/
theorem normal_rounded {r : Nat} {e : Int} (hlo : 2 ^ 23 ≤ r) (hhi : r ≤ 2 ^ 24) (he : -149 ≤ e)
    (he' : e ≤ 103) {em : ExtendedMantissa} {e' : Int}
    (h : shiftToTargetExponent Format.binary32 r e .exact = (em, e')) :
    Normal em.mantissa e' ∧ (em.mantissa : ℚ) * 2 ^ e' = r * 2 ^ e := by
  have hlog : 23 ≤ r.log2 := (Nat.le_log2 (by omega)).mpr hlo
  rw [shiftToTargetExponent_eq .exact hlo (by omega)] at h
  obtain ⟨rfl, rfl⟩ := Prod.mk.inj h
  rw [mantissa_shiftRight, mantissa_ofMantissaAndAccuracy]
  rcases Nat.lt_or_eq_of_le hhi with hlt | rfl
  · have hlog' : r.log2 = 23 := (Nat.log2_eq_iff (by omega)).mpr ⟨hlo, hlt⟩
    rw [hlog']
    simpa using ⟨hlo, hlt, he, by omega⟩
  · rw [Nat.log2_two_pow]
    refine ⟨⟨by decide, by decide, by omega, by omega⟩, ?_⟩
    rw [two_zpow_add]
    norm_num
    ring

/-- What is lost by rounding. -/
theorem near_rounded {m k : Nat} {e : Int} {acc : Accuracy} {x : ℚ} (h : Reads m e acc x)
    (hq : 2 ^ 23 ≤ m / 2 ^ k) (hlower : ((m / 2 ^ k : Nat) : ℚ) * 2 ^ (e + k) ≤ x)
    (hupper : x < ((m / 2 ^ k : Nat) + 1) * 2 ^ (e + k)) :
    Near ((ExtendedMantissa.ofMantissaAndAccuracy m acc >>> k).roundedMantissa * 2 ^ (e + k)) x := by
  generalize hem : ExtendedMantissa.ofMantissaAndAccuracy m acc >>> k = em
  have hmantissa : em.mantissa = m / 2 ^ k := by
    rw [← hem, mantissa_shiftRight, mantissa_ofMantissaAndAccuracy]
  obtain ⟨hr, hr'⟩ := roundedMantissa_bounds em
  rw [hmantissa] at hr hr'
  have hpos := two_zpow_pos (e + k)
  refine ⟨?_, fun hrep => ?_⟩
  · have hdown : ((m / 2 ^ k : Nat) : ℚ) * 2 ^ (e + k) ≤ em.roundedMantissa * 2 ^ (e + k) :=
      mul_le_mul_of_nonneg_right (by exact_mod_cast hr) hpos.le
    have hup : (em.roundedMantissa : ℚ) * 2 ^ (e + k) ≤
        ((m / 2 ^ k : Nat) + 1) * 2 ^ (e + k) :=
      mul_le_mul_of_nonneg_right (by exact_mod_cast hr') hpos.le
    have hulp : (2 : ℚ) ^ (e + k) ≤ x / 2 ^ 23 := by
      rw [le_div_iff₀ (by positivity), mul_comm]
      exact le_trans (mul_le_mul_of_nonneg_right (by exact_mod_cast hq) hpos.le) hlower
    rw [abs_le]
    constructor <;> linarith
  · -- nothing but zeros lies behind the first 24 bits
    have hx := eq_leading_bits hrep hq hlower hupper
    have hfull : x = ((m / 2 ^ k * 2 ^ k : Nat) : ℚ) * 2 ^ e := by
      rw [hx, two_zpow_add]
      push_cast
      ring
    have hm : m = m / 2 ^ k * 2 ^ k := by
      have hle : m ≤ m / 2 ^ k * 2 ^ k := by
        have hle' := h.lower
        rw [hfull] at hle'
        exact_mod_cast (mul_le_mul_iff_left₀ (two_zpow_pos e)).mp hle'
      exact Nat.le_antisymm hle (Nat.div_mul_le_self m _)
    have hacc : acc = .exact := h.exact (by rw [hfull, ← hm])
    have hexact : em.accuracy = .exact := by
      rw [← hem, hacc]
      exact accuracy_shiftRight rfl (Dvd.intro_left _ hm.symm)
    rw [roundedMantissa_exact hexact, hmantissa, hx]

/-- **Rounding** to 24 bits. -/
theorem roundWithAccuracy_near (s : Sign) {m : Nat} {e : Int} {acc : Accuracy} {x : ℚ}
    (h : Reads m e acc x) (hm : 2 ^ 23 ≤ m) (hx : Moderate x) :
    ∃ m' e', ∃ hpos : 0 < m', roundWithAccuracy Format.binary32 s m e acc = .finite s m' e' hpos ∧
      Normal m' e' ∧ Near (m' * 2 ^ e') x := by
  obtain ⟨k, q, hk, rfl, hq, hq', hlo, hhi, hlower, hupper⟩ := leading_bits h hm hx
  have hnear := near_rounded h hq hlower hupper
  have hfirst : shiftToTargetExponent Format.binary32 m e acc =
      (ExtendedMantissa.ofMantissaAndAccuracy m acc >>> k, e + k) := by
    rw [shiftToTargetExponent_eq acc hm (by omega), hk, Nat.add_sub_cancel_left]
  have hbounds := roundedMantissa_bounds (ExtendedMantissa.ofMantissaAndAccuracy m acc >>> k)
  rw [mantissa_shiftRight, mantissa_ofMantissaAndAccuracy] at hbounds
  generalize ExtendedMantissa.ofMantissaAndAccuracy m acc >>> k = em at hfirst hnear hbounds
  obtain ⟨em', e', hsecond⟩ : ∃ em' e', shiftToTargetExponent Format.binary32 em.roundedMantissa
      (e + k) .exact = (em', e') := ⟨_, _, rfl⟩
  obtain ⟨hnormal, hvalue⟩ :=
    normal_rounded (by omega) (by omega) (by omega) (by omega) hsecond
  have hpos : 0 < em'.mantissa := lt_of_lt_of_le (by decide) hnormal.le_mantissa
  refine ⟨em'.mantissa, e', hpos, ?_, hnormal, hvalue ▸ hnear⟩
  rw [roundWithAccuracy, hfirst]
  dsimp only
  rw [hsecond]
  exact dif_neg hpos.ne'

/-! ### Numbers and their values -/

/-- A normal number with this sign and this absolute value. -/
def HasValue (f : Float32) (s : Sign) (x : ℚ) : Prop :=
  ∃ m e, ∃ hpos : 0 < m, f.toModel.unpack = .finite s m e hpos ∧ Normal m e ∧ x = m * 2 ^ e

/-- An operation gives a number close to the exact result. -/
def Gives (f : Float32) (s : Sign) (x : ℚ) : Prop := ∃ z, HasValue f s z ∧ Near z x

theorem gives_round {f : Float32} {s : Sign} {m : Nat} {e : Int} {acc : Accuracy} {x : ℚ}
    (hf : f.toModel = Float32.Model.pack (roundWithAccuracy Format.binary32 s m e acc))
    (h : Reads m e acc x) (hm : 2 ^ 23 ≤ m) (hx : Moderate x) : Gives f s x := by
  obtain ⟨m', e', hpos, hround, hnormal, hnear⟩ := roundWithAccuracy_near s h hm hx
  refine ⟨m' * 2 ^ e', ⟨m', e', hpos, ?_, hnormal, rfl⟩, hnear⟩
  rw [hf, hround]
  exact unpack_pack hpos hnormal

/-- Nothing is lost where the exact result can be represented. -/
theorem Gives.exact {f : Float32} {s : Sign} {x : ℚ} (h : Gives f s x) (hx : Representable x) :
    HasValue f s x := by
  obtain ⟨z, hz, hnear⟩ := h
  rwa [hnear.exact hx] at hz

theorem reads_exact {m : Nat} {e : Int} {x : ℚ} (h : x = m * 2 ^ e) : Reads m e .exact x := by
  have hpos := two_zpow_pos e
  exact ⟨h.ge, by rw [h, add_mul]; linarith, fun _ => rfl⟩

variable {f g : Float32} {s t : Sign} {x y : ℚ}

/-- **Multiplication.** -/
theorem gives_mul (hf : HasValue f s x) (hg : HasValue g t y) (hxy : Moderate (x * y)) :
    Gives (f * g) (s * t) (x * y) := by
  obtain ⟨m, e, hpos, hunpack, hnormal, rfl⟩ := hf
  obtain ⟨m', e', hpos', hunpack', hnormal', rfl⟩ := hg
  have hmodel : (f * g).toModel =
      Float32.Model.pack (roundWithAccuracy Format.binary32 (s * t) (m * m') (e + e') .exact) := by
    show Float32.Model.pack
      (UnpackedFloat.mul Format.binary32 f.toModel.unpack g.toModel.unpack) = _
    rw [hunpack, hunpack']
    rfl
  refine gives_round hmodel (reads_exact ?_) ?_ hxy
  · rw [zpow_add₀ two_ne_zero]
    push_cast
    ring
  · exact le_trans hnormal.le_mantissa (Nat.le_mul_of_pos_right m hpos')

/-- A quotient is read off with the remainder as its accuracy. -/
theorem reads_div {n d : Nat} {e : Int} (hd : 0 < d) :
    Reads (n / d) e (accuracyOfFraction (n % d) d) ((n : ℚ) / d * 2 ^ e) := by
  have hd' : (0 : ℚ) < d := by exact_mod_cast hd
  have hpos := two_zpow_pos e
  have hsplit : (n : ℚ) = (n / d : Nat) * d + (n % d : Nat) := by
    exact_mod_cast (Nat.div_add_mod' n d).symm
  have hmod : ((n % d : Nat) : ℚ) < d := by exact_mod_cast Nat.mod_lt n hd
  refine ⟨?_, ?_, fun heq => ?_⟩
  · exact mul_le_mul_of_nonneg_right Nat.cast_div_le hpos.le
  · refine mul_lt_mul_of_pos_right ?_ hpos
    rw [div_lt_iff₀ hd', hsplit]
    linarith
  · have hquot := mul_right_cancel₀ hpos.ne' heq
    rw [div_eq_iff hd'.ne'] at hquot
    have hzero : n % d = 0 := by
      have hcast : ((n % d : Nat) : ℚ) = 0 := by linarith
      exact_mod_cast hcast
    rw [hzero]
    rfl

theorem log2_of_normal {m : Nat} {e : Int} (h : Normal m e) : m.log2 = 23 :=
  (Nat.log2_eq_iff (by have := h.le_mantissa; omega)).mpr ⟨h.le_mantissa, h.mantissa_lt⟩

/-- 24 more bits of the dividend are enough for 24 bits of the quotient. -/
theorem divCore_eq {m m' : Nat} {e e' : Int} (h : Normal m e) (h' : Normal m' e')
    (he : -125 ≤ e - e') :
    divCore Format.binary32 m e m' e' =
      (m * 2 ^ 24 / m', e - e' - 24, accuracyOfFraction (m * 2 ^ 24 % m') m') := by
  have htarget : Format.binary32.targetExponent (totalExponent m e - totalExponent m' e') =
      e - e' - 24 := by
    unfold Format.targetExponent totalExponent
    rw [log2_of_normal h, log2_of_normal h']
    show max (((23 : Nat) : Int) + 1 + e - (((23 : Nat) : Int) + 1 + e') - 24) (3 - 2 ^ 7 - 24) = _
    omega
  have hamount : (e - e' - (e - e' - 24)).toNat = 24 := by omega
  have hmin : min (e - e') (e - e' - 24) = e - e' - 24 := by omega
  simp only [divCore, htarget, hmin, hamount, Nat.shiftLeft_eq]

/-- **Division.** -/
theorem gives_div (hf : HasValue f s x) (hg : HasValue g t y) (hxy : Moderate (x / y)) :
    Gives (f / g) (s / t) (x / y) := by
  obtain ⟨m, e, hpos, hunpack, hnormal, rfl⟩ := hf
  obtain ⟨m', e', hpos', hunpack', hnormal', rfl⟩ := hg
  have hm' : (0 : ℚ) < m' := by exact_mod_cast hpos'
  have hvalue : (m : ℚ) * 2 ^ e / (m' * 2 ^ e') =
      ((m * 2 ^ 24 : Nat) : ℚ) / m' * 2 ^ (e - e' - 24) := by
    rw [zpow_sub₀ two_ne_zero, zpow_sub₀ two_ne_zero]
    push_cast
    field_simp
  have he : -125 ≤ e - e' := by
    have hlt : (2 : ℚ) ^ (-100 : Int) < 2 ^ (1 + (e - e')) := by
      refine lt_of_le_of_lt hxy.lower ?_
      have hhigh : (m : ℚ) < 2 * m' := by
        have hnat : m < 2 * m' := by
          have := hnormal.mantissa_lt
          have := hnormal'.le_mantissa
          omega
        exact_mod_cast hnat
      rw [zpow_add₀ two_ne_zero, zpow_sub₀ two_ne_zero, div_lt_iff₀ (by positivity)]
      field_simp
      simpa using hhigh
    have hexp := (zpow_lt_zpow_iff_right₀ one_lt_two).mp hlt
    omega
  have hmodel : (f / g).toModel = Float32.Model.pack (roundWithAccuracy Format.binary32 (s / t)
      (m * 2 ^ 24 / m') (e - e' - 24) (accuracyOfFraction (m * 2 ^ 24 % m') m')) := by
    show Float32.Model.pack
      (UnpackedFloat.div Format.binary32 f.toModel.unpack g.toModel.unpack) = _
    rw [hunpack, hunpack']
    show Float32.Model.pack (roundWithAccuracy Format.binary32 (s / t)
      (divCore Format.binary32 m e m' e').1 (divCore Format.binary32 m e m' e').2.1
      (divCore Format.binary32 m e m' e').2.2) = _
    rw [divCore_eq hnormal hnormal' he]
  rw [hvalue] at hxy ⊢
  refine gives_round hmodel (reads_div hpos') ?_ hxy
  rw [Nat.le_div_iff_mul_le hpos']
  have := hnormal.le_mantissa
  have := hnormal'.mantissa_lt
  omega

/-- A whole number from 1 on is shifted until 24 bits of it can be read. -/
theorem gives_round_nat {n : Nat} (hn : 0 < n)
    (hf : f.toModel = Float32.Model.pack (UnpackedFloat.round Format.binary32 s n 0))
    (hmoderate : Moderate n) : Gives f s n := by
  have htarget : Format.binary32.targetExponent (totalExponent n 0) =
      max ((n.log2 : Int) - 23) (-149) := by
    unfold Format.targetExponent totalExponent
    show max ((n.log2 : Int) + 1 + 0 - 24) (3 - 2 ^ 7 - 24) = _
    omega
  have hamount : (-max ((n.log2 : Int) - 23) (-149)).toNat = 23 - n.log2 := by omega
  have hround : UnpackedFloat.round Format.binary32 s n 0 =
      roundWithAccuracy Format.binary32 s (n * 2 ^ (23 - n.log2)) (-((23 - n.log2 : Nat) : Int))
        .exact := by
    simp only [UnpackedFloat.round, decreaseExponent, htarget, Int.zero_sub, hamount,
      Nat.shiftLeft_eq]
  rw [hround] at hf
  refine gives_round hf (reads_exact ?_) ?_ hmoderate
  · rw [zpow_neg, zpow_natCast]
    push_cast
    field_simp
  · have hlow := Nat.log2_self_le hn.ne'
    calc 2 ^ 23 ≤ 2 ^ (n.log2 + (23 - n.log2)) := Nat.pow_le_pow_right two_pos (by omega)
      _ = 2 ^ n.log2 * 2 ^ (23 - n.log2) := Nat.pow_add 2 _ _
      _ ≤ n * 2 ^ (23 - n.log2) := Nat.mul_le_mul_right _ hlow

theorem moderate_nat {n : Nat} (hn : 0 < n) (hn' : n ≤ 2 ^ 100) : Moderate n := by
  constructor
  · have hone : (1 : ℚ) ≤ n := by exact_mod_cast hn
    refine le_trans ?_ hone
    exact zpow_le_one_of_nonpos₀ one_le_two (by decide)
  · exact_mod_cast hn'

/-- A `long` converted to a `float`. -/
def ofInt32 (n : Int32) : Float32 := .ofModel (.ofInt32 n)

theorem moderate_int32 {n : Int32} {k : Nat} (hk : 0 < k) (h : n.toInt.natAbs = k) :
    Moderate k := by
  refine moderate_nat hk ?_
  have := n.toInt_lt
  have := n.le_toInt
  omega

/-- **Conversion of a positive integer.** -/
theorem gives_ofInt32 {n : Int32} {k : Nat} (hk : 0 < k) (h : n.toInt = k) :
    Gives (ofInt32 n) .positive k := by
  refine gives_round_nat hk ?_ (moderate_int32 hk (by rw [h, Int.natAbs_natCast]))
  have hcompare : compare (k : Int) 0 = .gt := Int.compare_eq_gt.mpr (by omega)
  simp only [ofInt32, Float32.Model.ofInt32, UnpackedFloat.ofInt32, h, UnpackedFloat.ofInt,
    UnpackedFloat.normalize, hcompare, Int.toNat_natCast]

theorem hasValue_ofInt32 {n : Int32} {k : Nat} (hk : 0 < k) (hk' : k < 2 ^ 24) (h : n.toInt = k) :
    HasValue (ofInt32 n) .positive k :=
  (gives_ofInt32 hk h).exact ⟨k, 0, hk', by simp⟩

/-- **Conversion of a negative integer.** -/
theorem gives_ofInt32_neg {n : Int32} {k : Nat} (hk : 0 < k) (h : n.toInt = -k) :
    Gives (ofInt32 n) .negative k := by
  refine gives_round_nat hk ?_ (moderate_int32 hk (by rw [h, Int.natAbs_neg, Int.natAbs_natCast]))
  have hcompare : compare (-k : Int) 0 = .lt := Int.compare_eq_lt.mpr (by omega)
  simp only [ofInt32, Float32.Model.ofInt32, UnpackedFloat.ofInt32, h, UnpackedFloat.ofInt,
    UnpackedFloat.normalize, hcompare, Int.neg_neg, Int.toNat_natCast]

/-! ### Comparison -/

/-- Of two normal numbers, the one with the larger exponent is larger. -/
theorem value_lt_of_exponent_lt {m m' : Nat} {e e' : Int} (h : Normal m e) (h' : Normal m' e')
    (hlt : e < e') : (m : ℚ) * 2 ^ e < m' * 2 ^ e' := by
  have hstep : (2 : ℚ) * 2 ^ e ≤ 2 ^ e' := by
    rw [← zpow_one_add₀ two_ne_zero]
    exact zpow_le_zpow_right₀ one_le_two (by omega)
  have hm : (m : ℚ) < 2 ^ 24 := by exact_mod_cast h.mantissa_lt
  have hm' : (2 : ℚ) ^ 23 ≤ m' := by exact_mod_cast h'.le_mantissa
  calc (m : ℚ) * 2 ^ e < 2 ^ 24 * 2 ^ e := mul_lt_mul_of_pos_right hm (two_zpow_pos e)
    _ = 2 ^ 23 * (2 * 2 ^ e) := by ring
    _ ≤ 2 ^ 23 * 2 ^ e' := mul_le_mul_of_nonneg_left hstep (by positivity)
    _ ≤ m' * 2 ^ e' := mul_le_mul_of_nonneg_right hm' (two_zpow_pos e').le

theorem value_lt_iff {m m' : Nat} {e e' : Int} (h : Normal m e) (h' : Normal m' e') :
    (m : ℚ) * 2 ^ e < m' * 2 ^ e' ↔ e < e' ∨ e = e' ∧ m < m' := by
  rcases lt_trichotomy e e' with hlt | rfl | hgt
  · simp [value_lt_of_exponent_lt h h' hlt, hlt]
  · rw [mul_lt_mul_iff_left₀ (two_zpow_pos e)]
    simp
  · have := value_lt_of_exponent_lt h' h hgt
    constructor
    · intro hlt
      exact absurd hlt this.not_gt
    · omega

theorem lt_unpack (f g : Float32) :
    f < g ↔ f.toModel.unpack.compare g.toModel.unpack = some .lt := by
  show decide (f.toModel < g.toModel) = true ↔ _
  rw [decide_eq_true_iff]
  show (f.toModel.unpack.compare g.toModel.unpack == some .lt) = true ↔ _
  rw [beq_iff_eq]

/-- **Comparison** of positive numbers. -/
theorem lt_iff (hf : HasValue f .positive x) (hg : HasValue g .positive y) : f < g ↔ x < y := by
  obtain ⟨m, e, hpos, hunpack, hnormal, rfl⟩ := hf
  obtain ⟨m', e', hpos', hunpack', hnormal', rfl⟩ := hg
  rw [lt_unpack, hunpack, hunpack', value_lt_iff hnormal hnormal']
  show some ((compare e e').then (compare m m')) = some .lt ↔ _
  rw [Option.some.injEq, Ordering.then_eq_lt, compare_lt_iff_lt, compare_eq_iff_eq,
    compare_lt_iff_lt]

/-- A negative number is smaller than a positive one. -/
theorem lt_of_negative (hf : HasValue f .negative x) (hg : HasValue g .positive y) : f < g := by
  obtain ⟨m, e, hpos, hunpack, -, -⟩ := hf
  obtain ⟨m', e', hpos', hunpack', -, -⟩ := hg
  rw [lt_unpack, hunpack, hunpack']
  rfl

/-- A positive number is not smaller than zero. -/
theorem not_lt_zero (hf : HasValue f .positive x) (hg : g.toModel.unpack = .zero t) :
    ¬ f < g := by
  obtain ⟨m, e, hpos, hunpack, -, -⟩ := hf
  rw [lt_unpack, hunpack, hg]
  show some Ordering.gt ≠ some .lt
  simp

/-! ### Conversion to an integer -/

/-- A `float` converted to a `long`. -/
def toInt32 (f : Float32) : Int32 := f.toModel.toInt32

/-- The digits behind the point are cut off. -/
theorem roundToInt_eq (m : Nat) (e : Int) :
    roundToInt .positive m e = ⌊(m : ℚ) * 2 ^ e⌋ := by
  simp only [roundToInt, decreaseExponent, shiftToExponent, mantissa_shiftRight,
    mantissa_ofMantissaAndAccuracy, Sign.apply, Nat.shiftLeft_eq]
  rcases Int.le_total 0 e with hle | hle
  · obtain ⟨i, rfl⟩ := Int.eq_ofNat_of_zero_le hle
    have hfloor : ⌊(m : ℚ) * 2 ^ (i : Int)⌋ = ((m * 2 ^ i : Nat) : Int) := by
      rw [zpow_natCast, ← Int.floor_natCast (R := ℚ) (m * 2 ^ i)]
      push_cast
      rfl
    rw [hfloor]
    simp
  · obtain ⟨i, hi⟩ := Int.eq_ofNat_of_zero_le (Int.neg_nonneg_of_nonpos hle)
    obtain rfl : e = -i := by omega
    have hfloor : ⌊(m : ℚ) * 2 ^ (-i : Int)⌋ = ((m / 2 ^ i : Nat) : Int) := by
      have hdiv := Rat.floor_natCast_div_natCast m (2 ^ i)
      push_cast at hdiv
      rw [zpow_neg, zpow_natCast, ← div_eq_mul_inv, hdiv]
      push_cast
      rfl
    rw [hfloor]
    simp

/-- **Conversion to an integer.** -/
theorem toInt32_eq (hf : HasValue f .positive x) {n : Int32} (hlower : n.toInt ≤ x)
    (hupper : x < n.toInt + 1) : toInt32 f = n := by
  obtain ⟨m, e, hpos, hunpack, hnormal, rfl⟩ := hf
  have hfloor : ⌊(m : ℚ) * 2 ^ e⌋ = n.toInt := Int.floor_eq_iff.mpr ⟨hlower, hupper⟩
  have hclamp : Int32.ofIntClamp n.toInt = n :=
    Int32.ofIntLE_eq_ofIntClamp.symm.trans (Int32.ofIntLE_toInt n)
  rw [toInt32, Float32.Model.toInt32, hunpack]
  show Int32.ofIntClamp (roundToInt .positive m e) = n
  rw [roundToInt_eq, hfloor, hclamp]

end Binary32
