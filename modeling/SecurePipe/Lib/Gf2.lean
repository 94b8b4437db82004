import Mathlib.Algebra.CharP.Two
import Mathlib.Algebra.Field.ZMod
import Mathlib.Data.Nat.BitIndices
import Mathlib.RingTheory.AdjoinRoot

/-!
# SecurePipe.Lib.Gf2

Polynomials over GF(2) as the bits of numbers, and shift registers with feedback.

The polynomial of a number has the number's bits as coefficients (`poly`), so exclusive or is
addition and a shift is a multiplication by `X`. One step of a register with feedback `g`
multiplies by `X` **modulo the generator** `X ^ w + poly g` (`residue_step`), and what the
register holds is a remainder (`modByMonic_generator`). A generator divides few patterns of
ones: none that fits in `w` places (`not_dvd_burst`), none with an odd number of ones if
`X + 1` divides it (`not_dvd_odd`), none with two ones that lie closer than the register takes
to come round to `1` (`not_dvd_pair`), and so none with up to three ones in a word that is
short enough (`not_dvd_few`).
-/

open Polynomial

namespace Gf2

/-! ### Patterns of ones -/

/-- The polynomial with ones at these places. -/
noncomputable def pattern (S : Finset ℕ) : (ZMod 2)[X] := ∑ k ∈ S, X ^ k

theorem coeff_pattern (S : Finset ℕ) (k : ℕ) : (pattern S).coeff k = if k ∈ S then 1 else 0 := by
  rw [pattern, finsetSum_coeff]
  simp only [coeff_X_pow]
  exact Finset.sum_ite_eq S k fun _ => 1

theorem pattern_injective : Function.Injective pattern := by
  intro S T h
  ext k
  have hcoeff := congrArg (fun p => p.coeff k) h
  simp only [coeff_pattern] at hcoeff
  by_cases hS : k ∈ S
  · by_cases hT : k ∈ T
    · exact iff_of_true hS hT
    · rw [if_pos hS, if_neg hT] at hcoeff
      exact absurd hcoeff one_ne_zero
  · by_cases hT : k ∈ T
    · rw [if_neg hS, if_pos hT] at hcoeff
      exact absurd hcoeff.symm one_ne_zero
    · exact iff_of_false hS hT

theorem pattern_eq_zero {S : Finset ℕ} : pattern S = 0 ↔ S = ∅ := by
  have hempty : pattern ∅ = 0 := Finset.sum_empty
  rw [← hempty]
  exact pattern_injective.eq_iff

theorem degree_pattern_lt {S : Finset ℕ} {n : ℕ} (h : ∀ k ∈ S, k < n) : (pattern S).degree < n := by
  rw [degree_lt_iff_coeff_zero]
  intro k hk
  rw [coeff_pattern, if_neg fun hmem => absurd (h k hmem) (not_lt.mpr hk)]

/-- Moving the ones up. -/
theorem pattern_image_add (S : Finset ℕ) (a : ℕ) :
    pattern (S.image (a + ·)) = X ^ a * pattern S := by
  rw [pattern, Finset.sum_image fun _ _ _ _ h => Nat.add_left_cancel h, pattern, Finset.mul_sum]
  exact Finset.sum_congr rfl fun k _ => pow_add X a k

theorem eval_one_pattern (S : Finset ℕ) : (pattern S).eval 1 = S.card := by
  rw [pattern, eval_finsetSum]
  simp

/-! ### Numbers -/

/-- The places of the ones of a number. -/
def ones (n : ℕ) : Finset ℕ := n.bitIndices.toFinset

@[simp] theorem mem_ones {n k : ℕ} : k ∈ ones n ↔ n.testBit k = true := by
  rw [ones, List.mem_toFinset, Nat.mem_bitIndices]

/-- The polynomial whose coefficients are the bits of the number. -/
noncomputable def poly (n : ℕ) : (ZMod 2)[X] := pattern (ones n)

theorem coeff_poly (n k : ℕ) : (poly n).coeff k = if n.testBit k then 1 else 0 := by
  rw [poly, coeff_pattern]
  simp only [mem_ones]

@[simp] theorem poly_zero : poly 0 = 0 := pattern_eq_zero.mpr (by simp [ones])

@[simp] theorem poly_one : poly 1 = 1 := by
  rw [poly, ones, Nat.bitIndices_one]
  simp [pattern]

theorem poly_injective : Function.Injective poly := by
  intro a b h
  refine Nat.eq_of_testBit_eq fun k => ?_
  have hmem := congrArg (k ∈ ·) (pattern_injective h)
  simp only [mem_ones, eq_iff_iff] at hmem
  exact Bool.eq_iff_iff.mpr hmem

/-- Exclusive or is addition. -/
theorem poly_xor (a b : ℕ) : poly (a ^^^ b) = poly a + poly b := by
  ext k
  rw [coeff_add, coeff_poly, coeff_poly, coeff_poly, Nat.testBit_xor]
  cases a.testBit k <;> cases b.testBit k <;> decide

/-- A number put together from a high part and a low part. -/
theorem poly_append {w b : ℕ} (a : ℕ) (hb : b < 2 ^ w) :
    poly (a * 2 ^ w + b) = poly a * X ^ w + poly b := by
  ext k
  rw [coeff_add, coeff_mul_X_pow', coeff_poly, coeff_poly, coeff_poly, Nat.mul_comm,
    Nat.testBit_two_pow_mul_add a hb]
  by_cases hk : k < w
  · rw [if_pos hk, if_neg (not_le.mpr hk), zero_add]
  · have hhigh : b.testBit k = false :=
      Nat.testBit_lt_two_pow (hb.trans_le (Nat.pow_le_pow_right (by decide) (not_lt.mp hk)))
    rw [if_neg hk, if_pos (not_lt.mp hk), hhigh, if_neg Bool.false_ne_true, add_zero]

theorem degree_poly_lt {n w : ℕ} (h : n < 2 ^ w) : (poly n).degree < w := by
  refine degree_pattern_lt fun k hk => ?_
  rw [mem_ones] at hk
  by_contra hle
  rw [Nat.testBit_lt_two_pow (h.trans_le (Nat.pow_le_pow_right (by decide) (not_lt.mp hle)))] at hk
  exact Bool.false_ne_true hk

/-! ### Shift registers -/

variable {w : ℕ}

/-- One step of a register with feedback `g`. -/
def step (g s : BitVec w) : BitVec w := if s.msb then (s <<< 1) ^^^ g else s <<< 1

/-- The generator of the register. -/
noncomputable def generator (g : BitVec w) : (ZMod 2)[X] := X ^ w + poly g.toNat

theorem degree_generator (g : BitVec w) : (generator g).degree = w := by
  have hlow : (poly g.toNat).degree < (X ^ w : (ZMod 2)[X]).degree := by
    rw [degree_X_pow]
    exact degree_poly_lt g.isLt
  rw [generator, degree_add_eq_left_of_degree_lt hlow, degree_X_pow]

theorem monic_generator (g : BitVec w) : (generator g).Monic :=
  monic_X_pow_add (degree_poly_lt g.isLt)

/-- What is left of a number modulo the generator. -/
noncomputable def residue (g : BitVec w) (n : ℕ) : AdjoinRoot (generator g) :=
  AdjoinRoot.mk (generator g) (poly n)

theorem residue_zero (g : BitVec w) : residue g 0 = 0 := by rw [residue, poly_zero, map_zero]

theorem residue_one (g : BitVec w) : residue g 1 = 1 := by rw [residue, poly_one, map_one]

theorem residue_xor (g : BitVec w) (a b : ℕ) :
    residue g (a ^^^ b) = residue g a + residue g b := by
  rw [residue, poly_xor, map_add, residue, residue]

/-- Everything is its own opposite. -/
theorem residue_add_self (g : BitVec w) (n : ℕ) : residue g n + residue g n = 0 := by
  rw [← residue_xor, Nat.xor_self, residue_zero]

theorem residue_append (g : BitVec w) {k b : ℕ} (a : ℕ) (hb : b < 2 ^ k) :
    residue g (a * 2 ^ k + b) = residue g a * AdjoinRoot.root (generator g) ^ k + residue g b := by
  rw [residue, poly_append a hb, map_add, map_mul, map_pow, AdjoinRoot.mk_X, residue, residue]

/-- Numbers that fit in the register are told apart. -/
theorem residue_toNat_injective (g : BitVec w) :
    Function.Injective fun s : BitVec w => residue g s.toNat := by
  intro s t h
  have hdvd : generator g ∣ poly s.toNat - poly t.toNat := AdjoinRoot.mk_eq_mk.mp h
  have hlt : (poly s.toNat - poly t.toNat).degree < (generator g).degree := by
    rw [degree_generator]
    exact (degree_sub_le _ _).trans_lt (max_lt (degree_poly_lt s.isLt) (degree_poly_lt t.isLt))
  exact BitVec.eq_of_toNat_eq
    (poly_injective (sub_eq_zero.mp (eq_zero_of_dvd_of_degree_lt hdvd hlt)))

/-- What fits in the register is the remainder of everything that leaves the same. -/
theorem modByMonic_generator {g s : BitVec w} {p : (ZMod 2)[X]}
    (h : residue g s.toNat = AdjoinRoot.mk (generator g) p) :
    p %ₘ generator g = poly s.toNat := by
  have hmod := congrArg (AdjoinRoot.modByMonicHom (monic_generator g)) h
  rw [residue, AdjoinRoot.modByMonicHom_mk, AdjoinRoot.modByMonicHom_mk] at hmod
  rw [← hmod, modByMonic_eq_self_iff (monic_generator g), degree_generator]
  exact degree_poly_lt s.isLt

theorem root_pow_width (g : BitVec w) :
    AdjoinRoot.root (generator g) ^ w = residue g g.toNat := by
  rw [← AdjoinRoot.mk_X, ← map_pow, residue, AdjoinRoot.mk_eq_mk, CharTwo.sub_eq_add, generator]

/-- The bit that is shifted out, and what stays. -/
theorem two_mul_toNat (s : BitVec w) :
    s.toNat * 2 ^ 1 = s.msb.toNat * 2 ^ w + (s <<< 1).toNat := by
  have hlt := s.isLt
  rw [BitVec.toNat_shiftLeft, Nat.shiftLeft_eq, BitVec.msb_eq_decide]
  cases w with
  | zero =>
      rw [BitVec.toNat_of_zero_length rfl]
      rfl
  | succ w =>
      rw [Nat.add_sub_cancel, Nat.pow_succ] at *
      by_cases hmsb : 2 ^ w ≤ s.toNat
      · rw [decide_eq_true hmsb, Bool.toNat_true, one_mul, Nat.mod_eq_sub_mod (by omega),
          Nat.mod_eq_of_lt (by omega)]
        omega
      · rw [decide_eq_false hmsb, Bool.toNat_false, zero_mul, Nat.mod_eq_of_lt (by omega)]
        omega

/-- **One step multiplies by `X`**, modulo the generator. -/
theorem residue_step (g s : BitVec w) :
    residue g (step g s).toNat = AdjoinRoot.root (generator g) * residue g s.toNat := by
  have hshift := residue_append g s.toNat (show 0 < 2 ^ 1 by decide)
  rw [Nat.add_zero, two_mul_toNat, residue_append g _ (s <<< 1).isLt, residue_zero, add_zero, pow_one,
    mul_comm _ (AdjoinRoot.root (generator g))] at hshift
  rw [← hshift]
  unfold step
  cases s.msb with
  | true =>
      rw [if_pos rfl, BitVec.toNat_xor, residue_xor, ← root_pow_width, Bool.toNat_true,
        residue_one, one_mul, add_comm]
  | false => rw [if_neg Bool.false_ne_true, Bool.toNat_false, residue_zero, zero_mul, zero_add]

/-- Many steps. -/
theorem residue_iterate (g s : BitVec w) (n : ℕ) :
    residue g ((step g)^[n] s).toNat =
      AdjoinRoot.root (generator g) ^ n * residue g s.toNat := by
  induction n with
  | zero => rw [Function.iterate_zero_apply, pow_zero, one_mul]
  | succ n ih => rw [Function.iterate_succ_apply', residue_step, ih, pow_succ', mul_assoc]

/-! ### What a generator does not divide -/

theorem exists_image_add {S : Finset ℕ} {a : ℕ} (h : ∀ k ∈ S, a ≤ k) :
    ∃ T : Finset ℕ, S = T.image (a + ·) := by
  refine ⟨S.image (· - a), ?_⟩
  rw [Finset.image_image]
  refine Finset.image_id.symm.trans (Finset.image_congr fun k hk => ?_)
  exact (Nat.add_sub_cancel' (h k hk)).symm

/-- Where the ones start does not matter. -/
theorem dvd_pattern_of_image_add {G : (ZMod 2)[X]} (hG : G.coeff 0 = 1) {T : Finset ℕ} {a : ℕ}
    (h : G ∣ pattern (T.image (a + ·))) : G ∣ pattern T := by
  obtain ⟨q, hq⟩ := X_dvd_sub_C (p := G)
  rw [hG, map_one] at hq
  have hcoprime : IsCoprime G X := ⟨1, -q, by linear_combination hq⟩
  rw [pattern_image_add] at h
  exact (hcoprime.pow_right (n := a)).dvd_of_dvd_mul_left h

/-- **Bursts.** A generator with a constant term divides no pattern of ones that fits in as
many places as the register has. -/
theorem not_dvd_burst {g : BitVec w} (hg : (generator g).coeff 0 = 1) {S : Finset ℕ}
    (hS : S.Nonempty) {a : ℕ} (hwindow : ∀ k ∈ S, a ≤ k ∧ k < a + w) :
    ¬ generator g ∣ pattern S := by
  intro hdvd
  obtain ⟨T, rfl⟩ := exists_image_add fun k hk => (hwindow k hk).1
  have hdegree : (pattern T).degree < (generator g).degree := by
    rw [degree_generator]
    refine degree_pattern_lt fun k hk => ?_
    exact Nat.lt_of_add_lt_add_left (hwindow (a + k) (Finset.mem_image_of_mem _ hk)).2
  have hzero := eq_zero_of_dvd_of_degree_lt (dvd_pattern_of_image_add hg hdvd) hdegree
  rw [pattern_eq_zero] at hzero
  rw [hzero, Finset.image_empty] at hS
  exact Finset.not_nonempty_empty hS

/-- **Odd patterns.** A generator that `X + 1` divides divides no pattern with an odd number
of ones. -/
theorem not_dvd_odd {g : BitVec w} (hg : (generator g).eval 1 = 0) {S : Finset ℕ}
    (hodd : Odd S.card) : ¬ generator g ∣ pattern S := by
  intro ⟨q, hq⟩
  have heval : (pattern S).eval 1 = 0 := by rw [hq, eval_mul, hg, zero_mul]
  rw [eval_one_pattern, ZMod.natCast_eq_zero_iff_even] at heval
  exact Nat.not_even_iff_odd.mpr hodd heval

/-- **Pairs.** A generator with a constant term divides no pattern of two ones, unless the
register comes round to `1` in as many steps as lie between them. -/
theorem not_dvd_pair {g : BitVec w} (hg : (generator g).coeff 0 = 1) {a j : ℕ}
    (hround : (step g)^[j] 1#w ≠ 1#w) : ¬ generator g ∣ pattern {a, a + j} := by
  intro hdvd
  have hj : 0 ≠ j := by
    intro h
    rw [← h] at hround
    exact hround rfl
  have himage : ({a, a + j} : Finset ℕ) = ({0, j} : Finset ℕ).image (a + ·) := by simp
  rw [himage] at hdvd
  have hpair : pattern {0, j} = 1 + X ^ j := by rw [pattern, Finset.sum_pair hj, pow_zero]
  have hroot : AdjoinRoot.root (generator g) ^ j = 1 := by
    have hdvd := dvd_pattern_of_image_add hg hdvd
    rw [hpair, add_comm, ← CharTwo.sub_eq_add] at hdvd
    rw [← AdjoinRoot.mk_X, ← map_pow, ← map_one (AdjoinRoot.mk (generator g))]
    exact AdjoinRoot.mk_eq_mk.mpr hdvd
  refine hround (residue_toNat_injective g ?_)
  dsimp only
  rw [residue_iterate, hroot, one_mul]

theorem exists_pair {S : Finset ℕ} (h : S.card = 2) : ∃ a j, 0 < j ∧ S = {a, a + j} := by
  obtain ⟨a, b, hne, rfl⟩ := Finset.card_eq_two.mp h
  rcases lt_or_gt_of_ne hne with hlt | hlt
  · refine ⟨a, b - a, by omega, ?_⟩
    rw [Nat.add_sub_cancel' hlt.le]
  · refine ⟨b, a - b, by omega, ?_⟩
    rw [Nat.add_sub_cancel' hlt.le, Finset.pair_comm]

/-- **Few ones.** A generator with a constant term that `X + 1` divides divides no pattern of
one, two or three ones below `n`, if its register does not come round to `1` within `n`
steps. -/
theorem not_dvd_few {g : BitVec w} (hcoeff : (generator g).coeff 0 = 1)
    (heval : (generator g).eval 1 = 0) {n : ℕ}
    (hround : ∀ j < n, 0 < j → (step g)^[j] 1#w ≠ 1#w) {S : Finset ℕ} (hbound : ∀ k ∈ S, k < n)
    (hpos : 1 ≤ S.card) (hfew : S.card ≤ 3) : ¬ generator g ∣ pattern S := by
  by_cases htwo : S.card = 2
  · obtain ⟨a, j, hj, rfl⟩ := exists_pair htwo
    have hlt := hbound (a + j) (Finset.mem_insert_of_mem (Finset.mem_singleton_self _))
    exact not_dvd_pair hcoeff (hround j (by omega) hj)
  · refine not_dvd_odd heval ?_
    rw [Nat.odd_iff]
    omega

end Gf2
