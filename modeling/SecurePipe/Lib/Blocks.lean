import Mathlib.Data.List.Basic
import Mathlib.Data.Nat.GCD.Basic

/-!
# SecurePipe.Lib.Blocks

Two grids on one list: a concatenation of frames that all have the same length, read in
blocks of another length.
-/

namespace Blocks

variable {α : Type} {s : Nat}

theorem length_flatten {frames : List (List α)} (h : ∀ f ∈ frames, f.length = s) :
    frames.flatten.length = s * frames.length := by
  induction frames with
  | nil => rfl
  | cons f frames ih =>
      have ih := ih fun g hg => h g (List.mem_cons_of_mem f hg)
      rw [List.flatten_cons, List.length_append, h f List.mem_cons_self, ih, List.length_cons,
        Nat.mul_succ, Nat.add_comm]

/-- Dropping whole frames. -/
theorem drop_flatten {frames : List (List α)} (h : ∀ f ∈ frames, f.length = s) (d : Nat) :
    frames.flatten.drop (s * d) = (frames.drop d).flatten := by
  induction d generalizing frames with
  | zero => rfl
  | succ d ih =>
      cases frames with
      | nil => simp
      | cons f frames =>
          have hlen := h f List.mem_cons_self
          rw [List.flatten_cons, List.drop_succ_cons, Nat.mul_succ, ← hlen, Nat.add_comm,
            ← List.drop_drop, List.drop_left, hlen]
          exact ih fun g hg => h g (List.mem_cons_of_mem f hg)

/-- The block of length `s` with this number. -/
def block (s k : Nat) (l : List α) : List α := (l.drop (s * k)).take s

/-- A block that has arrived whole stays as it is. -/
theorem block_append {k : Nat} {l : List α} (h : s * (k + 1) ≤ l.length) (t : List α) :
    block s k (l ++ t) = block s k l := by
  rw [Nat.mul_succ] at h
  have hlen : s ≤ (l.drop (s * k)).length := by
    rw [List.length_drop]
    omega
  rw [block, List.drop_append_of_le_length (by omega), List.take_append_of_le_length hlen, block]

/-- Past a whole number of blocks, the grid is that of the rest. -/
theorem block_append_right {l : List α} {q : Nat} (h : l.length = s * q) (k : Nat)
    (t : List α) : block s (q + k) (l ++ t) = block s k t := by
  rw [block, Nat.mul_add, ← h, List.drop_length_add_append, block]

/-- The blocks of a concatenation of frames of that length are the frames. -/
theorem block_flatten {frames : List (List α)} (h : ∀ f ∈ frames, f.length = s) {i : Nat}
    (hi : i < frames.length) : block s i frames.flatten = frames[i] := by
  have hlen := h frames[i] (List.getElem_mem hi)
  rw [block, drop_flatten h, List.drop_eq_getElem_cons hi, List.flatten_cons]
  exact List.take_left' hlen

/-- On a shifted grid, every block of a repeated frame is the frame, turned. -/
theorem block_shifted {f : List α} (hf : f.length = s) {shift : Nat} (hpos : 0 < shift)
    (hshift : shift ≤ s) {n j : Nat} (hj : s * j + shift + s ≤ s * n) :
    ((List.replicate n f).flatten.drop (s * j + shift)).take s = f.drop shift ++ f.take shift := by
  have hmany : j + 2 ≤ n := by
    by_contra hfew
    have hle : s * n ≤ s * (j + 1) := Nat.mul_le_mul_left s (by omega)
    rw [Nat.mul_succ] at hle
    omega
  obtain ⟨rest, rfl⟩ := Nat.exists_eq_add_of_le hmany
  have hlen : ∀ g ∈ List.replicate (j + 2 + rest) f, g.length = s := by
    intro g hg
    rw [List.eq_of_mem_replicate hg, hf]
  have hshort : shift ≤ f.length := by omega
  have hfirst : s = (f.drop shift).length + shift := by
    rw [List.length_drop]
    omega
  rw [← List.drop_drop, drop_flatten hlen, List.drop_replicate,
    show j + 2 + rest - j = rest + 1 + 1 by omega, List.replicate_succ, List.replicate_succ,
    List.flatten_cons, List.flatten_cons, List.drop_append_of_le_length hshort]
  nth_rewrite 1 [hfirst]
  rw [List.take_length_add_append, List.take_append_of_le_length hshort]

/-- Where the two grids first meet again. -/
theorem grids_meet (b s : Nat) : b * (s / Nat.gcd b s) = s * (b / Nat.gcd b s) := by
  rw [← Nat.mul_div_assoc b (Nat.gcd_dvd_right b s), ← Nat.mul_div_assoc s (Nat.gcd_dvd_left b s),
    Nat.mul_comm]

/-- Of the numbers below `m`, no more are counted than those below a bound on all of them. -/
theorem countP_range_le {p : Nat → Bool} {m b : Nat} (h : ∀ k < m, b ≤ k → p k = false) :
    (List.range m).countP p ≤ b := by
  induction m with
  | zero => exact Nat.zero_le b
  | succ m ih =>
      have ih := ih fun k hk => h k (Nat.lt_succ_of_lt hk)
      by_cases hb : b ≤ m
      · rw [List.range_succ, List.countP_append, List.countP_singleton, h m (Nat.lt_succ_self m) hb]
        exact ih
      · calc (List.range (m + 1)).countP p ≤ (List.range (m + 1)).length := List.countP_le_length
          _ = m + 1 := List.length_range
          _ ≤ b := not_le.mp hb

end Blocks
