import Mathlib.Algebra.Group.Nat.Defs
import Mathlib.Data.List.Chain

/-!
# SecurePipe.Lib.Timer

Timers that are polled, on a clock that starts over.

A program that has no interrupts asks again and again whether `now - last >= interval`, on a counter
of milliseconds with 32 bits, and sets `last` to `now` when that is so. `fired` gives the polls at
which it is; `firedIdeal` does the same on a clock that never starts over.

* `spaced_fired`: the timer never goes off early, whenever it is polled.
* `fired_eq`: if it is polled often enough to see the clock start over, it behaves as on the ideal
  clock.
* `firedIdeal_prompt`: on the ideal clock, it goes off at the first poll after the interval.
-/

namespace Timer

/-- What the counter shows after this many milliseconds. -/
def millis (t : Nat) : UInt32 := .ofNat t

/-- `now - last >= interval` -/
def due (interval now last : UInt32) : Bool := interval ≤ now - last

theorem millis_sub {t₀ t : Nat} (h : t₀ ≤ t) : millis t - millis t₀ = millis (t - t₀) := by
  obtain ⟨d, rfl⟩ := Nat.exists_eq_add_of_le h
  rw [millis, millis, millis, UInt32.ofNat_add, Nat.add_sub_cancel_left, UInt32.add_comm,
    UInt32.add_sub_cancel]

theorem due_millis {interval : UInt32} {t₀ t : Nat} (h : t₀ ≤ t) :
    due interval (millis t) (millis t₀) = true ↔ interval.toNat ≤ (t - t₀) % 2 ^ 32 := by
  rw [due, decide_eq_true_iff, millis_sub h, UInt32.le_iff_toNat_le]
  exact Iff.rfl

/-- The check is never early. -/
theorem le_of_due {interval : UInt32} {t₀ t : Nat} (h : t₀ ≤ t)
    (hdue : due interval (millis t) (millis t₀) = true) : t₀ + interval.toNat ≤ t := by
  have hle := (due_millis h).mp hdue
  have hmod := Nat.mod_le (t - t₀) (2 ^ 32)
  omega

/-- The check is exact until the clock has come full circle. -/
theorem due_iff {interval : UInt32} {t₀ t : Nat} (h : t₀ ≤ t) (hsoon : t < t₀ + 2 ^ 32) :
    due interval (millis t) (millis t₀) = true ↔ t₀ + interval.toNat ≤ t := by
  rw [due_millis h, Nat.mod_eq_of_lt (by omega)]
  omega

variable {α : Type} (time : α → Nat)

/-- The polls at which the timer goes off. -/
def fired (interval : UInt32) : UInt32 → List α → List α
  | _, [] => []
  | last, a :: as =>
    if due interval (millis (time a)) last then a :: fired interval (millis (time a)) as
    else fired interval last as

/-- The polls at which it would go off, if the clock did not start over. -/
def firedIdeal (interval : Nat) : Nat → List α → List α
  | _, [] => []
  | last, a :: as =>
    if last + interval ≤ time a then a :: firedIdeal interval (time a) as
    else firedIdeal interval last as

/-- The polls come one after the other, from `t` on. -/
def Ordered (t : Nat) (as : List α) : Prop := (t :: as.map time).IsChain (· ≤ ·)

/-- From one poll to the next, no more time passes than this. -/
def Within (gap t : Nat) (as : List α) : Prop :=
  (t :: as.map time).IsChain fun s t => t ≤ s + gap

/-- From one to the next, this much time passes at least. -/
def Spaced (interval t : Nat) (as : List α) : Prop :=
  (t :: as.map time).IsChain fun s t => s + interval ≤ t

instance (t : Nat) (as : List α) : Decidable (Ordered time t as) :=
  inferInstanceAs (Decidable (List.IsChain _ _))

instance (gap t : Nat) (as : List α) : Decidable (Within time gap t as) :=
  inferInstanceAs (Decidable (List.IsChain _ _))

variable {time} {interval : UInt32} {t₀ t : Nat} {as : List α}

theorem Ordered.tail {a : α} (h : Ordered time t (a :: as)) :
    t ≤ time a ∧ Ordered time (time a) as := by
  simpa [Ordered] using h

theorem Within.tail {gap : Nat} {a : α} (h : Within time gap t (a :: as)) :
    time a ≤ t + gap ∧ Within time gap (time a) as := by
  simpa [Within] using h

/-- **The timer is never early.** -/
theorem spaced_fired (hordered : Ordered time t as) (ht : t₀ ≤ t) :
    Spaced time interval.toNat t₀ (fired time interval (millis t₀) as) := by
  induction as generalizing t t₀ with
  | nil => exact .singleton t₀
  | cons a as ih =>
      obtain ⟨hle, hordered⟩ := hordered.tail
      unfold fired
      split
      · next hdue =>
          exact .cons_cons (le_of_due (ht.trans hle) hdue) (ih hordered (Nat.le_refl _))
      · exact ih hordered (ht.trans hle)

/-- **Starting over does not matter**, if the timer is polled often enough. -/
theorem fired_eq (hordered : Ordered time t as)
    (hwithin : Within time (2 ^ 32 - interval.toNat) t as) (ht : t₀ ≤ t)
    (hsoon : t < t₀ + interval.toNat) :
    fired time interval (millis t₀) as = firedIdeal time interval.toNat t₀ as := by
  induction as generalizing t t₀ with
  | nil => rfl
  | cons a as ih =>
      obtain ⟨hle, hordered⟩ := hordered.tail
      obtain ⟨hgap, hwithin⟩ := hwithin.tail
      have hlt := interval.toNat_lt
      have hdue : due interval (millis (time a)) (millis t₀) = true ↔
          t₀ + interval.toNat ≤ time a := due_iff (ht.trans hle) (by omega)
      unfold fired firedIdeal
      by_cases helapsed : t₀ + interval.toNat ≤ time a
      · rw [if_pos (hdue.mpr helapsed), if_pos helapsed,
          ih hordered hwithin (Nat.le_refl _) (by omega)]
      · rw [if_neg (fun h => helapsed (hdue.mp h)), if_neg helapsed]
        exact ih hordered hwithin (ht.trans hle) (by omega)

/-- **The timer is never late**: at every poll, it has gone off within the interval. -/
theorem firedIdeal_prompt {interval : Nat} (hpos : 0 < interval) (hordered : Ordered time t as)
    (ht : t₀ ≤ t) {a : α} (ha : a ∈ as) :
    ∃ s ∈ t₀ :: (firedIdeal time interval t₀ as).map time, s ≤ time a ∧ time a < s + interval := by
  induction as generalizing t t₀ with
  | nil => exact absurd ha (List.not_mem_nil)
  | cons b as ih =>
      obtain ⟨hle, hordered⟩ := hordered.tail
      unfold firedIdeal
      by_cases helapsed : t₀ + interval ≤ time b
      · rw [if_pos helapsed, List.map_cons]
        rcases List.mem_cons.mp ha with rfl | ha
        · exact ⟨time a, .tail _ (.head _), Nat.le_refl _, by omega⟩
        · obtain ⟨s, hs, hsa⟩ := ih hordered (Nat.le_refl _) ha
          exact ⟨s, .tail _ hs, hsa⟩
      · rw [if_neg helapsed]
        rcases List.mem_cons.mp ha with rfl | ha
        · exact ⟨t₀, .head _, ht.trans hle, by omega⟩
        · exact ih hordered (ht.trans hle) ha

end Timer
