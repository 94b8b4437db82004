import Mathlib.Data.List.DropRight
import Mathlib.Data.List.Nodup

/-!
# SecurePipe.Lib.Window

A bounded queue that evicts its oldest element when full, and the fact that
makes it predictable: pushing a whole list through it leaves exactly the last
`n` elements of that list.
-/

namespace Window

variable {α : Type}

/-- Push onto a queue of capacity `n`: pop the oldest element first when full. -/
def push (n : Nat) (q : List α) (x : α) : List α :=
  (if n ≤ q.length then q.tail else q) ++ [x]

/-- Pushing onto the last `n` elements gives the last `n` elements. -/
theorem push_rtake {n : Nat} (hn : 0 < n) (l : List α) (x : α) :
    push n (l.rtake n) x = (l ++ [x]).rtake n := by
  obtain ⟨k, rfl⟩ : ∃ k, n = k + 1 := ⟨n - 1, by omega⟩
  rw [List.rtake_concat_succ, push]
  congr 1
  have hlen : (l.rtake (k + 1)).length = min (k + 1) l.length := by
    rw [List.rtake, List.length_drop]; omega
  by_cases hfull : k + 1 ≤ l.length
  · -- a full queue: its tail is one element shorter from the left
    rw [if_pos (by omega), List.rtake, List.rtake, List.tail_drop,
      show l.length - (k + 1) + 1 = l.length - k by omega]
  · rw [if_neg (by omega), List.rtake, List.rtake,
      show l.length - (k + 1) = l.length - k by omega]

theorem rtake_length (n : Nat) (l : List α) : (l.rtake n).length = min n l.length := by
  rw [List.rtake, List.length_drop]; omega

/-- A queue holds nothing but what was pushed onto it. -/
theorem mem_push {n : Nat} {q : List α} {x y : α} (h : y ∈ push n q x) : y ∈ q ∨ y = x := by
  unfold push at h
  rcases List.mem_append.mp h with hq | hx
  · refine .inl ?_
    by_cases hfull : n ≤ q.length
    · rw [if_pos hfull] at hq
      exact List.mem_of_mem_tail hq
    · rw [if_neg hfull] at hq
      exact hq
  · exact .inr (List.mem_singleton.mp hx)

/-- A queue never holds more than it may. -/
theorem push_length_le {n : Nat} (hn : 0 < n) {q : List α} (hq : q.length ≤ n) (x : α) :
    (push n q x).length ≤ n := by
  unfold push
  rw [List.length_append, List.length_singleton]
  by_cases hfull : n ≤ q.length
  · rw [if_pos hfull, List.length_tail]
    omega
  · rw [if_neg hfull]
    omega

/-- Distinctness survives a push of an element the queue does not hold. -/
theorem push_nodup {n : Nat} {q : List α} {x : α} (hq : q.Nodup) (hx : x ∉ q) :
    (push n q x).Nodup := by
  have hsub : (if n ≤ q.length then q.tail else q).Sublist q := by
    split
    · exact List.tail_sublist q
    · exact List.Sublist.refl q
  refine List.nodup_append.mpr ⟨hq.sublist hsub, List.nodup_singleton x, ?_⟩
  intro y hy z hz hyz
  obtain rfl := List.mem_singleton.mp hz
  exact hx (hyz ▸ hsub.subset hy)

end Window
