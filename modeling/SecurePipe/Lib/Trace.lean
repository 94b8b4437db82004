import SecurePipe.Lib.Machine

/-!
# SecurePipe.Lib.Trace

What came before what in a run.

A machine whose steps may be silent leaves a **trace** of what its other steps show
(`Machine.trace`). Two properties of traces grow with them:

* `Justified P t`: each entry stands in the relation `P` to the entries before it;
* `Latest Q x t`: the last entry that satisfies `Q` is `x`.

`split_order` compares two positions of one list.
-/

namespace Machine

variable {σ α ο : Type} (m : Machine σ α (Option ο))

/-- What the steps of a run show. -/
def trace (s : σ) (as : List α) : List ο := (m.history s as).filterMap Prod.snd

/-- An invariant of the state and of the trace so far that one step along `C` keeps,
every run along `C` keeps. -/
theorem induct_trace {C : σ → α → Prop} {I : σ → List ο → Prop}
    (hstep : ∀ s t a, I s t → C s a → I (m.step s a).1 (t ++ (m.step s a).2.toList))
    {s : σ} {as : List α} (h0 : I s []) (hC : m.Along C s as) :
    I (m.run s as) (m.trace s as) := by
  refine m.induct_history (I := fun s h => I s (h.filterMap Prod.snd)) ?_ h0 hC
  intro s h a hI hCa
  have hnext := hstep s _ a hI hCa
  rw [List.filterMap_append]
  cases hout : (m.step s a).2 with
  | none => simpa [hout] using hnext
  | some o => simpa [hout] using hnext

/-- `induct_trace` with the inputs so far in view of the invariant. -/
theorem induct_inputs {C : σ → α → Prop} {I : σ → List α → List ο → Prop}
    (hstep : ∀ s as t a, I s as t → C s a →
      I (m.step s a).1 (as ++ [a]) (t ++ (m.step s a).2.toList))
    {s : σ} {as : List α} (h0 : I s [] []) (hC : m.Along C s as) :
    I (m.run s as) as (m.trace s as) := by
  have hrun := m.induct_history
    (I := fun s h => I s (h.map Prod.fst) (h.filterMap Prod.snd)) ?_ h0 hC
  · rwa [m.history_inputs] at hrun
  · intro s h a hI hCa
    have hnext := hstep s _ _ a hI hCa
    rw [List.map_append, List.filterMap_append]
    cases hout : (m.step s a).2 with
    | none => simpa [hout] using hnext
    | some o => simpa [hout] using hnext

/-- Two machines that go on alike, the one showing all that the other shows, and more. -/
theorem trace_map {ο' γ : Type} (m' : Machine σ α (Option ο')) {f : ο → Option γ} {g : ο' → γ}
    (hstep : ∀ s a, (m.step s a).1 = (m'.step s a).1 ∧
      (m.step s a).2.bind f = (m'.step s a).2.map g) (s : σ) (as : List α) :
    m.run s as = m'.run s as ∧ (m.trace s as).filterMap f = (m'.trace s as).map g := by
  induction as generalizing s with
  | nil => exact ⟨rfl, rfl⟩
  | cons a as ih =>
      obtain ⟨hstate, hshown⟩ := hstep s a
      obtain ⟨hrun, htrace⟩ := ih (m.step s a).1
      rw [hstate] at hrun htrace
      refine ⟨by rw [run_cons, run_cons, hstate, hrun], ?_⟩
      unfold trace at htrace ⊢
      rw [history_cons, history_cons, hstate]
      cases hout : (m.step s a).2 with
      | none =>
          have hsilent : (m'.step s a).2 = none := by simpa [hout] using hshown.symm
          simp [hsilent, htrace]
      | some o =>
          cases hout' : (m'.step s a).2 with
          | none =>
              have hhidden : f o = none := by simpa [hout, hout'] using hshown
              simp [hhidden, htrace]
          | some o' =>
              have hboth : f o = some (g o') := by simpa [hout, hout'] using hshown
              simp [hboth, htrace]

end Machine

namespace Trace

variable {β : Type}

/-- Two positions of one list: they are the same, or one comes first. -/
theorem split_order {a b a' b' : List β} {x x' : β} (h : a ++ x :: b = a' ++ x' :: b') :
    (a = a' ∧ x = x' ∧ b = b') ∨
    (∃ c, a' = a ++ x :: c ∧ b = c ++ x' :: b') ∨
    (∃ c, a = a' ++ x' :: c ∧ b' = c ++ x :: b) := by
  rcases List.append_eq_append_iff.mp h with ⟨c, ha, hb⟩ | ⟨c, ha, hb⟩
  · cases c with
    | nil =>
        obtain ⟨rfl, rfl⟩ := List.cons.inj hb
        exact .inl ⟨by rw [ha, List.append_nil], rfl, rfl⟩
    | cons y c =>
        obtain ⟨rfl, rfl⟩ := List.cons.inj hb
        exact .inr (.inl ⟨c, ha, rfl⟩)
  · cases c with
    | nil =>
        obtain ⟨rfl, rfl⟩ := List.cons.inj hb
        exact .inl ⟨by rw [ha, List.append_nil], rfl, rfl⟩
    | cons y c =>
        obtain ⟨rfl, rfl⟩ := List.cons.inj hb
        exact .inr (.inr ⟨c, ha, rfl⟩)

theorem filterMap_append_toList {γ : Type} (f : β → Option γ) (t : List β) (o : Option β) :
    (t ++ o.toList).filterMap f = t.filterMap f ++ (o.bind f).toList := by
  rw [List.filterMap_append]
  cases o with
  | none => rfl
  | some x =>
      rw [Option.toList_some, Option.bind_some, List.filterMap_cons]
      cases f x with
      | none => rfl
      | some y => rfl

/-- At most one entry passes the test, if no two do. -/
theorem filter_length_le_one {p : β → Bool} {t : List β}
    (h : ∀ a x b y c, t = a ++ x :: (b ++ y :: c) → p x = true → p y = true → False) :
    (t.filter p).length ≤ 1 := by
  induction t with
  | nil => exact Nat.zero_le 1
  | cons x t ih =>
      cases hx : p x with
      | false =>
          rw [List.filter_cons_of_neg (by simp [hx])]
          refine ih fun a y b z c ht => h (x :: a) y b z c ?_
          rw [ht, List.cons_append]
      | true =>
          have hnone : t.filter p = [] := by
            rw [List.filter_eq_nil_iff]
            intro y hy hpy
            obtain ⟨b, c, rfl⟩ := List.append_of_mem hy
            exact h [] x b y c rfl hx hpy
          rw [List.filter_cons_of_pos hx, hnone]
          exact Nat.le_refl 1

/-! ### Entries justified by what precedes them -/

/-- Each entry stands in the relation `P` to the entries before it. -/
def Justified (P : List β → β → Prop) (t : List β) : Prop :=
  ∀ a x b, t = a ++ x :: b → P a x

variable {P : List β → β → Prop} {t : List β}

theorem justified_nil : Justified P [] := by
  intro a x b h
  exact absurd h.symm (List.append_ne_nil_of_right_ne_nil a (List.cons_ne_nil x b))

theorem Justified.snoc (h : Justified P t) {x : β} (hx : P t x) : Justified P (t ++ [x]) := by
  intro a y b heq
  rcases split_order heq with ⟨rfl, rfl, -⟩ | ⟨c, -, hb⟩ | ⟨c, ha, -⟩
  · exact hx
  · exact absurd hb.symm (List.append_ne_nil_of_right_ne_nil c (List.cons_ne_nil y b))
  · exact h a y c ha

/-- Appending nothing, or one entry. -/
theorem Justified.append (h : Justified P t) {o : Option β} (ho : ∀ x, o = some x → P t x) :
    Justified P (t ++ o.toList) := by
  cases o with
  | none => simpa using h
  | some x => exact h.snoc (ho x rfl)

/-! ### The last entry of a kind -/

/-- The last entry that satisfies `Q` is `x`. -/
def Latest (Q : β → Prop) (x : β) (t : List β) : Prop :=
  ∃ a b, t = a ++ x :: b ∧ Q x ∧ ∀ y ∈ b, ¬ Q y

variable {Q : β → Prop} {x y : β}

theorem Latest.snoc (h : Latest Q x t) (hy : ¬ Q y) : Latest Q x (t ++ [y]) := by
  obtain ⟨a, b, rfl, hx, hb⟩ := h
  refine ⟨a, b ++ [y], by rw [List.append_assoc, List.cons_append], hx, ?_⟩
  intro z hz
  rcases List.mem_append.mp hz with hz | hz
  · exact hb z hz
  · rw [List.mem_singleton.mp hz]
    exact hy

theorem Latest.append (h : Latest Q x t) {o : Option β} (ho : ∀ y, o = some y → ¬ Q y) :
    Latest Q x (t ++ o.toList) := by
  cases o with
  | none => simpa using h
  | some y => exact h.snoc (ho y rfl)

end Trace
