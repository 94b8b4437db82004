import Mathlib.Data.List.Basic

/-!
# SecurePipe.Lib.Machine

Deterministic machines that answer every input with one output, and four ways
to reason about all of their runs:

* `Along C s as` says that each input meets `C` in the state it arrives in;
  `Machine.induct` turns "one step keeps the invariant" into "every run along `C`
  keeps it", with the history so far in view of the invariant.
* `Omits P h h'` says that `h'` is the history `h` with some entries satisfying
  `P` left out; `Machine.run_omits` shows that inputs which leave the relevant
  part of the state alone may be left out of a run without anyone noticing.
* `run_filter` is noninterference: a part of the state that only some of the inputs see
  and change evolves as if the others had not been there.
* `history_append` and its companions cut a run in two.

`run_stutter` and `run_expand` compare two machines, where the one takes a single step, or none,
for steps of the other.
-/

/-- A machine over states `σ` taking inputs `α` to outputs `ο`. -/
structure Machine (σ α ο : Type) where
  step : σ → α → σ × ο

namespace Machine

variable {σ α ο τ : Type} (m : Machine σ α ο)

/-- The state after a list of inputs. -/
def run : σ → List α → σ
  | s, [] => s
  | s, a :: as => run (m.step s a).1 as

/-- The inputs of a run, each with the output it got. -/
def history : σ → List α → List (α × ο)
  | _, [] => []
  | s, a :: as => (a, (m.step s a).2) :: history (m.step s a).1 as

/-- Every input of the run meets `C` in the state it arrives in. -/
def Along (C : σ → α → Prop) : σ → List α → Prop
  | _, [] => True
  | s, a :: as => C s a ∧ Along C (m.step s a).1 as

instance decidableAlong (C : σ → α → Prop) [∀ s a, Decidable (C s a)] :
    ∀ s as, Decidable (m.Along C s as)
  | _, [] => .isTrue trivial
  | s, a :: as =>
    have := decidableAlong C (m.step s a).1 as
    inferInstanceAs (Decidable (C s a ∧ m.Along C (m.step s a).1 as))

@[simp] theorem run_nil (s : σ) : m.run s [] = s := rfl
@[simp] theorem run_cons (s : σ) (a : α) (as : List α) :
    m.run s (a :: as) = m.run (m.step s a).1 as := rfl
@[simp] theorem history_nil (s : σ) : m.history s [] = [] := rfl
@[simp] theorem history_cons (s : σ) (a : α) (as : List α) :
    m.history s (a :: as) = (a, (m.step s a).2) :: m.history (m.step s a).1 as := rfl

theorem run_append (s : σ) (as bs : List α) : m.run s (as ++ bs) = m.run (m.run s as) bs := by
  induction as generalizing s with
  | nil => rfl
  | cons a as ih => exact ih _

theorem history_append (s : σ) (as bs : List α) :
    m.history s (as ++ bs) = m.history s as ++ m.history (m.run s as) bs := by
  induction as generalizing s with
  | nil => rfl
  | cons a as ih => rw [List.cons_append, history_cons, ih, history_cons, run_cons, List.cons_append]

@[simp] theorem history_inputs (s : σ) (as : List α) : (m.history s as).map Prod.fst = as := by
  induction as generalizing s with
  | nil => rfl
  | cons a as ih => rw [history_cons, List.map_cons, ih]

theorem along_append {C : σ → α → Prop} {s : σ} {as bs : List α} :
    m.Along C s (as ++ bs) ↔ m.Along C s as ∧ m.Along C (m.run s as) bs := by
  induction as generalizing s with
  | nil => simp [Along]
  | cons a as ih => simp only [List.cons_append, Along, ih, run_cons, and_assoc]

/-- A condition that implies another holds along fewer runs. -/
theorem Along.mono {C D : σ → α → Prop} (h : ∀ s a, C s a → D s a) {s : σ} {as : List α}
    (hC : m.Along C s as) : m.Along D s as := by
  induction as generalizing s with
  | nil => trivial
  | cons a as ih => exact ⟨h s a hC.1, ih hC.2⟩

theorem along_and {C D : σ → α → Prop} {s : σ} {as : List α} (hC : m.Along C s as)
    (hD : m.Along D s as) : m.Along (fun s a => C s a ∧ D s a) s as := by
  induction as generalizing s with
  | nil => trivial
  | cons a as ih => exact ⟨⟨hC.1, hD.1⟩, ih hC.2 hD.2⟩

theorem along_true (s : σ) (as : List α) : m.Along (fun _ _ => True) s as := by
  induction as generalizing s with
  | nil => trivial
  | cons a as ih => exact ⟨trivial, ih _⟩

/-- A condition on the inputs alone holds along a run when every input meets it. -/
theorem along_of_forall {C : α → Prop} {as : List α} (h : ∀ a ∈ as, C a) (s : σ) :
    m.Along (fun _ a => C a) s as := by
  induction as generalizing s with
  | nil => trivial
  | cons a as ih =>
      obtain ⟨ha, has⟩ := List.forall_mem_cons.mp h
      exact ⟨ha, ih has _⟩

/-- **Invariants over runs.** An invariant of the state and of the history so far
that one step along `C` keeps, every run along `C` keeps. -/
theorem induct {C : σ → α → Prop} {I : σ → List (α × ο) → Prop}
    (hstep : ∀ s h a, I s h → C s a → I (m.step s a).1 (h ++ [(a, (m.step s a).2)]))
    {s : σ} {h : List (α × ο)} {as : List α} (h0 : I s h) (hC : m.Along C s as) :
    I (m.run s as) (h ++ m.history s as) := by
  induction as generalizing s h with
  | nil => simpa using h0
  | cons a as ih =>
      have hnext := ih (hstep s h a h0 hC.1) hC.2
      simpa using hnext

/-- `induct` for a run that starts with an empty history. -/
theorem induct_history {C : σ → α → Prop} {I : σ → List (α × ο) → Prop}
    (hstep : ∀ s h a, I s h → C s a → I (m.step s a).1 (h ++ [(a, (m.step s a).2)]))
    {s : σ} {as : List α} (h0 : I s []) (hC : m.Along C s as) :
    I (m.run s as) (m.history s as) := by
  simpa using m.induct hstep h0 hC

/-! ### Leaving inputs out of a run -/

/-- `Omits P h h'`: the list `h'` is `h` with some entries satisfying `P` left out. -/
inductive Omits {β : Type} (P : β → Prop) : List β → List β → Prop
  | nil : Omits P [] []
  | keep {b : β} {l l' : List β} : Omits P l l' → Omits P (b :: l) (b :: l')
  | leave {b : β} {l l' : List β} : P b → Omits P l l' → Omits P (b :: l) l'

/-- **Idle inputs do not matter.** Suppose the outputs, and the part `core` of the
state, evolve as functions of `core` alone, and that an entry satisfying `P`
leaves `core` as it was. Then leaving such entries out of a run changes neither
the outputs of the others nor the `core` of the final state. -/
theorem run_omits (core : σ → τ) {P : α × ο → Prop}
    (hcore : ∀ s s' a, core s = core s' →
      (m.step s a).2 = (m.step s' a).2 ∧ core (m.step s a).1 = core (m.step s' a).1)
    (hidle : ∀ s a, P (a, (m.step s a).2) → core (m.step s a).1 = core s)
    {s s' : σ} {as : List α} {h' : List (α × ο)} (hs : core s = core s')
    (ho : Omits P (m.history s as) h') :
    m.history s' (h'.map Prod.fst) = h' ∧
      core (m.run s' (h'.map Prod.fst)) = core (m.run s as) := by
  induction as generalizing s s' h' with
  | nil =>
      cases ho with
      | nil => exact ⟨rfl, hs.symm⟩
  | cons a as ih =>
      cases ho with
      | keep hrest =>
          obtain ⟨hout, hnext⟩ := hcore s s' a hs
          obtain ⟨hhist, hrun⟩ := ih hnext hrest
          refine ⟨?_, hrun⟩
          rw [List.map_cons, history_cons, hhist, hout]
      | leave hP hrest => exact ih ((hidle s a hP).trans hs) hrest

/-! ### Watching a part of the state -/

/-- **Noninterference.** Suppose the inputs marked `mine` read and change the part `core` of
the state only, and the others leave that part as it is. Then the outputs of the inputs
marked `mine`, and the `core` of the final state, are those of a run of these inputs alone. -/
theorem run_filter (core : σ → τ) (mine : α → Bool)
    (hmine : ∀ s s' a, mine a = true → core s = core s' →
      (m.step s a).2 = (m.step s' a).2 ∧ core (m.step s a).1 = core (m.step s' a).1)
    (hother : ∀ s a, mine a = false → core (m.step s a).1 = core s)
    {s s' : σ} (as : List α) (hs : core s = core s') :
    (m.history s as).filter (fun entry => mine entry.1) = m.history s' (as.filter mine) ∧
      core (m.run s as) = core (m.run s' (as.filter mine)) := by
  induction as generalizing s s' with
  | nil => exact ⟨rfl, hs⟩
  | cons a as ih =>
      cases ha : mine a with
      | true =>
          obtain ⟨hout, hnext⟩ := hmine s s' a ha hs
          obtain ⟨hhistory, hrun⟩ := ih hnext
          rw [List.filter_cons_of_pos ha, history_cons, history_cons, ← hhistory, hout,
            List.filter_cons_of_pos (p := fun entry : α × ο => mine entry.1) ha]
          exact ⟨rfl, hrun⟩
      | false =>
          have hskip : ¬ mine a = true := by simp [ha]
          rw [List.filter_cons_of_neg hskip, history_cons,
            List.filter_cons_of_neg (p := fun entry : α × ο => mine entry.1) hskip]
          exact ih ((hother s a ha).trans hs)

/-! ### Following another machine -/

/-- **Simulation with stuttering.** Suppose each step of `m` is matched by the same step of `m'`
or by none. Then a run of `m` is matched by a run of `m'` on some of its inputs. -/
theorem run_stutter {ο' : Type} (m' : Machine τ α ο') {R : σ → τ → Prop}
    (hstep : ∀ s t a, R s t → R (m.step s a).1 t ∨ R (m.step s a).1 (m'.step t a).1)
    {s : σ} {t : τ} (h : R s t) (as : List α) :
    ∃ bs, bs.Sublist as ∧ R (m.run s as) (m'.run t bs) := by
  induction as generalizing s t with
  | nil => exact ⟨[], .slnil, h⟩
  | cons a as ih =>
      rcases hstep s t a h with hskip | hmatch
      · obtain ⟨bs, hsub, hrun⟩ := ih hskip
        exact ⟨bs, hsub.cons a, hrun⟩
      · obtain ⟨bs, hsub, hrun⟩ := ih hmatch
        exact ⟨a :: bs, hsub.cons_cons a, hrun⟩

/-- **Simulation by runs.** Suppose each step of `m'` is matched by a group of steps of `m`, which
`E` relates to it. Then a run of `m'` is matched by the groups of its steps, one after another. -/
theorem run_expand {α' ο' : Type} (m' : Machine τ α' ο') {R : σ → τ → Prop}
    {E : α' → List α → Prop}
    (hstep : ∀ s t b, R s t → ∃ as, E b as ∧ R (m.run s as) (m'.step t b).1)
    {s : σ} {t : τ} (h : R s t) (bs : List α') :
    ∃ groups, List.Forall₂ E bs groups ∧ R (m.run s groups.flatten) (m'.run t bs) := by
  induction bs generalizing s t with
  | nil => exact ⟨[], .nil, h⟩
  | cons b bs ih =>
      obtain ⟨as, hE, hmatch⟩ := hstep s t b h
      obtain ⟨groups, hgroups, hrun⟩ := ih hmatch
      refine ⟨as :: groups, .cons hE hgroups, ?_⟩
      rw [List.flatten_cons, run_append]
      exact hrun

end Machine
