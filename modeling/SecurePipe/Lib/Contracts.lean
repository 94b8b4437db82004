import Mathlib.Order.RelClasses
import SecurePipe.Lib.BigEndian

/-!
# SecurePipe.Lib.Contracts

Rules of pre- and postconditions for code in the vocabulary of `SecurePipe.Lib.Rust`.

A contract says of a call what it may do to the state, in every ending (`R`, a relation between
the state before and the state after), and what it returns: a value with `Q` or an error with
`E`. There is one rule for each way to put code together. Those for sequences ask that `R` be
reflexive and transitive, so a contract bounds what a piece of code does by what its parts do.
-/

namespace Rust

variable {σ τ ε ε' α β : Type}

/-! ### Code without a state -/

/-- The call returns a value with `Q` or an error with `E`, unless it panics. -/
def Outcome.Ensures (x : Outcome ε α) (Q : α → Prop) (E : ε → Prop) : Prop :=
  match x with
  | .ok a => Q a
  | .err e => E e
  | .panic _ => True

namespace Outcome.Ensures

variable {P : α → Prop} {Q : β → Prop} {E : ε → Prop}

theorem bind {x : Outcome ε α} {f : α → Outcome ε β} (hx : x.Ensures P E)
    (hf : ∀ a, P a → (f a).Ensures Q E) : (x >>= f).Ensures Q E := by
  cases x with
  | ok a => exact hf a hx
  | err e => exact hx
  | panic p => trivial

theorem ite {c : Prop} [Decidable c] {x y : Outcome ε β} (hx : c → x.Ensures Q E)
    (hy : ¬ c → y.Ensures Q E) : (if c then x else y).Ensures Q E :=
  iteInduction (motive := fun z : Outcome ε β => z.Ensures Q E) hx hy

/-- The contract that asks for nothing. -/
theorem any (x : Outcome ε α) : x.Ensures (fun _ => True) (fun _ => True) := by
  cases x with
  | ok a => trivial
  | err e => trivial
  | panic p => trivial

/-! The operations of the standard library may panic, and return no error. -/

theorem index (xs : Bytes) (i : Nat) : (index xs i).Ensures (fun _ => True) E := by
  unfold Rust.index
  split <;> trivial

theorem slice (xs : Bytes) (lo hi : Nat) : (slice xs lo hi).Ensures (fun _ => True) E := by
  unfold Rust.slice
  split <;> trivial

theorem tryIntoUnwrap (n : Nat) (xs : Bytes) :
    (tryIntoUnwrap n xs).Ensures (fun _ => True) E := by
  unfold Rust.tryIntoUnwrap
  split <;> trivial

theorem copyFromSlice (n : Nat) (xs : Bytes) :
    (copyFromSlice n xs).Ensures (fun _ => True) E := by
  unfold Rust.copyFromSlice
  split <;> trivial

theorem usizeAdd (a b : Nat) : (usizeAdd a b).Ensures (fun _ => True) E := by
  unfold Rust.usizeAdd
  split <;> trivial

theorem u64Sub (a b : UInt64) : (u64Sub a b).Ensures (fun _ => True) E := by
  unfold Rust.u64Sub
  split <;> trivial

theorem readBe (n : Nat) (ofBytes : U8Array n → α) (xs : Bytes) (lo hi : Nat) :
    (BigEndian.readBe n ofBytes xs lo hi).Ensures (fun _ => True) E :=
  .bind (.slice xs lo hi) fun field _ => .bind (.tryIntoUnwrap n field) fun _ _ => trivial

end Outcome.Ensures

/-! ### Code with a state -/

/-- The call changes the state as `R` allows, however it ends, and returns a value with `Q`
or an error with `E`, unless it panics. -/
def Stateful.Ensures (m : Stateful σ ε α) (R : σ → σ → Prop) (Q : α → Prop) (E : ε → Prop) :
    Prop :=
  ∀ s, R s (m s).2 ∧ (m s).1.Ensures Q E

namespace Stateful.Ensures

variable {R : σ → σ → Prop} {P : α → Prop} {Q : β → Prop} {E : ε → Prop}

theorem pure [Std.Refl R] {b : β} (hb : Q b) : (pure b : Stateful σ ε β).Ensures R Q E :=
  fun s => ⟨refl_of R s, hb⟩

theorem get [Std.Refl R] : (get : Stateful σ ε σ).Ensures R (fun _ => True) E :=
  fun s => ⟨refl_of R s, trivial⟩

theorem throw [Std.Refl R] {e : ε} (he : E e) : (throw e : Stateful σ ε β).Ensures R Q E :=
  fun s => ⟨refl_of R s, he⟩

theorem lift [Std.Refl R] {x : Outcome ε β} (hx : x.Ensures Q E) :
    (lift x : Stateful σ ε β).Ensures R Q E :=
  fun s => ⟨refl_of R s, hx⟩

theorem modify {f : σ → σ} (hf : ∀ s, R s (f s)) :
    (modify f : Stateful σ ε Unit).Ensures R (fun _ => True) E :=
  fun s => ⟨hf s, trivial⟩

theorem bind [IsTrans σ R] {m : Stateful σ ε α} {f : α → Stateful σ ε β}
    (hm : m.Ensures R P E) (hf : ∀ a, P a → (f a).Ensures R Q E) : (m >>= f).Ensures R Q E := by
  intro s
  have hs := hm s
  rw [bind_apply]
  rcases hcall : m s with ⟨a | e | p, s'⟩
  · rw [hcall] at hs
    obtain ⟨hstate, hresult⟩ := hf a hs.2 s'
    exact ⟨trans_of R hs.1 hstate, hresult⟩
  · rwa [hcall] at hs
  · rwa [hcall] at hs

theorem ite {c : Prop} [Decidable c] {m n : Stateful σ ε β} (hm : c → m.Ensures R Q E)
    (hn : ¬ c → n.Ensures R Q E) : (if c then m else n).Ensures R Q E :=
  iteInduction (motive := fun k : Stateful σ ε β => k.Ensures R Q E) hm hn

/-- Errors become values. -/
theorem matchResult {m : Stateful σ ε α} {E' : ε' → Prop} (hm : m.Ensures R P E) :
    (matchResult m : Stateful σ ε' (Except ε α)).Ensures R
      (fun r => match r with | .ok a => P a | .error e => E e) E' := by
  intro s
  have hs := hm s
  unfold Stateful.matchResult
  rcases hcall : m s with ⟨a | e | p, s'⟩
  · rwa [hcall] at hs
  · rwa [hcall] at hs
  · rwa [hcall] at hs

theorem zoom {R' : τ → τ → Prop} {proj : τ → σ} {inject : τ → σ → τ} {m : Stateful σ ε β}
    (hm : m.Ensures R Q E) (h : ∀ t s, R (proj t) s → R' t (inject t s)) :
    (zoom proj inject m).Ensures R' Q E :=
  fun t => ⟨h t _ (hm (proj t)).1, (hm (proj t)).2⟩

end Stateful.Ensures

end Rust
