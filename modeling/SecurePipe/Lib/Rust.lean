import Mathlib.Data.Finmap
import Mathlib.Data.Vector.Basic

/-!
# SecurePipe.Lib.Rust

A small vocabulary for transcribing safe Rust: how a call ends (`Outcome`), code
that also writes through a `&mut` (`Stateful`), byte strings and fixed-size
arrays, the standard-library operations that can panic, and finite maps.

`Outcome` keeps a returned `Err` apart from a panic, and `Stateful` keeps the
state of *every* ending: a function that returns `Err`, or unwinds, leaves
behind whatever it wrote before. Both are needed to say that an error path does
not disturb what it was about to update.

Each panicking operation comes with the one equation that a caller uses once it
has discharged the side condition.
-/

namespace Rust

/-- Why a call unwinds. -/
inductive Panic
  /-- A slice or index out of range. -/
  | outOfRange
  /-- `try_into().unwrap()` from a slice of another length. -/
  | wrongLength
  /-- `copy_from_slice` between slices of different lengths. -/
  | copyMismatch
  /-- Integer overflow or underflow under overflow checks. -/
  | overflow
  /-- `unwrap()` on an `Err` of the standard library. -/
  | unwrapErr
  deriving Repr, DecidableEq

/-- How a call returning `Result<α, ε>` ends. -/
inductive Outcome (ε α : Type)
  | ok (a : α)
  | err (e : ε)
  | panic (p : Panic)
  deriving Repr, DecidableEq

namespace Outcome

variable {ε α β : Type}

/-- Sequencing, with the `?` operator built in: only `ok` continues. -/
def bind : Outcome ε α → (α → Outcome ε β) → Outcome ε β
  | ok a, f => f a
  | err e, _ => err e
  | panic p, _ => panic p

instance : Monad (Outcome ε) where
  pure := ok
  bind := bind

@[simp] theorem pure_eq (a : α) : (pure a : Outcome ε α) = ok a := rfl
@[simp] theorem ok_bind (a : α) (f : α → Outcome ε β) : (ok a >>= f) = f a := rfl
@[simp] theorem err_bind (e : ε) (f : α → Outcome ε β) : (err e >>= f) = err e := rfl
@[simp] theorem panic_bind (p : Panic) (f : α → Outcome ε β) :
    ((panic p : Outcome ε α) >>= f) = panic p := rfl

end Outcome

/-! ### Code with a mutable borrow -/

/-- Code that reads and writes a state `σ`, keeping it however the call ends. -/
def Stateful (σ ε α : Type) : Type := σ → Outcome ε α × σ

namespace Stateful

variable {σ ε ε' α β : Type}

/-- Sequencing: an ending other than `ok` stops with the state reached so far. -/
def bind (m : Stateful σ ε α) (f : α → Stateful σ ε β) : Stateful σ ε β := fun s =>
  match m s with
  | (.ok a, s') => f a s'
  | (.err e, s') => (.err e, s')
  | (.panic p, s') => (.panic p, s')

instance : Monad (Stateful σ ε) where
  pure a := fun s => (.ok a, s)
  bind := bind

/-- The current state. -/
def get : Stateful σ ε σ := fun s => (.ok s, s)

/-- Update the state. -/
def modify (f : σ → σ) : Stateful σ ε Unit := fun s => (.ok (), f s)

/-- Return `Err(e)`. -/
def throw (e : ε) : Stateful σ ε α := fun s => (.err e, s)

/-- Code that does not touch the state. -/
def lift (m : Outcome ε α) : Stateful σ ε α := fun s => (m, s)

/-- `match f(..) { Ok(a) => .., Err(e) => .. }`: hand the result over as a value;
a panic still unwinds. -/
def matchResult (m : Stateful σ ε α) : Stateful σ ε' (Except ε α) := fun s =>
  match m s with
  | (.ok a, s') => (.ok (.ok a), s')
  | (.err e, s') => (.ok (.error e), s')
  | (.panic p, s') => (.panic p, s')

/-- Run code on a component of the state. -/
def zoom {τ : Type} (proj : σ → τ) (inject : σ → τ → σ) (m : Stateful τ ε α) :
    Stateful σ ε α := fun s => ((m (proj s)).1, inject s (m (proj s)).2)

@[simp] theorem pure_apply (a : α) (s : σ) : (pure a : Stateful σ ε α) s = (.ok a, s) := rfl

theorem bind_apply (m : Stateful σ ε α) (f : α → Stateful σ ε β) (s : σ) :
    (m >>= f) s = match m s with
      | (.ok a, s') => f a s'
      | (.err e, s') => (.err e, s')
      | (.panic p, s') => (.panic p, s') := rfl

theorem bind_ok {m : Stateful σ ε α} {f : α → Stateful σ ε β} {s s' : σ} {a : α}
    (h : m s = (.ok a, s')) : (m >>= f) s = f a s' := by
  rw [bind_apply, h]

theorem bind_panic {m : Stateful σ ε α} {f : α → Stateful σ ε β} {s s' : σ} {p : Panic}
    (h : m s = (.panic p, s')) : (m >>= f) s = (.panic p, s') := by
  rw [bind_apply, h]

/-- A sequence that succeeds has succeeded in both of its parts. -/
theorem bind_eq_ok {m : Stateful σ ε α} {f : α → Stateful σ ε β} {s s'' : σ} {b : β}
    (h : (m >>= f) s = (.ok b, s'')) : ∃ a s', m s = (.ok a, s') ∧ f a s' = (.ok b, s'') := by
  rw [bind_apply] at h
  rcases hm : m s with ⟨a | e | p, s'⟩
  · rw [hm] at h
    exact ⟨a, s', rfl, h⟩
  · rw [hm] at h
    cases h
  · rw [hm] at h
    cases h

theorem id_map (m : Stateful σ ε α) : id <$> m = m := by
  funext s
  show Stateful.bind m _ s = m s
  unfold Stateful.bind
  rcases m s with ⟨_ | _ | _, _⟩ <;> rfl

theorem bind_assoc {γ : Type} (m : Stateful σ ε α) (f : α → Stateful σ ε β)
    (g : β → Stateful σ ε γ) : m >>= f >>= g = m >>= fun a => f a >>= g := by
  funext s
  show Stateful.bind (Stateful.bind m f) g s = Stateful.bind m _ s
  unfold Stateful.bind
  rcases m s with ⟨_ | _ | _, _⟩ <;> rfl

instance : LawfulMonad (Stateful σ ε) := LawfulMonad.mk' _ id_map (fun _ _ => rfl) bind_assoc

@[simp] theorem get_apply (s : σ) : (get : Stateful σ ε σ) s = (.ok s, s) := rfl
@[simp] theorem modify_apply (f : σ → σ) (s : σ) :
    (modify f : Stateful σ ε Unit) s = (.ok (), f s) := rfl
@[simp] theorem throw_apply (e : ε) (s : σ) :
    (throw e : Stateful σ ε α) s = (.err e, s) := rfl
@[simp] theorem lift_apply (m : Outcome ε α) (s : σ) : lift m s = (m, s) := rfl

end Stateful

/-! ### Byte strings and fixed-size arrays -/

/-- `&[u8]` and `Vec<u8>`. -/
abbrev Bytes := List UInt8

/-- `[u8; n]`. -/
abbrev U8Array (n : Nat) := List.Vector UInt8 n

variable {ε : Type}

/-- `xs[i]`. -/
def index (xs : Bytes) (i : Nat) : Outcome ε UInt8 :=
  match xs[i]? with
  | some b => .ok b
  | none => .panic .outOfRange

/-- `&xs[lo..hi]`. -/
def slice (xs : Bytes) (lo hi : Nat) : Outcome ε Bytes :=
  if lo ≤ hi ∧ hi ≤ xs.length then .ok ((xs.drop lo).take (hi - lo)) else .panic .outOfRange

/-- `xs.try_into().unwrap()` at type `[u8; n]`. -/
def tryIntoUnwrap (n : Nat) (xs : Bytes) : Outcome ε (U8Array n) :=
  if h : xs.length = n then .ok ⟨xs, h⟩ else .panic .wrongLength

/-- `dst.copy_from_slice(xs)` into an array of length `n`: the array afterwards. -/
def copyFromSlice (n : Nat) (xs : Bytes) : Outcome ε (U8Array n) :=
  if h : xs.length = n then .ok ⟨xs, h⟩ else .panic .copyMismatch

/-- `a + b` at type `usize`, on a 64-bit target. -/
def usizeAdd (a b : Nat) : Outcome ε Nat :=
  if a + b < 2 ^ 64 then .ok (a + b) else .panic .overflow

/-- `a + b` at type `u32`. -/
def u32Add (a b : UInt32) : Outcome ε UInt32 :=
  if a.toNat + b.toNat < 2 ^ 32 then .ok (a + b) else .panic .overflow

/-- `a - b` at type `u64`. -/
def u64Sub (a b : UInt64) : Outcome ε UInt64 :=
  if b ≤ a then .ok (a - b) else .panic .overflow

theorem index_eq {xs : Bytes} {i : Nat} (h : i < xs.length) :
    (index xs i : Outcome ε UInt8) = .ok xs[i] := by
  simp [index, h]

theorem slice_eq {xs : Bytes} {lo hi : Nat} (h : lo ≤ hi) (h' : hi ≤ xs.length) :
    (slice xs lo hi : Outcome ε Bytes) = .ok ((xs.drop lo).take (hi - lo)) := by
  rw [slice, if_pos ⟨h, h'⟩]

/-- Slicing out the middle of a concatenation. -/
theorem slice_append (pre mid post : Bytes) {i j : Nat} (hi : pre.length = i)
    (hj : i + mid.length = j) :
    (slice (pre ++ (mid ++ post)) i j : Outcome ε Bytes) = .ok mid := by
  rw [slice_eq (by omega) (by simp only [List.length_append]; omega), ← hi, List.drop_left,
    show j - pre.length = mid.length by omega, List.take_left]

theorem tryIntoUnwrap_eq {n : Nat} {xs : Bytes} (h : xs.length = n) :
    (tryIntoUnwrap n xs : Outcome ε (U8Array n)) = .ok ⟨xs, h⟩ := by
  rw [tryIntoUnwrap, dif_pos h]

theorem copyFromSlice_eq {n : Nat} {xs : Bytes} (h : xs.length = n) :
    (copyFromSlice n xs : Outcome ε (U8Array n)) = .ok ⟨xs, h⟩ := by
  rw [copyFromSlice, dif_pos h]

theorem usizeAdd_eq {a b : Nat} (h : a + b < 2 ^ 64) :
    (usizeAdd a b : Outcome ε Nat) = .ok (a + b) := by
  rw [usizeAdd, if_pos h]

theorem u32Add_eq {a b : UInt32} (h : a.toNat + b.toNat < 2 ^ 32) :
    (u32Add a b : Outcome ε UInt32) = .ok (a + b) := by
  rw [u32Add, if_pos h]

theorem u64Sub_eq {a b : UInt64} (h : b ≤ a) : (u64Sub a b : Outcome ε UInt64) = .ok (a - b) := by
  rw [u64Sub, if_pos h]

@[simp] theorem toList_length {n : Nat} (a : U8Array n) : a.toList.length = n :=
  a.toList_length

/-- A `u32` other than the last can be counted up. -/
theorem u32_succ_lt {x : UInt32} (h : x ≠ 0xFFFFFFFF) : x.toNat + 1 < 2 ^ 32 := by
  have hne : x.toNat ≠ 2 ^ 32 - 1 := fun heq => h (UInt32.toNat_inj.mp heq)
  have hlt := x.toNat_lt
  omega

/-- Cut the first `n` bytes off a byte string that has them. -/
theorem exists_front (n : Nat) (raw : Bytes) (h : n ≤ raw.length) :
    ∃ (a : U8Array n) (rest : Bytes), raw = a.toList ++ rest :=
  ⟨⟨raw.take n, by simp [h]⟩, raw.drop n, (List.take_append_drop n raw).symm⟩

/-! ### Finite maps -/

/-- `HashMap<κ, ν>`, up to the order of its entries. -/
abbrev HashMap (κ ν : Type) := Finmap (fun _ : κ => ν)

namespace HashMap

variable {κ ν : Type} [DecidableEq κ]

/-- `HashMap::new()`. -/
def new : HashMap κ ν := (∅ : Finmap _)

/-- `map.get(&k)`. -/
def get (m : HashMap κ ν) (k : κ) : Option ν := Finmap.lookup k m

/-- `map.insert(k, v)`. -/
def insert (m : HashMap κ ν) (k : κ) (v : ν) : HashMap κ ν := Finmap.insert k v m

/-- `map.remove(&k)`. -/
def remove (m : HashMap κ ν) (k : κ) : HashMap κ ν := Finmap.erase k m

/-- `map.entry(k).or_insert_with(f)`: the value the entry holds, and the map with
the entry in it. -/
def entryOrInsertWith (m : HashMap κ ν) (k : κ) (f : Unit → ν) : ν × HashMap κ ν :=
  match m.get k with
  | some v => (v, m)
  | none => (f (), m.insert k (f ()))

@[simp] theorem get_new (k : κ) : (new : HashMap κ ν).get k = none := Finmap.lookup_empty k

theorem get_insert (m : HashMap κ ν) (k k' : κ) (v : ν) :
    (m.insert k v).get k' = if k' = k then some v else m.get k' := by
  by_cases h : k' = k
  · subst h
    rw [if_pos rfl]
    exact Finmap.lookup_insert m
  · rw [if_neg h]
    exact Finmap.lookup_insert_of_ne m h

@[simp] theorem get_insert_self (m : HashMap κ ν) (k : κ) (v : ν) :
    (m.insert k v).get k = some v := by
  rw [get_insert, if_pos rfl]

theorem get_remove (m : HashMap κ ν) (k k' : κ) :
    (m.remove k).get k' = if k' = k then none else m.get k' := by
  by_cases h : k' = k
  · subst h
    rw [if_pos rfl]
    exact Finmap.lookup_erase k' m
  · rw [if_neg h]
    exact Finmap.lookup_erase_ne h

theorem insert_insert (m : HashMap κ ν) (k : κ) (v v' : ν) :
    (m.insert k v).insert k v' = m.insert k v' := Finmap.insert_insert m

theorem ext {m m' : HashMap κ ν} (h : ∀ k, m.get k = m'.get k) : m = m' :=
  Finmap.ext_lookup h

end HashMap

end Rust
