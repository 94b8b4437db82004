import Mathlib.Data.List.DropRight
import Mathlib.Data.Nat.Digits.Defs

/-!
# SecurePipe.Lib.Text

What Rust's standard library does to a `str`, taken as the list of its characters: trimming,
splitting, and reading a number. `fromStrRadix_eq_some` says which strings are read: the
numerals of the radix that stay below the bound, with or without a plus sign. `FreeOf` is for
what is written: a text put together from fixed pieces and numbers has the characters of the
pieces and digits.
-/

namespace Rust

/-! ### Trimming -/

/-- `char::is_whitespace`: the characters with the Unicode property `White_Space`. -/
def isWhitespace (c : Char) : Bool :=
  (0x09 ≤ c.toNat && c.toNat ≤ 0x0D) || (0x2000 ≤ c.toNat && c.toNat ≤ 0x200A) ||
    [0x20, 0x85, 0xA0, 0x1680, 0x2028, 0x2029, 0x202F, 0x205F, 0x3000].contains c.toNat

variable {α β : Type}

/-- `trim_matches`. -/
def trimMatches (p : α → Bool) (s : List α) : List α := (s.dropWhile p).rdropWhile p

/-- `str::trim`. -/
def trim (s : List Char) : List Char := trimMatches isWhitespace s

theorem trimMatches_eq_nil {p : α → Bool} {s : List α} :
    trimMatches p s = [] ↔ ∀ a ∈ s, p a = true := by
  unfold trimMatches
  rw [List.rdropWhile_eq_nil_iff]
  constructor
  · intro h
    by_contra hsome
    have hne : s.dropWhile p ≠ [] := fun hnil => hsome (List.dropWhile_eq_nil_iff.mp hnil)
    have hhead := List.head_dropWhile_not p hne
    rw [h _ (List.head_mem hne)] at hhead
    cases hhead
  · intro h
    rw [List.dropWhile_eq_nil_iff.mpr h]
    exact fun a ha => absurd ha List.not_mem_nil

theorem trimMatches_map (f : α → β) (p : β → Bool) (s : List α) :
    trimMatches p (s.map f) = (trimMatches (p ∘ f) s).map f := by
  simp only [trimMatches, List.rdropWhile, List.dropWhile_map, ← List.map_reverse]

theorem splitOnP_map (f : α → β) (p : β → Bool) (s : List α) :
    (s.map f).splitOnP p = (s.splitOnP (p ∘ f)).map (List.map f) := by
  induction s with
  | nil => rfl
  | cons a s ih =>
      rw [List.map_cons, List.splitOnP_cons_eq_if_modifyHead, List.splitOnP_cons_eq_if_modifyHead,
        ih, Function.comp_apply]
      by_cases ha : p (f a) = true
      · rw [if_pos ha, if_pos ha, List.map_cons, List.map_nil]
      · rw [if_neg ha, if_neg ha]
        cases s.splitOnP (p ∘ f) with
        | nil => rfl
        | cons front later => rfl

/-! ### Reading a number -/

/-- `char::to_digit`. -/
def toDigit (radix : Nat) (c : Char) : Option Nat :=
  let digit :=
    if '0' ≤ c ∧ c ≤ '9' then some (c.toNat - '0'.toNat)
    else if 'a' ≤ c ∧ c ≤ 'z' then some (c.toNat - 'a'.toNat + 10)
    else if 'A' ≤ c ∧ c ≤ 'Z' then some (c.toNat - 'A'.toNat + 10)
    else none
  digit.filter (· < radix)

/-- `checked_mul` and `checked_add`, in a type with so many values. -/
def checked (bound n : Nat) : Option Nat := if n < bound then some n else none

/-- The loop of `from_str_radix`, in a type with `bound` values. -/
def readDigits (radix bound : Nat) : List Char → Nat → Option Nat
  | [], result => some result
  | c :: digits, result => do
      let mul := checked bound (result * radix)
      let x ← toDigit radix c
      let result ← mul
      let result ← checked bound (result + x)
      readDigits radix bound digits result

/-- `from_str_radix`, in an unsigned type with `bound` values. -/
def fromStrRadix (radix bound : Nat) (src : List Char) : Option Nat :=
  match src with
  | [] => none
  | ['+'] => none
  | ['-'] => none
  | '+' :: digits => readDigits radix bound digits 0
  | digits => readDigits radix bound digits 0

/-- What a string of digits stands for. -/
def numeralValue (radix : Nat) (s : List Char) : Nat :=
  Nat.ofDigits radix (s.reverse.map fun c => (toDigit radix c).getD 0)

/-- One or more digits, with this value. -/
def IsNumeral (radix : Nat) (s : List Char) (n : Nat) : Prop :=
  s ≠ [] ∧ (∀ c ∈ s, (toDigit radix c).isSome) ∧ numeralValue radix s = n

-- Over the digits of the string, not over all characters.
instance (radix : Nat) (s : List Char) (n : Nat) : Decidable (IsNumeral radix s n) :=
  have := List.decidableBAll (fun c => (toDigit radix c).isSome = true) s
  inferInstanceAs (Decidable (_ ∧ _))

theorem numeralValue_cons (radix : Nat) (c : Char) (s : List Char) :
    numeralValue radix (c :: s) =
      (toDigit radix c).getD 0 * radix ^ s.length + numeralValue radix s := by
  unfold numeralValue
  rw [List.reverse_cons, List.map_append, Nat.ofDigits_append, List.length_map, List.length_reverse,
    List.map_singleton, Nat.ofDigits_singleton, Nat.add_comm, Nat.mul_comm]

/-- The two checks of a turn come to one: that of the sum. -/
theorem readDigits_cons {radix bound x : Nat} {c : Char} (hdigit : toDigit radix c = some x)
    (s : List Char) (acc : Nat) :
    readDigits radix bound (c :: s) acc =
      if acc * radix + x < bound then readDigits radix bound s (acc * radix + x) else none := by
  rw [readDigits, hdigit]
  unfold checked
  by_cases hsum : acc * radix + x < bound
  · have hmul : acc * radix < bound := Nat.lt_of_le_of_lt (Nat.le_add_right _ x) hsum
    simp only [if_pos hmul, Option.bind_eq_bind, Option.bind_some, if_pos hsum]
  · rw [if_neg hsum]
    by_cases hmul : acc * radix < bound
    · simp only [if_pos hmul, Option.bind_eq_bind, Option.bind_some, if_neg hsum, Option.bind_none]
    · simp only [if_neg hmul, Option.bind_eq_bind, Option.bind_some, Option.bind_none]

/-- The loop reads digits, as long as the number they make stays below the bound. -/
theorem readDigits_eq_some {radix bound : Nat} (hradix : 0 < radix) {s : List Char} {acc n : Nat}
    (hacc : acc < bound) :
    readDigits radix bound s acc = some n ↔
      (∀ c ∈ s, (toDigit radix c).isSome) ∧
        acc * radix ^ s.length + numeralValue radix s = n ∧ n < bound := by
  induction s generalizing acc with
  | nil =>
      have hnil : numeralValue radix [] = 0 := rfl
      rw [readDigits, Option.some_inj, hnil, List.length_nil, Nat.pow_zero, Nat.mul_one, Nat.add_zero]
      constructor
      · intro h
        subst h
        exact ⟨fun c hc => absurd hc List.not_mem_nil, rfl, hacc⟩
      · exact fun h => h.2.1
  | cons c s ih =>
      rw [List.forall_mem_cons, numeralValue_cons]
      cases hdigit : toDigit radix c with
      | none =>
          refine iff_of_false ?_ fun h => nomatch h.1.1
          unfold readDigits
          rw [hdigit]
          simp
      | some x =>
          have hmore : acc * radix ^ (c :: s).length + ((some x).getD 0 * radix ^ s.length +
              numeralValue radix s) = (acc * radix + x) * radix ^ s.length + numeralValue radix s := by
            rw [List.length_cons, Option.getD_some]
            ring
          rw [readDigits_cons hdigit, hmore]
          by_cases hsum : acc * radix + x < bound
          · rw [if_pos hsum, ih hsum]
            simp
          · rw [if_neg hsum]
            refine iff_of_false nofun ?_
            intro ⟨_, hn, hlt⟩
            -- the digits that follow only make the number larger
            have hle : acc * radix + x ≤ (acc * radix + x) * radix ^ s.length :=
              Nat.le_mul_of_pos_right _ (Nat.pow_pos hradix)
            omega

/-- No sign is a digit. -/
theorem toDigit_sign (radix : Nat) : toDigit radix '+' = none ∧ toDigit radix '-' = none :=
  ⟨rfl, rfl⟩

theorem not_isNumeral_sign (radix : Nat) {sign : Char} (hsign : toDigit radix sign = none)
    (s : List Char) (n : Nat) : ¬ IsNumeral radix (sign :: s) n := by
  intro h
  have hsome := h.2.1 sign List.mem_cons_self
  rw [hsign] at hsome
  cases hsome

/-- Without a sign, what is read is a numeral below the bound. -/
theorem readDigits_isNumeral {radix bound : Nat} (hradix : 0 < radix) (hbound : 0 < bound)
    {s : List Char} (hs : s ≠ []) {n : Nat} :
    readDigits radix bound s 0 = some n ↔ IsNumeral radix s n ∧ n < bound := by
  rw [readDigits_eq_some hradix hbound, Nat.zero_mul, Nat.zero_add, IsNumeral, and_assoc, and_assoc]
  exact (and_iff_right hs).symm

/-- **Which strings are read as a number**: the numerals below the bound, and the same with a
plus sign in front. -/
theorem fromStrRadix_eq_some {radix bound : Nat} (hradix : 0 < radix) (hbound : 0 < bound)
    {s : List Char} {n : Nat} :
    fromStrRadix radix bound s = some n ↔
      (IsNumeral radix s n ∨ ∃ digits, s = '+' :: digits ∧ IsNumeral radix digits n) ∧
        n < bound := by
  have hplus := not_isNumeral_sign radix (toDigit_sign radix).1
  have hminus := not_isNumeral_sign radix (toDigit_sign radix).2
  unfold fromStrRadix
  split
  case h_1 =>
    refine iff_of_false nofun ?_
    rintro ⟨h | ⟨digits, heq, -⟩, -⟩
    · exact h.1 rfl
    · cases heq
  case h_2 =>
    refine iff_of_false nofun ?_
    rintro ⟨h | ⟨digits, heq, h⟩, -⟩
    · exact hplus [] n h
    · cases heq
      exact h.1 rfl
  case h_3 =>
    refine iff_of_false nofun ?_
    rintro ⟨h | ⟨digits, heq, -⟩, -⟩
    · exact hminus [] n h
    · cases heq
  case h_4 digits hdigits =>
    have hne : digits ≠ [] := fun h => hdigits (by rw [h])
    rw [readDigits_isNumeral hradix hbound hne]
    refine and_congr_left fun _ => ?_
    simp [hplus]
  case h_5 digits hempty _ _ hunsigned =>
    rw [readDigits_isNumeral hradix hbound hempty]
    refine and_congr_left fun _ => (or_iff_left ?_).symm
    rintro ⟨digits, heq, -⟩
    exact hunsigned digits heq

/-! ### Characters kept out of a text -/

/-- None of these characters occurs in the text. -/
def FreeOf (chars : List Char) (s : String) : Prop := ∀ c ∈ s.toList, c ∉ chars

variable {chars : List Char}

/-- A text that is written out. -/
theorem freeOf_ofList {s : List Char} (h : s.all (fun c => !chars.contains c) = true) :
    FreeOf chars (String.ofList s) := by
  intro c hc hmem
  rw [String.toList_ofList] at hc
  have hfree := List.all_eq_true.mp h c hc
  rw [List.contains_iff_mem.mpr hmem] at hfree
  cases hfree

theorem freeOf_append {s t : String} (hs : FreeOf chars s) (ht : FreeOf chars t) :
    FreeOf chars (s ++ t) := by
  intro c hc
  rw [String.toList_append] at hc
  rcases List.mem_append.mp hc with hc | hc
  · exact hs c hc
  · exact ht c hc

/-- The digits of a number are digits of the base. -/
theorem exists_of_mem_toDigits {b n : Nat} (hb : 1 < b) {c : Char} (hc : c ∈ Nat.toDigits b n) :
    ∃ d < b, c = d.digitChar := by
  induction n using Nat.strongRecOn with
  | ind n ih =>
      rw [Nat.toDigits_eq_if hb] at hc
      by_cases hn : n < b
      · rw [if_pos hn] at hc
        exact ⟨n, hn, List.mem_singleton.mp hc⟩
      · rw [if_neg hn] at hc
        rcases List.mem_append.mp hc with hc | hc
        · exact ih (n / b) (Nat.div_lt_self (by omega) hb) hc
        · exact ⟨n % b, Nat.mod_lt _ (by omega), List.mem_singleton.mp hc⟩

/-- A number in decimal has no characters but digits. -/
theorem freeOf_repr (h : ∀ d < 10, d.digitChar ∉ chars) (n : Nat) : FreeOf chars n.repr := by
  intro c hc
  rw [Nat.toList_repr] at hc
  obtain ⟨d, hd, rfl⟩ := exists_of_mem_toDigits (by decide) hc
  exact h d hd

end Rust
