import Mathlib.Tactic.Ring
import SecurePipe.Lib.C
import SecurePipe.Lib.Text

/-!
# SecurePipe.Lib.Strtoul

The hexadecimal numerals that Rust reads, read by C.

`strtoul_numeral` says that `strtoul` takes a numeral for the number that it is for
`u32::from_str_radix`, and `strtoul_prefixed` that it does so behind a prefix as well.
-/

namespace C

open Rust

/-- The bytes of a text. -/
def text (s : List Char) : Bytes := ascii (String.ofList s)

theorem text_eq (s : List Char) : text s = s.map fun c => UInt8.ofNat c.toNat := by
  rw [text, ascii, String.toList_ofList]

@[simp] theorem text_nil : text [] = [] := rfl

@[simp] theorem text_cons (c : Char) (s : List Char) :
    text (c :: s) = UInt8.ofNat c.toNat :: text s := by
  simp [text_eq]

@[simp] theorem text_take (s : List Char) (k : Nat) : (text s).take k = text (s.take k) := by
  simp [text_eq, List.map_take]

/-! ### Digits -/

theorem toNat_lt_of_isSome {c : Char} (h : (toDigit 16 c).isSome) : c.toNat < 128 := by
  have hle {d : Char} (hd : d.toNat < 128) (hcd : c ≤ d) : c.toNat < 128 :=
    Nat.lt_of_le_of_lt (UInt32.le_iff_toNat_le.mp hcd) hd
  unfold toDigit at h
  split_ifs at h with hnum hlower hupper
  · exact hle (by decide) hnum.2
  · exact hle (by decide) hlower.2
  · exact hle (by decide) hupper.2
  · exact absurd h (by simp)

/-- A byte that is this digit, and nothing else that `strtoul` looks for. -/
structure IsDigit (b : UInt8) (d : Nat) : Prop where
  value : digitValue b = some d
  lt : d < 16
  not_space : isSpace b = false
  not_minus : b ≠ 0x2D
  not_plus : b ≠ 0x2B
  not_x : ¬ (b = 0x78 ∨ b = 0x58)

instance (b : UInt8) (d : Nat) : Decidable (IsDigit b d) :=
  decidable_of_iff (digitValue b = some d ∧ d < 16 ∧ isSpace b = false ∧ b ≠ 0x2D ∧ b ≠ 0x2B ∧
      ¬ (b = 0x78 ∨ b = 0x58))
    ⟨fun ⟨h₁, h₂, h₃, h₄, h₅, h₆⟩ => ⟨h₁, h₂, h₃, h₄, h₅, h₆⟩,
      fun ⟨h₁, h₂, h₃, h₄, h₅, h₆⟩ => ⟨h₁, h₂, h₃, h₄, h₅, h₆⟩⟩

theorem isDigit_ascii : ∀ n < 128, (toDigit 16 (Char.ofNat n)).isSome →
    IsDigit (UInt8.ofNat n) ((toDigit 16 (Char.ofNat n)).getD 0) := by
  decide +kernel

/-- **The digits are the same**, here and there. -/
theorem isDigit_of_isSome {c : Char} (h : (toDigit 16 c).isSome) :
    IsDigit (UInt8.ofNat c.toNat) ((toDigit 16 c).getD 0) := by
  have hascii := isDigit_ascii c.toNat (toNat_lt_of_isSome h)
  rw [Char.ofNat_toNat] at hascii
  exact hascii h

variable {s : List Char} {n : Nat}

theorem digits_text (h : ∀ c ∈ s, (toDigit 16 c).isSome) :
    digits 16 (text s) = s.map fun c => (toDigit 16 c).getD 0 := by
  induction s with
  | nil => rfl
  | cons c s ih =>
      obtain ⟨hc, hs⟩ := List.forall_mem_cons.mp h
      have hdigit := isDigit_of_isSome hc
      rw [text_cons, List.map_cons, digits, hdigit.value]
      simp only [if_pos hdigit.lt, ih hs]

theorem foldl_digits (s : List Char) (acc : Nat) :
    (s.map fun c => (toDigit 16 c).getD 0).foldl (fun value d => value * 16 + d) acc =
      acc * 16 ^ s.length + numeralValue 16 s := by
  induction s generalizing acc with
  | nil => simp [numeralValue]
  | cons c s ih =>
      rw [List.map_cons, List.foldl_cons, ih, numeralValue_cons, List.length_cons]
      ring

/-- The number that the digits at the start of a string make. -/
def hexValue (s : Bytes) : Nat := (digits 16 s).foldl (fun value d => value * 16 + d) 0

theorem hexValue_text (h : ∀ c ∈ s, (toDigit 16 c).isSome) :
    hexValue (text s) = numeralValue 16 s := by
  rw [hexValue, digits_text h, foldl_digits, Nat.zero_mul, Nat.zero_add]

/-! ### Numerals -/

/-- A digit at the start ends the search for a sign. -/
theorem strtoul_digit {b : UInt8} {d : Nat} (h : IsDigit b d) (s : Bytes) :
    strtoul (b :: s) 16 =
      if 2 ^ 32 ≤ hexValue (skipHexPrefix (b :: s)) then 0xFFFFFFFF
      else UInt32.ofNat (hexValue (skipHexPrefix (b :: s))) := by
  unfold strtoul
  rw [List.dropWhile_cons_of_neg (by rw [h.not_space]; exact Bool.false_ne_true)]
  simp only [↓reduceIte]
  split
  · next hminus => exact absurd (List.cons.inj hminus).1 h.not_minus
  · next hplus => exact absurd (List.cons.inj hplus).1 h.not_plus
  · rfl

/-- A second digit shows that there is no prefix. -/
theorem skipHexPrefix_text (h : ∀ c ∈ s, (toDigit 16 c).isSome) :
    skipHexPrefix (text s) = text s := by
  unfold skipHexPrefix
  split
  · next x rest heq =>
      cases s with
      | nil => exact absurd heq (by simp)
      | cons c s =>
          cases s with
          | nil => exact absurd heq (by simp)
          | cons c' s =>
              simp only [text_cons, List.cons.injEq] at heq
              have hdigit := isDigit_of_isSome (h c' (by simp))
              rw [heq.2.1] at hdigit
              simp [hdigit.not_x]
  · rfl

/-- **Numerals** are read as they are there. -/
theorem strtoul_numeral (h : IsNumeral 16 s n) (hn : n < 2 ^ 32) :
    strtoul (text s) 16 = UInt32.ofNat n := by
  obtain ⟨hne, hdigits, hvalue⟩ := h
  cases s with
  | nil => exact absurd rfl hne
  | cons c s =>
      have hskip := skipHexPrefix_text hdigits
      have hread := hexValue_text hdigits
      rw [text_cons] at hskip hread ⊢
      rw [strtoul_digit (isDigit_of_isSome (hdigits c (by simp))), hskip, hread, hvalue,
        if_neg (Nat.not_le_of_lt hn)]

/-- **Numerals behind a prefix.** -/
theorem strtoul_prefixed {x : Char} (hx : x = 'x' ∨ x = 'X') (h : IsNumeral 16 s n)
    (hn : n < 2 ^ 32) : strtoul (text ('0' :: x :: s)) 16 = UInt32.ofNat n := by
  obtain ⟨hne, hdigits, hvalue⟩ := h
  have hsome : digits 16 (text s) ≠ [] := by
    rw [digits_text hdigits]
    simpa using hne
  have hskip : skipHexPrefix (text ('0' :: x :: s)) = text s := by
    have hx' : UInt8.ofNat x.toNat = 0x78 ∨ UInt8.ofNat x.toNat = 0x58 :=
      hx.imp (fun h => by rw [h]; rfl) (fun h => by rw [h]; rfl)
    rw [text_cons, text_cons]
    show (if (UInt8.ofNat x.toNat = 0x78 || UInt8.ofNat x.toNat = 0x58) &&
      digits 16 (text s) ≠ [] then text s else _) = text s
    rw [if_pos (by simpa [hsome] using hx')]
  rw [text_cons] at hskip ⊢
  rw [strtoul_digit (isDigit_of_isSome (by decide : (toDigit 16 '0').isSome)), hskip,
    hexValue_text hdigits, hvalue, if_neg (Nat.not_le_of_lt hn)]

/-! ### Numerals that are cut off -/

theorem numeralValue_append (s t : List Char) :
    numeralValue 16 (s ++ t) = numeralValue 16 s * 16 ^ t.length + numeralValue 16 t := by
  induction s with
  | nil => simp [numeralValue]
  | cons c s ih =>
      rw [List.cons_append, numeralValue_cons, numeralValue_cons, ih, List.length_append]
      ring

/-- The first digits of a numeral make another one, smaller unless nothing was cut off. -/
theorem isNumeral_take (h : IsNumeral 16 s n) {k : Nat} (hk : 0 < k) :
    ∃ m, IsNumeral 16 (s.take k) m ∧ m ≤ n ∧ (m = n ↔ s.length ≤ k ∨ n = 0) := by
  obtain ⟨hne, hdigits, hvalue⟩ := h
  have hsplit := numeralValue_append (s.take k) (s.drop k)
  rw [List.take_append_drop, hvalue] at hsplit
  obtain ⟨m, hm⟩ : ∃ m, m = numeralValue 16 (s.take k) := ⟨_, rfl⟩
  rw [← hm] at hsplit
  refine ⟨m, ⟨?_, fun c hc => hdigits c (List.mem_of_mem_take hc), hm.symm⟩, ?_, ?_⟩
  · rw [Ne, List.take_eq_nil_iff]
    exact fun hnil => hnil.elim hk.ne' hne
  · have hpos : 0 < 16 ^ (s.drop k).length := Nat.pow_pos (by decide)
    exact (Nat.le_mul_of_pos_right m hpos).trans (hsplit ▸ Nat.le_add_right _ _)
  · by_cases hlen : s.length ≤ k
    · rw [List.take_of_length_le hlen, hvalue] at hm
      simp [hm, hlen]
    · have hlong : 2 ≤ 16 ^ (s.drop k).length := by
        have hdrop : (s.drop k).length ≠ 0 := by
          rw [List.length_drop]
          omega
        exact le_trans (by decide : 2 ≤ 16) (Nat.le_self_pow hdrop 16)
      rw [or_iff_right hlen]
      have hmul : m * 2 ≤ m * 16 ^ (s.drop k).length := Nat.mul_le_mul_left m hlong
      constructor
      · intro heq
        omega
      · intro hzero
        omega

end C
