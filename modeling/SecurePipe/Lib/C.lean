import Mathlib.Data.List.Basic
import SecurePipe.Lib.BigEndian

/-!
# SecurePipe.Lib.C

A small vocabulary for transcribing C: conversions between the fixed-width integer
types and a 32-bit `int`, reads from a buffer, and counted loops whose counter wraps
around at its width.

`none` stands for a computation that has no result: a read past the end of a buffer,
or a loop that never stops.
-/

namespace C

open Rust BigEndian

/-! ### Conversions -/

/-- The promotion of a `uint8_t` to `int`. -/
def ofU8 (x : UInt8) : Int32 := x.toUInt32.toInt32

/-- The promotion of a `uint16_t` to `int`. -/
def ofU16 (x : UInt16) : Int32 := x.toUInt32.toInt32

/-- An `int` stored in a `uint8_t`. -/
def toU8 (x : Int32) : UInt8 := x.toUInt32.toUInt8

/-- An `int` stored in a `uint16_t`. -/
def toU16 (x : Int32) : UInt16 := x.toUInt32.toUInt16

/-! ### Sixteen bits in a 32-bit `int`

What is computed in a promoted `int` and cut back to sixteen bits agrees with the
computation in sixteen bits, as long as only shifts to the left are involved. -/

@[simp] theorem toU16_ofU16 (x : UInt16) : toU16 (ofU16 x) = x := by
  simp [toU16, ofU16]

theorem ofU16_injective : Function.Injective ofU16 := fun x y h => by
  rw [← toU16_ofU16 x, h, toU16_ofU16]

theorem toU16_shiftLeft (x : UInt16) : toU16 (ofU16 x <<< 1) = x <<< 1 := by
  apply UInt16.toBitVec_inj.mp
  apply BitVec.eq_of_getLsbD_eq
  intro i hi
  simp [ofU16, toU16]

theorem toU16_shiftLeft_xor (x : UInt16) :
    toU16 ((ofU16 x <<< 1) ^^^ 0x1021) = (x <<< 1) ^^^ 0x1021 := by
  apply UInt16.toBitVec_inj.mp
  apply BitVec.eq_of_getLsbD_eq
  intro i hi
  simp [ofU16, toU16]

theorem toU16_xor_shiftLeft (x : UInt16) (b : UInt8) :
    toU16 (ofU16 x ^^^ (ofU16 b.toUInt16 <<< 8)) = x ^^^ (b.toUInt16 <<< 8) := by
  apply UInt16.toBitVec_inj.mp
  apply BitVec.eq_of_getLsbD_eq
  intro i hi
  simp [ofU16, toU16]

theorem ofU16_and_0x8000 (x : UInt16) : ofU16 x &&& 0x8000 = ofU16 (x &&& 0x8000) := by
  apply Int32.toBitVec_inj.mp
  apply BitVec.eq_of_getLsbD_eq
  intro i hi
  simp [ofU16]

/-! ### The bytes of an integer, by shifts and masks -/

theorem mod_and_255 (n : Nat) : n % 256 &&& 255 = n % 256 := by
  rw [show 255 = 2 ^ 8 - 1 from rfl, Nat.and_two_pow_sub_one_eq_mod, Nat.mod_mod]

/-- The bytes of a `uint16_t`, as `(x >> k) & 0xFF` takes them. -/
theorem bytes_u16 (x : UInt16) :
    [((x >>> 8) &&& 0xFF).toUInt8, (x &&& 0xFF).toUInt8] = (u16ToBytes x).toList := by
  show _ = bytesOf 2 x.toNat
  simp only [bytesOf, List.cons.injEq, and_true]
  refine ⟨?_, ?_⟩
  all_goals
    apply UInt8.toNat_inj.mp
    simp [Nat.shiftRight_eq_div_pow, mod_and_255]

/-- The bytes of a `uint32_t`, as `(x >> k) & 0xFF` takes them. -/
theorem bytes_u32 (x : UInt32) :
    [((x >>> 24) &&& 0xFF).toUInt8, ((x >>> 16) &&& 0xFF).toUInt8,
      ((x >>> 8) &&& 0xFF).toUInt8, (x &&& 0xFF).toUInt8] = (u32ToBytes x).toList := by
  show _ = bytesOf 4 x.toNat
  simp only [bytesOf, List.cons.injEq, and_true]
  refine ⟨?_, ?_, ?_, ?_⟩
  all_goals
    apply UInt8.toNat_inj.mp
    simp [Nat.shiftRight_eq_div_pow, mod_and_255]

/-- The bytes of a `uint64_t`, as `(x >> k) & 0xFF` takes them. -/
theorem bytes_u64 (x : UInt64) :
    [((x >>> 56) &&& 0xFF).toUInt8, ((x >>> 48) &&& 0xFF).toUInt8,
      ((x >>> 40) &&& 0xFF).toUInt8, ((x >>> 32) &&& 0xFF).toUInt8,
      ((x >>> 24) &&& 0xFF).toUInt8, ((x >>> 16) &&& 0xFF).toUInt8,
      ((x >>> 8) &&& 0xFF).toUInt8, (x &&& 0xFF).toUInt8] = (u64ToBytes x).toList := by
  show _ = bytesOf 8 x.toNat
  simp only [bytesOf, List.cons.injEq, and_true]
  refine ⟨?_, ?_, ?_, ?_, ?_, ?_, ?_, ?_⟩
  all_goals
    apply UInt8.toNat_inj.mp
    simp [Nat.shiftRight_eq_div_pow, mod_and_255]

/-- Masked to a byte, an arithmetic shift is a logical one: the sign bits shifted in lie
above the byte. -/
theorem sshiftRight_byte (x : BitVec 32) {n : Nat} (hn : n ≤ 24) :
    (x.sshiftRight n &&& 0xFF#32).setWidth 8 = ((x >>> n) &&& 0xFF#32).setWidth 8 := by
  apply BitVec.eq_of_getLsbD_eq
  intro i hi
  have h : n + i < 32 := by omega
  simp [BitVec.getLsbD_sshiftRight, h, hi, show ¬ 32 ≤ i by omega]

/-- The bytes of an `int32_t`, as `(x >> k) & 0xFF` takes them. -/
theorem bytes_i32 (v : Int32) :
    [toU8 ((v >>> 24) &&& 0xFF), toU8 ((v >>> 16) &&& 0xFF), toU8 ((v >>> 8) &&& 0xFF),
      toU8 (v &&& 0xFF)] = (i32ToBytes v).toList := by
  rw [i32ToBytes, ← bytes_u32]
  simp only [List.cons.injEq, and_true]
  exact ⟨UInt8.toBitVec_inj.mp (sshiftRight_byte v.toBitVec (by decide)),
    UInt8.toBitVec_inj.mp (sshiftRight_byte v.toBitVec (by decide)),
    UInt8.toBitVec_inj.mp (sshiftRight_byte v.toBitVec (by decide)), rfl⟩

/-- The bytes of a `uint16_t` promoted to `int`, as `(x >> k) & 0xFF` takes them. -/
theorem bytes_ofU16 (x : UInt16) :
    [toU8 ((ofU16 x >>> 8) &&& 0xFF), toU8 (ofU16 x &&& 0xFF)] = (u16ToBytes x).toList := by
  rw [← bytes_u16]
  simp only [List.cons.injEq, and_true]
  refine ⟨UInt8.toBitVec_inj.mp ?_, UInt8.toBitVec_inj.mp ?_⟩
  · refine (sshiftRight_byte (x.toBitVec.setWidth 32) (by decide)).trans ?_
    apply BitVec.eq_of_getLsbD_eq
    intro i hi
    simp [hi, show 8 + i < 32 by omega]
  · apply BitVec.eq_of_getLsbD_eq
    intro i hi
    simp [toU8, ofU16]

/-! ### Integers from their bytes, by shifts and disjunctions -/

theorem or_eq_add (a : Nat) {b i : Nat} (h : b < 2 ^ i) : a <<< i ||| b = a * 2 ^ i + b := by
  rw [← Nat.shiftLeft_add_eq_or_of_lt h, Nat.shiftLeft_eq]

theorem add_eq_shiftLeft (a b k : Nat) : a * 2 ^ (8 + k) + b * 2 ^ k = (a * 2 ^ 8 + b) <<< k := by
  rw [Nat.shiftLeft_eq, Nat.pow_add, Nat.add_mul, Nat.mul_assoc]

/-- Bytes shifted apart do not overlap: their disjunction is their sum. -/
theorem or_bytes (a b c d : UInt8) :
    a.toNat <<< 24 ||| b.toNat <<< 16 ||| c.toNat <<< 8 ||| d.toNat = valueOf [a, b, c, d] := by
  have hb := b.toNat_lt
  have hc := c.toNat_lt
  have hd := d.toNat_lt
  rw [Nat.shiftLeft_eq b.toNat, or_eq_add a.toNat (by omega), add_eq_shiftLeft a.toNat b.toNat 16,
    Nat.shiftLeft_eq c.toNat, or_eq_add _ (by omega), add_eq_shiftLeft _ c.toNat 8,
    or_eq_add _ hd]
  simp only [valueOf, List.length_cons, List.length_nil]
  omega

theorem toNat_shiftLeft (b : UInt8) {k : Nat} (hk : k ≤ 24) :
    ((b.toBitVec.setWidth 32) <<< k).toNat = b.toNat <<< k := by
  have hlt : b.toNat * 2 ^ k < 2 ^ (8 + k) := by
    rw [Nat.pow_add]
    exact Nat.mul_lt_mul_of_pos_right b.toNat_lt (Nat.two_pow_pos k)
  have hle : 2 ^ (8 + k) ≤ 2 ^ 32 := Nat.pow_le_pow_right (by omega) (by omega)
  rw [BitVec.toNat_shiftLeft, BitVec.toNat_setWidth_of_le (by omega), UInt8.toNat_toBitVec,
    Nat.shiftLeft_eq, Nat.mod_eq_of_lt (hlt.trans_le hle)]

/-- Four bytes assembled into an `int32_t`. -/
theorem assemble_i32 (bs : U8Array 4) {b₀ b₁ b₂ b₃ : UInt8} (h : bs.toList = [b₀, b₁, b₂, b₃]) :
    (ofU8 b₀ <<< 24) ||| (ofU8 b₁ <<< 16) ||| (ofU8 b₂ <<< 8) ||| ofU8 b₃ = i32OfBytes bs := by
  apply Int32.toBitVec_inj.mp
  show (b₀.toBitVec.setWidth 32 <<< 24) ||| (b₁.toBitVec.setWidth 32 <<< 16) |||
    (b₂.toBitVec.setWidth 32 <<< 8) ||| b₃.toBitVec.setWidth 32 =
      BitVec.ofNat 32 (valueOf bs.toList)
  have hlt : valueOf bs.toList < 2 ^ 32 := valueOf_toList_lt bs
  apply BitVec.eq_of_toNat_eq
  rw [BitVec.toNat_ofNat, Nat.mod_eq_of_lt hlt, h, BitVec.toNat_or, BitVec.toNat_or,
    BitVec.toNat_or, toNat_shiftLeft b₀ (by omega), toNat_shiftLeft b₁ (by omega),
    toNat_shiftLeft b₂ (by omega), BitVec.toNat_setWidth_of_le (by omega), UInt8.toNat_toBitVec,
    or_bytes]

/-- Two bytes assembled into a `uint16_t`, over a 32-bit `int`. -/
theorem assemble_u16 (bs : U8Array 2) {b₀ b₁ : UInt8} (h : bs.toList = [b₀, b₁]) :
    toU16 ((ofU16 b₀.toUInt16 <<< 8) ||| ofU8 b₁) = u16OfBytes bs := by
  apply UInt16.toBitVec_inj.mp
  show ((b₀.toBitVec.setWidth 16).setWidth 32 <<< 8 ||| b₁.toBitVec.setWidth 32).setWidth 16 =
    BitVec.ofNat 16 (valueOf bs.toList)
  have hlt : valueOf bs.toList < 2 ^ 16 := valueOf_toList_lt bs
  have hval : valueOf [0, 0, b₀, b₁] = valueOf [b₀, b₁] := by simp [valueOf]
  have hwiden : (b₀.toBitVec.setWidth 16).setWidth 32 = b₀.toBitVec.setWidth 32 :=
    BitVec.eq_of_toNat_eq (by simp)
  apply BitVec.eq_of_toNat_eq
  rw [hwiden]
  rw [h] at hlt
  rw [BitVec.toNat_ofNat, h, BitVec.toNat_setWidth, BitVec.toNat_or, toNat_shiftLeft b₀ (by omega),
    BitVec.toNat_setWidth_of_le (by omega), UInt8.toNat_toBitVec, ← hval, ← or_bytes]
  simp

/-! ### Counted loops -/

variable {σ : Type}

/-- The turns of a loop from the counter value `i` on. -/
def loopFrom (width bound : Nat) (body : Nat → σ → Option σ) : Nat → Nat → σ → Option σ
  | 0, _, _ => none
  | turns + 1, i, s =>
      if i < bound then
        (body i s).bind (loopFrom width bound body turns ((i + 1) % 2 ^ width))
      else some s

/-- `for (T i = 0; i < bound; i++)` with a counter of `width` bits that the body does not
write. A loop still running after the counter has taken every value never stops. -/
@[irreducible] def forLoop (width bound : Nat) (body : Nat → σ → Option σ) (s : σ) : Option σ :=
  loopFrom width bound body (2 ^ width + 1) 0 s

theorem loopFrom_eq {width bound : Nat} (hbound : bound < 2 ^ width) (body : Nat → σ → Option σ)
    {turns i : Nat} (hturns : bound - i < turns) (hi : i ≤ bound) (s : σ) :
    loopFrom width bound body turns i s =
      (List.range' i (bound - i)).foldlM (fun s i => body i s) s := by
  induction turns generalizing i s with
  | zero => omega
  | succ turns ih =>
      rw [loopFrom]
      by_cases hlt : i < bound
      · rw [if_pos hlt, Nat.mod_eq_of_lt (by omega), show bound - i = bound - (i + 1) + 1 by omega,
          List.range'_succ, List.foldlM_cons]
        congr 1
        funext s'
        exact ih (by omega) hlt s'
      · rw [if_neg hlt, show bound - i = 0 by omega]
        rfl

/-- **A loop whose bound fits its counter** runs its body once for every value below the
bound. -/
theorem forLoop_eq {width bound : Nat} (hbound : bound < 2 ^ width) (body : Nat → σ → Option σ)
    (s : σ) :
    forLoop width bound body s = (List.range bound).foldlM (fun s i => body i s) s := by
  rw [forLoop, loopFrom_eq hbound body (by omega) (Nat.zero_le _), Nat.sub_zero,
    List.range_eq_range']

/-- A loop that ignores its counter repeats its body. -/
theorem forLoop_repeat {width bound : Nat} (hbound : bound < 2 ^ width) (f : σ → σ) (s : σ) :
    forLoop width bound (fun _ s => some (f s)) s = some (Nat.repeat f bound s) := by
  rw [forLoop_eq hbound]
  clear hbound
  induction bound with
  | zero => rfl
  | succ bound ih =>
      rw [List.range_succ, List.foldlM_append, ih]
      rfl

/-- A loop that reads a buffer byte by byte folds over the bytes read. -/
theorem forLoop_bytes {width bound : Nat} (hbound : bound < 2 ^ width) {data : Bytes}
    (hdata : bound ≤ data.length) (f : σ → UInt8 → σ) {body : Nat → σ → Option σ}
    (hbody : ∀ i s, body i s = data[i]?.map (f s)) (s : σ) :
    forLoop width bound body s = some ((data.take bound).foldl f s) := by
  rw [forLoop_eq hbound]
  clear hbound
  induction bound with
  | zero => rfl
  | succ bound ih =>
      rw [List.range_succ, List.foldlM_append, ih (by omega), List.take_add_one,
        List.getElem?_eq_getElem hdata, Option.toList_some, List.foldl_append]
      simp only [List.foldlM_cons, List.foldlM_nil, hbody, List.getElem?_eq_getElem hdata]
      rfl

/-! ### Strings -/

/-- The bytes of a string literal, without the terminating zero. -/
def ascii (s : String) : Bytes := s.toList.map fun c => UInt8.ofNat c.toNat

/-- `isspace`, in the C locale. -/
def isSpace (c : UInt8) : Bool := c = 0x20 || (0x09 ≤ c && c ≤ 0x0D)

/-- The value of a digit in the bases that have it. -/
def digitValue (c : UInt8) : Option Nat :=
  if 0x30 ≤ c && c ≤ 0x39 then some (c.toNat - 0x30)
  else if 0x41 ≤ c && c ≤ 0x5A then some (c.toNat - 0x41 + 10)
  else if 0x61 ≤ c && c ≤ 0x7A then some (c.toNat - 0x61 + 10)
  else none

/-- The digits at the start of a string. -/
def digits (base : Nat) : Bytes → List Nat
  | [] => []
  | c :: s =>
      match digitValue c with
      | some d => if d < base then d :: digits base s else []
      | none => []

/-- An optional `0x` before hexadecimal digits. -/
def skipHexPrefix (s : Bytes) : Bytes :=
  match s with
  | 0x30 :: x :: rest => if (x = 0x78 || x = 0x58) && digits 16 rest ≠ [] then rest else s
  | _ => s

/-- `strtoul`, with an `unsigned long` of 32 bits, in a base from 2 to 36. -/
def strtoul (s : Bytes) (base : Nat) : UInt32 :=
  let s := s.dropWhile isSpace
  let (negative, s) :=
    match s with
    | 0x2D :: rest => (true, rest)
    | 0x2B :: rest => (false, rest)
    | _ => (false, s)
  let s := if base = 16 then skipHexPrefix s else s
  let value := (digits base s).foldl (fun value d => value * base + d) 0
  if 2 ^ 32 ≤ value then 0xFFFFFFFF
  else if negative then 0 - UInt32.ofNat value
  else UInt32.ofNat value

end C
