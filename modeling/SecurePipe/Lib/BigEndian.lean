import SecurePipe.Lib.Rust
import Mathlib.Tactic.Ring

/-!
# SecurePipe.Lib.BigEndian

Fixed-width big-endian integers: the bytes of a number (`bytesOf`), the number a
byte string spells (`valueOf`), and the `to_be_bytes`/`from_be_bytes` pairs of
the machine integers built from them. Both round trips hold at every width, so a
codec that puts such fields side by side inherits them.
-/

namespace BigEndian

open Rust

/-- The low `n` bytes of `v`, most significant first. -/
def bytesOf : Nat → Nat → Bytes
  | 0, _ => []
  | n + 1, v => UInt8.ofNat (v / 256 ^ n) :: bytesOf n v

/-- The number a big-endian byte string spells. -/
def valueOf : Bytes → Nat
  | [] => 0
  | b :: bs => b.toNat * 256 ^ bs.length + valueOf bs

@[simp] theorem bytesOf_length (n v : Nat) : (bytesOf n v).length = n := by
  induction n with
  | zero => rfl
  | succ n ih => simp [bytesOf, ih]

theorem valueOf_lt (bs : Bytes) : valueOf bs < 256 ^ bs.length := by
  induction bs with
  | nil => simp [valueOf]
  | cons b bs ih =>
      have hb : b.toNat + 1 ≤ 256 := b.toNat_lt
      calc valueOf (b :: bs)
          < b.toNat * 256 ^ bs.length + 256 ^ bs.length := by rw [valueOf]; omega
        _ = (b.toNat + 1) * 256 ^ bs.length := by ring
        _ ≤ 256 * 256 ^ bs.length := Nat.mul_le_mul_right _ hb
        _ = 256 ^ (b :: bs).length := by rw [List.length_cons, Nat.pow_succ']

/-- Writing and reading back truncates to the width. -/
theorem valueOf_bytesOf (n v : Nat) : valueOf (bytesOf n v) = v % 256 ^ n := by
  induction n with
  | zero => simp [bytesOf, valueOf, Nat.mod_one]
  | succ n ih =>
      rw [bytesOf, valueOf, bytesOf_length, ih, Nat.mod_pow_succ, UInt8.toNat_ofNat']
      ring

/-- The bytes of a number do not depend on what exceeds the width. -/
theorem bytesOf_mod (n v : Nat) : bytesOf n (v % 256 ^ n) = bytesOf n v := by
  suffices h : ∀ m, n ≤ m → bytesOf n (v % 256 ^ m) = bytesOf n v from h n le_rfl
  induction n with
  | zero => intro m _; rfl
  | succ n ih =>
      intro m hm
      have hhead : UInt8.ofNat (v % 256 ^ m / 256 ^ n) = UInt8.ofNat (v / 256 ^ n) := by
        obtain ⟨k, rfl⟩ : ∃ k, m = n + 1 + k := ⟨m - (n + 1), by omega⟩
        apply UInt8.toNat_inj.mp
        rw [UInt8.toNat_ofNat', UInt8.toNat_ofNat', Nat.add_assoc, Nat.pow_add,
          Nat.mod_mul_right_div_self, Nat.add_comm 1 k, Nat.pow_succ, Nat.mod_mul_left_mod]
      rw [bytesOf, bytesOf, hhead, ih m (by omega)]

/-- Reading and writing back restores the bytes. -/
theorem bytesOf_valueOf (bs : Bytes) : bytesOf bs.length (valueOf bs) = bs := by
  induction bs with
  | nil => rfl
  | cons b bs ih =>
      have hlt := valueOf_lt bs
      have hhead : (b.toNat * 256 ^ bs.length + valueOf bs) / 256 ^ bs.length = b.toNat := by
        rw [Nat.add_comm, Nat.add_mul_div_right _ _ (Nat.pow_pos (by norm_num)), Nat.div_eq_of_lt hlt,
          Nat.zero_add]
      have htail : bytesOf bs.length (b.toNat * 256 ^ bs.length + valueOf bs) = bs := by
        rw [← bytesOf_mod, Nat.add_comm, Nat.add_mul_mod_self_right, bytesOf_mod, ih]
      rw [List.length_cons, bytesOf, valueOf, hhead, htail, UInt8.ofNat_toNat]

theorem valueOf_append (a b : Bytes) :
    valueOf (a ++ b) = valueOf a * 256 ^ b.length + valueOf b := by
  induction a with
  | nil => rw [List.nil_append, valueOf, Nat.zero_mul, Nat.zero_add]
  | cons x a ih =>
      rw [List.cons_append, valueOf, ih, valueOf, List.length_append]
      ring

/-- Byte strings of one length are told apart by the number they spell. -/
theorem valueOf_inj {a b : Bytes} (hlen : a.length = b.length) :
    valueOf a = valueOf b ↔ a = b := by
  constructor
  · intro h
    rw [← bytesOf_valueOf a, h, hlen, bytesOf_valueOf]
  · intro h
    rw [h]

/-! ### Machine integers -/

/-- `u16::to_be_bytes`. -/
def u16ToBytes (x : UInt16) : U8Array 2 := ⟨bytesOf 2 x.toNat, bytesOf_length _ _⟩

/-- `u16::from_be_bytes`. -/
def u16OfBytes (bs : U8Array 2) : UInt16 := UInt16.ofNat (valueOf bs.toList)

/-- `u32::to_be_bytes`. -/
def u32ToBytes (x : UInt32) : U8Array 4 := ⟨bytesOf 4 x.toNat, bytesOf_length _ _⟩

/-- `u32::from_be_bytes`. -/
def u32OfBytes (bs : U8Array 4) : UInt32 := UInt32.ofNat (valueOf bs.toList)

/-- `u64::to_be_bytes`. -/
def u64ToBytes (x : UInt64) : U8Array 8 := ⟨bytesOf 8 x.toNat, bytesOf_length _ _⟩

/-- `u64::from_be_bytes`. -/
def u64OfBytes (bs : U8Array 8) : UInt64 := UInt64.ofNat (valueOf bs.toList)

/-- `i32::to_be_bytes`: the two's-complement bits. -/
def i32ToBytes (x : Int32) : U8Array 4 := u32ToBytes x.toUInt32

/-- `i32::from_be_bytes`. -/
def i32OfBytes (bs : U8Array 4) : Int32 := (u32OfBytes bs).toInt32

theorem toList_bytesOf_valueOf {n : Nat} (bs : U8Array n) :
    bytesOf n (valueOf bs.toList) = bs.toList := by
  have h := bytesOf_valueOf bs.toList
  rwa [toList_length] at h

theorem valueOf_toList_lt {n : Nat} (bs : U8Array n) : valueOf bs.toList < 256 ^ n := by
  have h := valueOf_lt bs.toList
  rwa [toList_length] at h

@[simp] theorem u16OfBytes_toBytes (x : UInt16) : u16OfBytes (u16ToBytes x) = x := by
  apply UInt16.toNat_inj.mp
  have h : x.toNat < 256 ^ 2 := x.toNat_lt
  simp only [u16OfBytes, u16ToBytes, List.Vector.toList, valueOf_bytesOf, UInt16.toNat_ofNat']
  omega

@[simp] theorem u32OfBytes_toBytes (x : UInt32) : u32OfBytes (u32ToBytes x) = x := by
  apply UInt32.toNat_inj.mp
  have h : x.toNat < 256 ^ 4 := x.toNat_lt
  simp only [u32OfBytes, u32ToBytes, List.Vector.toList, valueOf_bytesOf, UInt32.toNat_ofNat']
  omega

@[simp] theorem u64OfBytes_toBytes (x : UInt64) : u64OfBytes (u64ToBytes x) = x := by
  apply UInt64.toNat_inj.mp
  have h : x.toNat < 256 ^ 8 := x.toNat_lt
  simp only [u64OfBytes, u64ToBytes, List.Vector.toList, valueOf_bytesOf, UInt64.toNat_ofNat']
  omega

@[simp] theorem i32OfBytes_toBytes (x : Int32) : i32OfBytes (i32ToBytes x) = x := by
  simp [i32OfBytes, i32ToBytes]

@[simp] theorem u16ToBytes_ofBytes (bs : U8Array 2) : u16ToBytes (u16OfBytes bs) = bs := by
  apply List.Vector.eq
  have h := valueOf_toList_lt bs
  show bytesOf 2 (UInt16.ofNat (valueOf bs.toList)).toNat = bs.toList
  rw [UInt16.toNat_ofNat_of_lt' (by simpa using h), toList_bytesOf_valueOf]

@[simp] theorem u32ToBytes_ofBytes (bs : U8Array 4) : u32ToBytes (u32OfBytes bs) = bs := by
  apply List.Vector.eq
  have h := valueOf_toList_lt bs
  show bytesOf 4 (UInt32.ofNat (valueOf bs.toList)).toNat = bs.toList
  rw [UInt32.toNat_ofNat_of_lt' (by simpa using h), toList_bytesOf_valueOf]

@[simp] theorem u64ToBytes_ofBytes (bs : U8Array 8) : u64ToBytes (u64OfBytes bs) = bs := by
  apply List.Vector.eq
  have h := valueOf_toList_lt bs
  show bytesOf 8 (UInt64.ofNat (valueOf bs.toList)).toNat = bs.toList
  rw [UInt64.toNat_ofNat_of_lt' (by simpa using h), toList_bytesOf_valueOf]

@[simp] theorem i32ToBytes_ofBytes (bs : U8Array 4) : i32ToBytes (i32OfBytes bs) = bs := by
  simp [i32OfBytes, i32ToBytes]

theorem valueOf_u16ToBytes (x : UInt16) : valueOf (u16ToBytes x).toList = x.toNat := by
  have h : x.toNat < 256 ^ 2 := x.toNat_lt
  show valueOf (bytesOf 2 x.toNat) = x.toNat
  rw [valueOf_bytesOf, Nat.mod_eq_of_lt h]

/-- A small number has two bytes that are not zero. -/
theorem i32ToBytes_small {v : Int32} {n : Nat} (h : v.toInt = n) (hn : n < 2 ^ 16) :
    (i32ToBytes v).toList = [0x00, 0x00, UInt8.ofNat (n / 256), UInt8.ofNat n] := by
  have hbits : v.toBitVec.toInt = n := h
  rw [BitVec.toInt_eq_toNat_cond] at hbits
  have hnat : v.toBitVec.toNat = n := by
    split at hbits
    · omega
    · omega
  show bytesOf 4 v.toBitVec.toNat = _
  rw [hnat]
  have hthird : n / 256 ^ 3 = 0 := Nat.div_eq_of_lt (by omega)
  have hsecond : n / 256 ^ 2 = 0 := Nat.div_eq_of_lt (by omega)
  simp only [bytesOf, hthird, hsecond, Nat.pow_one, Nat.pow_zero, Nat.div_one]
  rfl

theorem u32ToBytes_injective : Function.Injective u32ToBytes :=
  Function.LeftInverse.injective u32OfBytes_toBytes

theorem u64ToBytes_injective : Function.Injective u64ToBytes :=
  Function.LeftInverse.injective u64OfBytes_toBytes

/-! ### Fields of a byte string -/

variable {ε α : Type}

/-- The idiom `T::from_be_bytes(xs[lo..hi].try_into().unwrap())`: slice, check the
width, decode. -/
def readBe (n : Nat) (ofBytes : U8Array n → α) (xs : Bytes) (lo hi : Nat) : Outcome ε α := do
  return ofBytes (← tryIntoUnwrap n (← slice xs lo hi))

/-- `u16::from_be_bytes(xs[lo..hi].try_into().unwrap())`. -/
def readU16 : Bytes → Nat → Nat → Outcome ε UInt16 := readBe 2 u16OfBytes

/-- `u32::from_be_bytes(xs[lo..hi].try_into().unwrap())`. -/
def readU32 : Bytes → Nat → Nat → Outcome ε UInt32 := readBe 4 u32OfBytes

/-- `u64::from_be_bytes(xs[lo..hi].try_into().unwrap())`. -/
def readU64 : Bytes → Nat → Nat → Outcome ε UInt64 := readBe 8 u64OfBytes

/-- `i32::from_be_bytes(xs[lo..hi].try_into().unwrap())`. -/
def readI32 : Bytes → Nat → Nat → Outcome ε Int32 := readBe 4 i32OfBytes

/-- Reading a field out of the middle of a concatenation. -/
theorem readBe_append {n i j : Nat} (ofBytes : U8Array n → α) (pre : Bytes) (a : U8Array n)
    (post : Bytes) (hi : pre.length = i) (hj : i + n = j) :
    (readBe n ofBytes (pre ++ (a.toList ++ post)) i j : Outcome ε α) = .ok (ofBytes a) := by
  have hslice := slice_append (ε := ε) pre a.toList post hi (by rw [toList_length, hj])
  unfold readBe
  rw [hslice, Outcome.ok_bind, tryIntoUnwrap_eq (toList_length a)]
  rfl

theorem readU16_append {i j : Nat} (pre : Bytes) (x : UInt16) (post : Bytes)
    (hi : pre.length = i) (hj : i + 2 = j) :
    (readU16 (pre ++ ((u16ToBytes x).toList ++ post)) i j : Outcome ε UInt16) = .ok x := by
  unfold readU16
  rw [readBe_append u16OfBytes _ _ _ hi hj, u16OfBytes_toBytes]

theorem readU32_append {i j : Nat} (pre : Bytes) (x : UInt32) (post : Bytes)
    (hi : pre.length = i) (hj : i + 4 = j) :
    (readU32 (pre ++ ((u32ToBytes x).toList ++ post)) i j : Outcome ε UInt32) = .ok x := by
  unfold readU32
  rw [readBe_append u32OfBytes _ _ _ hi hj, u32OfBytes_toBytes]

theorem readU64_append {i j : Nat} (pre : Bytes) (x : UInt64) (post : Bytes)
    (hi : pre.length = i) (hj : i + 8 = j) :
    (readU64 (pre ++ ((u64ToBytes x).toList ++ post)) i j : Outcome ε UInt64) = .ok x := by
  unfold readU64
  rw [readBe_append u64OfBytes _ _ _ hi hj, u64OfBytes_toBytes]

theorem readI32_append {i j : Nat} (pre : Bytes) (x : Int32) (post : Bytes)
    (hi : pre.length = i) (hj : i + 4 = j) :
    (readI32 (pre ++ ((i32ToBytes x).toList ++ post)) i j : Outcome ε Int32) = .ok x := by
  unfold readI32
  rw [readBe_append i32OfBytes _ _ _ hi hj, i32OfBytes_toBytes]

end BigEndian
