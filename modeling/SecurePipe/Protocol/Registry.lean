import Mathlib.Data.Finset.Basic
import SecurePipe.Lib.Text

/-!
# SecurePipe.Protocol.Registry

The device whitelist (`src/protocol/registry.rs`), and how it is read from the environment.

`Configured` says which devices the documented format lists. `isAllowed_iff` says which ones
`from_env` lets in: these, and **those that a value is misread for** (`Misread`). A value
that is not valid Unicode counts as no value at all, and the numbers are read by a parser
that takes a plus sign.
-/

namespace SecurePipe

open Rust

/-- `DeviceRegistry`: every device, or only those in a set. -/
inductive DeviceRegistry
  | open
  | restricted (ids : Finset UInt32)
  deriving DecidableEq

/-- `is_allowed`. -/
def DeviceRegistry.isAllowed (registry : DeviceRegistry) (deviceId : UInt32) : Bool :=
  match registry with
  | .open => true
  | .restricted ids => deviceId ∈ ids

/-! ### The environment -/

/-- A piece of an OS string: a character, or what is not part of any. -/
inductive OsUnit
  | char (c : Char)
  | illFormed (unit : Nat)
  deriving DecidableEq

/-- `OsString`. -/
abbrev OsString := List OsUnit

/-- `VarError`. -/
inductive VarError
  | notPresent
  | notUnicode (value : OsString)

def OsUnit.toChar? : OsUnit → Option Char
  | .char c => some c
  | .illFormed _ => none

/-- The values of the environment variables. -/
abbrev Environment := String → Option OsString

/-- `env::var`. -/
def Environment.var (env : Environment) (key : String) : Except VarError (List Char) :=
  match env key with
  | none => .error .notPresent
  | some value =>
      match value.mapM OsUnit.toChar? with
      | some raw => .ok raw
      | none => .error (.notUnicode value)

def ALLOWED_DEVICES_ENV_VAR : String := "SECUREPIPE_ALLOWED_DEVICES"

/-- `u32::from_str_radix`. -/
def u32FromStrRadix (src : List Char) (radix : Nat) : Option UInt32 :=
  (fromStrRadix radix (2 ^ 32) src).map UInt32.ofNat

/-- `parse_device_id`. -/
def parseDeviceId : List Char → Option UInt32
  | '0' :: 'x' :: hex => u32FromStrRadix hex 16
  | '0' :: 'X' :: hex => u32FromStrRadix hex 16
  | s => u32FromStrRadix s 10

/-- `from_env`. -/
def DeviceRegistry.fromEnv (env : Environment) : DeviceRegistry :=
  match env.var ALLOWED_DEVICES_ENV_VAR with
  | .ok raw =>
      if !(trim raw).isEmpty then
        .restricted ((raw.splitOn ',').filterMap fun s => parseDeviceId (trim s)).toFinset
      else .open
  | .error _ => .open

/-! ### The documented format -/

def OsUnit.isWhitespace : OsUnit → Bool
  | .char c => Rust.isWhitespace c
  | .illFormed _ => false

/-- A value of white space only. -/
def Blank (value : OsString) : Prop := ∀ unit ∈ value, unit.isWhitespace = true

/-- The comma-separated entries of a value, trimmed. -/
def entries (value : OsString) : List OsString :=
  (value.splitOn (.char ',')).map (trimMatches OsUnit.isWhitespace)

/-- Some entry is a string of characters with this property. -/
def HasEntry (value : OsString) (P : List Char → Prop) : Prop :=
  ∃ s, s.map OsUnit.char ∈ entries value ∧ P s

/-- The string is a prefix for hexadecimal numbers, and the rest. -/
def HexPrefixed (s rest : List Char) : Prop := s = '0' :: 'x' :: rest ∨ s = '0' :: 'X' :: rest

/-- A documented numeral for a device id: hexadecimal with the prefix, or decimal. -/
def Documented (deviceId : UInt32) (s : List Char) : Prop :=
  (∃ hex, HexPrefixed s hex ∧ IsNumeral 16 hex deviceId.toNat) ∨ IsNumeral 10 s deviceId.toNat

/-- The same with a plus sign in front of the digits, which is not documented. -/
def PlusSigned (deviceId : UInt32) (s : List Char) : Prop :=
  (∃ hex, HexPrefixed s ('+' :: hex) ∧ IsNumeral 16 hex deviceId.toNat) ∨
    ∃ digits, s = '+' :: digits ∧ IsNumeral 10 digits deviceId.toNat

/-- The variable lets the device in, as it is documented. -/
def Configured (env : Environment) (deviceId : UInt32) : Prop :=
  match env ALLOWED_DEVICES_ENV_VAR with
  | none => True
  | some value => Blank value ∨ HasEntry value (Documented deviceId)

/-- The variable is set and does not list the device, but it is not valid Unicode, or lists
the device with a plus sign. -/
def Misread (env : Environment) (deviceId : UInt32) : Prop :=
  ∃ value, env ALLOWED_DEVICES_ENV_VAR = some value ∧ ¬ Blank value ∧
    ¬ HasEntry value (Documented deviceId) ∧
    ((∃ unit, .illFormed unit ∈ value) ∨ HasEntry value (PlusSigned deviceId))

/-! ### What is let in -/

theorem u32FromStrRadix_eq_some {radix : Nat} (hradix : 0 < radix) {s : List Char} {d : UInt32} :
    u32FromStrRadix s radix = some d ↔
      IsNumeral radix s d.toNat ∨ ∃ digits, s = '+' :: digits ∧ IsNumeral radix digits d.toNat := by
  have hbound := d.toNat_lt
  rw [u32FromStrRadix, Option.map_eq_some_iff]
  constructor
  · intro ⟨n, hn, hd⟩
    obtain ⟨hnumeral, hlt⟩ := (fromStrRadix_eq_some hradix (by decide)).mp hn
    rw [← hd, UInt32.toNat_ofNat_of_lt' hlt]
    exact hnumeral
  · intro h
    refine ⟨d.toNat, (fromStrRadix_eq_some hradix (by decide)).mpr ⟨h, hbound⟩, ?_⟩
    exact UInt32.ofNat_toNat

/-- A string with the prefix is no decimal number, signed or not. -/
theorem not_decimal_of_hexPrefixed {s rest : List Char} (h : HexPrefixed s rest) :
    (∀ n, ¬ IsNumeral 10 s n) ∧ ∀ digits, s ≠ '+' :: digits := by
  rcases h with rfl | rfl
  · refine ⟨fun n h => ?_, nofun⟩
    exact absurd (h.2.1 'x' (by simp)) (by decide)
  · refine ⟨fun n h => ?_, nofun⟩
    exact absurd (h.2.1 'X' (by simp)) (by decide)

/-- **Which entries are read as a device id.** -/
theorem parseDeviceId_eq_some {s : List Char} {d : UInt32} :
    parseDeviceId s = some d ↔ Documented d s ∨ PlusSigned d s := by
  by_cases hhex : ∃ rest, HexPrefixed s rest
  · obtain ⟨rest, hrest⟩ := hhex
    have hparse : parseDeviceId s = u32FromStrRadix rest 16 := by
      rcases hrest with rfl | rfl
      · rfl
      · rfl
    have hunique : ∀ rest', HexPrefixed s rest' ↔ rest' = rest := by
      intro rest'
      simp only [HexPrefixed] at hrest ⊢
      rcases hrest with rfl | rfl
      · simp [eq_comm]
      · simp [eq_comm]
    obtain ⟨hdecimal, hsigned⟩ := not_decimal_of_hexPrefixed hrest
    rw [hparse, u32FromStrRadix_eq_some (by decide), Documented, PlusSigned]
    simp only [hunique, hdecimal, hsigned, or_false, false_and, exists_false]
    constructor
    · intro h
      rcases h with h | ⟨digits, heq, h⟩
      · exact .inl ⟨rest, rfl, h⟩
      · exact .inr ⟨digits, heq.symm, h⟩
    · intro h
      rcases h with ⟨_, rfl, h⟩ | ⟨digits, heq, h⟩
      · exact .inl h
      · exact .inr ⟨digits, heq.symm, h⟩
  · have hnone : ∀ rest, ¬ HexPrefixed s rest := fun rest h => hhex ⟨rest, h⟩
    have hparse : parseDeviceId s = u32FromStrRadix s 10 := by
      unfold parseDeviceId
      split
      · exact absurd (.inl rfl) (hnone _)
      · exact absurd (.inr rfl) (hnone _)
      · rfl
    rw [hparse, u32FromStrRadix_eq_some (by decide), Documented, PlusSigned]
    simp only [hnone, false_and, exists_false, false_or]

/-- The entries of a value in Unicode are those that `from_env` parses. -/
theorem entries_map (raw : List Char) :
    entries (raw.map OsUnit.char) = ((raw.splitOn ',').map trim).map (List.map OsUnit.char) := by
  have hcomma : ((· == OsUnit.char ',') ∘ OsUnit.char) = (· == ',') := by
    funext c
    by_cases hc : c = ','
    · simp [hc]
    · simp [hc]
  have hspace : OsUnit.isWhitespace ∘ OsUnit.char = Rust.isWhitespace := rfl
  simp only [entries]
  rw [List.splitOn_eq_splitOnP, splitOnP_map, hcomma, List.splitOn_eq_splitOnP, List.map_map,
    List.map_map]
  refine List.map_congr_left fun s _ => ?_
  rw [Function.comp_apply, trimMatches_map, hspace]
  rfl

theorem char_injective : Function.Injective OsUnit.char := fun _ _ h => OsUnit.char.inj h

theorem hasEntry_map {raw : List Char} {P : List Char → Prop} :
    HasEntry (raw.map OsUnit.char) P ↔ ∃ s ∈ raw.splitOn ',', P (trim s) := by
  simp only [HasEntry]
  rw [entries_map]
  constructor
  · intro ⟨s, hs, hP⟩
    rw [List.mem_map_of_injective char_injective.list_map] at hs
    obtain ⟨entry, hentry, rfl⟩ := List.mem_map.mp hs
    exact ⟨entry, hentry, hP⟩
  · intro ⟨entry, hentry, hP⟩
    exact ⟨trim entry, List.mem_map_of_mem (List.mem_map_of_mem hentry), hP⟩

/-- A value that is valid Unicode, or is not. -/
theorem unicode_cases (value : OsString) :
    (∃ raw : List Char, value = raw.map OsUnit.char ∧ value.mapM OsUnit.toChar? = some raw) ∨
      ((∃ unit, OsUnit.illFormed unit ∈ value) ∧ value.mapM OsUnit.toChar? = none) := by
  induction value with
  | nil => exact .inl ⟨[], rfl, rfl⟩
  | cons unit value ih =>
      rw [List.mapM_cons]
      cases unit with
      | illFormed unit => exact .inr ⟨⟨unit, List.mem_cons_self⟩, rfl⟩
      | char c =>
          rcases ih with ⟨raw, hvalue, hraw⟩ | ⟨⟨unit, hunit⟩, hnone⟩
          · rw [hraw]
            exact .inl ⟨c :: raw, by rw [hvalue, List.map_cons], rfl⟩
          · rw [hnone]
            exact .inr ⟨⟨unit, List.mem_cons_of_mem _ hunit⟩, rfl⟩

/-- The registry that a value in Unicode makes. -/
theorem isAllowed_unicode {env : Environment} {raw : List Char}
    (hvar : env.var ALLOWED_DEVICES_ENV_VAR = .ok raw) (d : UInt32) :
    (DeviceRegistry.fromEnv env).isAllowed d = true ↔
      Blank (raw.map OsUnit.char) ∨ HasEntry (raw.map OsUnit.char) (Documented d) ∨
        HasEntry (raw.map OsUnit.char) (PlusSigned d) := by
  have hblank : Blank (raw.map OsUnit.char) ↔ trim raw = [] := by
    rw [trim, trimMatches_eq_nil, Blank, List.forall_mem_map]
    rfl
  rw [hblank]
  unfold DeviceRegistry.fromEnv
  rw [hvar]
  dsimp only
  by_cases htrim : trim raw = []
  · simp [htrim, DeviceRegistry.isAllowed]
  · rw [if_pos (by simpa using htrim), DeviceRegistry.isAllowed, decide_eq_true_iff,
      List.mem_toFinset, List.mem_filterMap, or_iff_right htrim, hasEntry_map, hasEntry_map]
    simp only [parseDeviceId_eq_some, and_or_left, exists_or]

/-- **Which devices are let in**: those configured, and those that the value is misread for. -/
theorem isAllowed_iff (env : Environment) (d : UInt32) :
    (DeviceRegistry.fromEnv env).isAllowed d = true ↔ Configured env d ∨ Misread env d := by
  cases hvalue : env ALLOWED_DEVICES_ENV_VAR with
  | none =>
      have hvar : env.var ALLOWED_DEVICES_ENV_VAR = .error .notPresent := by
        rw [Environment.var, hvalue]
      have hopen : DeviceRegistry.fromEnv env = .open := by rw [DeviceRegistry.fromEnv, hvar]
      rw [hopen, Configured, hvalue]
      exact iff_of_true rfl (.inl trivial)
  | some value =>
      have hmisread : Misread env d ↔ ¬ Blank value ∧ ¬ HasEntry value (Documented d) ∧
          ((∃ unit, .illFormed unit ∈ value) ∨ HasEntry value (PlusSigned d)) := by
        simp [Misread, hvalue]
      rw [hmisread, Configured, hvalue]
      rcases unicode_cases value with ⟨raw, rfl, hraw⟩ | ⟨hill, hnone⟩
      · have hvar : env.var ALLOWED_DEVICES_ENV_VAR = .ok raw := by
          rw [Environment.var, hvalue]
          dsimp only
          rw [hraw]
        have hwell : ¬ ∃ unit, OsUnit.illFormed unit ∈ raw.map OsUnit.char := by simp
        rw [isAllowed_unicode hvar, or_iff_right hwell]
        tauto
      · have hvar : env.var ALLOWED_DEVICES_ENV_VAR = .error (.notUnicode value) := by
          rw [Environment.var, hvalue]
          dsimp only
          rw [hnone]
        have hopen : DeviceRegistry.fromEnv env = .open := by rw [DeviceRegistry.fromEnv, hvar]
        rw [hopen]
        refine iff_of_true rfl ?_
        tauto

/-- A value is misread only for devices that it does not let in. -/
theorem Misread.not_configured {env : Environment} {d : UInt32} (h : Misread env d) :
    ¬ Configured env d := by
  obtain ⟨value, hvalue, hblank, hlisted, -⟩ := h
  rw [Configured, hvalue]
  exact fun h => h.elim hblank hlisted

end SecurePipe
