/-
# Machine-word operations

Support library: the operations on `u32`, `u64` and `i32` of Rust's standard library that
Lean's `UInt32`, `UInt64` and `Int32` do not have, each with the number it stands for.
-/
import Mathlib.Data.UInt

/-- `u32::saturating_sub`. -/
def saturatingSub (a b : UInt32) : UInt32 := if a < b then 0 else a - b

/-- `u32::saturating_mul`. -/
def saturatingMul (a b : UInt32) : UInt32 :=
  if a.toNat * b.toNat < 2 ^ 32 then a * b else 0xFFFFFFFF

/-- `u64::saturating_add`. -/
def saturatingAdd (a b : UInt64) : UInt64 :=
  if a.toNat + b.toNat < 2 ^ 64 then a + b else 0xFFFFFFFFFFFFFFFF

/-- `i32::clamp`. -/
def clampI32 (v lo hi : Int32) : Int32 := if v < lo then lo else if hi < v then hi else v

/-- `usize::checked_add` on a 64-bit target. -/
def checkedAdd (a b : ℕ) : Option ℕ := if a + b < 2 ^ 64 then some (a + b) else none

/-- `i32::from(u8)`. -/
def i32From (b : UInt8) : Int32 := b.toUInt32.toInt32

namespace Words

/-- A word is determined by the number it holds. -/
theorem eq_ofNat {a : UInt32} {k : ℕ} (h : a.toNat = k) : a = UInt32.ofNat k := by
  rw [← h, UInt32.ofNat_toNat]

/-- Saturating subtraction is subtraction of natural numbers. -/
theorem saturatingSub_toNat (a b : UInt32) : (saturatingSub a b).toNat = a.toNat - b.toNat := by
  rw [saturatingSub]
  split_ifs with h
  · rw [UInt32.lt_iff_toNat_lt] at h
    rw [UInt32.toNat_zero]
    omega
  · exact UInt32.toNat_sub_of_le _ _ (UInt32.not_lt.mp h)

/-- A saturated product is capped. -/
theorem saturatingMul_toNat (a b : UInt32) :
    (saturatingMul a b).toNat = min (a.toNat * b.toNat) (2 ^ 32 - 1) := by
  rw [saturatingMul]
  split_ifs with h
  · rw [UInt32.toNat_mul, Nat.mod_eq_of_lt h]
    omega
  · rw [show (0xFFFFFFFF : UInt32).toNat = 2 ^ 32 - 1 from rfl]
    omega

/-- And so is a saturated sum. -/
theorem saturatingAdd_toNat (a b : UInt64) :
    (saturatingAdd a b).toNat = min (a.toNat + b.toNat) (2 ^ 64 - 1) := by
  rw [saturatingAdd]
  split_ifs with h
  · rw [UInt64.toNat_add, Nat.mod_eq_of_lt h]
    omega
  · rw [show (0xFFFFFFFFFFFFFFFF : UInt64).toNat = 2 ^ 64 - 1 from rfl]
    omega

/-- The larger of two words. -/
theorem max_toNat (a b : UInt32) : (max a b).toNat = max a.toNat b.toNat := by
  show (if a ≤ b then b else a).toNat = _
  split_ifs with h <;> rw [UInt32.le_iff_toNat_le] at h <;> omega

/-- The smaller of two words. -/
theorem min_toNat (a b : UInt32) : (min a b).toNat = min a.toNat b.toNat := by
  show (if a ≤ b then a else b).toNat = _
  split_ifs with h <;> rw [UInt32.le_iff_toNat_le] at h <;> omega

/-- A byte as an `i32`. -/
theorem i32From_toInt (b : UInt8) : (i32From b).toInt = b.toNat := by
  have hb : b.toNat < 256 := b.toNat_lt
  rw [i32From, ← Int32.toInt_toBitVec, UInt32.toBitVec_toInt32,
    BitVec.toInt_eq_toNat_of_lt (by rw [UInt32.toNat_toBitVec, UInt8.toNat_toUInt32]; omega),
    UInt32.toNat_toBitVec, UInt8.toNat_toUInt32]

/-- The clamped value. -/
theorem clampI32_toInt {v lo hi : Int32} (h : lo.toInt ≤ hi.toInt) :
    (clampI32 v lo hi).toInt = max lo.toInt (min v.toInt hi.toInt) := by
  rw [clampI32]
  split_ifs with h1 h2
  · rw [Int32.lt_iff_toInt_lt] at h1
    omega
  · rw [Int32.lt_iff_toInt_lt] at h1 h2
    omega
  · rw [Int32.lt_iff_toInt_lt] at h1 h2
    omega

/-- A non-negative `i32` keeps its value as a `u32`. -/
theorem toUInt32_toNat {v : Int32} (h : 0 ≤ v.toInt) : v.toUInt32.toNat = v.toInt.toNat := by
  rw [Int32.toNat_toUInt32_of_le (by rwa [Int32.le_iff_toInt_le, Int32.toInt_zero])]
  rfl

/-- A `u32` below 2^31 keeps its value as an `i32`. -/
theorem toInt32_toInt {v : UInt32} (h : v.toNat < 2 ^ 31) : v.toInt32.toInt = v.toNat := by
  rw [← Int32.toInt_toBitVec, UInt32.toBitVec_toInt32,
    BitVec.toInt_eq_toNat_of_lt (by rw [UInt32.toNat_toBitVec]; omega), UInt32.toNat_toBitVec]

/-- An addition of `i32` that does not overflow. -/
theorem add_toInt {a b : Int32} (hlo : -2 ^ 31 ≤ a.toInt + b.toInt)
    (hhi : a.toInt + b.toInt < 2 ^ 31) : (a + b).toInt = a.toInt + b.toInt := by
  rw [Int32.toInt_add]
  exact Int.bmod_eq_of_le (by omega) (by omega)

end Words
