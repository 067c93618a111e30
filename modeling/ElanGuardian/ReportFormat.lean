/-
# The report format

The layout of an Elan report, stated with natural-number arithmetic on its bytes
and without reference to any decoder.  An absolute report declares a set of slots
in bits 3..7 of byte 3; the finger records of the declared slots are packed from
byte 4 on, five bytes each, so the record of a slot lies behind those of the
declared slots below it (`rank`).

The second half connects the decoder's bit operations to this arithmetic
(`declared_eq_testBit`, `recordCoords_fst_toNat`, `recordCoords_snd_toNat`), so
that later modules reason about offsets and coordinates only.
-/
import Mathlib.Data.Nat.Bitwise
import Mathlib.Data.Nat.Count
import Mathlib.Tactic.IntervalCases
import ElanGuardian.ElanCore

open ElanCore

namespace ReportFormat

/-! ## Slots, records and coordinates -/

/-- The slots declared in byte 3, by number. -/
def declares (tpInfo : UInt8) (slot : ℕ) : Bool := tpInfo.toNat.testBit (3 + slot)

/-- The number of declared slots below `slot`. -/
def rank (tpInfo : UInt8) (slot : ℕ) : ℕ := Nat.count (fun t => declares tpInfo t) slot

/-- Where the finger record of a declared slot starts. -/
def recordAt (tpInfo : UInt8) (slot : ℕ) : ℕ := 4 + 5 * rank tpInfo slot

/-- The X coordinate of the record at `o`: big-endian 16 bit in a high-precision
report, otherwise 12 bit with the high nibble of byte 0 on top. -/
def coordX (highPrecision : Bool) (r : Mem) (o : ℕ) : ℕ :=
  if highPrecision then (r o).toNat * 256 + (r (o + 1)).toNat
  else (r o).toNat / 16 * 256 + (r (o + 1)).toNat

/-- The Y coordinate of the record at `o`. -/
def coordY (highPrecision : Bool) (r : Mem) (o : ℕ) : ℕ :=
  if highPrecision then (r (o + 2)).toNat * 256 + (r (o + 3)).toNat
  else (r o).toNat % 16 * 256 + (r (o + 2)).toNat

/-- The record of `slot` holds coordinates on the pad. -/
def InRange (highPrecision : Bool) (p : DecodeParams) (r : Mem) (slot : ℕ) : Prop :=
  coordX highPrecision r (recordAt (r 3) slot) ≤ p.maxX.toNat
    ∧ coordY highPrecision r (recordAt (r 3) slot) ≤ p.maxY.toNat

/-- A contact is present: its slot is declared and its record is in range. -/
def Touching (highPrecision : Bool) (p : DecodeParams) (r : Mem) (slot : ℕ) : Prop :=
  declares (r 3) slot = true ∧ InRange highPrecision p r slot

instance (hp : Bool) (p : DecodeParams) (r : Mem) (slot : ℕ) :
    Decidable (InRange hp p r slot) := inferInstanceAs (Decidable (_ ∧ _))

instance (hp : Bool) (p : DecodeParams) (r : Mem) (slot : ℕ) :
    Decidable (Touching hp p r slot) := inferInstanceAs (Decidable (_ ∧ _))

@[simp] theorem rank_zero (tpInfo : UInt8) : rank tpInfo 0 = 0 := Nat.count_zero _

/-- A declared slot takes the next record. -/
theorem rank_succ_of_declares {tpInfo : UInt8} {slot : ℕ} (h : declares tpInfo slot = true) :
    rank tpInfo (slot + 1) = rank tpInfo slot + 1 := by
  rw [rank, Nat.count_succ, if_pos h, rank]

/-- A slot that is not declared takes none. -/
theorem rank_succ_of_not_declares {tpInfo : UInt8} {slot : ℕ}
    (h : declares tpInfo slot = false) : rank tpInfo (slot + 1) = rank tpInfo slot := by
  rw [rank, Nat.count_succ, if_neg (by simp [h]), rank, Nat.add_zero]

/-- There are no more records than slots. -/
theorem rank_le (tpInfo : UInt8) (slot : ℕ) : rank tpInfo slot ≤ slot := Nat.count_le _

/-! ## The decoder's bit operations -/

/-- A byte is below 256. -/
theorem uint8_lt (b : UInt8) : b.toNat < 256 := b.toNat_lt

/-- The mask test of the decoder reads one bit of the byte. -/
theorem declared_eq_testBit (tpInfo : UInt8) (slot : Fin maxContacts) :
    declared tpInfo slot = declares tpInfo slot := by
  have hslot : (slot : ℕ) < 5 := slot.isLt
  have hbit : (1 <<< UInt8.ofNat (3 + slot) : UInt8).toNat = 2 ^ (3 + (slot : ℕ)) := by
    obtain ⟨s, hs⟩ := slot
    simp only at hslot ⊢
    interval_cases s <;> rfl
  have hand : (tpInfo &&& (1 <<< UInt8.ofNat (3 + slot))).toNat
      = 2 ^ (3 + (slot : ℕ)) * (tpInfo.toNat.testBit (3 + slot)).toNat := by
    rw [UInt8.toNat_and, hbit, Nat.land_comm, Nat.two_pow_and]
  rw [declared, declares, Bool.eq_iff_iff, bne_iff_ne, ne_eq, ← UInt8.toNat_inj, hand]
  cases tpInfo.toNat.testBit (3 + slot) <;> simp

/-- Shifting a byte up and or-ing in another one is positional notation. -/
theorem shiftLeft_eight_or (a b : UInt8) :
    ((a.toUInt32 <<< 8) ||| b.toUInt32).toNat = a.toNat * 256 + b.toNat := by
  have ha := uint8_lt a
  have hb := uint8_lt b
  rw [UInt32.toNat_or, UInt32.toNat_shiftLeft]
  simp only [UInt8.toNat_toUInt32, UInt32.toNat_ofNat]
  rw [show 8 % 2 ^ 32 % 32 = 8 from rfl, Nat.mod_eq_of_lt (by rw [Nat.shiftLeft_eq]; omega),
    ← Nat.shiftLeft_add_eq_or_of_lt (by omega), Nat.shiftLeft_eq]

/-- Masking the high nibble of a byte clears the low one. -/
theorem high_nibble (a : UInt8) : (a &&& 0xf0).toNat = a.toNat / 16 * 16 := by
  have key : ∀ n < 256, n &&& 240 = n / 16 * 16 := by decide +kernel
  rw [UInt8.toNat_and, UInt8.toNat_ofNat]
  exact key _ (uint8_lt a)

/-- The high nibble, moved to bits 8..11, with a byte below it. -/
theorem high_nibble_or (a b : UInt8) :
    (((a &&& 0xf0).toUInt32 <<< 4) ||| b.toUInt32).toNat = a.toNat / 16 * 256 + b.toNat := by
  have ha := uint8_lt a
  have hb := uint8_lt b
  rw [UInt32.toNat_or, UInt32.toNat_shiftLeft]
  simp only [UInt8.toNat_toUInt32, UInt32.toNat_ofNat, high_nibble]
  rw [show 4 % 2 ^ 32 % 32 = 4 from rfl, Nat.mod_eq_of_lt (by rw [Nat.shiftLeft_eq]; omega)]
  have hshift : (a.toNat / 16 * 16) <<< 4 = (a.toNat / 16) <<< 8 := by
    rw [Nat.shiftLeft_eq, Nat.shiftLeft_eq]; omega
  rw [hshift, ← Nat.shiftLeft_add_eq_or_of_lt (by omega), Nat.shiftLeft_eq]

/-- The lower half of a byte. -/
theorem low_nibble (a : UInt8) : (a &&& 0x0f).toNat = a.toNat % 16 := by
  rw [UInt8.toNat_and, UInt8.toNat_ofNat]
  exact Nat.and_two_pow_sub_one_eq_mod a.toNat 4

/-- The low nibble, moved to bits 8..11, with a byte below it. -/
theorem low_nibble_or (a b : UInt8) :
    (((a &&& 0x0f).toUInt32 <<< 8) ||| b.toUInt32).toNat = a.toNat % 16 * 256 + b.toNat := by
  rw [shiftLeft_eight_or, low_nibble]

/-- The horizontal coordinate. -/
theorem recordCoords_fst_toNat (hp : Bool) (r : Mem) (o : ℕ) :
    (recordCoords hp (r o) (r (o + 1)) (r (o + 2)) (r (o + 3))).1.toNat = coordX hp r o := by
  cases hp
  · simp only [recordCoords, coordX, Bool.false_eq_true, if_false]
    exact high_nibble_or _ _
  · simp only [recordCoords, coordX, if_true]
    exact shiftLeft_eight_or _ _

/-- The vertical coordinate. -/
theorem recordCoords_snd_toNat (hp : Bool) (r : Mem) (o : ℕ) :
    (recordCoords hp (r o) (r (o + 1)) (r (o + 2)) (r (o + 3))).2.toNat = coordY hp r o := by
  cases hp
  · simp only [recordCoords, coordY, Bool.false_eq_true, if_false]
    exact low_nibble_or _ _
  · simp only [recordCoords, coordY, if_true]
    exact shiftLeft_eight_or _ _

end ReportFormat
