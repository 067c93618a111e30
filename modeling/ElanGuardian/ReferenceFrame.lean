/-
# The meaning of an accepted report

`referenceFrame` says what frame a report stands for, slot by slot and in
natural-number arithmetic: the contact of slot `s` depends on the record at
`recordAt (r 3) s` and on nothing that happened to other slots.  The decoder,
which walks a moving offset through the report and mutates the caller's frame,
produces exactly this frame (`elanRsDecodeReport_eq_referenceFrame`).
-/
import Mathlib.Algebra.BigOperators.Group.Finset.Basic
import Mathlib.Algebra.Order.BigOperators.Group.Finset
import ElanGuardian.ReportGrammar

open Prog ElanCore ReportFormat ReportGrammar

namespace ReferenceFrame

/-! ## The reference -/

/-- `v`, capped at the largest `u32`. -/
def cap (v : ℕ) : ℕ := min v (2 ^ 32 - 1)

/-- The extent of a contact along one axis: a nibble of the area byte, times the
trace width reduced by 90. -/
def extent (nibble : ℕ) (width : UInt32) : ℕ := cap (nibble * (width.toNat - 90))

/-- The area byte of `slot`. -/
def areaByte (hp : Bool) (r : Mem) (slot : ℕ) : ℕ :=
  if hp then (r (33 + slot)).toNat else (r (recordAt (r 3) slot + 3)).toNat

/-- The contact reported for a touching slot. -/
def referenceContact (hp : Bool) (p : DecodeParams) (r : Mem) (slot : ℕ) : ElanRsContact :=
  let o := recordAt (r 3) slot
  let mk := areaByte hp r slot
  let area : Bool := p.reportFeatures &&& 1 ≠ 0
  { active := 1
    x := UInt32.ofNat (coordX hp r o)
    y := UInt32.ofNat (p.maxY.toNat - coordY hp r o)
    pressure := UInt32.ofNat
      (max 0 (min ((r (o + 4)).toNat + p.pressureAdjustment.toInt) 255)).toNat
    toolWidth := if area then UInt32.ofNat (mk % 16) else 0
    touchMajor := if area then
      UInt32.ofNat (max (extent (mk % 16) p.widthX) (extent (mk / 16) p.widthY)) else 0
    touchMinor := if area then
      UInt32.ofNat (min (extent (mk % 16) p.widthX) (extent (mk / 16) p.widthY)) else 0 }

/-- The number whose bit `s` says that slot `s < i` is touching. -/
def maskBelow (hp : Bool) (p : DecodeParams) (r : Mem) (i : ℕ) : ℕ :=
  ∑ s ∈ Finset.range i, if Touching hp p r s then 2 ^ s else 0

/-- The frame of an absolute report, with the contacts of the slots below `i`. -/
def partialFrame (hp : Bool) (p : DecodeParams) (r : Mem) (n i : ℕ) : ElanRsFrame where
  kind := 1
  buttons := UInt32.ofNat ((r 3).toNat % 8)
  hover := if 30 < n ∧ (r 30).toNat.testBit 6 = true then 1 else 0
  contactMask := UInt32.ofNat (maskBelow hp p r i)
  contacts := Vector.ofFn fun s =>
    if s < i ∧ Touching hp p r s then referenceContact hp p r s else ElanRsContact.empty
  relX := 0
  relY := 0
  relValid := 0

/-- The frame of an absolute report. -/
def referenceAbsolute (hp : Bool) (p : DecodeParams) (r : Mem) (n : ℕ) : ElanRsFrame :=
  partialFrame hp p r n 5

/-- The frame of a trackpoint report; there is motion exactly when the low nibble
of byte 6 is 6. -/
def referenceTrackpoint (r : Mem) : ElanRsFrame :=
  let moved : Bool := (r 6).toNat % 16 = 6
  { kind := 2
    buttons := UInt32.ofNat ((r 3).toNat % 8)
    hover := 0
    contactMask := 0
    contacts := Vector.replicate 5 ElanRsContact.empty
    relX := if moved then Int32.ofInt ((r 7).toNat - 2 * ((r 4).toNat ^^^ 128 : ℕ)) else 0
    relY := if moved then Int32.ofInt (2 * ((r 5).toNat ^^^ 128 : ℕ) - (r 8).toNat) else 0
    relValid := if moved then 1 else 0 }

/-- The frame a report stands for. -/
def referenceFrame (p : DecodeParams) (r : Mem) (n : ℕ) : ElanRsFrame :=
  if r 2 = 0x5d then referenceAbsolute false p r n
  else if r 2 = 0x60 then referenceAbsolute true p r n
  else referenceTrackpoint r

/-- In an absolute report, the adjusted pressure of every contact fits in an `i32`. -/
def PressureFits (p : DecodeParams) (r : Mem) : Prop :=
  r 2 = 0x5d ∨ r 2 = 0x60 → ∀ s < 5, declares (r 3) s = true →
    ((r (recordAt (r 3) s + 4)).toNat : ℤ) + p.pressureAdjustment.toInt < 2 ^ 31

/-! ## Fields of a contact -/

/-- The pressure, if its adjustment does not overflow. -/
theorem scaledPressure_eq {raw : UInt8} {adjustment : Int32}
    (h : (raw.toNat : ℤ) + adjustment.toInt < 2 ^ 31) :
    scaledPressure raw adjustment
      = UInt32.ofNat (max 0 (min ((raw.toNat : ℤ) + adjustment.toInt) 255)).toNat := by
  have hadj := Int32.le_toInt adjustment
  have hsum : (i32From raw + adjustment).toInt = raw.toNat + adjustment.toInt := by
    rw [Words.add_toInt, Words.i32From_toInt] <;> rw [Words.i32From_toInt]
    · have : (0 : ℤ) ≤ raw.toNat := Int.natCast_nonneg _
      omega
    · exact h
  have hclamp : (clampI32 (i32From raw + adjustment) 0 maxPressure).toInt
      = max 0 (min ((raw.toNat : ℤ) + adjustment.toInt) 255) := by
    rw [Words.clampI32_toInt (by decide), hsum]
    rfl
  apply Words.eq_ofNat
  rw [scaledPressure, Words.toUInt32_toNat (by rw [hclamp]; exact le_max_left _ _), hclamp]

/-- The upper half of a byte. -/
theorem high_nibble_toUInt32_toNat (b : UInt8) :
    (b >>> 4).toUInt32.toNat = b.toNat / 16 := by
  rw [UInt8.toNat_toUInt32, UInt8.toNat_shiftRight, Nat.shiftRight_eq_div_pow]
  rfl

/-- One axis of the contact area. -/
theorem area_toNat (nibble width : UInt32) :
    (saturatingMul nibble (saturatingSub width fingerWidthReduce)).toNat
      = extent nibble.toNat width := by
  rw [Words.saturatingMul_toNat, Words.saturatingSub_toNat]
  rfl

/-- **A contact is read from its own record.**  Filling an empty contact from the
record of a touching slot gives the reference contact. -/
theorem fillContact_eq {hp : Bool} {p : DecodeParams} {r : Mem} {slot : ℕ}
    (hin : InRange hp p r slot)
    (hpress : ((r (recordAt (r 3) slot + 4)).toNat : ℤ) + p.pressureAdjustment.toInt < 2 ^ 31) :
    fillContact hp p r (recordAt (r 3) slot) slot ElanRsContact.empty
      = referenceContact hp p r slot := by
  have hmk : (mkByte hp r (recordAt (r 3) slot) slot).toNat = areaByte hp r slot := by
    cases hp <;> rfl
  have hy : (recordCoords hp (r (recordAt (r 3) slot)) (r (recordAt (r 3) slot + 1))
      (r (recordAt (r 3) slot + 2)) (r (recordAt (r 3) slot + 3))).2 ≤ p.maxY := by
    rw [UInt32.le_iff_toNat_le, recordCoords_snd_toNat]
    exact hin.2
  have hx' := Words.eq_ofNat (recordCoords_fst_toNat hp r (recordAt (r 3) slot))
  have hy' : p.maxY - (recordCoords hp (r (recordAt (r 3) slot)) (r (recordAt (r 3) slot + 1))
      (r (recordAt (r 3) slot + 2)) (r (recordAt (r 3) slot + 3))).2
      = UInt32.ofNat (p.maxY.toNat - coordY hp r (recordAt (r 3) slot)) := by
    apply Words.eq_ofNat
    rw [UInt32.toNat_sub_of_le _ _ hy, recordCoords_snd_toNat]
  have hmajor := Words.eq_ofNat (Words.max_toNat
    (saturatingMul (mkByte hp r (recordAt (r 3) slot) slot &&& 0x0f).toUInt32
      (saturatingSub p.widthX fingerWidthReduce))
    (saturatingMul (mkByte hp r (recordAt (r 3) slot) slot >>> 4).toUInt32
      (saturatingSub p.widthY fingerWidthReduce)))
  have hminor := Words.eq_ofNat (Words.min_toNat
    (saturatingMul (mkByte hp r (recordAt (r 3) slot) slot &&& 0x0f).toUInt32
      (saturatingSub p.widthX fingerWidthReduce))
    (saturatingMul (mkByte hp r (recordAt (r 3) slot) slot >>> 4).toUInt32
      (saturatingSub p.widthY fingerWidthReduce)))
  rw [area_toNat, area_toNat, high_nibble_toUInt32_toNat, UInt8.toNat_toUInt32, low_nibble, hmk]
    at hmajor hminor
  have hwidth := Words.eq_ofNat (UInt8.toNat_toUInt32
    (mkByte hp r (recordAt (r 3) slot) slot &&& 0x0f))
  rw [low_nibble, hmk] at hwidth
  simp only [fillContact, referenceContact, featureReportMk, ElanRsContact.empty]
  rw [hx', hy', scaledPressure_eq hpress, hmajor, hminor, hwidth]
  by_cases hfeat : p.reportFeatures &&& 1 = 0
  · simp only [hfeat, ne_eq, not_true_eq_false, if_false, decide_false, Bool.false_eq_true]
  · simp only [hfeat, ne_eq, not_false_eq_true, if_true, decide_true]

/-! ## The mask -/

/-- The mask of the slots below `i` has `i` bits. -/
theorem maskBelow_lt (hp : Bool) (p : DecodeParams) (r : Mem) (i : ℕ) :
    maskBelow hp p r i < 2 ^ i := by
  induction i with
  | zero => simp [maskBelow]
  | succ i ih =>
    rw [maskBelow, Finset.sum_range_succ, ← maskBelow, pow_succ]
    split_ifs <;> omega

/-- Or-ing in the bit of the next slot adds its power of two. -/
theorem mask_or {hp : Bool} {p : DecodeParams} {r : Mem} {i : ℕ} (hi : i < 5)
    (ht : Touching hp p r i) :
    UInt32.ofNat (maskBelow hp p r i) ||| (1 <<< UInt32.ofNat i)
      = UInt32.ofNat (maskBelow hp p r (i + 1)) := by
  have hlt := maskBelow_lt hp p r i
  have hpow : 2 ^ i ≤ 2 ^ 4 := Nat.pow_le_pow_right (by omega) (by omega)
  have hbit : (1 <<< UInt32.ofNat i : UInt32).toNat = 2 ^ i := by
    interval_cases i <;> rfl
  have hor : 2 ^ i + maskBelow hp p r i = 2 ^ i ||| maskBelow hp p r i := by
    simpa using Nat.two_pow_add_eq_or_of_lt hlt 1
  have hsucc : maskBelow hp p r (i + 1) = maskBelow hp p r i + 2 ^ i := by
    rw [maskBelow, Finset.sum_range_succ, if_pos ht, ← maskBelow]
  apply Words.eq_ofNat
  rw [UInt32.toNat_or, hbit, UInt32.toNat_ofNat', Nat.mod_eq_of_lt (by omega), Nat.or_comm,
    ← hor, hsucc, Nat.add_comm]

/-! ## The slot loop builds the reference -/

section Loop

variable {hp : Bool} {p : DecodeParams} {r : Mem} {n i : ℕ}

/-- A slot that is not touching adds nothing. -/
theorem partialFrame_of_not_touching (h : ¬ Touching hp p r i) :
    partialFrame hp p r n i = partialFrame hp p r n (i + 1) := by
  have hmask : maskBelow hp p r i = maskBelow hp p r (i + 1) := by
    rw [maskBelow, maskBelow, Finset.sum_range_succ, if_neg h, Nat.add_zero]
  have hcontacts : (fun s : Fin maxContacts => if (s : ℕ) < i ∧ Touching hp p r s then
        referenceContact hp p r s else ElanRsContact.empty)
      = fun s : Fin maxContacts => if (s : ℕ) < i + 1 ∧ Touching hp p r s then
        referenceContact hp p r s else ElanRsContact.empty := by
    funext s
    have : ((s : ℕ) < i ∧ Touching hp p r s) ↔ ((s : ℕ) < i + 1 ∧ Touching hp p r s) := by
      constructor
      · exact fun hs => ⟨by omega, hs.2⟩
      · rintro ⟨hs, ht⟩
        have hne : (s : ℕ) ≠ i := fun he => h (he ▸ ht)
        exact ⟨by omega, ht⟩
    simp only [this]
  rw [partialFrame, partialFrame, hmask, hcontacts]

/-- A touching slot adds its contact and its bit. -/
theorem putContact_partialFrame (hi : i < maxContacts) (h : Touching hp p r i)
    (hpress : ((r (recordAt (r 3) i + 4)).toNat : ℤ) + p.pressureAdjustment.toInt < 2 ^ 31) :
    putContact hp p r (recordAt (r 3) i) ⟨i, hi⟩ (partialFrame hp p r n i)
      = partialFrame hp p r n (i + 1) := by
  have hempty : (partialFrame hp p r n i).contact ⟨i, hi⟩ = ElanRsContact.empty := by
    simp [partialFrame]
  have hset : (partialFrame hp p r n i).contacts.set i (referenceContact hp p r i) hi
      = (partialFrame hp p r n (i + 1)).contacts := by
    ext s hs : 1
    rw [Vector.getElem_set]
    by_cases he : i = s
    · subst he
      simp [partialFrame, h]
    · simp only [he, if_false, partialFrame, Vector.getElem_ofFn]
      have : (s < i ∧ Touching hp p r s) ↔ (s < i + 1 ∧ Touching hp p r s) := by
        constructor
        · exact fun hs => ⟨by omega, hs.2⟩
        · exact fun hs => ⟨by omega, hs.2⟩
      simp only [this]
  rw [putContact, hempty, fillContact_eq h.2 hpress]
  simp only [hset]
  rw [partialFrame, partialFrame]
  simp only [mask_or hi h]

/-- Filling the contacts of the slots still to come completes the reference. -/
theorem foldl_partialFrame (hpress : ∀ s < 5, declares (r 3) s = true →
      ((r (recordAt (r 3) s + 4)).toNat : ℤ) + p.pressureAdjustment.toInt < 2 ^ 31)
    (k i : ℕ) (hk : i + k = maxContacts) :
    (slotsFrom i).foldl (fun f (s : Fin maxContacts) => if Touching hp p r s then
        putContact hp p r (recordAt (r 3) s) s f else f) (partialFrame hp p r n i)
      = referenceAbsolute hp p r n := by
  induction k generalizing i with
  | zero =>
    have hi : i = maxContacts := by omega
    rw [slotsFrom_of_le (by omega), hi]
    rfl
  | succ k ih =>
    have hi : i < maxContacts := by omega
    rw [slotsFrom_of_lt hi, List.foldl_cons, ← ih (i + 1) (by omega)]
    congr 1
    by_cases ht : Touching hp p r i
    · rw [if_pos ht]
      exact putContact_partialFrame hi ht (hpress i hi ht.1)
    · rw [if_neg ht]
      exact partialFrame_of_not_touching ht

end Loop

/-! ## Header and trackpoint fields -/

/-- The three button bits of a byte. -/
theorem buttons_eq (b : UInt8) : (b &&& 0x07).toUInt32 = UInt32.ofNat (b.toNat % 8) := by
  apply Words.eq_ofNat
  rw [UInt8.toNat_toUInt32, UInt8.toNat_and, UInt8.toNat_ofNat]
  exact Nat.and_two_pow_sub_one_eq_mod b.toNat 3

/-- The test for hovering is the test of bit 6. -/
theorem hover_iff (b : UInt8) : b &&& 0x40 ≠ 0 ↔ b.toNat.testBit 6 = true := by
  rw [ne_eq, ← UInt8.toNat_inj, UInt8.toNat_and, UInt8.toNat_ofNat, UInt8.toNat_zero,
    show 64 % 2 ^ 8 = 2 ^ 6 from rfl, Nat.land_comm, Nat.two_pow_and]
  cases b.toNat.testBit 6 <;> simp

/-- Before the slot loop no contact has been filled. -/
theorem absoluteHeader_eq (hp : Bool) (p : DecodeParams) (r : Mem) (n : ℕ) :
    absoluteHeader r n ElanRsFrame.empty = partialFrame hp p r n 0 := by
  have hcontacts : (Vector.ofFn fun s : Fin maxContacts =>
        if (s : ℕ) < 0 ∧ Touching hp p r s then referenceContact hp p r s
        else ElanRsContact.empty) = Vector.replicate maxContacts ElanRsContact.empty := by
    ext s hs : 1
    simp
  rw [absoluteHeader, partialFrame, hcontacts]
  simp only [ElanRsFrame.empty, frameAbsolute, buttons_eq, hover_iff]
  rfl

/-- A byte as an `i32`. -/
theorem i32From_eq (b : UInt8) : i32From b = Int32.ofInt b.toNat := by
  rw [← Words.i32From_toInt, Int32.ofInt_toInt]

/-- Shifting the biased motion byte doubles it; a byte is too small to overflow. -/
theorem i32From_shiftLeft_one (b : UInt8) : i32From b <<< 1 = Int32.ofInt (2 * b.toNat) := by
  have key : ∀ v < 256, i32From (UInt8.ofNat v) <<< 1 = Int32.ofInt (2 * v) := by
    decide +kernel
  have h := key b.toNat (uint8_lt b)
  rwa [UInt8.ofNat_toNat] at h

/-- The test for a movement is a test of the lower half. -/
theorem moved_iff (b : UInt8) : b &&& 0x0f = 0x06 ↔ b.toNat % 16 = 6 := by
  rw [← UInt8.toNat_inj, low_nibble]
  rfl

/-- A movement of the trackpoint, or none. -/
theorem trackpointMotion_eq (r : Mem) :
    trackpointMotion r { ElanRsFrame.empty with
        kind := frameTrackpoint, buttons := (r 3 &&& 0x07).toUInt32 }
      = referenceTrackpoint r := by
  have hflip (b : UInt8) : (b ^^^ 0x80).toNat = b.toNat ^^^ 128 := by
    rw [UInt8.toNat_xor, UInt8.toNat_ofNat]
  rw [trackpointMotion, referenceTrackpoint, buttons_eq]
  by_cases hmoved : (r 6).toNat % 16 = 6
  · rw [if_pos ((moved_iff _).mpr hmoved)]
    rw [i32From_shiftLeft_one, i32From_shiftLeft_one, i32From_eq, i32From_eq, hflip, hflip,
      ← Int32.ofInt_sub, ← Int32.ofInt_sub]
    simp only [hmoved, decide_true, if_true]
    rfl
  · rw [if_neg (fun h => hmoved ((moved_iff _).mp h))]
    simp only [hmoved, decide_false, Bool.false_eq_true, if_false]
    rfl

/-! ## The decoder produces the reference -/

/-- The frame of an absolute report is the reference. -/
theorem state_decodeAbsolute {hp : Bool} {p : DecodeParams} {r : Mem} {n : ℕ}
    (hwf : WellFormedAbsolute hp p r n)
    (hpress : ∀ s < 5, declares (r 3) s = true →
      ((r (recordAt (r 3) s + 4)).toNat : ℤ) + p.pressureAdjustment.toInt < 2 ^ 31) :
    ((decodeAbsolute r n hp p).run ElanRsFrame.empty).state = referenceAbsolute hp p r n := by
  have hlen : 3 < n := by have := hwf.1; omega
  rw [(run_decodeAbsolute hlen).2, absoluteHeader_eq hp p,
    state_decodeSlots 5 0 rfl _ ((wellFormedAbsolute_iff hwf.1).mp hwf)]
  exact foldl_partialFrame hpress 5 0 rfl

/-- On a well-formed report the decoder leaves the reference frame, whatever the
frame held before. -/
theorem state_decodeReport {p : DecodeParams} {r : Mem} {n : ℕ} (hwf : WellFormed p r n)
    (hpress : PressureFits p r) (f : ElanRsFrame) :
    ((decodeReport r n p).run f).state = referenceFrame p r n := by
  have hlen : 2 < n := by
    by_contra hn
    exact not_wellFormed_of_le (by omega) hwf
  rw [(run_decodeReport hlen f).2]
  rcases hwf with ⟨hid, h9⟩ | ⟨hid, habs⟩ | ⟨hid, habs⟩
  · have h5d : r 2 ≠ 0x5d := by rcases hid with h | h <;> (rw [h]; decide)
    have h60 : r 2 ≠ 0x60 := by rcases hid with h | h <;> (rw [h]; decide)
    rw [decodeById_of_trackpoint hid, (run_decodeTrackpoint h9).2, referenceFrame, if_neg h5d,
      if_neg h60]
    exact trackpointMotion_eq r
  · rw [decodeById_of_5d hid, state_decodeAbsolute habs (hpress (Or.inl hid)), referenceFrame,
      if_pos hid]
  · have h5d : r 2 ≠ 0x5d := by rw [hid]; decide
    rw [decodeById_of_60 hid, state_decodeAbsolute habs (hpress (Or.inr hid)), referenceFrame,
      if_neg h5d, if_pos hid]

/-- **Meaning of an accepted report.**  Whenever the decoder returns 0 it leaves the
reference frame of the report: the frame's earlier content does not matter, and each
contact depends on its own record only. -/
theorem elanRsDecodeReport_eq_referenceFrame (p : DecodeParams) (r : Mem) (n : ℕ)
    (out : ElanRsFrame) (hacc : (elanRsDecodeReport (some r) n p (some out)).value = 0)
    (hpress : PressureFits p r) :
    (elanRsDecodeReport (some r) n p (some out)).state = some (referenceFrame p r n) := by
  have hwf : WellFormed p r n := (decodeReport_accepts_iff p r n out).mp hacc
  show some ((decodeReport r n p).run out).state = some (referenceFrame p r n)
  rw [state_decodeReport hwf hpress]

/-- Two fingers, in slots 1 and 3, in a normal-precision report: each is read from
its own record. -/
def twoFingers : Mem := fun k =>
  [0x22, 0x00, 0x5d, 0x51, 0x12, 0x34, 0x56, 0x23, 0x40, 0x31, 0x22, 0x11, 0x45, 0xf0].getD k 0

def padParams : DecodeParams := ⟨0xfff, 0xfff, 110, 120, 25, 1⟩

/-- The frame of two fingers. -/
theorem referenceFrame_twoFingers :
    (elanRsDecodeReport (some twoFingers) 34 padParams (some ElanRsFrame.empty)).state
      = some (referenceFrame padParams twoFingers 34) :=
  elanRsDecodeReport_eq_referenceFrame padParams twoFingers 34 ElanRsFrame.empty
    (by decide +kernel) (by
      intro _ s hs _
      have hraw := uint8_lt (twoFingers (recordAt (twoFingers 3) s + 4))
      have hadj : padParams.pressureAdjustment.toInt = 25 := by decide
      omega)

end ReferenceFrame
