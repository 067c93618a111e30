/-
# The Rust path against the C path

Both paths turn a report into a list of input events.  On a report that the old
path could read completely, the two lists are made of one block per slot followed
by the same tail; this file compares them block by block.  They differ in two ways
only.  A declared slot whose coordinates are off the pad is lifted by the Rust path
and skipped by the C path, and a touch area outside `u32` saturates in Rust and
wraps in C.
-/
import ElanGuardian.ReferenceFrame
import ElanGuardian.LegacyReport
import ElanGuardian.Transport

open Prog ElanCore ReportFormat ReferenceFrame ReportShim Transport

namespace DropIn

/-! ## Input events of a program -/

/-- The input events among the calls of a report path. -/
def inputEvents (calls : List Call) : List (InputDev × InputEvent) :=
  calls.filterMap fun
    | .input dev event => some (dev, event)
    | _ => none

/-- The input events of one execution. -/
def eventsOf {α : Type} (x : Prog Unit Call α) : List (InputDev × InputEvent) :=
  inputEvents (x.run ()).trace

variable {α β : Type}

@[simp] theorem eventsOf_pure (a : α) : eventsOf (pure a) = [] := rfl

@[simp] theorem eventsOf_wakeup : eventsOf (emit .pmWakeupEvent) = [] := rfl

@[simp] theorem eventsOf_inputReport (dev : InputDev) (event : InputEvent) :
    eventsOf (inputReport dev event) = [(dev, event)] := rfl

/-- The events of a sequence, one program after the other. -/
@[simp] theorem eventsOf_bind (x : Prog Unit Call α) (f : α → Prog Unit Call β) :
    eventsOf (x >>= f) = eventsOf x ++ eventsOf (f (x.run ()).value) := by
  rw [eventsOf, trace_bind, inputEvents, List.filterMap_append]
  rfl

/-! ## One block of events for each slot -/

/-- What the Rust path emits for a slot. -/
def rustSlot (context : ElanRsReportContext) (frame : ElanRsFrame) (slot : Fin maxContacts) :
    List (InputDev × InputEvent) :=
  eventsOf (elanRsEmitContact context slot (frame.contact slot))

/-- What the C path emits for a slot. -/
def legacySlot (context : ElanRsReportContext) (hp : Bool) (r : Mem) (slot : Fin maxContacts) :
    List (InputDev × InputEvent) :=
  eventsOf (LegacyReport.elanReportContact context slot (declared (r 3) slot) hp r
    (recordAt (r 3) slot))

/-- The events of both paths after the slots. -/
def buttonEvents (r : Mem) : List (InputDev × InputEvent) :=
  [(.touchpad, .key .btnLeft (bit (r 3).toUInt32 0)),
    (.touchpad, .key .btnMiddle (bit (r 3).toUInt32 2)),
    (.touchpad, .key .btnRight (bit (r 3).toUInt32 1)),
    (.touchpad, .abs .distance (if r 30 &&& 0x40 ≠ 0 then 1 else 0)),
    (.touchpad, .pointerEmulation), (.touchpad, .sync)]

/-- Selecting a slot and lifting its contact. -/
def liftSlot (slot : Fin maxContacts) : List (InputDev × InputEvent) :=
  [(.touchpad, .mtSlot slot), (.touchpad, .mtSlotState false)]

section Slots

variable {context : ElanRsReportContext} {hp : Bool} {r : Mem} {frame : ElanRsFrame}

/-- The Rust path emits one block per slot. -/
theorem eventsOf_emitContacts (slots : List (Fin maxContacts)) :
    eventsOf (elanRsEmitContacts context frame slots) = slots.flatMap (rustSlot context frame) := by
  induction slots with
  | nil => rfl
  | cons slot slots ih => rw [elanRsEmitContacts, eventsOf_bind, ih, List.flatMap_cons, rustSlot]

variable (context hp r) in
/-- The running `finger_data` pointer stands at the record of the next slot. -/
theorem eventsOf_reportContacts (k i : ℕ) (hk : i + k = maxContacts) :
    eventsOf (LegacyReport.elanReportContacts context r hp (r 3) (slotsFrom i)
        (recordAt (r 3) i))
      = (slotsFrom i).flatMap (legacySlot context hp r) := by
  induction k generalizing i with
  | zero =>
    rw [slotsFrom_of_le (by omega)]
    rfl
  | succ k ih =>
    have hi : i < maxContacts := by omega
    have hdecl : declared (r 3) ⟨i, hi⟩ = declares (r 3) i := declared_eq_testBit _ _
    have hnext : (if declared (r 3) ⟨i, hi⟩ then recordAt (r 3) i + fingerDataLen
        else recordAt (r 3) i) = recordAt (r 3) (i + 1) := by
      rw [hdecl, recordAt, recordAt, fingerDataLen]
      cases hd : declares (r 3) i with
      | false => rw [rank_succ_of_not_declares hd]; rfl
      | true => rw [rank_succ_of_declares hd, if_pos rfl]; omega
    rw [slotsFrom_of_lt hi, LegacyReport.elanReportContacts, eventsOf_bind, List.flatMap_cons,
      legacySlot, hnext, ih (i + 1) (by omega)]

end Slots

/-! ## The two computations of a contact -/

/-- Both paths compute the same position. -/
theorem position_eq (hp : Bool) (r : Mem) (o : ℕ) :
    LegacyReport.position hp r o
      = recordCoords hp (r o) (r (o + 1)) (r (o + 2)) (r (o + 3)) := by
  cases hp
  · simp only [LegacyReport.position, recordCoords, Bool.false_eq_true, if_false,
      UInt8.toUInt32_and]
    rfl
  · rfl

/-- The two adjustments a controller can ask for never overflow, so that the signed
and the unsigned computation of the pressure agree. -/
theorem scaledPressure_agree (raw : UInt8) {adjustment : Int32}
    (h : adjustment = 0 ∨ adjustment = 25) :
    LegacyReport.scaledPressure raw adjustment = scaledPressure raw adjustment := by
  have key : ∀ v < 256, LegacyReport.scaledPressure (UInt8.ofNat v) 0
        = scaledPressure (UInt8.ofNat v) 0
      ∧ LegacyReport.scaledPressure (UInt8.ofNat v) 25 = scaledPressure (UInt8.ofNat v) 25 := by
    decide +kernel
  have hraw := key raw.toNat (uint8_lt raw)
  rw [UInt8.ofNat_toNat] at hraw
  rcases h with rfl | rfl
  · exact hraw.1
  · exact hraw.2

/-- One axis of a touch area is a `u32`: the width is not reduced below zero, unless
the nibble is zero, and the product is in range. -/
def AreaExact (nibble : ℕ) (width : UInt32) : Prop :=
  (nibble = 0 ∨ 90 ≤ width.toNat) ∧ nibble * (width.toNat - 90) < 2 ^ 32

/-- Both paths compute the same exact area. -/
theorem area_agree {mk width : UInt32} (h : AreaExact mk.toNat width) :
    LegacyReport.area mk width = saturatingMul mk (saturatingSub width fingerWidthReduce) := by
  have hsat : (saturatingMul mk (saturatingSub width fingerWidthReduce)).toNat
      = mk.toNat * (width.toNat - 90) := by
    rw [area_toNat, extent, cap]
    exact Nat.min_eq_left (by have := h.2; omega)
  rw [← UInt32.toNat_inj, hsat, LegacyReport.area, UInt32.toNat_mul]
  rcases h.1 with hzero | hwidth
  · rw [hzero, Nat.zero_mul, Nat.zero_mul, Nat.zero_mod]
  · have hle : LegacyReport.etpFwidthReduce ≤ width := by
      rw [UInt32.le_iff_toNat_le]
      exact hwidth
    rw [UInt32.toNat_sub_of_le _ _ hle, show LegacyReport.etpFwidthReduce.toNat = 90 from rfl,
      Nat.mod_eq_of_lt h.2]

/-! ## The blocks of one slot compared -/

/-- The configurations of the driver: the two adjustments and the two feature words
that the transports produce. -/
structure Configured (context : ElanRsReportContext) : Prop where
  adjustment : context.pressureAdjustment = 0 ∨ context.pressureAdjustment = 25
  features : context.reportFeatures = 0 ∨ context.reportFeatures = 1

/-- The adjusted pressure fits 32 bits. -/
theorem Configured.pressure_fits {context : ElanRsReportContext} (h : Configured context)
    (raw : UInt8) : (raw.toNat : ℤ) + context.pressureAdjustment.toInt < 2 ^ 31 := by
  have hraw := uint8_lt raw
  have hadj : context.pressureAdjustment.toInt ≤ 25 := by
    rcases h.adjustment with h | h <;> (rw [h]; decide)
  omega

/-- The touch areas of a slot are not reported, or are exact. -/
def AreasFit (context : ElanRsReportContext) (hp : Bool) (r : Mem) (slot : ℕ) : Prop :=
  context.reportFeatures = 0
    ∨ AreaExact (areaByte hp r slot % 16) context.widthX
      ∧ AreaExact (areaByte hp r slot / 16) context.widthY

/-- Placing a contact: everything up to its pressure. -/
def placeEvents (context : ElanRsReportContext) (hp : Bool) (r : Mem) (slot : Fin maxContacts) :
    List (InputDev × InputEvent) :=
  let o := recordAt (r 3) slot
  let xy := recordCoords hp (r o) (r (o + 1)) (r (o + 2)) (r (o + 3))
  [(.touchpad, .mtSlot slot), (.touchpad, .mtSlotState true),
    (.touchpad, .abs .mtPositionX xy.1.toInt32),
    (.touchpad, .abs .mtPositionY (context.maxY - xy.2).toInt32),
    (.touchpad, .abs .mtPressure
      (scaledPressure (r (o + 4)) context.pressureAdjustment).toInt32)]

/-- The area events of a contact, for two given areas. -/
def areaEvents (context : ElanRsReportContext) (mk : UInt8) (areaX areaY : UInt32) :
    List (InputDev × InputEvent) :=
  if context.reportFeatures = 0 then []
  else [(.touchpad, .abs .toolWidth (mk &&& 0x0f).toUInt32.toInt32),
    (.touchpad, .abs .mtTouchMajor (max areaX areaY).toInt32),
    (.touchpad, .abs .mtTouchMinor (min areaX areaY).toInt32)]

section Slot

variable {context : ElanRsReportContext} {hp : Bool} {r : Mem} {n : ℕ}
variable {slot : Fin maxContacts}

/-- A slot of the frame has its contact if it is touched. -/
theorem contacts_referenceAbsolute (p : DecodeParams) :
    (referenceAbsolute hp p r n).contact slot
      = if Touching hp p r slot then referenceContact hp p r slot else ElanRsContact.empty := by
  have hlt : (slot : ℕ) < 5 := slot.isLt
  simp [referenceAbsolute, partialFrame, hlt]

/-- The Rust path lifts every other slot. -/
theorem rustSlot_not_touching (h : ¬ Touching hp context.toDecodeParams r slot) :
    rustSlot context (referenceAbsolute hp context.toDecodeParams r n) slot = liftSlot slot := by
  rw [rustSlot, contacts_referenceAbsolute, if_neg h]
  rfl

/-- And so a slot that is not declared. -/
theorem rustSlot_undeclared (h : declares (r 3) slot = false) :
    rustSlot context (referenceAbsolute hp context.toDecodeParams r n) slot = liftSlot slot := by
  apply rustSlot_not_touching
  intro ht
  rw [ht.1] at h
  exact Bool.noConfusion h

/-- It places the contact of a touched slot, and reports its saturated areas. -/
theorem rustSlot_touching (hconf : Configured context)
    (h : Touching hp context.toDecodeParams r slot) :
    rustSlot context (referenceAbsolute hp context.toDecodeParams r n) slot
      = placeEvents context hp r slot
        ++ areaEvents context (mkByte hp r (recordAt (r 3) slot) slot)
          (saturatingMul (mkByte hp r (recordAt (r 3) slot) slot &&& 0x0f).toUInt32
            (saturatingSub context.widthX fingerWidthReduce))
          (saturatingMul (mkByte hp r (recordAt (r 3) slot) slot >>> 4).toUInt32
            (saturatingSub context.widthY fingerWidthReduce)) := by
  rw [rustSlot, contacts_referenceAbsolute, if_pos h,
    ← fillContact_eq h.2 (hconf.pressure_fits _), elanRsEmitContact, fillContact]
  rcases hconf.features with hf | hf
  · rw [areaEvents, if_pos hf, hf]
    rfl
  · have hne : context.reportFeatures ≠ 0 := by rw [hf]; decide
    rw [areaEvents, if_neg hne, hf]
    rfl

/-- The C path lifts a slot that is not declared. -/
theorem legacySlot_undeclared (h : declares (r 3) slot = false) :
    legacySlot context hp r slot = liftSlot slot := by
  rw [legacySlot, declared_eq_testBit, h]
  rfl

/-- It emits nothing for a declared slot off the pad. -/
theorem legacySlot_outside (h : declares (r 3) slot = true)
    (hout : ¬ InRange hp context.toDecodeParams r slot) : legacySlot context hp r slot = [] := by
  rw [inRange_iff_fitsPad, ← coords_le_iff, not_and_or, UInt32.not_le, UInt32.not_le] at hout
  rw [legacySlot, declared_eq_testBit, h, LegacyReport.elanReportContact, if_pos rfl]
  simp only [position_eq]
  rw [if_pos hout]
  rfl

/-- It places the contact of a touched slot, and reports its wrapped areas. -/
theorem legacySlot_touching (hconf : Configured context)
    (h : Touching hp context.toDecodeParams r slot) :
    legacySlot context hp r slot
      = placeEvents context hp r slot
        ++ areaEvents context (mkByte hp r (recordAt (r 3) slot) slot)
          (LegacyReport.area (mkByte hp r (recordAt (r 3) slot) slot &&& 0x0f).toUInt32
            context.widthX)
          (LegacyReport.area (mkByte hp r (recordAt (r 3) slot) slot >>> 4).toUInt32
            context.widthY) := by
  have hin := coords_le_iff.mpr (inRange_iff_fitsPad.mp h.2)
  have hmk : LegacyReport.mkData hp r (recordAt (r 3) slot) slot
      = mkByte hp r (recordAt (r 3) slot) slot := rfl
  have hshift (b : UInt8) : (b >>> 4).toUInt32 = b.toUInt32 >>> 4 := by
    rw [← UInt32.toNat_inj]
    simp
  rw [legacySlot, declared_eq_testBit, h.1, LegacyReport.elanReportContact, if_pos rfl]
  simp only [position_eq, hmk, scaledPressure_agree _ hconf.adjustment]
  rw [if_neg (by rw [not_or, UInt32.not_lt, UInt32.not_lt]; exact hin), hshift,
    UInt8.toUInt32_and]
  rcases hconf.features with hf | hf
  · rw [areaEvents, if_pos hf, hf]
    rfl
  · have hne : context.reportFeatures ≠ 0 := by rw [hf]; decide
    rw [areaEvents, if_neg hne, hf, UInt8.toUInt32_and]
    rfl

/-- The area byte of a slot, as a number. -/
theorem mkByte_toNat : (mkByte hp r (recordAt (r 3) slot) slot).toNat = areaByte hp r slot := by
  cases hp <;> rfl

/-- Exact areas are the same in both paths. -/
theorem rustSlot_eq_legacySlot (hconf : Configured context)
    (hin : declares (r 3) slot = true → InRange hp context.toDecodeParams r slot)
    (harea : AreasFit context hp r slot) :
    rustSlot context (referenceAbsolute hp context.toDecodeParams r n) slot
      = legacySlot context hp r slot := by
  cases hd : declares (r 3) slot with
  | false =>
    rw [legacySlot_undeclared hd, rustSlot_undeclared hd]
  | true =>
    have ht : Touching hp context.toDecodeParams r slot := ⟨hd, hin hd⟩
    rw [rustSlot_touching hconf ht, legacySlot_touching hconf ht]
    rcases harea with hf | ⟨hx, hy⟩
    · rw [areaEvents, areaEvents, if_pos hf, if_pos hf]
    · rw [area_agree, area_agree]
      · rw [high_nibble_toUInt32_toNat, mkByte_toNat]
        exact hy
      · rw [UInt8.toNat_toUInt32, low_nibble, mkByte_toNat]
        exact hx

/-- An event without the value of a touch area. -/
def blankValue : InputEvent → InputEvent
  | .abs .mtTouchMajor _ => .abs .mtTouchMajor 0
  | .abs .mtTouchMinor _ => .abs .mtTouchMinor 0
  | event => event

/-- The same events in the same order, with the values of the touch areas blanked out. -/
def blankArea (events : List (InputDev × InputEvent)) : List (InputDev × InputEvent) :=
  events.map fun e => (e.1, blankValue e.2)

/-- The areas only differ in their values. -/
theorem blankArea_areaEvents (mk : UInt8) (areaX areaY areaX' areaY' : UInt32) :
    blankArea (areaEvents context mk areaX areaY)
      = blankArea (areaEvents context mk areaX' areaY') := by
  rw [areaEvents, areaEvents]
  split_ifs <;> rfl

/-- Up to the values of the touch areas a slot on the pad has the same events. -/
theorem blankArea_rustSlot (hconf : Configured context)
    (hin : declares (r 3) slot = true → InRange hp context.toDecodeParams r slot) :
    blankArea (rustSlot context (referenceAbsolute hp context.toDecodeParams r n) slot)
      = blankArea (legacySlot context hp r slot) := by
  cases hd : declares (r 3) slot with
  | false =>
    rw [legacySlot_undeclared hd, rustSlot_undeclared hd]
  | true =>
    have ht : Touching hp context.toDecodeParams r slot := ⟨hd, hin hd⟩
    rw [rustSlot_touching hconf ht, legacySlot_touching hconf ht, blankArea, blankArea,
      List.map_append, List.map_append]
    exact congrArg _ (blankArea_areaEvents ..)

end Slot

/-! ## Whole reports -/

/-- The reports that the old path reads completely from what the transport delivered. -/
def OldPathReads (bus : Transport.Bus) (pattern : UInt8) (r : Mem) : Prop :=
  r 2 = 0x5d ∨ r 2 = 0x5e ∨ r 2 = 0x5f ∨ r 2 = 0x60 ∧ bus = .i2c ∧ 2 ≤ pattern

/-- Pattern 2 has the long reports. -/
theorem reportLen_of_two_le {pattern : UInt8} (h : 2 ≤ pattern) :
    reportLen .i2c pattern = 39 := if_neg (not_le_one h)

section Report

variable {bus : Transport.Bus} {pattern : UInt8} {r : Mem} {context : ElanRsReportContext}

/-- Such a report holds everything it declares. -/
theorem OldPathReads.wellFormed (h : OldPathReads bus pattern r) (p : DecodeParams) :
    ReportGrammar.WellFormed p r (reportLen bus pattern) := by
  have hlen := le_reportLen bus pattern
  have hrank := rank_le (r 3) 5
  rcases h with h | h | h | ⟨h, rfl, hpat⟩
  · exact Or.inr (Or.inl ⟨h, by omega, by omega, fun hp => absurd hp (by simp)⟩)
  · exact Or.inl ⟨Or.inl h, by omega⟩
  · exact Or.inl ⟨Or.inr h, by omega⟩
  · have hlen39 := reportLen_of_two_le hpat
    exact Or.inr (Or.inr ⟨h, by omega, by omega, fun _ _ s hs _ _ => by omega⟩)

/-- The Rust path emits the reference frame of the report. -/
theorem elanRsEmitReport_eq (hconf : Configured context) (hread : OldPathReads bus pattern r)
    (frame : ElanRsFrame) :
    (elanRsEmitReport context r (reportLen bus pattern) frame : Prog Unit Call ℤ)
      = (let f := referenceFrame context.toDecodeParams r (reportLen bus pattern)
        if f.kind = frameAbsolute then do
          elanRsEmitAbsolute context f
          pure 0
        else if f.kind = frameTrackpoint then elanRsEmitTrackpoint context f
        else pure eproto) := by
  have hwf := hread.wellFormed context.toDecodeParams
  have hvalue := (ReportGrammar.decodeReport_accepts_iff context.toDecodeParams r _ frame).mpr hwf
  have hstate := state_decodeReport hwf (fun _ s _ _ => hconf.pressure_fits _) frame
  rw [elanRsEmitReport]
  simp only [hvalue, hstate, ne_eq, not_true_eq_false, if_false]

/-- The low bits of the byte are the buttons. -/
theorem buttons_bit (b : UInt8) {i : UInt32} (hi : i = 0 ∨ i = 1 ∨ i = 2) :
    bit (UInt32.ofNat (b.toNat % 8)) i = bit b.toUInt32 i := by
  have key : ∀ v < 256, bit (UInt32.ofNat (v % 8)) 0 = bit (UInt8.ofNat v).toUInt32 0
      ∧ bit (UInt32.ofNat (v % 8)) 1 = bit (UInt8.ofNat v).toUInt32 1
      ∧ bit (UInt32.ofNat (v % 8)) 2 = bit (UInt8.ofNat v).toUInt32 2 := by decide +kernel
  have hb := key b.toNat (uint8_lt b)
  rw [UInt8.ofNat_toNat] at hb
  rcases hi with rfl | rfl | rfl
  · exact hb.1
  · exact hb.2.1
  · exact hb.2.2

/-- The Rust path on an absolute report: one block per slot, then the buttons. -/
theorem eventsOf_emitAbsolute (hp : Bool) {n : ℕ} (hn : 32 ≤ n) :
    eventsOf (elanRsEmitAbsolute context (referenceAbsolute hp context.toDecodeParams r n))
      = (List.finRange maxContacts).flatMap
          (rustSlot context (referenceAbsolute hp context.toDecodeParams r n))
        ++ buttonEvents r := by
  have hhover : (referenceAbsolute hp context.toDecodeParams r n).hover ≠ 0
      ↔ r 30 &&& 0x40 ≠ 0 := by
    have h30 : 30 < n := by omega
    rw [hover_iff]
    show (if 30 < n ∧ (r 30).toNat.testBit 6 = true then (1 : UInt32) else 0) ≠ 0 ↔ _
    split_ifs with h
    · simp [h.2]
    · simp only [h30, true_and] at h
      simp [h]
  have hbuttons : (referenceAbsolute hp context.toDecodeParams r n).buttons
      = UInt32.ofNat ((r 3).toNat % 8) := rfl
  rw [elanRsEmitAbsolute]
  simp only [eventsOf_bind, eventsOf_wakeup, eventsOf_emitContacts, eventsOf_inputReport,
    hbuttons, buttons_bit _ (Or.inl rfl), buttons_bit _ (Or.inr (Or.inl rfl)),
    buttons_bit _ (Or.inr (Or.inr rfl)), hhover]
  rfl

/-- The C path on an absolute report: one block per slot, then the buttons. -/
theorem eventsOf_reportAbsolute (hp : Bool) :
    eventsOf (LegacyReport.elanReportAbsolute context r hp)
      = (List.finRange maxContacts).flatMap (legacySlot context hp r) ++ buttonEvents r := by
  have hslots := eventsOf_reportContacts context hp r 5 0 rfl
  rw [slotsFrom_zero, show recordAt (r 3) 0 = fingerDataOffset from rfl] at hslots
  rw [LegacyReport.elanReportAbsolute]
  simp only [eventsOf_bind, eventsOf_wakeup, eventsOf_inputReport]
  rw [show r touchInfoOffset = r 3 from rfl, hslots]
  simp only [decide_eq_true_eq]
  rfl

/-- The C path takes the bias off a motion byte, and doubles it. -/
theorem unbias_eq (b : UInt8) :
    LegacyReport.unbias b = Int32.ofInt (2 * (b.toNat ^^^ 128 : ℕ)) := by
  have key : ∀ v < 256, LegacyReport.unbias (UInt8.ofNat v)
      = Int32.ofInt (2 * (v ^^^ 128 : ℕ)) := by decide +kernel
  have hb := key b.toNat (uint8_lt b)
  rwa [UInt8.ofNat_toNat] at hb

/-- A button of a trackpoint report, in both paths. -/
theorem buttons_and (b : UInt8) :
    bit b.toUInt32 0 = decide (b &&& 0x01 ≠ 0) ∧ bit b.toUInt32 1 = decide (b &&& 0x02 ≠ 0)
      ∧ bit b.toUInt32 2 = decide (b &&& 0x04 ≠ 0) := by
  have key : ∀ v < 256, bit (UInt8.ofNat v).toUInt32 0 = decide (UInt8.ofNat v &&& 0x01 ≠ 0)
      ∧ bit (UInt8.ofNat v).toUInt32 1 = decide (UInt8.ofNat v &&& 0x02 ≠ 0)
      ∧ bit (UInt8.ofNat v).toUInt32 2 = decide (UInt8.ofNat v &&& 0x04 ≠ 0) := by
    decide +kernel
  have hb := key b.toNat (uint8_lt b)
  rwa [UInt8.ofNat_toNat] at hb

/-- The relative motion of a trackpoint report, in both paths. -/
theorem eventsOf_motion :
    eventsOf (if (referenceTrackpoint r).relValid ≠ 0 then do
        inputReport .trackpoint (.rel .x (referenceTrackpoint r).relX)
        inputReport .trackpoint (.rel .y (referenceTrackpoint r).relY)
      else pure ())
      = eventsOf (if r 6 &&& 0x0f = 0x06 then do
        inputReport .trackpoint (.rel .x (i32From (r 7) - LegacyReport.unbias (r 4)))
        inputReport .trackpoint (.rel .y (LegacyReport.unbias (r 5) - i32From (r 8)))
      else pure ()) := by
  by_cases hmoved : (r 6).toNat % 16 = 6
  · have hvalid : (referenceTrackpoint r).relValid ≠ 0 := by
      simp [referenceTrackpoint, hmoved]
    rw [if_pos hvalid, if_pos ((moved_iff _).mpr hmoved), unbias_eq, unbias_eq, i32From_eq,
      i32From_eq, ← Int32.ofInt_sub, ← Int32.ofInt_sub]
    simp only [referenceTrackpoint, hmoved, decide_true, if_true]
  · have hvalid : ¬ (referenceTrackpoint r).relValid ≠ 0 := by
      simp [referenceTrackpoint, hmoved]
    rw [if_neg hvalid, if_neg fun h => hmoved ((moved_iff _).mp h)]

/-- The two paths agree on every trackpoint report. -/
theorem eventsOf_trackpoint :
    eventsOf (elanRsEmitTrackpoint context (referenceTrackpoint r))
      = eventsOf (LegacyReport.elanReportTrackpoint context r) := by
  obtain ⟨hleft, hright, hmiddle⟩ := buttons_and (r 3)
  have hbuttons : (referenceTrackpoint r).buttons = UInt32.ofNat ((r 3).toNat % 8) := rfl
  rw [elanRsEmitTrackpoint, LegacyReport.elanReportTrackpoint]
  cases context.trackpoint with
  | false => rfl
  | true =>
    simp only [Bool.true_eq_false, if_false, eventsOf_bind, eventsOf_wakeup,
      eventsOf_inputReport, eventsOf_pure, hbuttons, buttons_bit _ (Or.inl rfl),
      buttons_bit _ (Or.inr (Or.inl rfl)), buttons_bit _ (Or.inr (Or.inr rfl)), hleft, hright,
      hmiddle, eventsOf_motion, List.append_nil]
    rfl

/-- The id byte of an absolute report. -/
def absoluteId (hp : Bool) : UInt8 := if hp then 0x60 else 0x5d

/-- Both paths on an absolute report, block by block. -/
theorem eventsOf_absolute (hconf : Configured context) (hread : OldPathReads bus pattern r)
    (frame : ElanRsFrame) {hp : Bool} (hid : r 2 = absoluteId hp) :
    eventsOf (elanRsEmitReport context r (reportLen bus pattern) frame)
        = (List.finRange maxContacts).flatMap (rustSlot context
            (referenceAbsolute hp context.toDecodeParams r (reportLen bus pattern)))
          ++ buttonEvents r
      ∧ eventsOf (LegacyReport.elanReport context r)
        = (List.finRange maxContacts).flatMap (legacySlot context hp r) ++ buttonEvents r := by
  have hframe : referenceFrame context.toDecodeParams r (reportLen bus pattern)
      = referenceAbsolute hp context.toDecodeParams r (reportLen bus pattern) := by
    rw [referenceFrame, hid]
    cases hp <;> rfl
  have hold : LegacyReport.elanReport (σ := Unit) context r
      = LegacyReport.elanReportAbsolute context r hp := by
    rw [LegacyReport.elanReport, show r reportIdOffset = absoluteId hp from hid]
    cases hp <;> rfl
  rw [elanRsEmitReport_eq hconf hread, hframe, hold, eventsOf_reportAbsolute]
  refine ⟨?_, rfl⟩
  rw [← eventsOf_emitAbsolute hp (le_reportLen bus pattern)]
  exact (eventsOf_bind ..).trans (List.append_nil _)

/-- Both paths on a trackpoint report. -/
theorem eventsOf_trackpointReport (hconf : Configured context)
    (hread : OldPathReads bus pattern r) (frame : ElanRsFrame)
    (hid : r 2 = 0x5e ∨ r 2 = 0x5f) :
    eventsOf (elanRsEmitReport context r (reportLen bus pattern) frame)
      = eventsOf (LegacyReport.elanReport context r) := by
  have hframe : referenceFrame context.toDecodeParams r (reportLen bus pattern)
      = referenceTrackpoint r := by
    rcases hid with h | h <;> (rw [referenceFrame, h]; rfl)
  have hold : LegacyReport.elanReport (σ := Unit) context r
      = LegacyReport.elanReportTrackpoint context r := by
    rcases hid with h | h <;>
      (rw [LegacyReport.elanReport, show r reportIdOffset = _ from h]; rfl)
  rw [elanRsEmitReport_eq hconf hread, hframe, hold, ← eventsOf_trackpoint]
  rfl

end Report

/-! ## The comparison -/

/-- The frame that the Rust core decodes. -/
def decodedFrame (context : ElanRsReportContext) (r : Mem) (n : ℕ) (frame : ElanRsFrame) :
    ElanRsFrame :=
  ((decodeReport r n context.toDecodeParams).run frame).state

/-- **The Rust path against the C path, on every report the C path could read.**
Trackpoint reports give the same events.  On an absolute report both paths emit one
block per slot and then the same buttons; a declared slot off the pad is lifted by the
Rust path and skipped by the C path, every other slot has the same block up to the
values of its touch areas, and exactly the same block where these areas fit in a `u32`.
So the two lists are equal when every declared slot is on the pad and its areas fit. -/
theorem elanRsEmitReport_events (bus : Transport.Bus) (pattern : UInt8) (r : Mem)
    (context : ElanRsReportContext) (frame : ElanRsFrame)
    (hread : OldPathReads bus pattern r) (hconf : Configured context) :
    (r 2 = 0x5e ∨ r 2 = 0x5f →
      eventsOf (elanRsEmitReport context r (reportLen bus pattern) frame)
        = eventsOf (LegacyReport.elanReport context r))
    ∧ ∀ hp, r 2 = absoluteId hp →
      let rust := rustSlot context (decodedFrame context r (reportLen bus pattern) frame)
      let legacy := legacySlot context hp r
      eventsOf (elanRsEmitReport context r (reportLen bus pattern) frame)
          = (List.finRange maxContacts).flatMap rust ++ buttonEvents r
        ∧ eventsOf (LegacyReport.elanReport context r)
          = (List.finRange maxContacts).flatMap legacy ++ buttonEvents r
        ∧ (∀ slot : Fin maxContacts, declares (r 3) slot = true →
            ¬ InRange hp context.toDecodeParams r slot →
            rust slot = liftSlot slot ∧ legacy slot = [])
        ∧ (∀ slot : Fin maxContacts,
            (declares (r 3) slot = true → InRange hp context.toDecodeParams r slot) →
            blankArea (rust slot) = blankArea (legacy slot)
              ∧ (AreasFit context hp r slot → rust slot = legacy slot))
        ∧ ((∀ slot : Fin maxContacts, declares (r 3) slot = true →
              InRange hp context.toDecodeParams r slot ∧ AreasFit context hp r slot) →
            eventsOf (elanRsEmitReport context r (reportLen bus pattern) frame)
              = eventsOf (LegacyReport.elanReport context r)) := by
  refine ⟨eventsOf_trackpointReport hconf hread frame, fun hp hid => ?_⟩
  have hframe : decodedFrame context r (reportLen bus pattern) frame
      = referenceAbsolute hp context.toDecodeParams r (reportLen bus pattern) := by
    rw [decodedFrame, state_decodeReport (hread.wellFormed _)
      (fun _ s _ _ => hconf.pressure_fits _), referenceFrame, hid]
    cases hp <;> rfl
  obtain ⟨hrust, hlegacy⟩ := eventsOf_absolute hconf hread frame hid
  simp only [hframe]
  refine ⟨hrust, hlegacy, ?_, ?_, ?_⟩
  · intro slot hd hout
    exact ⟨rustSlot_not_touching fun ht => hout ht.2, legacySlot_outside hd hout⟩
  · intro slot hin
    exact ⟨blankArea_rustSlot hconf hin, rustSlot_eq_legacySlot hconf hin⟩
  · intro hall
    have hslots (slot : Fin maxContacts) (_ : slot ∈ List.finRange maxContacts) :
        rustSlot context (referenceAbsolute hp context.toDecodeParams r (reportLen bus pattern))
          slot = legacySlot context hp r slot := by
      cases hd : declares (r 3) slot with
      | true => exact rustSlot_eq_legacySlot hconf (fun _ => (hall slot hd).1) (hall slot hd).2
      | false => rw [legacySlot_undeclared hd, rustSlot_undeclared hd]
    rw [hrust, hlegacy, List.flatMap_congr hslots]

/-- A pad with coordinates up to 1000, and one whose traces are narrower than 90. -/
def smallPad : ElanRsReportContext := ⟨⟨1000, 1000, 100, 100, 25, 1⟩, true⟩
def narrowPad : ElanRsReportContext := ⟨⟨1000, 1000, 80, 80, 0, 1⟩, true⟩

/-- A finger off the pad in slot 0, and one on it. -/
def offPad : Mem := fun k => [0, 0, 0x5d, 0x08, 0xff, 0xff, 0xff, 0x11, 0x40].getD k 0
def onPad : Mem := fun k => [0, 0, 0x5d, 0x08, 0x11, 0x22, 0x33, 0x11, 0x40].getD k 0

/-- A finger on the pad gives the same events. -/
theorem elanRsEmitReport_events_onPad :
    eventsOf (elanRsEmitReport smallPad onPad (reportLen .i2c 0) ElanRsFrame.empty)
      = eventsOf (LegacyReport.elanReport smallPad onPad) := by
  have h := elanRsEmitReport_events .i2c 0 onPad smallPad ElanRsFrame.empty (Or.inl rfl)
    ⟨Or.inr rfl, Or.inr rfl⟩
  refine (h.2 false rfl).2.2.2.2 ?_
  unfold AreasFit AreaExact
  decide +kernel

/-- The lists of the two paths differ, also up to order, for a finger off the pad and
for one on a pad with narrow traces. -/
theorem elanRsEmitReport_not_drop_in :
    (OldPathReads .i2c 0 offPad ∧ Configured smallPad
      ∧ ¬ (eventsOf (elanRsEmitReport smallPad offPad (reportLen .i2c 0) ElanRsFrame.empty)).Perm
        (eventsOf (LegacyReport.elanReport smallPad offPad)))
    ∧ OldPathReads .i2c 0 onPad ∧ Configured narrowPad
      ∧ ¬ (eventsOf (elanRsEmitReport narrowPad onPad (reportLen .i2c 0) ElanRsFrame.empty)).Perm
        (eventsOf (LegacyReport.elanReport narrowPad onPad)) := by
  refine ⟨⟨Or.inl rfl, ⟨Or.inr rfl, Or.inr rfl⟩, ?_⟩,
    Or.inl rfl, ⟨Or.inl rfl, Or.inr rfl⟩, ?_⟩
  · decide +kernel
  · decide +kernel

end DropIn
