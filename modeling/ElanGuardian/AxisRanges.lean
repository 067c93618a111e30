/-
# The ranges of the axes

`elan_setup_input_device` registers a range for every absolute axis of the touchpad, from the
size of the pad and the widths of its traces; the decoder scales, clamps and saturates the
same numbers in its own way.  Every value that `elan_rs_emit_absolute` reports for an accepted
report lies in the range of its axis (`elanRsEmitAbsolute_inRange`).

The invariant of the slot loop is `FrameWithin`: the contacts are within the ranges, and the
mask has the bits of those that are active.
-/
import ElanGuardian.ReferenceFrame
import ElanGuardian.InputDevice

open Prog ElanCore ReportShim ReportFormat ReportGrammar InputDevice

namespace AxisRanges

/-! ## Registered ranges -/

def etpMaxPressure : UInt32 := 255
def etpFingerWidth : UInt32 := 15

/-- The limits that `input_set_abs_params` is given. -/
structure AbsRange where
  minimum : Int32
  maximum : Int32
  deriving DecidableEq, Repr

/-- The ranges that `elan_setup_input_device` registers. -/
def elanSetupAbsParams (p : DecodeParams) : AbsAxis → Option AbsRange
  | .mtPositionX => some ⟨0, p.maxX.toInt32⟩
  | .mtPositionY => some ⟨0, p.maxY.toInt32⟩
  | .mtPressure => some ⟨0, etpMaxPressure.toInt32⟩
  | .distance => some ⟨0, 1⟩
  | .toolWidth =>
    if p.reportFeatures &&& featureReportMk ≠ 0 then some ⟨0, etpFingerWidth.toInt32⟩ else none
  | .mtTouchMajor =>
    if p.reportFeatures &&& featureReportMk ≠ 0 then
      some ⟨0, (etpFingerWidth * max p.widthX p.widthY).toInt32⟩
    else none
  | .mtTouchMinor =>
    if p.reportFeatures &&& featureReportMk ≠ 0 then
      some ⟨0, (etpFingerWidth * min p.widthX p.widthY).toInt32⟩
    else none

/-- A range is registered for the axes that the touchpad is set up for, and no others. -/
theorem isSome_elanSetupAbsParams (clickpad middleButton : Bool) (p : DecodeParams)
    (axis : AbsAxis) :
    (elanSetupAbsParams p axis).isSome
      = (elanSetupInputDevice clickpad middleButton p.reportFeatures).axis axis := by
  by_cases h : p.reportFeatures &&& featureReportMk = 0
  · cases axis <;> simp [elanSetupAbsParams, elanSetupInputDevice, h]
  · cases axis <;> simp [elanSetupAbsParams, elanSetupInputDevice, h]

/-- The largest value of an axis, as a number. -/
def largest (p : DecodeParams) : AbsAxis → ℕ
  | .mtPositionX => p.maxX.toNat
  | .mtPositionY => p.maxY.toNat
  | .mtPressure => 255
  | .distance => 1
  | .toolWidth => 15
  | .mtTouchMajor => 15 * max p.widthX.toNat p.widthY.toNat
  | .mtTouchMinor => 15 * min p.widthX.toNat p.widthY.toNat

/-- A pad whose ranges fit the `int` of the input layer. -/
structure Fits (p : DecodeParams) : Prop where
  maxX : p.maxX.toNat < 2 ^ 31
  maxY : p.maxY.toNat < 2 ^ 31
  area : 15 * max p.widthX.toNat p.widthY.toNat < 2 ^ 31

/-- The value lies in the range that is registered for its axis, which is from 0 to the
largest value. -/
def InAdvertised (p : DecodeParams) (axis : AbsAxis) (value : Int32) : Prop :=
  ∃ range, elanSetupAbsParams p axis = some range ∧ range.minimum.toInt = 0
    ∧ range.maximum.toInt = largest p axis ∧ 0 ≤ value.toInt ∧ value.toInt ≤ largest p axis

section Ranges

variable {p : DecodeParams} {axis : AbsAxis} {range : AbsRange}

/-- The range of every axis ends below `2 ^ 31`. -/
theorem largest_lt (hfits : Fits p) (axis : AbsAxis) : largest p axis < 2 ^ 31 := by
  have hmin : min p.widthX.toNat p.widthY.toNat ≤ max p.widthX.toNat p.widthY.toNat := min_le_max
  have harea := hfits.area
  cases axis with
  | mtPositionX => exact hfits.maxX
  | mtPositionY => exact hfits.maxY
  | mtTouchMajor => exact harea
  | mtTouchMinor =>
    show 15 * min p.widthX.toNat p.widthY.toNat < 2 ^ 31
    omega
  | mtPressure => show 255 < 2 ^ 31; omega
  | toolWidth => show 15 < 2 ^ 31; omega
  | distance => show 1 < 2 ^ 31; omega

/-- **The registered limits are the numbers they stand for**: none of them overflows. -/
theorem elanSetupAbsParams_limits (hfits : Fits p) (h : elanSetupAbsParams p axis = some range) :
    range.minimum.toInt = 0 ∧ range.maximum.toInt = largest p axis := by
  have hmul (width : UInt32) (hw : 15 * width.toNat < 2 ^ 31) :
      (etpFingerWidth * width).toInt32.toInt = (15 * width.toNat : ℕ) := by
    have hnat : (etpFingerWidth * width).toNat = 15 * width.toNat := by
      rw [UInt32.toNat_mul]
      exact Nat.mod_eq_of_lt (by show 15 * width.toNat < 2 ^ 32; omega)
    rw [Words.toInt32_toInt (by omega), hnat]
  have hlt := largest_lt hfits axis
  cases axis with
  | mtPositionX =>
    cases h
    exact ⟨rfl, Words.toInt32_toInt hlt⟩
  | mtPositionY =>
    cases h
    exact ⟨rfl, Words.toInt32_toInt hlt⟩
  | mtPressure =>
    cases h
    exact ⟨rfl, rfl⟩
  | distance =>
    cases h
    exact ⟨rfl, rfl⟩
  | toolWidth =>
    rw [elanSetupAbsParams, Option.ite_none_right_eq_some] at h
    cases h.2
    exact ⟨rfl, rfl⟩
  | mtTouchMajor =>
    rw [elanSetupAbsParams, Option.ite_none_right_eq_some] at h
    cases h.2
    refine ⟨rfl, (hmul _ ?_).trans ?_⟩ <;> rw [Words.max_toNat]
    · exact hlt
    · rfl
  | mtTouchMinor =>
    rw [elanSetupAbsParams, Option.ite_none_right_eq_some] at h
    cases h.2
    refine ⟨rfl, (hmul _ ?_).trans ?_⟩ <;> rw [Words.min_toNat]
    · exact hlt
    · rfl

/-- A word of the frame that is small enough is in the range of its axis. -/
theorem inAdvertised_toInt32 (hfits : Fits p) (haxis : (elanSetupAbsParams p axis).isSome)
    {w : UInt32} (hw : w.toNat ≤ largest p axis) : InAdvertised p axis w.toInt32 := by
  obtain ⟨range, hrange⟩ := Option.isSome_iff_exists.mp haxis
  obtain ⟨hmin, hmax⟩ := elanSetupAbsParams_limits hfits hrange
  have hlt := largest_lt hfits axis
  refine ⟨range, hrange, hmin, hmax, ?_, ?_⟩ <;> rw [Words.toInt32_toInt (by omega)]
  · exact Int.natCast_nonneg _
  · exact_mod_cast hw

end Ranges

/-! ## Contacts within the ranges -/

/-- The word of a contact that is reported on an axis. -/
def contactAxis (c : ElanRsContact) : AbsAxis → Option UInt32
  | .mtPositionX => some c.x
  | .mtPositionY => some c.y
  | .mtPressure => some c.pressure
  | .toolWidth => some c.toolWidth
  | .mtTouchMajor => some c.touchMajor
  | .mtTouchMinor => some c.touchMinor
  | .distance => none

/-- The words of a contact are within the ranges. -/
structure ContactWithin (p : DecodeParams) (c : ElanRsContact) : Prop where
  axes : ∀ axis w, contactAxis c axis = some w → w.toNat ≤ largest p axis
  area : c.touchMinor.toNat ≤ c.touchMajor.toNat

/-- The contacts are within the ranges, and the mask tells which are active. -/
structure FrameWithin (p : DecodeParams) (f : ElanRsFrame) : Prop where
  contact : ∀ slot : Fin maxContacts, ContactWithin p (f.contact slot)
  mask : ∀ slot : Fin maxContacts,
    f.contactMask.toNat.testBit slot = true ↔ (f.contact slot).active ≠ 0

section Contacts

variable {p : DecodeParams} {hp : Bool} {r : Mem} {o n : ℕ} {c : ElanRsContact} {f : ElanRsFrame}
  {slot : Fin maxContacts}

/-- A lifted contact is within the ranges. -/
theorem empty_within : ContactWithin p ElanRsContact.empty := by
  constructor
  · intro axis w h
    cases axis <;> cases h <;> exact Nat.zero_le _
  · exact le_rfl

/-- Whatever the adjustment is, and also if the sum wraps, the pressure is clamped. -/
theorem scaledPressure_le (raw : UInt8) (adjustment : Int32) :
    (scaledPressure raw adjustment).toNat ≤ 255 := by
  -- nothing is asked of the sum: it may have wrapped
  have hclamp : (clampI32 (i32From raw + adjustment) 0 maxPressure).toInt
      = max 0 (min (i32From raw + adjustment).toInt 255) := Words.clampI32_toInt (by decide)
  rw [scaledPressure, Words.toUInt32_toNat (by omega)]
  omega

/-- A nibble times a reduced width is at most 15 times the width. -/
theorem area_le {nibble : UInt32} (h : nibble.toNat ≤ 15) (width : UInt32) :
    (saturatingMul nibble (saturatingSub width fingerWidthReduce)).toNat ≤ 15 * width.toNat := by
  rw [Words.saturatingMul_toNat, Words.saturatingSub_toNat]
  calc min (nibble.toNat * (width.toNat - fingerWidthReduce.toNat)) (2 ^ 32 - 1)
      ≤ nibble.toNat * (width.toNat - fingerWidthReduce.toNat) := min_le_left _ _
    _ ≤ 15 * width.toNat := Nat.mul_le_mul h (Nat.sub_le _ _)

/-- The larger and the smaller area are within the larger one of two bounds. -/
theorem min_le_of_le {a b x y : ℕ} (hx : a ≤ 15 * x) (hy : b ≤ 15 * y) :
    max a b ≤ 15 * max x y ∧ min a b ≤ 15 * min x y := by
  omega

/-- A record on the pad fills a contact that is within the ranges. -/
theorem fillContact_within (hfit : FitsPad hp p r o) (hc : ContactWithin p c) :
    ContactWithin p (fillContact hp p r o slot c) := by
  obtain ⟨hx, hy⟩ := coords_le_iff.mpr hfit
  rw [UInt32.le_iff_toNat_le] at hx
  -- the core reports the distance from the lower edge; a record on the pad is above it
  have hy' := UInt32.toNat_sub_of_le _ _ hy
  have hlow : (mkByte hp r o slot &&& 0x0f).toUInt32.toNat ≤ 15 := by
    rw [UInt8.toNat_toUInt32, low_nibble]
    omega
  have hhigh : (mkByte hp r o slot >>> 4).toUInt32.toNat ≤ 15 := by
    have hbyte := uint8_lt (mkByte hp r o slot)
    rw [ReferenceFrame.high_nibble_toUInt32_toNat]
    omega
  obtain ⟨hmajor, hminor⟩ := min_le_of_le (area_le hlow p.widthX) (area_le hhigh p.widthY)
  rw [← Words.max_toNat] at hmajor
  rw [← Words.min_toNat] at hminor
  unfold fillContact
  by_cases hmk : p.reportFeatures &&& featureReportMk ≠ 0
  · simp only [if_pos hmk]
    constructor
    · intro axis w h
      cases axis <;> cases h
      · exact hx
      · exact hy'.trans_le (Nat.sub_le _ _)
      · exact scaledPressure_le _ _
      · exact hlow
      · exact hmajor
      · exact hminor
    · rw [Words.min_toNat, Words.max_toNat]
      exact min_le_max
  · -- the words of the area stay as they were in the contact
    simp only [if_neg hmk]
    constructor
    · intro axis w h
      cases axis with
      | mtPositionX => cases h; exact hx
      | mtPositionY => cases h; exact hy'.trans_le (Nat.sub_le _ _)
      | mtPressure => cases h; exact scaledPressure_le _ _
      | toolWidth => exact hc.axes .toolWidth w h
      | mtTouchMajor => exact hc.axes .mtTouchMajor w h
      | mtTouchMinor => exact hc.axes .mtTouchMinor w h
      | distance => cases h
    · exact hc.area

/-- A filled contact is active. -/
theorem active_fillContact : (fillContact hp p r o slot c).active = 1 := by
  unfold fillContact
  split_ifs <;> rfl

/-- Setting the bit of a slot changes the mask at that slot only. -/
theorem testBit_mask_or (mask : UInt32) (slot other : Fin maxContacts) :
    (mask ||| (1 <<< UInt32.ofNat slot)).toNat.testBit other
      = (mask.toNat.testBit other || decide (other = slot)) := by
  have hbit : (1 <<< UInt32.ofNat slot : UInt32).toNat = 2 ^ slot.val := by
    -- five slots, so that no shift is reduced
    obtain ⟨slot, hslot⟩ := slot
    have : slot < 5 := hslot
    interval_cases slot <;> rfl
  have hval : slot.val = other.val ↔ other = slot := eq_comm.trans Fin.ext_iff.symm
  rw [UInt32.toNat_or, Nat.testBit_or, hbit, Nat.testBit_two_pow, decide_eq_decide.mpr hval]

/-- **One slot**: filling its contact keeps the frame within the ranges. -/
theorem putContact_within (hfit : FitsPad hp p r o) (hf : FrameWithin p f) :
    FrameWithin p (putContact hp p r o slot f) := by
  constructor
  · intro other
    show ContactWithin p (f.contacts.set slot _)[other]
    by_cases h : other = slot
    · subst h
      simpa using fillContact_within hfit (hf.contact other)
    · have hne : slot.val ≠ other.val := fun hval => h (Fin.ext hval.symm)
      simpa [Vector.getElem_set, hne] using hf.contact other
  · intro other
    show (f.contactMask ||| (1 <<< UInt32.ofNat slot)).toNat.testBit other = true
      ↔ (f.contacts.set slot _)[other].active ≠ 0
    rw [testBit_mask_or]
    by_cases h : other = slot
    · subst h
      simp [active_fillContact]
    · have hne : slot.val ≠ other.val := fun hval => h (Fin.ext hval.symm)
      simpa [Vector.getElem_set, hne, h] using hf.mask other

/-- The slot loop keeps the frame within the ranges. -/
theorem foldl_within (slots : List (Fin maxContacts)) (hf : FrameWithin p f) :
    FrameWithin p (slots.foldl (fun f (s : Fin maxContacts) =>
      if Touching hp p r s then putContact hp p r (recordAt (r 3) s) s f else f) f) := by
  induction slots generalizing f with
  | nil => exact hf
  | cons slot slots ih =>
    rw [List.foldl_cons]
    apply ih
    split_ifs with htouch
    · exact putContact_within (inRange_iff_fitsPad.mp htouch.2) hf
    · exact hf

/-- A frame without contacts is within the ranges. -/
theorem frameWithin_of_empty (hmask : f.contactMask = 0)
    (hcontacts : f.contacts = Vector.replicate maxContacts ElanRsContact.empty) :
    FrameWithin p f := by
  constructor
  · intro slot
    rw [ElanRsFrame.contact, hcontacts]
    simpa using empty_within
  · intro slot
    rw [hmask, ElanRsFrame.contact, hcontacts]
    simp [ElanRsContact.empty]

/-- The decoder leaves a frame within the ranges when it accepts an absolute report. -/
theorem decodeAbsolute_within (hwf : WellFormedAbsolute hp p r n) :
    FrameWithin p ((decodeAbsolute r n hp p).run ElanRsFrame.empty).state := by
  have hlen : 3 < n := hwf.1
  rw [(run_decodeAbsolute hlen).2,
    state_decodeSlots 5 0 rfl _ ((wellFormedAbsolute_iff hwf.1).mp hwf)]
  exact foldl_within _ (frameWithin_of_empty rfl rfl)

/-- A trackpoint report leaves a frame without contacts. -/
theorem decodeTrackpoint_within (hlen : 9 ≤ n) :
    FrameWithin p ((decodeTrackpoint r n).run ElanRsFrame.empty).state := by
  rw [(run_decodeTrackpoint hlen).2, trackpointMotion]
  split_ifs
  · exact frameWithin_of_empty rfl rfl
  · exact frameWithin_of_empty rfl rfl

/-- **Every accepted report leaves a frame within the ranges.** -/
theorem decodeReport_within (hwf : WellFormed p r n) (out : ElanRsFrame) :
    FrameWithin p ((decodeReport r n p).run out).state := by
  have hlen : 2 < n := by
    by_contra hshort
    exact not_wellFormed_of_le (by omega) hwf
  rw [(run_decodeReport hlen out).2]
  rcases hwf with ⟨hid, hwf⟩ | ⟨hid, hwf⟩ | ⟨hid, hwf⟩
  · rw [decodeById_of_trackpoint hid]
    exact decodeTrackpoint_within hwf
  · rw [decodeById_of_5d hid]
    exact decodeAbsolute_within hwf
  · rw [decodeById_of_60 hid]
    exact decodeAbsolute_within hwf

end Contacts

/-! ## What is reported -/

section Reported

variable {σ : Type} {p : DecodeParams} {trackpoint : Bool} {c : ElanRsContact} {f : ElanRsFrame}
  {slot : Fin maxContacts}

/-- What holds of the value of an event holds of the call that reports it. -/
theorem inputReport_reports {Q : AbsAxis → Int32 → Prop} {dev : InputDev} {event : InputEvent}
    (h : ∀ axis value, event = .abs axis value → Q axis value) :
    Only (fun call => ∀ dev axis value, call = .input dev (.abs axis value) → Q axis value)
      (inputReport dev event : Prog σ Call Unit) := by
  apply Only.emit
  rintro dev axis value ⟨⟩
  exact h axis value rfl

/-- The values reported in a slot are the words of its contact, on registered axes. -/
def ReportsContact (p : DecodeParams) (c : ElanRsContact) (call : Call) : Prop :=
  ∀ dev axis value, call = .input dev (.abs axis value) →
    (elanSetupAbsParams p axis).isSome ∧ ∃ w, contactAxis c axis = some w ∧ value = w.toInt32

/-- The events of a contact report its fields, each on its own axis. -/
theorem elanRsEmitContact_reportsContact (hfeat : p.reportFeatures = 0 ∨ p.reportFeatures = 1) :
    Only (ReportsContact p c)
      (elanRsEmitContact ⟨p, trackpoint⟩ slot c : Prog σ Call Unit) := by
  have hword (axis : AbsAxis) (w : UInt32) (haxis : (elanSetupAbsParams p axis).isSome)
      (hw : contactAxis c axis = some w) :
      Only (ReportsContact p c)
        (inputReport .touchpad (.abs axis w.toInt32) : Prog σ Call Unit) := by
    apply inputReport_reports
    rintro axis value ⟨⟩
    exact ⟨haxis, w, hw, rfl⟩
  -- a slot that is not active has nothing but its number and its state
  refine Only.bind (inputReport_reports nofun) fun _ =>
    Only.ite (fun _ => inputReport_reports nofun) fun _ => ?_
  refine Only.bind (inputReport_reports nofun) fun _ => ?_
  refine Only.bind (hword .mtPositionX _ rfl rfl) fun _ => ?_
  refine Only.bind (hword .mtPositionY _ rfl rfl) fun _ => ?_
  refine Only.bind (hword .mtPressure _ rfl rfl) fun _ => ?_
  refine Only.ite (fun hmk => ?_) fun _ => Only.pure _
  have hone : p.reportFeatures = 1 := hfeat.resolve_left hmk
  have harea (axis : AbsAxis) (haxis : axis ∈ [AbsAxis.toolWidth, .mtTouchMajor, .mtTouchMinor]) :
      (elanSetupAbsParams p axis).isSome := by
    simp only [List.mem_cons, List.not_mem_nil, or_false] at haxis
    rcases haxis with rfl | rfl | rfl <;> simp [elanSetupAbsParams, hone, featureReportMk]
  refine Only.bind (hword .toolWidth _ (harea _ (by simp)) rfl) fun _ => ?_
  refine Only.bind (hword .mtTouchMajor _ (harea _ (by simp)) rfl) fun _ => ?_
  exact hword .mtTouchMinor _ (harea _ (by simp)) rfl

/-- Every value of the call lies in the range of its axis. -/
def ReportsInRange (p : DecodeParams) (call : Call) : Prop :=
  ∀ dev axis value, call = .input dev (.abs axis value) → InAdvertised p axis value

/-- So they are in range if the contact is. -/
theorem elanRsEmitContact_inRange (hfits : Fits p)
    (hfeat : p.reportFeatures = 0 ∨ p.reportFeatures = 1) (hc : ContactWithin p c) :
    Only (ReportsInRange p) (elanRsEmitContact ⟨p, trackpoint⟩ slot c : Prog σ Call Unit) := by
  intro s call hcall dev axis value habs
  obtain ⟨haxis, w, hw, rfl⟩ :=
    elanRsEmitContact_reportsContact hfeat s call hcall dev axis value habs
  exact inAdvertised_toInt32 hfits haxis (hc.axes axis w hw)

/-- And so are the events of all slots. -/
theorem elanRsEmitContacts_inRange (hfits : Fits p)
    (hfeat : p.reportFeatures = 0 ∨ p.reportFeatures = 1) (hf : FrameWithin p f)
    (slots : List (Fin maxContacts)) :
    Only (ReportsInRange p) (elanRsEmitContacts ⟨p, trackpoint⟩ f slots : Prog σ Call Unit) := by
  induction slots with
  | nil => exact Only.pure _
  | cons slot slots ih =>
    exact Only.bind (elanRsEmitContact_inRange hfits hfeat (hf.contact slot)) fun _ => ih

/-- **A frame within the ranges is reported within the ranges.** -/
theorem elanRsEmitAbsolute_reportsInRange (hfits : Fits p)
    (hfeat : p.reportFeatures = 0 ∨ p.reportFeatures = 1) (hf : FrameWithin p f) :
    Only (ReportsInRange p) (elanRsEmitAbsolute ⟨p, trackpoint⟩ f : Prog σ Call Unit) := by
  have hdistance : Only (ReportsInRange p) (inputReport .touchpad
      (.abs .distance (if f.hover ≠ 0 then 1 else 0)) : Prog σ Call Unit) := by
    apply inputReport_reports
    rintro axis value ⟨⟩
    refine ⟨⟨0, 1⟩, rfl, rfl, rfl, ?_⟩
    split_ifs <;> exact ⟨by decide, by simp [largest]⟩
  refine Only.bind (Only.emit fun dev axis value hcall => by cases hcall) fun _ => ?_
  refine Only.bind (elanRsEmitContacts_inRange hfits hfeat hf _) fun _ => ?_
  -- the buttons have no values
  refine Only.bind (inputReport_reports nofun) fun _ => ?_
  refine Only.bind (inputReport_reports nofun) fun _ => ?_
  refine Only.bind (inputReport_reports nofun) fun _ => ?_
  refine Only.bind hdistance fun _ => ?_
  exact Only.bind (inputReport_reports nofun) fun _ => inputReport_reports nofun

/-- In no slot is the minor axis longer than the major one. -/
theorem minor_le_major (hfits : Fits p)
    (hfeat : p.reportFeatures = 0 ∨ p.reportFeatures = 1) (hc : ContactWithin p c) (s : σ)
    (dev : InputDev) (major minor : Int32)
    (hmajor : .input dev (.abs .mtTouchMajor major)
      ∈ ((elanRsEmitContact ⟨p, trackpoint⟩ slot c).run s).trace)
    (hminor : .input dev (.abs .mtTouchMinor minor)
      ∈ ((elanRsEmitContact ⟨p, trackpoint⟩ slot c).run s).trace) :
    minor.toInt ≤ major.toInt := by
  have hreports : ∀ call ∈ ((elanRsEmitContact ⟨p, trackpoint⟩ slot c).run s).trace,
      ReportsContact p c call := elanRsEmitContact_reportsContact hfeat s
  obtain ⟨-, w, hw, rfl⟩ := hreports _ hmajor dev .mtTouchMajor major rfl
  obtain ⟨-, v, hv, rfl⟩ := hreports _ hminor dev .mtTouchMinor minor rfl
  cases hw
  cases hv
  have hlt := largest_lt hfits .mtTouchMajor
  have hle := hc.axes .mtTouchMajor _ rfl
  have harea := hc.area
  rw [Words.toInt32_toInt (by omega), Words.toInt32_toInt (by omega)]
  exact_mod_cast harea

end Reported

/-- **What is reported stays inside the advertised axes.**  Of every accepted report, whatever
its bytes, the pad and the pressure adjustment are: each absolute value that is reported lies
between 0 and the limit registered for its axis, in each slot the minor axis is at most the
major one, and the mask has the bits of the active contacts. -/
theorem elanRsEmitAbsolute_inRange {σ : Type} (p : DecodeParams) (trackpoint : Bool)
    (report : Option Mem) (n : ℕ) (out : Option ElanRsFrame) (f : ElanRsFrame) (s : σ)
    (hvalue : (elanRsDecodeReport report n p out).value = 0)
    (hstate : (elanRsDecodeReport report n p out).state = some f)
    (hmaxX : p.maxX.toNat < 2 ^ 31) (hmaxY : p.maxY.toNat < 2 ^ 31)
    (hwidth : 15 * max p.widthX.toNat p.widthY.toNat < 2 ^ 31)
    (hfeat : p.reportFeatures = 0 ∨ p.reportFeatures = 1) :
    (∀ dev axis value, .input dev (.abs axis value)
        ∈ ((elanRsEmitAbsolute ⟨p, trackpoint⟩ f).run s).trace → InAdvertised p axis value)
      ∧ (∀ slot : Fin maxContacts, ∀ dev major minor,
        .input dev (.abs .mtTouchMajor major)
            ∈ ((elanRsEmitContact ⟨p, trackpoint⟩ slot (f.contact slot)).run s).trace →
          .input dev (.abs .mtTouchMinor minor)
            ∈ ((elanRsEmitContact ⟨p, trackpoint⟩ slot (f.contact slot)).run s).trace →
          minor.toInt ≤ major.toInt)
      ∧ ∀ slot : Fin maxContacts,
        f.contactMask.toNat.testBit slot = true ↔ (f.contact slot).active ≠ 0 := by
  have hfits : Fits p := ⟨hmaxX, hmaxY, hwidth⟩
  have hf : FrameWithin p f := by
    cases report with
    | none => cases hvalue
    | some r =>
      cases out with
      | none => cases hvalue
      | some out =>
        rw [← Option.some.inj hstate]
        exact decodeReport_within ((decodeReport_accepts_iff p r n out).mp hvalue) out
  constructor
  · intro dev axis value hmem
    exact elanRsEmitAbsolute_reportsInRange hfits hfeat hf s _ hmem dev axis value rfl
  constructor
  · intro slot dev major minor hmajor hminor
    exact minor_le_major hfits hfeat (hf.contact slot) s dev major minor hmajor hminor
  · exact hf.mask

/-- The two fingers of `twoFingers`, in slots 1 and 3 of a pad 4095 wide. -/
theorem elanRsEmitAbsolute_inRange_twoFingers :
    ∃ f, (elanRsDecodeReport (some ReferenceFrame.twoFingers) 34 ReferenceFrame.padParams
        (some ElanRsFrame.empty)).state = some f
      ∧ f.contactMask = 10
      ∧ ∀ dev value, .input dev (.abs .mtTouchMajor value)
        ∈ ((elanRsEmitAbsolute ⟨ReferenceFrame.padParams, false⟩ f).run ()).trace →
          value.toInt ≤ 1800 := by
  have hvalue : (elanRsDecodeReport (some ReferenceFrame.twoFingers) 34 ReferenceFrame.padParams
      (some ElanRsFrame.empty)).value = 0 := by decide +kernel
  obtain ⟨hrange, -, -⟩ := elanRsEmitAbsolute_inRange ReferenceFrame.padParams false
    (some ReferenceFrame.twoFingers) 34 (some ElanRsFrame.empty) _ () hvalue rfl (by decide)
    (by decide) (by decide) (Or.inr rfl)
  refine ⟨_, rfl, by decide +kernel, fun dev value hmem => ?_⟩
  obtain ⟨range, -, -, -, -, hle⟩ := hrange dev .mtTouchMajor value hmem
  exact hle

end AxisRanges
