/-
# The configured report format against the decoder

At probe time a transport is asked for its pattern and, with the pattern, for the report
features and the report length that the interrupt handler later hands to the decoder.
This file asks whether the decoder takes everything that is then delivered.

It does, with one exception.  An SMBus report is 32 bytes long and has no room for the area
bytes of a high-precision report, which lie from byte 33 on.  The transport knows this and
offers no area for the patterns that have such reports, but `elan_smbus_get_pattern` answers
pattern 0 for every controller, and so area is configured for all of them.
-/
import ElanGuardian.DropIn

open ElanCore ReportFormat ReportGrammar Transport

namespace DeliveredReports

/-! ## The pattern of a controller -/

/-- `elan_i2c_get_pattern`, from the outcome of reading `ETP_I2C_PATTERN_CMD`.  Firmware
without that command answers with two bytes 0xff, which is the old pattern 0. -/
def elanI2cGetPattern (answer : Except ℤ (UInt8 × UInt8)) : Except ℤ UInt8 := do
  let val ← answer
  pure (if val.1 = 0xff ∧ val.2 = 0xff then 0 else val.2)

/-- `elan_smbus_get_pattern`. -/
def elanSmbusGetPattern : Except ℤ UInt8 := pure 0

/-- `data->ops->get_pattern`. -/
def getPattern (bus : Bus) (answer : Except ℤ (UInt8 × UInt8)) : Except ℤ UInt8 :=
  match bus with
  | .i2c => elanI2cGetPattern answer
  | .smbus => elanSmbusGetPattern

/-- The decoder's arguments on a controller whose report features are those of its pattern. -/
def configured (bus : Bus) (pattern : UInt8) (p : DecodeParams) : DecodeParams :=
  { p with reportFeatures := (getReportFeatures bus pattern).1 }

/-! ## What fits a delivered report -/

section Format

variable {bus : Bus} {pattern : UInt8} {p : DecodeParams} {r : Mem}

/-- An id byte that the decoder knows. -/
def KnownId (r : Mem) : Prop := r 2 = 0x5d ∨ r 2 = 0x5e ∨ r 2 = 0x5f ∨ r 2 = 0x60

/-- A high-precision report over SMBus in which a finger is on the pad. -/
def HighPrecisionTouch (bus : Bus) (p : DecodeParams) (r : Mem) : Prop :=
  bus = .smbus ∧ r 2 = 0x60 ∧ ∃ s < 5, Touching true p r s

/-- Coordinates are compared with the limits of the pad only. -/
theorem touching_configured {hp : Bool} {s : ℕ} :
    Touching hp (configured bus pattern p) r s ↔ Touching hp p r s := Iff.rfl

/-- Only a high-precision report over SMBus can be short of its area bytes. -/
theorem wellFormed_of_not_highPrecision (hid : KnownId r) (hi2c : bus = .i2c → 2 ≤ pattern)
    (h : ¬ (bus = .smbus ∧ r 2 = 0x60)) : WellFormed p r (reportLen bus pattern) := by
  have hread : DropIn.OldPathReads bus pattern r := by
    rcases hid with hid | hid | hid | hid
    · exact Or.inl hid
    · exact Or.inr (Or.inl hid)
    · exact Or.inr (Or.inr (Or.inl hid))
    · cases bus with
      | i2c => exact Or.inr (Or.inr (Or.inr ⟨hid, rfl, hi2c rfl⟩))
      | smbus => exact absurd ⟨rfl, hid⟩ h
  exact hread.wellFormed p

/-- All records fit an SMBus report, so that the area bytes alone decide. -/
theorem wellFormed_smbus_iff (hid : r 2 = 0x60) :
    WellFormed p r (reportLen .smbus pattern)
      ↔ (p.reportFeatures &&& 1 ≠ 0 → ∀ s < 5, ¬ Touching true p r s) := by
  have hrank := rank_le (r 3) 5
  have hlen : reportLen .smbus pattern = 32 := rfl
  have h5d : r 2 ≠ 0x5d := by rw [hid]; decide
  have htp : ¬ (r 2 = 0x5e ∨ r 2 = 0x5f) := by rw [hid]; decide
  rw [hlen]
  constructor
  · rintro (⟨h, -⟩ | ⟨h, -⟩ | ⟨-, -, -, hmk⟩)
    · exact absurd h htp
    · exact absurd h h5d
    · intro hfeat s hs ht
      have := hmk rfl hfeat s hs ht.1 ht.2
      omega
  · intro h
    refine Or.inr (Or.inr ⟨hid, by omega, by omega, ?_⟩)
    intro _ hfeat s hs hd hin
    exact absurd ⟨hd, hin⟩ (h hfeat s hs)

/-- A controller with pattern 2 or above would be configured without area, and no report
of it would be refused. -/
theorem wellFormed_smbus_of_two_le (hid : KnownId r) (hpattern : 2 ≤ pattern) :
    WellFormed (configured .smbus pattern p) r (reportLen .smbus pattern) := by
  by_cases h60 : r 2 = 0x60
  · rw [wellFormed_smbus_iff h60]
    have hnone : (configured .smbus pattern p).reportFeatures = 0 :=
      if_neg (not_le_one hpattern)
    intro hfeat
    rw [hnone] at hfeat
    exact absurd rfl hfeat
  · exact wellFormed_of_not_highPrecision hid (fun h => by cases h) fun h => h60 h.2

/-- The reports that a controller may deliver and that the decoder takes. -/
theorem wellFormed_configured_iff {answer : Except ℤ (UInt8 × UInt8)}
    (hpattern : getPattern bus answer = .ok pattern) (hi2c : bus = .i2c → 2 ≤ pattern)
    (hid : KnownId r) :
    WellFormed (configured bus pattern p) r (reportLen bus pattern)
      ↔ ¬ HighPrecisionTouch bus p r := by
  by_cases hhp : bus = .smbus ∧ r 2 = 0x60
  · obtain ⟨rfl, h60⟩ := hhp
    have hzero : pattern = 0 := by
      have h : (pure 0 : Except ℤ UInt8) = .ok pattern := hpattern
      exact (Except.ok.inj h).symm
    have hfeat : (configured .smbus pattern p).reportFeatures &&& 1 ≠ 0 := by
      rw [hzero]
      show (1 : UInt32) &&& 1 ≠ 0
      decide
    rw [wellFormed_smbus_iff h60]
    constructor
    · rintro h ⟨-, -, s, hs, ht⟩
      exact h hfeat s hs (touching_configured.mpr ht)
    · intro h _ s hs ht
      exact h ⟨rfl, h60, s, hs, touching_configured.mp ht⟩
  · have hno : ¬ HighPrecisionTouch bus p r := fun h => hhp ⟨h.1, h.2.1⟩
    exact iff_of_true (wellFormed_of_not_highPrecision hid hi2c hhp) hno

end Format

/-! ## Delivered reports -/

/-- **A delivered report is decoded unless it is a high-precision touch over SMBus.**  For
every report that a transport accepts under the format configured for its pattern and whose
id is known, and for every size of the pad, the decoder returns 0 exactly if the report is
not a high-precision report over SMBus with a finger on the pad. -/
theorem delivered_decoded_iff (bus : Bus) (answer : Except ℤ (UInt8 × UInt8)) (pattern : UInt8)
    (hpattern : getPattern bus answer = .ok pattern) (hi2c : bus = .i2c → 2 ≤ pattern)
    (report r : Mem) (xfer : Xfer (reportLen bus pattern) bus) (p : DecodeParams)
    (out : ElanRsFrame) :
    getReport bus report (reportLen bus pattern) xfer = (0, r) →
      (r 2 = 0x5d ∨ r 2 = 0x5e ∨ r 2 = 0x5f ∨ r 2 = 0x60) →
        ((elanRsDecodeReport (some r) (reportLen bus pattern) (configured bus pattern p)
            (some out)).value = 0
          ↔ ¬ (bus = .smbus ∧ r 2 = 0x60 ∧ ∃ s < 5, Touching true p r s)) := by
  intro _ hid
  have haccepts : (elanRsDecodeReport (some r) (reportLen bus pattern) (configured bus pattern p)
        (some out)).value = 0
      ↔ WellFormed (configured bus pattern p) r (reportLen bus pattern) :=
    decodeReport_accepts_iff _ r _ out
  rw [haccepts]
  exact wellFormed_configured_iff hpattern hi2c hid

/-- Five fingers in a high-precision report of 39 bytes. -/
def fiveFingers : Vector UInt8 39 :=
  Vector.ofFn fun i => if i = (2 : Fin 39) then 0x60 else if i = (3 : Fin 39) then 0xf8 else 0x0f

/-- A full report of five fingers is decoded. -/
theorem delivered_decoded_fiveFingers :
    (elanRsDecodeReport (some (overlay (fun _ => 0) 0 (I2cRecv.full fiveFingers).written)) 39
      (configured .i2c 2 ⟨0xffff, 0xffff, 110, 120, 25, 0⟩) (some ElanRsFrame.empty)).value = 0 :=
  (delivered_decoded_iff .i2c (.ok (0, 2)) 2 rfl (fun _ => by decide) (fun _ => 0) _
    (.full fiveFingers) ⟨0xffff, 0xffff, 110, 120, 25, 0⟩ ElanRsFrame.empty rfl (by decide)).mpr
    (fun h => by cases h.1)

/-- A high-precision report over SMBus with one finger, in slot 0. -/
def oneFinger : SmbusBlock := .block (0x60 :: 0x08 :: List.replicate 30 0) (by decide)

/-- **One finger is thrown away.**  The SMBus transport accepts the report, and the decoder
refuses it for the area byte 33 of a report of 32 bytes. -/
theorem delivered_not_decoded :
    ¬ ∀ (bus : Bus) (answer : Except ℤ (UInt8 × UInt8)) (pattern : UInt8),
      getPattern bus answer = .ok pattern → (bus = .i2c → 2 ≤ pattern) →
      ∀ (report r : Mem) (xfer : Xfer (reportLen bus pattern) bus) (p : DecodeParams)
        (out : ElanRsFrame),
        getReport bus report (reportLen bus pattern) xfer = (0, r) →
        (r 2 = 0x5d ∨ r 2 = 0x5e ∨ r 2 = 0x5f ∨ r 2 = 0x60) →
        (elanRsDecodeReport (some r) (reportLen bus pattern) (configured bus pattern p)
          (some out)).value = 0 := by
  intro h
  have hdecoded := h .smbus (.ok (0, 0)) 0 rfl (fun h => by cases h) (fun _ => 0)
    (overlay (fun _ => 0) 2 oneFinger.written) oneFinger ⟨1000, 1000, 110, 120, 25, 0⟩
    ElanRsFrame.empty rfl (by decide)
  revert hdecoded
  decide +kernel

end DeliveredReports
