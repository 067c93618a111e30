/-
# The C report path that the Rust core replaced

`elan_report_contact`, `elan_report_absolute` and `elan_report_trackpoint` still
stand in `elan_i2c_core.c`, unused; the `switch` that dispatched to them is in the
lines that the sibling patch removes from `elan_isr`.  All arithmetic is C's: the
coordinates and areas are `unsigned int` and wrap, motion is computed in `int`.
-/
import ElanGuardian.ReportShim

open Prog ElanCore ReportShim

namespace LegacyReport

def etpMaxPressure : UInt32 := 255
def etpFwidthReduce : UInt32 := 90

variable {σ : Type}

/-- `get_unaligned_be16`. -/
def getUnalignedBe16 (b0 b1 : UInt8) : UInt32 := (b0.toUInt32 <<< 8) ||| b1.toUInt32

/-- `pos_x` and `pos_y`. -/
def position (highPrecision : Bool) (packet : Mem) (fingerData : ℕ) : UInt32 × UInt32 :=
  if highPrecision then
    (getUnalignedBe16 (packet fingerData) (packet (fingerData + 1)),
      getUnalignedBe16 (packet (fingerData + 2)) (packet (fingerData + 3)))
  else
    ((((packet fingerData).toUInt32 &&& 0xf0) <<< 4) ||| (packet (fingerData + 1)).toUInt32,
      (((packet fingerData).toUInt32 &&& 0x0f) <<< 8) ||| (packet (fingerData + 2)).toUInt32)

/-- `scaled_pressure`; the sum is `unsigned`. -/
def scaledPressure (raw : UInt8) (adjustment : Int32) : UInt32 :=
  let scaled := raw.toUInt32 + adjustment.toUInt32
  if scaled > etpMaxPressure then etpMaxPressure else scaled

/-- `mk_data`. -/
def mkData (highPrecision : Bool) (packet : Mem) (fingerData contactNum : ℕ) : UInt8 :=
  if highPrecision then packet (mkDataOffset + contactNum) else packet (fingerData + 3)

/-- `mk * (width - ETP_FWIDTH_REDUCE)`, in `unsigned int`. -/
def area (mk width : UInt32) : UInt32 := mk * (width - etpFwidthReduce)

/-- The area events of a contact. -/
def reportArea (data : ElanRsReportContext) (mk : UInt8) : Prog σ Call Unit := do
  let mkX := mk.toUInt32 &&& 0x0f
  let mkY := mk.toUInt32 >>> 4
  let areaX := area mkX data.widthX
  let areaY := area mkY data.widthY
  inputReport .touchpad (.abs .toolWidth mkX.toInt32)
  inputReport .touchpad (.abs .mtTouchMajor (max areaX areaY).toInt32)
  inputReport .touchpad (.abs .mtTouchMinor (min areaX areaY).toInt32)

/-- `elan_report_contact`; `fingerData` is an offset into `packet`. -/
def elanReportContact (data : ElanRsReportContext) (contactNum : ℕ) (contactValid : Bool)
    (highPrecision : Bool) (packet : Mem) (fingerData : ℕ) : Prog σ Call Unit :=
  if contactValid then
    let pos := position highPrecision packet fingerData
    if pos.1 > data.maxX ∨ pos.2 > data.maxY then pure ()
    else do
      inputReport .touchpad (.mtSlot contactNum)
      inputReport .touchpad (.mtSlotState true)
      inputReport .touchpad (.abs .mtPositionX pos.1.toInt32)
      inputReport .touchpad (.abs .mtPositionY (data.maxY - pos.2).toInt32)
      inputReport .touchpad (.abs .mtPressure
        (scaledPressure (packet (fingerData + 4)) data.pressureAdjustment).toInt32)
      if data.reportFeatures &&& featureReportMk ≠ 0 then
        reportArea data (mkData highPrecision packet fingerData contactNum)
      else pure ()
  else do
    inputReport .touchpad (.mtSlot contactNum)
    inputReport .touchpad (.mtSlotState false)

/-- The loop of `elan_report_absolute`. -/
def elanReportContacts (data : ElanRsReportContext) (packet : Mem) (highPrecision : Bool)
    (tpInfo : UInt8) : List (Fin maxContacts) → ℕ → Prog σ Call Unit
  | [], _ => pure ()
  | i :: slots, fingerData => do
    let contactValid := declared tpInfo i
    elanReportContact data i contactValid highPrecision packet fingerData
    elanReportContacts data packet highPrecision tpInfo slots
      (if contactValid then fingerData + fingerDataLen else fingerData)

def elanReportAbsolute (data : ElanRsReportContext) (packet : Mem) (highPrecision : Bool) :
    Prog σ Call Unit := do
  emit .pmWakeupEvent
  let tpInfo := packet touchInfoOffset
  let hoverEvent : Bool := packet hoverInfoOffset &&& 0x40 ≠ 0
  elanReportContacts data packet highPrecision tpInfo (List.finRange maxContacts)
    fingerDataOffset
  inputReport .touchpad (.key .btnLeft (bit tpInfo.toUInt32 0))
  inputReport .touchpad (.key .btnMiddle (bit tpInfo.toUInt32 2))
  inputReport .touchpad (.key .btnRight (bit tpInfo.toUInt32 1))
  inputReport .touchpad (.abs .distance (if hoverEvent then 1 else 0))
  inputReport .touchpad .pointerEmulation
  inputReport .touchpad .sync

/-- `(b ^ 0x80) << 1`, in `int`. -/
def unbias (b : UInt8) : Int32 := (i32From b ^^^ 0x80) <<< 1

def elanReportTrackpoint (data : ElanRsReportContext) (report : Mem) : Prog σ Call Unit :=
  let packet (i : ℕ) := report (reportIdOffset + 1 + i)
  do
    emit .pmWakeupEvent
    if data.trackpoint = false then pure ()
    else do
      inputReport .trackpoint (.key .btnLeft (packet 0 &&& 0x01 ≠ 0))
      inputReport .trackpoint (.key .btnRight (packet 0 &&& 0x02 ≠ 0))
      inputReport .trackpoint (.key .btnMiddle (packet 0 &&& 0x04 ≠ 0))
      (if packet 3 &&& 0x0f = 0x06 then do
        inputReport .trackpoint (.rel .x (i32From (packet 4) - unbias (packet 1)))
        inputReport .trackpoint (.rel .y (unbias (packet 2) - i32From (packet 5)))
      else pure ())
      inputReport .trackpoint .sync

/-- The dispatch of the old `elan_isr`. -/
def elanReport (data : ElanRsReportContext) (report : Mem) : Prog σ Call Unit :=
  if report reportIdOffset = reportId then elanReportAbsolute data report false
  else if report reportIdOffset = reportId2 then elanReportAbsolute data report true
  else if report reportIdOffset = trackpointReportId
      ∨ report reportIdOffset = trackpointReportId2 then elanReportTrackpoint data report
  else pure ()

end LegacyReport
