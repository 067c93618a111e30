/-
# The Rust core: report decoder, watchdog policy, recovery sequence

The functions of `kernel/rust-shim/elan_core.rs`, under their own names.  The
report decoder writes through `out: *mut ElanRsFrame` and reads the report
through a raw pointer, so it is a `Prog` over the frame whose effects are the
accesses the code makes: every `ptr::read`, and every `unwrap_or(0)` that had to
supply its default.

Machine integers are Lean's own (`UInt8`, `UInt32`, `Int32`, all wrapping, as in
the kernel build, which is compiled with `overflow-checks=no`); `usize` offsets
and lengths are `ℕ`, and status codes are `ℤ`.
-/
import Mathlib.Data.Vector.Basic
import Mathlib.Data.List.FinRange
import ElanGuardian.Prog
import ElanGuardian.Words

namespace ElanCore

/-! ## Constants -/

def abiVersion : UInt32 := 1
def maxContacts : ℕ := 5

def reportIdOffset : ℕ := 2
def touchInfoOffset : ℕ := 3
def fingerDataOffset : ℕ := 4
def hoverInfoOffset : ℕ := 30
def mkDataOffset : ℕ := 33
def fingerDataLen : ℕ := 5

def reportId : UInt8 := 0x5d
def trackpointReportId : UInt8 := 0x5e
def trackpointReportId2 : UInt8 := 0x5f
def reportId2 : UInt8 := 0x60

def featureReportMk : UInt32 := 1
def maxPressure : Int32 := 255
def fingerWidthReduce : UInt32 := 90

def frameAbsolute : UInt32 := 1
def frameTrackpoint : UInt32 := 2

def watchdogDisarmed : UInt32 := 0
def watchdogObserve : UInt32 := 1
def watchdogRecover : UInt32 := 2

def recoveryIdle : UInt32 := 0
def recoveryReleaseInput : UInt32 := 1
def recoveryReinitialize : UInt32 := 2
def recoveryVerify : UInt32 := 3
def recoveryRestoreMode : UInt32 := 4
def recoveryComplete : UInt32 := 5
def recoveryFailed : UInt32 := 6

/-- `-EINVAL`. -/
def einval : ℤ := -22

/-- `-EPROTO`. -/
def eproto : ℤ := -71

/-! ## Frames -/

structure ElanRsContact where
  active : UInt32
  x : UInt32
  y : UInt32
  pressure : UInt32
  toolWidth : UInt32
  touchMajor : UInt32
  touchMinor : UInt32
  deriving DecidableEq, Repr

/-- `ElanRsContact::EMPTY`. -/
def ElanRsContact.empty : ElanRsContact := ⟨0, 0, 0, 0, 0, 0, 0⟩

structure ElanRsFrame where
  kind : UInt32
  buttons : UInt32
  hover : UInt32
  contactMask : UInt32
  contacts : Vector ElanRsContact maxContacts
  relX : Int32
  relY : Int32
  relValid : UInt32
  deriving DecidableEq, Repr

/-- `ElanRsFrame::EMPTY`, which is also what writing zero to all 42 words leaves. -/
def ElanRsFrame.empty : ElanRsFrame :=
  ⟨0, 0, 0, 0, Vector.replicate maxContacts ElanRsContact.empty, 0, 0, 0⟩

/-- `frame->contacts[slot]`. -/
abbrev ElanRsFrame.contact (frame : ElanRsFrame) (slot : Fin maxContacts) : ElanRsContact :=
  frame.contacts[slot]

/-! ## Reading the report -/

/-- The bytes at and after a report pointer. -/
abbrev Mem := ℕ → UInt8

/-- What the decoder does besides computing. -/
inductive Access where
  /-- `ptr::read(report.add(offset))` -/
  | read (offset : ℕ)
  /-- an `unwrap_or(0)` that found `None` -/
  | defaulted
  deriving DecidableEq, Repr

/-- Decoder code: it mutates the frame and accesses the report. -/
abbrev Decode := Prog ElanRsFrame Access

open Prog

/-- `read_byte`: `None` from `report_len` on, otherwise one raw read. -/
def readByte (report : Mem) (reportLen offset : ℕ) : Decode (Option UInt8) :=
  if offset ≥ reportLen then pure none
  else do
    emit (.read offset)
    pure (some (report offset))

/-- `Option::unwrap_or(0)`. -/
def unwrapOrZero : Option UInt8 → Decode UInt8
  | some v => pure v
  | none => do
    emit .defaulted
    pure 0

/-- `read_byte(..).unwrap_or(0)`. -/
def readByteOrZero (report : Mem) (reportLen offset : ℕ) : Decode UInt8 := do
  let v ← readByte report reportLen offset
  unwrapOrZero v

def scaledPressure (raw : UInt8) (adjustment : Int32) : UInt32 :=
  (clampI32 (i32From raw + adjustment) 0 maxPressure).toUInt32

/-! ## Absolute reports -/

/-- The scalar arguments of `elan_rs_decode_report`. -/
structure DecodeParams where
  maxX : UInt32
  maxY : UInt32
  widthX : UInt32
  widthY : UInt32
  pressureAdjustment : Int32
  reportFeatures : UInt32
  deriving DecidableEq, Repr

/-- `tp_info & (1 << (3 + slot)) != 0`: the report declares a contact in `slot`. -/
def declared (tpInfo : UInt8) (slot : Fin maxContacts) : Bool :=
  tpInfo &&& (1 <<< UInt8.ofNat (3 + slot)) != 0

/-- The coordinates held by the first four bytes of a finger record. -/
def recordCoords (highPrecision : Bool) (b0 b1 b2 b3 : UInt8) : UInt32 × UInt32 :=
  if highPrecision then
    ((b0.toUInt32 <<< 8) ||| b1.toUInt32, (b2.toUInt32 <<< 8) ||| b3.toUInt32)
  else
    (((b0 &&& 0xf0).toUInt32 <<< 4) ||| b1.toUInt32,
      ((b0 &&& 0x0f).toUInt32 <<< 8) ||| b2.toUInt32)

/-- `let contact = &mut frame.contacts[slot]`, with the assignments made to it. -/
def modifyContact (slot : Fin maxContacts) (f : ElanRsContact → ElanRsContact) : Decode Unit :=
  modify fun frame => { frame with contacts := frame.contacts.set slot (f frame.contacts[slot]) }

/-- `let mk = if high_precision { match read_byte(..) } else { b3 }`; `none` is the
early return. -/
def readMk (report : Mem) (reportLen : ℕ) (highPrecision : Bool) (slot : Fin maxContacts)
    (b3 : UInt8) : Decode (Option UInt8) :=
  if highPrecision then readByte report reportLen (mkDataOffset + slot) else pure (some b3)

/-- One finger record: decode its coordinates and, if they are on the pad, fill
the contact.  The result is the status of an early return. -/
def decodeContact (report : Mem) (reportLen : ℕ) (highPrecision : Bool) (p : DecodeParams)
    (slot : Fin maxContacts) (b0 b1 b2 b3 b4 : UInt8) : Decode (Option ℤ) :=
  let x := (recordCoords highPrecision b0 b1 b2 b3).1
  let y := (recordCoords highPrecision b0 b1 b2 b3).2
  if x ≤ p.maxX ∧ y ≤ p.maxY then do
    modifyContact slot fun contact =>
      { contact with
        active := 1
        x := x
        y := p.maxY - y
        pressure := scaledPressure b4 p.pressureAdjustment }
    modify fun frame =>
      { frame with contactMask := frame.contactMask ||| (1 <<< UInt32.ofNat slot) }
    if p.reportFeatures &&& featureReportMk ≠ 0 then do
      let mk ← readMk report reportLen highPrecision slot b3
      match mk with
      | none => pure (some einval)
      | some mk => do
        let mkX := (mk &&& 0x0f).toUInt32
        let mkY := (mk >>> 4).toUInt32
        let areaX := saturatingMul mkX (saturatingSub p.widthX fingerWidthReduce)
        let areaY := saturatingMul mkY (saturatingSub p.widthY fingerWidthReduce)
        modifyContact slot fun contact =>
          { contact with
            toolWidth := mkX
            touchMajor := max areaX areaY
            touchMinor := min areaX areaY }
        pure none
    else pure none
  else pure none

/-- The loop `for slot in 0..MAX_CONTACTS`, over the slots still to come. -/
def decodeSlots (report : Mem) (reportLen : ℕ) (highPrecision : Bool) (p : DecodeParams)
    (tpInfo : UInt8) : List (Fin maxContacts) → ℕ → Decode ℤ
  | [], _ => pure 0
  | slot :: slots, fingerOffset =>
    if declared tpInfo slot = false then
      decodeSlots report reportLen highPrecision p tpInfo slots fingerOffset
    else
      match checkedAdd fingerOffset fingerDataLen with
      | none => pure einval
      | some recordEnd =>
        if recordEnd > reportLen then pure einval
        else do
          let b0 ← readByteOrZero report reportLen fingerOffset
          let b1 ← readByteOrZero report reportLen (fingerOffset + 1)
          let b2 ← readByteOrZero report reportLen (fingerOffset + 2)
          let b3 ← readByteOrZero report reportLen (fingerOffset + 3)
          let b4 ← readByteOrZero report reportLen (fingerOffset + 4)
          let early ← decodeContact report reportLen highPrecision p slot b0 b1 b2 b3 b4
          match early with
          | some status => pure status
          | none => decodeSlots report reportLen highPrecision p tpInfo slots recordEnd

def decodeAbsolute (report : Mem) (reportLen : ℕ) (highPrecision : Bool) (p : DecodeParams) :
    Decode ℤ := do
  let tpInfo ← readByte report reportLen touchInfoOffset
  match tpInfo with
  | none => pure einval
  | some tpInfo => do
    modify fun frame =>
      { frame with kind := frameAbsolute, buttons := (tpInfo &&& 0x07).toUInt32 }
    let hover ← readByte report reportLen hoverInfoOffset
    modify fun frame =>
      { frame with hover := hover.elim 0 fun v => if v &&& 0x40 ≠ 0 then 1 else 0 }
    decodeSlots report reportLen highPrecision p tpInfo (List.finRange maxContacts)
      fingerDataOffset

/-! ## Trackpoint reports -/

def decodeTrackpoint (report : Mem) (reportLen : ℕ) : Decode ℤ :=
  let packet := reportIdOffset + 1
  if packet + 6 > reportLen then pure einval
  else do
    let b0 ← readByteOrZero report reportLen packet
    let b1 ← readByteOrZero report reportLen (packet + 1)
    let b2 ← readByteOrZero report reportLen (packet + 2)
    let b3 ← readByteOrZero report reportLen (packet + 3)
    let b4 ← readByteOrZero report reportLen (packet + 4)
    let b5 ← readByteOrZero report reportLen (packet + 5)
    modify fun frame =>
      { frame with kind := frameTrackpoint, buttons := (b0 &&& 0x07).toUInt32 }
    if b3 &&& 0x0f = 0x06 then
      modify fun frame =>
        { frame with
          relX := i32From b4 - (i32From (b1 ^^^ 0x80) <<< 1)
          relY := (i32From (b2 ^^^ 0x80) <<< 1) - i32From b5
          relValid := 1 }
    pure 0

/-! ## The entry point -/

/-- `elan_rs_decode_report` after its null checks. -/
def decodeReport (report : Mem) (reportLen : ℕ) (p : DecodeParams) : Decode ℤ := do
  let id ← readByte report reportLen reportIdOffset
  match id with
  | none => pure einval
  | some id => do
    modify fun _ => ElanRsFrame.empty
    if id = reportId then decodeAbsolute report reportLen false p
    else if id = reportId2 then decodeAbsolute report reportLen true p
    else if id = trackpointReportId ∨ id = trackpointReportId2 then
      decodeTrackpoint report reportLen
    else pure eproto

/-- `elan_rs_decode_report`; `none` is a null pointer. -/
def elanRsDecodeReport (report : Option Mem) (reportLen : ℕ) (p : DecodeParams)
    (out : Option ElanRsFrame) : Outcome (Option ElanRsFrame) Access ℤ :=
  match report, out with
  | some report, some out =>
    let o := (decodeReport report reportLen p).run out
    ⟨o.value, some o.state, o.trace⟩
  | _, _ => ⟨einval, out, []⟩

/-! ## Watchdog policy and recovery sequence -/

def elanRsWatchdogAction (openCount : UInt32) (probeStatus : ℤ)
    (reportErrors reportErrorThreshold : UInt32) : UInt32 :=
  if openCount = 0 then watchdogDisarmed
  else if probeStatus < 0
      ∨ (reportErrorThreshold ≠ 0 ∧ reportErrors ≥ reportErrorThreshold) then watchdogRecover
  else watchdogObserve

def elanRsRecoveryNext (phase : UInt32) (operationStatus : ℤ) : UInt32 :=
  if operationStatus < 0 then recoveryFailed
  else if phase = recoveryIdle then recoveryReleaseInput
  else if phase = recoveryReleaseInput then recoveryReinitialize
  else if phase = recoveryReinitialize then recoveryVerify
  else if phase = recoveryVerify then recoveryRestoreMode
  else if phase = recoveryRestoreMode then recoveryComplete
  else if phase = recoveryComplete then recoveryIdle
  else recoveryFailed

def elanRsAbiVersion : UInt32 := abiVersion

end ElanCore
