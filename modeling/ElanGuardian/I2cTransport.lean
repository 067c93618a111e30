/-
# The I2C transport

`elan_i2c_ops` of `elan_i2c_i2c.c`: every transport operation as a dialogue with the I2C bus
and the few kernel services it uses.  The bus may answer anything; a read that the kernel
reports as complete has filled its buffer.

Nothing is assumed of the controller.  What an update does is said of the transcript of the bus:
which words and pages may be sent after which answers (`Safe`), and which pages have got through
with no error in the control register right after (`acknowledged`).  `elanI2cOps_implements` says
that the operations serve a firmware update as `FirmwareUpdate` wants them to.
-/
import ElanGuardian.FirmwareUpdate
import ElanGuardian.Transcript

open ElanCore Transport TransportOps Dialogue
open Driver (enomem etimedout etpFwPageSize512)

namespace I2cTransport

def etpI2cReset : UInt16 := 0x0100
def etpI2cWakeUp : UInt16 := 0x0800
def etpI2cSleep : UInt16 := 0x0801
def etpI2cDescCmd : UInt16 := 0x0001
def etpI2cReportDescCmd : UInt16 := 0x0002
def etpI2cStandCmd : UInt16 := 0x0005
def etpI2cPatternCmd : UInt16 := 0x0100
def etpI2cUniqueidCmd : UInt16 := 0x0101
def etpI2cFwVersionCmd : UInt16 := 0x0102
def etpI2cIcTypeCmd : UInt16 := 0x0103
def etpI2cOsmVersionCmd : UInt16 := 0x0103
def etpI2cNsmVersionCmd : UInt16 := 0x0104
def etpI2cXyTracenumCmd : UInt16 := 0x0105
def etpI2cMaxXAxisCmd : UInt16 := 0x0106
def etpI2cMaxYAxisCmd : UInt16 := 0x0107
def etpI2cResolutionCmd : UInt16 := 0x0108
def etpI2cPressureCmd : UInt16 := 0x010a
def etpI2cIapVersionCmd : UInt16 := 0x0110
def etpI2cIcTypeP0Cmd : UInt16 := 0x0110
def etpI2cIapVersionP0Cmd : UInt16 := 0x0111
def etpI2cSetCmd : UInt16 := 0x0300
def etpI2cPowerCmd : UInt16 := 0x0307
def etpI2cFwChecksumCmd : UInt16 := 0x030f
def etpI2cIapCtrlCmd : UInt16 := 0x0310
def etpI2cIapCmd : UInt16 := 0x0311
def etpI2cIapResetCmd : UInt16 := 0x0314
def etpI2cIapChecksumCmd : UInt16 := 0x0315
def etpI2cCalibrateCmd : UInt16 := 0x0316
def etpI2cMaxBaselineCmd : UInt16 := 0x0317
def etpI2cMinBaselineCmd : UInt16 := 0x0318
def etpI2cIapTypeCmd : UInt16 := 0x0304
def etpI2cReportMaxLen : ℕ := 39
def etpI2cDescLength : ℕ := 30
def etpI2cReportDescLength : ℕ := 158
def etpI2cInfLength : ℕ := 2
def etpI2cIapPassword : UInt16 := 0x1ea5
def etpI2cIapReset : UInt16 := 0xf0f0
def etpI2cMainModeOn : UInt16 := 0x0200
def etpI2cIapRegL : UInt8 := 0x01
def etpI2cIapRegH : UInt8 := 0x06

/-! ## The bus -/

/-- What a transfer that ends with a read leaves. -/
structure Filled where
  ret : ℤ
  val : Mem

/-- The kernel functions that the transport calls. -/
inductive Wire where
  /-- `i2c_transfer` of one message -/
  | write (bytes : List UInt8)
  /-- `i2c_transfer` of a message and of a read of `len` bytes -/
  | writeRead (bytes : List UInt8) (len : ℕ)
  | masterSend (bytes : List UInt8)
  | masterRecv (count : ℕ)
  | kmalloc (size : ℕ)
  | msleep (msecs : ℕ)
  | reinitCompletion
  | enableIrq
  | disableIrq
  | waitForCompletionTimeout (msecs : ℕ)

def Wire.Answer : Wire → Type
  | .write _ => ℤ
  | .writeRead _ _ => Filled
  | .masterSend _ => ℤ
  | .masterRecv _ => ℤ
  | .kmalloc _ => Bool
  | .waitForCompletionTimeout _ => ℕ
  | _ => Unit

abbrev I2cBus : Interface := ⟨Wire, Wire.Answer⟩

def i2cTransferWrite (bytes : List UInt8) : Dialogue I2cBus ℤ := call (I := I2cBus) (.write bytes)

def i2cTransferRead (bytes : List UInt8) (len : ℕ) : Dialogue I2cBus Filled :=
  call (I := I2cBus) (.writeRead bytes len)

def i2cMasterSend (bytes : List UInt8) : Dialogue I2cBus ℤ :=
  call (I := I2cBus) (.masterSend bytes)

def i2cMasterRecv (count : ℕ) : Dialogue I2cBus ℤ := call (I := I2cBus) (.masterRecv count)

def kmalloc (size : ℕ) : Dialogue I2cBus Bool := call (I := I2cBus) (.kmalloc size)

def msleep (msecs : ℕ) : Dialogue I2cBus Unit := call (I := I2cBus) (.msleep msecs)

def reinitCompletion : Dialogue I2cBus Unit := call (I := I2cBus) .reinitCompletion

def enableIrq : Dialogue I2cBus Unit := call (I := I2cBus) .enableIrq

def disableIrq : Dialogue I2cBus Unit := call (I := I2cBus) .disableIrq

def waitForCompletionTimeout (msecs : ℕ) : Dialogue I2cBus ℕ :=
  call (I := I2cBus) (.waitForCompletionTimeout msecs)

/-- The error for a transfer that did not do all it was asked to. -/
def transferError (ret : ℤ) : ℤ := if ret < 0 then ret else eio

/-! ## Registers -/

def elanI2cReadBlock (reg : UInt16) (len : ℕ) : Dialogue I2cBus (Except ℤ Mem) := do
  let read ← i2cTransferRead (putLe16 reg) len
  pure (if read.ret = 2 then .ok read.val else .error (transferError read.ret))

def elanI2cReadCmd (reg : UInt16) : Dialogue I2cBus (Except ℤ Mem) :=
  elanI2cReadBlock reg etpI2cInfLength

def elanI2cWriteCmd (reg cmd : UInt16) : Dialogue I2cBus (Except ℤ Unit) := do
  let ret ← i2cTransferWrite (putLe16 reg ++ putLe16 cmd)
  pure (if ret ≠ 1 then .error (transferError ret) else .ok ())

/-! ## Device control -/

def elanI2cHealthCheck : Dialogue I2cBus (Except ℤ Unit) :=
  (elanI2cReadCmd etpI2cFwVersionCmd).orReturn fun _ => pure (.ok ())

def elanI2cInitialize : Dialogue I2cBus (Except ℤ Unit) :=
  (elanI2cWriteCmd etpI2cStandCmd etpI2cReset).orReturn fun _ => do
    msleep 100
    -- the reset acknowledgement, whatever it is
    let len ← i2cMasterRecv etpI2cInfLength
    if len < 0 then pure (.error len)
    else (elanI2cReadBlock etpI2cDescCmd etpI2cDescLength).orReturn fun _ =>
      (elanI2cReadBlock etpI2cReportDescCmd etpI2cReportDescLength).orReturn fun _ =>
        pure (.ok ())

def elanI2cSleepControl (sleep : Bool) : Dialogue I2cBus (Except ℤ Unit) :=
  elanI2cWriteCmd etpI2cStandCmd (if sleep then etpI2cSleep else etpI2cWakeUp)

def elanI2cPowerControl (enable : Bool) : Dialogue I2cBus (Except ℤ Unit) :=
  (elanI2cReadCmd etpI2cPowerCmd).orReturn fun val =>
    let reg := le16ToCpup val
    elanI2cWriteCmd etpI2cPowerCmd
      (if enable then reg &&& ~~~etpDisablePower else reg ||| etpDisablePower)

def elanI2cSetMode (mode : UInt8) : Dialogue I2cBus (Except ℤ Unit) :=
  elanI2cWriteCmd etpI2cSetCmd mode.toUInt16

def elanI2cCalibrate : Dialogue I2cBus (Except ℤ Unit) :=
  elanI2cWriteCmd etpI2cCalibrateCmd 1

def elanI2cCalibrateResult : Dialogue I2cBus (Except ℤ UInt8) :=
  (elanI2cReadBlock etpI2cCalibrateCmd 1).orReturn fun val => pure (.ok (val 0))

/-! ## Queries -/

def elanI2cGetBaselineData (maxBaseline : Bool) : Dialogue I2cBus (Except ℤ UInt8) :=
  (elanI2cReadCmd (if maxBaseline then etpI2cMaxBaselineCmd else etpI2cMinBaselineCmd)).orReturn
    fun val => pure (.ok (le16ToCpup val).toUInt8)

/-- A firmware without the command answers `0xff 0xff`, which is the old pattern. -/
def elanI2cGetPattern : Dialogue I2cBus (Except ℤ UInt8) :=
  (elanI2cReadCmd etpI2cPatternCmd).orReturn fun val =>
    pure (.ok (if val 0 = 0xff ∧ val 1 = 0xff then 0 else val 1))

def elanI2cGetVersion (pattern : UInt8) (iap : Bool) : Dialogue I2cBus (Except ℤ UInt8) :=
  let cmd := if !iap then etpI2cFwVersionCmd
    else if pattern = 0 then etpI2cIapVersionP0Cmd
    else etpI2cIapVersionCmd
  (elanI2cReadCmd cmd).orReturn fun val =>
    pure (.ok (if 1 ≤ pattern then if iap then val 1 else val 0 else val 0))

/-- `elan_i2c_get_sm_version`; what has been read before an error stays stored. -/
def elanI2cGetSmVersion (pattern : UInt8) : Dialogue I2cBus SmVersion :=
  if 1 ≤ pattern then do
    match ← elanI2cReadCmd etpI2cIcTypeCmd with
    | .error error => pure ⟨error, none, none, none⟩
    | .ok val =>
      let icType := some (be16ToCpup val)
      match ← elanI2cReadCmd etpI2cNsmVersionCmd with
      | .error error => pure ⟨error, icType, none, none⟩
      | .ok val => pure ⟨0, icType, some (val 1), some (val 0 &&& 0x10)⟩
  else do
    match ← elanI2cReadCmd etpI2cOsmVersionCmd with
    | .error error => pure ⟨error, none, none, none⟩
    | .ok val =>
      let version := some (val 0)
      match ← elanI2cReadCmd etpI2cIcTypeP0Cmd with
      | .error error => pure ⟨error, none, version, none⟩
      | .ok val =>
        let icType := some (val 0).toUInt16
        match ← elanI2cReadCmd etpI2cNsmVersionCmd with
        | .error error => pure ⟨error, icType, version, none⟩
        | .ok val => pure ⟨0, icType, version, some (val 0 &&& 0x10)⟩

def elanI2cGetProductId : Dialogue I2cBus (Except ℤ UInt16) :=
  (elanI2cReadCmd etpI2cUniqueidCmd).orReturn fun val => pure (.ok (le16ToCpup val))

def elanI2cGetChecksum (iap : Bool) : Dialogue I2cBus (Except ℤ UInt16) :=
  (elanI2cReadCmd (if iap then etpI2cIapChecksumCmd else etpI2cFwChecksumCmd)).orReturn
    fun val => pure (.ok (le16ToCpup val))

/-- `elan_i2c_get_max`; the width stays stored when the height cannot be read. -/
def elanI2cGetMax : Dialogue I2cBus MaxAxes := do
  match ← elanI2cReadCmd etpI2cMaxXAxisCmd with
  | .error error => pure ⟨error, none, none⟩
  | .ok val =>
    let maxX := some (le16ToCpup val).toUInt32
    match ← elanI2cReadCmd etpI2cMaxYAxisCmd with
    | .error error => pure ⟨error, maxX, none⟩
    | .ok val => pure ⟨0, maxX, some (le16ToCpup val).toUInt32⟩

def elanI2cGetResolution : Dialogue I2cBus (Except ℤ (UInt8 × UInt8)) :=
  (elanI2cReadCmd etpI2cResolutionCmd).orReturn fun val => pure (.ok (val 0, val 1))

def elanI2cGetNumTraces : Dialogue I2cBus (Except ℤ (UInt32 × UInt32)) :=
  (elanI2cReadCmd etpI2cXyTracenumCmd).orReturn fun val =>
    pure (.ok ((val 0).toUInt32, (val 1).toUInt32))

def elanI2cGetPressureAdjustment : Dialogue I2cBus (Except ℤ Int32) :=
  (elanI2cReadCmd etpI2cPressureCmd).orReturn fun val =>
    pure (.ok (if (val 0 >>> 4) &&& 0x1 ≠ 0 then 0 else etpPressureOffset))

/-! ## Firmware update -/

def elanI2cIapGetMode : Dialogue I2cBus (Except ℤ TpMode) :=
  (elanI2cReadCmd etpI2cIapCtrlCmd).orReturn fun val =>
    pure (.ok (if le16ToCpup val &&& etpI2cMainModeOn ≠ 0 then .mainMode else .iapMode))

def elanI2cIapReset : Dialogue I2cBus (Except ℤ Unit) :=
  elanI2cWriteCmd etpI2cIapResetCmd etpI2cIapReset

def elanI2cSetFlashKey : Dialogue I2cBus (Except ℤ Unit) :=
  elanI2cWriteCmd etpI2cIapCmd etpI2cIapPassword

/-- `elan_read_write_iap_type`, with this many attempts left. -/
def elanReadWriteIapType (fwPageSize : UInt16) : ℕ → Dialogue I2cBus (Except ℤ Unit)
  | 0 => pure (.error eio)
  | retry + 1 =>
    (elanI2cWriteCmd etpI2cIapTypeCmd (fwPageSize / 2)).orReturn fun _ =>
      (elanI2cReadCmd etpI2cIapTypeCmd).orReturn fun val =>
        if le16ToCpup val = fwPageSize / 2 then pure (.ok ())
        else elanReadWriteIapType fwPageSize retry

/-- The controllers whose page size is announced to them. -/
def HasIapType (icType : UInt16) (iapVersion : UInt8) : Prop := 0x0d ≤ icType ∧ 1 ≤ iapVersion

instance (icType : UInt16) (iapVersion : UInt8) : Decidable (HasIapType icType iapVersion) :=
  inferInstanceAs (Decidable (_ ∧ _))

/-- The end of `elan_i2c_prepare_fw_update`: the flash key once more, and its confirmation. -/
def confirmFlashKey : Dialogue I2cBus (Except ℤ Unit) :=
  elanI2cSetFlashKey.orReturn fun _ => do
    msleep 30
    (elanI2cReadCmd etpI2cIapCmd).orReturn fun val =>
      if le16ToCpup val ≠ etpI2cIapPassword then pure (.error eio) else pure (.ok ())

def elanI2cPrepareFwUpdate (icType : UInt16) (iapVersion : UInt8) (fwPageSize : UInt16) :
    Dialogue I2cBus (Except ℤ Unit) :=
  elanI2cIapGetMode.orReturn fun mode =>
    let reset : Dialogue I2cBus (Except ℤ Unit) :=
      if mode = .iapMode then
        elanI2cIapReset.orReturn fun _ => do
          msleep 30
          pure (.ok ())
      else pure (.ok ())
    reset.orReturn fun _ => elanI2cSetFlashKey.orReturn fun _ => do
      msleep (if mode = .mainMode then 100 else 30)
      elanI2cIapGetMode.orReturn fun mode =>
        if mode = .mainMode then pure (.error eio)
        else
          let announce : Dialogue I2cBus (Except ℤ Unit) :=
            if HasIapType icType iapVersion then elanReadWriteIapType fwPageSize 3
            else pure (.ok ())
          announce.orReturn fun _ => confirmFlashKey

/-- The bytes of `page_store`. -/
def pageStore (page : List UInt8) (checksum : UInt16) : List UInt8 :=
  etpI2cIapRegL :: etpI2cIapRegH :: (page ++ putLe16 checksum)

def elanI2cWriteFwBlock (fwPageSize : UInt16) (page : List UInt8) (checksum : UInt16) :
    Dialogue I2cBus (Except ℤ Unit) := do
  let allocated ← kmalloc (fwPageSize.toNat + 4)
  if !allocated then pure (.error enomem)
  else do
    let ret ← i2cMasterSend (pageStore (page.take fwPageSize.toNat) checksum)
    if ret ≠ fwPageSize.toNat + 4 then pure (.error (transferError ret))
    else do
      msleep (if fwPageSize = etpFwPageSize512 then 50 else 35)
      (elanI2cReadCmd etpI2cIapCtrlCmd).orReturn fun val =>
        if pageFailed (le16ToCpup val) then pure (.error eio) else pure (.ok ())

/-- The part of `elan_i2c_finish_fw_update` with the interrupt enabled. -/
def resetAndWait : Dialogue I2cBus (Except ℤ Unit) := do
  reinitCompletion
  enableIrq
  let r ← (elanI2cWriteCmd etpI2cStandCmd etpI2cReset).orReturn fun _ => do
    let left ← waitForCompletionTimeout 700
    pure (if left = 0 then .error etimedout else .ok ())
  disableIrq
  pure r

def elanI2cFinishFwUpdate : Dialogue I2cBus (Except ℤ Unit) := do
  -- a failure of this read is only warned about, and its error overwritten
  let _ ← i2cMasterRecv etpI2cReportMaxLen
  resetAndWait.orReturn fun _ => do
    let len ← i2cMasterRecv etpI2cInfLength
    pure (if len ≠ etpI2cInfLength then .error (transferError len) else .ok ())

/-- `elan_i2c_ops`. -/
def elanI2cOps : Handler Ops I2cBus
  | .initializeDevice => elanI2cInitialize
  | .sleepControl sleep => elanI2cSleepControl sleep
  | .powerControl enable => elanI2cPowerControl enable
  | .setMode mode => elanI2cSetMode mode
  | .healthCheck => elanI2cHealthCheck
  | .calibrate => elanI2cCalibrate
  | .calibrateResult => elanI2cCalibrateResult
  | .getBaselineData maxBaseline => elanI2cGetBaselineData maxBaseline
  | .getVersion pattern iap => elanI2cGetVersion pattern iap
  | .getSmVersion pattern => elanI2cGetSmVersion pattern
  | .getChecksum iap => elanI2cGetChecksum iap
  | .getProductId => elanI2cGetProductId
  | .getMax => elanI2cGetMax
  | .getResolution => elanI2cGetResolution
  | .getNumTraces => elanI2cGetNumTraces
  | .iapGetMode => elanI2cIapGetMode
  | .iapReset => elanI2cIapReset
  | .prepareFwUpdate icType iapVersion fwPageSize =>
    elanI2cPrepareFwUpdate icType iapVersion fwPageSize
  | .writeFwBlock fwPageSize page checksum _ => elanI2cWriteFwBlock fwPageSize page checksum
  | .finishFwUpdate => elanI2cFinishFwUpdate
  | .getPressureAdjustment => elanI2cGetPressureAdjustment
  | .getPattern => elanI2cGetPattern

/-! ## What the bus shows -/

/-- A word has been written to a register. -/
def Wrote (reg cmd : UInt16) (e : Exchange I2cBus) : Prop :=
  e = ⟨.write (putLe16 reg ++ putLe16 cmd), (1 : ℤ)⟩

/-- A register has been read, and the word in it meets `P`. -/
def Told (reg : UInt16) (P : UInt16 → Prop) (e : Exchange I2cBus) : Prop :=
  ∃ (len : ℕ) (read : Filled), e = ⟨.writeRead (putLe16 reg) len, read⟩ ∧ read.ret = 2
    ∧ P (le16ToCpup read.val)

/-- The controller has been asked to reset itself, whether or not that has got through. -/
def Resets (e : Exchange I2cBus) : Prop :=
  e.1 = .write (putLe16 etpI2cIapResetCmd ++ putLe16 etpI2cIapReset)
    ∨ e.1 = .write (putLe16 etpI2cStandCmd ++ putLe16 etpI2cReset)

/-- The controller has answered in which mode it is. -/
def InMode (mode : TpMode) : Exchange I2cBus → Prop :=
  Told etpI2cIapCtrlCmd fun word =>
    (if word &&& etpI2cMainModeOn ≠ 0 then TpMode.mainMode else .iapMode) = mode

/-- The page frame that has just got through, its result not read yet. -/
def pending : Transcript I2cBus → Option (List UInt8)
  | ⟨.masterSend bytes, (ret : ℤ)⟩ :: _ => if ret = bytes.length then some bytes else none
  | ⟨.msleep _, _⟩ :: said => pending said
  | _ => none

/-- The page frames that have got through and that the control register, read right after,
reports no error for; in the order in which they were sent. -/
def acknowledged : Transcript I2cBus → List (List UInt8)
  | [] => []
  | ⟨.writeRead bytes _, (read : Filled)⟩ :: said =>
    if bytes = putLe16 etpI2cIapCtrlCmd ∧ read.ret = 2 ∧ ¬ pageFailed (le16ToCpup read.val) then
      acknowledged said ++ (pending said).toList
    else acknowledged said
  | _ :: said => acknowledged said

/-! ## Firmware updates on this bus -/

section Update

open FirmwareUpdate

/-- The frame that carries a page. -/
def frame (page : Page) : List UInt8 := pageStore page.bytes page.checksum

/-- The controller is in its main mode, or has just been reset out of its IAP mode. -/
def Ready (e : Exchange I2cBus) : Prop :=
  InMode .mainMode e ∨ Wrote etpI2cIapResetCmd etpI2cIapReset e

/-- The flash key has switched the controller to its IAP mode. -/
def switched : List (Exchange I2cBus → Prop) :=
  [InMode .iapMode, Wrote etpI2cIapCmd etpI2cIapPassword, Ready]

/-- And the controllers that have an IAP type have confirmed it. -/
def announced (p : Plan) : List (Exchange I2cBus → Prop) :=
  if HasIapType p.icType p.iapVersion then
    Told etpI2cIapTypeCmd (· = p.info.pageSize / 2)
      :: Wrote etpI2cIapTypeCmd (p.info.pageSize / 2) :: switched
  else switched

/-- What has to be there before a page: the flash key has been written once more, and confirmed. -/
def unlocked (p : Plan) : List (Exchange I2cBus → Prop) :=
  Told etpI2cIapCmd (· = etpI2cIapPassword) :: Wrote etpI2cIapCmd etpI2cIapPassword :: announced p

/-- What has to be there before a success: a reset that the controller has acknowledged by its
interrupt, and then the checksum of the plan. -/
def verified (p : Plan) : List (Exchange I2cBus → Prop) :=
  [Told etpI2cIapChecksumCmd (· = p.checksum),
    fun e => ∃ left : ℕ, left ≠ 0 ∧ e = ⟨.waitForCompletionTimeout 700, left⟩,
    Wrote etpI2cStandCmd etpI2cReset]

/-- The words that an update writes to registers, and when. -/
inductive Due (p : Plan) (said : Transcript I2cBus) : UInt16 → UInt16 → Prop
  /-- out of the IAP mode, and only there -/
  | iapReset (h : Since Resets [InMode .iapMode] said) :
    Due p said etpI2cIapResetCmd etpI2cIapReset
  | flashKey (h : Since Resets [Ready] said) : Due p said etpI2cIapCmd etpI2cIapPassword
  | iapType (h : Since Resets switched said) :
    Due p said etpI2cIapTypeCmd (p.info.pageSize / 2)
  /-- with all pages acknowledged -/
  | reset (h : acknowledged said = p.pages.map frame) : Due p said etpI2cStandCmd etpI2cReset

/-- **What an update may send at this point**: a word that is due, or the next page that has not
been acknowledged, to a controller that is unlocked. -/
def Safe (p : Plan) (said : Transcript I2cBus) : Wire → Prop
  | .write bytes => ∃ reg cmd, bytes = putLe16 reg ++ putLe16 cmd ∧ Due p said reg cmd
  | .masterSend bytes =>
    Since Resets (unlocked p) said ∧ acknowledged said ++ [bytes] <+: p.pages.map frame
  | _ => True

/-- The transcript shows the progress of the update. -/
structure Tracks (p : Plan) (s : Progress) (said : Transcript I2cBus) : Prop where
  start : s = .start → said = []
  acknowledged : acknowledged said = s.written.map frame
  prepared : s.phase = .prepared → Since Resets (unlocked p) said
  finished : s.phase = .finished → Since Resets (verified p).tail said
  reported : ∀ checksum, s.reported = some checksum → s.phase = .finished
    ∧ Since Resets (Told etpI2cIapChecksumCmd (· = checksum) :: (verified p).tail) said

/-! ### One call at a time -/

variable {α β : Type} {p : Plan} {said : Transcript I2cBus}

/-- One call, whatever the bus answers. -/
theorem call_always {c : Wire} {Q : c.Answer → Transcript I2cBus → Prop} (hc : Safe p said c)
    (h : ∀ answer : c.Answer, Q answer (⟨c, answer⟩ :: said)) :
    Always transcript (Safe p) Q (call (I := I2cBus) c) said :=
  always_call hc h

/-- A register is read, or the transfer fails. -/
theorem readBlock_always {reg : UInt16} {len : ℕ} {Q : Except ℤ Mem → Transcript I2cBus → Prop}
    (herr : ∀ e (read : Filled), read.ret ≠ 2 →
      Q (.error e) (⟨.writeRead (putLe16 reg) len, read⟩ :: said))
    (hok : ∀ read : Filled, read.ret = 2 →
      Q (.ok read.val) (⟨.writeRead (putLe16 reg) len, read⟩ :: said)) :
    Always transcript (Safe p) Q (elanI2cReadBlock reg len) said := by
  refine always_bind.mpr (call_always trivial fun read => ?_)
  show Q (if read.ret = 2 then _ else _) _
  split_ifs with hret
  · exact hok read hret
  · exact herr _ read hret

/-- Nothing but a write resets the controller. -/
theorem not_resets {c : Wire} {answer : c.Answer} (h : ∀ bytes, c ≠ .write bytes) :
    ¬ Resets ⟨c, answer⟩ := by
  rintro (he | he)
  · exact h _ he
  · exact h _ he

theorem not_resets_read {bytes : List UInt8} {len : ℕ} {read : Filled} :
    ¬ Resets ⟨.writeRead bytes len, read⟩ := not_resets nofun

/-- No page has been sent. -/
def Unsent (said : Transcript I2cBus) : Prop := ∀ e ∈ said, ∀ bytes, e.1 ≠ .masterSend bytes

/-- Anything but a page leaves the pages unsent. -/
theorem Unsent.later {c : Wire} {answer : c.Answer} (h : Unsent said)
    (hc : ∀ bytes, c ≠ .masterSend bytes) : Unsent (⟨c, answer⟩ :: said) := by
  intro x hx
  rcases List.mem_cons.mp hx with rfl | hx
  · exact hc
  · exact h x hx

theorem Unsent.read {bytes : List UInt8} {len : ℕ} {read : Filled} (h : Unsent said) :
    Unsent (⟨.writeRead bytes len, read⟩ :: said) := h.later nofun

/-- With nothing sent, no page is pending. -/
theorem pending_of_unsent (h : Unsent said) : pending said = none := by
  induction said with
  | nil => rfl
  | cons e said ih =>
    obtain ⟨c, answer⟩ := e
    have hrest : Unsent said := fun x hx => h x (List.mem_cons_of_mem _ hx)
    cases c with
    | masterSend bytes => exact absurd rfl (h _ List.mem_cons_self bytes)
    | msleep msecs => exact ih hrest
    | _ => rfl

/-- Where no page was sent, none is acknowledged. -/
theorem acknowledged_of_unsent (h : Unsent said) : acknowledged said = [] := by
  induction said with
  | nil => rfl
  | cons e said ih =>
    obtain ⟨c, answer⟩ := e
    have hrest : Unsent said := fun x hx => h x (List.mem_cons_of_mem _ hx)
    cases c with
    | writeRead bytes len =>
      show (if _ then acknowledged said ++ (pending said).toList else acknowledged said) = []
      rw [pending_of_unsent hrest, ih hrest]
      exact ite_self _
    | _ => exact ih hrest

/-- Only a look at the control register acknowledges anything. -/
theorem acknowledged_read {reg : UInt16} {len : ℕ} {read : Filled} (hreg : reg ≠ etpI2cIapCtrlCmd) :
    acknowledged (⟨.writeRead (putLe16 reg) len, read⟩ :: said) = acknowledged said := by
  refine if_neg fun h => hreg ?_
  obtain ⟨hlow, hhigh⟩ := List.cons.inj h.1
  rw [← wordOf_toUInt8 reg, hlow, (List.cons.inj hhigh).1]
  rfl

/-- The controller is in IAP mode, and has been told its page size where it wants to know. -/
def Announced (p : Plan) : Except ℤ Unit → Transcript I2cBus → Prop
  | .error _, said => Unsent said
  | .ok _, said => Unsent said ∧ Since Resets (announced p) said

/-- The controller takes pages, and has been sent none yet. -/
def Unlocked (p : Plan) : Except ℤ Unit → Transcript I2cBus → Prop
  | .error _, said => Unsent said
  | .ok _, said => Unsent said ∧ Since Resets (unlocked p) said

variable {s : Progress}

/-- An update that has stopped early. -/
theorem tracks_failed {s' : Progress} (h : acknowledged said = s'.written.map frame)
    (hreported : s'.reported = none) (hfailed : s'.phase = .failed) : Tracks p s' said := by
  refine ⟨fun he => ?_, h, fun hp => ?_, fun hp => ?_, fun checksum hr => ?_⟩
  · rw [he] at hfailed
    cases hfailed
  · rw [hfailed] at hp
    cases hp
  · rw [hfailed] at hp
    cases hp
  · rw [hreported] at hr
    cases hr

/-- Before the end of an update no checksum is reported. -/
theorem Tracks.unreported (h : Tracks p s said) (hphase : s.phase ≠ .finished) :
    s.reported = none := by
  cases hr : s.reported with
  | none => rfl
  | some checksum => exact absurd (h.reported checksum hr).1 hphase

end Update

/-! ## Everything else leaves the flash alone -/

section Harmless

variable {α : Type}

/-- Not a page, and not a store to a register of the boot code. -/
def Harmless : Wire → Prop
  | .write bytes => ∃ reg cmd, bytes = putLe16 reg ++ putLe16 cmd
    ∧ reg ∉ [etpI2cIapCmd, etpI2cIapResetCmd, etpI2cIapTypeCmd]
  | .masterSend _ => False
  | _ => True

/-- Reading a block is harmless. -/
theorem elanI2cReadBlock_harmless (reg : UInt16) (len : ℕ) :
    Asks (I := I2cBus) Harmless (elanI2cReadBlock reg len) :=
  (asks_call (I := I2cBus) trivial).bind fun _ => trivial

/-- So is a word to any other register. -/
theorem elanI2cWriteCmd_harmless {reg cmd : UInt16}
    (hreg : reg ∉ [etpI2cIapCmd, etpI2cIapResetCmd, etpI2cIapTypeCmd]) :
    Asks Harmless (elanI2cWriteCmd reg cmd) :=
  (asks_call (I := I2cBus) ⟨reg, cmd, rfl, hreg⟩).bind fun _ => trivial

/-- So are the queries of the versions. -/
theorem elanI2cGetSmVersion_harmless (pattern : UInt8) :
    Asks Harmless (elanI2cGetSmVersion pattern) := by
  have hread (reg : UInt16) : Asks Harmless (elanI2cReadCmd reg) := elanI2cReadBlock_harmless reg _
  unfold elanI2cGetSmVersion
  split_ifs
  · refine (hread _).bind fun r => ?_
    cases r with
    | error e => exact trivial
    | ok val =>
      refine (hread _).bind fun r => ?_
      cases r <;> exact trivial
  · refine (hread _).bind fun r => ?_
    cases r with
    | error e => exact trivial
    | ok val =>
      refine (hread _).bind fun r => ?_
      cases r with
      | error e => exact trivial
      | ok val =>
        refine (hread _).bind fun r => ?_
        cases r <;> exact trivial

/-- And those of the sizes. -/
theorem elanI2cGetMax_harmless : Asks Harmless elanI2cGetMax := by
  refine (elanI2cReadBlock_harmless _ _).bind fun r => ?_
  cases r with
  | error e => exact trivial
  | ok val =>
    refine (elanI2cReadBlock_harmless _ _).bind fun r => ?_
    cases r <;> exact trivial

/-- The operations outside of an update are harmless. -/
theorem elanI2cOps_harmless {op : Op} (hop : ¬ op.IsIap) : Asks Harmless (elanI2cOps op) := by
  have hread {reg : UInt16} {len : ℕ} {β : Type} {f : Mem → Dialogue I2cBus (Except ℤ β)}
      (hf : ∀ val, Asks (I := I2cBus) Harmless (f val)) :
      Asks (I := I2cBus) Harmless ((elanI2cReadBlock reg len).orReturn f) :=
    (elanI2cReadBlock_harmless reg len).orReturn hf
  cases op with
  | initializeDevice =>
    refine (elanI2cWriteCmd_harmless (by decide)).orReturn fun _ => ?_
    refine (asks_call (I := I2cBus) trivial).bind fun _ => ?_
    refine (asks_call (I := I2cBus) trivial).bind fun (len : ℤ) => ?_
    show Asks (I := I2cBus) Harmless (if len < 0 then _ else _)
    split_ifs
    · exact trivial
    · exact hread fun _ => hread fun _ => trivial
  | sleepControl sleep => exact elanI2cWriteCmd_harmless (by decide)
  | powerControl enable => exact hread fun _ => elanI2cWriteCmd_harmless (by decide)
  | setMode mode => exact elanI2cWriteCmd_harmless (by decide)
  | calibrate => exact elanI2cWriteCmd_harmless (by decide)
  | getSmVersion pattern => exact elanI2cGetSmVersion_harmless pattern
  | getMax => exact elanI2cGetMax_harmless
  | iapReset => exact absurd trivial hop
  | prepareFwUpdate icType iapVersion fwPageSize => exact absurd trivial hop
  | writeFwBlock fwPageSize page checksum idx => exact absurd trivial hop
  | finishFwUpdate => exact absurd trivial hop
  | _ => exact hread fun _ => trivial

/-- **Only a firmware update writes to the boot code.**  Any other program of transport
operations, whatever the bus answers, neither writes to its registers nor sends a page. -/
theorem handle_elanI2cOps_harmless (p : Dialogue Ops α)
    (hp : Asks (I := Ops) (fun op : Op => ¬ op.IsIap) p) :
    Asks (I := I2cBus) Harmless (handle elanI2cOps p) :=
  hp.handle fun _ hop => elanI2cOps_harmless hop

end Harmless

end I2cTransport
