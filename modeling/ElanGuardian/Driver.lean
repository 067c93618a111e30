/-
# The driver's state and its initialisation

The part of `elan_i2c_core.c` that every operation shares: the fields of
`struct elan_tp_data`, `sysfs_mutex` and the depth of the interrupt line, the calls
through `struct elan_transport_ops`, and `elan_initialize`.

What is outside the driver answers from `replies`, an arbitrary stream: one reply for
every transport, regulator and allocation call and for every interruptible lock.  A
reply carries a status and what the call leaves in its out-parameters, both arbitrary,
also when the call fails.
-/
import ElanGuardian.Prog
import ElanGuardian.ReportShim
import ElanGuardian.Transport

open Prog ElanCore ReportShim Transport

namespace Driver

def etpEnableAbs : UInt8 := 1
def etpEnableCalibrate : UInt8 := 2
def etpQuirkQuickWakeup : UInt32 := 1
def etpFwPageSize : UInt16 := 64
def etpFwPageSize128 : UInt16 := 128
def etpFwPageSize512 : UInt16 := 512
def etpFwSignatureSize : ℕ := 6

/-- `ETP_RETRY_COUNT` is 3: one attempt and two more. -/
def etpRetries : ℕ := 2

/-- `-ENXIO`. -/
def enxio : ℤ := -6

/-! ## State and effects -/

/-- The members of `struct elan_transport_ops` that the operations call, `set_mode` and
`get_report` apart. -/
inductive Op where
  | initializeDevice
  | sleepControl (sleep : Bool)
  | powerControl (enable : Bool)
  | calibrate
  | calibrateResult
  | getBaselineData (maxBaseline : Bool)
  | getVersion (iap : Bool)
  | getSmVersion
  | getChecksum (iap : Bool)
  | getProductId
  | getPattern
  | getPressureAdjustment
  | getMax
  | getNumTraces
  | getResolution
  | iapReset
  | prepareFwUpdate
  | writeFwBlock (checksum : UInt16) (idx : ℕ)
  | healthCheck
  deriving DecidableEq, Repr

/-- The functions that call `set_mode`. -/
inductive Site where
  | elanInitialize
  | elanRecoverLocked
  | calibrateStore
  | acquireStore
  deriving DecidableEq, Repr

inductive Effect where
  /-- the mutex was taken, free or not -/
  | mutexLock (free : Bool)
  | mutexUnlock (held : Bool)
  /-- the depth after an `enable_irq` or a `disable_irq` -/
  | irqDepth (depth : ℤ)
  | transport (op : Op)
  | setMode (site : Site) (mode : UInt8)
  /-- `WRITE_ONCE(data->report_errors, ..)` -/
  | writeReportErrors (reportErrors : UInt32)
  | input (dev : InputDev) (event : InputEvent)
  deriving DecidableEq, Repr

structure Reply where
  status : ℤ
  out : ℕ → UInt32

structure Drv where
  ops : Bus
  tpInput : Bool
  inFwUpdate : Bool
  sysfsMutex : Bool
  irqDepth : ℤ
  openCount : UInt32
  reportErrors : UInt32
  watchdogRecoveries : UInt32
  pattern : UInt8
  productId : UInt16
  fwVersion : UInt8
  smVersion : UInt8
  iapVersion : UInt8
  fwChecksum : UInt16
  reportFeatures : UInt32
  reportLen : ℕ
  pressureAdjustment : Int32
  mode : UInt8
  icType : UInt16
  fwValidpageCount : UInt16
  fwPageSize : UInt16
  fwSignatureAddress : UInt32
  minBaseline : UInt8
  maxBaseline : UInt8
  baselineReady : Bool
  clickpad : UInt8
  quirks : UInt32
  replies : ℕ → Reply

abbrev DrvM := Prog Drv Effect

/-! ## The kernel's services -/

/-- The next reply of whatever is called. -/
def ask : DrvM Reply := do
  let data ← get
  modify fun data => { data with replies := fun n => data.replies (n + 1) }
  pure (data.replies 0)

def askStatus : DrvM ℤ := do
  let reply ← ask
  pure reply.status

def call (op : Op) : DrvM Reply := do
  emit (.transport op)
  ask

def callStatus (op : Op) : DrvM ℤ := do
  let reply ← call op
  pure reply.status

/-- A call with out-parameters in `data`. -/
def query (op : Op) (store : Reply → Drv → Drv) : DrvM ℤ := do
  let reply ← call op
  modify (store reply)
  pure reply.status

/-- `data->ops->set_mode(client, data->mode)`. -/
def setMode (site : Site) : DrvM ℤ := do
  let data ← get
  emit (.setMode site data.mode)
  askStatus

def mutexLock : DrvM Unit := do
  let data ← get
  emit (.mutexLock !data.sysfsMutex)
  modify fun data => { data with sysfsMutex := true }

/-- A nonzero status: a signal came first. -/
def mutexLockInterruptible : DrvM ℤ := do
  let error ← askStatus
  if error ≠ 0 then pure error
  else do
    mutexLock
    pure 0

def mutexUnlock : DrvM Unit := do
  let data ← get
  emit (.mutexUnlock data.sysfsMutex)
  modify fun data => { data with sysfsMutex := false }

def addIrqDepth (change : ℤ) : DrvM Unit := do
  let data ← get
  modify fun data => { data with irqDepth := data.irqDepth + change }
  emit (.irqDepth (data.irqDepth + change))

def disableIrq : DrvM Unit := addIrqDepth 1
def enableIrq : DrvM Unit := addIrqDepth (-1)

/-! ## Power -/

/-- `elan_set_power`; nonnegative statuses are successes. -/
def elanSetPower (on : Bool) : DrvM ℤ := do
  let error ← retry (fun error => 0 ≤ error) (callStatus (.powerControl on)) etpRetries
  pure (if 0 ≤ error then 0 else error)

def elanSleep : DrvM ℤ :=
  retry (fun error => error = 0) (callStatus (.sleepControl true)) etpRetries

/-! ## Initialisation -/

def elanQueryProduct : DrvM ℤ := do
  let error ← query .getProductId fun reply data =>
    { data with productId := (reply.out 0).toUInt16 }
  if error ≠ 0 then pure error
  else do
    let error ← query .getPattern fun reply data =>
      { data with pattern := (reply.out 0).toUInt8 }
    if error ≠ 0 then pure error
    else query .getSmVersion fun reply data => { data with
      icType := (reply.out 0).toUInt16
      smVersion := (reply.out 1).toUInt8
      clickpad := (reply.out 2).toUInt8 }

/-- `elan_check_ASUS_special_fw`. -/
def elanCheckAsusSpecialFw (icType productId : UInt16) : Bool :=
  if icType = 0x0e then
    (0x05 ≤ productId && productId ≤ 0x07) || productId = 0x09 || productId = 0x13
  else icType = 0x08 && productId = 0x26

/-- `__elan_initialize`. -/
def elanInitializeOnce (skipReset : Bool) : DrvM ℤ := do
  let error ← (if skipReset then pure 0 else callStatus .initializeDevice)
  if error ≠ 0 then pure error
  else do
    let error ← elanQueryProduct
    if error ≠ 0 then pure error
    else do
      let data ← get
      let special := elanCheckAsusSpecialFw data.icType data.productId
      -- some ASUS firmware has to be woken up before the absolute mode
      let error ← (if special then callStatus (.sleepControl false) else pure 0)
      if error ≠ 0 then pure error
      else do
        modify fun data => { data with mode := data.mode ||| etpEnableAbs }
        let error ← setMode .elanInitialize
        if error ≠ 0 then pure error
        else if special then pure 0
        else callStatus (.sleepControl false)

/-- `elan_initialize`: only the first attempt may skip the reset. -/
def elanInitialize (skipReset : Bool) : DrvM ℤ := do
  let error ← elanInitializeOnce skipReset
  if error = 0 then pure 0
  else retry (fun error => error = 0) (elanInitializeOnce false) 1

/-! ## Device information -/

/-- The entries of `elan_i2c_quirks`: WHITEBOX is 0xb8, VOXEL 0xbf, DELBIN 0xc2, MAGPIE
0x120 and BOBBA 0x121. -/
def elanI2cQuirks : List (UInt16 × UInt16) :=
  [(0x0d, 0xc2), (0x0d, 0xb8), (0x10, 0xbf), (0x14, 0x120), (0x14, 0x121)]

def elanI2cLookupQuirks (icType productId : UInt16) : UInt32 :=
  if (icType, productId) ∈ elanI2cQuirks ∨ (0x0d ≤ icType ∧ 0x123 ≤ productId) then
    etpQuirkQuickWakeup
  else 0

/-- The page count of `elan_get_fwinfo` by controller type. -/
def validpageCount (icType : UInt16) : Option UInt16 :=
  if icType ∈ [0x00, 0x06, 0x08] then some 512
  else if icType ∈ [0x03, 0x07, 0x09, 0x0a, 0x0b, 0x0c] then some 768
  else if icType = 0x0d then some 896
  else if icType = 0x0e then some 640
  else if icType = 0x10 then some 1024
  else if icType = 0x11 then some 1280
  else if icType = 0x13 then some 2048
  else if icType ∈ [0x14, 0x15] then some 1024
  else if icType = 0x19 then some 2032
  else none

structure FwInfo where
  validpageCount : UInt16
  signatureAddress : UInt32
  pageSize : UInt16
  deriving DecidableEq, Repr

/-- `elan_get_fwinfo`: all three are zero for an unknown controller type, and the
status is `-ENXIO`. -/
def elanGetFwinfo (icType : UInt16) (iapVersion : UInt8) : ℤ × FwInfo :=
  match validpageCount icType with
  | none => (enxio, ⟨0, 0, 0⟩)
  | some count =>
    let signatureAddress := count.toUInt32 * etpFwPageSize.toUInt32 - etpFwSignatureSize.toUInt32
    if (icType = 0x14 ∨ icType = 0x15) ∧ 2 ≤ iapVersion then
      (0, ⟨count / 8, signatureAddress, etpFwPageSize512⟩)
    else if 0x0d ≤ icType ∧ 1 ≤ iapVersion then
      (0, ⟨count / 2, signatureAddress, etpFwPageSize128⟩)
    else (0, ⟨count, signatureAddress, etpFwPageSize⟩)

/-- The end of `elan_query_device_info`; an unknown controller is only warned about. -/
def storeDeviceInfo (data : Drv) : Drv :=
  let info := (elanGetFwinfo data.icType data.iapVersion).2
  { data with
    reportFeatures := (getReportFeatures data.ops data.pattern).1
    reportLen := (getReportFeatures data.ops data.pattern).2
    quirks := elanI2cLookupQuirks data.icType data.productId
    fwValidpageCount := info.validpageCount
    fwSignatureAddress := info.signatureAddress
    fwPageSize := info.pageSize }

def elanQueryDeviceInfo : DrvM ℤ := do
  let error ← query (.getVersion false) fun reply data =>
    { data with fwVersion := (reply.out 0).toUInt8 }
  if error ≠ 0 then pure error
  else do
    let error ← query (.getChecksum false) fun reply data =>
      { data with fwChecksum := (reply.out 0).toUInt16 }
    if error ≠ 0 then pure error
    else do
      let error ← query (.getVersion true) fun reply data =>
        { data with iapVersion := (reply.out 0).toUInt8 }
      if error ≠ 0 then pure error
      else do
        let error ← query .getPressureAdjustment fun reply data =>
          { data with pressureAdjustment := (reply.out 0).toInt32 }
        if error ≠ 0 then pure error
        else do
          modify storeDeviceInfo
          pure 0

end Driver
