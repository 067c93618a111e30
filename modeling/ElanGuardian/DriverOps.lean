/-
# The driver's operations

Recovery, calibration, baseline acquisition and firmware update from sysfs, the
watchdog work, suspend, resume and probe of `elan_i2c_core.c`, with the firmware-update
ending of `elan_i2c_i2c.c`, each run to its end by itself.  (`Interleaving` has the
operations as threads.)
-/
import ElanGuardian.Driver
import ElanGuardian.Interrupt

open Prog ElanCore ReportShim Transport Interrupt

namespace Driver

/-- `-EBADF`. -/
def ebadf : ℤ := -9
/-- `-ENOMEM`. -/
def enomem : ℤ := -12
/-- `-ETIMEDOUT`. -/
def etimedout : ℤ := -110

/-! ## Critical sections -/

/-- A sysfs operation between `mutex_lock_interruptible` and `mutex_unlock`, with the
interrupt disabled. -/
def underMutex (body : DrvM ℤ) : DrvM ℤ := do
  let error ← mutexLockInterruptible
  if error ≠ 0 then pure error
  else do
    disableIrq
    let retval ← body
    enableIrq
    mutexUnlock
    pure retval

/-- What a sysfs store returns: `error ?: count`. -/
def orCount (error count : ℤ) : ℤ := if error ≠ 0 then error else count

/-! ## Recovery -/

def emitInputs (dev : InputDev) : List InputEvent → DrvM Unit
  | [] => pure ()
  | event :: events => do
    emit (.input dev event)
    emitInputs dev events

def releaseButtons : List InputEvent :=
  [.key .btnLeft false, .key .btnMiddle false, .key .btnRight false]

/-- The touchpad's part of `elan_release_inputs`. -/
def releaseTouchpad : List InputEvent :=
  (List.range maxContacts).flatMap (fun slot => [.mtSlot slot, .mtSlotState false])
    ++ releaseButtons ++ [.pointerEmulation, .sync]

def elanReleaseInputs : DrvM Unit := do
  let data ← get
  emitInputs .touchpad releaseTouchpad
  if data.tpInput then emitInputs .trackpoint (releaseButtons ++ [.sync]) else pure ()

def elanWatchdogPing : DrvM ℤ :=
  retry (fun error => error = 0) (callStatus .healthCheck) etpRetries

/-- `elan_recover_locked`. -/
def elanRecoverLocked : DrvM ℤ := do
  let phase := elanRsRecoveryNext recoveryIdle 0
  if phase ≠ recoveryReleaseInput then pure eproto
  else do
    elanReleaseInputs
    emit (.writeReportErrors 0)
    modify fun data => { data with reportErrors := 0 }
    let phase := elanRsRecoveryNext phase 0
    if phase ≠ recoveryReinitialize then pure eproto
    else do
      let error ← elanInitialize false
      let phase := elanRsRecoveryNext phase error
      if phase = recoveryFailed then pure error
      else if phase ≠ recoveryVerify then pure eproto
      else do
        let error ← elanWatchdogPing
        let phase := elanRsRecoveryNext phase error
        if phase = recoveryFailed then pure error
        else if phase ≠ recoveryRestoreMode then pure eproto
        else do
          let error ← setMode .elanRecoverLocked
          let phase := elanRsRecoveryNext phase error
          if phase = recoveryFailed then pure error
          else if phase ≠ recoveryComplete then pure eproto
          else pure 0

/-- One transport stage of the recovery: stop when it failed, or when the phases disagree. -/
def recoveryStage (phase wanted : UInt32) (x y : DrvM ℤ) : DrvM ℤ := do
  let error ← x
  if elanRsRecoveryNext phase error = recoveryFailed then pure error
  else if elanRsRecoveryNext phase error ≠ wanted then pure eproto
  else y

/-- One stage of `elan_recover_locked`: a failure, a phase that was not wanted, or the next stage.
-/
theorem recoveryStage_eq {phase wanted : UInt32} {x y : DrvM ℤ} {f : ℤ → DrvM ℤ}
    (h : ∀ error, elanRsRecoveryNext phase error = wanted → f error = y) :
    (x >>= fun error => if elanRsRecoveryNext phase error = recoveryFailed then pure error
      else if elanRsRecoveryNext phase error ≠ wanted then pure eproto else f error)
    = recoveryStage phase wanted x y := by
  unfold recoveryStage
  refine bind_congr fun error => ?_
  by_cases hw : elanRsRecoveryNext phase error = wanted
  · rw [h error hw]
  · simp only [ne_eq, hw, not_false_eq_true, if_true]

/-- **The recovery is a chain of three stages** after the reset of the streak. -/
theorem elanRecoverLocked_eq : elanRecoverLocked = (do
    elanReleaseInputs
    emit (.writeReportErrors 0)
    modify fun data => { data with reportErrors := 0 }
    recoveryStage recoveryReinitialize recoveryVerify (elanInitialize false)
      (recoveryStage recoveryVerify recoveryRestoreMode elanWatchdogPing
        (recoveryStage recoveryRestoreMode recoveryComplete (setMode .elanRecoverLocked)
          (pure 0)))) := by
  have hrelease : elanRsRecoveryNext recoveryIdle 0 = recoveryReleaseInput := by decide
  have hinit : elanRsRecoveryNext recoveryReleaseInput 0 = recoveryReinitialize := by decide
  unfold elanRecoverLocked
  simp only [hrelease, hinit, ne_eq, not_true_eq_false, if_false]
  refine bind_congr fun _ => bind_congr fun _ => bind_congr fun _ => ?_
  refine recoveryStage_eq fun error hverify => ?_
  rw [hverify]
  refine recoveryStage_eq fun error hrestore => ?_
  rw [hrestore]
  rfl

/-- `sysfs_streq`: a trailing newline does not count. -/
def sysfsStreq (s t : String) : Bool := s = t || s = t ++ "\n" || t = s ++ "\n"

def recoverStore (buf : String) (count : ℤ) : DrvM ℤ :=
  if sysfsStreq buf "1" then do
    let error ← underMutex elanRecoverLocked
    pure (orCount error count)
  else pure einval

/-- The branch of `elan_watchdog_work` that recovers. -/
def watchdogRecovers : DrvM Unit := do
  disableIrq
  let error ← elanRecoverLocked
  modify fun data =>
    if error ≠ 0 then data else { data with watchdogRecoveries := data.watchdogRecoveries + 1 }
  enableIrq

def elanWatchdogWork : DrvM Unit := do
  mutexLock
  let data ← get
  let action := elanRsWatchdogAction data.openCount 0 data.reportErrors etpWatchdogReportErrors
  (if action = watchdogRecover then watchdogRecovers else pure ())
  mutexUnlock

/-! ## Calibration and baseline -/

def setCalibrate : DrvM Unit :=
  modify fun data => { data with mode := data.mode ||| etpEnableCalibrate }

def clearCalibrate : DrvM Unit :=
  modify fun data => { data with mode := data.mode &&& ~~~etpEnableCalibrate }

/-- The frame that `calibrate_store` and `acquire_store` share: calibration mode around
`body`, left again on every exit. -/
def withCalibrate (site : Site) (body : DrvM ℤ) : DrvM ℤ := do
  setCalibrate
  let retval ← setMode site
  if retval ≠ 0 then do
    clearCalibrate
    pure retval
  else do
    let retval ← body
    -- out_disable_calibrate
    clearCalibrate
    let error ← setMode site
    pure (if error ≠ 0 ∧ retval = 0 then error else retval)

/-- The polling loop of `calibrate_store`. -/
def pollCalibration : ℕ → DrvM ℤ
  | 0 => pure etimedout
  | tries + 1 => do
    let result ← call .calibrateResult
    if result.status = 0 ∧ (result.out 0).toUInt8 = 0 then pure 0 else pollCalibration tries

def calibrate : DrvM ℤ := do
  let retval ← callStatus .calibrate
  if retval ≠ 0 then pure retval else pollCalibration 20

def calibrateStore (count : ℤ) : DrvM ℤ := do
  let retval ← underMutex (withCalibrate .calibrateStore calibrate)
  pure (orCount retval count)

def acquireBaseline : DrvM ℤ := do
  let retval ← query (.getBaselineData true) fun reply data =>
    { data with maxBaseline := (reply.out 0).toUInt8 }
  if retval ≠ 0 then pure retval
  else do
    let retval ← query (.getBaselineData false) fun reply data =>
      { data with minBaseline := (reply.out 0).toUInt8 }
    if retval ≠ 0 then pure retval
    else do
      modify fun data => { data with baselineReady := true }
      pure 0

def acquireStore (count : ℤ) : DrvM ℤ := do
  let retval ← underMutex do
    modify fun data => { data with baselineReady := false }
    withCalibrate .acquireStore acquireBaseline
  pure (orCount retval count)

/-! ## Firmware update -/

/-- `ETP_IAP_START_ADDR * 2`. -/
def etpIapStartOffset : ℕ := 0x83 * 2

def signature : List UInt8 := [0xaa, 0x55, 0xcc, 0x33, 0xff, 0xff]

/-- `get_unaligned_le16`. -/
def le16 (fw : List UInt8) (offset : ℕ) : UInt16 :=
  (fw.getD (offset + 1) 0).toUInt16 <<< 8 ||| (fw.getD offset 0).toUInt16

/-- The checksum of the page at `offset`: a 16-bit sum of its little-endian words. -/
def pageChecksum (fw : List UInt8) (offset pageSize : ℕ) : UInt16 :=
  ((List.range ((pageSize + 1) / 2)).map fun j => le16 fw (offset + 2 * j)).foldl (· + ·) 0

def elanWriteFwBlock (checksum : UInt16) (idx : ℕ) : DrvM ℤ :=
  retry (fun error => error = 0) (callStatus (.writeFwBlock checksum idx)) etpRetries

/-- The page loop of `__elan_update_firmware`, from page `i` on: the status, and the sum of
the checksums. -/
def writePages (fw : List UInt8) (pageSize : ℕ) (i : ℕ) (swChecksum : UInt16) :
    ℕ → DrvM (ℤ × UInt16)
  | 0 => pure (0, swChecksum)
  | remaining + 1 => do
    let checksum := pageChecksum fw (i * pageSize) pageSize
    let error ← elanWriteFwBlock checksum i
    if error ≠ 0 then pure (error, swChecksum)
    else writePages fw pageSize (i + 1) (swChecksum + checksum) remaining

/-- `i2c_master_recv` in `elan_i2c_finish_fw_update`: its status if it is not what
`wanted` asks for. -/
def masterRecv (wanted : ℤ → Bool) : DrvM ℤ := do
  let len ← askStatus
  pure (if wanted len then 0 else if len < 0 then len else eio)

/-- The part of `elan_i2c_finish_fw_update` with the interrupt enabled: reset the device
and wait for the handler to complete `fw_completion`. -/
def resetAndWait : DrvM ℤ := do
  enableIrq
  let error ← askStatus
  let waited ← (if error ≠ 0 then pure 1 else askStatus)
  disableIrq
  pure (if error ≠ 0 then error else if waited = 0 then etimedout else 0)

def etpI2cInfLength : ℤ := 2

def elanI2cFinishFwUpdate : DrvM ℤ := do
  -- a failure of the first read is only warned about, and its error overwritten
  let _ ← masterRecv fun len => 0 < len
  let error ← resetAndWait
  if error ≠ 0 then pure error
  else masterRecv fun len => len = etpI2cInfLength

/-- `data->ops->finish_fw_update`; SMBus needs no special handling. -/
def finishFwUpdate : Bus → DrvM ℤ
  | .i2c => elanI2cFinishFwUpdate
  | .smbus => pure 0

/-- `__elan_update_firmware`. -/
def elanUpdateFirmwareOnce (fw : List UInt8) : DrvM ℤ := do
  let error ← callStatus .prepareFwUpdate
  if error ≠ 0 then pure error
  else do
    let data ← get
    let iapStartAddr := le16 fw etpIapStartOffset
    let bootPageCount := UInt16.ofNat (iapStartAddr.toNat * 2 / data.fwPageSize.toNat)
    let written ← writePages fw data.fwPageSize.toNat bootPageCount.toNat 0
      (data.fwValidpageCount.toNat - bootPageCount.toNat)
    if written.1 ≠ 0 then pure written.1
    else do
      let error ← finishFwUpdate data.ops
      if error ≠ 0 then pure error
      else do
        let fwChecksum ← call (.getChecksum true)
        if fwChecksum.status ≠ 0 then pure fwChecksum.status
        else pure (if written.2 ≠ (fwChecksum.out 0).toUInt16 then eio else 0)

/-- The controller after an update: reset, or initialised again. -/
def afterUpdate (retval : ℤ) : DrvM Unit :=
  if retval ≠ 0 then do
    let _ ← call .iapReset
    pure ()
  else do
    let _ ← elanInitialize false
    let _ ← elanQueryDeviceInfo
    pure ()

def elanUpdateFirmware (fw : List UInt8) : DrvM ℤ := do
  disableIrq
  modify fun data => { data with inFwUpdate := true }
  let retval ← elanUpdateFirmwareOnce fw
  afterUpdate retval
  modify fun data => { data with inFwUpdate := false }
  enableIrq
  pure retval

/-- `elan_sysfs_update_fw` on the firmware file that `request_firmware` finds. -/
def elanSysfsUpdateFw (fw : List UInt8) (count : ℤ) : DrvM ℤ := do
  let data ← get
  if data.fwValidpageCount = 0 then pure einval
  else do
    let fwName ← askStatus
    if fwName ≠ 0 then pure enomem
    else do
      let error ← askStatus
      if error ≠ 0 then pure error
      else if fw.length < data.fwSignatureAddress.toNat + signature.length then pure ebadf
      else if (fw.drop data.fwSignatureAddress.toNat).take signature.length ≠ signature then
        pure ebadf
      else do
        let error ← mutexLockInterruptible
        if error ≠ 0 then pure error
        else do
          let error ← elanUpdateFirmware fw
          mutexUnlock
          pure (orCount error count)

/-! ## Power management -/

/-- `device_may_wakeup`; user space may change it at any time. -/
def deviceMayWakeup : DrvM Bool := do
  let reply ← ask
  pure (reply.status ≠ 0)

/-- Put the chip to sleep, or cut its power. -/
def powerDown : DrvM ℤ := do
  let wakeup ← deviceMayWakeup
  if wakeup then elanSleep
  else do
    let ret ← elanSetPower false
    if ret ≠ 0 then pure ret
    else do
      -- regulator_disable
      let ret ← askStatus
      if ret ≠ 0 then do
        let _ ← elanSetPower true
        pure ret
      else pure 0

/-- `elan_suspend`; no work item is queued when an operation runs by itself. -/
def elanSuspend : DrvM ℤ := do
  let ret ← mutexLockInterruptible
  if ret ≠ 0 then pure ret
  else do
    disableIrq
    let ret ← powerDown
    (if ret ≠ 0 then enableIrq else pure ())
    mutexUnlock
    pure ret

/-- `elan_resume` up to its `err` label. -/
def powerUp : DrvM ℤ := do
  let wakeup ← deviceMayWakeup
  -- regulator_enable
  let error ← (if wakeup then pure 0 else askStatus)
  if error ≠ 0 then pure error
  else do
    let error ← elanSetPower true
    if error ≠ 0 then pure error
    else do
      let data ← get
      elanInitialize (data.quirks &&& etpQuirkQuickWakeup ≠ 0)

def elanResume : DrvM ℤ := do
  let error ← powerUp
  enableIrq
  pure error

/-! ## Probe -/

/-- A transport query that a firmware property makes superfluous. -/
def queryUnlessProperty (op : Op) : DrvM ℤ := do
  let property ← askStatus
  if property = 0 then pure 0 else callStatus op

/-- The order of the queries in `elan_query_device_parameters`. -/
def parameterQueries (query : Op → DrvM ℤ) : DrvM ℤ := do
  let error ← query .getMax
  if error ≠ 0 then pure error
  else do
    let error ← query .getNumTraces
    if error ≠ 0 then pure error else query .getResolution

/-- `elan_query_device_parameters` without its values; `DeviceParameters` has these. -/
def elanQueryDeviceParameters : DrvM ℤ := parameterQueries queryUnlessProperty

/-- Allocations and registrations, up to the first that fails. -/
def acquire : ℕ → DrvM ℤ
  | 0 => pure 0
  | n + 1 => do
    let error ← askStatus
    if error ≠ 0 then pure error else acquire n

/-- The input devices of `elan_probe`; the trackpoint is there if the firmware says so. -/
def setupInputDevices : DrvM ℤ := do
  let error ← acquire 1
  if error ≠ 0 then pure error
  else do
    let trackpoint ← askStatus
    let error ← acquire (if trackpoint ≠ 0 then 1 else 0)
    if error ≠ 0 then pure error
    else do
      modify fun data => { data with tpInput := trackpoint ≠ 0 }
      pure 0

/-- `elan_probe` on a supported adapter. -/
def elanProbe : DrvM ℤ := do
  -- the watchdog's cleanup, the regulator, its enabling and its cleanup
  let error ← (if elanRsAbiVersion ≠ abiVersion then pure eproto else acquire 4)
  if error ≠ 0 then pure error
  else do
    -- i2c_smbus_read_byte: is there something at this address?
    let found ← askStatus
    if found < 0 then pure enxio
    else do
      let error ← elanInitialize false
      if error ≠ 0 then pure error
      else do
        let error ← elanQueryDeviceInfo
        if error ≠ 0 then pure error
        else do
          let error ← elanQueryDeviceParameters
          if error ≠ 0 then pure error
          else do
            let error ← setupInputDevices
            if error ≠ 0 then pure error
            else do
              -- the interrupt and the input devices are registered
              let data ← get
              acquire (if data.tpInput then 3 else 2)

/-- The zeroed `struct elan_tp_data` of `elan_probe`. -/
def zeroed (ops : Bus) (replies : ℕ → Reply) : Drv where
  ops := ops
  tpInput := false
  inFwUpdate := false
  sysfsMutex := false
  irqDepth := 0
  openCount := 0
  reportErrors := 0
  watchdogRecoveries := 0
  pattern := 0
  productId := 0
  fwVersion := 0
  smVersion := 0
  iapVersion := 0
  fwChecksum := 0
  reportFeatures := 0
  reportLen := 0
  pressureAdjustment := 0
  mode := 0
  icType := 0
  fwValidpageCount := 0
  fwPageSize := 0
  fwSignatureAddress := 0
  minBaseline := 0
  maxBaseline := 0
  baselineReady := false
  clickpad := 0
  quirks := 0
  replies := replies

end Driver
