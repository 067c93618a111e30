/-
# What the driver writes

Every operation of the driver changes `struct elan_tp_data` only by a few stores (`Stores`), with
whatever the transport has answered, and by the one place where the layout of the controller is
computed (`Writes`); that place is in probe and in the firmware update only (`exec_stores`).  Each
function is shown to do so once, and the invariants of all runs of the driver, from the start of
probe on, are then invariants of these few steps (`Session.invariant`).
-/
import ElanGuardian.Footprint
import ElanGuardian.Quiescent

open Prog ElanCore ReportShim Transport Interrupt

namespace Driver

/-- The stores of the driver, one constructor for each place of `struct elan_tp_data` but the
layout of the controller. -/
inductive Stores : Drv → Drv → Prop
  | replies (data : Drv) (replies : ℕ → Reply) : Stores data { data with replies := replies }
  | sysfsMutex (data : Drv) (held : Bool) : Stores data { data with sysfsMutex := held }
  | irqDepth (data : Drv) (depth : ℤ) : Stores data { data with irqDepth := depth }
  | counters (data : Drv) (openCount reportErrors watchdogRecoveries : UInt32) :
      Stores data { data with
        openCount := openCount
        reportErrors := reportErrors
        watchdogRecoveries := watchdogRecoveries }
  | mode (data : Drv) (mode : UInt8) : Stores data { data with mode := mode }
  | productId (data : Drv) (id : UInt16) : Stores data { data with productId := id }
  | pattern (data : Drv) (pattern : UInt8) : Stores data { data with pattern := pattern }
  | smVersion (data : Drv) (icType : UInt16) (version clickpad : UInt8) :
      Stores data { data with icType := icType, smVersion := version, clickpad := clickpad }
  | fwVersion (data : Drv) (version : UInt8) : Stores data { data with fwVersion := version }
  | fwChecksum (data : Drv) (checksum : UInt16) : Stores data { data with fwChecksum := checksum }
  | iapVersion (data : Drv) (version : UInt8) : Stores data { data with iapVersion := version }
  | pressureAdjustment (data : Drv) (adjustment : Int32) :
      Stores data { data with pressureAdjustment := adjustment }
  | baseline (data : Drv) (minBaseline maxBaseline : UInt8) (ready : Bool) :
      Stores data { data with
        minBaseline := minBaseline
        maxBaseline := maxBaseline
        baselineReady := ready }
  | inFwUpdate (data : Drv) (updating : Bool) : Stores data { data with inFwUpdate := updating }
  | tpInput (data : Drv) (trackpoint : Bool) : Stores data { data with tpInput := trackpoint }

/-- The stores of the driver, with that of the layout at the end of `elan_query_device_info`. -/
inductive Writes : Drv → Drv → Prop
  | store {data data' : Drv} (h : Stores data data') : Writes data data'
  | deviceInfo (data : Drv) : Writes data (storeDeviceInfo data)

/-- The program changes the data, the layout apart, by these stores only. -/
abbrev StoresVia {α : Type} (x : DrvM α) : Prop := Via Stores x

/-- The program changes the data by these stores only. -/
abbrev WritesVia {α : Type} (x : DrvM α) : Prop := Via Writes x

/-- Most functions leave the layout alone. -/
theorem StoresVia.writes {α : Type} {x : DrvM α} (hx : StoresVia x) : WritesVia x :=
  hx.mono fun _ _ => .store

section Functions

variable {α β : Type}

/-! ## The kernel's services -/

/-- A reply is taken from those that are left. -/
theorem ask_stores : StoresVia ask :=
  .read fun _ => .bind (.modify fun s => .replies s _) fun _ => .pure _

theorem askStatus_stores : StoresVia askStatus := .bind ask_stores fun _ => .pure _

/-- A transport call stores nothing but that. -/
theorem call_stores (op : Op) : StoresVia (call op) := .bind (.emit _) fun _ => ask_stores

/-- Nor does one that only has a status. -/
theorem callStatus_stores (op : Op) : StoresVia (callStatus op) :=
  .bind (call_stores op) fun _ => .pure _

/-- A query stores what has been asked for. -/
theorem query_stores {op : Op} {store : Reply → Drv → Drv}
    (h : ∀ reply s, Stores s (store reply s)) : StoresVia (query op store) :=
  .bind (call_stores op) fun reply => .bind (.modify (h reply)) fun _ => .pure _

/-- Setting the mode stores nothing in the driver. -/
theorem setMode_stores (site : Site) : StoresVia (setMode site) :=
  .read fun _ => .bind (.emit _) fun _ => askStatus_stores

/-- Taking the mutex stores that it is taken. -/
theorem mutexLock_stores : StoresVia mutexLock :=
  .read fun _ => .bind (.emit _) fun _ => .modify fun s => .sysfsMutex s true

/-- Stop at the first error. -/
theorem StoresVia.andThen {x y : DrvM ℤ} (hx : StoresVia x) (hy : StoresVia y) :
    StoresVia (x >>= fun error => if error ≠ 0 then pure error else y) :=
  .bind hx fun _ => .ite (fun _ => .pure _) fun _ => hy

/-- And so, where the layout may be stored. -/
theorem WritesVia.andThen {x y : DrvM ℤ} (hx : WritesVia x) (hy : WritesVia y) :
    WritesVia (x >>= fun error => if error ≠ 0 then pure error else y) :=
  .bind hx fun _ => .ite (fun _ => .pure _) fun _ => hy

/-- Or a signal comes first. -/
theorem mutexLockInterruptible_stores : StoresVia mutexLockInterruptible :=
  askStatus_stores.andThen (.bind mutexLock_stores fun _ => .pure _)

/-- Releasing the mutex stores that it is free. -/
theorem mutexUnlock_stores : StoresVia mutexUnlock :=
  .read fun _ => .bind (.emit _) fun _ => .modify fun s => .sysfsMutex s false

/-- The interrupt is disabled and enabled by a counter. -/
theorem addIrqDepth_stores (change : ℤ) : StoresVia (addIrqDepth change) :=
  .read fun _ => .bind (.modify fun s => .irqDepth s _) fun _ => .emit _

theorem disableIrq_stores : StoresVia disableIrq := addIrqDepth_stores 1

theorem enableIrq_stores : StoresVia enableIrq := addIrqDepth_stores (-1)

/-- A critical section stores what its body stores. -/
theorem underMutex_stores {body : DrvM ℤ} (hbody : StoresVia body) :
    StoresVia (underMutex body) := by
  refine mutexLockInterruptible_stores.andThen (.bind disableIrq_stores fun _ => ?_)
  refine .bind hbody fun _ => .bind enableIrq_stores fun _ => ?_
  exact .bind mutexUnlock_stores fun _ => .pure _

/-! ## Initialisation -/

/-- `elan_set_power` stores nothing of its own. -/
theorem elanSetPower_stores (on : Bool) : StoresVia (elanSetPower on) :=
  .bind (.retry (callStatus_stores _) _) fun _ => .pure _

theorem elanSleep_stores : StoresVia elanSleep := .retry (callStatus_stores _) _

/-- `elan_query_product` stores the pattern and the product. -/
theorem elanQueryProduct_stores : StoresVia elanQueryProduct :=
  (query_stores fun _ s => .productId s _).andThen
    ((query_stores fun _ s => .pattern s _).andThen (query_stores fun _ s => .smVersion s _ _ _))

/-- `__elan_initialize` stores the mode. -/
theorem elanInitializeOnce_stores (skipReset : Bool) :
    StoresVia (elanInitializeOnce skipReset) := by
  refine StoresVia.andThen (.ite (fun _ => .pure _) fun _ => callStatus_stores _) ?_
  refine elanQueryProduct_stores.andThen (.read fun data => ?_)
  refine StoresVia.andThen (.ite (fun _ => callStatus_stores _) fun _ => .pure _) ?_
  refine .bind (.modify fun s => .mode s _) fun _ => (setMode_stores _).andThen ?_
  exact .ite (fun _ => .pure _) fun _ => callStatus_stores _

/-- And so do its repetitions. -/
theorem elanInitialize_stores (skipReset : Bool) : StoresVia (elanInitialize skipReset) :=
  .bind (elanInitializeOnce_stores skipReset) fun _ =>
    .ite (fun _ => .pure _) fun _ => .retry (elanInitializeOnce_stores false) 1

/-- The end of `elan_query_device_info` stores the layout. -/
theorem elanQueryDeviceInfo_writes : WritesVia elanQueryDeviceInfo := by
  have hquery {op : Op} {store : Reply → Drv → Drv} (h : ∀ reply s, Stores s (store reply s)) :
      WritesVia (query op store) := (query_stores h).writes
  refine (hquery fun _ s => .fwVersion s _).andThen ?_
  refine (hquery fun _ s => .fwChecksum s _).andThen ?_
  refine (hquery fun _ s => .iapVersion s _).andThen ?_
  refine (hquery fun _ s => .pressureAdjustment s _).andThen ?_
  exact .bind (.modify fun s => .deviceInfo s) fun _ => .pure _

/-! ## Recovery -/

/-- Events store nothing in the driver. -/
theorem emitInputs_stores (dev : InputDev) (events : List InputEvent) :
    StoresVia (emitInputs dev events) := by
  induction events with
  | nil => exact .pure _
  | cons event events ih => exact .bind (.emit _) fun _ => ih

/-- Nor does the release of the inputs. -/
theorem elanReleaseInputs_stores : StoresVia elanReleaseInputs :=
  .read fun _ => .bind (emitInputs_stores _ _) fun _ =>
    .ite (fun _ => emitInputs_stores _ _) fun _ => .pure _

/-- A stage stores what its step and the next stage store. -/
theorem recoveryStage_stores {phase wanted : UInt32} {x y : DrvM ℤ} (hx : StoresVia x)
    (hy : StoresVia y) : StoresVia (recoveryStage phase wanted x y) :=
  .bind hx fun _ => .ite (fun _ => .pure _) fun _ => .ite (fun _ => .pure _) fun _ => hy

/-- `elan_recover_locked` resets the streak, and initializes. -/
theorem elanRecoverLocked_stores : StoresVia elanRecoverLocked := by
  rw [elanRecoverLocked_eq]
  refine .bind elanReleaseInputs_stores fun _ => .bind (.emit _) fun _ => ?_
  refine .bind (.modify fun s => .counters s s.openCount 0 s.watchdogRecoveries) fun _ => ?_
  refine recoveryStage_stores (elanInitialize_stores false) ?_
  refine recoveryStage_stores (.retry (callStatus_stores _) _) ?_
  exact recoveryStage_stores (setMode_stores _) (.pure _)

/-- `recover_store` stores what the recovery does. -/
theorem recoverStore_stores (buf : String) (count : ℤ) : StoresVia (recoverStore buf count) :=
  .ite (fun _ => .bind (underMutex_stores elanRecoverLocked_stores) fun _ => .pure _)
    fun _ => .pure _

/-- The work item counts its recoveries, too. -/
theorem elanWatchdogWork_stores : StoresVia elanWatchdogWork := by
  have hcount (error : ℤ) (s : Drv) : Stores s (if error ≠ 0 then s
      else { s with watchdogRecoveries := s.watchdogRecoveries + 1 }) := by
    split_ifs
    · exact .counters s s.openCount s.reportErrors s.watchdogRecoveries
    · exact .counters s s.openCount s.reportErrors _
  have hrecovers : StoresVia watchdogRecovers :=
    .bind disableIrq_stores fun _ => .bind elanRecoverLocked_stores fun error =>
      .bind (.modify (hcount error)) fun _ => enableIrq_stores
  refine .bind mutexLock_stores fun _ => .read fun data => ?_
  exact .bind (.ite (fun _ => hrecovers) fun _ => .pure _) fun _ => mutexUnlock_stores

/-! ## Calibration and baseline -/

/-- A calibration sets the mode before and after. -/
theorem withCalibrate_stores {site : Site} {body : DrvM ℤ} (hbody : StoresVia body) :
    StoresVia (withCalibrate site body) := by
  refine .bind (.modify fun s => .mode s _) fun _ => .bind (setMode_stores _) fun retval => ?_
  refine .ite (fun _ => .bind (.modify fun s => .mode s _) fun _ => .pure _) fun _ => ?_
  refine .bind hbody fun retval => .bind (.modify fun s => .mode s _) fun _ => ?_
  exact .bind (setMode_stores _) fun _ => .pure _

/-- Waiting for the result stores nothing. -/
theorem pollCalibration_stores (tries : ℕ) : StoresVia (pollCalibration tries) := by
  induction tries with
  | zero => exact .pure _
  | succ tries ih => exact .bind (call_stores _) fun _ => .ite (fun _ => .pure _) fun _ => ih

/-- `calibrate_store` stores the mode. -/
theorem calibrateStore_stores (count : ℤ) : StoresVia (calibrateStore count) := by
  have hcalibrate : StoresVia calibrate :=
    (callStatus_stores _).andThen (pollCalibration_stores _)
  exact .bind (underMutex_stores (withCalibrate_stores hcalibrate)) fun _ => .pure _

/-- `acquire_store` stores the baselines as well. -/
theorem acquireStore_stores (count : ℤ) : StoresVia (acquireStore count) := by
  have hacquire : StoresVia acquireBaseline := by
    refine (query_stores fun _ s => .baseline s s.minBaseline _ s.baselineReady).andThen ?_
    refine (query_stores fun _ s => .baseline s _ s.maxBaseline s.baselineReady).andThen ?_
    exact .bind (.modify fun s => .baseline s s.minBaseline s.maxBaseline true) fun _ => .pure _
  refine .bind (underMutex_stores ?_) fun _ => .pure _
  exact .bind (.modify fun s => .baseline s s.minBaseline s.maxBaseline false) fun _ =>
    withCalibrate_stores hacquire

/-! ## Firmware update -/

/-- The pages are sent, not stored. -/
theorem writePages_stores (fw : List UInt8) (pageSize i : ℕ) (swChecksum : UInt16) (n : ℕ) :
    StoresVia (writePages fw pageSize i swChecksum n) := by
  induction n generalizing i swChecksum with
  | zero => exact .pure _
  | succ n ih =>
    exact .bind (.retry (callStatus_stores _) _) fun _ => .ite (fun _ => .pure _) fun _ => ih _ _

/-- A read of the bus stores nothing. -/
theorem masterRecv_stores (wanted : ℤ → Bool) : StoresVia (masterRecv wanted) :=
  .bind askStatus_stores fun _ => .pure _

/-- The end of an update enables the interrupt for a while. -/
theorem finishFwUpdate_stores (bus : Bus) : StoresVia (finishFwUpdate bus) := by
  cases bus with
  | i2c =>
    have hreset : StoresVia resetAndWait := by
      refine .bind enableIrq_stores fun _ => .bind askStatus_stores fun error => ?_
      refine .bind (.ite (fun _ => .pure _) fun _ => askStatus_stores) fun _ => ?_
      exact .bind disableIrq_stores fun _ => .pure _
    exact .bind (masterRecv_stores _) fun _ => hreset.andThen (masterRecv_stores _)
  | smbus => exact .pure _

/-- The update itself stores no layout. -/
theorem elanUpdateFirmwareOnce_stores (fw : List UInt8) :
    StoresVia (elanUpdateFirmwareOnce fw) := by
  refine (callStatus_stores _).andThen (.read fun data => ?_)
  refine .bind (writePages_stores _ _ _ _ _) fun _ => .ite (fun _ => .pure _) fun _ => ?_
  refine (finishFwUpdate_stores _).andThen (.bind (call_stores _) fun _ => ?_)
  exact .ite (fun _ => .pure _) fun _ => .pure _

/-- What follows an update queries the device again. -/
theorem afterUpdate_writes (retval : ℤ) : WritesVia (afterUpdate retval) :=
  .ite (fun _ => .bind (call_stores _).writes fun _ => .pure _) fun _ =>
    .bind (elanInitialize_stores false).writes fun _ =>
      .bind elanQueryDeviceInfo_writes fun _ => .pure _

/-- `elan_update_firmware` marks the update, and initializes afterwards. -/
theorem elanUpdateFirmware_writes (fw : List UInt8) : WritesVia (elanUpdateFirmware fw) := by
  have hupdating (updating : Bool) :
      WritesVia (modify fun data => { data with inFwUpdate := updating }) :=
    .modify fun s => .store (.inFwUpdate s updating)
  refine .bind disableIrq_stores.writes fun _ => .bind (hupdating true) fun _ => ?_
  refine .bind (elanUpdateFirmwareOnce_stores fw).writes fun retval => ?_
  refine .bind (afterUpdate_writes retval) fun _ => .bind (hupdating false) fun _ => ?_
  exact .bind enableIrq_stores.writes fun _ => .pure _

/-- `elan_sysfs_update_fw` does so in its critical section. -/
theorem elanSysfsUpdateFw_writes (fw : List UInt8) (count : ℤ) :
    WritesVia (elanSysfsUpdateFw fw count) := by
  refine .read fun data => .ite (fun _ => .pure _) fun _ => ?_
  refine .bind askStatus_stores.writes fun _ => .ite (fun _ => .pure _) fun _ => ?_
  refine askStatus_stores.writes.andThen (.ite (fun _ => .pure _) fun _ => ?_)
  refine .ite (fun _ => .pure _) fun _ => ?_
  refine mutexLockInterruptible_stores.writes.andThen ?_
  refine .bind (elanUpdateFirmware_writes fw) fun _ => ?_
  exact .bind mutexUnlock_stores.writes fun _ => .pure _

/-! ## Power management -/

theorem deviceMayWakeup_stores : StoresVia deviceMayWakeup := .bind ask_stores fun _ => .pure _

/-- `elan_suspend` stores no layout. -/
theorem elanSuspend_stores : StoresVia elanSuspend := by
  have hdown : StoresVia powerDown := by
    refine .bind deviceMayWakeup_stores fun _ => .ite (fun _ => elanSleep_stores) fun _ => ?_
    refine (elanSetPower_stores false).andThen (.bind askStatus_stores fun _ => ?_)
    exact .ite (fun _ => .bind (elanSetPower_stores true) fun _ => .pure _) fun _ => .pure _
  refine mutexLockInterruptible_stores.andThen (.bind disableIrq_stores fun _ => ?_)
  refine .bind hdown fun ret => ?_
  refine .bind (.ite (fun _ => enableIrq_stores) fun _ => .pure _) fun _ => ?_
  exact .bind mutexUnlock_stores fun _ => .pure _

/-- Neither does `elan_resume`. -/
theorem elanResume_stores : StoresVia elanResume := by
  have hup : StoresVia powerUp := by
    refine .bind deviceMayWakeup_stores fun _ => ?_
    refine StoresVia.andThen (.ite (fun _ => .pure _) fun _ => askStatus_stores) ?_
    exact (elanSetPower_stores true).andThen (.read fun _ => elanInitialize_stores _)
  exact .bind hup fun _ => .bind enableIrq_stores fun _ => .pure _

/-! ## Probe -/

/-- A query of the parameters keeps its values elsewhere. -/
theorem queryUnlessProperty_stores (op : Op) : StoresVia (queryUnlessProperty op) :=
  .bind askStatus_stores fun _ => .ite (fun _ => .pure _) fun _ => callStatus_stores op

/-- Acquisitions store nothing. -/
theorem acquire_stores (n : ℕ) : StoresVia (acquire n) := by
  induction n with
  | zero => exact .pure _
  | succ n ih => exact askStatus_stores.andThen ih

/-- Whether there is a trackpoint is stored. -/
theorem setupInputDevices_stores : StoresVia setupInputDevices := by
  refine (acquire_stores 1).andThen (.bind askStatus_stores fun trackpoint => ?_)
  refine (acquire_stores _).andThen (.bind (.modify fun s => .tpInput s _) fun _ => .pure _)

/-- A probe stores fields, and queries the device once. -/
theorem elanProbe_writes : WritesVia elanProbe := by
  have hparameters : StoresVia elanQueryDeviceParameters :=
    (queryUnlessProperty_stores _).andThen
      ((queryUnlessProperty_stores _).andThen (queryUnlessProperty_stores _))
  have hinputs : StoresVia (setupInputDevices >>= fun error => if error ≠ 0 then pure error
      else get >>= fun data => acquire (if data.tpInput then 3 else 2)) :=
    setupInputDevices_stores.andThen (.read fun _ => acquire_stores _)
  refine WritesVia.andThen (.ite (fun _ => .pure _) fun _ => (acquire_stores 4).writes) ?_
  refine .bind askStatus_stores.writes fun _ => .ite (fun _ => .pure _) fun _ => ?_
  refine (elanInitialize_stores false).writes.andThen (elanQueryDeviceInfo_writes.andThen ?_)
  exact (hparameters.andThen hinputs).writes

/-- **Only a firmware update stores a layout**; what the other operations write is this. -/
theorem exec_stores {op : DriverOp} (hop : ∀ fw count, op ≠ .updateFw fw count) :
    StoresVia op.exec := by
  cases op with
  | recoverStore buf count => exact recoverStore_stores buf count
  | watchdogWork => exact .bind elanWatchdogWork_stores fun _ => .pure _
  | calibrateStore count => exact calibrateStore_stores count
  | acquireStore count => exact acquireStore_stores count
  | updateFw fw count => exact absurd rfl (hop fw count)
  | suspend => exact elanSuspend_stores
  | resume => exact elanResume_stores
  | between openCount reportErrors =>
    exact .bind (.modify fun s => .counters s _ _ s.watchdogRecoveries) fun _ => .pure _

/-- **What an operation writes**, whatever is answered. -/
theorem exec_writes (op : DriverOp) : WritesVia op.exec := by
  by_cases hop : ∀ fw count, op ≠ .updateFw fw count
  · exact (exec_stores hop).writes
  · push Not at hop
    obtain ⟨fw, count, rfl⟩ := hop
    exact elanSysfsUpdateFw_writes fw count

end Functions

/-! ## Runs of the driver -/

/-- **Invariants of the driver.**  What holds of the zeroed data and is kept by every store holds
after every operation of every run, also when probe itself has failed. -/
theorem Session.invariant {J : Drv → Prop} {bus : Bus} {replies : ℕ → Reply}
    (hzeroed : J (zeroed bus replies)) (hJ : ∀ s s', Writes s s' → J s → J s')
    {ops : List DriverOp} {s : Session}
    (hrun : Runs.runFrom perform (probed bus replies) ops = some s) : J s.data := by
  have hstep : ∀ s op s', perform s op = some s' → J s.data → J s'.data := by
    intro s op s' hperform hs
    unfold perform at hperform
    split_ifs at hperform
    rw [← Option.some.inj hperform]
    exact (exec_writes op).keeps hJ hs
  have hprobed : J (run elanProbe (zeroed bus replies)).state :=
    elanProbe_writes.keeps (J := J) hJ hzeroed
  exact Runs.runFrom_invariant (I := fun s : Session => J s.data)
    (fun s op s' hs hp => hstep s op s' hp hs) hprobed hrun

end Driver
