/-
# The quiescent invariant

Between two operations the mutex is free, the interrupt is disabled exactly when the
device is suspended, and the mode is absolute and not calibrating.  Each operation is
proved to restore this by one triple, whatever the transport answers; a run of
operations then keeps it by induction.

A triple speaks about every effect as well: no operation takes a mutex that it holds,
the depth never falls below zero, also not where the I2C firmware update enables the
interrupt inside its own section, and `elan_initialize` and `elan_recover_locked` only
ever set an absolute mode without calibration.
-/
import ElanGuardian.DriverOps
import ElanGuardian.Runs

open Prog ElanCore ReportShim Transport Interrupt

namespace Driver

/-! ## Assertions -/

/-- What the operations share with the interrupt handler and the input nodes. -/
structure Counters where
  openCount : UInt32
  reportErrors : UInt32
  watchdogRecoveries : UInt32
  deriving DecidableEq, Repr

def Drv.counters (data : Drv) : Counters :=
  ⟨data.openCount, data.reportErrors, data.watchdogRecoveries⟩

/-- The mutex is held or not, the interrupt is at `depth`, the counters meet `C`, the mode
is absolute if `abs` says so, and calibrating or not. -/
structure At (held : Bool) (depth : ℤ) (C : Counters → Prop) (abs calibrating : Bool)
    (data : Drv) : Prop where
  mutex : data.sysfsMutex = held
  depth : data.irqDepth = depth
  counters : C data.counters
  abs : abs = true → data.mode &&& etpEnableAbs ≠ 0
  calibrating : calibrating = false → data.mode &&& etpEnableCalibrate = 0

/-- What holds of each effect on the way. -/
def Effect.Sound : Effect → Prop
  | .mutexLock free => free = true
  | .mutexUnlock held => held = true
  | .irqDepth depth => 0 ≤ depth
  | .setMode site mode => site = .elanInitialize ∨ site = .elanRecoverLocked →
    mode &&& etpEnableAbs ≠ 0 ∧ mode &&& etpEnableCalibrate = 0
  | _ => True

/-- `x` keeps `I`, with sound effects. -/
abbrev Keeps {α : Type} (I : Drv → Prop) (x : DrvM α) : Prop :=
  Triple I x (fun _ => I) Effect.Sound

/-! ## Bits of the mode -/

/-- The absolute mode is set. -/
theorem absolute_or (mode : UInt8) : (mode ||| etpEnableAbs) &&& etpEnableAbs ≠ 0 := by
  have habsorb : (mode ||| etpEnableAbs) &&& etpEnableAbs = etpEnableAbs := by
    rw [← UInt8.toBitVec_inj]
    ext i hi
    simp
    grind
  rw [habsorb]
  decide

/-- Setting the absolute mode does not calibrate. -/
theorem calibrate_or_absolute (mode : UInt8) :
    (mode ||| etpEnableAbs) &&& etpEnableCalibrate = mode &&& etpEnableCalibrate := by
  rw [← UInt8.toBitVec_inj]
  simp [BitVec.and_or_distrib_right, etpEnableAbs, etpEnableCalibrate]

/-- Calibrating does not change the absolute mode. -/
theorem absolute_or_calibrate (mode : UInt8) :
    (mode ||| etpEnableCalibrate) &&& etpEnableAbs = mode &&& etpEnableAbs := by
  rw [← UInt8.toBitVec_inj]
  simp [BitVec.and_or_distrib_right, etpEnableAbs, etpEnableCalibrate]

/-- The calibration mode is cleared. -/
theorem calibrate_cleared (mode : UInt8) :
    (mode &&& ~~~etpEnableCalibrate) &&& etpEnableCalibrate = 0 := by
  have hnone : ~~~etpEnableCalibrate &&& etpEnableCalibrate = 0 := rfl
  rw [UInt8.and_assoc, hnone, UInt8.and_zero]

/-- And clearing it leaves the absolute mode. -/
theorem absolute_cleared (mode : UInt8) :
    (mode &&& ~~~etpEnableCalibrate) &&& etpEnableAbs = mode &&& etpEnableAbs := by
  rw [UInt8.and_assoc]
  rfl

/-! ## The kernel's services -/

section Services

variable {held abs calibrating : Bool} {depth : ℤ} {C : Counters → Prop} {data : Drv}

/-- The mode is as it should be between two operations, and so it is nothing less. -/
theorem At.weaken (h : At held depth C true false data) : At held depth C abs calibrating data :=
  ⟨h.mutex, h.depth, h.counters, fun _ => h.abs rfl, fun _ => h.calibrating rfl⟩

/-- A reply changes nothing that is asserted. -/
theorem ask_keeps : Keeps (At held depth C abs calibrating) ask :=
  Triple.read fun _ => Triple.bind (Triple.modify fun _ hs => ⟨hs.1, hs.2, hs.3, hs.4, hs.5⟩)
    fun _ => Triple.pure fun _ hs => hs

/-- Neither does its status. -/
theorem askStatus_keeps : Keeps (At held depth C abs calibrating) askStatus :=
  Triple.bind ask_keeps fun _ => Triple.pure fun _ hs => hs

/-- A transport call changes nothing that is asserted. -/
theorem call_keeps (op : Op) : Keeps (At held depth C abs calibrating) (call op) :=
  Triple.bind (Triple.emit_same trivial) fun _ => ask_keeps

/-- Nor does one that only has a status. -/
theorem callStatus_keeps (op : Op) : Keeps (At held depth C abs calibrating) (callStatus op) :=
  Triple.bind (call_keeps op) fun _ => Triple.pure fun _ hs => hs

/-- What the body keeps, its attempts keep. -/
theorem retry_keeps {I : Drv → Prop} {ok : ℤ → Bool} {body : DrvM ℤ} (h : Keeps I body)
    (extra : ℕ) : Keeps I (retry ok body extra) :=
  Triple.retry h (fun _ _ hs => hs) extra

/-- Any site may set a mode that is absolute and not calibrating. -/
theorem setMode_absolute (site : Site) : Keeps (At held depth C true false) (setMode site) := by
  refine Triple.get_bind fun data => Triple.bind ?_ fun _ => askStatus_keeps
  apply Triple.emit
  · intro s hs
    exact hs.2
  · rintro s ⟨rfl, hs⟩ -
    exact ⟨hs.abs rfl, hs.calibrating rfl⟩

/-- The two sysfs stores may set any mode. -/
theorem setMode_store {site : Site}
    (hsite : ¬ (site = .elanInitialize ∨ site = .elanRecoverLocked)) :
    Keeps (At held depth C abs calibrating) (setMode site) := by
  refine Triple.read fun data => Triple.bind ?_ fun _ => askStatus_keeps
  exact Triple.emit (fun _ hs => hs) fun _ _ h => absurd h hsite

/-- Taking the mutex, which is free. -/
theorem mutexLock_takes :
    Triple (At false depth C abs calibrating) mutexLock (fun _ => At true depth C abs calibrating)
      Effect.Sound := by
  refine Triple.get_bind fun data => Triple.bind (Q := fun _ => At false depth C abs calibrating)
    (Triple.emit (fun s hs => hs.2) ?_) fun _ => Triple.modify fun s hs => ?_
  · rintro s ⟨rfl, hs⟩
    simp only [Effect.Sound, hs.mutex, Bool.not_false]
  · exact ⟨rfl, hs.depth, hs.counters, hs.abs, hs.calibrating⟩

/-- A signal leaves the mutex alone. -/
theorem mutexLockInterruptible_takes :
    Triple (At false depth C abs calibrating) mutexLockInterruptible
      (fun error => At (error = 0) depth C abs calibrating) Effect.Sound := by
  refine Triple.bind askStatus_keeps fun error => Triple.ite (fun herr => ?_) fun _ => ?_
  · refine Triple.pure fun s hs => ?_
    rw [decide_eq_false herr]
    exact hs
  · exact Triple.bind mutexLock_takes fun _ => Triple.pure fun s hs => hs

/-- Releasing the mutex, which is held. -/
theorem mutexUnlock_frees :
    Triple (At true depth C abs calibrating) mutexUnlock (fun _ => At false depth C abs calibrating)
      Effect.Sound := by
  refine Triple.get_bind fun data => Triple.bind (Q := fun _ => At true depth C abs calibrating)
    (Triple.emit (fun s hs => hs.2) ?_) fun _ => Triple.modify fun s hs => ?_
  · rintro s ⟨rfl, hs⟩
    exact hs.mutex
  · exact ⟨rfl, hs.depth, hs.counters, hs.abs, hs.calibrating⟩

/-- The depth changes by as much as asked for, and does not fall below zero. -/
theorem addIrqDepth_adds {change : ℤ} (hpos : 0 ≤ depth + change) :
    Triple (At held depth C abs calibrating) (addIrqDepth change)
      (fun _ => At held (depth + change) C abs calibrating) Effect.Sound := by
  refine Triple.get_bind fun data => ?_
  refine Triple.bind (Q := fun _ s => At held (depth + change) C abs calibrating s
    ∧ data.irqDepth = depth) (Triple.modify ?_) fun _ => Triple.emit (fun s hs => hs.1) ?_
  · rintro s ⟨rfl, hs⟩
    refine ⟨⟨hs.mutex, ?_, hs.counters, hs.abs, hs.calibrating⟩, hs.depth⟩
    rw [hs.depth]
  · rintro s ⟨-, hdepth⟩
    show 0 ≤ data.irqDepth + change
    rw [hdepth]
    exact hpos

/-- Disabling the interrupt raises the depth. -/
theorem disableIrq_raises (hpos : 0 ≤ depth) :
    Triple (At held depth C abs calibrating) disableIrq
      (fun _ => At held (depth + 1) C abs calibrating) Effect.Sound :=
  addIrqDepth_adds (by omega)

/-- Enabling it lowers the depth. -/
theorem enableIrq_lowers (hpos : 0 ≤ depth) :
    Triple (At held (depth + 1) C abs calibrating) enableIrq
      (fun _ => At held depth C abs calibrating) Effect.Sound := by
  have h : Triple (At held (depth + 1) C abs calibrating) enableIrq
      (fun _ => At held (depth + 1 + -1) C abs calibrating) Effect.Sound :=
    addIrqDepth_adds (by omega)
  rwa [Int.add_neg_cancel_right] at h

/-- The update leaves alone what the assertions speak about. -/
def Frames (f : Drv → Drv) : Prop :=
  ∀ s, (f s).sysfsMutex = s.sysfsMutex ∧ (f s).irqDepth = s.irqDepth
    ∧ (f s).counters = s.counters ∧ (f s).mode = s.mode

/-- An update outside of what is asserted. -/
theorem modify_keeps {f : Drv → Drv} (h : Frames f) :
    Keeps (At held depth C abs calibrating) (modify f) := by
  refine Triple.modify fun s hs => ?_
  obtain ⟨hmutex, hdepth, hcounters, hmode⟩ := h s
  refine ⟨hmutex.trans hs.mutex, hdepth.trans hs.depth, by rw [hcounters]; exact hs.counters,
    ?_, ?_⟩
  · rw [hmode]
    exact hs.abs
  · rw [hmode]
    exact hs.calibrating

/-- A query that stores its answer outside of what is asserted. -/
theorem query_keeps {op : Op} {store : Reply → Drv → Drv} (h : ∀ reply, Frames (store reply)) :
    Keeps (At held depth C abs calibrating) (query op store) :=
  Triple.bind (call_keeps op) fun reply => Triple.bind (modify_keeps (h reply)) fun _ =>
    Triple.pure fun _ hs => hs

/-- Stop at the first error. -/
theorem Keeps.andThen {I : Drv → Prop} {x y : DrvM ℤ} (hx : Keeps I x) (hy : Keeps I y) :
    Keeps I (x >>= fun error => if error ≠ 0 then pure error else y) :=
  Triple.bind hx fun _ => Triple.ite (fun _ => Triple.pure fun _ hs => hs) fun _ => hy

end Services

/-! ## Initialisation -/

section Initialisation

variable {held abs calibrating : Bool} {depth : ℤ} {C : Counters → Prop}

/-- The queries of the product store nothing that is asserted. -/
theorem elanQueryProduct_keeps : Keeps (At held depth C abs calibrating) elanQueryProduct := by
  refine Keeps.andThen (query_keeps ?_) (Keeps.andThen (query_keeps ?_) (query_keeps ?_)) <;>
    exact fun _ _ => ⟨rfl, rfl, rfl, rfl⟩

/-- What initialisation leaves: nothing is lost, and a success has set the absolute mode. -/
def Initialised (held : Bool) (depth : ℤ) (C : Counters → Prop) (abs : Bool) (error : ℤ)
    (data : Drv) : Prop :=
  At held depth C abs false data ∧ (error = 0 → At held depth C true false data)

/-- Initialisation that has failed. -/
theorem pure_failed {error : ℤ} (h : error ≠ 0) :
    Triple (At held depth C abs false) (pure error) (Initialised held depth C abs) Effect.Sound :=
  Triple.pure fun _ hs => ⟨hs, fun hzero => absurd hzero h⟩

/-- What keeps the absolute mode leaves the controller initialised. -/
theorem Keeps.initialised {x : DrvM ℤ} (h : Keeps (At held depth C true false) x) :
    Triple (At held depth C true false) x (Initialised held depth C abs) Effect.Sound :=
  h.conseq (fun _ hs => hs) (fun _ _ hs => ⟨hs.weaken, fun _ => hs⟩) fun _ he => he

/-- An attempt to initialise that succeeds has set the absolute mode. -/
theorem elanInitializeOnce_sets (skipReset : Bool) :
    Triple (At held depth C abs false) (elanInitializeOnce skipReset) (Initialised held depth C abs)
      Effect.Sound := by
  have hreset : Keeps (At held depth C abs false)
      (if skipReset then pure 0 else callStatus .initializeDevice) :=
    Triple.ite (fun _ => Triple.pure fun _ hs => hs) fun _ => callStatus_keeps _
  refine Triple.bind hreset fun error => Triple.ite (fun h => pure_failed h) fun _ => ?_
  refine Triple.bind elanQueryProduct_keeps fun error =>
    Triple.ite (fun h => pure_failed h) fun _ => Triple.read fun data => ?_
  refine Triple.bind (Triple.ite (fun _ => callStatus_keeps _) fun _ => Triple.pure fun _ hs => hs)
    fun error => Triple.ite (fun h => pure_failed h) fun _ => ?_
  -- from here on the mode is absolute
  have habs : Triple (At held depth C abs false)
      (modify fun data => { data with mode := data.mode ||| etpEnableAbs })
      (fun _ => At held depth C true false) Effect.Sound := by
    refine Triple.modify fun s hs =>
      ⟨hs.mutex, hs.depth, hs.counters, fun _ => absolute_or _, fun _ => ?_⟩
    rw [calibrate_or_absolute]
    exact hs.calibrating rfl
  refine Triple.bind habs fun _ => Triple.bind (setMode_absolute _) fun error => ?_
  apply Keeps.initialised
  refine Triple.ite (fun _ => Triple.pure fun _ hs => hs) fun _ => ?_
  exact Triple.ite (fun _ => Triple.pure fun _ hs => hs) fun _ => callStatus_keeps _

/-- And so have the attempts together. -/
theorem elanInitialize_sets (skipReset : Bool) :
    Triple (At held depth C abs false) (elanInitialize skipReset) (Initialised held depth C abs)
      Effect.Sound := by
  refine Triple.bind (elanInitializeOnce_sets skipReset) fun error => Triple.ite (fun h => ?_)
    fun _ => ?_
  · refine Triple.pure fun s hs => ⟨hs.1, fun _ => hs.2 h⟩
  · exact (Triple.retry (elanInitializeOnce_sets false) (fun _ _ hs => hs.1) 1).conseq
      (fun _ hs => hs.1) (fun _ _ hs => hs) fun _ he => he

/-- A mode that is absolute already stays so, whether initialisation succeeds or not. -/
theorem elanInitialize_keeps (skipReset : Bool) :
    Keeps (At held depth C true false) (elanInitialize skipReset) :=
  (elanInitialize_sets skipReset).conseq (fun _ hs => hs) (fun _ _ hs => hs.1) fun _ he => he

/-- Nor do the queries of the device. -/
theorem elanQueryDeviceInfo_keeps :
    Keeps (At held depth C abs calibrating) elanQueryDeviceInfo := by
  refine Keeps.andThen (query_keeps fun _ _ => ⟨rfl, rfl, rfl, rfl⟩) ?_
  refine Keeps.andThen (query_keeps fun _ _ => ⟨rfl, rfl, rfl, rfl⟩) ?_
  refine Keeps.andThen (query_keeps fun _ _ => ⟨rfl, rfl, rfl, rfl⟩) ?_
  refine Keeps.andThen (query_keeps fun _ _ => ⟨rfl, rfl, rfl, rfl⟩) ?_
  exact Triple.bind (modify_keeps fun _ => ⟨rfl, rfl, rfl, rfl⟩) fun _ => Triple.pure fun _ hs => hs

end Initialisation

/-! ## The bodies of the critical sections -/

section Bodies

variable {held abs calibrating : Bool} {depth : ℤ} {C : Counters → Prop}

/-- Input events change nothing in the driver. -/
theorem emitInputs_keeps {I : Drv → Prop} (dev : InputDev) (events : List InputEvent) :
    Keeps I (emitInputs dev events) := by
  induction events with
  | nil => exact Triple.pure fun _ hs => hs
  | cons event events ih =>
    exact Triple.bind (Triple.emit_same trivial) fun _ => ih

/-- Releasing the inputs changes nothing in the driver. -/
theorem elanReleaseInputs_keeps {I : Drv → Prop} : Keeps I elanReleaseInputs := by
  refine Triple.read fun data => Triple.bind (emitInputs_keeps _ _) fun _ => ?_
  exact Triple.ite (fun _ => emitInputs_keeps _ _) fun _ => Triple.pure fun _ hs => hs

/-- A stage of the recovery keeps what its call and its continuation keep. -/
theorem recoveryStage_keeps {I : Drv → Prop} {x y : DrvM ℤ} {phase wanted : UInt32}
    (hx : Keeps I x) (hy : Keeps I y) : Keeps I (recoveryStage phase wanted x y) :=
  Triple.bind hx fun _ => Triple.ite (fun _ => Triple.pure fun _ hs => hs) fun _ =>
    Triple.ite (fun _ => Triple.pure fun _ hs => hs) fun _ => hy

/-- The health checks. -/
theorem elanWatchdogPing_keeps : Keeps (At held depth C abs calibrating) elanWatchdogPing :=
  retry_keeps (callStatus_keeps _) _

/-- The counters after the error streak has been reset. -/
def Reset (C : Counters → Prop) (counters : Counters) : Prop :=
  ∃ before, C before ∧ counters = { before with reportErrors := 0 }

/-- Whatever happens later, the streak is reset, and nothing else changes. -/
theorem elanRecoverLocked_resets :
    Triple (At held depth C true false) elanRecoverLocked
      (fun _ => At held depth (Reset C) true false) Effect.Sound := by
  have hreset : Triple (At held depth C true false)
      (modify fun data => { data with reportErrors := 0 })
      (fun _ => At held depth (Reset C) true false) Effect.Sound := by
    refine Triple.modify fun s hs => ?_
    exact ⟨hs.mutex, hs.depth, ⟨s.counters, hs.counters, rfl⟩, hs.abs, hs.calibrating⟩
  rw [elanRecoverLocked_eq]
  refine Triple.bind elanReleaseInputs_keeps fun _ => ?_
  refine Triple.bind (Triple.emit_same trivial) fun _ => Triple.bind hreset fun _ => ?_
  refine recoveryStage_keeps (elanInitialize_keeps false) ?_
  refine recoveryStage_keeps elanWatchdogPing_keeps ?_
  exact recoveryStage_keeps (setMode_absolute _) (Triple.pure fun _ hs => hs)

/-- Every exit of a calibration clears the bit again. -/
theorem withCalibrate_keeps {site : Site} {body : DrvM ℤ}
    (hsite : ¬ (site = .elanInitialize ∨ site = .elanRecoverLocked))
    (hbody : Keeps (At held depth C true true) body) :
    Keeps (At held depth C true false) (withCalibrate site body) := by
  have hset : Triple (At held depth C true false) setCalibrate
      (fun _ => At held depth C true true) Effect.Sound := by
    refine Triple.modify fun s hs =>
      ⟨hs.mutex, hs.depth, hs.counters, fun _ => ?_, fun h => absurd h (by simp)⟩
    rw [absolute_or_calibrate]
    exact hs.abs rfl
  have hclear : Triple (At held depth C true true) clearCalibrate
      (fun _ => At held depth C true false) Effect.Sound := by
    refine Triple.modify fun s hs =>
      ⟨hs.mutex, hs.depth, hs.counters, fun _ => ?_, fun _ => calibrate_cleared _⟩
    rw [absolute_cleared]
    exact hs.abs rfl
  refine Triple.bind hset fun _ => Triple.bind (setMode_store hsite) fun retval => ?_
  refine Triple.ite (fun _ => Triple.bind hclear fun _ => Triple.pure fun _ hs => hs) fun _ => ?_
  refine Triple.bind hbody fun retval => Triple.bind hclear fun _ => ?_
  exact Triple.bind (setMode_store hsite) fun _ => Triple.pure fun _ hs => hs

/-- Waiting for the end of a calibration. -/
theorem pollCalibration_keeps (tries : ℕ) :
    Keeps (At held depth C abs calibrating) (pollCalibration tries) := by
  induction tries with
  | zero => exact Triple.pure fun _ hs => hs
  | succ tries ih =>
    exact Triple.bind (call_keeps _) fun _ =>
      Triple.ite (fun _ => Triple.pure fun _ hs => hs) fun _ => ih

/-- Starting a calibration and waiting for its end. -/
theorem calibrate_keeps : Keeps (At held depth C abs calibrating) calibrate :=
  Keeps.andThen (callStatus_keeps _) (pollCalibration_keeps _)

/-- Reading the baseline stores nothing else. -/
theorem acquireBaseline_keeps : Keeps (At held depth C abs calibrating) acquireBaseline := by
  refine Keeps.andThen (query_keeps fun _ _ => ⟨rfl, rfl, rfl, rfl⟩) ?_
  refine Keeps.andThen (query_keeps fun _ _ => ⟨rfl, rfl, rfl, rfl⟩) ?_
  exact Triple.bind (modify_keeps fun _ => ⟨rfl, rfl, rfl, rfl⟩) fun _ => Triple.pure fun _ hs => hs

/-- Powering the controller up or down. -/
theorem elanSetPower_keeps (on : Bool) :
    Keeps (At held depth C abs calibrating) (elanSetPower on) :=
  Triple.bind (retry_keeps (callStatus_keeps _) _) fun _ => Triple.pure fun _ hs => hs

/-- Putting it to sleep. -/
theorem elanSleep_keeps : Keeps (At held depth C abs calibrating) elanSleep :=
  retry_keeps (callStatus_keeps _) _

/-- Asking whether the device may wake the system. -/
theorem deviceMayWakeup_keeps {I : Drv → Prop} (h : Keeps I ask) : Keeps I deviceMayWakeup :=
  Triple.bind h fun _ => Triple.pure fun _ hs => hs

/-- The exclusive part of suspend. -/
theorem powerDown_keeps : Keeps (At held depth C true false) powerDown := by
  refine Triple.bind (deviceMayWakeup_keeps ask_keeps) fun wakeup => ?_
  refine Triple.ite (fun _ => elanSleep_keeps) fun _ => ?_
  refine Keeps.andThen (elanSetPower_keeps false) ?_
  refine Triple.bind askStatus_keeps fun ret => Triple.ite (fun _ => ?_) fun _ => ?_
  · exact Triple.bind (elanSetPower_keeps true) fun _ => Triple.pure fun _ hs => hs
  · exact Triple.pure fun _ hs => hs

/-- The exclusive part of resume. -/
theorem powerUp_keeps : Keeps (At held depth C true false) powerUp := by
  refine Triple.bind (deviceMayWakeup_keeps ask_keeps) fun wakeup => ?_
  refine Keeps.andThen
    (Triple.ite (fun _ => Triple.pure fun _ hs => hs) fun _ => askStatus_keeps) ?_
  exact Keeps.andThen (elanSetPower_keeps true) (Triple.read fun _ => elanInitialize_keeps _)

end Bodies

/-! ## Firmware update -/

section FirmwareUpdate

variable {held abs calibrating : Bool} {depth : ℤ} {C : Counters → Prop}

/-- The pages of a firmware image. -/
theorem writePages_keeps (fw : List UInt8) (pageSize i : ℕ) (swChecksum : UInt16)
    (remaining : ℕ) :
    Keeps (At held depth C abs calibrating) (writePages fw pageSize i swChecksum remaining) := by
  induction remaining generalizing i swChecksum with
  | zero => exact Triple.pure fun _ hs => hs
  | succ remaining ih =>
    exact Triple.bind (retry_keeps (callStatus_keeps _) _) fun _ =>
      Triple.ite (fun _ => Triple.pure fun _ hs => hs) fun _ => ih _ _

/-- A read of the bus. -/
theorem masterRecv_keeps (wanted : ℤ → Bool) :
    Keeps (At held depth C abs calibrating) (masterRecv wanted) :=
  Triple.bind askStatus_keeps fun _ => Triple.pure fun _ hs => hs

/-- The interrupt is enabled in the middle of the disabled section, and disabled again. -/
theorem resetAndWait_keeps (hpos : 0 ≤ depth) :
    Keeps (At held (depth + 1) C abs calibrating) resetAndWait := by
  refine Triple.bind (enableIrq_lowers hpos) fun _ => Triple.bind askStatus_keeps fun error => ?_
  have hwait : Keeps (At held depth C abs calibrating)
      (if error ≠ 0 then pure 1 else askStatus) :=
    Triple.ite (fun _ => Triple.pure fun _ hs => hs) fun _ => askStatus_keeps
  refine Triple.bind hwait fun _ => Triple.bind (disableIrq_raises hpos) fun _ => ?_
  exact Triple.pure fun _ hs => hs

/-- The end of an update, where the I2C transport enables the interrupt and disables it again. -/
theorem finishFwUpdate_keeps (hpos : 0 ≤ depth) (bus : Bus) :
    Keeps (At held (depth + 1) C abs calibrating) (finishFwUpdate bus) := by
  cases bus with
  | i2c =>
    exact Triple.bind (masterRecv_keeps _) fun _ =>
      Keeps.andThen (resetAndWait_keeps hpos) (masterRecv_keeps _)
  | smbus => exact Triple.pure fun _ hs => hs

/-- An update up to its status. -/
theorem elanUpdateFirmwareOnce_keeps (hpos : 0 ≤ depth) (fw : List UInt8) :
    Keeps (At held (depth + 1) C abs calibrating) (elanUpdateFirmwareOnce fw) := by
  refine Keeps.andThen (callStatus_keeps _) (Triple.read fun data => ?_)
  refine Triple.bind (writePages_keeps _ _ _ _ _) fun written => ?_
  refine Triple.ite (fun _ => Triple.pure fun _ hs => hs) fun _ => ?_
  refine Keeps.andThen (finishFwUpdate_keeps hpos _) ?_
  exact Triple.bind (call_keeps _) fun _ =>
    Triple.ite (fun _ => Triple.pure fun _ hs => hs) fun _ => Triple.pure fun _ hs => hs

/-- After a failure the controller is reset, after a success it is initialised and queried. -/
theorem afterUpdate_keeps (retval : ℤ) :
    Keeps (At held depth C true false) (afterUpdate retval) := by
  apply Triple.ite
  · intro _
    exact Triple.bind (call_keeps _) fun _ => Triple.pure fun _ hs => hs
  · intro _
    exact Triple.bind (elanInitialize_keeps false) fun _ =>
      Triple.bind elanQueryDeviceInfo_keeps fun _ => Triple.pure fun _ hs => hs

/-- The update of the firmware. -/
theorem elanUpdateFirmware_keeps (hpos : 0 ≤ depth) (fw : List UInt8) :
    Keeps (At held depth C true false) (elanUpdateFirmware fw) := by
  refine Triple.bind (disableIrq_raises hpos) fun _ => ?_
  refine Triple.bind (modify_keeps fun _ => ⟨rfl, rfl, rfl, rfl⟩) fun _ => ?_
  refine Triple.bind (elanUpdateFirmwareOnce_keeps hpos fw) fun retval => ?_
  refine Triple.bind (afterUpdate_keeps retval) fun _ => ?_
  refine Triple.bind (modify_keeps fun _ => ⟨rfl, rfl, rfl, rfl⟩) fun _ => ?_
  exact Triple.bind (enableIrq_lowers hpos) fun _ => Triple.pure fun _ hs => hs

end FirmwareUpdate

/-! ## The operations -/

section Operations

variable {depth : ℤ}

/-- Between two operations the counters are the business of others. -/
def anyCounters : Counters → Prop := fun _ => True

/-- A recovery keeps the mode, the mutex and the depth. -/
theorem elanRecoverLocked_keeps {held : Bool} :
    Keeps (At held depth anyCounters true false) elanRecoverLocked :=
  elanRecoverLocked_resets.conseq (fun _ hs => hs)
    (fun _ _ hs => ⟨hs.mutex, hs.depth, trivial, hs.abs, hs.calibrating⟩) fun _ he => he

/-- An update of the counters. -/
theorem modify_counters {held : Bool} {f : Drv → Drv}
    (h : ∀ s, (f s).sysfsMutex = s.sysfsMutex ∧ (f s).irqDepth = s.irqDepth ∧ (f s).mode = s.mode) :
    Keeps (At held depth anyCounters true false) (modify f) := by
  refine Triple.modify fun s hs => ?_
  obtain ⟨hmutex, hdepth, hmode⟩ := h s
  exact ⟨hmutex.trans hs.mutex, hdepth.trans hs.depth, trivial, by rw [hmode]; exact hs.abs,
    by rw [hmode]; exact hs.calibrating⟩

/-- A section under the mutex, with the interrupt disabled, ends as it began. -/
theorem underMutex_keeps {body : DrvM ℤ} (hpos : 0 ≤ depth)
    (hbody : Keeps (At true (depth + 1) anyCounters true false) body) :
    Keeps (At false depth anyCounters true false) (underMutex body) := by
  refine Triple.bind mutexLockInterruptible_takes fun error => ?_
  by_cases herr : error = 0
  · rw [if_neg (not_not_intro herr), decide_eq_true herr]
    refine Triple.bind (disableIrq_raises hpos) fun _ => Triple.bind hbody fun retval => ?_
    refine Triple.bind (enableIrq_lowers hpos) fun _ => ?_
    exact Triple.bind mutexUnlock_frees fun _ => Triple.pure fun _ hs => hs
  · rw [if_pos herr, decide_eq_false herr]
    exact Triple.pure fun _ hs => hs

/-- A write to `recover`. -/
theorem recoverStore_keeps (hpos : 0 ≤ depth) (buf : String) (count : ℤ) :
    Keeps (At false depth anyCounters true false) (recoverStore buf count) := by
  apply Triple.ite
  · intro _
    exact Triple.bind (underMutex_keeps hpos elanRecoverLocked_keeps) fun _ =>
      Triple.pure fun _ hs => hs
  · intro _
    exact Triple.pure fun _ hs => hs

/-- The work item of the watchdog. -/
theorem elanWatchdogWork_keeps (hpos : 0 ≤ depth) :
    Keeps (At false depth anyCounters true false) elanWatchdogWork := by
  have hrecovers : Keeps (At true depth anyCounters true false) watchdogRecovers := by
    refine Triple.bind (disableIrq_raises hpos) fun _ => ?_
    refine Triple.bind elanRecoverLocked_keeps fun error => ?_
    refine Triple.bind (modify_counters fun s => ?_) fun _ => enableIrq_lowers hpos
    by_cases herr : error ≠ 0
    · rw [if_pos herr]
      exact ⟨rfl, rfl, rfl⟩
    · rw [if_neg herr]
      exact ⟨rfl, rfl, rfl⟩
  refine Triple.bind mutexLock_takes fun _ => Triple.read fun data => ?_
  refine Triple.bind (Triple.ite (fun _ => hrecovers) fun _ => Triple.pure fun _ hs => hs)
    fun _ => mutexUnlock_frees

/-- A write to `calibrate`. -/
theorem calibrateStore_keeps (hpos : 0 ≤ depth) (count : ℤ) :
    Keeps (At false depth anyCounters true false) (calibrateStore count) :=
  Triple.bind (underMutex_keeps hpos (withCalibrate_keeps (by simp) calibrate_keeps)) fun _ =>
    Triple.pure fun _ hs => hs

/-- A write to `acquire`. -/
theorem acquireStore_keeps (hpos : 0 ≤ depth) (count : ℤ) :
    Keeps (At false depth anyCounters true false) (acquireStore count) := by
  refine Triple.bind (underMutex_keeps hpos ?_) fun _ => Triple.pure fun _ hs => hs
  exact Triple.bind (modify_keeps fun _ => ⟨rfl, rfl, rfl, rfl⟩) fun _ =>
    withCalibrate_keeps (by simp) acquireBaseline_keeps

/-- A write to `update_fw`. -/
theorem elanSysfsUpdateFw_keeps (hpos : 0 ≤ depth) (fw : List UInt8) (count : ℤ) :
    Keeps (At false depth anyCounters true false) (elanSysfsUpdateFw fw count) := by
  have hdone {error : ℤ} : Keeps (At false depth anyCounters true false) (pure error) :=
    Triple.pure fun _ hs => hs
  refine Triple.read fun data => Triple.ite (fun _ => hdone) fun _ => ?_
  refine Triple.bind askStatus_keeps fun _ => Triple.ite (fun _ => hdone) fun _ => ?_
  refine Keeps.andThen askStatus_keeps ?_
  refine Triple.ite (fun _ => hdone) fun _ => Triple.ite (fun _ => hdone) fun _ => ?_
  refine Triple.bind mutexLockInterruptible_takes fun error => ?_
  by_cases herr : error = 0
  · rw [if_neg (not_not_intro herr), decide_eq_true herr]
    refine Triple.bind (elanUpdateFirmware_keeps hpos fw) fun _ => ?_
    exact Triple.bind mutexUnlock_frees fun _ => Triple.pure fun _ hs => hs
  · rw [if_pos herr, decide_eq_false herr]
    exact hdone

/-- The interrupt stays disabled exactly after a suspend that returned 0. -/
theorem elanSuspend_lowers (hpos : 0 ≤ depth) :
    Triple (At false depth anyCounters true false) elanSuspend
      (fun ret => At false (if ret = 0 then depth + 1 else depth) anyCounters true false)
      Effect.Sound := by
  refine Triple.bind mutexLockInterruptible_takes fun error => ?_
  by_cases herr : error = 0
  · rw [if_neg (not_not_intro herr), decide_eq_true herr]
    refine Triple.bind (disableIrq_raises hpos) fun _ => Triple.bind powerDown_keeps fun ret => ?_
    have hirq : Triple (At true (depth + 1) anyCounters true false)
        (if ret ≠ 0 then enableIrq else pure ())
        (fun _ => At true (if ret = 0 then depth + 1 else depth) anyCounters true false)
        Effect.Sound := by
      by_cases hret : ret = 0
      · rw [if_neg (not_not_intro hret), if_pos hret]
        exact Triple.pure fun _ hs => hs
      · rw [if_pos hret, if_neg hret]
        exact enableIrq_lowers hpos
    refine Triple.bind hirq fun _ => Triple.bind mutexUnlock_frees fun _ => ?_
    exact Triple.pure fun _ hs => hs
  · rw [if_pos herr, decide_eq_false herr]
    refine Triple.pure fun s hs => ?_
    rw [if_neg herr]
    exact hs

/-- Resume enables the interrupt that suspend has disabled. -/
theorem elanResume_raises (hpos : 0 ≤ depth) :
    Triple (At false (depth + 1) anyCounters true false) elanResume
      (fun _ => At false depth anyCounters true false) Effect.Sound :=
  Triple.bind powerUp_keeps fun _ => Triple.bind (enableIrq_lowers hpos) fun _ =>
    Triple.pure fun _ hs => hs

/-- A resource that `probe` acquires. -/
theorem acquire_keeps {held abs calibrating : Bool} (n : ℕ) :
    Keeps (At held depth anyCounters abs calibrating) (acquire n) := by
  induction n with
  | zero => exact Triple.pure fun _ hs => hs
  | succ n ih => exact Keeps.andThen askStatus_keeps ih

/-- A query that a property may answer. -/
theorem queryUnlessProperty_keeps {held abs calibrating : Bool} (op : Op) :
    Keeps (At held depth anyCounters abs calibrating) (queryUnlessProperty op) :=
  Triple.bind askStatus_keeps fun _ =>
    Triple.ite (fun _ => Triple.pure fun _ hs => hs) fun _ => callStatus_keeps op

/-- Setting up the input devices. -/
theorem setupInputDevices_keeps {held abs calibrating : Bool} :
    Keeps (At held depth anyCounters abs calibrating) setupInputDevices := by
  refine Keeps.andThen (acquire_keeps _) (Triple.bind askStatus_keeps fun trackpoint => ?_)
  refine Keeps.andThen (acquire_keeps _) ?_
  exact Triple.bind (modify_keeps fun _ => ⟨rfl, rfl, rfl, rfl⟩) fun _ => Triple.pure fun _ hs => hs

/-- A probe that succeeds has set the absolute mode. -/
theorem elanProbe_sets :
    Triple (At false depth anyCounters false false) elanProbe
      (Initialised false depth anyCounters false) Effect.Sound := by
  have hacquire : Keeps (At false depth anyCounters false false)
      (if elanRsAbiVersion ≠ abiVersion then pure eproto else acquire 4) :=
    Triple.ite (fun _ => Triple.pure fun _ hs => hs) fun _ => acquire_keeps 4
  refine Triple.bind hacquire fun error => Triple.ite (fun h => pure_failed h) fun _ => ?_
  refine Triple.bind askStatus_keeps fun found => Triple.ite (fun _ => pure_failed (by decide))
    fun _ => ?_
  refine Triple.bind (elanInitialize_sets false) fun error => ?_
  by_cases herr : error = 0
  · rw [if_neg (not_not_intro herr)]
    refine Triple.conseq (P := At false depth anyCounters true false) (Keeps.initialised ?_)
      (fun _ hs => hs.2 herr) (fun _ _ hs => hs) fun _ he => he
    refine Keeps.andThen elanQueryDeviceInfo_keeps (Keeps.andThen ?_ ?_)
    · exact Keeps.andThen (queryUnlessProperty_keeps _)
        (Keeps.andThen (queryUnlessProperty_keeps _) (queryUnlessProperty_keeps _))
    · exact Keeps.andThen setupInputDevices_keeps (Triple.read fun _ => acquire_keeps _)
  · rw [if_pos herr]
    exact (pure_failed herr).conseq (fun _ hs => hs.1) (fun _ _ hs => hs) fun _ he => he

end Operations

/-! ## Runs of operations -/

/-- The operations of the driver, each run from its start to its return. -/
inductive DriverOp where
  | recoverStore (buf : String) (count : ℤ)
  | watchdogWork
  | calibrateStore (count : ℤ)
  | acquireStore (count : ℤ)
  | updateFw (fw : List UInt8) (count : ℤ)
  | suspend
  | resume
  /-- opens, closes and interrupts between two operations -/
  | between (openCount reportErrors : UInt32)

def DriverOp.exec : DriverOp → DrvM ℤ
  | .recoverStore buf count => Driver.recoverStore buf count
  | .watchdogWork => do
    elanWatchdogWork
    pure 0
  | .calibrateStore count => Driver.calibrateStore count
  | .acquireStore count => Driver.acquireStore count
  | .updateFw fw count => elanSysfsUpdateFw fw count
  | .suspend => elanSuspend
  | .resume => elanResume
  | .between openCount reportErrors => do
    modify fun data => { data with openCount := openCount, reportErrors := reportErrors }
    pure 0

/-- Resume follows a suspend that returned 0; no store and no second suspend runs in
between. -/
def DriverOp.allowed (suspended : Bool) : DriverOp → Bool
  | .resume => suspended
  | .watchdogWork | .between .. => true
  | _ => !suspended

/-- Whether the device is suspended once the operation has returned `ret`. -/
def DriverOp.suspends (suspended : Bool) (ret : ℤ) : DriverOp → Bool
  | .suspend => ret = 0
  | .resume => false
  | _ => suspended

/-- The driver between two operations, with all effects since the start of probe. -/
structure Session where
  data : Drv
  suspended : Bool
  effects : List Effect

def probed (ops : Bus) (replies : ℕ → Reply) : Session where
  data := (run elanProbe (zeroed ops replies)).state
  suspended := false
  effects := (run elanProbe (zeroed ops replies)).trace

def perform (s : Session) (op : DriverOp) : Option Session :=
  if op.allowed s.suspended then
    some {
      data := (run op.exec s.data).state
      suspended := op.suspends s.suspended (run op.exec s.data).value
      effects := s.effects ++ (run op.exec s.data).trace }
  else none

/-- The depth of the interrupt between two operations. -/
def quietDepth (suspended : Bool) : ℤ := if suspended then 1 else 0

/-- The quiescent invariant, and the soundness of what has happened so far. -/
structure Quiescent (s : Session) : Prop where
  at_rest : At false (quietDepth s.suspended) anyCounters true false s.data
  sound : ∀ e ∈ s.effects, e.Sound

/-- The depth of a device at rest. -/
theorem quietDepth_nonneg (suspended : Bool) : 0 ≤ quietDepth suspended := by
  cases suspended <;> decide

/-- Each operation returns to rest. -/
theorem exec_restores {suspended : Bool} {op : DriverOp} (h : op.allowed suspended = true) :
    Triple (At false (quietDepth suspended) anyCounters true false) op.exec
      (fun ret => At false (quietDepth (op.suspends suspended ret)) anyCounters true false)
      Effect.Sound := by
  have hpos := quietDepth_nonneg suspended
  cases op with
  | recoverStore buf count => exact recoverStore_keeps hpos buf count
  | watchdogWork =>
    exact Triple.bind (elanWatchdogWork_keeps hpos) fun _ => Triple.pure fun _ hs => hs
  | calibrateStore count => exact calibrateStore_keeps hpos count
  | acquireStore count => exact acquireStore_keeps hpos count
  | updateFw fw count => exact elanSysfsUpdateFw_keeps hpos fw count
  | suspend =>
    have hawake : suspended = false := by simpa [DriverOp.allowed] using h
    subst hawake
    refine (elanSuspend_lowers le_rfl).conseq (fun _ hs => hs) (fun ret s hs => ?_) fun _ he => he
    by_cases hret : ret = 0
    · simpa [DriverOp.suspends, quietDepth, hret] using hs
    · simpa [DriverOp.suspends, quietDepth, hret] using hs
  | resume =>
    have hasleep : suspended = true := h
    subst hasleep
    exact elanResume_raises le_rfl
  | between openCount reportErrors =>
    exact Triple.bind (modify_counters fun _ => ⟨rfl, rfl, rfl⟩) fun _ => Triple.pure fun _ hs => hs

/-- Each operation keeps it. -/
theorem quiescent_perform {s s' : Session} {op : DriverOp} (hq : Quiescent s)
    (h : perform s op = some s') : Quiescent s' := by
  unfold perform at h
  by_cases hallowed : op.allowed s.suspended = true
  · rw [if_pos hallowed, Option.some.injEq] at h
    subst h
    obtain ⟨hrest, htrace⟩ := exec_restores hallowed s.data hq.at_rest
    refine ⟨hrest, fun e he => ?_⟩
    rcases List.mem_append.mp he with he | he
    · exact hq.sound e he
    · exact htrace e he
  · rw [if_neg hallowed] at h
    exact absurd h (by simp)

/-- It holds when `probe` has succeeded. -/
theorem quiescent_probed {ops : Bus} {replies : ℕ → Reply}
    (h : (run elanProbe (zeroed ops replies)).value = 0) : Quiescent (probed ops replies) := by
  have hzeroed : At false 0 anyCounters false false (zeroed ops replies) :=
    ⟨rfl, rfl, trivial, fun h => absurd h (by simp), fun _ => by simp [zeroed]⟩
  obtain ⟨hprobe, htrace⟩ := elanProbe_sets (zeroed ops replies) hzeroed
  exact ⟨hprobe.2 h, htrace⟩

/-- **Quiescent invariant.**  After every operation of every run from a successful probe,
whatever the transport, the regulator and the locks answer, the mutex is free, the depth
is 1 if the device is suspended and 0 otherwise, and the mode is absolute and not
calibrating; and every effect of the run was sound. -/
theorem quiescent_after_every_operation (bus : Bus) (replies : ℕ → Reply)
    (ops : List DriverOp) (s : Session)
    (hprobe : (run elanProbe (zeroed bus replies)).value = 0)
    (hrun : Runs.runFrom perform (probed bus replies) ops = some s) :
    s.data.sysfsMutex = false ∧ s.data.irqDepth = (if s.suspended then 1 else 0)
      ∧ s.data.mode &&& etpEnableAbs ≠ 0 ∧ s.data.mode &&& etpEnableCalibrate = 0
      ∧ ∀ e ∈ s.effects, e.Sound := by
  have hq : Quiescent s :=
    Runs.runFrom_invariant (fun _ _ _ => quiescent_perform) (quiescent_probed hprobe) hrun
  exact ⟨hq.at_rest.mutex, hq.at_rest.depth, hq.at_rest.abs rfl, hq.at_rest.calibrating rfl,
    hq.sound⟩

/-- Everything succeeds, and every out-parameter is zero. -/
def allSucceed : ℕ → Reply := fun _ => ⟨0, fun _ => 0⟩

/-- A device that slept, was woken and calibrated is at rest. -/
theorem quiescent_after_sleep_and_calibration :
    ∃ s, Runs.runFrom perform (probed .i2c allSucceed)
        [.suspend, .watchdogWork, .resume, .calibrateStore 1] = some s
      ∧ s.data.sysfsMutex = false ∧ s.data.irqDepth = 0 := by
  have hrun : ∃ s, Runs.runFrom perform (probed .i2c allSucceed)
      [.suspend, .watchdogWork, .resume, .calibrateStore 1] = some s ∧ s.suspended = false :=
    ⟨_, rfl, rfl⟩
  obtain ⟨s, hs, hawake⟩ := hrun
  obtain ⟨hmutex, hdepth, -⟩ := quiescent_after_every_operation .i2c allSucceed _ s rfl hs
  rw [hawake] at hdepth
  exact ⟨s, hs, hmutex, hdepth⟩

end Driver
