/-
# The driver as interleaved threads

The interrupt handler, the watchdog work, the writers of `recover`, `calibrate` and
`acquire`, the two input nodes and the power-management callbacks of
`elan_i2c_core.c`, each as a program counter, and one action for every instruction
that touches shared state.  A run is any sequence of enabled actions, so every
interleaving is a run.

The kernel's synchronisation is modelled as documented: `disable_irq` raises the
depth and then waits for a running handler, the handler starts only at depth 0, a
work item never runs concurrently with itself and scheduling it while it is pending
does nothing, and `cancel_work_sync` removes pending work and then waits for a
running item.  A `schedule_work` that falls into a cancellation in progress may be
kept or lost.  Transport calls touch nothing shared; their outcomes are arbitrary.
-/
import Mathlib.Logic.Function.Basic
import ElanGuardian.Interrupt
import ElanGuardian.Runs

open ElanCore Interrupt

namespace Interleaving

/-! ## Threads and their program counters -/

inductive Node where
  | touchpad
  | trackpoint
  deriving DecidableEq, Repr

/-- Three of the sysfs attributes that take the mutex and disable the interrupt; `update_fw` is
not modelled here. -/
inductive StoreKind where
  | recover
  | calibrate
  | acquire
  deriving DecidableEq, Repr

/-- The threads other than the interrupt handler.  Any number of writers of these attributes
may be running at once. -/
inductive Thread where
  | work
  | store (kind : StoreKind) (task : ℕ)
  | node (n : Node)
  | pm
  deriving DecidableEq, Repr

/-- Where the interrupt handler is: the instruction it will execute next. -/
inductive IsrPc where
  | idle
  | readReport
  /-- `READ_ONCE(data->report_errors) + 1` -/
  | loadErrors
  | storeErrors (reportErrors : UInt32)
  | evaluate (reportErrors : UInt32)
  /-- the test of `elan_queue_watchdog` -/
  | queueWatchdog
  | scheduleWork
  /-- `WRITE_ONCE(data->report_errors, 0)` after a successful read -/
  | clearErrors
  | countReport
  | emitReport
  deriving DecidableEq, Repr

/-- Where a thread is: the instruction it will execute next. -/
inductive Pc where
  | idle
  /-- an input node between `elan_input_open` and `elan_input_close` -/
  | opened
  /-- `cancel_work_sync`: remove pending work -/
  | cancelPending
  /-- `cancel_work_sync`: wait for a running item -/
  | cancelWait
  /-- waiting for `sysfs_mutex` -/
  | lock
  /-- the arguments of `elan_rs_watchdog_action` in the work item: `open_count` first -/
  | loadOpenCount
  /-- and `report_errors` with the decision -/
  | evaluate (openCount : UInt32)
  | disableIrq
  /-- `disable_irq` waiting for a running handler -/
  | synchronizeIrq
  /-- `elan_recover_locked`, from its first instruction -/
  | releaseInputs
  | resetErrors
  /-- `elan_recover_locked` at a transport stage -/
  | recovering (phase : UInt32)
  /-- a critical section of another operation: calibration, or putting the chip to sleep -/
  | exclusive
  | enableIrq
  /-- `mutex_unlock`, with the interrupt left off if the device goes to sleep -/
  | unlock (asleep : Bool)
  /-- `elan_suspend` has returned 0 -/
  | asleep
  | resuming
  | resumeEnableIrq
  deriving DecidableEq, Repr

structure State where
  watchdogEnabled : Bool
  openCount : ℕ
  reportErrors : UInt32
  reportCount : UInt64
  watchdogRecoveries : UInt32
  pending : Bool
  irqDepth : ℕ
  sysfsMutex : Option Thread
  isr : IsrPc
  pc : Thread → Pc

/-- The driver after `elan_probe`. -/
def init (watchdogEnabled : Bool) : State where
  watchdogEnabled := watchdogEnabled
  openCount := 0
  reportErrors := 0
  reportCount := 0
  watchdogRecoveries := 0
  pending := false
  irqDepth := 0
  sysfsMutex := none
  isr := .idle
  pc := fun _ => .idle

/-! ## Actions -/

/-- One instruction of one thread; the operands are values the thread holds. -/
inductive Act where
  -- the interrupt handler
  | interrupt
  | read (failed : Bool)
  | loadErrors
  | storeErrors (reportErrors : UInt32)
  | evaluateErrors (reportErrors : UInt32)
  | queueWatchdog
  | scheduleWork (kept : Bool)
  | clearErrors
  | countReport
  | emitReport
  -- the start of a work item, of a sysfs write, of an open and of a close
  | startWork
  | write (kind : StoreKind) (task : ℕ)
  | openNode (n : Node)
  | closeNode (n : Node)
  -- the two halves of `cancel_work_sync`
  | cancelPending (t : Thread)
  | cancelWait (t : Thread)
  -- critical sections
  | interrupted (t : Thread)
  | lock (t : Thread)
  | loadOpenCount
  | evaluateWork (openCount : UInt32)
  | disableIrq (t : Thread)
  | synchronizeIrq (t : Thread)
  | releaseInputs (t : Thread)
  | resetErrors (t : Thread)
  | stage (t : Thread) (phase : UInt32) (status : ℤ)
  | exclusive (t : Thread) (status : ℤ)
  | enableIrq (t : Thread)
  | unlock (t : Thread) (asleep : Bool)
  -- power management
  | suspend
  | resume
  | resumeStages
  | resumeEnableIrq
  deriving DecidableEq, Repr

/-- `elan_rs_watchdog_action` with the driver's threshold asks for a recovery. -/
def Recover (openCount : ℕ) (reportErrors : UInt32) : Prop :=
  elanRsWatchdogAction (UInt32.ofNat openCount) 0 reportErrors etpWatchdogReportErrors
    = watchdogRecover

instance (openCount : ℕ) (reportErrors : UInt32) : Decidable (Recover openCount reportErrors) :=
  inferInstanceAs (Decidable (_ = _))

/-- Some `cancel_work_sync` has removed the work and waits. -/
def Canceling (s : State) : Prop :=
  s.pc (.node .touchpad) = .cancelWait ∨ s.pc (.node .trackpoint) = .cancelWait
    ∨ s.pc .pm = .cancelWait

instance (s : State) : Decidable (Canceling s) := inferInstanceAs (Decidable (_ ∨ _))

/-- What a thread does after it has the mutex. -/
def afterLock : Thread → Pc
  | .work => .loadOpenCount
  | _ => .disableIrq

/-- What a thread does with the interrupt off. -/
def afterSynchronize : Thread → Pc
  | .work => .releaseInputs
  | .store .recover _ => .releaseInputs
  | _ => .exclusive

/-- A suspend that succeeded leaves the interrupt off. -/
def afterExclusive (t : Thread) (status : ℤ) : Pc :=
  if t = .pm ∧ status = 0 then .unlock true else .enableIrq

/-- A transport stage of `elan_recover_locked` returned `status`. -/
def afterStage (phase : UInt32) (status : ℤ) : Pc :=
  if elanRsRecoveryNext phase status = recoveryFailed
      ∨ elanRsRecoveryNext phase status = recoveryComplete then .enableIrq
  else .recovering (elanRsRecoveryNext phase status)

/-- Suspend goes on with the mutex, a close is done. -/
def afterCancel : Thread → Pc
  | .pm => .lock
  | _ => .idle

/-- When an action can be executed. -/
def Enabled (s : State) : Act → Prop
  | .interrupt => s.isr = .idle ∧ s.irqDepth = 0
  | .read _ => s.isr = .readReport
  | .loadErrors => s.isr = .loadErrors
  | .storeErrors v => s.isr = .storeErrors v
  | .evaluateErrors v => s.isr = .evaluate v
  | .queueWatchdog => s.isr = .queueWatchdog
  | .scheduleWork kept => s.isr = .scheduleWork ∧ (kept = true ∨ Canceling s)
  | .clearErrors => s.isr = .clearErrors
  | .countReport => s.isr = .countReport
  | .emitReport => s.isr = .emitReport
  | .startWork => s.pending = true ∧ s.pc .work = .idle
  | .write kind task => s.pc (.store kind task) = .idle
  | .openNode n => s.pc (.node n) = .idle
  | .closeNode n => s.pc (.node n) = .opened
  | .cancelPending t => s.pc t = .cancelPending
  | .cancelWait t => s.pc t = .cancelWait ∧ s.pc .work = .idle
  -- the work item takes the mutex uninterruptibly
  | .interrupted t => s.pc t = .lock ∧ t ≠ .work
  | .lock t => s.pc t = .lock ∧ s.sysfsMutex = none
  | .loadOpenCount => s.pc .work = .loadOpenCount
  | .evaluateWork n => s.pc .work = .evaluate n
  | .disableIrq t => s.pc t = .disableIrq
  | .synchronizeIrq t => s.pc t = .synchronizeIrq ∧ s.isr = .idle
  | .releaseInputs t => s.pc t = .releaseInputs
  | .resetErrors t => s.pc t = .resetErrors
  | .stage t phase _ => s.pc t = .recovering phase
  | .exclusive t _ => s.pc t = .exclusive
  | .enableIrq t => s.pc t = .enableIrq
  | .unlock t asleep => s.pc t = .unlock asleep
  | .suspend => s.pc .pm = .idle
  | .resume => s.pc .pm = .asleep
  | .resumeStages => s.pc .pm = .resuming
  | .resumeEnableIrq => s.pc .pm = .resumeEnableIrq

instance (s : State) (a : Act) : Decidable (Enabled s a) := by
  cases a <;> first
    | exact inferInstanceAs (Decidable (_ = _))
    | exact inferInstanceAs (Decidable (_ ∧ _))

/-- Thread `t` goes on at `next`. -/
def State.goto (s : State) (t : Thread) (next : Pc) : State :=
  { s with pc := Function.update s.pc t next }

/-- What an action does. -/
def next (s : State) : Act → State
  | .interrupt => { s with isr := .readReport }
  | .read failed => { s with isr := if failed then .loadErrors else .clearErrors }
  | .loadErrors => { s with isr := .storeErrors (s.reportErrors + 1) }
  | .storeErrors v => { s with reportErrors := v, isr := .evaluate v }
  | .evaluateErrors v =>
    { s with isr := if s.watchdogEnabled = true ∧ Recover s.openCount v then .queueWatchdog
        else .idle }
  | .queueWatchdog =>
    { s with isr := if s.watchdogEnabled = true ∧ s.openCount > 0 then .scheduleWork else .idle }
  | .scheduleWork kept => { s with pending := s.pending || kept, isr := .idle }
  | .clearErrors => { s with reportErrors := 0, isr := .countReport }
  | .countReport => { s with reportCount := s.reportCount + 1, isr := .emitReport }
  | .emitReport => { s with isr := .idle }
  | .startWork => { s.goto .work .lock with pending := false }
  | .write kind task => s.goto (.store kind task) .lock
  | .openNode n => { s.goto (.node n) .opened with openCount := s.openCount + 1 }
  -- `atomic_dec_and_test`: only the last close cancels
  | .closeNode n =>
    { s.goto (.node n) (if s.openCount = 1 then .cancelPending else .idle) with
      openCount := s.openCount - 1 }
  | .cancelPending t => { s.goto t .cancelWait with pending := false }
  | .cancelWait t => s.goto t (afterCancel t)
  | .interrupted t => s.goto t .idle
  | .lock t => { s.goto t (afterLock t) with sysfsMutex := some t }
  | .loadOpenCount => s.goto .work (.evaluate (UInt32.ofNat s.openCount))
  | .evaluateWork n =>
    s.goto .work (if Recover n.toNat s.reportErrors then .disableIrq else .unlock false)
  | .disableIrq t => { s.goto t .synchronizeIrq with irqDepth := s.irqDepth + 1 }
  | .synchronizeIrq t => s.goto t (afterSynchronize t)
  | .releaseInputs t => s.goto t .resetErrors
  | .resetErrors t =>
    { s.goto t (.recovering (elanRsRecoveryNext recoveryReleaseInput 0)) with reportErrors := 0 }
  | .stage t phase status =>
    { s.goto t (afterStage phase status) with
      watchdogRecoveries :=
        if t = .work ∧ elanRsRecoveryNext phase status = recoveryComplete then
          s.watchdogRecoveries + 1
        else s.watchdogRecoveries }
  | .exclusive t status => s.goto t (afterExclusive t status)
  | .enableIrq t => { s.goto t (.unlock false) with irqDepth := s.irqDepth - 1 }
  | .unlock t asleep =>
    { s.goto t (if asleep then .asleep else .idle) with sysfsMutex := none }
  | .suspend => s.goto .pm .cancelPending
  | .resume => s.goto .pm .resuming
  | .resumeStages => s.goto .pm .resumeEnableIrq
  | .resumeEnableIrq => { s.goto .pm .idle with irqDepth := s.irqDepth - 1 }

/-- Execute one action, if it is enabled. -/
def step (s : State) (a : Act) : Option State := if Enabled s a then some (next s a) else none

/-- A step is an enabled action with its effect. -/
theorem step_eq_some {s s' : State} {a : Act} :
    step s a = some s' ↔ Enabled s a ∧ s' = next s a := by
  unfold step
  by_cases h : Enabled s a
  · simp only [h, if_true, Option.some.injEq, true_and]
    exact eq_comm
  · simp [h]

/-- The states that a run from probe reaches. -/
def Reachable (watchdogEnabled : Bool) : State → Prop :=
  Runs.Reachable step (init watchdogEnabled)

/-- The thread executes `elan_recover_locked`. -/
def Pc.inRecover : Pc → Bool
  | .releaseInputs | .resetErrors | .recovering _ => true
  | _ => false

/-! ## Reading a program counter after a jump -/

section Goto

variable {s : State} {t u : Thread} {pc : Pc}

@[simp] theorem goto_pc_self : (s.goto t pc).pc t = pc := Function.update_self ..

/-- The other threads stay where they are. -/
@[simp] theorem goto_pc_of_ne (h : u ≠ t) : (s.goto t pc).pc u = s.pc u :=
  Function.update_of_ne h ..

theorem goto_pc : (s.goto t pc).pc u = if u = t then pc else s.pc u := Function.update_apply ..

@[simp] theorem goto_isr : (s.goto t pc).isr = s.isr := rfl

variable {s' : State} {src dst : Pc} {p : Pc → Bool}

/-- A region that `u` is in after a jump of `t` it was in before, unless the jump has
entered it. -/
theorem before_jump (hsrc : s.pc t = src) (hpc : s'.pc = Function.update s.pc t dst)
    (henter : t = u → p dst = true → p src = true) (h : p (s'.pc u) = true) :
    p (s.pc u) = true := by
  by_cases ht : u = t
  · subst ht
    rw [hpc, Function.update_self] at h
    rw [hsrc]
    exact henter rfl h
  · rwa [hpc, Function.update_of_ne ht] at h

/-- A region that `u` is in before a jump of `t` it is in afterwards, unless the jump has
left it. -/
theorem after_jump (hsrc : s.pc t = src) (hpc : s'.pc = Function.update s.pc t dst)
    (hleave : t = u → p src = true → p dst = true) (h : p (s.pc u) = true) :
    p (s'.pc u) = true := by
  by_cases ht : u = t
  · subst ht
    rw [hpc, Function.update_self]
    exact hleave rfl (by rw [← hsrc]; exact h)
  · rwa [hpc, Function.update_of_ne ht]

end Goto

/-! ## Pieces of schedules -/

/-- A read that fails and leaves the streak at `v`, up to the handler's decision. -/
def failedRead (v : UInt32) : List Act :=
  [.interrupt, .read true, .loadErrors, .storeErrors v, .evaluateErrors v]

/-- A read that succeeds. -/
def goodRead : List Act := [.interrupt, .read false, .clearErrors, .countReport, .emitReport]

/-- The touchpad is open and the third read in a row has failed: the handler is about to
ask for the watchdog. -/
def threeFailures : List Act :=
  [.openNode .touchpad] ++ failedRead 1 ++ failedRead 2 ++ failedRead 3

/-! ## The watchdog decision -/

/-- A recovery needs an open node and three failures. -/
theorem Recover.bounds {openCount : ℕ} {v : UInt32} (h : Recover openCount v) :
    0 < openCount ∧ 3 ≤ v.toNat := by
  rw [Recover, elanRsWatchdogAction] at h
  by_cases hopen : UInt32.ofNat openCount = 0
  · rw [if_pos hopen] at h
    exact absurd h (by decide)
  · rw [if_neg hopen] at h
    refine ⟨Nat.pos_of_ne_zero fun hz => hopen (by rw [hz]; rfl), ?_⟩
    by_cases hv : v ≥ etpWatchdogReportErrors
    · exact UInt32.le_iff_toNat_le.mp hv
    · simp only [hv, and_false, or_false] at h
      exact absurd h (by decide)

/-- A count of open nodes survives its conversion to a `u32`. -/
theorem toNat_openCount {openCount : ℕ} (hsmall : openCount < 2 ^ 32) :
    (UInt32.ofNat openCount).toNat = openCount := by
  rw [UInt32.toNat_ofNat', Nat.mod_eq_of_lt hsmall]

/-- And they are enough for one. -/
theorem recover_of_bounds {openCount : ℕ} {v : UInt32} (hopen : 0 < openCount)
    (hsmall : openCount < 2 ^ 32) (hv : 3 ≤ v.toNat) : Recover openCount v := by
  have hne : UInt32.ofNat openCount ≠ 0 := by
    intro h
    have hz := congrArg UInt32.toNat h
    rw [toNat_openCount hsmall, UInt32.toNat_zero] at hz
    omega
  have hge : v ≥ etpWatchdogReportErrors := UInt32.le_iff_toNat_le.mpr hv
  rw [Recover, elanRsWatchdogAction, if_neg hne, if_pos (Or.inr ⟨by decide, hge⟩)]

end Interleaving
