/-
# The operations by themselves

Between the sequential operations of `DriverOps` and the threads of `Interleaving`: from
any state in which the handler is idle and the mutex free, a thread that nothing preempts
runs through its instructions, and the counters, the mutex and the interrupt depth end as
the sequential operation leaves them.  So the threads are those operations cut at the
instructions that touch shared state.
-/
import ElanGuardian.Interleaving
import ElanGuardian.Quiescent
import ElanGuardian.Simulation

open Prog ElanCore ReportShim Transport Interrupt Driver Simulation

namespace Interleaving

/-- The actions of thread `t`. -/
@[simp] def Act.by (t : Thread) : Act → Bool
  | .interrupt | .read _ | .loadErrors | .storeErrors _ | .evaluateErrors _ | .queueWatchdog
  | .scheduleWork _ | .clearErrors | .countReport | .emitReport => false
  | .startWork | .loadOpenCount | .evaluateWork _ => t = .work
  | .write kind task => t = .store kind task
  | .openNode n | .closeNode n => t = .node n
  | .cancelPending u | .cancelWait u | .interrupted u | .lock u | .disableIrq u
  | .synchronizeIrq u | .releaseInputs u | .resetErrors u | .stage u _ _ | .exclusive u _
  | .enableIrq u | .unlock u _ => t = u
  | .suspend | .resume | .resumeStages | .resumeEnableIrq => t = .pm

/-- The counters of the sequential driver. -/
def counters (s : State) : Counters :=
  ⟨UInt32.ofNat s.openCount, s.reportErrors, s.watchdogRecoveries⟩

/-- Thread `t` is at `pc`, with or without the mutex, and everybody else out of its way. -/
structure Place (t : Thread) (pc : Pc) (held : Bool) (depth : ℕ) (s : State) : Prop where
  pc : s.pc t = pc
  isr : s.isr = .idle
  mutex : s.sysfsMutex = if held then some t else none
  depth : s.irqDepth = depth

/-- The thread and the sequential operation agree; `f` is what the thread has already
counted. -/
structure Sync (t : Thread) (pc : Pc) (held : Bool) (depth : ℕ) (f : Counters → Counters)
    (s : State) (data : Drv) : Prop where
  place : Place t pc held depth s
  data : At held depth (fun c => f c = counters s) true false data

/-- A block of instructions takes `t` from one place to another and keeps the counters. -/
def Moves (t : Thread) (pc : Pc) (held : Bool) (depth : ℕ) (as : List Act) (pc' : Pc)
    (held' : Bool) (depth' : ℕ) : Prop :=
  ∀ s, Place t pc held depth s → ∃ s', Runs.runFrom step s as = some s'
    ∧ Place t pc' held' depth' s' ∧ counters s' = counters s

section Moves

variable {t : Thread} {depth : ℕ}

/-- A run of one instruction. -/
theorem runFrom_one {s : State} {a : Act} (h : Enabled s a) :
    Runs.runFrom step s [a] = some (next s a) :=
  Runs.runFrom_cons_eq_some.mpr ⟨_, step_eq_some.mpr ⟨h, rfl⟩, rfl⟩

/-- Taking the mutex. -/
theorem lock_moves : Moves t .lock false depth [.lock t] (afterLock t) true depth := by
  intro s hp
  refine ⟨_, runFrom_one ⟨hp.pc, hp.mutex⟩, ⟨?_, hp.isr, rfl, hp.depth⟩, rfl⟩
  simp [next]

/-- Releasing it. -/
theorem unlock_moves (asleep : Bool) :
    Moves t (.unlock asleep) true depth [.unlock t asleep] (if asleep then .asleep else .idle) false
      depth := by
  intro s hp
  refine ⟨_, runFrom_one hp.pc, ⟨?_, hp.isr, rfl, hp.depth⟩, rfl⟩
  simp [next]

/-- Disabling the interrupt and waiting for the handler. -/
theorem disableIrq_moves :
    Moves t .disableIrq true depth [.disableIrq t, .synchronizeIrq t] (afterSynchronize t) true
      (depth + 1) := by
  intro s hp
  refine ⟨next (next s (.disableIrq t)) (.synchronizeIrq t), ?_, ⟨?_, hp.isr, hp.mutex, ?_⟩, rfl⟩
  · simp [Runs.runFrom, step, Enabled, next, hp.pc, hp.isr]
  · simp [next]
  · show s.irqDepth + 1 = depth + 1
    rw [hp.depth]

/-- Enabling the interrupt. -/
theorem enableIrq_moves :
    Moves t .enableIrq true (depth + 1) [.enableIrq t] (.unlock false) true depth := by
  intro s hp
  refine ⟨_, runFrom_one hp.pc, ⟨?_, hp.isr, hp.mutex, ?_⟩, rfl⟩
  · simp [next]
  · simp [next, hp.depth]

/-- The exclusive part of an operation. -/
theorem exclusive_moves (status : ℤ) :
    Moves t .exclusive true depth [.exclusive t status] (afterExclusive t status) true depth := by
  intro s hp
  refine ⟨_, runFrom_one hp.pc, ⟨?_, hp.isr, hp.mutex, hp.depth⟩, rfl⟩
  simp [next]

end Moves

/-! ## Rules for an operation and its thread -/

section Rules

variable {t : Thread} {pc pc' : Pc} {held held' : Bool} {depth depth' : ℕ}
  {f : Counters → Counters} {α β : Type}

/-- Thread `t` runs like `x`. -/
abbrev RunsLike (t : Thread) (R : State → Drv → Prop) (x : DrvM α)
    (R' : α → State → Drv → Prop) : Prop :=
  Simulates step (fun a => a.by t = true) R x R'

/-- A program that keeps every assertion is invisible to the thread. -/
theorem runsLike_silent {x : DrvM α}
    (h : ∀ C, Keeps (At held depth C true false) x) :
    RunsLike t (Sync t pc held depth f) x (fun _ => Sync t pc held depth f) := by
  refine Simulates.silent (G := fun _ => True) fun s data hs => ?_
  exact ⟨⟨hs.place, (h _ data hs.data).1⟩, fun _ _ => trivial⟩

/-- The thread executes a block of instructions, the program what corresponds to it. -/
theorem runsLike_block {x : DrvM α} {as : List Act}
    (hmoves : Moves t pc held depth as pc' held' depth') (hby : ∀ a ∈ as, a.by t = true)
    (h : ∀ C, Triple (At held depth C true false) x (fun _ => At held' depth' C true false)
      Effect.Sound) :
    RunsLike t (Sync t pc held depth f) x (fun _ => Sync t pc' held' depth' f) := by
  refine Simulates.block as hby fun s data hs => ?_
  obtain ⟨s', hrun, hplace, hcounters⟩ := hmoves s hs.place
  refine ⟨s', hrun, hplace, ?_⟩
  rw [hcounters]
  exact (h _ data hs.data).1

/-- The thread executes a block of instructions ahead of the program. -/
theorem runsLike_ahead {x : DrvM α} {as : List Act} {R' : α → State → Drv → Prop}
    (hmoves : Moves t pc held depth as pc' held depth) (hby : ∀ a ∈ as, a.by t = true)
    (h : RunsLike t (Sync t pc' held depth f) x R') :
    RunsLike t (Sync t pc held depth f) x R' := by
  refine Simulates.prepend as hby (fun s data hs => ?_) h
  obtain ⟨s', hrun, hplace, hcounters⟩ := hmoves s hs.place
  refine ⟨s', hrun, hplace, ?_⟩
  rw [hcounters]
  exact hs.data

/-- Taking the mutex is one instruction. -/
theorem runsLike_lock : RunsLike t (Sync t .lock false depth f) mutexLock
    (fun _ => Sync t (afterLock t) true depth f) :=
  runsLike_block lock_moves (by simp) fun _ => mutexLock_takes

/-- Releasing the mutex is one instruction. -/
theorem runsLike_unlock (asleep : Bool) :
    RunsLike t (Sync t (.unlock asleep) true depth f) mutexUnlock
      (fun _ => Sync t (if asleep then .asleep else .idle) false depth f) :=
  runsLike_block (unlock_moves asleep) (by simp) fun _ => mutexUnlock_frees

/-- `disable_irq` is two instructions, as it waits for the handler. -/
theorem runsLike_disableIrq : RunsLike t (Sync t .disableIrq true depth f) disableIrq
    (fun _ => Sync t (afterSynchronize t) true (depth + 1) f) :=
  runsLike_block disableIrq_moves (by simp) fun _ =>
    disableIrq_raises (Int.natCast_nonneg _)

/-- `enable_irq` is one instruction. -/
theorem runsLike_enableIrq : RunsLike t (Sync t .enableIrq true (depth + 1) f) enableIrq
    (fun _ => Sync t (.unlock false) true depth f) :=
  runsLike_block enableIrq_moves (by simp) fun _ => enableIrq_lowers (Int.natCast_nonneg _)

end Rules

/-! ## Recovery -/

section Recovery

variable {t : Thread} {depth : ℕ}

/-- The counters once thread `t` has finished a recovery that returned `error`: the
thread of the watchdog counts a success with the last stage. -/
def recovered (t : Thread) (error : ℤ) (c : Counters) : Counters :=
  if t = .work ∧ error = 0 then { c with watchdogRecoveries := c.watchdogRecoveries + 1 } else c

/-- Where a recovery ends. -/
def Recovered (t : Thread) (depth : ℕ) (error : ℤ) : State → Drv → Prop :=
  Sync t .enableIrq true depth (recovered t error)

/-- A stage of the recovery that is not the last. -/
theorem stage_moves {phase : UInt32} {status : ℤ}
    (h : elanRsRecoveryNext phase status ≠ recoveryComplete) :
    Moves t (.recovering phase) true depth [.stage t phase status] (afterStage phase status) true
      depth := by
  intro s hp
  refine ⟨_, runFrom_one hp.pc, ⟨?_, hp.isr, hp.mutex, hp.depth⟩, ?_⟩
  · simp [next]
  · simp only [counters, next, h, and_false, if_false]
    rfl

/-- The streak is reset by two instructions of the thread. -/
theorem runsLike_reset : RunsLike t (Sync t .releaseInputs true depth id)
    (modify fun data => { data with reportErrors := 0 })
    (fun _ => Sync t (.recovering recoveryReinitialize) true depth id) := by
  refine Simulates.block [.releaseInputs t, .resetErrors t] (by simp) fun s data hs => ?_
  obtain ⟨hp, hd⟩ := hs
  refine ⟨next (next s (.releaseInputs t)) (.resetErrors t), ?_, ⟨?_, hp.isr, hp.mutex, hp.depth⟩,
    ⟨hd.mutex, hd.depth, ?_, hd.abs, hd.calibrating⟩⟩
  · simp [Runs.runFrom, step, Enabled, next, hp.pc]
  · simp only [next, goto_pc_self]
    rfl
  · have hcounters : data.counters = counters s := hd.counters
    simp only [Drv.counters, counters, Counters.mk.injEq] at hcounters
    obtain ⟨hopen, -, hrecoveries⟩ := hcounters
    show Counters.mk data.openCount 0 data.watchdogRecoveries
      = ⟨UInt32.ofNat s.openCount, 0, s.watchdogRecoveries⟩
    rw [hopen, hrecoveries]

/-- A recovery that fails is not counted. -/
theorem recovered_failed {error : ℤ} (h : error ≠ 0) (c : Counters) : recovered t error c = c :=
  if_neg fun hc => h hc.2

/-- An error ends the recovery. -/
theorem elanRsRecoveryNext_failed {phase : UInt32} {error : ℤ} (h : error < 0) :
    elanRsRecoveryNext phase error = recoveryFailed := if_pos h

/-- A failed stage ends the recovery. -/
theorem runsLike_failed {phase : UInt32} {error : ℤ} (h : error < 0) :
    RunsLike t (Sync t (.recovering phase) true depth id) (pure error) (Recovered t depth) := by
  have hnext := (elanRsRecoveryNext_failed h : elanRsRecoveryNext phase error = recoveryFailed)
  have hmoves : Moves t (.recovering phase) true depth [.stage t phase error]
      (afterStage phase error) true depth := stage_moves (by rw [hnext]; decide)
  rw [afterStage, if_pos (Or.inl hnext)] at hmoves
  refine runsLike_ahead hmoves (by simp) (Simulates.pure fun s data hs => ⟨hs.place, ?_⟩)
  have hsame : recovered t error = id := funext fun c => recovered_failed (by omega) c
  rw [hsame]
  exact hs.data

/-- A stage of the recovery that is not the last. -/
theorem runsLike_stage {phase wanted : UInt32} {x y : DrvM ℤ}
    (hnext : ∀ error, ¬ error < 0 → elanRsRecoveryNext phase error = wanted)
    (hfailed : wanted ≠ recoveryFailed) (hcomplete : wanted ≠ recoveryComplete)
    (hx : ∀ C, Keeps (At true depth C true false) x)
    (hy : RunsLike t (Sync t (.recovering wanted) true depth id) y (Recovered t depth)) :
    RunsLike t (Sync t (.recovering phase) true depth id) (recoveryStage phase wanted x y)
      (Recovered t depth) := by
  refine Simulates.bind (runsLike_silent hx) fun error => ?_
  by_cases hneg : error < 0
  · rw [if_pos (elanRsRecoveryNext_failed hneg)]
    exact runsLike_failed hneg
  · have hgo := hnext error hneg
    have hmoves : Moves t (.recovering phase) true depth [.stage t phase error]
        (afterStage phase error) true depth := stage_moves (by rw [hgo]; exact hcomplete)
    rw [afterStage, hgo, if_neg (not_or_intro hfailed hcomplete)] at hmoves
    rw [if_neg (by rw [hgo]; exact hfailed), if_neg (not_not_intro hgo)]
    exact runsLike_ahead hmoves (by simp) hy

/-- The last stage completes the recovery. -/
theorem runsLike_lastStage {x : DrvM ℤ} (hx : ∀ C, Keeps (At true depth C true false) x) :
    RunsLike t (Sync t (.recovering recoveryRestoreMode) true depth id)
      (recoveryStage recoveryRestoreMode recoveryComplete x (pure 0)) (Recovered t depth) := by
  refine Simulates.bind (runsLike_silent hx) fun error => ?_
  by_cases hneg : error < 0
  · rw [if_pos (elanRsRecoveryNext_failed hneg)]
    exact runsLike_failed hneg
  · have hgo : elanRsRecoveryNext recoveryRestoreMode error = recoveryComplete := by
      rw [elanRsRecoveryNext, if_neg hneg]
      decide
    rw [if_neg (by rw [hgo]; decide), if_neg (not_not_intro hgo)]
    refine Simulates.block [.stage t recoveryRestoreMode error] (by simp)
      fun s data hs => ?_
    obtain ⟨hp, hd⟩ := hs
    refine ⟨_, runFrom_one hp.pc, ⟨?_, hp.isr, hp.mutex, hp.depth⟩,
      ⟨hd.mutex, hd.depth, ?_, hd.abs, hd.calibrating⟩⟩
    · simp only [next, goto_pc_self, afterStage, if_pos (Or.inr hgo)]
    · have hcounters : data.counters = counters s := hd.counters
      show recovered t 0 data.counters = _
      rw [hcounters]
      simp only [recovered, counters, next, hgo, and_true]
      split_ifs <;> rfl

/-- **`elan_recover_locked` as instructions.** -/
theorem elanRecoverLocked_alone :
    RunsLike t (Sync t .releaseInputs true depth id) elanRecoverLocked (Recovered t depth) := by
  rw [elanRecoverLocked_eq]
  refine Simulates.bind (runsLike_silent fun _ => elanReleaseInputs_keeps) fun _ => ?_
  refine Simulates.bind (runsLike_silent fun _ => Triple.emit_same trivial) fun _ => ?_
  refine Simulates.bind runsLike_reset fun _ => ?_
  refine runsLike_stage ?_ (by decide) (by decide) (fun _ => elanInitialize_keeps false) ?_
  · intro error h
    rw [elanRsRecoveryNext, if_neg h]
    decide
  refine runsLike_stage ?_ (by decide) (by decide) (fun _ => elanWatchdogPing_keeps) ?_
  · intro error h
    rw [elanRsRecoveryNext, if_neg h]
    decide
  exact runsLike_lastStage fun _ => setMode_absolute _

end Recovery

/-! ## The work item -/

/-- The item decides on what it has seen as the sequential work does. -/
theorem recover_iff_action {s : State} {data : Drv} (h : data.counters = counters s) :
    Recover data.openCount.toNat s.reportErrors ↔ elanRsWatchdogAction data.openCount 0
      data.reportErrors etpWatchdogReportErrors = watchdogRecover := by
  simp only [Drv.counters, counters, Counters.mk.injEq] at h
  rw [Recover, h.2.1, UInt32.ofNat_toNat]

/-- The two reads of the work item, one after the other. -/
theorem evaluates {s : State} {data : Drv} {depth : ℕ}
    (hs : Sync .work .loadOpenCount true depth id s data) :
    ∃ s', Runs.runFrom step s [.loadOpenCount, .evaluateWork data.openCount] = some s'
      ∧ Sync .work (if elanRsWatchdogAction data.openCount 0 data.reportErrors
          etpWatchdogReportErrors = watchdogRecover then .disableIrq else .unlock false) true depth
        id s' data := by
  obtain ⟨hp, hd⟩ := hs
  have hcounters : data.counters = counters s := hd.counters
  have hseen : UInt32.ofNat s.openCount = data.openCount := by
    simp only [Drv.counters, counters, Counters.mk.injEq] at hcounters
    exact hcounters.1.symm
  refine ⟨next (next s .loadOpenCount) (.evaluateWork data.openCount), ?_,
    ⟨?_, hp.isr, hp.mutex, hp.depth⟩, hd⟩
  · simp [Runs.runFrom, step, Enabled, next, hp.pc, hseen]
  · simp only [next, goto_pc_self]
    exact if_congr (recover_iff_action hcounters) rfl rfl

/-- The branch that recovers, with the interrupt disabled. -/
theorem watchdogRecovers_alone {depth : ℕ} :
    RunsLike .work (Sync .work .disableIrq true depth id) watchdogRecovers
      (fun _ => Sync .work (.unlock false) true depth id) := by
  refine Simulates.bind runsLike_disableIrq fun _ => ?_
  refine Simulates.bind elanRecoverLocked_alone fun error => ?_
  -- the program counts the recovery that the thread has counted with its last stage
  have hcount : RunsLike .work (Recovered .work (depth + 1) error)
      (modify fun data => if error ≠ 0 then data
        else { data with watchdogRecoveries := data.watchdogRecoveries + 1 })
      (fun _ => Sync .work .enableIrq true (depth + 1) id) := by
    refine Simulates.silent (G := fun _ => True) fun s => Triple.modify fun data hs => ?_
    obtain ⟨hplace, hd⟩ := hs
    have hcounters := hd.counters
    by_cases herr : error = 0
    · rw [if_neg (not_not_intro herr)]
      rw [recovered, if_pos ⟨rfl, herr⟩] at hcounters
      exact ⟨hplace, hd.mutex, hd.depth, hcounters, hd.abs, hd.calibrating⟩
    · rw [if_pos herr]
      rw [recovered_failed herr] at hcounters
      exact ⟨hplace, hd.mutex, hd.depth, hcounters, hd.abs, hd.calibrating⟩
  exact Simulates.bind hcount fun _ => runsLike_enableIrq

/-- The work item decides by two instructions, whichever way the decision falls. -/
theorem runsLike_evaluate {depth : ℕ} (data₀ : Drv) : RunsLike .work
    (fun s data => data = data₀ ∧ Sync .work .loadOpenCount true depth id s data)
    (if elanRsWatchdogAction data₀.openCount 0 data₀.reportErrors etpWatchdogReportErrors
      = watchdogRecover then watchdogRecovers else pure ())
    (fun _ => Sync .work (.unlock false) true depth id) := by
  apply Simulates.ite
  · intro hact
    refine Simulates.prepend [.loadOpenCount, .evaluateWork data₀.openCount] (by simp) ?_
      watchdogRecovers_alone
    rintro s data ⟨rfl, hs⟩
    obtain ⟨s', hrun, hs'⟩ := evaluates hs
    rw [if_pos hact] at hs'
    exact ⟨s', hrun, hs'⟩
  · intro hact
    refine Simulates.prepend (Q := Sync .work (.unlock false) true depth id)
      [.loadOpenCount, .evaluateWork data₀.openCount] (by simp) ?_ (Simulates.pure fun _ _ hs => hs)
    rintro s data ⟨rfl, hs⟩
    obtain ⟨s', hrun, hs'⟩ := evaluates hs
    rw [if_neg hact] at hs'
    exact ⟨s', hrun, hs'⟩

/-- **`elan_watchdog_work` as instructions.**  The item ends with the mutex released and
the depth it found, and has counted what the sequential work counts. -/
theorem elanWatchdogWork_alone {depth : ℕ} :
    RunsLike .work (Sync .work .lock false depth id) elanWatchdogWork
      (fun _ => Sync .work .idle false depth id) := by
  refine Simulates.bind runsLike_lock fun _ => Simulates.get_bind fun data₀ => ?_
  exact Simulates.bind (runsLike_evaluate data₀) fun _ => runsLike_unlock false

/-! ## The sysfs stores -/

section Stores

variable {t : Thread} {kind : StoreKind} {task depth : ℕ}

/-- A signal while waiting for the mutex. -/
theorem interrupted_moves (ht : t ≠ .work) :
    Moves t .lock false depth [.interrupted t] .idle false depth := by
  intro s hp
  refine ⟨_, runFrom_one ⟨hp.pc, ht⟩, ⟨?_, hp.isr, hp.mutex, hp.depth⟩, rfl⟩
  simp [next]

/-- A write to an attribute. -/
theorem write_moves :
    Moves (.store kind task) .idle false depth [.write kind task] .lock false depth := by
  intro s hp
  refine ⟨_, runFrom_one hp.pc, ⟨?_, hp.isr, hp.mutex, hp.depth⟩, rfl⟩
  simp [next]

/-- What an interruptible lock leads to: a signal sends the thread home. -/
def Locked (t : Thread) (depth : ℕ) (error : ℤ) : State → Drv → Prop :=
  if error = 0 then Sync t .disableIrq true depth id else Sync t .idle false depth id

/-- Taking the mutex if no signal comes first. -/
theorem runsLike_lockInterruptible (ht : t ≠ .work) (hafter : afterLock t = .disableIrq) :
    RunsLike t (Sync t .lock false depth id) mutexLockInterruptible (Locked t depth) := by
  refine Simulates.bind (runsLike_silent fun _ => askStatus_keeps) fun error =>
    Simulates.ite (fun herr => ?_) fun _ => ?_
  · refine runsLike_ahead (interrupted_moves ht) (by simp)
      (Simulates.pure fun s data hs => ?_)
    rw [Locked, if_neg herr]
    exact hs
  · refine Simulates.bind runsLike_lock fun _ => Simulates.pure fun s data hs => ?_
    rw [Locked, if_pos rfl, ← hafter]
    exact hs

/-- A store whose body takes the thread from the quiet section to `enable_irq`. -/
theorem underMutex_alone {body : DrvM ℤ}
    (hbody : RunsLike (.store kind task)
      (Sync (.store kind task) (afterSynchronize (.store kind task)) true (depth + 1) id) body
      (fun _ => Sync (.store kind task) .enableIrq true (depth + 1) id)) :
    RunsLike (.store kind task) (Sync (.store kind task) .idle false depth id) (underMutex body)
      (fun _ => Sync (.store kind task) .idle false depth id) := by
  refine runsLike_ahead write_moves (by simp) ?_
  refine Simulates.bind (runsLike_lockInterruptible (by simp) rfl) fun error => ?_
  by_cases herr : error = 0
  · rw [if_neg (not_not_intro herr), Locked, if_pos herr]
    refine Simulates.bind runsLike_disableIrq fun _ => Simulates.bind hbody fun retval => ?_
    refine Simulates.bind runsLike_enableIrq fun _ => ?_
    refine Simulates.bind (runsLike_unlock false) fun _ => ?_
    exact Simulates.pure fun _ _ hs => hs
  · rw [if_pos herr, Locked, if_neg herr]
    exact Simulates.pure fun _ _ hs => hs

/-- **`recover_store` as instructions.** -/
theorem recoverStore_alone (buf : String) (count : ℤ) :
    RunsLike (.store .recover task) (Sync (.store .recover task) .idle false depth id)
      (recoverStore buf count) (fun _ => Sync (.store .recover task) .idle false depth id) := by
  apply Simulates.ite
  · intro _
    refine Simulates.bind (underMutex_alone ?_) fun _ => Simulates.pure fun _ _ hs => hs
    refine elanRecoverLocked_alone.weaken fun error s data hs => ?_
    have hid : recovered (.store .recover task) error = id := by
      funext c
      exact if_neg (by simp)
    rw [Recovered, hid] at hs
    exact hs
  · intro _
    exact Simulates.pure fun _ _ hs => hs

/-- The body of the other two stores is one critical section. -/
theorem runsLike_exclusive {body : DrvM ℤ} (status : ℤ)
    (hbody : ∀ C, Keeps (At true depth C true false) body) :
    RunsLike t (Sync t .exclusive true depth id) body
      (fun _ => Sync t (afterExclusive t status) true depth id) :=
  runsLike_block (exclusive_moves status) (by simp) hbody

/-- **`calibrate_store` as instructions.** -/
theorem calibrateStore_alone (count : ℤ) :
    RunsLike (.store .calibrate task) (Sync (.store .calibrate task) .idle false depth id)
      (calibrateStore count) (fun _ => Sync (.store .calibrate task) .idle false depth id) := by
  refine Simulates.bind (underMutex_alone ?_) fun _ => Simulates.pure fun _ _ hs => hs
  exact runsLike_exclusive 0 fun _ => withCalibrate_keeps (by simp) calibrate_keeps

/-- **`acquire_store` as instructions.** -/
theorem acquireStore_alone (count : ℤ) :
    RunsLike (.store .acquire task) (Sync (.store .acquire task) .idle false depth id)
      (acquireStore count) (fun _ => Sync (.store .acquire task) .idle false depth id) := by
  refine Simulates.bind (underMutex_alone ?_) fun _ => Simulates.pure fun _ _ hs => hs
  refine runsLike_exclusive 0 fun _ => ?_
  refine Triple.bind (modify_keeps fun _ => ⟨rfl, rfl, rfl, rfl⟩) fun _ => ?_
  exact withCalibrate_keeps (by simp) acquireBaseline_keeps

end Stores

/-! ## Suspend and resume -/

section PowerManagement

variable {depth : ℕ}

/-- With no work item running, suspend gets past its `cancel_work_sync`. -/
theorem suspend_cancels {s : State} {data : Drv} (hs : Sync .pm .idle false depth id s data)
    (hwork : s.pc .work = .idle) :
    ∃ s', Runs.runFrom step s [.suspend, .cancelPending .pm, .cancelWait .pm] = some s'
      ∧ Sync .pm .lock false depth id s' data := by
  obtain ⟨hp, hd⟩ := hs
  refine ⟨next (next (next s .suspend) (.cancelPending .pm)) (.cancelWait .pm), ?_,
    ⟨?_, ?_, ?_, ?_⟩, ?_⟩
  · simp [Runs.runFrom, step, Enabled, next, hp.pc, goto_pc_of_ne, hwork]
  · simp only [next, goto_pc_self]
    rfl
  · simp only [next, goto_isr]
    exact hp.isr
  · simp only [next, State.goto]
    exact hp.mutex
  · simp only [next, State.goto]
    exact hp.depth
  · simp only [next, State.goto]
    exact hd

/-- **`elan_suspend` as instructions.**  Suspend ends asleep with the interrupt disabled
exactly when it returns 0. -/
theorem elanSuspend_alone :
    RunsLike .pm (fun s data => Sync .pm .idle false depth id s data ∧ s.pc .work = .idle)
      elanSuspend (fun ret => if ret = 0 then Sync .pm .asleep false (depth + 1) id
        else Sync .pm .idle false depth id) := by
  refine Simulates.prepend (Q := Sync .pm .lock false depth id) _ (by decide)
    (fun s data hs => suspend_cancels hs.1 hs.2) ?_
  refine Simulates.bind (runsLike_lockInterruptible (by simp) rfl) fun error => ?_
  by_cases herr : error = 0
  · rw [if_neg (not_not_intro herr), Locked, if_pos herr]
    refine Simulates.bind runsLike_disableIrq fun _ => ?_
    refine Simulates.bind (runsLike_silent fun _ => powerDown_keeps) fun ret => ?_
    refine runsLike_ahead (exclusive_moves ret) (by simp) ?_
    by_cases hret : ret = 0
    · -- asleep: the interrupt stays disabled
      subst hret
      have hstay : RunsLike .pm (Sync .pm (.unlock true) true (depth + 1) id) (pure ())
          (fun _ => Sync .pm (.unlock true) true (depth + 1) id) := Simulates.pure fun _ _ hs => hs
      refine Simulates.bind hstay fun _ => ?_
      exact Simulates.bind (runsLike_unlock true) fun _ => Simulates.pure fun _ _ hs => hs
    · rw [if_pos hret, afterExclusive, if_neg fun h => hret h.2]
      refine Simulates.bind runsLike_enableIrq fun _ => ?_
      refine Simulates.bind (runsLike_unlock false) fun _ => Simulates.pure fun s data hs => ?_
      rw [if_neg hret]
      exact hs
  · rw [if_pos herr, Locked, if_neg herr]
    refine Simulates.pure fun s data hs => ?_
    rw [if_neg herr]
    exact hs

/-- Resuming up to the point where the interrupt is enabled. -/
theorem resume_moves : Moves .pm .asleep false depth [.resume, .resumeStages] .resumeEnableIrq false
    depth := by
  intro s hp
  refine ⟨next (next s .resume) .resumeStages, ?_, ⟨?_, hp.isr, hp.mutex, hp.depth⟩, rfl⟩
  · simp [Runs.runFrom, step, Enabled, next, hp.pc]
  · simp [next]

/-- The end of a resume. -/
theorem resumeEnableIrq_moves :
    Moves .pm .resumeEnableIrq false (depth + 1) [.resumeEnableIrq] .idle false depth := by
  intro s hp
  refine ⟨_, runFrom_one hp.pc, ⟨?_, hp.isr, hp.mutex, ?_⟩, rfl⟩
  · simp [next]
  · simp [next, hp.depth]

/-- **`elan_resume` as instructions.** -/
theorem elanResume_alone :
    RunsLike .pm (Sync .pm .asleep false (depth + 1) id) elanResume
      (fun _ => Sync .pm .idle false depth id) := by
  refine runsLike_ahead resume_moves (by decide) ?_
  refine Simulates.bind (runsLike_silent fun _ => powerUp_keeps) fun error => ?_
  refine Simulates.bind (runsLike_block resumeEnableIrq_moves (by decide) fun _ =>
    enableIrq_lowers (Int.natCast_nonneg _)) fun _ => Simulates.pure fun _ _ hs => hs

end PowerManagement

end Interleaving
