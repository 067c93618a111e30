/-
# Recovery and sleep

Suspend cancels the watchdog work before it disables the interrupt.  A handler that
runs in between may queue the work again; the item then waits for the mutex, gets it
when suspend releases it, and recovers a sleeping controller
(`recovery_during_sleep`).  Where suspend releases the mutex with no such request left,
the work item stays out of `elan_recover_locked` until resume has returned; and where it
releases the mutex with one left, some run goes on to a recovery of the sleeping device.
-/
import ElanGuardian.ArmedNodes

open ElanCore Interrupt

namespace Interleaving

/-- The work item has started and has not looked at the nodes yet. -/
def Pc.deciding : Pc → Bool
  | .lock | .loadOpenCount => true
  | _ => false

/-- A work item is queued, or waits for the mutex, and would decide to recover. -/
def recoveryDue (s : State) : Bool :=
  (s.pending || s.pc .work = .lock) && Recover s.openCount s.reportErrors

/-- The work item has seen the nodes and has not decided yet. -/
def Pc.evaluating : Pc → Bool
  | .evaluate _ => true
  | _ => false

/-- Suspend does not release the mutex, with the device asleep, while a recovery is
due; and no node is opened until the device is awake. -/
def sleepsUndisturbed (s : State) : Act → Bool
  | .unlock .pm true => !recoveryDue s
  | .openNode _ => !(s.pc .pm).sleeping
  | _ => true

/-- While the device sleeps, the work item has decided nothing and will decide against
a recovery. -/
structure Undisturbed (s : State) : Prop where
  committed : (s.pc .pm).sleeping = true → (s.pc .work).committed = false
  request : (s.pc .pm).sleeping = true → s.pending = true ∨ (s.pc .work).deciding = true →
    ¬ Recover s.openCount s.reportErrors
  decision : (s.pc .pm).sleeping = true → ∀ n, s.pc .work = .evaluate n →
    ¬ Recover n.toNat s.reportErrors

/-- An item that has decided to recover holds the mutex. -/
theorem holds_of_committed {pc : Pc} (h : pc.committed = true) : pc.holds = true := by
  cases pc <;> first | rfl | exact absurd h (by simp [Pc.committed])

/-- A device that sleeps is quiet. -/
theorem quiet_of_sleeping {pc : Pc} (h : pc.sleeping = true) : pc.quiet = true := by
  cases pc <;> first | rfl | exact absurd h (by simp [Pc.sleeping])

section Undisturbed

variable {s s' : State} {a : Act}

/-- A jump of one thread that puts nothing to sleep, commits no item and makes no request. -/
theorem undisturbed_goto {t : Thread} {src dst : Pc} (hl : Locking s) (hu : Undisturbed s)
    (hsrc : s.pc t = src) (hpc : s'.pc = Function.update s.pc t dst)
    (hdst : dst.evaluating = false) (hpending : s'.pending = true → s.pending = true)
    (hopen : 0 < s'.openCount → 0 < s.openCount)
    (herrors : 3 ≤ s'.reportErrors.toNat → 3 ≤ s.reportErrors.toNat)
    (hsleep : t = .pm → dst.sleeping = true → src.sleeping = true)
    (hcommit : t = .work → dst.committed = true → src.committed = true)
    (hdecide : t = .work → dst.deciding = true → s.pending = true ∨ src.deciding = true) :
    Undisturbed s' := by
  have hasleep : (s'.pc .pm).sleeping = true → (s.pc .pm).sleeping = true :=
    before_jump hsrc hpc hsleep
  refine ⟨fun h => ?_, fun h hreq hr => ?_, fun h n hn hr => ?_⟩
  · cases hc : (s'.pc .work).committed with
    | false => rfl
    | true =>
      have hnone := hu.committed (hasleep h)
      rw [before_jump hsrc hpc hcommit hc] at hnone
      exact hnone
  · refine hu.request (hasleep h) ?_
      (recover_of_bounds (hopen hr.bounds.1) hl.openCount_lt (herrors hr.bounds.2))
    rcases hreq with hp | hd
    · exact Or.inl (hpending hp)
    · by_cases ht : t = .work
      · subst ht
        rw [hpc, Function.update_self] at hd
        rw [hsrc]
        exact hdecide rfl hd
      · rw [hpc, Function.update_of_ne (Ne.symm ht)] at hd
        exact Or.inr hd
  · by_cases ht : t = .work
    · subst ht
      rw [hpc, Function.update_self] at hn
      rw [hn] at hdst
      exact Bool.false_ne_true hdst.symm
    · rw [hpc, Function.update_of_ne (Ne.symm ht)] at hn
      exact hu.decision (hasleep h) n hn
        (recover_of_bounds hr.bounds.1 n.toNat_lt (herrors hr.bounds.2))

/-- While the handler runs the device is awake. -/
theorem Locking.awake (hl : Locking s) (hisr : s.isr ≠ .idle) : (s.pc .pm).sleeping = false := by
  cases h : (s.pc .pm).sleeping with
  | false => rfl
  | true => exact absurd (hl.quiet .pm (quiet_of_sleeping h)) hisr

/-- What an awake device does, it does undisturbed. -/
theorem undisturbed_of_awake (h : (s.pc .pm).sleeping = false) : Undisturbed s := by
  have hno : ¬ (s.pc .pm).sleeping = true := by
    rw [h]
    exact Bool.false_ne_true
  exact ⟨fun hs => absurd hs hno, fun hs => absurd hs hno, fun hs => absurd hs hno⟩

/-- The mutex excludes suspend and the work item. -/
theorem Locking.work_outside (hl : Locking s) (h : (s.pc .pm).holds = true) :
    (s.pc .work).holds = false := by
  have hmutex := (hl.mutex .pm).mp h
  cases hw : (s.pc .work).holds with
  | false => rfl
  | true =>
    rw [(hl.mutex .work).mp hw] at hmutex
    exact absurd hmutex (by simp)

/-- Outside its critical section the work item is idle or waits for the mutex. -/
theorem Locking.work_waits (hl : Locking s) (h : (s.pc .work).holds = false) :
    s.pc .work = .idle ∨ s.pc .work = .lock := by
  have hcode := hl.code .work
  cases hpc : s.pc .work with
  | idle => exact Or.inl rfl
  | lock => exact Or.inr rfl
  | opened | cancelPending | cancelWait | asleep | resuming | resumeEnableIrq =>
    rw [hpc] at hcode
    exact absurd hcode (by decide)
  | _ =>
    rw [hpc] at h
    exact absurd h Bool.false_ne_true.symm

/-- Suspend falls asleep with the mutex in its hands. -/
theorem undisturbed_fallAsleep (hl : Locking s) (hpc : s.pc .pm = .unlock true)
    (hok : recoveryDue s = false) : Undisturbed (next s (.unlock .pm true)) := by
  have hfree : (s.pc .work).holds = false := hl.work_outside (by rw [hpc]; rfl)
  have hwork : (next s (.unlock .pm true)).pc .work = s.pc .work := by
    simp only [next]
    exact goto_pc_of_ne (by simp)
  refine ⟨fun _ => ?_, fun _ hreq hrec => ?_, fun _ n hn => ?_⟩
  · rw [hwork]
    cases hc : (s.pc .work).committed with
    | false => rfl
    | true => rw [holds_of_committed hc] at hfree; exact hfree
  · rw [hwork] at hreq
    have hrec' : Recover s.openCount s.reportErrors := hrec
    simp only [recoveryDue, hrec', decide_true, Bool.and_true, Bool.or_eq_false_iff,
      decide_eq_false_iff_not] at hok
    rcases hreq with hp | hd
    · have hpend : s.pending = true := hp
      rw [hok.1] at hpend
      exact absurd hpend Bool.false_ne_true
    · -- the item cannot be past the lock, which suspend holds
      rcases hl.work_waits hfree with hw | hw
      · rw [hw] at hd
        exact absurd hd (by decide)
      · exact hok.2 hw
  · rw [hwork] at hn
    rw [hn] at hfree
    exact absurd hfree.symm Bool.false_ne_true

/-- Each step keeps it, unless suspend releases the mutex with a recovery due or a node is opened
during the sleep. -/
theorem undisturbed_step (hl : Locking s) (hu : Undisturbed s)
    (hok : sleepsUndisturbed s a = true) (h : step s a = some s') : Undisturbed s' := by
  obtain ⟨he, rfl⟩ := step_eq_some.mp h
  cases a with
  | interrupt | read | loadErrors | evaluateErrors | queueWatchdog | countReport | emitReport =>
    exact ⟨hu.committed, hu.request, hu.decision⟩
  | storeErrors | clearErrors =>
    refine undisturbed_of_awake (hl.awake ?_)
    simp only [Enabled] at he
    rw [he]
    simp
  | scheduleWork =>
    refine undisturbed_of_awake (hl.awake ?_)
    rw [he.1]
    simp
  | startWork =>
    exact undisturbed_goto hl hu he.2 rfl rfl (fun h => absurd h (by simp [next])) id id
      (fun h => absurd h (by simp)) (fun _ h => absurd h (by decide)) fun _ _ => Or.inl he.1
  | openNode n =>
    have hawake : (s.pc .pm).sleeping = false := by simpa [sleepsUndisturbed] using hok
    refine undisturbed_of_awake ?_
    simp only [next]
    rw [goto_pc_of_ne (by simp)]
    exact hawake
  | closeNode n =>
    refine undisturbed_goto hl hu he rfl ?_ id (fun _ => hl.openCount_pos he) id
      (fun h => absurd h (by simp)) (fun h => absurd h (by simp)) fun h => absurd h (by simp)
    split_ifs <;> rfl
  | cancelPending t =>
    exact undisturbed_goto hl hu he rfl rfl (fun h => absurd h (by simp [next])) id id
      (fun _ h => absurd h (by decide)) (fun _ h => absurd h (by decide)) fun _ h =>
      absurd h (by decide)
  | cancelWait t =>
    refine undisturbed_goto hl hu he.1 rfl (by cases t <;> rfl) id id id ?_ ?_ ?_
    · rintro rfl h
      exact absurd h (by decide)
    · rintro rfl h
      exact absurd h (by decide)
    · rintro rfl h
      exact absurd h (by decide)
  | interrupted t =>
    exact undisturbed_goto hl hu he.1 rfl rfl id id id (fun _ h => absurd h (by decide))
      (fun _ h => absurd h (by decide)) fun _ h => absurd h (by decide)
  | lock t =>
    refine undisturbed_goto hl hu he.1 rfl (by cases t <;> rfl) id id id ?_ ?_
      fun _ _ => Or.inr rfl
    · rintro rfl h
      exact absurd h (by decide)
    · rintro rfl h
      exact absurd h (by decide)
  | loadOpenCount =>
    have hpc : s.pc .work = .loadOpenCount := he
    have hpm : (next s .loadOpenCount).pc .pm = s.pc .pm := goto_pc_of_ne (by simp)
    have hwork : (next s .loadOpenCount).pc .work = .evaluate (UInt32.ofNat s.openCount) :=
      goto_pc_self
    refine ⟨fun _ => by rw [hwork]; rfl, fun hs _ => ?_, fun hs n hn => ?_⟩
    · rw [hpm] at hs
      exact hu.request hs (Or.inr (by rw [hpc]; rfl))
    · rw [hpm] at hs
      rw [hwork, Pc.evaluate.injEq] at hn
      rw [← hn, toNat_openCount hl.openCount_lt]
      exact hu.request hs (Or.inr (by rw [hpc]; rfl))
  | evaluateWork n =>
    have hpc : s.pc .work = .evaluate n := he
    cases hs : (s.pc .pm).sleeping with
    | false =>
      refine undisturbed_of_awake ?_
      simp only [next]
      rw [goto_pc_of_ne (by simp)]
      exact hs
    | true =>
      -- a sleeping device: the item decides against a recovery
      have hno := hu.decision hs n hpc
      refine undisturbed_goto hl hu hpc rfl ?_ id id id (fun h => absurd h (by simp))
        (fun _ h => ?_) fun _ h => ?_
      · rw [if_neg hno]
        rfl
      · rw [if_neg hno] at h
        exact absurd h (by decide)
      · rw [if_neg hno] at h
        exact absurd h (by decide)
  | synchronizeIrq t =>
    refine undisturbed_goto hl hu he.1 rfl ?_ id id id ?_ (fun _ _ => rfl) ?_
    · rcases afterSynchronize_eq t with ⟨hd, -⟩ | ⟨hd, -⟩ <;> rw [hd] <;> rfl
    · rintro rfl h
      exact absurd h (by decide)
    · rintro rfl h
      exact absurd h (by decide)
  | disableIrq | releaseInputs =>
    exact undisturbed_goto hl hu he rfl rfl id id id (fun _ h => absurd h (by decide))
      (fun _ _ => rfl) fun _ h => absurd h (by decide)
  | resetErrors t =>
    -- a streak of zero asks for nothing
    exact undisturbed_goto hl hu he rfl rfl id id (fun h => absurd h (by simp [next]))
      (fun _ h => absurd h (by decide)) (fun _ _ => rfl) fun _ h => absurd h (by decide)
  | stage t phase status =>
    refine undisturbed_goto hl hu he rfl ?_ id id id (fun _ h => ?_) (fun _ _ => rfl)
      fun _ h => ?_
    · rcases afterStage_eq phase status with hd | hd <;> rw [hd] <;> rfl
    · rcases afterStage_eq phase status with hd | hd <;> rw [hd] at h <;>
        exact absurd h (by simp [Pc.sleeping])
    · rcases afterStage_eq phase status with hd | hd <;> rw [hd] at h <;>
        exact absurd h (by simp [Pc.deciding])
  | exclusive t status =>
    refine undisturbed_goto hl hu he rfl ?_ id id id (fun _ h => ?_) ?_ ?_
    · rcases afterExclusive_eq t status with hd | ⟨-, hd⟩ <;> rw [hd] <;> rfl
    · rcases afterExclusive_eq t status with hd | ⟨-, hd⟩ <;> rw [hd] at h <;>
        exact absurd h (by decide)
    · rintro rfl h
      exact absurd h (by simp [afterExclusive, Pc.committed])
    · rintro rfl h
      exact absurd h (by simp [afterExclusive, Pc.deciding])
  | unlock t asleep =>
    cases asleep with
    | true =>
      have hpc : s.pc t = .unlock true := he
      have hcode := hl.code t
      rw [hpc] at hcode
      obtain rfl : t = .pm := of_decide_eq_true hcode
      exact undisturbed_fallAsleep hl hpc (by simpa [sleepsUndisturbed] using hok)
    | false =>
      exact undisturbed_goto hl hu he rfl rfl id id id (fun _ h => absurd h (by decide))
        (fun _ h => absurd h (by decide)) fun _ h => absurd h (by decide)
  | write =>
    exact undisturbed_goto hl hu he rfl rfl id id id (fun h => absurd h (by simp))
      (fun h => absurd h (by simp)) fun h => absurd h (by simp)
  | enableIrq =>
    exact undisturbed_goto hl hu he rfl rfl id id id (fun _ h => absurd h (by decide))
      (fun _ h => absurd h (by decide)) fun _ h => absurd h (by decide)
  | suspend | resumeEnableIrq =>
    exact undisturbed_goto hl hu he rfl rfl id id id (fun _ h => absurd h (by decide))
      (fun h => absurd h (by simp)) fun h => absurd h (by simp)
  | resume | resumeStages =>
    exact undisturbed_goto hl hu he rfl rfl id id id (fun _ _ => rfl)
      (fun h => absurd h (by simp)) fun h => absurd h (by simp)

end Undisturbed

/-- Only an item that has decided is inside a recovery. -/
theorem not_inRecover_of_not_committed {pc : Pc} (h : pc.committed = false) :
    pc.inRecover = false := by
  cases hr : pc.inRecover with
  | false => rfl
  | true => rw [committed_of_inRecover hr] at h; exact h

/-- **Recovery excludes sleep.**  Start anywhere with the device awake, and let every
suspend of the run release the mutex with no recovery due.  Then from a suspend's
return to the return of its resume the work item is not inside `elan_recover_locked`. -/
theorem no_recovery_during_sleep (watchdogEnabled : Bool) (s₀ s : State) (as : List Act)
    (hs : Reachable watchdogEnabled s₀) (hawake : s₀.pc .pm = .idle)
    (hrun : Runs.runFrom step s₀ as = some s)
    (hok : Runs.StepsMeet step (fun u a => sleepsUndisturbed u a = true) s₀ as)
    (hasleep : (s.pc .pm).sleeping = true) : (s.pc .work).inRecover = false := by
  have hu₀ : Undisturbed s₀ := undisturbed_of_awake (by rw [hawake]; rfl)
  have hboth : Locking s ∧ Undisturbed s := by
    refine Runs.runFrom_invariant_of_stepsMeet (I := fun u => Locking u ∧ Undisturbed u) ?_
      ⟨locking_of_reachable hs, hu₀⟩ hok hrun
    rintro u a u' ⟨hl, hu⟩ ha hstep
    exact ⟨locking_step hl hstep, undisturbed_step hl hu ha hstep⟩
  exact not_inRecover_of_not_committed (hboth.2.committed hasleep)

/-- A suspend that goes well, from its lock to the release of the mutex. -/
def suspendRun : List Act :=
  [.lock .pm, .disableIrq .pm, .synchronizeIrq .pm, .exclusive .pm 0]

/-- The request is queued before suspend cancels it. -/
def requestThenSuspend : List Act :=
  threeFailures ++ [.queueWatchdog, .scheduleWork true, .suspend, .cancelPending .pm,
    .cancelWait .pm] ++ suspendRun ++ [.unlock .pm true, .resume]

/-- A request that suspend cancels leads to no recovery. -/
theorem cancelled_request_recovers_nothing :
    ∃ s, Runs.runFrom step (init true) requestThenSuspend = some s
      ∧ (s.pc .work).inRecover = false :=
  ⟨_, rfl, no_recovery_during_sleep true (init true) _ requestThenSuspend ⟨[], rfl⟩ rfl rfl
    (by decide) rfl⟩

/-! ## The race -/

/-- The actions of the handler, the work item and the power-management callbacks. -/
def Act.ofHandlerWorkOrPm : Act → Bool
  | .write .. | .openNode _ | .closeNode _ => false
  | .cancelPending t | .cancelWait t | .interrupted t | .lock t | .disableIrq t
  | .synchronizeIrq t | .releaseInputs t | .resetErrors t | .stage t _ _ | .exclusive t _
  | .enableIrq t | .unlock t _ => t = .work || t = .pm
  | _ => true

/-- The work item takes the mutex and decides to recover. -/
def recoveryRun (openCount : UInt32) : List Act :=
  [.lock .work, .loadOpenCount, .evaluateWork openCount, .disableIrq .work, .synchronizeIrq .work]

/-- The run is made of such actions. -/
theorem ofHandlerWorkOrPm_recoveryRun (openCount : UInt32) :
    ∀ a ∈ recoveryRun openCount, a.ofHandlerWorkOrPm = true := by
  simp [recoveryRun, Act.ofHandlerWorkOrPm]

/-- The decision to recover. -/
theorem pc_of_recover {u : State} {n : UInt32} (hrec : Recover n.toNat u.reportErrors) :
    (next u (.evaluateWork n)).pc .work = .disableIrq := by
  simp only [next, hrec, if_true, goto_pc_self]

/-- An action that is enabled, and then a run. -/
theorem runs_cons {P : State → Prop} {u : State} {a : Act} {as : List Act} (he : Enabled u a)
    (h : ∃ s, Runs.runFrom step (next u a) as = some s ∧ P s) :
    ∃ s, Runs.runFrom step u (a :: as) = some s ∧ P s := by
  obtain ⟨s, hrun, hs⟩ := h
  exact ⟨s, Runs.runFrom_cons_eq_some.mpr ⟨_, step_eq_some.mpr ⟨he, rfl⟩, hrun⟩, hs⟩

/-- A work item at the lock enters the recovery, if the mutex is free and no handler runs. -/
theorem recoveryRun_of_lock {u : State} (hwork : u.pc .work = .lock) (hmutex : u.sysfsMutex = none)
    (hisr : u.isr = .idle) (hsmall : u.openCount < 2 ^ 32)
    (hrec : Recover u.openCount u.reportErrors) :
    ∃ s, Runs.runFrom step u (recoveryRun (UInt32.ofNat u.openCount)) = some s
      ∧ s.pc .pm = u.pc .pm ∧ (s.pc .work).inRecover = true := by
  unfold recoveryRun
  refine runs_cons ?_ (runs_cons ?_ (runs_cons ?_ (runs_cons ?_ (runs_cons ?_
    ⟨_, rfl, ?_, ?_⟩))))
  · exact ⟨hwork, hmutex⟩
  · simp only [Enabled, next, goto_pc_self]
    rfl
  · simp only [Enabled, next, goto_pc_self]
    rfl
  · refine pc_of_recover ?_
    rw [toNat_openCount hsmall]
    exact hrec
  · constructor
    · simp only [next, goto_pc_self]
    · simp only [next, goto_isr]
      exact hisr
  · simp [next]
  · simp only [next, goto_pc_self]
    rfl

/-- **A request left over is served by a sleeping device.**  Where suspend releases the
mutex with a recovery due, the handler, the work item and the callbacks can go on to
`elan_recover_locked` before resume. -/
theorem due_recovery_can_start {watchdogEnabled : Bool} {s : State}
    (hs : Reachable watchdogEnabled s) (hpc : s.pc .pm = .unlock true)
    (hdue : recoveryDue s = true) :
    ∃ as s', Runs.runFrom step s (.unlock .pm true :: as) = some s'
      ∧ (∀ a ∈ as, a.ofHandlerWorkOrPm = true) ∧ s'.pc .pm = .asleep
      ∧ (s'.pc .work).inRecover = true := by
  have hl := locking_of_reachable hs
  have hisr : s.isr = .idle := hl.quiet .pm (by rw [hpc]; rfl)
  simp only [recoveryDue, Bool.and_eq_true, Bool.or_eq_true, decide_eq_true_eq] at hdue
  obtain ⟨hreq, hrec⟩ := hdue
  have hwork : (next s (.unlock .pm true)).pc .work = s.pc .work := by
    simp only [next]
    exact goto_pc_of_ne (by simp)
  have hasleep : (next s (.unlock .pm true)).pc .pm = .asleep := by
    simp only [next, goto_pc_self, if_true]
  have hquiet : (next s (.unlock .pm true)).isr = .idle := by
    simp only [next, goto_isr]
    exact hisr
  by_cases hlock : s.pc .work = .lock
  · obtain ⟨s', hrun, hpm, hin⟩ := recoveryRun_of_lock (u := next s (.unlock .pm true))
      (hwork.trans hlock) rfl hquiet hl.openCount_lt hrec
    refine ⟨recoveryRun _, s', Runs.runFrom_cons_eq_some.mpr
      ⟨_, step_eq_some.mpr ⟨hpc, rfl⟩, hrun⟩, ofHandlerWorkOrPm_recoveryRun _, ?_, hin⟩
    rw [hpm, hasleep]
  · have hout := hl.work_outside (by rw [hpc]; rfl)
    have hidle : s.pc .work = .idle := (hl.work_waits hout).resolve_right hlock
    have hstarted : (next (next s (.unlock .pm true)) .startWork).isr = .idle := by
      simp only [next, goto_isr]
      exact hisr
    have hstill : Recover (next (next s (.unlock .pm true)) .startWork).openCount
        (next (next s (.unlock .pm true)) .startWork).reportErrors := by
      simp only [next, State.goto]
      exact hrec
    obtain ⟨s', hrun, hpm, hin⟩ := recoveryRun_of_lock
      (u := next (next s (.unlock .pm true)) .startWork) (by simp only [next, goto_pc_self]) rfl
      hstarted hl.openCount_lt hstill
    refine ⟨.startWork :: recoveryRun _, s', Runs.runFrom_cons_eq_some.mpr
      ⟨_, step_eq_some.mpr ⟨hpc, rfl⟩, Runs.runFrom_cons_eq_some.mpr
      ⟨_, step_eq_some.mpr ⟨⟨hreq.resolve_right hlock, hwork.trans hidle⟩, rfl⟩, hrun⟩⟩,
      List.forall_mem_cons.mpr ⟨rfl, ofHandlerWorkOrPm_recoveryRun _⟩, ?_, hin⟩
    rw [hpm, ← hasleep]
    simp only [next]
    exact goto_pc_of_ne (by simp)

/-- The handler is about to queue the work when suspend has cancelled it; the item runs
as soon as suspend releases the mutex. -/
def requestDuringSuspend : List Act :=
  failedRead 1 ++ failedRead 2 ++ failedRead 3
    ++ [.suspend, .cancelPending .pm, .cancelWait .pm, .queueWatchdog, .scheduleWork true]
    ++ suspendRun ++ [.unlock .pm true, .startWork] ++ recoveryRun 1

/-- The device sleeps and the work item is inside `elan_recover_locked`. -/
theorem recovery_during_sleep :
    ¬ ∀ s₀ as s, Reachable true s₀ → s₀.pc .pm = .idle →
      (∀ a ∈ as, Act.ofHandlerWorkOrPm a = true) → Runs.runFrom step s₀ as = some s →
      (s.pc .pm).sleeping = true → (s.pc .work).inRecover = false := by
  intro h
  have hsafe := h (next (init true) (.openNode .touchpad)) requestDuringSuspend _
    ⟨[.openNode .touchpad], rfl⟩ rfl (by decide) rfl rfl
  exact absurd hsafe (by decide)

end Interleaving
