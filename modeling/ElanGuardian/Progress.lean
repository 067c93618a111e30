/-
# Every operation returns

The mutex, `disable_irq` and `cancel_work_sync` make the threads of the driver wait for each
other.  No interleaving leads them into a deadlock, and none keeps them waiting forever: unless
something new starts, the work that is left (`work`) shrinks with every step, and a step is
possible until everything has returned (`every_operation_returns`).
-/
import ElanGuardian.SleepRace
import ElanGuardian.Threads

open ElanCore Interrupt Threads

namespace Interleaving

/-! ## What is left to do -/

/-- The action goes on with something that has started.  The others are an interrupt, a sysfs
write, an open, a close, a suspend and a resume. -/
def Act.goesOn : Act → Bool
  | .interrupt | .write .. | .openNode _ | .closeNode _ | .suspend | .resume => false
  | _ => true

/-- The stages that may follow in `elan_recover_locked`. -/
def stages (phase : UInt32) : ℕ :=
  if phase = recoveryComplete then 6
  else if phase = recoveryIdle then 5
  else if phase = recoveryReleaseInput then 4
  else if phase = recoveryReinitialize then 3
  else if phase = recoveryVerify then 2
  else if phase = recoveryRestoreMode then 1
  else 0

/-- The instructions that a thread may execute until it returns. -/
def Pc.rank : Pc → ℕ
  | .idle | .opened | .asleep => 0
  | .unlock _ => 1
  | .enableIrq => 2
  | .exclusive => 3
  | .recovering phase => 3 + stages phase
  | .resetErrors => 10
  | .releaseInputs => 11
  | .synchronizeIrq => 12
  | .disableIrq => 13
  | .evaluate _ => 14
  | .loadOpenCount => 15
  | .lock => 16
  | .cancelWait => 17
  | .cancelPending => 18
  | .resumeEnableIrq => 1
  | .resuming => 2

/-- The same for the handler, with the work item that it may queue. -/
def IsrPc.rank : IsrPc → ℕ
  | .idle => 0
  | .emitReport => 1
  | .countReport => 2
  | .clearErrors => 3
  | .scheduleWork => 18
  | .queueWatchdog => 19
  | .evaluate _ => 20
  | .storeErrors _ => 21
  | .loadErrors => 22
  | .readReport => 23

/-- What is left to do for these threads, the handler and the queue. -/
def work (threads : Finset Thread) (s : State) : ℕ :=
  s.isr.rank + (if s.pending then 17 else 0) + ∑ t ∈ threads, (s.pc t).rank

/-- No other thread has started. -/
structure Within (threads : Finset Thread) (s : State) : Prop where
  work : .work ∈ threads
  others : ∀ t, t ∉ threads → s.pc t = .idle

/-- Everything has returned. -/
structure AtRest (s : State) : Prop where
  isr : s.isr = .idle
  pending : s.pending = false
  threads : ∀ t, (s.pc t).rank = 0

section Work

variable {s s' : State} {a : Act} {threads : Finset Thread} {t : Thread} {src dst : Pc}

/-- There are fewer stages left after each. -/
theorem stages_lt {phase : UInt32} {status : ℤ}
    (h : afterStage phase status = .recovering (elanRsRecoveryNext phase status)) :
    stages (elanRsRecoveryNext phase status) < stages phase := by
  have hgoes : ¬ (elanRsRecoveryNext phase status = recoveryFailed
      ∨ elanRsRecoveryNext phase status = recoveryComplete) := by
    intro hend
    rw [afterStage, if_pos hend] at h
    exact absurd h nofun
  revert hgoes
  unfold elanRsRecoveryNext
  split_ifs with hneg hidle hrelease hinit hverify hmode hcomplete
  · exact fun hgoes => absurd (Or.inl rfl) hgoes
  · subst hidle; decide
  · subst hrelease; decide
  · subst hinit; decide
  · subst hverify; decide
  · exact fun hgoes => absurd (Or.inr rfl) hgoes
  · subst hcomplete; decide
  · exact fun hgoes => absurd (Or.inl rfl) hgoes

/-- A thread of the others cannot go on. -/
theorem Within.mem (hw : Within threads s) (hsrc : s.pc t = src) (hidle : src ≠ .idle) :
    t ∈ threads := by
  by_contra h
  exact hidle (hsrc.symm.trans (hw.others t h))

/-- A thread's step starts no other thread. -/
theorem Within.jump (hw : Within threads s) (ht : t ∈ threads)
    (hpc : s'.pc = Function.update s.pc t dst) : Within threads s' := by
  refine ⟨hw.work, fun u hu => ?_⟩
  have hne : u ≠ t := by
    rintro rfl
    exact hu ht
  rw [hpc, Function.update_of_ne hne]
  exact hw.others u hu

/-- A jump towards the end of the code. -/
theorem work_jump_lt (hw : Within threads s) (hsrc : s.pc t = src)
    (hpc : s'.pc = Function.update s.pc t dst) (hisr : s'.isr = s.isr)
    (hpending : s'.pending = true → s.pending = true) (hrank : dst.rank < src.rank) :
    Within threads s' ∧ work threads s' < work threads s := by
  have ht : t ∈ threads := hw.mem hsrc fun h => by
    rw [h] at hrank
    exact absurd hrank (Nat.not_lt_zero _)
  have hsum := sum_update Pc.rank s.pc dst ht
  rw [hsrc, ← hpc] at hsum
  have hqueue : (if s'.pending then 17 else 0) ≤ if s.pending then 17 else 0 := by
    split_ifs with h' h
    · exact le_rfl
    · exact absurd (hpending h') h
    · exact Nat.zero_le _
    · exact le_rfl
  refine ⟨hw.jump ht hpc, ?_⟩
  unfold work
  rw [hisr]
  omega

/-- A step of the handler. -/
theorem work_handler_lt (src dst : IsrPc) (hw : Within threads s) (hsrc : s.isr = src)
    (hisr : s'.isr = dst) (hpc : s'.pc = s.pc) (hpending : s'.pending = s.pending)
    (hrank : dst.rank < src.rank) : Within threads s' ∧ work threads s' < work threads s := by
  refine ⟨⟨hw.work, fun t ht => by rw [hpc]; exact hw.others t ht⟩, ?_⟩
  unfold work
  rw [hsrc, hisr, hpc, hpending]
  omega

/-- **Every step that goes on leaves less to do**, whatever the controller answers. -/
theorem work_step_lt (hw : Within threads s) (ha : a.goesOn = true) (h : step s a = some s') :
    Within threads s' ∧ work threads s' < work threads s := by
  obtain ⟨he, rfl⟩ := step_eq_some.mp h
  have hno {P : Prop} (hf : false = true) : P := absurd hf Bool.false_ne_true
  cases a with
  | interrupt | write | openNode | closeNode | suspend | resume => exact hno ha
  | read failed =>
    cases failed with
    | false => exact work_handler_lt .readReport .clearErrors hw he rfl rfl rfl (by decide)
    | true => exact work_handler_lt .readReport .loadErrors hw he rfl rfl rfl (by decide)
  | loadErrors =>
    exact work_handler_lt .loadErrors (.storeErrors (s.reportErrors + 1)) hw he rfl rfl rfl
      (by simp [IsrPc.rank])
  | storeErrors v =>
    exact work_handler_lt (.storeErrors v) (.evaluate v) hw he rfl rfl rfl (by simp [IsrPc.rank])
  | evaluateErrors v =>
    refine work_handler_lt (.evaluate v) (if s.watchdogEnabled = true ∧ Recover s.openCount v
      then .queueWatchdog else .idle) hw he rfl rfl rfl ?_
    split_ifs <;> simp [IsrPc.rank]
  | queueWatchdog =>
    refine work_handler_lt .queueWatchdog (if s.watchdogEnabled = true ∧ s.openCount > 0
      then .scheduleWork else .idle) hw he rfl rfl rfl ?_
    split_ifs <;> decide
  | scheduleWork kept =>
    -- the queue may grow by a work item
    refine ⟨⟨hw.work, hw.others⟩, ?_⟩
    show 0 + (if (s.pending || kept) = true then 17 else 0) + _
      < s.isr.rank + _ + ∑ t ∈ threads, (s.pc t).rank
    have hqueue : (if (s.pending || kept) = true then 17 else 0) ≤ 17 := by
      split_ifs <;> decide
    rw [he.1, IsrPc.rank]
    show _ + ∑ t ∈ threads, (s.pc t).rank < _
    omega
  | clearErrors => exact work_handler_lt .clearErrors .countReport hw he rfl rfl rfl (by decide)
  | countReport => exact work_handler_lt .countReport .emitReport hw he rfl rfl rfl (by decide)
  | emitReport => exact work_handler_lt .emitReport .idle hw he rfl rfl rfl (by decide)
  | startWork =>
    -- a queued item is more than one that waits for the mutex
    have hsum := sum_update Pc.rank s.pc .lock hw.work
    rw [he.2] at hsum
    have hpc : (next s .startWork).pc = Function.update s.pc .work .lock := rfl
    refine ⟨hw.jump hw.work hpc, ?_⟩
    show s.isr.rank + 0 + ∑ t ∈ threads, (Function.update s.pc .work .lock t).rank
      < s.isr.rank + (if s.pending = true then 17 else 0) + ∑ t ∈ threads, (s.pc t).rank
    have hidle : Pc.idle.rank = 0 := rfl
    have hlock : Pc.lock.rank = 16 := rfl
    rw [if_pos he.1]
    omega
  | cancelPending t => exact work_jump_lt hw he rfl rfl (fun hp => hno hp) (by decide)
  | cancelWait t =>
    refine work_jump_lt hw he.1 rfl rfl id ?_
    rcases afterCancel_eq t with h | ⟨-, h⟩ <;> rw [h] <;> decide
  | interrupted t => exact work_jump_lt hw he.1 rfl rfl id (by decide)
  | lock t =>
    refine work_jump_lt hw he.1 rfl rfl id ?_
    rcases afterLock_eq t with ⟨-, h⟩ | h <;> rw [h] <;> decide
  | loadOpenCount => exact work_jump_lt hw he rfl rfl id (by simp [Pc.rank])
  | evaluateWork n =>
    refine work_jump_lt hw he rfl rfl id ?_
    split_ifs <;> simp [Pc.rank]
  | disableIrq t | releaseInputs t | enableIrq t => exact work_jump_lt hw he rfl rfl id (by decide)
  | synchronizeIrq t =>
    refine work_jump_lt hw he.1 rfl rfl id ?_
    rcases afterSynchronize_eq t with ⟨h, -⟩ | ⟨h, -⟩ <;> rw [h] <;> decide
  | resetErrors t => exact work_jump_lt hw he rfl rfl id (by decide)
  | stage t phase status =>
    refine work_jump_lt hw he rfl rfl id ?_
    rcases afterStage_eq phase status with h | h
    · rw [h]
      show 2 < 3 + stages phase
      omega
    · have hstages := stages_lt h
      rw [h]
      simp only [Pc.rank]
      omega
  | exclusive t status =>
    refine work_jump_lt hw he rfl rfl id ?_
    rcases afterExclusive_eq t status with h | ⟨-, h⟩ <;> rw [h] <;> decide
  | unlock t asleep =>
    refine work_jump_lt hw he rfl rfl id ?_
    cases asleep <;> decide
  | resumeStages | resumeEnableIrq => exact work_jump_lt hw he rfl rfl id (by decide)

end Work

/-! ## Something can always go on -/

section GoesOn

variable {s : State} {t : Thread}

/-- The holder of the mutex goes on once the handler has returned. -/
theorem holder_goesOn (hl : Locking s) (hisr : s.isr = .idle)
    (hholds : (s.pc t).holds = true) : ∃ a, a.goesOn = true ∧ Enabled s a := by
  have hcode := hl.code t
  cases hpc : s.pc t with
  | loadOpenCount =>
    rw [hpc] at hcode
    obtain rfl : t = .work := of_decide_eq_true hcode
    exact ⟨.loadOpenCount, rfl, hpc⟩
  | evaluate n =>
    rw [hpc] at hcode
    obtain rfl : t = .work := of_decide_eq_true hcode
    exact ⟨.evaluateWork n, rfl, hpc⟩
  | disableIrq => exact ⟨.disableIrq t, rfl, hpc⟩
  | synchronizeIrq => exact ⟨.synchronizeIrq t, rfl, hpc, hisr⟩
  | releaseInputs => exact ⟨.releaseInputs t, rfl, hpc⟩
  | resetErrors => exact ⟨.resetErrors t, rfl, hpc⟩
  | recovering phase => exact ⟨.stage t phase 0, rfl, hpc⟩
  | exclusive => exact ⟨.exclusive t 0, rfl, hpc⟩
  | enableIrq => exact ⟨.enableIrq t, rfl, hpc⟩
  | unlock asleep => exact ⟨.unlock t asleep, rfl, hpc⟩
  | _ =>
    rw [hpc] at hholds
    exact absurd hholds Bool.false_ne_true

/-- With the mutex free, every thread that has not returned makes something go on. -/
theorem busy_goesOn (hl : Locking s) (hmutex : s.sysfsMutex = none) (hbusy : (s.pc t).rank ≠ 0) :
    ∃ a, a.goesOn = true ∧ Enabled s a := by
  have hfree (u : Thread) : (s.pc u).holds = false := by
    cases hu : (s.pc u).holds with
    | false => rfl
    | true =>
      rw [(hl.mutex u).mp hu] at hmutex
      exact absurd hmutex (by simp)
  have hcode := hl.code t
  have hholds := hfree t
  cases hpc : s.pc t with
  | idle | opened | asleep =>
    rw [hpc] at hbusy
    exact absurd rfl hbusy
  | cancelPending => exact ⟨.cancelPending t, rfl, hpc⟩
  | cancelWait =>
    -- it waits for a work item, which at most waits for the mutex
    by_cases hidle : s.pc .work = .idle
    · exact ⟨.cancelWait t, rfl, hpc, hidle⟩
    · exact ⟨.lock .work, rfl, (hl.work_waits (hfree .work)).resolve_left hidle, hmutex⟩
  | lock => exact ⟨.lock t, rfl, hpc, hmutex⟩
  | resuming =>
    rw [hpc] at hcode
    obtain rfl : t = .pm := of_decide_eq_true hcode
    exact ⟨.resumeStages, rfl, hpc⟩
  | resumeEnableIrq =>
    rw [hpc] at hcode
    obtain rfl : t = .pm := of_decide_eq_true hcode
    exact ⟨.resumeEnableIrq, rfl, hpc⟩
  | _ =>
    rw [hpc] at hholds
    exact absurd hholds.symm Bool.false_ne_true

/-- **No deadlock.**  Until everything has returned, something can go on. -/
theorem goesOn_of_not_atRest (hl : Locking s) (hbusy : ¬ AtRest s) :
    ∃ a, a.goesOn = true ∧ Enabled s a := by
  cases hisr : s.isr with
  | readReport => exact ⟨.read true, rfl, hisr⟩
  | loadErrors => exact ⟨.loadErrors, rfl, hisr⟩
  | storeErrors v => exact ⟨.storeErrors v, rfl, hisr⟩
  | evaluate v => exact ⟨.evaluateErrors v, rfl, hisr⟩
  | queueWatchdog => exact ⟨.queueWatchdog, rfl, hisr⟩
  | scheduleWork => exact ⟨.scheduleWork true, rfl, hisr, Or.inl rfl⟩
  | clearErrors => exact ⟨.clearErrors, rfl, hisr⟩
  | countReport => exact ⟨.countReport, rfl, hisr⟩
  | emitReport => exact ⟨.emitReport, rfl, hisr⟩
  | idle =>
    cases hmutex : s.sysfsMutex with
    | some t => exact holder_goesOn hl hisr ((hl.mutex t).mpr hmutex)
    | none =>
      by_cases hthreads : ∀ t, (s.pc t).rank = 0
      · cases hpending : s.pending with
        | false => exact absurd ⟨hisr, hpending, hthreads⟩ hbusy
        | true =>
          -- the work item is idle, as its code has no other end
          have hcode := hl.code .work
          have hrank := hthreads .work
          refine ⟨.startWork, rfl, hpending, ?_⟩
          cases hpc : s.pc .work with
          | idle => rfl
          | opened | asleep =>
            rw [hpc] at hcode
            exact absurd hcode (by decide)
          | recovering | unlock | evaluate =>
            rw [hpc] at hrank
            exact absurd hrank (by simp [Pc.rank])
          | _ =>
            rw [hpc] at hrank
            exact absurd hrank (by decide)
      · obtain ⟨t, ht⟩ := not_forall.mp hthreads
        exact busy_goesOn hl hmutex ht

end GoesOn

/-! ## Reachable states -/

/-- Only finitely many threads have started. -/
theorem exists_within {watchdogEnabled : Bool} {s : State} (hs : Reachable watchdogEnabled s) :
    ∃ threads, Within threads s := by
  refine hs.invariant (I := fun s => ∃ threads, Within threads s)
    ⟨{.work}, Finset.mem_singleton_self _, fun _ _ => rfl⟩ ?_
  rintro u a u' ⟨threads, hw⟩ hstep
  rcases step_control hstep with h | ⟨t, src, dst, h⟩
  · refine ⟨threads, hw.work, fun t ht => ?_⟩
    rw [h.pc]
    exact hw.others t ht
  · refine ⟨insert t threads, Finset.mem_insert_of_mem hw.work, fun v hv => ?_⟩
    obtain ⟨hne, hnot⟩ := not_or.mp (mt Finset.mem_insert.mpr hv)
    rw [h.pc_of_ne hne]
    exact hw.others v hnot

/-- **Every operation returns.**  From every reachable state, and under every schedule and every
outcome of the transport calls: the steps that can be taken before something new starts are
bounded, and they end only where the handler, the work item, every sysfs write, every close and
the suspend or resume have returned. -/
theorem every_operation_returns (watchdogEnabled : Bool) (s : State)
    (hs : Reachable watchdogEnabled s) :
    ∃ bound, ∀ as s', (∀ a ∈ as, Act.goesOn a = true) → Runs.runFrom step s as = some s' →
      as.length ≤ bound ∧ (AtRest s' ∨ ∃ a, a.goesOn = true ∧ Enabled s' a) := by
  obtain ⟨threads, hw⟩ := exists_within hs
  refine ⟨work threads s, fun as s' has hrun => ?_⟩
  obtain ⟨-, hlen⟩ := Runs.runFrom_length_le (K := Within threads)
    (fun u a u' hu ha hstep => (work_step_lt hu ha hstep).1)
    (fun u a u' hu ha hstep => (work_step_lt hu ha hstep).2) hw has hrun
  refine ⟨by omega, ?_⟩
  by_cases hrest : AtRest s'
  · exact Or.inl hrest
  · exact Or.inr (goesOn_of_not_atRest (locking_of_reachable (hs.trans hrun)) hrest)

/-- The last close waits for a work item that has not got the mutex yet. -/
def closeWhileRecovering : List Act :=
  threeFailures ++ [.queueWatchdog, .scheduleWork true, .startWork, .closeNode .touchpad,
    .cancelPending (.node .touchpad)]

/-- Both return. -/
theorem every_operation_returns_close :
    ∃ s, Runs.runFrom step (init true) closeWhileRecovering = some s
      ∧ s.pc (.node .touchpad) = .cancelWait ∧ s.pc .work = .lock
      ∧ ∃ bound, ∀ as s', (∀ a ∈ as, Act.goesOn a = true) → Runs.runFrom step s as = some s' →
        as.length ≤ bound ∧ (AtRest s' ∨ ∃ a, a.goesOn = true ∧ Enabled s' a) :=
  ⟨_, rfl, rfl, rfl, every_operation_returns true _ ⟨closeWhileRecovering, rfl⟩⟩

end Interleaving
