/-
# The suspend of the kernel patch

`elan_suspend` as `0001-input-elan-i2c-add-in-place-recovery.patch` has it: the interrupt is
disabled before the watchdog work is cancelled, and the mutex is taken last.  Everything else
runs as in `Interleaving`, so that only four steps of the power management differ
(`Patched.next`).

With the handler off nothing can queue the work again after it has been cancelled.  So in every
interleaving the work item is idle, and stays idle, from the end of `cancel_work_sync` until
the interrupt is enabled again (`Patched.work_idle_while_asleep`).
-/
import ElanGuardian.Locking
import ElanGuardian.Threads

open ElanCore Interrupt Threads

namespace Interleaving

namespace Patched

/-! ## The other order of suspend -/

/-- What an action does.  An interrupted suspend enables the interrupt and returns, as the end of
resume does. -/
def next (s : State) : Act → State
  | .suspend => s.goto .pm .disableIrq
  | .synchronizeIrq .pm => s.goto .pm .cancelPending
  | .interrupted .pm => s.goto .pm .resumeEnableIrq
  | .lock .pm => { s.goto .pm .exclusive with sysfsMutex := some .pm }
  | a => Interleaving.next s a

def step (s : State) (a : Act) : Option State := if Enabled s a then some (next s a) else none

/-- A step is an enabled instruction and its effect. -/
theorem step_eq_some {s s' : State} {a : Act} :
    step s a = some s' ↔ Enabled s a ∧ s' = next s a := by
  unfold step
  by_cases h : Enabled s a
  · simp only [h, if_true, Option.some.injEq, true_and]
    exact eq_comm
  · simp [h]

/-- The states that a run from probe reaches. -/
def Reachable (watchdogEnabled : Bool) : State → Prop :=
  Runs.Reachable step (init watchdogEnabled)

/-! ## Regions of code -/

/-- The depth of the interrupt is raised on behalf of a thread that is here. -/
def raised : Thread → Pc → Bool
  | .pm, .cancelPending | .pm, .cancelWait | .pm, .lock => true
  | .pm, pc => pc.off || pc.sleeping
  | _, pc => pc.off

/-- The instructions of a thread that matter for the depth. -/
def inCode : Thread → Pc → Bool
  | .pm, .disableIrq | .pm, .synchronizeIrq | .pm, .cancelPending | .pm, .cancelWait | .pm, .lock
  | .pm, .exclusive | .pm, .enableIrq | .pm, .unlock _ | .pm, .asleep | .pm, .resuming
  | .pm, .resumeEnableIrq | .pm, .idle => true
  | .pm, _ => false
  | _, .unlock true | _, .asleep | _, .resuming | _, .resumeEnableIrq => false
  | _, _ => true

/-- Suspend is past its wait for the handler. -/
def handlerOff : Pc → Bool
  | .synchronizeIrq => false
  | pc => raised .pm pc

/-- Suspend has removed the pending work. -/
def removed : Pc → Bool
  | .cancelPending => false
  | pc => handlerOff pc

/-- Suspend has waited for the work item as well. -/
def cancelled : Pc → Bool
  | .cancelWait => false
  | pc => removed pc

/-- While suspend is past its cancellation there is no work, and nothing that could make any. -/
structure Cancelled (s : State) : Prop where
  code : ∀ t, inCode t (s.pc t) = true
  depth : Counts raised s.pc s.irqDepth
  handler : handlerOff (s.pc .pm) = true → s.isr = .idle
  pending : removed (s.pc .pm) = true → s.pending = false
  work : cancelled (s.pc .pm) = true → s.pc .work = .idle

/-- Nothing has been cancelled yet. -/
theorem cancelled_init (watchdogEnabled : Bool) : Cancelled (init watchdogEnabled) where
  code t := by cases t <;> rfl
  depth := Counts.of_forall fun t => by cases t <;> rfl
  handler _ := rfl
  pending _ := rfl
  work _ := rfl

section Preserved

variable {s s' : State} {a : Act} {t : Thread} {src dst : Pc}

/-- Suspend waits for the handler after raising the depth. -/
theorem raised_of_handlerOff {pc : Pc} (h : handlerOff pc = true) : raised .pm pc = true := by
  cases pc <;> first | rfl | exact h

/-- It removes the pending work after that wait. -/
theorem handlerOff_of_removed {pc : Pc} (h : removed pc = true) : handlerOff pc = true := by
  cases pc <;> first | rfl | exact h

/-- And it waits for the work item after that. -/
theorem removed_of_cancelled {pc : Pc} (h : cancelled pc = true) : removed pc = true := by
  cases pc <;> first | rfl | exact h

/-- A step of the handler, which does not run while suspend is past its wait. -/
theorem Cancelled.handlerStep (hc : Cancelled s) (hpc : s'.pc = s.pc)
    (hdepth : s'.irqDepth = s.irqDepth) (hstart : s.isr = .idle → s.irqDepth = 0) :
    Cancelled s' := by
  have hrunning : handlerOff (s.pc .pm) = false := by
    cases hoff : handlerOff (s.pc .pm) with
    | false => rfl
    | true =>
      have hzero := hstart (hc.handler hoff)
      have hpos := hc.depth.pos (raised_of_handlerOff hoff)
      omega
  have hvacuous {P : Prop} (h : handlerOff (s'.pc .pm) = true) : P := by
    rw [hpc, hrunning] at h
    exact absurd h Bool.false_ne_true
  refine ⟨fun t => ?_, ?_, fun h => hvacuous h, fun h => hvacuous (handlerOff_of_removed h),
    fun h => hvacuous (handlerOff_of_removed (removed_of_cancelled h))⟩
  · rw [hpc]
    exact hc.code t
  · rw [hpc, hdepth]
    exact hc.depth

/-- A jump of one thread. -/
theorem Cancelled.jump (hc : Cancelled s) (hsrc : s.pc t = src)
    (hpc : s'.pc = Function.update s.pc t dst) (hisr : s'.isr = s.isr)
    (hpending : s'.pending = true → s.pending = true)
    (hdepth : s'.irqDepth = s.irqDepth + (raised t dst).toNat - (raised t src).toNat)
    (hcode : inCode t src = true → inCode t dst = true)
    (hwork : t = .work → src = .idle → s.pending = true)
    (hpm : t = .pm → (handlerOff dst = true → handlerOff src = true ∨ s.isr = .idle)
      ∧ (removed dst = true → removed src = true ∨ s'.pending = false)
      ∧ (cancelled dst = true → cancelled src = true ∨ s.pc .work = .idle)) :
    Cancelled s' := by
  subst hsrc
  have hkept (h : s.pending = false) : s'.pending = false := by
    cases hp : s'.pending with
    | false => rfl
    | true => rw [hpending hp] at h; exact absurd h.symm Bool.false_ne_true
  refine ⟨fun u => ?_, ?_, fun h => ?_, fun h => ?_, fun h => ?_⟩
  · rw [hpc]
    by_cases hu : u = t
    · subst hu
      rw [Function.update_self]
      exact hcode (hc.code u)
    · rw [Function.update_of_ne hu]
      exact hc.code u
  · rw [hpc, hdepth]
    exact hc.depth.jump t dst
  · rw [hisr]
    rw [hpc] at h
    by_cases ht : t = .pm
    · subst ht
      rw [Function.update_self] at h
      exact ((hpm rfl).1 h).elim hc.handler id
    · rw [Function.update_of_ne (Ne.symm ht)] at h
      exact hc.handler h
  · rw [hpc] at h
    by_cases ht : t = .pm
    · subst ht
      rw [Function.update_self] at h
      exact ((hpm rfl).2.1 h).elim (fun hr => hkept (hc.pending hr)) id
    · rw [Function.update_of_ne (Ne.symm ht)] at h
      exact hkept (hc.pending h)
  · rw [hpc] at h ⊢
    by_cases ht : t = .pm
    · subst ht
      rw [Function.update_self] at h
      rw [Function.update_of_ne (by simp)]
      exact ((hpm rfl).2.2 h).elim hc.work id
    · rw [Function.update_of_ne (Ne.symm ht)] at h
      have hidle := hc.work h
      by_cases hw : t = .work
      · -- an idle work item starts only if it is pending, and nothing is
        subst hw
        have hnone := hc.pending (removed_of_cancelled h)
        rw [hwork rfl hidle] at hnone
        exact absurd hnone.symm Bool.false_ne_true
      · rw [Function.update_of_ne (Ne.symm hw)]
        exact hidle

/-- Every step keeps suspend's cancellation. -/
theorem cancelled_step (hc : Cancelled s) (h : step s a = some s') : Cancelled s' := by
  obtain ⟨he, rfl⟩ := step_eq_some.mp h
  have hno {P : Prop} {b : Bool} (hb : b = false) (ht : b = true) : P := by
    rw [hb] at ht
    exact absurd ht Bool.false_ne_true
  cases a with
  | interrupt => exact hc.handlerStep rfl rfl fun _ => he.2
  | read | loadErrors | storeErrors | evaluateErrors | queueWatchdog | clearErrors | countReport
  | emitReport =>
    refine hc.handlerStep rfl rfl fun hidle => ?_
    simp only [Enabled] at he
    rw [he] at hidle
    exact absurd hidle (by simp)
  | scheduleWork =>
    refine hc.handlerStep rfl rfl fun hidle => ?_
    rw [he.1] at hidle
    exact absurd hidle (by simp)
  | startWork =>
    exact hc.jump he.2 rfl rfl (fun hp => hno rfl hp) rfl (fun _ => rfl) (fun _ _ => he.1) (by simp)
  | write kind task =>
    exact hc.jump he rfl rfl id rfl (fun _ => rfl) (by simp) (by simp)
  | openNode n => exact hc.jump he rfl rfl id rfl (fun _ => rfl) (by simp) (by simp)
  | closeNode n =>
    by_cases hlast : s.openCount = 1
    · have hpc : (next s (.closeNode n)).pc = Function.update s.pc (.node n) .cancelPending := by
        simp only [next, Interleaving.next, hlast, if_true]
        rfl
      exact hc.jump he hpc rfl id rfl (fun _ => rfl) (by simp) (by simp)
    · have hpc : (next s (.closeNode n)).pc = Function.update s.pc (.node n) .idle := by
        simp only [next, Interleaving.next, hlast, if_false]
        rfl
      exact hc.jump he hpc rfl id rfl (fun _ => rfl) (by simp) (by simp)
  | cancelPending t =>
    refine hc.jump he rfl rfl (fun hp => hno rfl hp) ?_ ?_ (by simp)
      fun _ => ⟨fun _ => Or.inl rfl, fun _ => Or.inr rfl, fun h => hno rfl h⟩
    · cases t <;> rfl
    · cases t <;> exact fun _ => rfl
  | cancelWait t =>
    refine hc.jump he.1 rfl rfl id ?_ ?_ (by simp) fun ht => ?_
    · cases t <;> rfl
    · cases t <;> exact fun _ => rfl
    · subst ht
      exact ⟨fun _ => Or.inl rfl, fun _ => Or.inl rfl, fun _ => Or.inr he.2⟩
  | interrupted t =>
    cases t with
    | work => exact absurd rfl he.2
    | pm =>
      exact hc.jump he.1 rfl rfl id rfl (fun _ => rfl) (by simp)
        fun _ => ⟨fun _ => Or.inl rfl, fun _ => Or.inl rfl, fun _ => Or.inl rfl⟩
    | _ => exact hc.jump he.1 rfl rfl id rfl (fun _ => rfl) (by simp) (by simp)
  | lock t =>
    cases t with
    | work => exact hc.jump he.1 rfl rfl id rfl (fun _ => rfl) (by simp) (by simp)
    | pm =>
      exact hc.jump he.1 rfl rfl id rfl (fun _ => rfl) (by simp)
        fun _ => ⟨fun _ => Or.inl rfl, fun _ => Or.inl rfl, fun _ => Or.inl rfl⟩
    | _ => exact hc.jump he.1 rfl rfl id rfl (fun _ => rfl) (by simp) (by simp)
  | loadOpenCount => exact hc.jump he rfl rfl id rfl (fun _ => rfl) (by simp) (by simp)
  | evaluateWork n =>
    by_cases hrec : Recover n.toNat s.reportErrors
    · have hpc : (next s (.evaluateWork n)).pc = Function.update s.pc .work .disableIrq := by
        simp only [next, Interleaving.next, hrec, if_true]
        rfl
      exact hc.jump he hpc rfl id rfl (fun _ => rfl) (by simp) (by simp)
    · have hpc : (next s (.evaluateWork n)).pc = Function.update s.pc .work (.unlock false) := by
        simp only [next, Interleaving.next, hrec, if_false]
        rfl
      exact hc.jump he hpc rfl id rfl (fun _ => rfl) (by simp) (by simp)
  | disableIrq t =>
    refine hc.jump he rfl rfl id ?_ ?_ (by simp)
      fun _ => ⟨fun h => hno rfl h, fun h => hno rfl h, fun h => hno rfl h⟩
    · cases t <;> rfl
    · cases t <;> exact fun _ => rfl
  | synchronizeIrq t =>
    rcases t with _ | ⟨_ | _ | _, _⟩ | _ | _
    · exact hc.jump he.1 rfl rfl id rfl (fun _ => rfl) (by simp) (by simp)
    · exact hc.jump he.1 rfl rfl id rfl (fun _ => rfl) (by simp) (by simp)
    · exact hc.jump he.1 rfl rfl id rfl (fun _ => rfl) (by simp) (by simp)
    · exact hc.jump he.1 rfl rfl id rfl (fun _ => rfl) (by simp) (by simp)
    · exact hc.jump he.1 rfl rfl id rfl (fun _ => rfl) (by simp) (by simp)
    · exact hc.jump he.1 rfl rfl id rfl (fun _ => rfl) (by simp)
        fun _ => ⟨fun _ => Or.inr he.2, fun h => hno rfl h, fun h => hno rfl h⟩
  | releaseInputs t | resetErrors t =>
    refine hc.jump he rfl rfl id ?_ ?_ (by simp)
      fun _ => ⟨fun _ => Or.inl rfl, fun _ => Or.inl rfl, fun _ => Or.inl rfl⟩
    · cases t <;> rfl
    · cases t <;> exact id
  | stage t phase status =>
    rcases afterStage_eq phase status with h | h
    · have hpc : (next s (.stage t phase status)).pc = Function.update s.pc t .enableIrq :=
        congrArg (Function.update s.pc t) h
      refine hc.jump he hpc rfl id ?_ ?_ (by simp)
        fun _ => ⟨fun _ => Or.inl rfl, fun _ => Or.inl rfl, fun _ => Or.inl rfl⟩
      · cases t <;> rfl
      · cases t <;> exact fun _ => rfl
    · have hpc : (next s (.stage t phase status)).pc
          = Function.update s.pc t (.recovering (elanRsRecoveryNext phase status)) :=
        congrArg (Function.update s.pc t) h
      refine hc.jump he hpc rfl id ?_ ?_ (by simp)
        fun _ => ⟨fun _ => Or.inl rfl, fun _ => Or.inl rfl, fun _ => Or.inl rfl⟩
      · cases t <;> rfl
      · cases t <;> exact id
  | exclusive t status =>
    rcases afterExclusive_eq t status with h | ⟨rfl, h⟩
    · have hpc : (next s (.exclusive t status)).pc = Function.update s.pc t .enableIrq :=
        congrArg (Function.update s.pc t) h
      refine hc.jump he hpc rfl id ?_ ?_ (by simp)
        fun _ => ⟨fun _ => Or.inl rfl, fun _ => Or.inl rfl, fun _ => Or.inl rfl⟩
      · cases t <;> rfl
      · cases t <;> exact fun _ => rfl
    · have hpc : (next s (.exclusive .pm status)).pc
          = Function.update s.pc .pm (.unlock true) := congrArg (Function.update s.pc .pm) h
      exact hc.jump he hpc rfl id rfl (fun _ => rfl) (by simp)
        fun _ => ⟨fun _ => Or.inl rfl, fun _ => Or.inl rfl, fun _ => Or.inl rfl⟩
  | enableIrq t =>
    refine hc.jump he rfl rfl id ?_ ?_ (by simp)
      fun _ => ⟨fun h => hno rfl h, fun h => hno rfl h, fun h => hno rfl h⟩
    · cases t <;> rfl
    · cases t <;> exact fun _ => rfl
  | unlock t asleep =>
    cases asleep with
    | false =>
      refine hc.jump he rfl rfl id ?_ ?_ (by simp)
        fun _ => ⟨fun h => hno rfl h, fun h => hno rfl h, fun h => hno rfl h⟩
      · cases t <;> rfl
      · cases t <;> exact fun _ => rfl
    | true =>
      -- only suspend unlocks with the interrupt off
      have hcode := hc.code t
      rw [show s.pc t = .unlock true from he] at hcode
      cases t with
      | pm =>
        exact hc.jump he rfl rfl id rfl (fun _ => rfl) (by simp)
          fun _ => ⟨fun _ => Or.inl rfl, fun _ => Or.inl rfl, fun _ => Or.inl rfl⟩
      | _ => exact hno rfl hcode
  | suspend =>
    exact hc.jump he rfl rfl id rfl (fun _ => rfl) (by simp)
      fun _ => ⟨fun h => hno rfl h, fun h => hno rfl h, fun h => hno rfl h⟩
  | resume | resumeStages =>
    exact hc.jump he rfl rfl id rfl (fun _ => rfl) (by simp)
      fun _ => ⟨fun _ => Or.inl rfl, fun _ => Or.inl rfl, fun _ => Or.inl rfl⟩
  | resumeEnableIrq =>
    exact hc.jump he rfl rfl id rfl (fun _ => rfl) (by simp)
      fun _ => ⟨fun h => hno rfl h, fun h => hno rfl h, fun h => hno rfl h⟩

end Preserved

/-! ## Sleep -/

/-- **The patch excludes recovery from sleep.**  In every interleaving, from the end of suspend's
`cancel_work_sync` until the interrupt is enabled again, and so whenever the device sleeps or
resumes: the work item is idle, nothing is queued, no handler runs, and the interrupt is off. -/
theorem work_idle_while_asleep (watchdogEnabled : Bool) (s : State)
    (hs : Reachable watchdogEnabled s) (hasleep : cancelled (s.pc .pm) = true) :
    s.pc .work = .idle ∧ s.pending = false ∧ s.isr = .idle ∧ 0 < s.irqDepth := by
  have hc : Cancelled s := Runs.Reachable.invariant (cancelled_init watchdogEnabled)
    (fun u a u' hu hstep => cancelled_step hu hstep) hs
  have hremoved := removed_of_cancelled hasleep
  have hoff := handlerOff_of_removed hremoved
  exact ⟨hc.work hasleep, hc.pending hremoved, hc.handler hoff,
    hc.depth.pos (raised_of_handlerOff hoff)⟩

/-- The handler queues the work while suspend already waits for it to return. -/
def queuedWhileSuspending : List Act :=
  threeFailures ++ [.queueWatchdog, .suspend, .disableIrq .pm, .scheduleWork true,
    .synchronizeIrq .pm, .cancelPending .pm, .cancelWait .pm, .lock .pm, .exclusive .pm 0,
    .unlock .pm true]

/-- The device falls asleep, and the request is gone. -/
theorem work_idle_while_asleep_queued :
    ∃ s, Runs.runFrom step (init true) queuedWhileSuspending = some s ∧ s.pc .pm = .asleep
      ∧ s.pc .work = .idle ∧ s.pending = false ∧ s.isr = .idle ∧ 0 < s.irqDepth :=
  ⟨_, rfl, rfl, work_idle_while_asleep true _ ⟨queuedWhileSuspending, rfl⟩ rfl⟩

end Patched

end Interleaving
