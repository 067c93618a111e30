/-
# The mutex, the interrupt depth and the quiet region

What holds in every reachable state of the interleaved driver: a thread is at an
instruction of its own code, it has the mutex exactly in its critical section, the
interrupt depth counts the sections that have disabled the interrupt plus a sleeping
device, and while any thread is past its `disable_irq` no handler is running.
-/
import ElanGuardian.Interleaving

open ElanCore Interrupt

namespace Interleaving

/-! ## Regions of code -/

/-- Inside a critical section of `sysfs_mutex`. -/
def Pc.holds : Pc → Bool
  | .loadOpenCount | .evaluate _ | .disableIrq | .synchronizeIrq | .releaseInputs | .resetErrors
  | .recovering _ | .exclusive | .enableIrq | .unlock _ => true
  | _ => false

/-- Inside a critical section, with the depth raised. -/
def Pc.off : Pc → Bool
  | .synchronizeIrq | .releaseInputs | .resetErrors | .recovering _ | .exclusive | .enableIrq
  | .unlock true => true
  | _ => false

/-- Asleep or resuming: the depth is still raised, the mutex is not held. -/
def Pc.sleeping : Pc → Bool
  | .asleep | .resuming | .resumeEnableIrq => true
  | _ => false

/-- Past the wait of `disable_irq`. -/
def Pc.quiet : Pc → Bool
  | .synchronizeIrq => false
  | pc => pc.off || pc.sleeping

/-- The instructions in the code of a thread. -/
def Pc.codeOf (t : Thread) : Pc → Bool
  | .idle => true
  | .opened => match t with | .node _ => true | _ => false
  | .cancelPending | .cancelWait => match t with | .node _ | .pm => true | _ => false
  | .loadOpenCount | .evaluate _ => t = .work
  | .releaseInputs | .resetErrors | .recovering _ =>
    match t with | .work | .store .recover _ => true | _ => false
  | .exclusive => match t with | .work | .store .recover _ | .node _ => false | _ => true
  | .lock | .disableIrq | .synchronizeIrq | .enableIrq | .unlock false =>
    match t with | .node _ => false | _ => true
  | .unlock true | .asleep | .resuming | .resumeEnableIrq => t = .pm

/-- The depth is raised on behalf of a thread that is here. -/
def Pc.raised (pc : Pc) : Bool := pc.off || pc.sleeping

section Regions

variable {pc : Pc}

/-- The interrupt is disabled under the mutex. -/
theorem holds_of_off (h : pc.off = true) : pc.holds = true := by
  cases pc <;> first | rfl | exact absurd h Bool.false_ne_true

/-- A sleeping device has released the mutex. -/
theorem not_holds_of_sleeping (h : pc.sleeping = true) : pc.holds = false := by
  cases pc <;> first | rfl | exact absurd h (by simp [Pc.sleeping])

/-- Without the mutex the interrupt is not off. -/
theorem off_of_not_holds (h : pc.holds = false) : pc.off = false := by
  cases hoff : pc.off with
  | false => rfl
  | true => exact absurd (holds_of_off hoff) (by simp [h])

/-- The two reasons for a raised depth exclude each other. -/
theorem raised_toNat (pc : Pc) : pc.raised.toNat = pc.off.toNat + pc.sleeping.toNat := by
  unfold Pc.raised
  cases hs : pc.sleeping with
  | false => simp
  | true => rw [off_of_not_holds (not_holds_of_sleeping hs)]; rfl

/-- Only the power management thread leaves the device asleep. -/
theorem eq_pm_of_sleeping {t : Thread} (hcode : pc.codeOf t = true) (h : pc.sleeping = true) :
    t = .pm := by
  cases pc <;> first | exact of_decide_eq_true hcode | exact absurd h (by simp [Pc.sleeping])

/-- Only the thread of an input node holds it open. -/
theorem node_of_opened {t : Thread} (hcode : Pc.codeOf t .opened = true) : ∃ n, t = .node n := by
  cases t with
  | node n => exact ⟨n, rfl⟩
  | _ => exact absurd hcode (by simp [Pc.codeOf])

/-- Where the handler has been waited for, the depth is raised. -/
theorem raised_of_quiet (h : pc.quiet = true) : pc.raised = true := by
  cases pc with
  | synchronizeIrq => rfl
  | _ => exact h

end Regions

/-! ## What a step does to the locks -/

/-- A step of the interrupt handler. -/
structure HandlerStep (s s' : State) : Prop where
  pc : s'.pc = s.pc
  mutex : s'.sysfsMutex = s.sysfsMutex
  depth : s'.irqDepth = s.irqDepth
  count : s'.openCount = s.openCount
  /-- a handler starts at depth 0 only -/
  start : s.isr = .idle → s.irqDepth = 0

/-- Thread `t` jumps from `src` to `dst`.  The mutex, the depth and the open count
follow the regions of code that the jump leaves and enters. -/
structure Jump (s s' : State) (t : Thread) (src dst : Pc) : Prop where
  source : s.pc t = src
  goto : s'.pc = Function.update s.pc t dst
  isr : s'.isr = s.isr
  code : src.codeOf t = true → dst.codeOf t = true
  free : dst.holds = true → src.holds = true ∨ s.sysfsMutex = none
  quiet : dst.quiet = true → src.quiet = true ∨ s.isr = .idle
  mutex : s'.sysfsMutex = if dst.holds = src.holds then s.sysfsMutex
    else if dst.holds = true then some t else none
  depth : s'.irqDepth = s.irqDepth + dst.raised.toNat - src.raised.toNat
  count : s'.openCount
    = s.openCount + (if dst = .opened then 1 else 0) - if src = .opened then 1 else 0

/-- After a stage the recovery ends or goes on with what the Rust side answers. -/
theorem afterStage_eq (phase : UInt32) (status : ℤ) :
    afterStage phase status = .enableIrq
      ∨ afterStage phase status = .recovering (elanRsRecoveryNext phase status) := by
  unfold afterStage
  split_ifs
  · exact Or.inl rfl
  · exact Or.inr rfl

/-- After its exclusive part a thread enables the interrupt, or suspend releases the mutex. -/
theorem afterExclusive_eq (t : Thread) (status : ℤ) :
    afterExclusive t status = .enableIrq ∨ t = .pm ∧ afterExclusive t status = .unlock true := by
  unfold afterExclusive
  split_ifs with h
  · exact Or.inr ⟨h.1, rfl⟩
  · exact Or.inl rfl

/-- After the cancelled work a closing node is done, and suspend goes on to the mutex. -/
theorem afterCancel_eq (t : Thread) :
    afterCancel t = .idle ∨ t = .pm ∧ afterCancel t = .lock := by
  cases t with
  | pm => exact Or.inr ⟨rfl, rfl⟩
  | _ => exact Or.inl rfl

/-- Under the mutex the work looks at the state, the others disable the interrupt. -/
theorem afterLock_eq (t : Thread) :
    t = .work ∧ afterLock t = .loadOpenCount ∨ afterLock t = .disableIrq := by
  cases t with
  | work => exact Or.inl ⟨rfl, rfl⟩
  | _ => exact Or.inr rfl

/-- Whether a thread enters `elan_recover_locked` is decided by its code. -/
theorem afterSynchronize_eq (t : Thread) :
    (afterSynchronize t = .releaseInputs ∧ Pc.codeOf t .releaseInputs = true)
      ∨ afterSynchronize t = .exclusive
        ∧ (Pc.codeOf t .synchronizeIrq = true → Pc.codeOf t .exclusive = true) := by
  rcases t with _ | ⟨_ | _ | _, _⟩ | _ | _
  · exact Or.inl ⟨rfl, rfl⟩
  · exact Or.inl ⟨rfl, rfl⟩
  · exact Or.inr ⟨rfl, fun _ => rfl⟩
  · exact Or.inr ⟨rfl, fun _ => rfl⟩
  · exact Or.inr ⟨rfl, fun h => absurd h (by simp [Pc.codeOf])⟩
  · exact Or.inr ⟨rfl, fun _ => rfl⟩

/-- Every thread with a critical section ends it by enabling the interrupt. -/
theorem codeOf_enableIrq {t : Thread} (h : Pc.codeOf t .exclusive = true
    ∨ Pc.codeOf t .releaseInputs = true) : Pc.codeOf t .enableIrq = true := by
  cases t with
  | node n => exact absurd h (by simp [Pc.codeOf])
  | _ => rfl

/-- **Every step is one of the handler or a jump of one thread.** -/
theorem step_control {s s' : State} {a : Act} (h : step s a = some s') :
    HandlerStep s s' ∨ ∃ t src dst, Jump s s' t src dst := by
  obtain ⟨he, rfl⟩ := step_eq_some.mp h
  cases a with
  | interrupt => exact Or.inl ⟨rfl, rfl, rfl, rfl, fun _ => he.2⟩
  | read | loadErrors | storeErrors | evaluateErrors | queueWatchdog | clearErrors | countReport
  | emitReport =>
    refine Or.inl ⟨rfl, rfl, rfl, rfl, fun hidle => ?_⟩
    simp only [Enabled] at he
    rw [he] at hidle
    exact absurd hidle (by simp)
  | scheduleWork =>
    refine Or.inl ⟨rfl, rfl, rfl, rfl, fun hidle => ?_⟩
    rw [he.1] at hidle
    exact absurd hidle (by simp)
  | startWork =>
    exact Or.inr ⟨.work, .idle, .lock, he.2, rfl, rfl, fun _ => rfl, fun h => absurd h (by decide),
      fun h => absurd h (by decide), rfl, rfl, rfl⟩
  | write kind task =>
    exact Or.inr ⟨.store kind task, .idle, .lock, he, rfl, rfl, fun _ => rfl,
      fun h => absurd h (by decide), fun h => absurd h (by decide), rfl, rfl, rfl⟩
  | openNode n =>
    exact Or.inr ⟨.node n, .idle, .opened, he, rfl, rfl, fun _ => rfl,
      fun h => absurd h (by decide), fun h => absurd h (by decide), rfl, rfl, rfl⟩
  | closeNode n =>
    by_cases hlast : s.openCount = 1
    · refine Or.inr ⟨.node n, .opened, .cancelPending, he, ?_, rfl, fun _ => rfl,
        fun h => absurd h (by decide), fun h => absurd h (by decide), rfl, rfl, rfl⟩
      simp only [next, hlast, if_true]
      rfl
    · refine Or.inr ⟨.node n, .opened, .idle, he, ?_, rfl, fun _ => rfl,
        fun h => absurd h (by decide), fun h => absurd h (by decide), rfl, rfl, rfl⟩
      simp only [next, hlast, if_false]
      rfl
  | cancelPending t =>
    exact Or.inr ⟨t, .cancelPending, .cancelWait, he, rfl, rfl, id, fun h => absurd h (by decide),
      fun h => absurd h (by decide), rfl, rfl, rfl⟩
  | cancelWait t =>
    rcases afterCancel_eq t with h | ⟨rfl, h⟩
    · exact Or.inr ⟨t, .cancelWait, .idle, he.1, by rw [← h]; rfl, rfl, fun _ => rfl,
        fun h => absurd h (by decide), fun h => absurd h (by decide), rfl, rfl, rfl⟩
    · exact Or.inr ⟨.pm, .cancelWait, .lock, he.1, rfl, rfl, fun _ => rfl,
        fun h => absurd h (by decide), fun h => absurd h (by decide), rfl, rfl, rfl⟩
  | interrupted t =>
    exact Or.inr ⟨t, .lock, .idle, he.1, rfl, rfl, fun _ => rfl, fun h => absurd h (by decide),
      fun h => absurd h (by decide), rfl, rfl, rfl⟩
  | lock t =>
    rcases afterLock_eq t with ⟨rfl, h⟩ | h
    · exact Or.inr ⟨.work, .lock, .loadOpenCount, he.1, rfl, rfl, fun _ => rfl,
        fun _ => Or.inr he.2, fun h => absurd h (by decide), rfl, rfl, rfl⟩
    · exact Or.inr ⟨t, .lock, .disableIrq, he.1, by rw [← h]; rfl, rfl, id,
        fun _ => Or.inr he.2, fun h => absurd h (by decide), rfl, rfl, rfl⟩
  | loadOpenCount =>
    exact Or.inr ⟨.work, .loadOpenCount, .evaluate _, he, rfl, rfl, fun _ => rfl,
      fun _ => Or.inl rfl, fun h => absurd h Bool.false_ne_true, rfl, rfl, rfl⟩
  | evaluateWork n =>
    by_cases hrec : Recover n.toNat s.reportErrors
    · refine Or.inr ⟨.work, .evaluate n, .disableIrq, he, ?_, rfl, fun _ => rfl,
        fun _ => Or.inl rfl, fun h => absurd h (by decide), rfl, rfl, rfl⟩
      simp only [next, hrec, if_true]
      rfl
    · refine Or.inr ⟨.work, .evaluate n, .unlock false, he, ?_, rfl, fun _ => rfl,
        fun _ => Or.inl rfl, fun h => absurd h (by decide), rfl, rfl, rfl⟩
      simp only [next, hrec, if_false]
      rfl
  | disableIrq t =>
    exact Or.inr ⟨t, .disableIrq, .synchronizeIrq, he, rfl, rfl, id, fun _ => Or.inl rfl,
      fun h => absurd h (by decide), rfl, rfl, rfl⟩
  | synchronizeIrq t =>
    rcases afterSynchronize_eq t with ⟨h, hcode⟩ | ⟨h, hcode⟩
    · exact Or.inr ⟨t, .synchronizeIrq, .releaseInputs, he.1, by rw [← h]; rfl, rfl,
        fun _ => hcode, fun _ => Or.inl rfl, fun _ => Or.inr he.2, rfl, rfl, rfl⟩
    · exact Or.inr ⟨t, .synchronizeIrq, .exclusive, he.1, by rw [← h]; rfl, rfl, hcode,
        fun _ => Or.inl rfl, fun _ => Or.inr he.2, rfl, rfl, rfl⟩
  | releaseInputs t =>
    exact Or.inr ⟨t, .releaseInputs, .resetErrors, he, rfl, rfl, id, fun _ => Or.inl rfl,
      fun _ => Or.inl rfl, rfl, rfl, rfl⟩
  | resetErrors t =>
    exact Or.inr ⟨t, .resetErrors, .recovering _, he, rfl, rfl, id, fun _ => Or.inl rfl,
      fun _ => Or.inl rfl, rfl, rfl, rfl⟩
  | stage t phase status =>
    rcases afterStage_eq phase status with h | h
    · exact Or.inr ⟨t, .recovering phase, .enableIrq, he, by rw [← h]; rfl, rfl,
        fun hc => codeOf_enableIrq (Or.inr hc), fun _ => Or.inl rfl, fun _ => Or.inl rfl, rfl, rfl,
        rfl⟩
    · exact Or.inr ⟨t, .recovering phase, .recovering (elanRsRecoveryNext phase status), he,
        by rw [← h]; rfl, rfl, fun hc => hc, fun _ => Or.inl rfl, fun _ => Or.inl rfl, rfl, rfl,
        rfl⟩
  | exclusive t status =>
    rcases afterExclusive_eq t status with h | ⟨rfl, h⟩
    · exact Or.inr ⟨t, .exclusive, .enableIrq, he, by rw [← h]; rfl, rfl,
        fun hc => codeOf_enableIrq (Or.inl hc), fun _ => Or.inl rfl, fun _ => Or.inl rfl, rfl, rfl,
        rfl⟩
    · exact Or.inr ⟨.pm, .exclusive, .unlock true, he, by rw [← h]; rfl, rfl, fun _ => rfl,
        fun _ => Or.inl rfl, fun _ => Or.inl rfl, rfl, rfl, rfl⟩
  | enableIrq t =>
    exact Or.inr ⟨t, .enableIrq, .unlock false, he, rfl, rfl, id, fun _ => Or.inl rfl,
      fun h => absurd h (by decide), rfl, rfl, rfl⟩
  | unlock t asleep =>
    cases asleep with
    | false =>
      exact Or.inr ⟨t, .unlock false, .idle, he, rfl, rfl, fun _ => rfl,
        fun h => absurd h (by decide), fun h => absurd h (by decide), rfl, rfl, rfl⟩
    | true =>
      exact Or.inr ⟨t, .unlock true, .asleep, he, rfl, rfl, id, fun h => absurd h (by decide),
        fun _ => Or.inl rfl, rfl, rfl, rfl⟩
  | suspend =>
    exact Or.inr ⟨.pm, .idle, .cancelPending, he, rfl, rfl, fun _ => rfl,
      fun h => absurd h (by decide), fun h => absurd h (by decide), rfl, rfl, rfl⟩
  | resume =>
    exact Or.inr ⟨.pm, .asleep, .resuming, he, rfl, rfl, id, fun h => absurd h (by decide),
      fun _ => Or.inl rfl, rfl, rfl, rfl⟩
  | resumeStages =>
    exact Or.inr ⟨.pm, .resuming, .resumeEnableIrq, he, rfl, rfl, id,
      fun h => absurd h (by decide), fun _ => Or.inl rfl, rfl, rfl, rfl⟩
  | resumeEnableIrq =>
    exact Or.inr ⟨.pm, .resumeEnableIrq, .idle, he, rfl, rfl, fun _ => rfl,
      fun h => absurd h (by decide), fun h => absurd h (by decide), rfl, rfl, rfl⟩

/-! ## The locks in every reachable state -/

/-- The depth raised by the holder of the mutex. -/
def heldDepth (s : State) : ℕ :=
  match s.sysfsMutex with
  | some t => (s.pc t).off.toNat
  | none => 0

def openNodes (s : State) : ℕ :=
  (if s.pc (.node .touchpad) = .opened then 1 else 0)
    + if s.pc (.node .trackpoint) = .opened then 1 else 0

/-- The locks agree with where the threads are. -/
structure Locking (s : State) : Prop where
  code : ∀ t, (s.pc t).codeOf t = true
  mutex : ∀ t, (s.pc t).holds = true ↔ s.sysfsMutex = some t
  depth : s.irqDepth = heldDepth s + (s.pc .pm).sleeping.toNat
  quiet : ∀ t, (s.pc t).quiet = true → s.isr = .idle
  count : s.openCount = openNodes s

/-- Nothing is held when the device has been probed. -/
theorem locking_init (watchdogEnabled : Bool) : Locking (init watchdogEnabled) where
  code t := rfl
  mutex t := ⟨fun h => absurd h Bool.false_ne_true, fun h => absurd h (by simp [init])⟩
  depth := rfl
  quiet t h := rfl
  count := rfl

/-- While a thread is past its `disable_irq` the depth is raised. -/
theorem Locking.depth_pos {s : State} (hl : Locking s) {t : Thread}
    (h : (s.pc t).raised = true) : 0 < s.irqDepth := by
  rw [hl.depth]
  rcases Bool.or_eq_true_iff.mp h with hoff | hsleep
  · have hmutex := (hl.mutex t).mp (holds_of_off hoff)
    have hheld : heldDepth s = 1 := by rw [heldDepth, hmutex]; simp [hoff]
    omega
  · have ht := eq_pm_of_sleeping (hl.code t) hsleep
    subst ht
    rw [hsleep, Bool.toNat_true]
    omega

/-- An open node is counted. -/
theorem Locking.openCount_pos {s : State} (hl : Locking s) {n : Node}
    (h : s.pc (.node n) = .opened) : 0 < s.openCount := by
  rw [hl.count, openNodes]
  cases n <;> simp only [h, if_true] <;> omega

/-- At most two nodes are open. -/
theorem Locking.openCount_lt {s : State} (hl : Locking s) : s.openCount < 2 ^ 32 := by
  rw [hl.count, openNodes]
  split_ifs <;> omega

section Preserved

variable {s s' : State}

/-- The handler takes no part in the locking. -/
theorem HandlerStep.locking (hl : Locking s) (h : HandlerStep s s') : Locking s' where
  code t := by rw [h.pc]; exact hl.code t
  mutex t := by rw [h.pc, h.mutex]; exact hl.mutex t
  depth := by
    have hheld : heldDepth s' = heldDepth s := by unfold heldDepth; rw [h.mutex, h.pc]
    rw [h.depth, hl.depth, hheld, h.pc]
  quiet t hq := by
    -- a quiet thread keeps the handler from starting, so there was no handler step
    rw [h.pc] at hq
    have hdepth := h.start (hl.quiet t hq)
    have hpos := hl.depth_pos (raised_of_quiet hq)
    omega
  count := by rw [h.count, hl.count]; unfold openNodes; rw [h.pc]

variable {t : Thread} {src dst : Pc}

/-- The thread that jumps goes to the destination. -/
theorem Jump.pc_self (h : Jump s s' t src dst) : s'.pc t = dst := by
  rw [h.goto, Function.update_self]

/-- The other threads stay where they are. -/
theorem Jump.pc_of_ne (h : Jump s s' t src dst) {u : Thread} (hu : u ≠ t) : s'.pc u = s.pc u := by
  rw [h.goto, Function.update_of_ne hu]

/-- The mutex stays with its holder. -/
theorem Jump.mutex_iff (hl : Locking s) (h : Jump s s' t src dst) (u : Thread) :
    (s'.pc u).holds = true ↔ s'.sysfsMutex = some u := by
  have hsrc := hl.mutex t
  rw [h.source] at hsrc
  rw [h.mutex]
  by_cases hu : u = t
  · subst hu
    rw [h.pc_self]
    by_cases heq : dst.holds = src.holds
    · rw [if_pos heq, heq]
      exact hsrc
    · rw [if_neg heq]
      cases hd : dst.holds <;> simp
  · rw [h.pc_of_ne hu, hl.mutex u]
    by_cases heq : dst.holds = src.holds
    · rw [if_pos heq]
    · rw [if_neg heq]
      cases hd : dst.holds with
      | true =>
        -- `t` takes a free mutex, so no other thread can have had it
        have hfree : s.sysfsMutex = none := by
          refine (h.free hd).resolve_left fun hs => heq (by rw [hd, hs])
        simp [hfree, Ne.symm hu]
      | false =>
        have hheld : s.sysfsMutex = some t := by
          refine hsrc.mp ?_
          cases hs : src.holds with
          | true => rfl
          | false => exact absurd (by rw [hd, hs]) heq
        simp [hheld, Ne.symm hu]

/-- The part of the depth that the holder of the mutex has raised. -/
theorem Jump.heldDepth_eq (hl : Locking s) (h : Jump s s' t src dst) :
    heldDepth s' + src.off.toNat = heldDepth s + dst.off.toNat := by
  have hsrc := hl.mutex t
  have hdst := h.mutex_iff hl t
  rw [h.source] at hsrc
  rw [h.pc_self] at hdst
  have hself (hs : src.holds = true) : heldDepth s = src.off.toNat := by
    unfold heldDepth
    rw [hsrc.mp hs]
    simp only [h.source]
  have hself' (hd : dst.holds = true) : heldDepth s' = dst.off.toNat := by
    unfold heldDepth
    rw [hdst.mp hd]
    simp only [h.pc_self]
  cases hs : src.holds with
  | true =>
    cases hd : dst.holds with
    | true => rw [hself hs, hself' hd, Nat.add_comm]
    | false =>
      have hnone : s'.sysfsMutex = none := by rw [h.mutex, hs, hd]; rfl
      have hheld : heldDepth s' = 0 := by unfold heldDepth; rw [hnone]
      rw [hself hs, hheld, off_of_not_holds hd]
      simp
  | false =>
    cases hd : dst.holds with
    | true =>
      have hfree := (h.free hd).resolve_left (by simp [hs])
      have hheld : heldDepth s = 0 := by unfold heldDepth; rw [hfree]
      rw [hself' hd, hheld, off_of_not_holds hs]
      simp
    | false =>
      have hsame : s'.sysfsMutex = s.sysfsMutex := by rw [h.mutex, hs, hd]; rfl
      have hheld : heldDepth s' = heldDepth s := by
        unfold heldDepth
        rw [hsame]
        cases hm : s.sysfsMutex with
        | none => rfl
        | some u =>
          have hu : u ≠ t := by
            rintro rfl
            exact absurd (hsrc.mpr hm) (by simp [hs])
          simp only [h.pc_of_ne hu]
      rw [hheld, off_of_not_holds hs, off_of_not_holds hd]

/-- The part of the depth that a sleeping device has raised. -/
theorem Jump.sleepDepth_eq (hl : Locking s) (h : Jump s s' t src dst) :
    (s'.pc .pm).sleeping.toNat + src.sleeping.toNat
      = (s.pc .pm).sleeping.toNat + dst.sleeping.toNat := by
  by_cases ht : t = .pm
  · subst ht
    rw [h.pc_self, h.source, Nat.add_comm]
  · have hcode := hl.code t
    rw [h.source] at hcode
    have hsrc : src.sleeping = false := by
      cases hs : src.sleeping with
      | false => rfl
      | true => exact absurd (eq_pm_of_sleeping hcode hs) ht
    have hdst : dst.sleeping = false := by
      cases hd : dst.sleeping with
      | false => rfl
      | true => exact absurd (eq_pm_of_sleeping (h.code hcode) hd) ht
    rw [h.pc_of_ne (Ne.symm ht), hsrc, hdst]

/-- The nodes that are open, before and after a thread's step. -/
theorem Jump.openNodes_eq (h : Jump s s' t src dst) (hl : Locking s) :
    openNodes s' + (if src = .opened then 1 else 0)
      = openNodes s + if dst = .opened then 1 else 0 := by
  have hother {n : Node} (hn : t ≠ .node n) : s'.pc (.node n) = s.pc (.node n) :=
    h.pc_of_ne (Ne.symm hn)
  have hcode := hl.code t
  rw [h.source] at hcode
  unfold openNodes
  by_cases ht : ∃ n, t = .node n
  · obtain ⟨n, rfl⟩ := ht
    cases n with
    | touchpad =>
      rw [h.pc_self, h.source, hother (by simp)]
      omega
    | trackpoint =>
      rw [h.pc_self, h.source, hother (by simp)]
      omega
  · have hsrc : src ≠ .opened := by
      rintro rfl
      exact ht (node_of_opened hcode)
    have hdst : dst ≠ .opened := by
      rintro rfl
      exact ht (node_of_opened (h.code hcode))
    rw [hother fun he => ht ⟨_, he⟩, hother fun he => ht ⟨_, he⟩, if_neg hsrc, if_neg hdst]

/-- A thread's step keeps it: it takes and releases the mutex, the depth and its node only where its
instruction says so. -/
theorem Jump.locking (hl : Locking s) (h : Jump s s' t src dst) : Locking s' where
  code u := by
    by_cases hu : u = t
    · subst hu
      rw [h.pc_self]
      exact h.code (by rw [← h.source]; exact hl.code u)
    · rw [h.pc_of_ne hu]
      exact hl.code u
  mutex := h.mutex_iff hl
  depth := by
    have hheld := h.heldDepth_eq hl
    have hsleep := h.sleepDepth_eq hl
    have hdepth := hl.depth
    rw [h.depth, raised_toNat, raised_toNat]
    omega
  quiet u hq := by
    rw [h.isr]
    by_cases hu : u = t
    · subst hu
      rw [h.pc_self] at hq
      rcases h.quiet hq with hsrc | hidle
      · exact hl.quiet u (by rw [h.source]; exact hsrc)
      · exact hidle
    · rw [h.pc_of_ne hu] at hq
      exact hl.quiet u hq
  count := by
    have hopen := h.openNodes_eq hl
    rw [h.count, hl.count]
    omega

end Preserved

/-- Each step keeps it. -/
theorem locking_step {s s' : State} {a : Act} (hl : Locking s) (h : step s a = some s') :
    Locking s' := by
  rcases step_control h with hh | ⟨t, src, dst, hj⟩
  · exact hh.locking hl
  · exact hj.locking hl

/-- **The locks agree with the threads in every reachable state.** -/
theorem locking_of_reachable {watchdogEnabled : Bool} {s : State}
    (h : Reachable watchdogEnabled s) : Locking s :=
  h.invariant (locking_init watchdogEnabled) fun _ _ _ => locking_step

end Interleaving
