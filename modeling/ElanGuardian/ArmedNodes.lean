/-
# The watchdog is armed only while a node is open

A work item that has decided to recover was decided with a node open.  The last close
may fall between the decision and the recovery, but then the close itself waits for
the item: until it returns, some node is still in its `cancel_work_sync`.  Hence once
no node is open and every close has returned, no item is in `elan_recover_locked`,
and none gets there before the next open, even if one is still queued.
-/
import ElanGuardian.Locking

open ElanCore Interrupt

namespace Interleaving

/-- The work item has decided to recover and has not finished. -/
def Pc.committed : Pc → Bool
  | .disableIrq | .synchronizeIrq | .releaseInputs | .resetErrors | .recovering _ => true
  | _ => false

/-- The work item has seen an open node, and has not decided or has decided to recover. -/
def Pc.armed : Pc → Bool
  | .evaluate openCount => openCount ≠ 0
  | pc => pc.committed

/-- In the `cancel_work_sync` of a close (or of a suspend). -/
def Pc.closing : Pc → Bool
  | .cancelPending | .cancelWait => true
  | _ => false

/-- An armed item has an open node, or a closing one that will wait for it. -/
def Armed (s : State) : Prop :=
  (s.pc .work).armed = true → 0 < s.openCount ∨ ∃ n, (s.pc (.node n)).closing = true

/-- An item inside `elan_recover_locked` has decided to recover. -/
theorem committed_of_inRecover {pc : Pc} (h : pc.inRecover = true) : pc.committed = true := by
  cases pc with
  | releaseInputs | resetErrors | recovering => rfl
  | _ => exact absurd h (by simp [Pc.inRecover])

/-- And it has seen an open node before that. -/
theorem armed_of_inRecover {pc : Pc} (h : pc.inRecover = true) : pc.armed = true := by
  cases pc with
  | releaseInputs | resetErrors | recovering => rfl
  | _ => exact absurd h (by simp [Pc.inRecover])

section Preserved

variable {s s' : State} {t : Thread} {src dst : Pc}

/-- A jump that arms no item and ends no close. -/
theorem armed_goto (ha : Armed s) (hsrc : s.pc t = src)
    (hpc : s'.pc = Function.update s.pc t dst) (hopen : s'.openCount = s.openCount)
    (hcommit : t = .work → dst.armed = true → src.armed = true)
    (hclose : ∀ n, t = .node n → src.closing = true → dst.closing = true) : Armed s' := by
  intro hc
  rcases ha (before_jump hsrc hpc hcommit hc) with hpos | ⟨n, hn⟩
  · left
    rwa [hopen]
  · right
    exact ⟨n, after_jump hsrc hpc (hclose n) hn⟩

/-- The last close goes on to cancel; any other close leaves a node open. -/
theorem armed_closeNode (hl : Locking s) {n : Node}
    (he : s.pc (.node n) = .opened) : Armed (next s (.closeNode n)) := by
  intro hc
  have hpos := hl.openCount_pos he
  by_cases hlast : s.openCount = 1
  · right
    refine ⟨n, ?_⟩
    simp only [next, hlast, if_true, goto_pc_self]
    rfl
  · left
    simp only [next]
    omega

/-- Every step keeps the nodes armed. -/
theorem armed_step {a : Act} (hl : Locking s) (ha : Armed s) (h : step s a = some s') :
    Armed s' := by
  obtain ⟨he, rfl⟩ := step_eq_some.mp h
  cases a with
  | interrupt | read | loadErrors | storeErrors | evaluateErrors | queueWatchdog | scheduleWork
  | clearErrors | countReport | emitReport => exact ha
  | startWork => exact armed_goto ha he.2 rfl rfl (fun _ h => h) fun _ _ h => h
  | write => exact armed_goto ha he rfl rfl (fun _ h => h) fun _ _ h => h
  | openNode n =>
    intro _
    left
    exact Nat.succ_pos _
  | closeNode n => exact armed_closeNode hl he
  | cancelPending => exact armed_goto ha he rfl rfl (fun _ h => h) fun _ _ h => h
  | cancelWait t =>
    -- the close returns only when the work item is idle
    obtain ⟨hwait, hidle⟩ := he
    intro hc
    have hne : Thread.work ≠ t := by
      rintro rfl
      rw [hidle] at hwait
      exact absurd hwait (by simp)
    have hidle' : (next s (.cancelWait t)).pc .work = .idle := by
      simp only [next]
      rw [goto_pc_of_ne hne, hidle]
    rw [hidle'] at hc
    exact absurd hc (by decide)
  | interrupted => exact armed_goto ha he.1 rfl rfl (fun _ h => h) fun _ _ h => h
  | lock t =>
    refine armed_goto ha he.1 rfl rfl ?_ fun _ _ h => absurd h (by decide)
    rintro rfl h
    exact absurd h (by decide)
  | loadOpenCount =>
    intro hc
    left
    have hseen : (next s .loadOpenCount).pc .work = .evaluate (UInt32.ofNat s.openCount) :=
      goto_pc_self
    rw [hseen] at hc
    refine Nat.pos_of_ne_zero fun hzero => of_decide_eq_true hc ?_
    have hnone : s.openCount = 0 := hzero
    rw [hnone]
    rfl
  | evaluateWork n =>
    refine armed_goto ha he rfl rfl (fun _ h => ?_) fun _ _ h => absurd h Bool.false_ne_true
    by_cases hrec : Recover n.toNat s.reportErrors
    · refine decide_eq_true fun hzero => ?_
      have hpos := hrec.bounds.1
      rw [hzero] at hpos
      exact absurd hpos (by decide)
    · rw [if_neg hrec] at h
      exact absurd h (by decide)
  | disableIrq => exact armed_goto ha he rfl rfl (fun _ _ => rfl) fun _ _ h => absurd h (by decide)
  | synchronizeIrq =>
    exact armed_goto ha he.1 rfl rfl (fun _ _ => rfl) fun _ _ h => absurd h (by decide)
  | releaseInputs =>
    exact armed_goto ha he rfl rfl (fun _ _ => rfl) fun _ _ h => absurd h (by decide)
  | resetErrors =>
    exact armed_goto ha he rfl rfl (fun _ _ => rfl) fun _ _ h => absurd h (by decide)
  | stage =>
    exact armed_goto ha he rfl rfl (fun _ _ => rfl) fun _ _ h => absurd h (by simp [Pc.closing])
  | exclusive t status =>
    refine armed_goto ha he rfl rfl ?_ fun _ _ h => absurd h (by decide)
    rintro rfl h
    exact absurd h (by simp [afterExclusive, Pc.armed, Pc.committed])
  | enableIrq =>
    exact armed_goto ha he rfl rfl (fun _ h => absurd h (by decide)) fun _ _ h =>
      absurd h (by decide)
  | unlock t asleep =>
    refine armed_goto ha he rfl rfl (fun _ h => ?_) fun _ _ h => absurd h (by simp [Pc.closing])
    cases asleep <;> exact absurd h (by decide)
  | suspend =>
    exact armed_goto ha he rfl rfl (fun h => absurd h (by simp)) fun _ h => absurd h (by simp)
  | resume =>
    exact armed_goto ha he rfl rfl (fun h => absurd h (by simp)) fun _ h => absurd h (by simp)
  | resumeStages =>
    exact armed_goto ha he rfl rfl (fun h => absurd h (by simp)) fun _ h => absurd h (by simp)
  | resumeEnableIrq =>
    exact armed_goto ha he rfl rfl (fun h => absurd h (by simp)) fun _ h => absurd h (by simp)

end Preserved

/-- Hence they are armed in every reachable state. -/
theorem armed_of_reachable {watchdogEnabled : Bool} {s : State}
    (h : Reachable watchdogEnabled s) : Armed s := by
  refine h.invariant_of (fun _ => locking_of_reachable) ?_ fun _ _ _ hl ha => armed_step hl ha
  intro hc
  exact absurd hc Bool.false_ne_true

/-! ## Closed nodes -/

/-- No node is open and every close has returned. -/
def AllClosed (s : State) : Prop := s.openCount = 0 ∧ ∀ n, (s.pc (.node n)).closing = false

section Closed

variable {s s' : State} {t : Thread} {src dst : Pc}

/-- With all nodes closed, each of them stands idle. -/
theorem AllClosed.node_idle (hl : Locking s) (hc : AllClosed s) (n : Node) :
    s.pc (.node n) = .idle := by
  have hcode := hl.code (.node n)
  have hclosing := hc.2 n
  have hopened : s.pc (.node n) ≠ .opened := by
    intro ho
    have hpos := hl.openCount_pos ho
    have hzero := hc.1
    omega
  cases hpc : s.pc (.node n) with
  | idle => rfl
  | opened => exact absurd hpc hopened
  | cancelPending | cancelWait =>
    rw [hpc] at hclosing
    exact absurd hclosing (by decide)
  | unlock asleep =>
    rw [hpc] at hcode
    cases asleep <;> exact absurd hcode (by simp [Pc.codeOf])
  | _ =>
    rw [hpc] at hcode
    exact absurd hcode (by simp [Pc.codeOf])

/-- A jump of a thread that is not a node opens and closes nothing. -/
theorem allClosed_goto (hc : AllClosed s) (ht : ∀ n, t ≠ .node n)
    (hpc : s'.pc = Function.update s.pc t dst) (hopen : s'.openCount = s.openCount) :
    AllClosed s' := by
  refine ⟨by rw [hopen, hc.1], fun n => ?_⟩
  rw [hpc, Function.update_of_ne (Ne.symm (ht n))]
  exact hc.2 n

/-- Nodes stay closed until one is opened. -/
theorem allClosed_step {a : Act} (hl : Locking s) (hc : AllClosed s)
    (hopen : ∀ n, a ≠ .openNode n) (h : step s a = some s') : AllClosed s' := by
  obtain ⟨he, rfl⟩ := step_eq_some.mp h
  -- a thread that stands anywhere but at `idle` is not a node
  have hnode {t : Thread} {src : Pc} (ht : s.pc t = src) (hsrc : src ≠ .idle) (n : Node) :
      t ≠ .node n := by
    rintro rfl
    exact hsrc (by rw [← ht, hc.node_idle hl n])
  cases a with
  | interrupt | read | loadErrors | storeErrors | evaluateErrors | queueWatchdog | scheduleWork
  | clearErrors | countReport | emitReport => exact hc
  | startWork | write | suspend => exact allClosed_goto hc (by simp) rfl rfl
  | openNode n => exact absurd rfl (hopen n)
  | closeNode n => exact absurd rfl (hnode he (by simp) n)
  | cancelWait | interrupted | lock | synchronizeIrq =>
    exact allClosed_goto hc (hnode he.1 (by simp)) rfl rfl
  | cancelPending | loadOpenCount | evaluateWork | disableIrq | releaseInputs | resetErrors
  | stage | exclusive | enableIrq | unlock | resume | resumeStages | resumeEnableIrq =>
    exact allClosed_goto hc (hnode he (by simp)) rfl rfl

end Closed

/-- **Armed only while a node is open.**  Once no node is open and every close has
returned, the work item is not inside `elan_recover_locked`, and whatever is still
queued, no run without another open brings it there. -/
theorem no_recovery_while_closed (watchdogEnabled : Bool) (s s' : State) (as : List Act)
    (hs : Reachable watchdogEnabled s) (hclosed : AllClosed s)
    (hopen : ∀ n, Act.openNode n ∉ as) (hrun : Runs.runFrom step s as = some s') :
    (s'.pc .work).inRecover = false := by
  have hne : ∀ a ∈ as, ∀ n, a ≠ Act.openNode n := by
    rintro a ha n rfl
    exact hopen n ha
  have hclosed' : Locking s' ∧ AllClosed s' := by
    refine Runs.runFrom_invariant_of_stepsMeet (I := fun u => Locking u ∧ AllClosed u) ?_
      ⟨locking_of_reachable hs, hclosed⟩ (Runs.StepsMeet.of_forall hne s) hrun
    rintro u a u' ⟨hl, hc⟩ ha hstep
    exact ⟨locking_step hl hstep, allClosed_step hl hc ha hstep⟩
  by_contra hrec
  rw [Bool.not_eq_false] at hrec
  rcases armed_of_reachable (hs.trans hrun) (armed_of_inRecover hrec) with hpos | ⟨n, hn⟩
  · have hzero := hclosed'.2.1
    omega
  · rw [hclosed'.2.2 n] at hn
    exact absurd hn (by decide)

/-- The handler sees the node open, and is preempted; meanwhile the node is closed. -/
def closedUnderHandler : List Act :=
  threeFailures ++ [.queueWatchdog, .closeNode .touchpad, .cancelPending (.node .touchpad),
    .cancelWait (.node .touchpad)]

/-- The handler schedules an item after the close, and the item runs. -/
def lateRequest : List Act :=
  [.scheduleWork true, .startWork, .lock .work, .loadOpenCount, .evaluateWork 0]

/-- The handler's request comes after the close, and its item gives up. -/
theorem late_request_does_nothing :
    ∃ s s', Runs.runFrom step (init true) closedUnderHandler = some s
      ∧ Runs.runFrom step s lateRequest = some s' ∧ (s'.pc .work).inRecover = false := by
  refine ⟨_, _, rfl, rfl,
    no_recovery_while_closed true _ _ lateRequest ⟨closedUnderHandler, rfl⟩ ⟨rfl, ?_⟩ ?_ rfl⟩
  · intro n
    cases n <;> rfl
  · intro n
    cases n <;> decide

end Interleaving
