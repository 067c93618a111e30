/-
# A healthy controller and the watchdog

The work item decides on the streak, and only then disables the interrupt.  A handler
that runs in between may read a report successfully and clear the streak, and the
item recovers a controller that has just answered (`healthy_controller_is_recovered`).
Where no handler stores a value below three in that window, every automatic recovery
is entered on at least three failed reads in a row, with the streak still standing.
-/
import ElanGuardian.RecoveryBudget

open ElanCore Interrupt

namespace Interleaving

/-! ## The most recent reads -/

/-- One more action after `k` failed reads in a row. -/
def extendFailures (k : ℕ) : Act → ℕ
  | .read true => k + 1
  | .read false => 0
  | _ => k

/-- How many of the most recent report reads failed in a row. -/
def recentFailures (past : List Act) : ℕ := past.foldl extendFailures 0

/-- The failures after one more action. -/
theorem recentFailures_snoc (past : List Act) (a : Act) :
    recentFailures (past ++ [a]) = extendFailures (recentFailures past) a := by
  unfold recentFailures
  rw [List.foldl_append, List.foldl_cons, List.foldl_nil]

/-- In the window between the decision of the work item and the end of its
`disable_irq`, no handler stores a streak below three: none clears it after a success,
and none wraps. -/
def keepsEvidence (s : State) : Act → Bool
  | .clearErrors => !(s.pc .work).approved
  | .storeErrors v => !(s.pc .work).approved || 3 ≤ v.toNat
  | _ => true

/-! ## The streak and the reads -/

/-- Except for a success not yet recorded, the streak is no longer than the run of
failed reads; and it stands at three while the work item waits for the handler. -/
structure Honest (s : State) (past : List Act) : Prop where
  streak : s.isr ≠ .clearErrors → s.reportErrors.toNat ≤ recentFailures past
  inFlight : streakInFlight s ≤ recentFailures past
  approved : (s.pc .work).approved = true → 3 ≤ s.reportErrors.toNat

section Honest

variable {s s' : State} {past : List Act} {a : Act}

/-- Every step that keeps the evidence keeps the streak honest. -/
theorem honest_step (hl : Locking s) (hh : Honest s past) (hok : keepsEvidence s a = true)
    (h : step s a = some s') : Honest s' (past ++ [a]) := by
  have hstep := h
  obtain ⟨he, rfl⟩ := step_eq_some.mp h
  have hstreak := hh.streak
  have hflight := hh.inFlight
  have happ := hh.approved
  -- an action other than a read leaves the count of failed reads alone
  have hcount {b : Act} (hb : extendFailures (recentFailures past) b = recentFailures past) :
      recentFailures (past ++ [b]) = recentFailures past := by
    rw [recentFailures_snoc, hb]
  cases a with
  | read failed =>
    have hread : s.isr = .readReport := he
    have hle := hstreak (by rw [hread]; simp)
    cases failed with
    | false =>
      -- a success: the streak in memory is stale until the handler clears it
      exact ⟨fun hne => absurd rfl hne, Nat.zero_le _, happ⟩
    | true =>
      have hsucc : recentFailures (past ++ [.read true]) = recentFailures past + 1 :=
        recentFailures_snoc past _
      refine ⟨fun _ => ?_, ?_, happ⟩
      · rw [hsucc]
        exact Nat.le_succ_of_le hle
      · rw [hsucc]
        exact Nat.succ_le_succ hle
  | loadErrors =>
    have hload : s.isr = .loadErrors := he
    simp only [streakInFlight, hload] at hflight
    have hwrap : (s.reportErrors + 1).toNat ≤ s.reportErrors.toNat + 1 := by
      rw [UInt32.toNat_add]
      exact Nat.mod_le _ _
    refine ⟨fun _ => ?_, ?_, happ⟩
    · rw [hcount rfl]
      exact hstreak (by rw [hload]; simp)
    · rw [hcount rfl]
      exact hwrap.trans hflight
  | storeErrors v =>
    have hstore : s.isr = .storeErrors v := he
    simp only [streakInFlight, hstore] at hflight
    refine ⟨fun _ => ?_, Nat.zero_le _, fun hw => ?_⟩
    · rw [hcount rfl]
      exact hflight
    · have hwindow : (s.pc .work).approved = true := hw
      simp only [keepsEvidence, hwindow, Bool.not_true, Bool.false_or, decide_eq_true_eq] at hok
      exact hok
  | clearErrors =>
    refine ⟨fun _ => Nat.zero_le _, Nat.zero_le _, fun hw => ?_⟩
    have hwindow : (s.pc .work).approved = true := hw
    simp [keepsEvidence, hwindow] at hok
  | resetErrors t =>
    have hzero := evidence_of_reset hl hstep
    refine ⟨fun _ => Nat.zero_le _, hzero.inFlight.trans (Nat.zero_le _), fun hw => ?_⟩
    exact absurd (hzero.approved hw) (by omega)
  | evaluateWork n =>
    rw [← hcount (b := .evaluateWork n) rfl] at hstreak hflight
    refine ⟨hstreak, hflight, fun hw => ?_⟩
    by_cases hrec : Recover n.toNat s.reportErrors
    · exact hrec.bounds.2
    · rw [approved_evaluateWork hrec hstep] at hw
      exact absurd hw (by decide)
  | interrupt =>
    refine ⟨fun _ => ?_, Nat.zero_le _, happ⟩
    rw [hcount rfl]
    exact hstreak (by rw [he.1]; simp)
  | scheduleWork kept =>
    refine ⟨fun _ => ?_, Nat.zero_le _, happ⟩
    rw [hcount rfl]
    exact hstreak (by rw [he.1]; simp)
  | countReport | emitReport =>
    have hpc := he
    simp only [Enabled] at hpc
    refine ⟨fun _ => ?_, Nat.zero_le _, happ⟩
    rw [hcount rfl]
    exact hstreak (by rw [hpc]; simp)
  | evaluateErrors v =>
    have hpc : s.isr = .evaluate v := he
    refine ⟨fun _ => ?_, ?_, happ⟩
    · rw [hcount rfl]
      exact hstreak (by rw [hpc]; simp)
    · simp only [streakInFlight, next]
      split_ifs <;> exact Nat.zero_le _
  | queueWatchdog =>
    have hpc : s.isr = .queueWatchdog := he
    refine ⟨fun _ => ?_, ?_, happ⟩
    · rw [hcount rfl]
      exact hstreak (by rw [hpc]; simp)
    · simp only [streakInFlight, next]
      split_ifs <;> exact Nat.zero_le _
  | _ =>
    obtain ⟨herr, hisr, hwork⟩ := streak_frame rfl hstep
    refine ⟨fun hne => ?_, ?_, fun hw => ?_⟩
    · rw [hcount rfl, herr]
      exact hstreak (by rw [← hisr]; exact hne)
    · unfold streakInFlight
      rw [hcount rfl, hisr, herr]
      exact hflight
    · rw [herr]
      exact happ (hwork hw)

end Honest

/-- So does every run of such steps. -/
theorem honest_of_run {watchdogEnabled : Bool} {s : State} {as : List Act}
    (hok : Runs.StepsMeet step (fun u a => keepsEvidence u a = true) (init watchdogEnabled) as)
    (hrun : Runs.runFrom step (init watchdogEnabled) as = some s) : Honest s as := by
  refine Runs.runFrom_past_of_stepsMeet (I := Honest)
    ⟨fun _ => le_rfl, le_rfl, ?_⟩ ?_ hok hrun
  · intro hw
    exact absurd hw Bool.false_ne_true
  · intro u past a u' hpast hh ha hstep
    exact honest_step (locking_of_reachable ⟨past, hpast⟩) hh ha hstep

/-- **A recovery rests on fresh evidence.**  In every run in which no handler stores a
streak below three between the decision of the work item and the end of its
`disable_irq`, the item enters `elan_recover_locked` only when the three most recent
report reads have failed and the streak still stands at three or more. -/
theorem recovery_has_fresh_evidence (watchdogEnabled : Bool) (as : List Act) (s s' : State)
    (hrun : Runs.runFrom step (init watchdogEnabled) as = some s)
    (hok : Runs.StepsMeet step (fun u a => keepsEvidence u a = true) (init watchdogEnabled) as)
    (hentry : step s (.synchronizeIrq .work) = some s') :
    3 ≤ recentFailures as ∧ 3 ≤ s.reportErrors.toNat := by
  have hh := honest_of_run hok hrun
  obtain ⟨hpc, hidle⟩ := (step_eq_some.mp hentry).1
  have hthree := hh.approved (by rw [hpc]; rfl)
  exact ⟨hthree.trans (hh.streak (by rw [hidle]; simp)), hthree⟩

/-- The item decides to recover and disables the interrupt. -/
def decision : List Act :=
  [.queueWatchdog, .scheduleWork true, .startWork, .lock .work, .loadOpenCount, .evaluateWork 1]

/-- There is a recovery with three failures behind it. -/
theorem recovery_after_three_failures :
    3 ≤ recentFailures (threeFailures ++ decision ++ [.disableIrq .work]) := by
  refine (recovery_has_fresh_evidence true (threeFailures ++ decision ++ [.disableIrq .work]) _ _
    rfl (by decide) rfl).1

/-- A report is read successfully after the decision, and the item recovers all the
same: the controller is healthy, and the streak is zero. -/
theorem healthy_controller_is_recovered :
    ¬ ∀ as s s', Runs.runFrom step (init true) as = some s →
      step s (.synchronizeIrq .work) = some s' →
      3 ≤ recentFailures as ∧ 3 ≤ s.reportErrors.toNat := by
  intro h
  have hstale := h (threeFailures ++ decision ++ goodRead ++ [.disableIrq .work]) _ _ rfl rfl
  exact absurd hstale.1 (by decide)

end Interleaving
