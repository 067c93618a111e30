/-
# Automatic recoveries are paid for by failures

An automatic recovery needs a streak of three, and both kinds of recovery reset the
streak while the handler is stopped.  So the failed reads that an automatic recovery
was decided on lie after the last reset and are never counted twice, although the
handler increments the streak in separate load and store instructions and a request
may be queued again at any time.
-/
import ElanGuardian.Locking

open ElanCore Interrupt

namespace Interleaving

/-! ## The steps that concern the streak -/

/-- The work item has decided to recover and waits for the handler. -/
def Pc.approved : Pc → Bool
  | .disableIrq | .synchronizeIrq => true
  | _ => false

/-- The instructions of the handler, the decision of the work item and the resets. -/
def Act.concernsStreak : Act → Bool
  | .interrupt | .read _ | .loadErrors | .storeErrors _ | .evaluateErrors _ | .queueWatchdog
  | .scheduleWork _ | .clearErrors | .countReport | .emitReport | .evaluateWork _
  | .resetErrors _ => true
  | _ => false

/-- Every other step leaves the streak, the handler and the decision alone. -/
theorem streak_frame {s s' : State} {a : Act} (ha : a.concernsStreak = false)
    (h : step s a = some s') :
    s'.reportErrors = s.reportErrors ∧ s'.isr = s.isr
      ∧ ((s'.pc .work).approved = true → (s.pc .work).approved = true) := by
  obtain ⟨he, rfl⟩ := step_eq_some.mp h
  cases a with
  | interrupt | read | loadErrors | storeErrors | evaluateErrors | queueWatchdog | scheduleWork
  | clearErrors | countReport | emitReport | evaluateWork | resetErrors =>
    exact absurd ha Bool.false_ne_true.symm
  | startWork => exact ⟨rfl, rfl, before_jump he.2 rfl fun _ h => absurd h (by decide)⟩
  | lock t =>
    refine ⟨rfl, rfl, before_jump he.1 rfl ?_⟩
    rintro rfl h
    exact absurd h (by decide)
  | disableIrq => exact ⟨rfl, rfl, before_jump he rfl fun _ _ => rfl⟩
  | synchronizeIrq => exact ⟨rfl, rfl, before_jump he.1 rfl fun _ _ => rfl⟩
  | closeNode | openNode | write | suspend | resume | resumeStages | resumeEnableIrq =>
    exact ⟨rfl, rfl, before_jump he rfl fun h => absurd h (by simp)⟩
  | loadOpenCount => exact ⟨rfl, rfl, before_jump he rfl fun _ h => absurd h Bool.false_ne_true⟩
  | cancelPending | releaseInputs | enableIrq =>
    exact ⟨rfl, rfl, before_jump he rfl fun _ h => absurd h (by decide)⟩
  | interrupted => exact ⟨rfl, rfl, before_jump he.1 rfl fun _ h => absurd h (by decide)⟩
  | cancelWait t =>
    refine ⟨rfl, rfl, before_jump he.1 rfl ?_⟩
    rintro rfl h
    exact absurd h (by decide)
  | stage t phase status =>
    refine ⟨rfl, rfl, before_jump he rfl fun _ h => ?_⟩
    rcases afterStage_eq phase status with hs | hs <;> rw [hs] at h <;>
      exact absurd h (by simp [Pc.approved])
  | exclusive t status =>
    refine ⟨rfl, rfl, before_jump he rfl ?_⟩
    rintro rfl h
    exact absurd h (by simp [afterExclusive, Pc.approved])
  | unlock t asleep =>
    refine ⟨rfl, rfl, before_jump he rfl fun _ h => ?_⟩
    cases asleep <;> exact absurd h (by decide)

/-- A decision against a recovery does not open the window. -/
theorem approved_evaluateWork {s s' : State} {n : UInt32} (hrec : ¬ Recover n.toNat s.reportErrors)
    (h : step s (.evaluateWork n) = some s') : (s'.pc .work).approved = false := by
  obtain ⟨-, rfl⟩ := step_eq_some.mp h
  simp only [next, goto_pc_self, if_neg hrec]
  rfl

/-! ## Evidence for a recovery -/

/-- Inside `elan_recover_locked`, before it has reset the streak. -/
def Pc.unreset : Pc → Bool
  | .releaseInputs | .resetErrors => true
  | _ => false

/-- The streak that the handler holds in a register, or is about to. -/
def streakInFlight (s : State) : ℕ :=
  match s.isr with
  | .loadErrors => s.reportErrors.toNat + 1
  | .storeErrors v => v.toNat
  | _ => 0

/-- The streak, in memory and in flight, is explained by `k` failed reads, and so is a
decision to recover. -/
structure Evidence (s : State) (k : ℕ) : Prop where
  streak : s.reportErrors.toNat ≤ k
  inFlight : streakInFlight s ≤ k
  approved : (s.pc .work).approved = true → 3 ≤ k

/-- A failed read is one more piece of evidence. -/
def evidenceOf : Act → ℕ
  | .read true => 1
  | _ => 0

section Evidence

variable {s s' : State} {a : Act} {k : ℕ}

/-- The work item holds the mutex, so a reset of another thread cannot fall between its
decision and its recovery. -/
theorem not_approved_of_holds (hl : Locking s) {t : Thread} (ht : (s.pc t).holds = true)
    (hne : t ≠ .work) : (s.pc .work).approved = false ∧ (s.pc .work).unreset = false := by
  have hmutex := (hl.mutex t).mp ht
  have hwork : (s.pc .work).holds = false := by
    cases hw : (s.pc .work).holds with
    | false => rfl
    | true =>
      have := (hl.mutex .work).mp hw
      rw [hmutex, Option.some.injEq] at this
      exact absurd this hne
  cases hpc : s.pc .work <;> rw [hpc] at hwork <;>
    first | exact ⟨rfl, rfl⟩ | exact absurd hwork Bool.false_ne_true.symm

/-- A reset happens with the handler stopped and leaves no evidence behind. -/
theorem evidence_of_reset (hl : Locking s) {t : Thread} (h : step s (.resetErrors t) = some s') :
    Evidence s' 0 := by
  obtain ⟨he, rfl⟩ := step_eq_some.mp h
  have hpc : s.pc t = .resetErrors := he
  have hidle : s.isr = .idle := hl.quiet t (by rw [hpc]; rfl)
  refine ⟨le_rfl, ?_, fun happ => ?_⟩
  · simp only [streakInFlight, next, goto_isr, hidle]
    exact le_rfl
  · by_cases ht : t = .work
    · subst ht
      simp only [next, goto_pc_self] at happ
      exact absurd happ (by simp [Pc.approved])
    · simp only [next, goto_pc_of_ne (Ne.symm ht)] at happ
      rw [(not_approved_of_holds hl (by rw [hpc]; rfl) ht).1] at happ
      exact absurd happ (by decide)

/-- **Every step keeps the evidence**, with a failed read counted. -/
theorem evidence_step (hl : Locking s) (hev : Evidence s k) (h : step s a = some s') :
    Evidence s' (k + evidenceOf a) := by
  obtain ⟨he, rfl⟩ := step_eq_some.mp h
  have hstreak := hev.streak
  have hflight := hev.inFlight
  cases a with
  | read failed =>
    cases failed with
    | false => exact ⟨hstreak, Nat.zero_le _, hev.approved⟩
    | true =>
      refine ⟨?_, ?_, fun happ => ?_⟩
      · exact Nat.le_succ_of_le hstreak
      · exact Nat.succ_le_succ hstreak
      · exact Nat.le_succ_of_le (hev.approved happ)
  | loadErrors =>
    -- the increment may wrap, which only makes the streak shorter
    have hload : s.isr = .loadErrors := he
    simp only [streakInFlight, hload] at hflight
    refine ⟨hstreak, ?_, hev.approved⟩
    have hwrap : (s.reportErrors + 1).toNat ≤ s.reportErrors.toNat + 1 := by
      rw [UInt32.toNat_add]
      exact Nat.mod_le _ _
    simp only [streakInFlight, next]
    exact hwrap.trans hflight
  | storeErrors v =>
    have hstore : s.isr = .storeErrors v := he
    simp only [streakInFlight, hstore] at hflight
    exact ⟨hflight, Nat.zero_le _, hev.approved⟩
  | interrupt | emitReport | countReport => exact ⟨hstreak, Nat.zero_le _, hev.approved⟩
  | scheduleWork => exact ⟨hstreak, Nat.zero_le _, hev.approved⟩
  | evaluateErrors v =>
    refine ⟨hstreak, ?_, hev.approved⟩
    simp only [streakInFlight, next]
    split_ifs <;> exact Nat.zero_le _
  | queueWatchdog =>
    refine ⟨hstreak, ?_, hev.approved⟩
    simp only [streakInFlight, next]
    split_ifs <;> exact Nat.zero_le _
  | clearErrors => exact ⟨Nat.zero_le _, Nat.zero_le _, hev.approved⟩
  | evaluateWork n =>
    refine ⟨hstreak, hflight, fun happ => ?_⟩
    by_cases hrec : Recover n.toNat s.reportErrors
    · exact hrec.bounds.2.trans hstreak
    · rw [approved_evaluateWork hrec h] at happ
      exact absurd happ (by decide)
  | resetErrors t =>
    have hzero := evidence_of_reset hl h
    exact ⟨hzero.streak.trans (Nat.zero_le _), hzero.inFlight.trans (Nat.zero_le _),
      fun happ => absurd (hzero.approved happ) (by omega)⟩
  | _ =>
    obtain ⟨herr, hisr, happ⟩ := streak_frame rfl h
    refine ⟨by rw [herr]; exact hstreak, ?_, fun hw => hev.approved (happ hw)⟩
    unfold streakInFlight
    rw [hisr, herr]
    exact hflight

end Evidence

/-- No reads, no streak. -/
theorem evidence_init (watchdogEnabled : Bool) : Evidence (init watchdogEnabled) 0 where
  streak := le_rfl
  inFlight := le_rfl
  approved h := absurd h Bool.false_ne_true

/-! ## The budget -/

section Budget

variable {s s' : State} {a : Act}

/-- Only the reset ends the first part of a recovery. -/
theorem unreset_step (ha : ∀ t, a ≠ .resetErrors t) (hu : (s.pc .work).unreset = true)
    (h : step s a = some s') : (s'.pc .work).unreset = true := by
  obtain ⟨he, rfl⟩ := step_eq_some.mp h
  -- a thread that stands anywhere else is not the work item, whose counter stays put
  have hstay {t : Thread} {src dst : Pc} {u : State} (ht : s.pc t = src)
      (hsrc : src.unreset = false) (hpc : u.pc = Function.update s.pc t dst) :
      (u.pc .work).unreset = true := by
    have hne : Thread.work ≠ t := by
      rintro rfl
      rw [ht, hsrc] at hu
      exact absurd hu (by decide)
    rwa [hpc, Function.update_of_ne hne]
  cases a with
  | interrupt | read | loadErrors | storeErrors | evaluateErrors | queueWatchdog | scheduleWork
  | clearErrors | countReport | emitReport => exact hu
  | releaseInputs t =>
    simp only [next, goto_pc]
    split_ifs
    · rfl
    · exact hu
  | resetErrors t => exact absurd rfl (ha t)
  | startWork => exact hstay he.2 rfl rfl
  | cancelWait | interrupted | lock | synchronizeIrq => exact hstay he.1 rfl rfl
  | write | openNode | closeNode | cancelPending | loadOpenCount | evaluateWork | disableIrq
  | stage | exclusive | enableIrq | unlock | suspend | resume | resumeStages | resumeEnableIrq =>
    exact hstay he rfl rfl

/-- Three failed reads have been spent on every automatic recovery, and outside the
first part of one the remaining reads still hold the evidence. -/
def Paid (s : State) (past : List Act) : Prop :=
  3 * past.count (.synchronizeIrq .work) ≤ past.count (.read true)
    ∧ ((s.pc .work).unreset = false →
      ∃ k, Evidence s k ∧ 3 * past.count (.synchronizeIrq .work) + k ≤ past.count (.read true))

/-- One more action is a failed read or is not. -/
theorem count_read_snoc (past : List Act) (a : Act) :
    (past ++ [a]).count (.read true) = past.count (.read true) + evidenceOf a := by
  rw [List.count_append]
  congr 1
  cases a with
  | read failed => cases failed <;> rfl
  | _ => rfl

/-- Each step keeps the account: an entry spends three reads, a reset forgets the rest. -/
theorem paid_step {past : List Act} (hl : Locking s) (hp : Paid s past)
    (h : step s a = some s') : Paid s' (past ++ [a]) := by
  obtain ⟨hpaid, hrest⟩ := hp
  by_cases hentry : a = .synchronizeIrq .work
  · -- an entry spends the evidence of its decision
    subst hentry
    have hpc : s.pc .work = .synchronizeIrq := (step_eq_some.mp h).1.1
    have hentered : (s'.pc .work).unreset = true := by
      rw [(step_eq_some.mp h).2]
      simp only [next, goto_pc_self]
      rfl
    obtain ⟨k, hev, hk⟩ := hrest (by rw [hpc]; rfl)
    have hthree := hev.approved (by rw [hpc]; rfl)
    constructor
    · rw [count_read_snoc, List.count_append, List.count_singleton_self]
      omega
    · intro hu
      rw [hentered] at hu
      exact absurd hu (by decide)
  · have hcount : (past ++ [a]).count (.synchronizeIrq .work)
        = past.count (.synchronizeIrq .work) := by
      rw [List.count_append, List.count_singleton, if_neg (by simpa using hentry), Nat.add_zero]
    rw [Paid, hcount, count_read_snoc]
    refine ⟨hpaid.trans (Nat.le_add_right _ _), fun hu => ?_⟩
    by_cases hreset : ∃ t, a = .resetErrors t
    · obtain ⟨t, rfl⟩ := hreset
      exact ⟨0, evidence_of_reset hl h, hpaid.trans (Nat.le_add_right _ _)⟩
    · have hu' : (s.pc .work).unreset = false := by
        cases hb : (s.pc .work).unreset with
        | false => rfl
        | true =>
          rw [unreset_step (fun t ht => hreset ⟨t, ht⟩) hb h] at hu
          exact absurd hu (by decide)
      obtain ⟨k, hev, hk⟩ := hrest hu'
      exact ⟨k + evidenceOf a, evidence_step hl hev h, by omega⟩

end Budget

/-- The account of a run. -/
theorem paid_of_run {watchdogEnabled : Bool} {s : State} {as : List Act}
    (hrun : Runs.runFrom step (init watchdogEnabled) as = some s) : Paid s as := by
  refine Runs.runFrom_past (I := Paid) ⟨le_rfl, fun _ => ⟨0, evidence_init _, le_rfl⟩⟩ ?_ hrun
  intro u past a u' hpast hp hstep
  exact paid_step (locking_of_reachable ⟨past, hpast⟩) hp hstep

/-! ## After a reset, or inside a recovery -/

/-- Evidence that is needed only once the recovery under way has reset the streak. -/
def FreshEvidence (s : State) (k : ℕ) : Prop := (s.pc .work).unreset = false → Evidence s k

/-- Each step keeps the evidence, inside a recovery and after it. -/
theorem freshEvidence_step {s s' : State} {a : Act} {k : ℕ} (hl : Locking s)
    (hev : FreshEvidence s k) (h : step s a = some s') :
    FreshEvidence s' (k + evidenceOf a) := by
  intro hu
  by_cases hreset : ∃ t, a = .resetErrors t
  · obtain ⟨t, rfl⟩ := hreset
    have hzero := evidence_of_reset hl h
    exact ⟨hzero.streak.trans (Nat.zero_le _), hzero.inFlight.trans (Nat.zero_le _),
      fun happ => (hzero.approved happ).trans (Nat.zero_le _)⟩
  · refine evidence_step hl (hev ?_) h
    cases hb : (s.pc .work).unreset with
    | false => rfl
    | true =>
      rw [unreset_step (fun t ht => hreset ⟨t, ht⟩) hb h] at hu
      exact absurd hu (by decide)

/-- Counting from a state in which nothing is decided yet, the next automatic recovery
comes after three more failed reads. -/
theorem three_more {watchdogEnabled : Bool} {s s' : State} {newer : List Act}
    (hs : Reachable watchdogEnabled s) (hfresh : FreshEvidence s 0)
    (hrun : Runs.runFrom step s (newer ++ [.synchronizeIrq .work]) = some s') :
    3 ≤ newer.count (.read true) := by
  obtain ⟨t, ht, hlast⟩ := Runs.runFrom_snoc.mp hrun
  have hev : FreshEvidence t (newer.count (.read true)) := by
    refine Runs.runFrom_past (I := fun u past => FreshEvidence u (past.count (.read true)))
      hfresh ?_ ht
    intro u past a u' hpast hev hstep
    rw [count_read_snoc]
    exact freshEvidence_step (locking_of_reachable (hs.trans hpast)) hev hstep
  have hpc : t.pc .work = .synchronizeIrq := (step_eq_some.mp hlast).1.1
  exact (hev (by rw [hpc]; rfl)).approved (by rw [hpc]; rfl)

/-- **Automatic recoveries are paid for by failures.**  In every run from probe the
work item has entered `elan_recover_locked` at most once for every three failed reads.
After it has entered, and after any recovery, manual or automatic, failed or not, has
reset the streak, it does not enter again without three new failed reads. -/
theorem automatic_recoveries_are_paid (watchdogEnabled : Bool) (as : List Act) (s : State)
    (hrun : Runs.runFrom step (init watchdogEnabled) as = some s) :
    3 * as.count (.synchronizeIrq .work) ≤ as.count (.read true)
      ∧ ∀ older newer first, as = older ++ first :: (newer ++ [.synchronizeIrq .work]) →
        (first = .synchronizeIrq .work ∨ ∃ t, first = .resetErrors t) →
        3 ≤ newer.count (.read true) := by
  refine ⟨(paid_of_run hrun).1, ?_⟩
  rintro older newer first rfl hfirst
  obtain ⟨u, hu, hrest⟩ := Runs.runFrom_append.mp hrun
  obtain ⟨v, hv, hnewer⟩ := Runs.runFrom_cons_eq_some.mp hrest
  have hreach : Reachable watchdogEnabled u := ⟨older, hu⟩
  refine three_more (hreach.snoc hv) ?_ hnewer
  rcases hfirst with rfl | ⟨t, rfl⟩
  · intro hunreset
    have hentered : (v.pc .work).unreset = true := by
      rw [(step_eq_some.mp hv).2]
      simp only [next, goto_pc_self]
      rfl
    rw [hentered] at hunreset
    exact absurd hunreset (by decide)
  · exact fun _ => evidence_of_reset (locking_of_reachable hreach) hv

/-- The work item runs and enters `elan_recover_locked`. -/
def automaticRecovery : List Act :=
  [.queueWatchdog, .scheduleWork true, .startWork, .lock .work, .loadOpenCount, .evaluateWork 1,
    .disableIrq .work, .synchronizeIrq .work]

/-- The first automatic recovery. -/
theorem first_recovery_is_paid :
    3 * (threeFailures ++ automaticRecovery).count (.synchronizeIrq .work)
      ≤ (threeFailures ++ automaticRecovery).count (.read true) :=
  (automatic_recoveries_are_paid true (threeFailures ++ automaticRecovery) _ rfl).1

end Interleaving
