/-
# Requests of the watchdog

A failed read that brings the streak to three or more asks for a recovery, provided
a node is open, and the request stays until the work item has reset the streak.  What
can take it away is a cancellation; and failures that were counted while no node was
open have asked for nothing, so that a node may be opened on a streak of three with no
request at all (`request_missing`).
-/
import ElanGuardian.ArmedNodes

open ElanCore Interrupt

namespace Interleaving

/-- The work item has started and has not reset the streak yet, and it has not seen the nodes
closed. -/
def Pc.answering : Pc → Bool
  | .lock | .loadOpenCount | .disableIrq | .synchronizeIrq | .releaseInputs | .resetErrors => true
  | .evaluate openCount => openCount ≠ 0
  | _ => false

/-- The handler works on a failed read. -/
def IsrPc.failing : IsrPc → Bool
  | .loadErrors | .storeErrors _ | .evaluate _ | .queueWatchdog | .scheduleWork => true
  | _ => false

/-- A request exists, is about to be made, or a cancellation is under way. -/
def Attended (s : State) : Prop :=
  s.pending = true ∨ (s.pc .work).answering = true ∨ s.isr.failing = true
    ∨ (s.pc .pm).closing = true ∨ ∃ n, (s.pc (.node n)).closing = true

/-- With the watchdog enabled and a node open, a streak of three is attended to; and the
handler's register is the streak it has just stored. -/
structure Requested (s : State) : Prop where
  attended : s.watchdogEnabled = true → 0 < s.openCount → 3 ≤ s.reportErrors.toNat → Attended s
  register : ∀ v, s.isr = .evaluate v → s.reportErrors = v

/-- A step after which a failure still counts: it neither opens the first node nor ends
a cancellation. -/
def staysFresh (s : State) : Act → Bool
  | .openNode _ => s.openCount ≠ 0
  | .cancelWait _ => false
  | _ => true

section Requested

variable {s s' : State} {a : Act}

/-- A jump of one thread, with the request kept. -/
theorem requested_goto {t : Thread} {src dst : Pc} (hr : Requested s) (hsrc : s.pc t = src)
    (hpc : s'.pc = Function.update s.pc t dst) (herr : s'.reportErrors = s.reportErrors)
    (hisr : s'.isr = s.isr) (hen : s'.watchdogEnabled = s.watchdogEnabled)
    (hopen : 0 < s'.openCount → 0 < s.openCount)
    (hpending : s.pending = true → Attended s')
    (hwork : t = .work → src.answering = true → dst.answering = true)
    (hclose : src.closing = true → dst.closing = true) : Requested s' := by
  refine ⟨fun h1 h2 h3 => ?_, fun v hv => ?_⟩
  · rw [hen] at h1
    rw [herr] at h3
    rcases hr.attended h1 (hopen h2) h3 with hp | hw | hf | hpm | ⟨n, hn⟩
    · exact hpending hp
    · exact Or.inr (Or.inl (after_jump hsrc hpc hwork hw))
    · exact Or.inr (Or.inr (Or.inl (by rw [hisr]; exact hf)))
    · exact Or.inr (Or.inr (Or.inr (Or.inl (after_jump hsrc hpc (fun _ => hclose) hpm))))
    · exact Or.inr (Or.inr (Or.inr (Or.inr ⟨n, after_jump hsrc hpc (fun _ => hclose) hn⟩)))
  · rw [hisr] at hv
    rw [herr]
    exact hr.register v hv

/-- A step of a handler that does not work on a failed read. -/
theorem requested_handler {src : IsrPc} (hr : Requested s) (hsrc : s.isr = src)
    (hfailing : src.failing = false) (hpc : s'.pc = s.pc) (hpending : s'.pending = s.pending)
    (herr : s'.reportErrors = s.reportErrors) (hen : s'.watchdogEnabled = s.watchdogEnabled)
    (hopen : s'.openCount = s.openCount) (hdst : ∀ v, s'.isr ≠ .evaluate v) : Requested s' := by
  refine ⟨fun h1 h2 h3 => ?_, fun v hv => absurd hv (hdst v)⟩
  rw [hen] at h1
  rw [hopen] at h2
  rw [herr] at h3
  unfold Attended
  rw [hpending, hpc]
  rcases hr.attended h1 h2 h3 with hp | hw | hf | hrest
  · exact Or.inl hp
  · exact Or.inr (Or.inl hw)
  · rw [hsrc, hfailing] at hf
    exact absurd hf Bool.false_ne_true
  · exact Or.inr (Or.inr (Or.inr hrest))

/-- A handler that works on a failed read attends to the streak. -/
theorem attended_of_failing (h : s.isr.failing = true) : Attended s :=
  Or.inr (Or.inr (Or.inl h))

/-- Each step keeps it that neither opens the first node nor ends a cancellation. -/
theorem requested_step (hl : Locking s) (hr : Requested s) (hok : staysFresh s a = true)
    (h : step s a = some s') : Requested s' := by
  obtain ⟨he, rfl⟩ := step_eq_some.mp h
  cases a with
  | interrupt => exact requested_handler hr he.1 rfl rfl rfl rfl rfl rfl (by simp [next])
  | read failed =>
    have hpc : s.isr = .readReport := he
    cases failed with
    | true => exact ⟨fun _ _ _ => attended_of_failing rfl, fun v hv => absurd hv (by simp [next])⟩
    | false => exact requested_handler hr hpc rfl rfl rfl rfl rfl rfl (by simp [next])
  | loadErrors =>
    exact ⟨fun _ _ _ => attended_of_failing rfl, fun v hv => absurd hv (by simp [next])⟩
  | storeErrors w =>
    refine ⟨fun _ _ _ => attended_of_failing rfl, fun v hv => ?_⟩
    simpa [next] using hv
  | evaluateErrors v =>
    have hpc : s.isr = .evaluate v := he
    have hreg := hr.register v hpc
    refine ⟨fun h1 h2 h3 => ?_, fun w hw => ?_⟩
    · -- the handler asks for the watchdog: its register is the streak
      have hrec : Recover s.openCount v :=
        recover_of_bounds h2 hl.openCount_lt (by rw [← hreg]; exact h3)
      refine attended_of_failing ?_
      simp only [next, show s.watchdogEnabled = true from h1, hrec, and_self, if_true]
      rfl
    · simp only [next] at hw
      split_ifs at hw
  | queueWatchdog =>
    refine ⟨fun h1 h2 h3 => attended_of_failing ?_, fun w hw => ?_⟩
    · simp only [next, show s.watchdogEnabled = true from h1, show s.openCount > 0 from h2,
        and_self, if_true]
      rfl
    · simp only [next] at hw
      split_ifs at hw
  | scheduleWork kept =>
    obtain ⟨hpc, hkept⟩ := he
    refine ⟨fun _ _ _ => ?_, fun w hw => absurd hw (by simp [next])⟩
    rcases hkept with rfl | hcancel
    · left
      simp [next]
    · -- a request lost to a cancellation in progress
      refine Or.inr (Or.inr (Or.inr ?_))
      rcases hcancel with hn | hn | hn
      · exact Or.inr ⟨.touchpad, by simp only [next, hn]; rfl⟩
      · exact Or.inr ⟨.trackpoint, by simp only [next, hn]; rfl⟩
      · exact Or.inl (by simp only [next, hn]; rfl)
  | clearErrors =>
    refine ⟨fun _ _ h3 => absurd h3 ?_, fun v hv => absurd hv (by simp [next])⟩
    simp [next]
  | countReport | emitReport =>
    exact requested_handler hr he rfl rfl rfl rfl rfl rfl (by simp [next])
  | startWork =>
    -- the request passes from the queue to the work item
    exact requested_goto hr he.2 rfl rfl rfl rfl id
      (fun _ => Or.inr (Or.inl (by simp only [next]; rfl)))
      (fun _ h => absurd h (by decide)) fun h => absurd h (by decide)
  | openNode n =>
    have hfresh : s.openCount ≠ 0 := by simpa [staysFresh] using hok
    exact requested_goto hr he rfl rfl rfl rfl (fun _ => Nat.pos_of_ne_zero hfresh) Or.inl
      (fun h => absurd h (by simp)) fun h => absurd h (by decide)
  | closeNode n =>
    have hpos := hl.openCount_pos he
    exact requested_goto hr he rfl rfl rfl rfl (fun _ => hpos) Or.inl
      (fun h => absurd h (by simp)) fun h => absurd h (by decide)
  | cancelPending t =>
    have hpc : s.pc t = .cancelPending := he
    -- the request is removed, but the cancellation goes on
    have hcanceling : Attended (next s (.cancelPending t)) := by
      have hcode := hl.code t
      rw [hpc] at hcode
      cases t with
      | node n => exact Or.inr (Or.inr (Or.inr (Or.inr ⟨n, by simp [next, Pc.closing]⟩)))
      | pm => exact Or.inr (Or.inr (Or.inr (Or.inl (by simp [next, Pc.closing]))))
      | work => exact absurd hcode (by decide)
      | store kind task => exact absurd hcode (by simp [Pc.codeOf])
    exact requested_goto hr hpc rfl rfl rfl rfl id (fun _ => hcanceling)
      (fun _ h => absurd h (by decide)) fun _ => rfl
  | cancelWait t => exact absurd hok (by simp [staysFresh])
  | resetErrors t =>
    refine ⟨fun _ _ h3 => absurd h3 ?_, fun v hv => ?_⟩
    · simp [next]
    · have hidle := hl.quiet t (by rw [show s.pc t = .resetErrors from he]; rfl)
      have hv' : s.isr = .evaluate v := hv
      rw [hidle] at hv'
      exact absurd hv' (by simp)
  | loadOpenCount =>
    by_cases hopen : s.openCount = 0
    · -- no node is open, and nothing is to be attended to
      exact ⟨fun _ h2 _ => absurd hopen (Nat.ne_of_gt h2), hr.register⟩
    · refine requested_goto hr he rfl rfl rfl rfl id Or.inl (fun _ _ => ?_) fun h =>
        absurd h (by decide)
      refine decide_eq_true fun hzero => hopen ?_
      rw [← toNat_openCount hl.openCount_lt, hzero]
      rfl
  | evaluateWork n =>
    by_cases hseen : n = 0
    · -- an item that has seen the nodes closed answers no request
      refine requested_goto hr he rfl rfl rfl rfl id Or.inl (fun _ h => ?_) fun h =>
        absurd h Bool.false_ne_true
      rw [hseen] at h
      exact absurd h (by decide)
    by_cases hrec : Recover n.toNat s.reportErrors
    · refine requested_goto hr he rfl rfl rfl rfl id Or.inl (fun _ _ => ?_) fun h =>
        absurd h Bool.false_ne_true
      rw [if_pos hrec]
      rfl
    · -- any other gives up only where nothing is to be attended to
      have hpos : 0 < n.toNat := Nat.pos_of_ne_zero fun hzero => hseen (UInt32.toNat_inj.mp hzero)
      exact ⟨fun _ _ h3 => absurd (recover_of_bounds hpos n.toNat_lt h3) hrec, hr.register⟩
  | lock t =>
    refine requested_goto hr he.1 rfl rfl rfl rfl id Or.inl ?_ fun h => absurd h (by decide)
    rintro rfl _
    rfl
  | interrupted t =>
    exact requested_goto hr he.1 rfl rfl rfl rfl id Or.inl (fun h => absurd h he.2) fun h =>
      absurd h (by decide)
  | synchronizeIrq t =>
    refine requested_goto hr he.1 rfl rfl rfl rfl id Or.inl ?_ fun h => absurd h (by decide)
    rintro rfl _
    rfl
  | write | disableIrq | releaseInputs =>
    exact requested_goto hr he rfl rfl rfl rfl id Or.inl (fun _ _ => rfl) fun h =>
      absurd h (by decide)
  | stage | exclusive | enableIrq | unlock | suspend | resume | resumeStages | resumeEnableIrq =>
    exact requested_goto hr he rfl rfl rfl rfl id Or.inl
      (fun _ h => absurd h (by simp [Pc.answering])) fun h => absurd h (by simp [Pc.closing])

end Requested

/-- No handler runs, and no open, close or suspend is in its `cancel_work_sync`. -/
def Quiescent (s : State) : Prop :=
  s.isr = .idle ∧ (s.pc .pm).closing = false ∧ ∀ n, (s.pc (.node n)).closing = false

/-- **A failure while armed keeps its request.**  Take any failed read from which on no
first node is opened and no cancellation ends.  Whenever the driver is then quiescent
with the watchdog enabled, a node open and a streak of three, the work is pending or
running. -/
theorem request_is_kept (watchdogEnabled : Bool) (s₁ s₂ s : State) (as : List Act)
    (hs : Reachable watchdogEnabled s₁) (hread : step s₁ (.read true) = some s₂)
    (hrun : Runs.runFrom step s₂ as = some s)
    (hok : Runs.StepsMeet step (fun u a => staysFresh u a = true) s₂ as)
    (hquiet : Quiescent s) (henabled : s.watchdogEnabled = true) (hopen : 0 < s.openCount)
    (herrors : 3 ≤ s.reportErrors.toNat) : s.pending = true ∨ s.pc .work ≠ .idle := by
  have hl₂ : Locking s₂ := locking_step (locking_of_reachable hs) hread
  have hr₂ : Requested s₂ := by
    obtain ⟨-, rfl⟩ := step_eq_some.mp hread
    exact ⟨fun _ _ _ => attended_of_failing rfl, fun v hv => absurd hv (by simp [next])⟩
  have hboth : Locking s ∧ Requested s := by
    refine Runs.runFrom_invariant_of_stepsMeet (I := fun u => Locking u ∧ Requested u) ?_
      ⟨hl₂, hr₂⟩ hok hrun
    rintro u a u' ⟨hl, hr⟩ ha hstep
    exact ⟨locking_step hl hstep, requested_step hl hr ha hstep⟩
  obtain ⟨hidle, hpm, hnodes⟩ := hquiet
  rcases hboth.2.attended henabled hopen herrors with hp | hw | hf | hclosing | ⟨n, hn⟩
  · exact Or.inl hp
  · right
    intro hwork
    rw [hwork] at hw
    exact absurd hw (by decide)
  · rw [hidle] at hf
    exact absurd hf (by decide)
  · rw [hpm] at hclosing
    exact absurd hclosing Bool.false_ne_true
  · rw [hnodes n] at hn
    exact absurd hn Bool.false_ne_true

/-- The third failed read in a row is kept as pending work. -/
theorem third_failure_is_kept :
    ∃ s, Runs.runFrom step (init true) (threeFailures ++ [.queueWatchdog, .scheduleWork true])
        = some s ∧ (s.pending = true ∨ s.pc .work ≠ .idle) := by
  refine ⟨_, rfl, request_is_kept true _ _ _ [.loadErrors, .storeErrors 3, .evaluateErrors 3,
    .queueWatchdog, .scheduleWork true]
    ⟨[.openNode .touchpad] ++ failedRead 1 ++ failedRead 2 ++ [.interrupt], rfl⟩ rfl rfl
    (by decide) ⟨rfl, rfl, ?_⟩ rfl (by decide) (by decide)⟩
  intro n
  cases n <;> rfl

/-- The reads fail while no node is open, and then the touchpad is opened. -/
def failuresWhileClosed : List Act :=
  failedRead 1 ++ failedRead 2 ++ failedRead 3 ++ [.openNode .touchpad]

/-- The last close cancels after another node has been opened. -/
def closeAcrossOpen : List Act :=
  [.openNode .touchpad, .closeNode .touchpad, .openNode .trackpoint]
    ++ failedRead 1 ++ failedRead 2 ++ failedRead 3
    ++ [.queueWatchdog, .scheduleWork true, .cancelPending (.node .touchpad),
      .cancelWait (.node .touchpad)]

/-- The run ends in a quiescent driver that has a node open and a streak of three, and
no request. -/
def LosesRequest (as : List Act) : Prop :=
  ∃ s, Runs.runFrom step (init true) as = some s ∧ Quiescent s ∧ s.watchdogEnabled = true
    ∧ 0 < s.openCount ∧ 3 ≤ s.reportErrors.toNat ∧ s.pending = false ∧ s.pc .work = .idle

/-- The two ways to have no request: the failures were counted while no node was open,
or a close that was still in progress has cancelled the work. -/
theorem request_missing : LosesRequest failuresWhileClosed ∧ LosesRequest closeAcrossOpen := by
  constructor
  · refine ⟨_, rfl, ⟨rfl, rfl, ?_⟩, rfl, by decide, by decide, rfl, rfl⟩
    intro n
    cases n <;> rfl
  · refine ⟨_, rfl, ⟨rfl, rfl, ?_⟩, rfl, by decide, by decide, rfl, rfl⟩
    intro n
    cases n <;> rfl

end Interleaving
