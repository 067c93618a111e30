/-
# The interrupt handler by itself

Between the sequential `elan_isr` and the handler of the interleaved driver: when
nothing preempts it, the handler's instructions have on the shared data exactly the
effect of `elan_isr`.  So the interleaved handler is that function cut into pieces,
and what the runs say about it is about the code.
-/
import ElanGuardian.Interleaving

open Prog ElanCore ReportShim Transport Interrupt

namespace Interleaving

/-! ## The report path leaves the shared data alone -/

section ReportPath

variable {σ : Type} {I : σ → Prop}

/-- The program makes calls only. -/
abbrev OnlyCalls {α : Type} (I : σ → Prop) (x : Prog σ Call α) : Prop :=
  Triple I x (fun _ => I) fun _ => True

/-- A program that only calls an input device calls nothing else. -/
theorem OnlyCalls.of_to {α : Type} {dev : InputDev} {x : Prog σ Call α}
    (h : Triple I x (fun _ => I) (Call.To dev)) : OnlyCalls I x :=
  h.conseq (fun _ hs => hs) (fun _ _ hs => hs) fun _ _ => trivial

/-- The report path only calls the input core. -/
theorem elanRsEmitReport_onlyCalls (context : ElanRsReportContext) (report : Mem)
    (reportLen : ℕ) (frame : ElanRsFrame) :
    OnlyCalls I (elanRsEmitReport context report reportLen frame) := by
  unfold elanRsEmitReport
  refine Triple.ite (fun _ => Triple.pure fun _ hs => hs) fun _ => Triple.ite (fun _ => ?_)
    fun _ => Triple.ite (fun _ => OnlyCalls.of_to elanRsEmitTrackpoint_to) fun _ =>
    Triple.pure fun _ hs => hs
  exact Triple.bind (OnlyCalls.of_to elanRsEmitAbsolute_to) fun _ => Triple.pure fun _ hs => hs

end ReportPath

/-! ## The handler's instructions -/

/-- What the handler shares with the rest of the driver, outside a firmware update. -/
def isrData (s : State) : IsrData where
  inFwUpdate := false
  fwCompletions := 0
  watchdogEnabled := s.watchdogEnabled
  openCount := s.openCount
  reportErrors := s.reportErrors
  reportCount := s.reportCount
  watchdogPending := s.pending

/-- Whether the handler asks for the watchdog. -/
def requests (s : State) : Bool :=
  s.watchdogEnabled && Recover s.openCount (s.reportErrors + 1)

/-- The instructions of a handler that nothing preempts. -/
def handlerActs (s : State) (failed : Bool) : List Act :=
  if failed then
    failedRead (s.reportErrors + 1)
      ++ if requests s then [.queueWatchdog, .scheduleWork true] else []
  else goodRead

section Handler

variable {s : State}

/-- The handler asks for a recovery if the watchdog is enabled and the next failure is one too many.
-/
theorem requests_iff :
    requests s = true ↔ s.watchdogEnabled = true ∧ Recover s.openCount (s.reportErrors + 1) := by
  simp [requests]

/-- A failed read by itself counts one failure, and may request a recovery. -/
theorem run_failedRead (hidle : s.isr = .idle) (hdepth : s.irqDepth = 0) :
    Runs.runFrom step s (failedRead (s.reportErrors + 1))
      = some { s with
          reportErrors := s.reportErrors + 1
          isr := if requests s then .queueWatchdog else .idle } := by
  simp [failedRead, Runs.runFrom, step, Enabled, next, hidle, hdepth, requests_iff]

/-- A failed read is counted, and the watchdog asked for if need be. -/
theorem run_failed (hidle : s.isr = .idle) (hdepth : s.irqDepth = 0) :
    Runs.runFrom step s (handlerActs s true)
      = some { s with reportErrors := s.reportErrors + 1, pending := s.pending || requests s } := by
  refine Runs.runFrom_append.mpr ⟨_, run_failedRead hidle hdepth, ?_⟩
  cases hreq : requests s with
  | true =>
    -- the test of `elan_queue_watchdog` repeats one that has passed
    obtain ⟨henabled, hrec⟩ := requests_iff.mp hreq
    simp [Runs.runFrom, step, Enabled, next, hidle, henabled, hrec.bounds.1]
  | false => simp [hidle]

/-- A good read by itself clears the streak, and counts a report. -/
theorem run_good (hidle : s.isr = .idle) (hdepth : s.irqDepth = 0) :
    Runs.runFrom step s goodRead
      = some { s with reportErrors := 0, reportCount := s.reportCount + 1 } := by
  simp [goodRead, Runs.runFrom, step, Enabled, next, hidle, hdepth]

/-- `countError` on the shared data. -/
theorem state_countError :
    (run (countError (isrData s)) (isrData s)).state
      = { isrData s with
          reportErrors := s.reportErrors + 1
          watchdogPending := s.pending || requests s } := by
  have hif : ((isrData s).watchdogEnabled = true
      ∧ elanRsWatchdogAction (UInt32.ofNat (isrData s).openCount) 0 ((isrData s).reportErrors + 1)
        etpWatchdogReportErrors = watchdogRecover) ↔ requests s = true := requests_iff.symm
  simp only [countError, state_bind, run_modify, hif]
  cases hreq : requests s with
  | true =>
    obtain ⟨henabled, hrec⟩ := requests_iff.mp hreq
    have hopen := hrec.bounds.1
    simp [elanQueueWatchdog, isrData, henabled, hopen]
  | false => simp [isrData]

end Handler

/-- A handler whose read fails. -/
theorem state_elanIsr_failed {bus : Bus} {context : ElanRsReportContext} {reportLen : ℕ}
    {report : Mem} {frame : ElanRsFrame} {xfer : Xfer reportLen bus}
    (h : (getReport bus report reportLen xfer).1 ≠ 0) (data : IsrData)
    (hmain : data.inFwUpdate = false) :
    (run (elanIsr bus context reportLen report frame xfer) data).state
      = (run (countError data) data).state := by
  simp [elanIsr, hmain, h]

/-- A handler whose read succeeds: what it emits changes nothing. -/
theorem state_elanIsr_good {bus : Bus} {context : ElanRsReportContext} {reportLen : ℕ}
    {report : Mem} {frame : ElanRsFrame} {xfer : Xfer reportLen bus}
    (h : (getReport bus report reportLen xfer).1 = 0) (data : IsrData)
    (hmain : data.inFwUpdate = false) :
    (run (elanIsr bus context reportLen report frame xfer) data).state
      = { data with reportErrors := 0, reportCount := data.reportCount + 1 } := by
  have hrest : OnlyCalls (· = { data with reportErrors := 0, reportCount := data.reportCount + 1 })
      (elanRsEmitReport context (getReport bus report reportLen xfer).2 reportLen frame >>=
        fun error => if error ≠ 0 ∧ error ≠ enodev then emit (.rejected error) else pure ()) :=
    Triple.bind (elanRsEmitReport_onlyCalls _ _ _ _) fun _ =>
      Triple.ite (fun _ => Triple.emit_same trivial) fun _ => Triple.pure fun _ hs => hs
  have hno : ¬ data.inFwUpdate = true := by simp [hmain]
  rw [elanIsr, state_bind, run_get]
  dsimp only
  rw [if_neg hno, if_neg (not_not_intro h)]
  exact (hrest _ rfl).1

/-- **The handler's instructions are `elan_isr`.**  From any state in which the interrupt
may fire, whatever the bus delivers, the handler runs through when nothing preempts it,
changes the shared data as `elan_isr` does, and nothing else. -/
theorem handler_alone (bus : Bus) (context : ElanRsReportContext) (reportLen : ℕ) (report : Mem)
    (frame : ElanRsFrame) (xfer : Xfer reportLen bus) (s : State) (hidle : s.isr = .idle)
    (hdepth : s.irqDepth = 0) :
    ∃ s', Runs.runFrom step s
        (handlerActs s ((getReport bus report reportLen xfer).1 ≠ 0)) = some s'
      ∧ isrData s' = (run (elanIsr bus context reportLen report frame xfer) (isrData s)).state
      ∧ s'.pc = s.pc ∧ s'.isr = .idle ∧ s'.irqDepth = 0 ∧ s'.sysfsMutex = s.sysfsMutex
      ∧ s'.watchdogRecoveries = s.watchdogRecoveries := by
  by_cases h : (getReport bus report reportLen xfer).1 = 0
  · rw [decide_eq_false (not_not_intro h), state_elanIsr_good h (isrData s) rfl]
    exact ⟨_, run_good hidle hdepth, rfl, rfl, hidle, hdepth, rfl, rfl⟩
  · rw [decide_eq_true h, state_elanIsr_failed h (isrData s) rfl, state_countError]
    exact ⟨_, run_failed hidle hdepth, rfl, rfl, hidle, hdepth, rfl, rfl⟩

end Interleaving
