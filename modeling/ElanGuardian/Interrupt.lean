/-
# The interrupt handler

`elan_isr` from its first instruction to its last, for one interrupt that nothing
preempts: it reads a report into an uninitialised stack buffer, keeps the error
streak and the report count, queues the watchdog, and emits the report.
-/
import ElanGuardian.ReportShim
import ElanGuardian.Transport

open Prog ElanCore ReportShim Transport

namespace Interrupt

/-- `ETP_WATCHDOG_REPORT_ERRORS`. -/
def etpWatchdogReportErrors : UInt32 := 3

/-- The fields of `struct elan_tp_data` that the handler shares with the rest of the
driver.  `open_count` counts two input nodes. -/
structure IsrData where
  inFwUpdate : Bool
  fwCompletions : ℕ
  watchdogEnabled : Bool
  openCount : ℕ
  reportErrors : UInt32
  reportCount : UInt64
  watchdogPending : Bool
  deriving DecidableEq, Repr

/-- `elan_queue_watchdog`; scheduling pending work again does nothing. -/
def elanQueueWatchdog : Prog IsrData Call Unit :=
  modify fun data =>
    if data.watchdogEnabled = true ∧ data.openCount > 0 then { data with watchdogPending := true }
    else data

/-- The handler's branch for a failed read. -/
def countError (data : IsrData) : Prog IsrData Call Unit := do
  let reportErrors := data.reportErrors + 1
  modify fun data => { data with reportErrors := reportErrors }
  if data.watchdogEnabled = true ∧ elanRsWatchdogAction (UInt32.ofNat data.openCount) 0
      reportErrors etpWatchdogReportErrors = watchdogRecover then elanQueueWatchdog
  else pure ()

/-- `elan_isr`.  `report` is what the stack buffer held before, `frame` what the local
of `elan_rs_emit_report` held, and `xfer` the transfer on the bus. -/
def elanIsr (bus : Bus) (context : ElanRsReportContext) (reportLen : ℕ) (report : Mem)
    (frame : ElanRsFrame) (xfer : Xfer reportLen bus) : Prog IsrData Call Unit := do
  let data ← get
  if data.inFwUpdate = true then
    modify fun data => { data with fwCompletions := data.fwCompletions + 1 }
  else
    let got := getReport bus report reportLen xfer
    if got.1 ≠ 0 then countError data
    else do
      modify fun data =>
        { data with reportErrors := 0, reportCount := data.reportCount + 1 }
      let error ← elanRsEmitReport context got.2 reportLen frame
      if error ≠ 0 ∧ error ≠ enodev then emit (.rejected error) else pure ()

end Interrupt
