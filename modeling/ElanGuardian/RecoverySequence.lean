/-
# The sequence of a recovery

`elan_recover_locked` of the driver: the inputs are released and the error streak is reset;
then come the attempts to initialise the controller, the health checks and the mode, each
stage only if the one before it has succeeded.  The C code tests the phase that the Rust
function `elan_rs_recovery_next` gives it after each stage, and the loops inside a stage
test for zero where that function tests for a negative status; for the statuses that
transport operations return the two tests agree (`elanRecoverLocked_sequence`).
-/
import ElanGuardian.InputRelease

open Prog ElanCore ReportShim Transport

namespace Driver

/-! ## The stages -/

/-- One of the attempts of a stage has succeeded. -/
def Succeeded (attempts : List (Outcome Drv Effect ℤ)) : Prop := ∃ o ∈ attempts, o.value = 0

instance (attempts : List (Outcome Drv Effect ℤ)) : Decidable (Succeeded attempts) :=
  inferInstanceAs (Decidable (∃ o ∈ attempts, o.value = 0))

/-- The state in which the attempts of a stage leave the driver. -/
def stateAfter (data : Drv) (attempts : List (Outcome Drv Effect ℤ)) : Drv :=
  (attempts.getLast?.map Outcome.state).getD data

/-- The driver after the reset of the streak. -/
def resetErrors (data : Drv) : Drv := { data with reportErrors := 0 }

/-- The attempts to initialise the controller. -/
def initialiseAttempts (data : Drv) : List (Outcome Drv Effect ℤ) :=
  tries (fun error => error = 0) (elanInitializeOnce false) etpRetries (resetErrors data)

/-- The driver after these. -/
def initialised (data : Drv) : Drv := stateAfter (resetErrors data) (initialiseAttempts data)

/-- The health checks; there are none unless an attempt to initialise has succeeded. -/
def healthChecks (data : Drv) : List (Outcome Drv Effect ℤ) :=
  if Succeeded (initialiseAttempts data) then
    tries (fun error => error = 0) (callStatus .healthCheck) etpRetries (initialised data)
  else []

/-- The driver after these. -/
def checked (data : Drv) : Drv := stateAfter (initialised data) (healthChecks data)

/-- The restored mode; it is not restored unless a health check has succeeded. -/
def modeRestores (data : Drv) : List (Outcome Drv Effect ℤ) :=
  if Succeeded (healthChecks data) then [(setMode .elanRecoverLocked).run (checked data)] else []

/-- An effect of an attempt to initialise the controller. -/
def Effect.Initialises : Effect → Prop
  | .transport op => op ∈ [.initializeDevice, .getProductId, .getPattern, .getSmVersion,
    .sleepControl false]
  | .setMode site _ => site = .elanInitialize
  | _ => False

/-- A recovery is bounded, in order, and ends with the first stage that fails. -/
structure FailClosed (data : Drv) (o : Outcome Drv Effect ℤ) : Prop where
  trace : ∃ released, Releases data released ∧ o.trace = released ++ .writeReportErrors 0
    :: (initialiseAttempts data ++ healthChecks data ++ modeRestores data).flatMap Outcome.trace
  initialises : ∀ a ∈ initialiseAttempts data, ∀ e ∈ a.trace, e.Initialises
  checks : ∀ a ∈ healthChecks data, a.trace = [.transport .healthCheck]
  restores : ∀ a ∈ modeRestores data,
    a.trace = [.setMode .elanRecoverLocked (checked data).mode]
  bounds : (initialiseAttempts data).length ∈ [1, 2, 3] ∧ (healthChecks data).length ≤ 3
    ∧ (modeRestores data).length ≤ 1
  success : o.value = 0 ↔ Succeeded (initialiseAttempts data) ∧ Succeeded (healthChecks data)
    ∧ Succeeded (modeRestores data)
  notInitialised : ¬ Succeeded (initialiseAttempts data) →
    healthChecks data = [] ∧ modeRestores data = []
      ∧ (initialiseAttempts data).getLast?.map Outcome.value = some o.value
  notChecked : Succeeded (initialiseAttempts data) → ¬ Succeeded (healthChecks data) →
    modeRestores data = [] ∧ (healthChecks data).getLast?.map Outcome.value = some o.value
  restored : Succeeded (initialiseAttempts data) → Succeeded (healthChecks data) →
    (modeRestores data).map Outcome.value = [o.value]

/-- `elan_recover_locked`, with `mismatch` at the exits for a phase out of order. -/
def elanRecoverLockedOr (mismatch : DrvM ℤ) : DrvM ℤ := do
  let phase := elanRsRecoveryNext recoveryIdle 0
  if phase ≠ recoveryReleaseInput then mismatch
  else do
    elanReleaseInputs
    emit (.writeReportErrors 0)
    modify fun data => { data with reportErrors := 0 }
    let phase := elanRsRecoveryNext phase 0
    if phase ≠ recoveryReinitialize then mismatch
    else do
      let error ← elanInitialize false
      let phase := elanRsRecoveryNext phase error
      if phase = recoveryFailed then pure error
      else if phase ≠ recoveryVerify then mismatch
      else do
        let error ← elanWatchdogPing
        let phase := elanRsRecoveryNext phase error
        if phase = recoveryFailed then pure error
        else if phase ≠ recoveryRestoreMode then mismatch
        else do
          let error ← setMode .elanRecoverLocked
          let phase := elanRsRecoveryNext phase error
          if phase = recoveryFailed then pure error
          else if phase ≠ recoveryComplete then mismatch
          else pure 0

theorem elanRecoverLockedOr_eproto : elanRecoverLockedOr (pure eproto) = elanRecoverLocked := rfl

/-! ## The phases -/

/-- A stage that returns its error, if it is negative, and goes on otherwise. -/
def stage (x y : DrvM ℤ) : DrvM ℤ := do
  let error ← x
  if error < 0 then pure error else y

section Phases

variable {x y mismatch : DrvM ℤ} {phase wanted : UInt32}

/-- A negative status ends the recovery, any other one leads to the next phase. -/
theorem elanRsRecoveryNext_eq (phase : UInt32) (error : ℤ) :
    elanRsRecoveryNext phase error
      = if error < 0 then recoveryFailed else elanRsRecoveryNext phase 0 := by
  unfold elanRsRecoveryNext
  by_cases h : error < 0
  · rw [if_pos h, if_pos h]
  · have hzero : ¬ (0 : ℤ) < 0 := by decide
    simp only [h, hzero, if_false]

/-- The phase that C expects is the one that it is given. -/
theorem stage_eq {f : ℤ → DrvM ℤ} (hnext : elanRsRecoveryNext phase 0 = wanted)
    (hwanted : wanted ≠ recoveryFailed)
    (hf : ∀ error, elanRsRecoveryNext phase error = wanted → f error = y) :
    (x >>= fun error => if elanRsRecoveryNext phase error = recoveryFailed then pure error
      else if elanRsRecoveryNext phase error ≠ wanted then mismatch else f error)
    = stage x y := by
  unfold stage
  refine bind_congr fun error => ?_
  by_cases h : error < 0
  · rw [elanRsRecoveryNext_eq, if_pos h, if_pos rfl, if_pos h]
  · have hphase : elanRsRecoveryNext phase error = wanted := by
      rw [elanRsRecoveryNext_eq, if_neg h, hnext]
    rw [hf error hphase, hphase, if_neg hwanted, if_neg (by simp), if_neg h]

/-- **No exit for a phase out of order is ever taken.** -/
theorem elanRecoverLockedOr_eq (mismatch : DrvM ℤ) : elanRecoverLockedOr mismatch = (do
    elanReleaseInputs
    emit (.writeReportErrors 0)
    modify resetErrors
    stage (elanInitialize false)
      (stage elanWatchdogPing (stage (setMode .elanRecoverLocked) (pure 0)))) := by
  -- the first two phases follow from no status at all
  have hrelease : elanRsRecoveryNext recoveryIdle 0 = recoveryReleaseInput := by decide
  have hinit : elanRsRecoveryNext recoveryReleaseInput 0 = recoveryReinitialize := by decide
  unfold elanRecoverLockedOr
  simp only [hrelease, hinit, ne_eq, not_true_eq_false, if_false]
  refine bind_congr fun _ => bind_congr fun _ => bind_congr fun _ => ?_
  refine stage_eq (by decide) (by decide) fun error hverify => ?_
  rw [hverify]
  refine stage_eq (by decide) (by decide) fun error hrestore => ?_
  rw [hrestore]
  exact stage_eq (by decide) (by decide) fun error _ => rfl

end Phases

/-! ## What the stages do -/

/-- Whatever the transport is asked from now on, it answers with a status in `P`. -/
def Answers (P : ℤ → Prop) (data : Drv) : Prop := ∀ n, P (data.replies n).status

/-- Started with such answers, `x` returns such a status, and its effects meet `G`. -/
abbrev Reports (P : ℤ → Prop) (x : DrvM ℤ) (G : Effect → Prop) : Prop :=
  Triple (Answers P) x (fun error data => P error ∧ Answers P data) G

section Reports

variable {P : ℤ → Prop} {x : DrvM ℤ} {G : Effect → Prop}

/-- A reply has one of the promised statuses. -/
theorem ask_reports :
    Triple (Answers P) ask (fun reply data => P reply.status ∧ Answers P data) G := by
  refine Triple.get_bind fun data => ?_
  refine Triple.bind (Q := fun _ later => P (data.replies 0).status ∧ Answers P later)
    (Triple.modify ?_) fun _ => Triple.pure fun _ hs => hs
  rintro s ⟨rfl, hs⟩
  -- the answer is used up, the others move up by one
  exact ⟨hs 0, fun n => hs (n + 1)⟩

/-- So has its status alone. -/
theorem askStatus_reports : Reports P askStatus G :=
  Triple.bind ask_reports fun _ => Triple.pure fun _ hs => hs

/-- A transport call returns such a status. -/
theorem callStatus_reports {op : Op} (hop : G (.transport op)) : Reports P (callStatus op) G := by
  refine Triple.bind (Triple.bind (Triple.emit_same hop) fun _ => ask_reports) fun _ => ?_
  exact Triple.pure fun _ hs => hs

/-- And so does a query. -/
theorem query_reports {op : Op} {store : Reply → Drv → Drv} (hop : G (.transport op))
    (hstore : ∀ reply data, (store reply data).replies = data.replies) :
    Reports P (query op store) G := by
  refine Triple.bind (Triple.bind (Triple.emit_same hop) fun _ => ask_reports) fun reply => ?_
  refine Triple.bind (Q := fun _ data => P reply.status ∧ Answers P data) (Triple.modify ?_)
    fun _ => Triple.pure fun _ hs => hs
  rintro s ⟨hstatus, hs⟩
  refine ⟨hstatus, fun n => ?_⟩
  rw [hstore]
  exact hs n

/-- And so does setting the mode. -/
theorem setMode_reports {site : Site} (hsite : ∀ mode, G (.setMode site mode)) :
    Reports P (setMode site) G :=
  Triple.read fun _ => Triple.bind (Triple.emit_same (hsite _)) fun _ => askStatus_reports

/-- The pattern `if (error) return error;`. -/
theorem Reports.andThen {y : DrvM ℤ} (hx : Reports P x G) (hy : Reports P y G) :
    Reports P (x >>= fun error => if error ≠ 0 then pure error else y) G := by
  refine Triple.bind hx fun error => Triple.ite (fun _ => Triple.pure fun _ hs => hs) fun _ => ?_
  exact hy.conseq (fun _ hs => hs.2) (fun _ _ h => h) fun _ h => h

/-- The queries of the product are calls of the initialisation. -/
theorem elanQueryProduct_reports : Reports P elanQueryProduct Effect.Initialises := by
  have hop (op : Op) (h : op ∈ [Op.getProductId, .getPattern, .getSmVersion]) :
      Effect.Initialises (.transport op) := by
    simp only [List.mem_cons, List.not_mem_nil, or_false] at h
    rcases h with rfl | rfl | rfl <;> simp [Effect.Initialises]
  refine Reports.andThen (query_reports (hop _ (by simp)) fun _ _ => rfl) ?_
  refine Reports.andThen (query_reports (hop _ (by simp)) fun _ _ => rfl) ?_
  exact query_reports (hop _ (by simp)) fun _ _ => rfl

/-- An attempt to initialise. -/
theorem elanInitializeOnce_reports (hzero : P 0) :
    Reports P (elanInitializeOnce false) Effect.Initialises := by
  have hwake : Reports P (callStatus (.sleepControl false)) Effect.Initialises :=
    callStatus_reports (by simp [Effect.Initialises])
  have hok : Reports P (pure 0) Effect.Initialises := Triple.pure fun _ hs => ⟨hzero, hs⟩
  refine Reports.andThen (callStatus_reports (by simp [Effect.Initialises])) ?_
  refine Reports.andThen elanQueryProduct_reports (Triple.read fun data => ?_)
  refine Reports.andThen (Triple.ite (fun _ => hwake) fun _ => hok) ?_
  refine Triple.bind (Q := fun _ => Answers P) (Triple.modify fun _ hs => hs) fun _ => ?_
  refine Reports.andThen (setMode_reports fun _ => rfl) ?_
  exact Triple.ite (fun _ => hok) fun _ => hwake

/-- The first attempt of `elan_initialize` is one like the others. -/
theorem elanInitialize_false :
    elanInitialize false
      = retry (fun error => error = 0) (elanInitializeOnce false) etpRetries := by
  show elanInitialize false = (do
    let error ← elanInitializeOnce false
    if decide (error = 0) = true then pure error
    else retry (fun error => error = 0) (elanInitializeOnce false) 1)
  unfold elanInitialize
  refine bind_congr fun error => ?_
  by_cases h : error = 0
  · rw [if_pos h, if_pos (decide_eq_true h), h]
  · rw [if_neg h, if_neg (by simpa using h)]

/-- All attempts to initialise. -/
theorem elanInitialize_reports (hzero : P 0) :
    Reports P (elanInitialize false) Effect.Initialises := by
  rw [elanInitialize_false]
  exact Triple.retry (elanInitializeOnce_reports hzero) (fun _ _ hs => hs.2) _

/-- The health checks. -/
theorem elanWatchdogPing_reports (hop : G (.transport .healthCheck)) :
    Reports P elanWatchdogPing G :=
  Triple.retry (callStatus_reports hop) (fun _ _ hs => hs.2) _

end Reports

/-! ## Whole recoveries -/

section Recovery

variable {x y body : DrvM ℤ} {data s : Drv} {extra : ℕ}

/-- A stage that fails ends the recovery. -/
theorem run_stage_of_neg (h : (x.run s).value < 0) : (stage x y).run s = x.run s := by
  show Outcome.mk _ _ _ = _
  simp [h]

/-- A stage that succeeds goes on. -/
theorem run_stage_of_not_neg (h : ¬ (x.run s).value < 0) :
    (stage x y).run s = ⟨(y.run (x.run s).state).value, (y.run (x.run s).state).state,
      (x.run s).trace ++ (y.run (x.run s).state).trace⟩ := by
  show Outcome.mk _ _ _ = _
  simp only [h, if_false]

/-- Input events, one after another. -/
theorem run_emitInputs (dev : InputDev) (events : List InputEvent) :
    (emitInputs dev events).run s = ⟨(), s, events.map (Effect.input dev)⟩ := by
  induction events with
  | nil => rfl
  | cons event events ih =>
    show Outcome.mk _ _ _ = _
    simp [ih]

/-- Releasing the inputs, and nothing else. -/
theorem run_elanReleaseInputs : elanReleaseInputs.run data = ⟨(), data, releaseEffects data⟩ := by
  show Outcome.mk _ _ _ = _
  cases htp : data.tpInput with
  | false => simp [run_emitInputs, htp, releaseEffects]
  | true => simp [run_emitInputs, htp, releaseEffects]

/-- The attempts of a stage, with the last one. -/
theorem run_attempts (body : DrvM ℤ) (extra : ℕ) (s : Drv) :
    ∃ last, (tries (fun error => error = 0) body extra s).getLast? = some last
      ∧ (retry (fun error => error = 0) body extra).run s
        = ⟨last.value, stateAfter s (tries (fun error => error = 0) body extra s),
          (tries (fun error => error = 0) body extra s).flatMap Outcome.trace⟩
      ∧ (Succeeded (tries (fun error => error = 0) body extra s) ↔ last.value = 0) := by
  obtain ⟨last, hlast, hrun⟩ := run_retry (fun error : ℤ => decide (error = 0)) body extra s
  refine ⟨last, hlast, ?_, ?_⟩
  · rw [hrun, stateAfter, hlast]
    rfl
  · have hok := ok_retry_iff (fun error : ℤ => decide (error = 0)) body extra s
    rw [hrun] at hok
    simp only [decide_eq_true_eq] at hok
    exact hok.symm

/-- With nothing after it a stage returns its status. -/
theorem run_stage_pure (h : (x.run s).value ≤ 0) : (stage x (pure 0)).run s = x.run s := by
  by_cases hneg : (x.run s).value < 0
  · exact run_stage_of_neg hneg
  · have hzero : (x.run s).value = 0 := le_antisymm h (not_lt.mp hneg)
    rw [run_stage_of_not_neg hneg, run_pure, List.append_nil, ← hzero]

/-- A recovery is the release, the reset, and the stages. -/
theorem run_elanRecoverLocked (data : Drv) :
    let o := (stage (elanInitialize false) (stage elanWatchdogPing
      (stage (setMode .elanRecoverLocked) (pure 0)))).run (resetErrors data)
    elanRecoverLocked.run data
      = ⟨o.value, o.state, releaseEffects data ++ .writeReportErrors 0 :: o.trace⟩ := by
  rw [← elanRecoverLockedOr_eproto, elanRecoverLockedOr_eq]
  show Outcome.mk _ _ _ = _
  simp [run_elanReleaseInputs]

/-- The attempts to initialise, with the last one. -/
theorem run_initialise (h : Answers (· ≤ 0) data) :
    ∃ last, (initialiseAttempts data).getLast? = some last
      ∧ (elanInitialize false).run (resetErrors data)
        = ⟨last.value, initialised data, (initialiseAttempts data).flatMap Outcome.trace⟩
      ∧ (Succeeded (initialiseAttempts data) ↔ last.value = 0)
      ∧ last.value ≤ 0 ∧ Answers (· ≤ 0) (initialised data) := by
  obtain ⟨last, hlast, hrun, hok⟩ := run_attempts (elanInitializeOnce false) etpRetries
    (resetErrors data)
  have hreports := (elanInitialize_reports (P := (· ≤ 0)) le_rfl (resetErrors data) h).1
  rw [elanInitialize_false] at hreports ⊢
  rw [hrun] at hreports
  exact ⟨last, hlast, hrun, hok, hreports⟩

/-- The health checks, with the last one. -/
theorem run_healthChecks (hinit : Succeeded (initialiseAttempts data))
    (h : Answers (· ≤ 0) (initialised data)) :
    ∃ last, (healthChecks data).getLast? = some last
      ∧ elanWatchdogPing.run (initialised data)
        = ⟨last.value, checked data, (healthChecks data).flatMap Outcome.trace⟩
      ∧ (Succeeded (healthChecks data) ↔ last.value = 0)
      ∧ last.value ≤ 0 ∧ Answers (· ≤ 0) (checked data) := by
  obtain ⟨last, hlast, hrun, hok⟩ := run_attempts (callStatus .healthCheck) etpRetries
    (initialised data)
  have hreports := (elanWatchdogPing_reports (G := fun _ => True) trivial (initialised data) h).1
  unfold checked healthChecks
  rw [if_pos hinit]
  unfold elanWatchdogPing at hreports ⊢
  rw [hrun] at hreports
  exact ⟨last, hlast, hrun, hok, hreports⟩

/-- A health check is one call. -/
theorem healthChecks_trace : ∀ a ∈ healthChecks data, a.trace = [.transport .healthCheck] := by
  unfold healthChecks
  split_ifs
  · exact forall_tries (I := fun _ => True) (fun _ _ => ⟨rfl, trivial⟩) trivial
  · exact fun a ha => absurd ha List.not_mem_nil

/-- Restoring the mode is one call. -/
theorem modeRestores_trace : ∀ a ∈ modeRestores data,
    a.trace = [.setMode .elanRecoverLocked (checked data).mode] := by
  unfold modeRestores
  split_ifs
  · intro a ha
    rw [List.mem_singleton.mp ha]
    rfl
  · exact fun a ha => absurd ha List.not_mem_nil

/-- There are at most three attempts of each kind. -/
theorem recovery_bounds (data : Drv) :
    (initialiseAttempts data).length ∈ [1, 2, 3] ∧ (healthChecks data).length ≤ 3
      ∧ (modeRestores data).length ≤ 1 := by
  refine ⟨?_, ?_, ?_⟩
  · have hpos : 0 < (initialiseAttempts data).length := length_tries_pos
    have hle : (initialiseAttempts data).length ≤ 3 := length_tries_le
    simp only [List.mem_cons, List.not_mem_nil, or_false]
    omega
  · unfold healthChecks
    split_ifs
    · exact length_tries_le
    · exact Nat.zero_le _
  · unfold modeRestores
    split_ifs
    · exact le_rfl
    · exact Nat.zero_le _

/-- Without a health check that succeeds there is nothing to restore. -/
theorem modeRestores_of_not (h : ¬ Succeeded (healthChecks data)) : modeRestores data = [] :=
  if_neg h

theorem not_succeeded_nil : ¬ Succeeded [] := fun ⟨_, ho, _⟩ => List.not_mem_nil ho

/-- One attempt. -/
theorem succeeded_singleton {o : Outcome Drv Effect ℤ} : Succeeded [o] ↔ o.value = 0 := by
  simp [Succeeded]

/-- Whatever an attempt to initialise does belongs to it. -/
theorem initialiseAttempts_trace (h : Answers (· ≤ 0) data) :
    ∀ a ∈ initialiseAttempts data, ∀ e ∈ a.trace, e.Initialises := by
  refine forall_tries (I := Answers (· ≤ 0)) (fun s hs => ?_) h
  obtain ⟨hlater, htrace⟩ := elanInitializeOnce_reports (P := (· ≤ 0)) le_rfl s hs
  exact ⟨htrace, hlater.2⟩

/-- The controller is not initialised: the last attempt gives the status. -/
theorem failClosed_of_notInitialised (h : Answers (· ≤ 0) data)
    (hsinit : ¬ Succeeded (initialiseAttempts data)) :
    FailClosed data (elanRecoverLocked.run data) := by
  obtain ⟨last, hlast, hinit, hok, hle, -⟩ := run_initialise h
  have hchecks : healthChecks data = [] := if_neg hsinit
  have hrestores : modeRestores data = [] := modeRestores_of_not (hchecks ▸ not_succeeded_nil)
  -- a failed attempt has returned a negative errno, so that the Rust side sees it fail too
  have hneg : last.value < 0 := lt_of_le_of_ne hle fun hzero => hsinit (hok.mpr hzero)
  rw [run_elanRecoverLocked, run_stage_of_neg (by rw [hinit]; exact hneg), hinit]
  constructor
  · refine ⟨_, releaseEffects_releases data, ?_⟩
    rw [hchecks, hrestores, List.append_nil, List.append_nil]
  · exact initialiseAttempts_trace h
  · exact healthChecks_trace
  · exact modeRestores_trace
  · exact recovery_bounds data
  · exact ⟨fun hzero => absurd hzero hneg.ne, fun hall => absurd hall.1 hsinit⟩
  · intro _
    refine ⟨hchecks, hrestores, ?_⟩
    rw [hlast]
    rfl
  · exact fun hall => absurd hall hsinit
  · exact fun hall => absurd hall hsinit

/-- The controller is initialised but not healthy: the last check gives the status. -/
theorem failClosed_of_notChecked (h : Answers (· ≤ 0) data)
    (hsinit : Succeeded (initialiseAttempts data)) (hscheck : ¬ Succeeded (healthChecks data)) :
    FailClosed data (elanRecoverLocked.run data) := by
  obtain ⟨last, -, hinit, hok, -, hanswers⟩ := run_initialise h
  obtain ⟨check, hcheck, hping, hok', hle', -⟩ := run_healthChecks hsinit hanswers
  have hzero : last.value = 0 := hok.mp hsinit
  have hneg : check.value < 0 := lt_of_le_of_ne hle' fun hzero => hscheck (hok'.mpr hzero)
  have hrestores : modeRestores data = [] := modeRestores_of_not hscheck
  rw [run_elanRecoverLocked, run_stage_of_not_neg (by rw [hinit]; exact hzero.not_lt), hinit,
    run_stage_of_neg (by rw [hping]; exact hneg), hping]
  constructor
  · refine ⟨_, releaseEffects_releases data, ?_⟩
    rw [hrestores, List.append_nil, List.flatMap_append]
  · exact initialiseAttempts_trace h
  · exact healthChecks_trace
  · exact modeRestores_trace
  · exact recovery_bounds data
  · exact ⟨fun hzero => absurd hzero hneg.ne, fun hall => absurd hall.2.1 hscheck⟩
  · exact fun hnone => absurd hsinit hnone
  · intro _ _
    refine ⟨hrestores, ?_⟩
    rw [hcheck]
    rfl
  · exact fun _ hall => absurd hall hscheck

/-- The controller is initialised and healthy: the restored mode gives the status. -/
theorem failClosed_of_checked (h : Answers (· ≤ 0) data)
    (hsinit : Succeeded (initialiseAttempts data)) (hscheck : Succeeded (healthChecks data)) :
    FailClosed data (elanRecoverLocked.run data) := by
  obtain ⟨last, -, hinit, hok, -, hanswers⟩ := run_initialise h
  obtain ⟨check, -, hping, hok', -, hanswers'⟩ := run_healthChecks hsinit hanswers
  have hzero : last.value = 0 := hok.mp hsinit
  have hzero' : check.value = 0 := hok'.mp hscheck
  have hrestores : modeRestores data = [(setMode .elanRecoverLocked).run (checked data)] :=
    if_pos hscheck
  have hmode : ((setMode .elanRecoverLocked).run (checked data)).value ≤ 0 :=
    (setMode_reports (G := fun _ => True) (fun _ => trivial) (checked data) hanswers').1.1
  rw [run_elanRecoverLocked, run_stage_of_not_neg (by rw [hinit]; exact hzero.not_lt), hinit,
    run_stage_of_not_neg (by rw [hping]; exact hzero'.not_lt), hping, run_stage_pure hmode]
  constructor
  · refine ⟨_, releaseEffects_releases data, ?_⟩
    rw [hrestores, List.flatMap_append, List.flatMap_append, List.append_assoc,
      List.flatMap_singleton]
  · exact initialiseAttempts_trace h
  · exact healthChecks_trace
  · exact modeRestores_trace
  · exact recovery_bounds data
  · rw [hrestores, succeeded_singleton]
    exact ⟨fun hstatus => ⟨hsinit, hscheck, hstatus⟩, fun hall => hall.2.2⟩
  · exact fun hnone => absurd hsinit hnone
  · exact fun _ hnone => absurd hscheck hnone
  · intro _ _
    rw [hrestores]
    rfl

/-- **A recovery is bounded, ordered and fail-closed.** -/
theorem failClosed (h : Answers (· ≤ 0) data) : FailClosed data (elanRecoverLocked.run data) := by
  by_cases hsinit : Succeeded (initialiseAttempts data)
  · by_cases hscheck : Succeeded (healthChecks data)
    · exact failClosed_of_checked h hsinit hscheck
    · exact failClosed_of_notChecked h hsinit hscheck
  · exact failClosed_of_notInitialised h hsinit

end Recovery

/-- **The sequence of a recovery.**  If the transport answers with 0 or a negative errno, a
recovery releases the inputs, resets the streak, and then goes through its stages as far as
they succeed; and no exit for a phase out of order can be reached. -/
theorem elanRecoverLocked_sequence (data : Drv) (h : Answers (· ≤ 0) data) :
    FailClosed data (elanRecoverLocked.run data)
      ∧ ∀ mismatch, elanRecoverLockedOr mismatch = elanRecoverLocked := by
  refine ⟨failClosed h, fun mismatch => ?_⟩
  rw [← elanRecoverLockedOr_eproto, elanRecoverLockedOr_eq, elanRecoverLockedOr_eq]

/-- A controller that does not answer the first reset with `-EIO`, is initialised then, and
times out in every health check. -/
def silentController : Drv :=
  { zeroed .i2c fun n => ⟨if n = 0 then -5 else if n < 7 then 0 else -110, fun _ => 0⟩ with
    tpInput := true
    mode := etpEnableAbs }

/-- At this controller the second attempt to initialise succeeds and no health check does. -/
theorem elanRecoverLocked_sequence_silentController :
    (initialiseAttempts silentController).map Outcome.value = [-5, 0]
      ∧ (healthChecks silentController).map Outcome.value = [-110, -110, -110]
      ∧ modeRestores silentController = []
      ∧ (elanRecoverLocked.run silentController).value = -110 := by
  have hanswers : Answers (· ≤ 0) silentController := by
    intro n
    show (if n = 0 then -5 else if n < 7 then 0 else -110 : ℤ) ≤ 0
    split_ifs <;> decide
  have hinit : (initialiseAttempts silentController).map Outcome.value = [-5, 0] := by
    decide +kernel
  have hchecks : (healthChecks silentController).map Outcome.value = [-110, -110, -110] := by
    decide +kernel
  obtain ⟨hclosed, -⟩ := elanRecoverLocked_sequence silentController hanswers
  obtain ⟨hrestores, hlast⟩ := hclosed.notChecked (by decide +kernel) (by decide +kernel)
  refine ⟨hinit, hchecks, hrestores, ?_⟩
  rw [← List.getLast?_map, hchecks] at hlast
  exact (Option.some.inj hlast).symm

end Driver
