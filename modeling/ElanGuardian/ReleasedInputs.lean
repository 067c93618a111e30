/-
# What a recovery releases

`elan_release_inputs` is to undo what reports have set.  After any sequence of interrupts
and then a recovery, however it ends, no slot of the touchpad is active and no button of
either device is down.  The distance is not released: `elan_rs_emit_absolute` reports
`ABS_DISTANCE` with every frame, `elan_release_inputs` does not, so that a hand that
hovered when the last frame was reported hovers until the next one.

The events of a recovery are those of the release (`filterMap_inputCall_recovery`); what
they do to a device is followed event by event.
-/
import ElanGuardian.RecoverySequence
import ElanGuardian.TouchpadState

open Prog ElanCore ReportShim Transport InputDevice TouchpadState Driver

namespace ReleasedInputs

/-! ## The input events of a recovery -/

/-- What an effect of the driver asks of the input layer. -/
def inputCall : Effect → Option Call
  | .input dev event => some (.input dev event)
  | _ => none

/-- The calls of `elan_release_inputs`. -/
def releaseCalls (tpInput : Bool) : List Call :=
  releaseTouchpad.map (Call.input .touchpad)
    ++ if tpInput then (releaseButtons ++ [InputEvent.sync]).map (Call.input .trackpoint) else []

section Recovery

variable {P : ℤ → Prop} {x y : DrvM ℤ} {G : Effect → Prop}

/-- A stage returns such a status if both its parts do. -/
theorem stage_reports (hx : Reports P x G) (hy : Reports P y G) : Reports P (stage x y) G := by
  unfold stage
  refine Triple.bind hx fun error => Triple.ite (fun _ => Triple.pure fun _ hs => hs) fun _ => ?_
  exact hy.conseq (fun _ hs => hs.2) (fun _ _ h => h) fun _ h => h

/-- The stages of a recovery report nothing. -/
theorem stages_silent :
    Reports (fun _ => True)
      (stage (elanInitialize false)
        (stage elanWatchdogPing (stage (setMode .elanRecoverLocked) (pure 0))))
      (fun e => inputCall e = none) := by
  have hinit : Reports (fun _ => True) (elanInitialize false) (fun e => inputCall e = none) := by
    refine (elanInitialize_reports trivial).conseq (fun _ hs => hs) (fun _ _ h => h) ?_
    -- an attempt to initialise has no effect of the input layer
    intro e he
    cases e <;> first | rfl | exact False.elim he
  refine stage_reports hinit ?_
  refine stage_reports (elanWatchdogPing_reports (by rfl)) ?_
  refine stage_reports (setMode_reports fun _ => by rfl) ?_
  exact Triple.pure fun _ hs => ⟨trivial, hs⟩

/-- What the release reports is the calls of `elan_release_inputs`. -/
theorem filterMap_inputCall_releaseEffects (data : Drv) :
    (releaseEffects data).filterMap inputCall = releaseCalls data.tpInput := by
  have hevents (dev : InputDev) (events : List InputEvent) :
      (events.map (Effect.input dev)).filterMap inputCall = events.map (Call.input dev) := by
    rw [List.filterMap_map, ← List.filterMap_eq_map]
    rfl
  rw [releaseEffects, releaseCalls, List.filterMap_append, hevents]
  split_ifs
  · rw [hevents]
  · rfl

/-- **However it ends, a recovery reports what the release reports.** -/
theorem filterMap_inputCall_recovery (data : Drv) :
    (elanRecoverLocked.run data).trace.filterMap inputCall = releaseCalls data.tpInput := by
  have hsilent := (stages_silent (resetErrors data) fun _ => trivial).2
  rw [run_elanRecoverLocked]
  rw [List.filterMap_append, filterMap_inputCall_releaseEffects, List.filterMap_cons]
  show _ ++ List.filterMap inputCall _ = _
  rw [List.filterMap_eq_nil_iff.mpr hsilent, List.append_nil]

end Recovery

/-! ## What the release does to a device -/

section Release

variable {caps : Capabilities} {dev : InputDev} {d : Shown}

/-- A device hears the events that are reported to it. -/
theorem foldl_hear_same (events : List InputEvent) :
    (events.map (Call.input dev)).foldl (Shown.hear caps dev) d
      = events.foldl (Shown.handle caps) d := by
  rw [List.foldl_map]
  congr 1
  funext d event
  exact if_pos rfl

/-- And none of those that are reported to the other. -/
theorem foldl_hear_other {other : InputDev} (hne : other ≠ dev) (events : List InputEvent) :
    (events.map (Call.input other)).foldl (Shown.hear caps dev) d = d := by
  induction events with
  | nil => rfl
  | cons event events ih =>
    rw [List.map_cons, List.foldl_cons, Shown.hear, if_neg hne, ih]

end Release

/-! ## Recoveries after any reports -/

/-- A device as it is registered. -/
def fresh : Shown := ⟨slot0, fun _ => false, fun _ _ => 0, fun _ => 0, fun _ => false⟩

/-- Nothing touches, no button is down, and nothing hovers. -/
structure Neutral (shown : InputDev → Shown) : Prop where
  slots : ∀ slot, (shown .touchpad).active slot = false
  buttons : ∀ dev k, (shown dev).key k = false
  distance : (shown .touchpad).axis .distance = 0

section Runs

variable {Dev : Type} {bus : Bus} {reportLen : ℕ} {core : InputCore Dev}
  {clickpad middleButton : Bool} {context : ElanRsReportContext}
  {irqs : List (Irq bus reportLen)} {devices : InputDev → Dev} {dev : InputDev} {k : Key}

/-- The devices after the input events of a recovery. -/
def afterRecovery (core : InputCore Dev) (data : Drv) (devices : InputDev → Dev) :
    InputDev → Dev :=
  ((elanRecoverLocked.run data).trace.filterMap inputCall).foldl core.deliver devices

/-- The last absolute frame hovers. -/
def lastHovers (context : ElanRsReportContext) (irqs : List (Irq bus reportLen)) : Bool :=
  (Runs.lastValue (absoluteFrame context) irqs).any fun f => f.hover ≠ 0

/-- A button that a device does not have is never reported. -/
theorem key_hear_of_not_setUp {caps : Capabilities} (h : caps.key k = false) (d : Shown)
    (call : Call) : (d.hear caps dev call).key k = d.key k := by
  cases call with
  | pmWakeupEvent => rfl
  | rejected error => rfl
  | input target event =>
    rw [Shown.hear]
    split_ifs
    · cases event with
      | key key pressed =>
        rw [Shown.key_handle_key, if_neg]
        rintro ⟨hkey, rfl⟩
        rw [h] at hkey
        cases hkey
      | mtSlot slot =>
        rw [Shown.handle]
        split_ifs <;> rfl
      | abs axis value =>
        rw [Shown.handle_abs]
        split_ifs <;> rfl
      | _ => rfl
    · rfl

/-- A key that has not been set up stays as it is. -/
theorem key_afterIrqs_of_not_setUp
    (hcore : core.Documented (driverSetup clickpad middleButton context.reportFeatures))
    (h : (driverSetup clickpad middleButton context.reportFeatures dev).key k = false) :
    (core.shown (afterIrqs core context devices irqs dev)).key k
      = (core.shown (devices dev)).key k := by
  have hcalls (calls : List Call) (d : Shown) : (calls.foldl (Shown.hear
      (driverSetup clickpad middleButton context.reportFeatures dev) dev) d).key k = d.key k := by
    induction calls generalizing d with
    | nil => rfl
    | cons call calls ih => rw [List.foldl_cons, ih, key_hear_of_not_setUp h]
  induction irqs using List.reverseRecOn with
  | nil => rfl
  | append_singleton irqs irq ih =>
    rw [afterIrqs, List.foldl_append]
    show (core.shown ((calls context irq).foldl core.deliver
      (afterIrqs core context devices irqs) dev)).key k = _
    rw [InputCore.shown_deliver hcore, hcalls, ih]

/-- Without a trackpoint nothing is reported on one. -/
theorem trackpoint_afterIrqs_of_none (htp : context.trackpoint = false) :
    afterIrqs core context devices irqs .trackpoint = devices .trackpoint := by
  have hsilent (irq : Irq bus reportLen) :
      ∀ call ∈ calls context irq, Silent .trackpoint call := by
    apply silent_calls
    intro f _
    unfold emitFrame elanRsEmitTrackpoint
    refine Only.ite (fun _ => Only.bind ?_ fun _ => Only.pure _) fun _ => ?_
    · exact silent_of_to (by decide) elanRsEmitAbsolute_to
    · rw [if_pos htp]
      exact Only.ite (fun _ => Only.pure _) fun _ => Only.pure _
  induction irqs using List.reverseRecOn with
  | nil => rfl
  | append_singleton irqs irq ih =>
    rw [afterIrqs, List.foldl_append]
    exact (InputCore.deliver_of_silent _ (hsilent irq) _).trans ih

/-- The distance that is shown is that of the last absolute frame. -/
theorem distance_afterIrqs
    (hcore : core.Documented (driverSetup clickpad middleButton context.reportFeatures))
    (hfresh : core.shown (devices .touchpad) = fresh) :
    (core.shown (afterIrqs core context devices irqs .touchpad)).axis .distance
      = if lastHovers context irqs then 1 else 0 := by
  unfold lastHovers
  cases hlast : Runs.lastValue (absoluteFrame context) irqs with
  | some f =>
    rw [(showsFrame_afterIrqs hcore hlast devices).distance]
    simp
  | none =>
    have hsame : afterIrqs core context devices irqs .touchpad = devices .touchpad := by
      refine Runs.foldl_lastValue_none
        (I := fun now : InputDev → Dev => now .touchpad = devices .touchpad) ?_ devices irqs rfl
        hlast
      intro now irq hnone hnow
      rw [touchpad_afterIrq hnone, hnow]
    rw [hsame, hfresh]
    rfl

/-- A recovery lifts the slots of the touchpad and its buttons, and moves no axis. -/
theorem touchpad_afterRecovery
    (hcore : core.Documented (driverSetup clickpad middleButton context.reportFeatures))
    (data : Drv) (devices : InputDev → Dev) :
    let after := core.shown (afterRecovery core data devices .touchpad)
    (∀ slot, after.active slot = false)
      ∧ (∀ k, after.key k
          = if (driverSetup clickpad middleButton context.reportFeatures .touchpad).key k = true
            then false else (core.shown (devices .touchpad)).key k)
      ∧ after.axis = (core.shown (devices .touchpad)).axis := by
  intro after
  have hafter : after = releaseTouchpad.foldl
      (Shown.handle (driverSetup clickpad middleButton context.reportFeatures .touchpad))
      (core.shown (devices .touchpad)) := by
    show core.shown (afterRecovery core data devices .touchpad) = _
    rw [afterRecovery, InputCore.shown_deliver hcore, filterMap_inputCall_recovery, releaseCalls,
      List.foldl_append, foldl_hear_same]
    split_ifs
    · exact foldl_hear_other (by decide) _
    · rfl
  rw [hafter]
  exact handle_releaseTouchpad _ _

/-- If there is a trackpoint a recovery lifts its buttons. -/
theorem key_trackpoint_afterRecovery
    (hcore : core.Documented (driverSetup clickpad middleButton context.reportFeatures))
    (data : Drv) (devices : InputDev → Dev) (k : Key) :
    (core.shown (afterRecovery core data devices .trackpoint)).key k
      = if data.tpInput = true then false else (core.shown (devices .trackpoint)).key k := by
  rw [afterRecovery, InputCore.shown_deliver hcore, filterMap_inputCall_recovery, releaseCalls,
    List.foldl_append, foldl_hear_other (by decide)]
  split_ifs
  · rw [foldl_hear_same, List.foldl_append, List.foldl_cons, Shown.handle_sync, List.foldl_nil,
      key_handle_releaseButtons]
    exact if_pos rfl
  · rfl

end Runs

section Claim

variable {Dev : Type} {bus : Bus} {reportLen : ℕ}

/-- **A recovery leaves nothing pressed, but what hovered hovers.**  After any interrupts on
devices as they were registered, and any recovery, nothing touches and no button is down; the
distance is back just if the last absolute frame, if there was one, does not hover. -/
theorem recovery_neutral_iff (core : InputCore Dev) (clickpad middleButton : Bool)
    (params : DecodeParams) (data : Drv)
    (hcore : core.Documented (driverSetup clickpad middleButton params.reportFeatures))
    (devices : InputDev → Dev) (hfresh : ∀ dev, core.shown (devices dev) = fresh)
    (irqs : List (Irq bus reportLen)) :
    let context : ElanRsReportContext := ⟨params, data.tpInput⟩
    let after := fun dev =>
      core.shown (afterRecovery core data (afterIrqs core context devices irqs) dev)
    (∀ slot, (after .touchpad).active slot = false) ∧ (∀ dev k, (after dev).key k = false)
      ∧ (Neutral after ↔ lastHovers context irqs = false) := by
  intro context after
  have hcore' : core.Documented (driverSetup clickpad middleButton context.reportFeatures) := hcore
  obtain ⟨hslots, hkeys, haxis⟩ :=
    touchpad_afterRecovery hcore' data (afterIrqs core context devices irqs)
  have hbuttons : ∀ dev k, (after dev).key k = false := by
    intro dev k
    cases dev with
    | touchpad =>
      refine (hkeys k).trans ?_
      split_ifs with hkey
      · rfl
      · -- the release is not heard for a button that the device does not have
        rw [key_afterIrqs_of_not_setUp hcore' (Bool.not_eq_true _ ▸ hkey), hfresh]
        rfl
    | trackpoint =>
      refine (key_trackpoint_afterRecovery hcore' data _ k).trans ?_
      split_ifs with htp
      · rfl
      · have hnone : context.trackpoint = false := Bool.not_eq_true _ ▸ htp
        rw [trackpoint_afterIrqs_of_none hnone, hfresh]
        rfl
  have hdistance : (after .touchpad).axis .distance
      = if lastHovers context irqs then 1 else 0 := by
    rw [← distance_afterIrqs hcore' (hfresh .touchpad)]
    exact congrFun haxis .distance
  refine ⟨hslots, hbuttons, ?_⟩
  constructor
  · intro hneutral
    rw [hneutral.distance] at hdistance
    by_contra hhovers
    rw [if_pos (Bool.not_eq_false _ ▸ hhovers)] at hdistance
    exact absurd hdistance (by decide)
  · intro hstill
    rw [hstill] at hdistance
    exact ⟨hslots, hbuttons, hdistance⟩

end Claim

/-! ## A hand above the touchpad -/

/-- A hand that hovers, with no finger on the touchpad and no button down. -/
def hoveringHand : Irq .i2c 34 :=
  delivered (Vector.ofFn fun i => if i.val = 2 then 0x5d else if i.val = 30 then 0x40 else 0)

/-- A controller that does all it is asked. -/
def obedientController : Drv := { zeroed .i2c fun _ => ⟨0, fun _ => 0⟩ with tpInput := true }

/-- The hand still hovers after a recovery that has succeeded. -/
theorem hover_survives_recovery :
    let core := InputCore.plain (driverSetup false true 1)
    let after := fun dev => core.shown (afterRecovery core obedientController
      (afterIrqs core mediumPad (fun _ => fresh) [hoveringHand]) dev)
    (elanRecoverLocked.run obedientController).value = 0 ∧ ¬ Neutral after := by
  intro core after
  have hdistance : (after .touchpad).axis .distance = 1 := by decide +kernel
  refine ⟨by decide +kernel, fun hneutral => ?_⟩
  rw [hneutral.distance] at hdistance
  exact absurd hdistance (by decide)

/-- A second hand that touches ends the hovering. -/
theorem recovery_neutral_iff_handTouches :
    Neutral fun dev => (afterRecovery (InputCore.plain (driverSetup false true 1))
      obedientController (afterIrqs (InputCore.plain (driverSetup false true 1)) mediumPad
        (fun _ => fresh) [hoveringHand, shortReport 0x5d 0x09 0x12 0x34 0x56 0x23 0x40]) dev) := by
  obtain ⟨-, -, hneutral⟩ := recovery_neutral_iff (InputCore.plain (driverSetup false true 1))
    false true mediumPad.toDecodeParams obedientController (InputCore.plain_documented _)
    (fun _ => fresh) (fun _ => rfl)
    [hoveringHand, shortReport 0x5d 0x09 0x12 0x34 0x56 0x23 0x40]
  exact hneutral.mpr (by decide +kernel)

end ReleasedInputs
