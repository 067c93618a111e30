/-
# The touchpad has no history

What is shown of the touchpad after any number of interrupts is what the last absolute
frame says, whatever was shown before: a frame reports all five slots, touching or not, all
its buttons and the distance, so that nothing of an earlier frame is left.  Failed reads,
refused reports and trackpoint frames do not reach the touchpad at all.

One frame is followed slot by slot (`showsContact_emitContact`, and `frame_emitContact` for
the other slots); the sequence of interrupts is the last-write rule of `Runs`.
-/
import ElanGuardian.InputDevice
import ElanGuardian.Interrupt
import ElanGuardian.Runs

open Prog ElanCore ReportShim Transport Interrupt InputDevice

namespace TouchpadState

/-! ## A frame, as it is shown -/

/-- The buttons of a frame. -/
def pressed (f : ElanRsFrame) : Key → Bool
  | .btnLeft => bit f.buttons 0
  | .btnRight => bit f.buttons 1
  | .btnMiddle => bit f.buttons 2

/-- A slot is active as the contact says and, if it is, in its place. -/
structure ShowsContact (context : ElanRsReportContext) (slot : Fin maxContacts)
    (c : ElanRsContact) (d : Shown) : Prop where
  active : d.active slot = true ↔ c.active ≠ 0
  place : c.active ≠ 0 →
    d.contact slot .mtPositionX = c.x.toInt32 ∧ d.contact slot .mtPositionY = c.y.toInt32
      ∧ d.contact slot .mtPressure = c.pressure.toInt32
  area : c.active ≠ 0 → context.reportFeatures &&& featureReportMk ≠ 0 →
    d.contact slot .mtTouchMajor = c.touchMajor.toInt32
      ∧ d.contact slot .mtTouchMinor = c.touchMinor.toInt32

/-- The touchpad shows a frame.  The tool width belongs to no slot: the last one that is
active decides. -/
structure ShowsFrame (caps : Capabilities) (context : ElanRsReportContext) (f : ElanRsFrame)
    (d : Shown) : Prop where
  contact : ∀ slot : Fin maxContacts, ShowsContact context slot (f.contact slot) d
  toolWidth : context.reportFeatures &&& featureReportMk ≠ 0 →
    ∀ slot : Fin maxContacts, (f.contact slot).active ≠ 0 →
      (∀ later : Fin maxContacts, slot < later → (f.contact later).active = 0) →
        d.axis .toolWidth = (f.contact slot).toolWidth.toInt32
  key : ∀ k, caps.key k = true → d.key k = pressed f k
  distance : d.axis .distance = if f.hover ≠ 0 then 1 else 0

/-! ## One contact -/

/-- The axes of a slot after an active contact was reported in it. -/
def reportedContact (context : ElanRsReportContext) (c : ElanRsContact)
    (before : AbsAxis → Int32) : AbsAxis → Int32
  | .mtPositionX => c.x.toInt32
  | .mtPositionY => c.y.toInt32
  | .mtPressure => c.pressure.toInt32
  | .mtTouchMajor =>
    if context.reportFeatures &&& featureReportMk ≠ 0 then c.touchMajor.toInt32
    else before .mtTouchMajor
  | .mtTouchMinor =>
    if context.reportFeatures &&& featureReportMk ≠ 0 then c.touchMinor.toInt32
    else before .mtTouchMinor
  | .toolWidth => before .toolWidth
  | .distance => before .distance

section Contact

variable {σ : Type} {context : ElanRsReportContext} {clickpad middleButton : Bool}
  {slot : Fin maxContacts} {c : ElanRsContact} {s : σ} {d : Shown}

/-- A contact that is not active lifts its slot, and the slot keeps its values. -/
theorem shownAfter_emitContact_inactive {caps : Capabilities} (h : c.active = 0) :
    shownAfter caps .touchpad (elanRsEmitContact context slot c) s d
      = { d with slot := slot, active := Function.update d.active slot false } := by
  rw [elanRsEmitContact]
  simp only [h, if_true, shownAfter_bind, shownAfter_inputReport, Shown.handle_mtSlot,
    Shown.handle_mtSlotState]

/-- An active contact puts down its slot with its values; what the context does not report stays. -/
theorem shownAfter_emitContact_active (h : c.active ≠ 0) :
    shownAfter (elanSetupInputDevice clickpad middleButton context.reportFeatures) .touchpad
        (elanRsEmitContact context slot c) s d
      = { d with
          slot := slot
          active := Function.update d.active slot true
          contact := Function.update d.contact slot (reportedContact context c (d.contact slot))
          axis := if context.reportFeatures &&& featureReportMk ≠ 0 then
              Function.update d.axis .toolWidth c.toolWidth.toInt32
            else d.axis } := by
  rw [elanRsEmitContact]
  by_cases hmk : context.reportFeatures &&& featureReportMk = 0
  · have hplace : Function.update (Function.update (Function.update (d.contact slot)
          .mtPositionX c.x.toInt32) .mtPositionY c.y.toInt32) .mtPressure c.pressure.toInt32
        = reportedContact context c (d.contact slot) := by
      funext axis
      cases axis <;> simp [reportedContact, hmk, Function.update]
    by_cases hf : context.reportFeatures = 0
    · simp [h, hf, Shown.handle_abs, elanSetupInputDevice, perContact, hplace]
    · simp [h, hf, hmk, Shown.handle_abs, elanSetupInputDevice, perContact, hplace]
  · have hf : context.reportFeatures ≠ 0 := by
      rintro hf
      rw [hf] at hmk
      exact hmk rfl
    have hplace : Function.update (Function.update (Function.update (Function.update
          (Function.update (d.contact slot) .mtPositionX c.x.toInt32) .mtPositionY c.y.toInt32)
          .mtPressure c.pressure.toInt32) .mtTouchMajor c.touchMajor.toInt32) .mtTouchMinor
          c.touchMinor.toInt32
        = reportedContact context c (d.contact slot) := by
      funext axis
      cases axis <;> simp [reportedContact, hmk, Function.update]
    simp [h, hf, hmk, Shown.handle_abs, elanSetupInputDevice, perContact, hplace]

/-- After a contact has been emitted the device shows it. -/
theorem showsContact_emitContact :
    ShowsContact context slot c
      (shownAfter (elanSetupInputDevice clickpad middleButton context.reportFeatures) .touchpad
        (elanRsEmitContact context slot c) s d) := by
  by_cases h : c.active = 0
  · rw [shownAfter_emitContact_inactive h]
    exact ⟨by simp [h], fun ha => absurd h ha, fun ha => absurd h ha⟩
  · rw [shownAfter_emitContact_active h]
    constructor
    · simp [h]
    · intro _
      simp only [Function.update_self]
      exact ⟨rfl, rfl, rfl⟩
    · intro _ hmk
      simp only [Function.update_self]
      exact ⟨if_pos hmk, if_pos hmk⟩

/-- A contact is shown by its own slot only. -/
theorem ShowsContact.congr {d' : Shown} (h : ShowsContact context slot c d)
    (hactive : d'.active slot = d.active slot) (hcontact : d'.contact slot = d.contact slot) :
    ShowsContact context slot c d' := by
  constructor
  · rw [hactive]
    exact h.active
  · rw [hcontact]
    exact h.place
  · rw [hcontact]
    exact h.area

/-- Reporting a contact leaves the other slots alone. -/
theorem frame_emitContact {other : Fin maxContacts} {c' : ElanRsContact} (hne : other ≠ slot)
    (h : ShowsContact context other c' d) :
    ShowsContact context other c'
      (shownAfter (elanSetupInputDevice clickpad middleButton context.reportFeatures) .touchpad
        (elanRsEmitContact context slot c) s d) := by
  by_cases hc : c.active = 0
  · rw [shownAfter_emitContact_inactive hc]
    exact h.congr (Function.update_of_ne hne _ _) rfl
  · rw [shownAfter_emitContact_active hc]
    exact h.congr (Function.update_of_ne hne _ _) (Function.update_of_ne hne _ _)

end Contact

/-! ## The slot loop -/

section Loop

variable {σ : Type} {context : ElanRsReportContext} {clickpad middleButton : Bool}
  {f : ElanRsFrame}

/-- **Every slot of the loop shows its contact**, and so does one that did before. -/
theorem showsContact_emitContacts {slot : Fin maxContacts} (slots : List (Fin maxContacts))
    (s : σ) (d : Shown) (h : slot ∈ slots ∨ ShowsContact context slot (f.contact slot) d) :
    ShowsContact context slot (f.contact slot)
      (shownAfter (elanSetupInputDevice clickpad middleButton context.reportFeatures) .touchpad
        (elanRsEmitContacts context f slots) s d) := by
  induction slots generalizing s d with
  | nil =>
    rcases h with h | h
    · cases h
    · exact h
  | cons next slots ih =>
    rw [elanRsEmitContacts, shownAfter_bind]
    apply ih
    by_cases hnext : slot = next
    · subst hnext
      exact Or.inr showsContact_emitContact
    · rcases h with h | h
      · exact Or.inl ((List.mem_cons.mp h).resolve_left hnext)
      · exact Or.inr (frame_emitContact hnext h)

/-- Lifting contacts writes to no axis of the device. -/
theorem axis_emitContacts (slots : List (Fin maxContacts)) (s : σ) (d : Shown)
    (h : ∀ slot ∈ slots, (f.contact slot).active = 0) :
    (shownAfter (elanSetupInputDevice clickpad middleButton context.reportFeatures) .touchpad
      (elanRsEmitContacts context f slots) s d).axis = d.axis := by
  induction slots generalizing s d with
  | nil => rfl
  | cons next slots ih =>
    rw [elanRsEmitContacts, shownAfter_bind,
      ih _ _ fun slot hslot => h slot (List.mem_cons_of_mem _ hslot),
      shownAfter_emitContact_inactive (h next List.mem_cons_self)]

/-- The last active slot decides the tool width. -/
theorem toolWidth_emitContacts (hmk : context.reportFeatures &&& featureReportMk ≠ 0)
    {slot : Fin maxContacts} (hactive : (f.contact slot).active ≠ 0)
    (slots : List (Fin maxContacts)) (hsorted : slots.Pairwise (· < ·)) (s : σ) (d : Shown)
    (hmem : slot ∈ slots)
    (hlater : ∀ later ∈ slots, slot < later → (f.contact later).active = 0) :
    (shownAfter (elanSetupInputDevice clickpad middleButton context.reportFeatures) .touchpad
      (elanRsEmitContacts context f slots) s d).axis .toolWidth
        = (f.contact slot).toolWidth.toInt32 := by
  induction slots generalizing s d with
  | nil => cases hmem
  | cons next slots ih =>
    obtain ⟨hnext, hsorted⟩ := List.pairwise_cons.mp hsorted
    rw [elanRsEmitContacts, shownAfter_bind]
    rcases List.mem_cons.mp hmem with rfl | hmem
    · rw [axis_emitContacts slots _ _ fun later hl =>
          hlater later (List.mem_cons_of_mem _ hl) (hnext later hl),
        shownAfter_emitContact_active hactive]
      simp only [if_pos hmk, Function.update_self]
    · exact ih hsorted _ _ hmem fun later hl => hlater later (List.mem_cons_of_mem _ hl)

end Loop

/-! ## One frame -/

section Frame

variable {σ : Type} {context : ElanRsReportContext} {clickpad middleButton : Bool}
  {f : ElanRsFrame}

/-- Once the contacts are shown, the buttons and the distance complete the frame. -/
theorem showsFrame_of_contacts {caps : Capabilities} {d : Shown}
    (hdistance : caps.axis .distance = true)
    (hcontact : ∀ slot : Fin maxContacts, ShowsContact context slot (f.contact slot) d)
    (hwidth : context.reportFeatures &&& featureReportMk ≠ 0 →
      ∀ slot : Fin maxContacts, (f.contact slot).active ≠ 0 →
        (∀ later : Fin maxContacts, slot < later → (f.contact later).active = 0) →
          d.axis .toolWidth = (f.contact slot).toolWidth.toInt32) :
    ShowsFrame caps context f
      ((((d.handle caps (.key .btnLeft (bit f.buttons 0))).handle caps
        (.key .btnMiddle (bit f.buttons 2))).handle caps
        (.key .btnRight (bit f.buttons 1))).handle caps
        (.abs .distance (if f.hover ≠ 0 then 1 else 0))) := by
  rw [Shown.handle_abs, hdistance]
  constructor
  · intro slot
    exact (hcontact slot).congr (by simp [perContact]) (by simp [perContact])
  · intro hmk slot hactive hlater
    rw [← hwidth hmk slot hactive hlater]
    simp [perContact, Function.update]
  · intro k hk
    cases k <;> simp [perContact, pressed, hk]
  · simp [perContact]

/-- **An absolute frame is all that the touchpad shows.** -/
theorem showsFrame_emitAbsolute (s : σ) (d : Shown) :
    ShowsFrame (elanSetupInputDevice clickpad middleButton context.reportFeatures) context f
      (shownAfter (elanSetupInputDevice clickpad middleButton context.reportFeatures) .touchpad
        (elanRsEmitAbsolute context f) s d) := by
  rw [elanRsEmitAbsolute]
  simp only [shownAfter_bind, shownAfter_wakeup, shownAfter_inputReport,
    Shown.handle_pointerEmulation, Shown.handle_sync]
  apply showsFrame_of_contacts rfl
  · intro slot
    exact showsContact_emitContacts _ _ _ (Or.inl (List.mem_finRange slot))
  · intro hmk slot hactive hlater
    exact toolWidth_emitContacts hmk hactive _ (List.pairwise_lt_finRange _) _ _
      (List.mem_finRange slot) fun later _ => hlater later

/-- The trackpoint shows the buttons of its frame. -/
theorem key_emitTrackpoint (htp : context.trackpoint = true) (s : σ) (d : Shown) (k : Key) :
    (shownAfter elanSetupTrackpointInputDevice .trackpoint (elanRsEmitTrackpoint context f)
      s d).key k = pressed f k := by
  have hkey (key : Key) : elanSetupTrackpointInputDevice.key key = true := rfl
  rw [elanRsEmitTrackpoint, if_neg (by simp [htp])]
  by_cases hrel : f.relValid = 0
  · cases k <;> simp [hrel, hkey, pressed]
  · cases k <;> simp [hrel, hkey, pressed]

/-- A device hears nothing of the calls to another one. -/
theorem silent_of_to {α : Type} {dev other : InputDev} {x : Prog σ Call α} (hne : other ≠ dev)
    (h : Triple (fun _ => True) x (fun _ _ => True) (Call.To other)) : Only (Silent dev) x := by
  intro s call hcall event hevent
  have hto := (h s trivial).2 call hcall
  rw [hevent] at hto
  exact hne hto.symm

end Frame

/-! ## One interrupt -/

/-- An interrupt outside a firmware update.  The rest of the driver may have changed what it
shares with the handler since the last one, and the stack of the handler holds anything. -/
structure Irq (bus : Bus) (reportLen : ℕ) where
  data : IsrData
  outside : data.inFwUpdate = false
  report : Mem
  frame : ElanRsFrame
  xfer : Xfer reportLen bus

section Interrupt

variable {bus : Bus} {reportLen : ℕ} {context : ElanRsReportContext}
  {irq : Irq bus reportLen} {f : ElanRsFrame}

/-- What the handler calls. -/
def calls (context : ElanRsReportContext) (irq : Irq bus reportLen) : List Call :=
  ((elanIsr bus context reportLen irq.report irq.frame irq.xfer).run irq.data).trace

/-- The frame of an interrupt; there is none after a failed read or for a rejected report. -/
def decoded (context : ElanRsReportContext) (irq : Irq bus reportLen) : Option ElanRsFrame :=
  let got := getReport bus irq.report reportLen irq.xfer
  if got.1 ≠ 0 then none
  else
    let o := elanRsDecodeReport (some got.2) reportLen context.toDecodeParams (some irq.frame)
    if o.value ≠ 0 then none else o.state

/-- The frame of an interrupt, if it is an absolute one. -/
def absoluteFrame (context : ElanRsReportContext) (irq : Irq bus reportLen) :
    Option ElanRsFrame :=
  (decoded context irq).filter fun f => f.kind = frameAbsolute

/-- The frame of an interrupt, if it is a trackpoint frame. -/
def trackpointFrame (context : ElanRsReportContext) (irq : Irq bus reportLen) :
    Option ElanRsFrame :=
  (decoded context irq).filter fun f => f.kind = frameTrackpoint

/-- What `elan_rs_emit_report` does with a frame. -/
def emitFrame (context : ElanRsReportContext) (f : ElanRsFrame) : Prog IsrData Call ℤ :=
  if f.kind = frameAbsolute then do
    elanRsEmitAbsolute context f
    pure 0
  else if f.kind = frameTrackpoint then elanRsEmitTrackpoint context f
  else pure eproto

/-- The shared data once a report was read. -/
def afterRead (data : IsrData) : IsrData :=
  { data with reportErrors := 0, reportCount := data.reportCount + 1 }

/-- The calls of the handler for a report with a given result. -/
def callsOf (o : Outcome IsrData Call ℤ) : List Call :=
  o.trace ++ if o.value ≠ 0 ∧ o.value ≠ enodev then [.rejected o.value] else []

/-- The complaint about a rejected packet is no input event. -/
theorem silent_callsOf {dev : InputDev} {o : Outcome IsrData Call ℤ}
    (h : ∀ call ∈ o.trace, Silent dev call) : ∀ call ∈ callsOf o, Silent dev call := by
  intro call hcall
  rcases List.mem_append.mp hcall with hcall | hcall
  · exact h call hcall
  · split_ifs at hcall
    · rw [List.mem_singleton.mp hcall]
      intro event hevent
      cases hevent
    · cases hcall

/-- The device hears nothing but the calls. -/
theorem foldl_callsOf {caps : Capabilities} {dev : InputDev} (o : Outcome IsrData Call ℤ)
    (d : Shown) :
    (callsOf o).foldl (Shown.hear caps dev) d = o.trace.foldl (Shown.hear caps dev) d := by
  rw [callsOf, List.foldl_append]
  split_ifs <;> rfl

/-- Counting an error reports nothing. -/
theorem trace_countError (data data' : IsrData) : ((countError data).run data').trace = [] := by
  rw [countError, trace_bind, run_modify]
  split_ifs <;> rfl

/-- A read that fails reports nothing. -/
theorem calls_of_failed (h : (getReport bus irq.report reportLen irq.xfer).1 ≠ 0) :
    calls context irq = [] := by
  have hno : ¬ irq.data.inFwUpdate = true := by simp [irq.outside]
  rw [calls, elanIsr, trace_bind, run_get]
  dsimp only
  rw [if_neg hno, if_pos h, trace_countError]
  rfl

/-- A read that succeeds reports what the report emits. -/
theorem calls_of_read (h : (getReport bus irq.report reportLen irq.xfer).1 = 0) :
    calls context irq
      = callsOf ((elanRsEmitReport context (getReport bus irq.report reportLen irq.xfer).2
          reportLen irq.frame).run (afterRead irq.data)) := by
  have hno : ¬ irq.data.inFwUpdate = true := by simp [irq.outside]
  rw [calls, elanIsr, trace_bind, run_get]
  dsimp only
  rw [if_neg hno, if_neg (not_not_intro h), trace_bind, run_modify, trace_bind, callsOf]
  show [] ++ ([] ++ (_ ++ _)) = _
  rw [List.nil_append, List.nil_append, afterRead]
  split_ifs <;> rfl

/-- The frame is what the decoder leaves when it returns 0. -/
theorem decoded_eq_some_iff (hread : (getReport bus irq.report reportLen irq.xfer).1 = 0) :
    decoded context irq = some f
      ↔ ((decodeReport (getReport bus irq.report reportLen irq.xfer).2 reportLen
            context.toDecodeParams).run irq.frame).value = 0
        ∧ ((decodeReport (getReport bus irq.report reportLen irq.xfer).2 reportLen
            context.toDecodeParams).run irq.frame).state = f := by
  rw [decoded]
  simp only [hread, ne_eq, not_true_eq_false, if_false, elanRsDecodeReport]
  by_cases hvalue : ((decodeReport (getReport bus irq.report reportLen irq.xfer).2 reportLen
      context.toDecodeParams).run irq.frame).value = 0
  · simp [hvalue]
  · simp [hvalue]

/-- Without a frame nothing is reported to any device. -/
theorem calls_of_rejected (h : decoded context irq = none) :
    ∀ call ∈ calls context irq, ∃ error, call = .rejected error := by
  by_cases hread : (getReport bus irq.report reportLen irq.xfer).1 = 0
  · have hvalue : ((decodeReport (getReport bus irq.report reportLen irq.xfer).2 reportLen
        context.toDecodeParams).run irq.frame).value ≠ 0 := by
      intro hvalue
      have hsome : decoded context irq = some _ :=
        (decoded_eq_some_iff hread).mpr ⟨hvalue, rfl⟩
      rw [h] at hsome
      cases hsome
    rw [calls_of_read hread, elanRsEmitReport, if_pos hvalue, callsOf, run_pure]
    intro call hcall
    rw [List.nil_append] at hcall
    split_ifs at hcall
    · exact ⟨_, List.mem_singleton.mp hcall⟩
    · cases hcall
  · rw [calls_of_failed hread]
    intro call hcall
    cases hcall

/-- With a frame the handler does what the frame asks for. -/
theorem calls_of_decoded (h : decoded context irq = some f) :
    calls context irq = callsOf ((emitFrame context f).run (afterRead irq.data)) := by
  by_cases hread : (getReport bus irq.report reportLen irq.xfer).1 = 0
  · obtain ⟨hvalue, hstate⟩ := (decoded_eq_some_iff hread).mp h
    rw [calls_of_read hread, elanRsEmitReport, if_neg (not_not_intro hvalue), hstate, emitFrame]
  · rw [decoded] at h
    simp only [ne_eq, hread, not_false_eq_true, if_true] at h
    cases h

/-- The absolute frames are those frames that are absolute. -/
theorem absoluteFrame_eq_some_iff :
    absoluteFrame context irq = some f ↔ decoded context irq = some f ∧ f.kind = frameAbsolute := by
  rw [absoluteFrame, Option.filter_eq_some_iff, decide_eq_true_eq]

/-- And the trackpoint frames those that are of the trackpoint. -/
theorem trackpointFrame_eq_some_iff :
    trackpointFrame context irq = some f
      ↔ decoded context irq = some f ∧ f.kind = frameTrackpoint := by
  rw [trackpointFrame, Option.filter_eq_some_iff, decide_eq_true_eq]

/-- A device that the frame of an interrupt does not reach hears nothing of it. -/
theorem silent_calls {dev : InputDev}
    (h : ∀ f, decoded context irq = some f → Only (Silent dev) (emitFrame context f)) :
    ∀ call ∈ calls context irq, Silent dev call := by
  cases hdecoded : decoded context irq with
  | none =>
    intro call hcall event hevent
    obtain ⟨error, rfl⟩ := calls_of_rejected hdecoded call hcall
    cases hevent
  | some f =>
    rw [calls_of_decoded hdecoded]
    exact silent_callsOf (h f hdecoded _)

/-- Only an absolute frame reaches the touchpad. -/
theorem silent_touchpad (h : absoluteFrame context irq = none) :
    ∀ call ∈ calls context irq, Silent .touchpad call := by
  apply silent_calls
  intro f hdecoded
  have hkind : f.kind ≠ frameAbsolute := by
    intro hkind
    rw [absoluteFrame_eq_some_iff.mpr ⟨hdecoded, hkind⟩] at h
    cases h
  rw [emitFrame, if_neg hkind]
  refine Only.ite (fun _ => ?_) fun _ => Only.pure _
  exact silent_of_to (by decide) elanRsEmitTrackpoint_to

/-- Only a trackpoint frame reaches the trackpoint. -/
theorem silent_trackpoint (h : trackpointFrame context irq = none) :
    ∀ call ∈ calls context irq, Silent .trackpoint call := by
  apply silent_calls
  intro f hdecoded
  have hkind : f.kind ≠ frameTrackpoint := by
    intro hkind
    rw [trackpointFrame_eq_some_iff.mpr ⟨hdecoded, hkind⟩] at h
    cases h
  rw [emitFrame, if_neg hkind]
  refine Only.ite (fun _ => Only.bind ?_ fun _ => Only.pure _) fun _ => Only.pure _
  exact silent_of_to (by decide) elanRsEmitAbsolute_to

/-- After the calls for an absolute frame the touchpad shows it. -/
theorem showsFrame_calls {clickpad middleButton : Bool}
    (h : absoluteFrame context irq = some f) (d : Shown) :
    ShowsFrame (elanSetupInputDevice clickpad middleButton context.reportFeatures) context f
      ((calls context irq).foldl
        (Shown.hear (elanSetupInputDevice clickpad middleButton context.reportFeatures)
          .touchpad) d) := by
  obtain ⟨hdecoded, hkind⟩ := absoluteFrame_eq_some_iff.mp h
  rw [calls_of_decoded hdecoded, emitFrame, if_pos hkind, foldl_callsOf]
  rw [← shownAfter, shownAfter_bind, shownAfter_pure]
  exact showsFrame_emitAbsolute (afterRead irq.data) d

/-- After a frame of the trackpoint its keys are as the frame says. -/
theorem key_calls (htp : context.trackpoint = true)
    (h : trackpointFrame context irq = some f) (d : Shown) (k : Key) :
    ((calls context irq).foldl (Shown.hear elanSetupTrackpointInputDevice .trackpoint) d).key k
      = pressed f k := by
  obtain ⟨hdecoded, hkind⟩ := trackpointFrame_eq_some_iff.mp h
  have hne : f.kind ≠ frameAbsolute := by rw [hkind]; decide
  rw [calls_of_decoded hdecoded, emitFrame, if_neg hne, if_pos hkind, foldl_callsOf]
  exact key_emitTrackpoint htp (afterRead irq.data) d k

end Interrupt

/-! ## Sequences of interrupts -/

section Sequence

variable {Dev : Type} {bus : Bus} {reportLen : ℕ}

/-- The devices after the calls of one interrupt. -/
def afterIrq (core : InputCore Dev) (context : ElanRsReportContext) (devices : InputDev → Dev)
    (irq : Irq bus reportLen) : InputDev → Dev :=
  (calls context irq).foldl core.deliver devices

/-- The devices after a sequence of interrupts. -/
def afterIrqs (core : InputCore Dev) (context : ElanRsReportContext) (devices : InputDev → Dev)
    (irqs : List (Irq bus reportLen)) : InputDev → Dev :=
  irqs.foldl (afterIrq core context) devices

section Runs

variable {core : InputCore Dev} {clickpad middleButton : Bool} {context : ElanRsReportContext}
  {irq : Irq bus reportLen} {irqs : List (Irq bus reportLen)} {f : ElanRsFrame}

/-- Without an absolute frame the touchpad stays as it is. -/
theorem touchpad_afterIrq (h : absoluteFrame context irq = none) (devices : InputDev → Dev) :
    afterIrq core context devices irq .touchpad = devices .touchpad :=
  InputCore.deliver_of_silent _ (silent_touchpad h) devices

/-- Without a trackpoint frame the trackpoint stays as it is. -/
theorem trackpoint_afterIrq (h : trackpointFrame context irq = none) (devices : InputDev → Dev) :
    afterIrq core context devices irq .trackpoint = devices .trackpoint :=
  InputCore.deliver_of_silent _ (silent_trackpoint h) devices

/-- After a run the touchpad shows the last absolute frame. -/
theorem showsFrame_afterIrqs
    (hcore : core.Documented (driverSetup clickpad middleButton context.reportFeatures))
    (hlast : Runs.lastValue (absoluteFrame context) irqs = some f) (devices : InputDev → Dev) :
    ShowsFrame (elanSetupInputDevice clickpad middleButton context.reportFeatures) context f
      (core.shown (afterIrqs core context devices irqs .touchpad)) := by
  refine Runs.foldl_lastValue
    (R := fun f (devices : InputDev → Dev) => ShowsFrame
      (elanSetupInputDevice clickpad middleButton context.reportFeatures) context f
      (core.shown (devices .touchpad))) ?_ ?_ devices irqs hlast
  · intro devices irq f hf
    rw [afterIrq, InputCore.shown_deliver hcore]
    exact showsFrame_calls hf _
  · intro devices irq f hnone hshows
    rw [touchpad_afterIrq hnone]
    exact hshows

/-- After a run the trackpoint shows the buttons of the last trackpoint frame. -/
theorem key_afterIrqs
    (hcore : core.Documented (driverSetup clickpad middleButton context.reportFeatures))
    (htp : context.trackpoint = true)
    (hlast : Runs.lastValue (trackpointFrame context) irqs = some f) (devices : InputDev → Dev)
    (k : Key) :
    (core.shown (afterIrqs core context devices irqs .trackpoint)).key k = pressed f k := by
  refine Runs.foldl_lastValue
    (R := fun f (devices : InputDev → Dev) =>
      (core.shown (devices .trackpoint)).key k = pressed f k) ?_ ?_ devices irqs hlast
  · intro devices irq f hf
    rw [afterIrq, InputCore.shown_deliver hcore]
    exact key_calls htp hf _ k
  · intro devices irq f hnone hshows
    rw [trackpoint_afterIrq hnone]
    exact hshows

end Runs

/-- **The touchpad has no history.**  After every sequence of interrupts the touchpad shows
the last absolute frame and the trackpoint the buttons of the last trackpoint frame; an
interrupt without an absolute frame leaves the touchpad as it is, and one whose report is
rejected or not read reports no event to any device. -/
theorem touchpad_shows_last_frame (core : InputCore Dev) (clickpad middleButton : Bool)
    (context : ElanRsReportContext)
    (hcore : core.Documented (driverSetup clickpad middleButton context.reportFeatures))
    (irqs : List (Irq bus reportLen)) (devices : InputDev → Dev) :
    (∀ f, Runs.lastValue (absoluteFrame context) irqs = some f →
        ShowsFrame (elanSetupInputDevice clickpad middleButton context.reportFeatures) context f
          (core.shown (afterIrqs core context devices irqs .touchpad)))
      ∧ (context.trackpoint = true →
          ∀ f, Runs.lastValue (trackpointFrame context) irqs = some f →
            ∀ k, (core.shown (afterIrqs core context devices irqs .trackpoint)).key k
              = pressed f k)
      ∧ (∀ irq ∈ irqs, absoluteFrame context irq = none →
          ∀ devices, afterIrq core context devices irq .touchpad = devices .touchpad)
      ∧ ∀ irq ∈ irqs, decoded context irq = none →
          ∀ dev event, .input dev event ∉ calls context irq := by
  constructor
  · intro f hlast
    exact showsFrame_afterIrqs hcore hlast devices
  constructor
  · intro htp f hlast k
    exact key_afterIrqs hcore htp hlast devices k
  constructor
  · intro irq _ hnone devices
    exact touchpad_afterIrq hnone devices
  · intro irq _ hnone dev event hcall
    obtain ⟨error, herror⟩ := calls_of_rejected hnone _ hcall
    cases herror

end Sequence

/-! ## A finger, another finger, and the trackpoint -/

/-- A read over I2C that delivers a report, between interrupts with nothing to remember. -/
def delivered (bytes : Vector UInt8 34) : Irq .i2c 34 where
  data := ⟨false, 0, true, 1, 0, 0, false⟩
  outside := rfl
  report := fun _ => 0
  frame := ElanRsFrame.empty
  xfer := .full bytes

/-- A read that fails with `-EIO`. -/
def failedRead : Irq .i2c 34 where
  data := ⟨false, 0, true, 1, 0, 0, false⟩
  outside := rfl
  report := fun _ => 0
  frame := ElanRsFrame.empty
  xfer := .short (-5) (by decide) fun _ => none

/-- A report with the given id, byte 3 and first record, and zeros elsewhere. -/
def shortReport (id tpInfo b0 b1 b2 b3 b4 : UInt8) : Irq .i2c 34 :=
  delivered (Vector.ofFn fun i => [0, 0, id, tpInfo, b0, b1, b2, b3, b4].getD i 0)

/-- A finger in slot 0 with the left button down, then one in slot 1, then the left button
of the trackpoint, a failed read and a report with an unknown id. -/
def changingFingers : List (Irq .i2c 34) :=
  [shortReport 0x5d 0x09 0x12 0x34 0x56 0x23 0x40, shortReport 0x5d 0x10 0x10 0x20 0x30 0x11 0x22,
    shortReport 0x5e 0x01 0 0 0 0 0, failedRead, shortReport 0x7f 0x09 0 0 0 0 0]

def mediumPad : ElanRsReportContext := ⟨⟨1000, 1000, 100, 110, 25, 1⟩, true⟩

/-- The finger in slot 1. -/
def secondFinger : ElanRsFrame where
  kind := 1
  buttons := 0
  hover := 0
  contactMask := 2
  contacts := #v[ElanRsContact.empty, ⟨1, 288, 952, 59, 1, 20, 10⟩, ElanRsContact.empty,
    ElanRsContact.empty, ElanRsContact.empty]
  relX := 0
  relY := 0
  relValid := 0

def slot0 : Fin maxContacts := ⟨0, by decide⟩
def slot1 : Fin maxContacts := ⟨1, by decide⟩

/-- Five fingers and three buttons down. -/
def allDown : Shown := ⟨slot0, fun _ => true, fun _ _ => 7, fun _ => 7, fun _ => true⟩

/-- A run in which fingers come and go. -/
theorem touchpad_shows_last_frame_changingFingers :
    let devices := afterIrqs (InputCore.plain (driverSetup false true 1)) mediumPad
      (fun _ => allDown) changingFingers
    (devices .touchpad).active slot0 = false ∧ (devices .touchpad).active slot1 = true
      ∧ (devices .touchpad).contact slot1 .mtPositionX = 288
      ∧ (devices .touchpad).key .btnLeft = false ∧ (devices .trackpoint).key .btnLeft = true := by
  intro devices
  obtain ⟨habsolute, htrackpoint, -, -⟩ := touchpad_shows_last_frame
    (InputCore.plain (driverSetup false true 1)) false true mediumPad
    (InputCore.plain_documented _) changingFingers fun _ => allDown
  have hshows := habsolute secondFinger (by decide +kernel)
  have hlifted : (devices .touchpad).active slot0 ≠ true := fun h =>
    (hshows.contact slot0).active.mp h (by decide)
  have hfinger : (secondFinger.contact slot1).active ≠ 0 := by decide
  refine ⟨Bool.eq_false_iff.mpr hlifted, (hshows.contact slot1).active.mpr hfinger,
    ((hshows.contact slot1).place hfinger).1, hshows.key .btnLeft rfl, ?_⟩
  exact htrackpoint rfl { ElanRsFrame.empty with kind := 2, buttons := 1 } (by decide +kernel)
    .btnLeft

end TouchpadState
