/-
# From frames to input events

The C side of the report path: `kernel/rust-shim/elan_rs_shim.c`, which decodes a
report with the Rust core and hands the frame to the input layer.  Input-layer
functions are effects.  `input_report_key` normalises its value to a Boolean and
`input_report_abs` takes an `int`, and so do the effects.
-/
import ElanGuardian.ElanCore

open Prog ElanCore

namespace ReportShim

/-! ## The input layer -/

inductive InputDev where
  | touchpad
  | trackpoint
  deriving DecidableEq, Repr

inductive Key where
  | btnLeft
  | btnMiddle
  | btnRight
  deriving DecidableEq, Repr

inductive AbsAxis where
  | mtPositionX
  | mtPositionY
  | mtPressure
  | toolWidth
  | mtTouchMajor
  | mtTouchMinor
  | distance
  deriving DecidableEq, Repr

inductive RelAxis where
  | x
  | y
  deriving DecidableEq, Repr

inductive InputEvent where
  /-- `input_mt_slot` -/
  | mtSlot (slot : ℕ)
  /-- `input_mt_report_slot_state(.., MT_TOOL_FINGER, true)`, or `.._inactive` -/
  | mtSlotState (active : Bool)
  | abs (axis : AbsAxis) (value : Int32)
  | key (key : Key) (pressed : Bool)
  | rel (axis : RelAxis) (value : Int32)
  /-- `input_mt_report_pointer_emulation(.., true)` -/
  | pointerEmulation
  | sync
  deriving DecidableEq, Repr

/-- What the report path calls in the kernel. -/
inductive Call where
  | pmWakeupEvent
  | input (dev : InputDev) (event : InputEvent)
  /-- `dev_err_ratelimited`: the decoder rejected a packet -/
  | rejected (error : ℤ)
  deriving DecidableEq, Repr

variable {σ : Type}

def inputReport (dev : InputDev) (event : InputEvent) : Prog σ Call Unit := emit (.input dev event)

/-! ## `elan_rs_shim.c` -/

/-- `-ENODEV`. -/
def enodev : ℤ := -19

/-- `struct elan_rs_report_context`; the decoder's arguments, and whether there is a
trackpoint device. -/
structure ElanRsReportContext extends DecodeParams where
  trackpoint : Bool
  deriving DecidableEq, Repr

/-- `frame->buttons & BIT(n)`, as a truth value. -/
def bit (word : UInt32) (n : UInt32) : Bool := word &&& (1 <<< n) ≠ 0

/-- The body of the slot loop of `elan_rs_emit_absolute`. -/
def elanRsEmitContact (context : ElanRsReportContext) (slot : Fin maxContacts)
    (contact : ElanRsContact) : Prog σ Call Unit := do
  inputReport .touchpad (.mtSlot slot)
  if contact.active = 0 then inputReport .touchpad (.mtSlotState false)
  else do
    inputReport .touchpad (.mtSlotState true)
    inputReport .touchpad (.abs .mtPositionX contact.x.toInt32)
    inputReport .touchpad (.abs .mtPositionY contact.y.toInt32)
    inputReport .touchpad (.abs .mtPressure contact.pressure.toInt32)
    if context.reportFeatures ≠ 0 then do
      inputReport .touchpad (.abs .toolWidth contact.toolWidth.toInt32)
      inputReport .touchpad (.abs .mtTouchMajor contact.touchMajor.toInt32)
      inputReport .touchpad (.abs .mtTouchMinor contact.touchMinor.toInt32)
    else pure ()

/-- The loop `for (slot = 0; slot < ELAN_RS_MAX_CONTACTS; slot++)`. -/
def elanRsEmitContacts (context : ElanRsReportContext) (frame : ElanRsFrame) :
    List (Fin maxContacts) → Prog σ Call Unit
  | [] => pure ()
  | slot :: slots => do
    elanRsEmitContact context slot (frame.contact slot)
    elanRsEmitContacts context frame slots

def elanRsEmitAbsolute (context : ElanRsReportContext) (frame : ElanRsFrame) :
    Prog σ Call Unit := do
  emit .pmWakeupEvent
  elanRsEmitContacts context frame (List.finRange maxContacts)
  inputReport .touchpad (.key .btnLeft (bit frame.buttons 0))
  inputReport .touchpad (.key .btnMiddle (bit frame.buttons 2))
  inputReport .touchpad (.key .btnRight (bit frame.buttons 1))
  inputReport .touchpad (.abs .distance (if frame.hover ≠ 0 then 1 else 0))
  inputReport .touchpad .pointerEmulation
  inputReport .touchpad .sync

def elanRsEmitTrackpoint (context : ElanRsReportContext) (frame : ElanRsFrame) :
    Prog σ Call ℤ :=
  if context.trackpoint = false then pure enodev
  else do
    emit .pmWakeupEvent
    inputReport .trackpoint (.key .btnLeft (bit frame.buttons 0))
    inputReport .trackpoint (.key .btnRight (bit frame.buttons 1))
    inputReport .trackpoint (.key .btnMiddle (bit frame.buttons 2))
    (if frame.relValid ≠ 0 then do
      inputReport .trackpoint (.rel .x frame.relX)
      inputReport .trackpoint (.rel .y frame.relY)
    else pure ())
    inputReport .trackpoint .sync
    pure 0

/-- `elan_rs_emit_report`; `frame` is the content of its uninitialised local. -/
def elanRsEmitReport (context : ElanRsReportContext) (report : Mem) (reportLen : ℕ)
    (frame : ElanRsFrame) : Prog σ Call ℤ :=
  let decoded := (decodeReport report reportLen context.toDecodeParams).run frame
  if decoded.value ≠ 0 then pure decoded.value
  else if decoded.state.kind = frameAbsolute then do
    elanRsEmitAbsolute context decoded.state
    pure 0
  else if decoded.state.kind = frameTrackpoint then
    elanRsEmitTrackpoint context decoded.state
  else pure eproto

/-! ## What the emitting functions call -/

/-- The call reports to `dev`, or keeps the machine awake. -/
def Call.To (dev : InputDev) : Call → Prop
  | .pmWakeupEvent => True
  | .input target _ => target = dev
  | .rejected _ => False

section Calls

variable {I : σ → Prop} {context : ElanRsReportContext} {frame : ElanRsFrame}

/-- A reported event goes to its device. -/
theorem inputReport_to (dev : InputDev) (event : InputEvent) :
    Triple I (inputReport dev event) (fun _ => I) (Call.To dev) :=
  Triple.emit_same rfl

/-- A wakeup event may come with either. -/
theorem wakeup_to (dev : InputDev) :
    Triple I (emit .pmWakeupEvent) (fun _ => I) (Call.To dev) :=
  Triple.emit_same trivial

/-- A contact goes to the touchpad. -/
theorem elanRsEmitContact_to (slot : Fin maxContacts) (contact : ElanRsContact) :
    Triple I (elanRsEmitContact context slot contact) (fun _ => I) (Call.To .touchpad) := by
  refine Triple.bind (inputReport_to _ _) fun _ => Triple.ite
    (fun _ => inputReport_to _ _) fun _ => ?_
  refine Triple.bind (inputReport_to _ _) fun _ => ?_
  refine Triple.bind (inputReport_to _ _) fun _ => ?_
  refine Triple.bind (inputReport_to _ _) fun _ => ?_
  refine Triple.bind (inputReport_to _ _) fun _ => ?_
  refine Triple.ite (fun _ => ?_) fun _ => Triple.pure fun _ hs => hs
  refine Triple.bind (inputReport_to _ _) fun _ => ?_
  exact Triple.bind (inputReport_to _ _) fun _ => inputReport_to _ _

/-- And so do all contacts. -/
theorem elanRsEmitContacts_to (slots : List (Fin maxContacts)) :
    Triple I (elanRsEmitContacts context frame slots) (fun _ => I) (Call.To .touchpad) := by
  induction slots with
  | nil => exact Triple.pure fun _ hs => hs
  | cons slot slots ih => exact Triple.bind (elanRsEmitContact_to _ _) fun _ => ih

/-- An absolute frame concerns the touchpad and no state. -/
theorem elanRsEmitAbsolute_to :
    Triple I (elanRsEmitAbsolute context frame) (fun _ => I) (Call.To .touchpad) := by
  refine Triple.bind (wakeup_to _) fun _ => ?_
  refine Triple.bind (elanRsEmitContacts_to _) fun _ => ?_
  refine Triple.bind (inputReport_to _ _) fun _ => ?_
  refine Triple.bind (inputReport_to _ _) fun _ => ?_
  refine Triple.bind (inputReport_to _ _) fun _ => ?_
  refine Triple.bind (inputReport_to _ _) fun _ => ?_
  exact Triple.bind (inputReport_to _ _) fun _ => inputReport_to _ _

/-- A trackpoint frame concerns the trackpoint and no state. -/
theorem elanRsEmitTrackpoint_to :
    Triple I (elanRsEmitTrackpoint context frame) (fun _ => I) (Call.To .trackpoint) := by
  refine Triple.ite (fun _ => Triple.pure fun _ hs => hs) fun _ => ?_
  refine Triple.bind (wakeup_to _) fun _ => ?_
  refine Triple.bind (inputReport_to _ _) fun _ => ?_
  refine Triple.bind (inputReport_to _ _) fun _ => ?_
  refine Triple.bind (inputReport_to _ _) fun _ => ?_
  have hmotion : Triple I (if frame.relValid ≠ 0 then do
      inputReport .trackpoint (.rel .x frame.relX)
      inputReport .trackpoint (.rel .y frame.relY) else pure () : Prog σ Call Unit)
      (fun _ => I) (Call.To .trackpoint) :=
    Triple.ite (fun _ => Triple.bind (inputReport_to _ _) fun _ => inputReport_to _ _)
      fun _ => Triple.pure fun _ hs => hs
  refine Triple.bind hmotion fun _ => ?_
  exact Triple.bind (inputReport_to _ _) fun _ => Triple.pure fun _ hs => hs

end Calls

end ReportShim
