/-
# Input devices and the input core

The report path only emits input events; what user space then sees of a device is decided
by the kernel's input core, which is outside the repository.  Here it is a parameter: an
`InputCore` is any handling of events together with what it shows of a device, and it is
`Documented` if every event changes what is shown as the kernel documents it.  An event
that a device is not set up for is dropped, and contact events go to the slot selected last.

* `shown_deliver`: what is shown after a list of calls follows from the calls alone.
* `deliver_of_silent`: calls without an event for a device leave the device as it was.
-/
import Mathlib.Logic.Function.Basic
import ElanGuardian.ReportShim

open Prog ElanCore ReportShim

namespace InputDevice

/-! ## What is shown of a device -/

/-- The buttons and axes a device is set up for. -/
structure Capabilities where
  key : Key → Bool
  axis : AbsAxis → Bool

/-- What is shown of a device: its multitouch slots, its other axes and its buttons. -/
structure Shown where
  /-- the slot that contact events go to -/
  slot : Fin maxContacts
  active : Fin maxContacts → Bool
  contact : Fin maxContacts → AbsAxis → Int32
  axis : AbsAxis → Int32
  key : Key → Bool

/-- The axes of which every slot has its own; `ABS_TOOL_WIDTH` is none of them. -/
def perContact : AbsAxis → Bool
  | .mtPositionX | .mtPositionY | .mtPressure | .mtTouchMajor | .mtTouchMinor => true
  | .toolWidth | .distance => false

namespace Shown

/-- The documented effect of an event on a device.  Relative motion is not kept, and the
emulated pointer has axes and buttons of its own. -/
def handle (caps : Capabilities) (d : Shown) : InputEvent → Shown
  | .mtSlot slot => if h : slot < maxContacts then { d with slot := ⟨slot, h⟩ } else d
  | .mtSlotState active => { d with active := Function.update d.active d.slot active }
  | .abs axis value =>
    if caps.axis axis = false then d
    else if perContact axis then
      { d with
        contact := Function.update d.contact d.slot
          (Function.update (d.contact d.slot) axis value) }
    else { d with axis := Function.update d.axis axis value }
  | .key key pressed =>
    if caps.key key = false then d else { d with key := Function.update d.key key pressed }
  | .rel _ _ => d
  | .pointerEmulation => d
  | .sync => d

section Handle

variable {caps : Capabilities} {d : Shown}

@[simp] theorem handle_mtSlot (slot : Fin maxContacts) :
    d.handle caps (.mtSlot slot) = { d with slot := slot } := dif_pos slot.isLt

@[simp] theorem handle_mtSlotState (active : Bool) :
    d.handle caps (.mtSlotState active)
      = { d with active := Function.update d.active d.slot active } := rfl

/-- An absolute value is kept if the device has the axis, for the contact or for the device. -/
theorem handle_abs (axis : AbsAxis) (value : Int32) :
    d.handle caps (.abs axis value)
      = if caps.axis axis = false then d
        else if perContact axis then
          { d with
            contact := Function.update d.contact d.slot
              (Function.update (d.contact d.slot) axis value) }
        else { d with axis := Function.update d.axis axis value } := rfl

/-- A key is kept if the device has it. -/
@[simp] theorem key_handle_key (key other : Key) (pressed : Bool) :
    (d.handle caps (.key key pressed)).key other
      = if caps.key key = true ∧ other = key then pressed else d.key other := by
  rw [handle]
  cases h : caps.key key with
  | false => simp
  | true => simp [Function.update_apply]

/-- A key changes no contact's state. -/
@[simp] theorem active_handle_key (key : Key) (pressed : Bool) :
    (d.handle caps (.key key pressed)).active = d.active := by
  rw [handle]
  split_ifs <;> rfl

/-- And no contact's values. -/
@[simp] theorem contact_handle_key (key : Key) (pressed : Bool) :
    (d.handle caps (.key key pressed)).contact = d.contact := by
  rw [handle]
  split_ifs <;> rfl

/-- And no axis. -/
@[simp] theorem axis_handle_key (key : Key) (pressed : Bool) :
    (d.handle caps (.key key pressed)).axis = d.axis := by
  rw [handle]
  split_ifs <;> rfl

@[simp] theorem handle_rel (axis : RelAxis) (value : Int32) :
    d.handle caps (.rel axis value) = d := rfl

@[simp] theorem handle_pointerEmulation : d.handle caps .pointerEmulation = d := rfl

@[simp] theorem handle_sync : d.handle caps .sync = d := rfl

end Handle

/-- The effect of a call on the device `dev`. -/
def hear (caps : Capabilities) (dev : InputDev) (d : Shown) : Call → Shown
  | .input target event => if target = dev then d.handle caps event else d
  | .pmWakeupEvent => d
  | .rejected _ => d

end Shown

/-! ## The input core -/

/-- The call is no event of `dev`. -/
def Silent (dev : InputDev) (call : Call) : Prop := ∀ event, call ≠ .input dev event

/-- The handling of events by the kernel, on its own representation `Dev` of a device. -/
structure InputCore (Dev : Type) where
  handle : InputDev → InputEvent → Dev → Dev
  shown : Dev → Shown

namespace InputCore

variable {Dev : Type} {core : InputCore Dev} {caps : InputDev → Capabilities}

/-- Every event changes what is shown as documented. -/
def Documented (core : InputCore Dev) (caps : InputDev → Capabilities) : Prop :=
  ∀ dev event d, core.shown (core.handle dev event d) = (core.shown d).handle (caps dev) event

/-- A call of the report path reaches the input core. -/
def deliver (core : InputCore Dev) (devices : InputDev → Dev) : Call → InputDev → Dev
  | .input dev event => Function.update devices dev (core.handle dev event (devices dev))
  | .pmWakeupEvent => devices
  | .rejected _ => devices

/-- What a documented core shows follows the calls for the device. -/
theorem shown_deliver_call (hcore : core.Documented caps) (dev : InputDev)
    (devices : InputDev → Dev) (call : Call) :
    core.shown (core.deliver devices call dev)
      = (core.shown (devices dev)).hear (caps dev) dev call := by
  cases call with
  | pmWakeupEvent => rfl
  | rejected error => rfl
  | input target event =>
    rw [deliver, Shown.hear]
    by_cases h : target = dev
    · subst h
      rw [if_pos rfl, Function.update_self, hcore]
    · rw [if_neg h, Function.update_of_ne (Ne.symm h)]

/-- **The core refines what is documented.** -/
theorem shown_deliver (hcore : core.Documented caps) (dev : InputDev) (calls : List Call)
    (devices : InputDev → Dev) :
    core.shown (calls.foldl core.deliver devices dev)
      = calls.foldl (Shown.hear (caps dev) dev) (core.shown (devices dev)) := by
  induction calls generalizing devices with
  | nil => rfl
  | cons call calls ih =>
    rw [List.foldl_cons, List.foldl_cons, ih, shown_deliver_call hcore]

/-- Calls for other devices change nothing. -/
theorem deliver_of_silent {dev : InputDev} (calls : List Call)
    (h : ∀ call ∈ calls, Silent dev call) (devices : InputDev → Dev) :
    calls.foldl core.deliver devices dev = devices dev := by
  induction calls generalizing devices with
  | nil => rfl
  | cons call calls ih =>
    have hcall : core.deliver devices call dev = devices dev := by
      cases call with
      | pmWakeupEvent => rfl
      | rejected error => rfl
      | input target event =>
        have hne : dev ≠ target := by
          rintro rfl
          exact h _ List.mem_cons_self event rfl
        exact Function.update_of_ne hne _ _
    rw [List.foldl_cons, ih fun call hmem => h call (List.mem_cons_of_mem _ hmem), hcall]

/-- The input core that keeps what it shows and nothing else. -/
def plain (caps : InputDev → Capabilities) : InputCore Shown where
  handle dev event d := d.handle (caps dev) event
  shown := id

/-- A core that just follows the documentation exists. -/
theorem plain_documented (caps : InputDev → Capabilities) : (plain caps).Documented caps :=
  fun _ _ _ => rfl

end InputCore

/-! ## What a program shows -/

section Programs

variable {σ α β : Type} {caps : Capabilities} {dev : InputDev}

/-- What is shown of a device after the calls of a program. -/
def shownAfter (caps : Capabilities) (dev : InputDev) (x : Prog σ Call α) (s : σ) (d : Shown) :
    Shown :=
  (x.run s).trace.foldl (Shown.hear caps dev) d

@[simp] theorem shownAfter_pure (a : α) (s : σ) (d : Shown) :
    shownAfter caps dev (pure a) s d = d := rfl

@[simp] theorem shownAfter_wakeup (s : σ) (d : Shown) :
    shownAfter caps dev (emit .pmWakeupEvent) s d = d := rfl

/-- One event. -/
@[simp] theorem shownAfter_inputReport (event : InputEvent) (s : σ) (d : Shown) :
    shownAfter caps dev (inputReport dev event) s d = d.handle caps event := by
  show (if dev = dev then d.handle caps event else d) = d.handle caps event
  rw [if_pos rfl]

@[simp] theorem state_inputReport (dev : InputDev) (event : InputEvent) (s : σ) :
    ((inputReport dev event).run s).state = s := rfl

/-- A sequence shows what its programs do, one after the other. -/
@[simp] theorem shownAfter_bind (x : Prog σ Call α) (f : α → Prog σ Call β) (s : σ) (d : Shown) :
    shownAfter caps dev (x >>= f) s d
      = shownAfter caps dev (f (x.run s).value) (x.run s).state (shownAfter caps dev x s d) := by
  rw [shownAfter, trace_bind, List.foldl_append]
  rfl

end Programs

/-! ## How the driver sets its devices up -/

/-- The capabilities that `elan_setup_input_device` gives the touchpad. -/
def elanSetupInputDevice (clickpad middleButton : Bool) (reportFeatures : UInt32) :
    Capabilities where
  key
    | .btnLeft => true
    | .btnRight => !clickpad
    | .btnMiddle => !clickpad && middleButton
  axis
    | .mtPositionX | .mtPositionY | .mtPressure | .distance => true
    | .toolWidth | .mtTouchMajor | .mtTouchMinor => reportFeatures &&& featureReportMk ≠ 0

/-- The capabilities that `elan_setup_trackpoint_input_device` gives the trackpoint. -/
def elanSetupTrackpointInputDevice : Capabilities where
  key _ := true
  axis _ := false

/-- The capabilities of the two devices of a driver. -/
def driverSetup (clickpad middleButton : Bool) (reportFeatures : UInt32) :
    InputDev → Capabilities
  | .touchpad => elanSetupInputDevice clickpad middleButton reportFeatures
  | .trackpoint => elanSetupTrackpointInputDevice

end InputDevice
