/-
# The release of the inputs

`elan_release_inputs` of the driver reports that nothing touches the touchpad any more and
that no button is down.  What the events of a release have to say is stated without the
code (`Releases`): whatever has been shown of a device before, after them none of its slots
is active and none of its buttons is down, and user space has been told so.
`releaseEffects_releases` proves it of the events that the driver reports.
-/
import ElanGuardian.DriverOps
import ElanGuardian.InputDevice

open ElanCore ReportShim InputDevice

namespace Driver

/-! ## What a release is -/

/-- The event that an effect of the driver is on the device `dev`. -/
def Effect.eventOn (dev : InputDev) : Effect → Option InputEvent
  | .input target event => if target = dev then some event else none
  | _ => none

/-- The events on the device `dev`. -/
def eventsOn (dev : InputDev) (effects : List Effect) : List InputEvent :=
  effects.filterMap (Effect.eventOn dev)

/-- The driver has registered the device. -/
def HasDevice (data : Drv) : InputDev → Prop
  | .touchpad => True
  | .trackpoint => data.tpInput = true

/-- The effects are input events and no others; on any device, with any capabilities and
whatever was shown of it, they leave every slot of the touchpad inactive and every button up
that the device has, and they end with a sync. -/
structure Releases (data : Drv) (effects : List Effect) : Prop where
  inputs : ∀ e ∈ effects, ∃ dev event, e = .input dev event
  slots : ∀ (caps : Capabilities) (d : Shown) (slot : Fin maxContacts),
    ((eventsOn .touchpad effects).foldl (Shown.handle caps) d).active slot = false
  buttons : ∀ dev, HasDevice data dev → ∀ (caps : Capabilities) (d : Shown) (k : Key),
    caps.key k = true → ((eventsOn dev effects).foldl (Shown.handle caps) d).key k = false
  synced : ∀ dev, HasDevice data dev → (eventsOn dev effects).getLast? = some .sync

/-! ## What the events do to a device -/

section Handle

variable {caps : Capabilities} {d : Shown}

/-- The slot loop of `elan_release_inputs`. -/
def liftSlots (slots : List ℕ) : List InputEvent :=
  slots.flatMap fun slot => [.mtSlot slot, .mtSlotState false]

theorem releaseTouchpad_eq :
    releaseTouchpad
      = liftSlots (List.range maxContacts) ++ releaseButtons ++ [.pointerEmulation, .sync] := rfl

/-- One slot is lifted, and then the others. -/
theorem foldl_liftSlots_cons {next : ℕ} (hnext : next < maxContacts) (slots : List ℕ) (d : Shown) :
    (liftSlots (next :: slots)).foldl (Shown.handle caps) d
      = (liftSlots slots).foldl (Shown.handle caps)
          { d with
            slot := ⟨next, hnext⟩
            active := Function.update d.active ⟨next, hnext⟩ false } := by
  have hslot : d.handle caps (.mtSlot next) = { d with slot := ⟨next, hnext⟩ } := dif_pos hnext
  show (liftSlots slots).foldl _ ((d.handle caps (.mtSlot next)).handle caps (.mtSlotState false))
    = _
  rw [hslot, Shown.handle_mtSlotState]

/-- The slots of the loop are lifted, the others are left alone. -/
theorem active_liftSlots (slots : List ℕ) (hslots : ∀ slot ∈ slots, slot < maxContacts)
    (d : Shown) (slot : Fin maxContacts) :
    ((liftSlots slots).foldl (Shown.handle caps) d).active slot
      = if slot.val ∈ slots then false else d.active slot := by
  induction slots generalizing d with
  | nil => rfl
  | cons next slots ih =>
    rw [foldl_liftSlots_cons (hslots next List.mem_cons_self),
      ih fun slot hslot => hslots slot (List.mem_cons_of_mem _ hslot)]
    by_cases h : slot.val = next
    · -- lifted here; a slot that comes again stays lifted
      have hslot : slot = ⟨next, hslots next List.mem_cons_self⟩ := Fin.ext h
      simp [hslot]
    · have hslot : slot ≠ ⟨next, hslots next List.mem_cons_self⟩ := fun hslot => h (by rw [hslot])
      simp [h, Function.update_of_ne hslot]

/-- Lifting slots moves no button and no axis. -/
theorem key_axis_liftSlots (caps : Capabilities) (slots : List ℕ)
    (hslots : ∀ slot ∈ slots, slot < maxContacts) (d : Shown) :
    ((liftSlots slots).foldl (Shown.handle caps) d).key = d.key
      ∧ ((liftSlots slots).foldl (Shown.handle caps) d).axis = d.axis := by
  induction slots generalizing d with
  | nil => exact ⟨rfl, rfl⟩
  | cons next slots ih =>
    rw [foldl_liftSlots_cons (hslots next List.mem_cons_self)]
    exact ih (fun slot hslot => hslots slot (List.mem_cons_of_mem _ hslot)) _

/-- After the release of the buttons those that a device has are up. -/
theorem key_handle_releaseButtons (d : Shown) (k : Key) :
    (releaseButtons.foldl (Shown.handle caps) d).key k
      = if caps.key k = true then false else d.key k := by
  simp only [releaseButtons, List.foldl_cons, List.foldl_nil, Shown.key_handle_key]
  cases k <;> simp

/-- Releasing the buttons changes no contact. -/
theorem active_handle_releaseButtons (d : Shown) :
    (releaseButtons.foldl (Shown.handle caps) d).active = d.active := by
  simp only [releaseButtons, List.foldl_cons, List.foldl_nil, Shown.active_handle_key]

/-- And no axis. -/
theorem axis_handle_releaseButtons (d : Shown) :
    (releaseButtons.foldl (Shown.handle caps) d).axis = d.axis := by
  simp only [releaseButtons, List.foldl_cons, List.foldl_nil, Shown.axis_handle_key]

/-- The touchpad after the release: nothing touches, no button is down, and the axes are what
they were. -/
theorem handle_releaseTouchpad (caps : Capabilities) (d : Shown) :
    (∀ slot, (releaseTouchpad.foldl (Shown.handle caps) d).active slot = false)
      ∧ (∀ k, (releaseTouchpad.foldl (Shown.handle caps) d).key k
          = if caps.key k = true then false else d.key k)
      ∧ (releaseTouchpad.foldl (Shown.handle caps) d).axis = d.axis := by
  have hrange : ∀ slot ∈ List.range maxContacts, slot < maxContacts :=
    fun slot hslot => List.mem_range.mp hslot
  have hreleased : releaseTouchpad.foldl (Shown.handle caps) d
      = releaseButtons.foldl (Shown.handle caps)
          ((liftSlots (List.range maxContacts)).foldl (Shown.handle caps) d) := by
    rw [releaseTouchpad_eq, List.foldl_append, List.foldl_append]
    rfl
  obtain ⟨hkey, haxis⟩ := key_axis_liftSlots caps _ hrange d
  rw [hreleased]
  refine ⟨fun slot => ?_, fun k => ?_, ?_⟩
  · rw [active_handle_releaseButtons, active_liftSlots _ hrange,
      if_pos (List.mem_range.mpr slot.isLt)]
  · rw [key_handle_releaseButtons, hkey]
  · rw [axis_handle_releaseButtons, haxis]

/-- The buttons of the trackpoint are released, and a sync follows. -/
theorem key_handle_releaseTrackpoint (d : Shown) (k : Key) :
    ((releaseButtons ++ [InputEvent.sync]).foldl (Shown.handle caps) d).key k
      = if caps.key k = true then false else d.key k := by
  rw [List.foldl_append, List.foldl_cons, Shown.handle_sync, List.foldl_nil,
    key_handle_releaseButtons]

end Handle

/-! ## The release of the driver -/

/-- The events of `elan_release_inputs`. -/
def releaseEffects (data : Drv) : List Effect :=
  releaseTouchpad.map (Effect.input .touchpad)
    ++ if data.tpInput then
        (releaseButtons ++ [InputEvent.sync]).map (Effect.input .trackpoint)
      else []

/-- The events on a device are those that were meant for it. -/
theorem eventsOn_map (dev target : InputDev) (events : List InputEvent) :
    eventsOn dev (events.map (Effect.input target)) = if target = dev then events else [] := by
  rw [eventsOn, List.filterMap_map]
  by_cases h : target = dev
  · have hevent : Effect.eventOn dev ∘ Effect.input target = some := funext fun _ => if_pos h
    rw [if_pos h, hevent, List.filterMap_some]
  · have hevent : Effect.eventOn dev ∘ Effect.input target = fun _ => none :=
      funext fun _ => if_neg h
    rw [if_neg h, hevent, List.filterMap_none]

/-- The events on a device, part by part. -/
theorem eventsOn_append (dev : InputDev) (effects later : List Effect) :
    eventsOn dev (effects ++ later) = eventsOn dev effects ++ eventsOn dev later :=
  List.filterMap_append

/-- The release of the touchpad goes to the touchpad. -/
theorem eventsOn_touchpad (data : Drv) :
    eventsOn .touchpad (releaseEffects data) = releaseTouchpad := by
  rw [releaseEffects, eventsOn_append, eventsOn_map, if_pos rfl]
  split_ifs
  · rw [eventsOn_map, if_neg (by decide), List.append_nil]
  · exact List.append_nil _

/-- And that of the trackpoint to the trackpoint, where there is one. -/
theorem eventsOn_trackpoint {data : Drv} (h : data.tpInput = true) :
    eventsOn .trackpoint (releaseEffects data) = releaseButtons ++ [.sync] := by
  rw [releaseEffects, eventsOn_append, eventsOn_map, if_neg (by decide), if_pos h, eventsOn_map,
    if_pos rfl, List.nil_append]

/-- **The events of `elan_release_inputs` release the inputs.** -/
theorem releaseEffects_releases (data : Drv) : Releases data (releaseEffects data) where
  inputs := by
    intro e he
    rw [releaseEffects, List.mem_append] at he
    rcases he with he | he
    · obtain ⟨event, -, rfl⟩ := List.mem_map.mp he
      exact ⟨_, _, rfl⟩
    · split_ifs at he
      · obtain ⟨event, -, rfl⟩ := List.mem_map.mp he
        exact ⟨_, _, rfl⟩
      · exact absurd he List.not_mem_nil
  slots := by
    intro caps d slot
    rw [eventsOn_touchpad]
    exact (handle_releaseTouchpad caps d).1 slot
  buttons := by
    intro dev hdev caps d k hk
    cases dev with
    | touchpad => rw [eventsOn_touchpad, (handle_releaseTouchpad caps d).2.1, if_pos hk]
    | trackpoint => rw [eventsOn_trackpoint hdev, key_handle_releaseTrackpoint, if_pos hk]
  synced := by
    intro dev hdev
    cases dev with
    | touchpad =>
      rw [eventsOn_touchpad]
      rfl
    | trackpoint =>
      rw [eventsOn_trackpoint hdev]
      rfl

end Driver
