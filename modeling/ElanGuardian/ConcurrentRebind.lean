/-
# Concurrent rebinds of one controller

The watch monitor, the resume unit and the unit that udev starts may all call
`rebind_controller` for one device at a time.  Here the calls are a pool of programs over
the binding of that device, interleaved call by call; the answers about time, input nodes
and everything else are arbitrary.

A call that has unbound the device, or has found it unbound, returns only after it has
seen the device bound or bound it itself, so when the last call has returned the device is
bound.
-/
import ElanGuardian.Pool
import ElanGuardian.Recover

open Dialogue Sysfs Recover

namespace ConcurrentRebind

/-- What device `id` is bound to.  An unbind succeeds when the device is bound to `elan_i2c`, a
bind when it is bound to nothing, and nobody else changes it.  Where the directory of the driver
`resolves`, its path is always found. -/
def bindingWorld (id : String) (resolves : Bool) : World Binding Sys := fun b c a b' =>
  match c, a with
  | .canonicalize .driver, r => (resolves = true → ∃ path, r = .ok path) ∧ b' = b
  | .pathExists (.deviceDriver device), found =>
    (device = id → (found = true ↔ b ≠ .unbound)) ∧ b' = b
  | .write .unbind text, r =>
    if text = id ++ "\n" then (r = .ok () ↔ b = .elan) ∧ b' = (if b = .elan then .unbound else b)
    else b' = b
  | .write .bind text, r =>
    if text = id ++ "\n" then (r = .ok () ↔ b = .unbound) ∧ b' = (if b = .unbound then .elan else b)
    else b' = b
  | _, _ => b' = b

/-- The device has a driver. -/
def Driven (b : Binding) : Prop := b ≠ .unbound

section Rebind

variable {id : String} {resolves : Bool}

/-- The calls that write to no control file change no binding. -/
theorem bindingWorld_passive {b b' : Binding} {c : Call} {a : c.Answer} (hc : c.Passive)
    (hw : bindingWorld id resolves b c a b') : b' = b := by
  cases c with
  | write f text => exact hc.elim
  | command program args => exact hc.elim
  | pathExists f =>
    cases f with
    | deviceDriver device => exact hw.2
    | _ => exact hw
  | canonicalize f =>
    cases f with
    | driver => exact hw.2
    | _ => exact hw
  | _ => exact hw

/-- The answer to an unbind of the device. -/
theorem unbind_answer {b b' : Binding} {r : IoResult Unit}
    (hw : bindingWorld id resolves b (.write .unbind (id ++ "\n")) r b') :
    (r = .ok () ↔ b = .elan) ∧ b' = if b = .elan then .unbound else b := by
  simpa only [bindingWorld, if_true] using hw

/-- The answer to a bind of the device. -/
theorem bind_answer {b b' : Binding} {r : IoResult Unit}
    (hw : bindingWorld id resolves b (.write .bind (id ++ "\n")) r b') :
    (r = .ok () ↔ b = .unbound) ∧ b' = if b = .unbound then .elan else b := by
  simpa only [bindingWorld, if_true] using hw

/-- After a bind, successful or not, the device has a driver. -/
theorem driven_of_bind {b b' : Binding} {r : IoResult Unit}
    (hw : bindingWorld id resolves b (.write .bind (id ++ "\n")) r b') : Driven b' := by
  rw [(bind_answer hw).2]
  by_cases hb : b = .unbound
  · rw [if_pos hb]
    exact nofun
  · rw [if_neg hb]
    exact hb

/-- Only an unbind that succeeds takes the driver away. -/
theorem unbind_ok_of_not_driven {b b' : Binding} {r : IoResult Unit}
    (hw : bindingWorld id resolves b (.write .unbind (id ++ "\n")) r b') (hb : Driven b)
    (hb' : ¬ Driven b') : r = .ok () := by
  obtain ⟨hr, hafter⟩ := unbind_answer hw
  refine hr.mpr (by_contra fun helan => hb' ?_)
  rw [hafter, if_neg helan]
  exact hb

/-- No call binds the device to another driver. -/
theorem bindingWorld_ne_other {b b' : Binding} {c : Call} {a : c.Answer} (hb : b ≠ .other)
    (hw : bindingWorld id resolves b c a b') : b' ≠ .other := by
  by_cases hc : c.Passive
  · rwa [bindingWorld_passive hc hw]
  cases c with
  | write f text =>
    by_cases htext : text = id ++ "\n"
    · subst htext
      cases f with
      | unbind =>
        rw [(unbind_answer hw).2]
        split_ifs
        · exact nofun
        · exact hb
      | bind =>
        rw [(bind_answer hw).2]
        split_ifs
        · exact nofun
        · exact hb
      | _ => exact (show b' = b from hw) ▸ hb
    · cases f with
      | unbind | bind =>
        simp only [bindingWorld, if_neg htext] at hw
        rwa [hw]
      | _ => exact (show b' = b from hw) ▸ hb
  | command program args => exact (show b' = b from hw) ▸ hb
  | _ => exact absurd trivial hc

/-- The calls that write to no control file break nothing. -/
theorem passive_responsible {α : Type} {p : Program α} {Q : α → Prop}
    (hp : Asks Call.Passive p) : Responsible (bindingWorld id resolves) Driven Q p :=
  Responsible.of_asks hp fun s c a s' hc hw hs => by rwa [bindingWorld_passive hc hw]

/-- A device without a driver is found to be without one. -/
theorem not_found_of_not_driven {b b' : Binding} {found : Bool} (hbad : ¬ Driven b)
    (hw : bindingWorld id resolves b (.pathExists (.deviceDriver id)) found b') :
    found = false := by
  cases found with
  | false => rfl
  | true => exact absurd ((hw.1 rfl).mp rfl) hbad

/-- A device that has no driver is seen to have none. -/
theorem hasNoDriver_repairs :
    Repairs (bindingWorld id resolves) Driven (fun none => none = true) (hasNoDriver id) := by
  intro s found s' hbad hw
  right
  rw [not_found_of_not_driven hbad hw]
  rfl

/-- However long it polls, the wait for the driver to go ends well while it is gone. -/
theorem waitUntil_repairs {predicate : Program Bool}
    (h : Repairs (bindingWorld id resolves) Driven (fun holds => holds = true) predicate)
    (timeout : ℕ) (message : String) :
    Repairs (bindingWorld id resolves) Driven (fun r => ∃ a, r = .ok a)
      (waitUntil timeout predicate message) := by
  have hlook : Repairs (bindingWorld id resolves) Driven (fun r => ∃ a, r = .ok a)
      (lastLook predicate message) := by
    refine h.bind ?_
    rintro _ rfl
    exact ⟨(), rfl⟩
  refine Repairs.call_bind fun start => ?_
  generalize timeout / millis 20 = rounds
  induction rounds with
  | zero => exact hlook
  | succ rounds ih =>
    refine Repairs.call_bind fun now => ?_
    split_ifs
    · refine h.bind ?_
      rintro _ rfl
      exact ⟨(), rfl⟩
    · exact hlook

/-- The first attempt to bind an unbound device succeeds. -/
theorem bindAndAwait_repairs (canonicalDriver : String) :
    Repairs (bindingWorld id resolves) Driven (fun _ => False)
      (bindAndAwait id canonicalDriver) := by
  refine Repairs.call_bind fun _ => ?_
  intro s r s' _ hw
  left
  exact driven_of_bind hw

/-- From the wait for the unbind on, a call does not return while the device is unbound. -/
theorem afterUnbind_repairs (canonicalDriver : String) :
    Repairs (bindingWorld id resolves) Driven (fun _ => False)
      ((waitUntil (secs 1) (hasNoDriver id) timedOutMessage).orReturn fun _ => do
        call (I := Sys) (.sleep (millis 100))
        bindAndAwait id canonicalDriver) := by
  refine (waitUntil_repairs hasNoDriver_repairs _ _).orReturn fun _ => ?_
  exact Repairs.call_bind fun _ => bindAndAwait_repairs canonicalDriver

/-- A call that starts while the device is unbound binds it, unless another one does. -/
theorem rebindController_repairs (hvalid : validI2cId id = true) :
    Repairs (bindingWorld id true) Driven (fun _ => False) (rebindController id) := by
  unfold rebindController
  rw [if_pos hvalid]
  intro s r s' _ hw
  right
  obtain ⟨path, rfl⟩ := hw.1 rfl
  refine Repairs.orReturn ?_ fun _ => afterUnbind_repairs path
  intro s found s' hbad hw
  right
  rw [not_found_of_not_driven hbad hw]
  exact ⟨(), rfl⟩

/-- Binding never unbinds. -/
theorem bindAndAwait_responsible (canonicalDriver : String) :
    Responsible (bindingWorld id resolves) Driven (fun _ => False)
      (bindAndAwait id canonicalDriver) := by
  refine Responsible.of_asks (P := fun c => c.Passive ∨ c = .write .bind (id ++ "\n"))
    (bindAndAwait_asks (fun c hc => .inl hc) (.inr rfl) canonicalDriver) ?_
  rintro s c a s' (hc | rfl) hw hs
  · rwa [bindingWorld_passive hc hw]
  · exact driven_of_bind hw

/-- The unbind is the one call that takes the driver away, and it is reported as done. -/
theorem unbindIfBound_responsible :
    Responsible (bindingWorld id resolves) Driven (fun r => ∃ a, r = .ok a) (unbindIfBound id) := by
  intro s found s' hw
  refine ⟨?_, fun hs hs' => absurd (hw.2 ▸ hs) hs'⟩
  cases found with
  | false => exact trivial
  | true =>
    intro t r t' hw
    exact ⟨trivial, fun ht ht' => ⟨(), unbind_ok_of_not_driven hw ht ht'⟩⟩

/-- A call of `rebind_controller` that unbinds the device sees to its binding. -/
theorem rebindController_responsible :
    Responsible (bindingWorld id resolves) Driven (fun _ => False) (rebindController id) := by
  unfold rebindController
  split_ifs
  · intro s r s' hw
    refine ⟨?_, fun hs hs' => absurd (hw.2 ▸ hs) hs'⟩
    cases r with
    | error e => exact trivial
    | ok path =>
      refine unbindIfBound_responsible.orReturn (fun _ => afterUnbind_repairs path) fun _ => ?_
      refine Responsible.orReturn (passive_responsible ?_) ?_ fun _ => ?_
      · exact waitUntil_asks (hasNoDriver_asks fun c hc => hc) trivial trivial _ _
      · exact fun _ => Repairs.call_bind fun _ => bindAndAwait_repairs path
      · refine Responsible.bind (Q := fun _ => False) (passive_responsible (asks_call trivial))
          (fun _ h => h.elim) fun _ => bindAndAwait_responsible path
  · exact trivial

end Rebind

/-- **Concurrent rebinds never lose the controller.**  However the accesses of `n` calls of
`rebind_controller` interleave and whatever their waits see, the device is bound to `elan_i2c`
once all of them have returned, unless another driver has it.  A device that starts unbound needs
a call that gets as far as looking at it. -/
theorem rebinds_leave_bound {id : String} {resolves : Bool} {n : ℕ} {b₀ b : Binding}
    {pool : Fin n → Program (IoResult RecoveredController)}
    (hstart : b₀ = .elan ∨ b₀ = .unbound ∧ 0 < n ∧ validI2cId id = true ∧ resolves = true)
    (h : PoolReaches (bindingWorld id resolves) (fun _ => rebindController id) b₀ pool b)
    (hdone : ∀ i, ∃ r, pool i = .done r) : b = .elan := by
  have hother : b ≠ .other := by
    refine h.invariant ?_ fun _ _ _ _ hb hw => bindingWorld_ne_other hb hw
    rcases hstart with rfl | ⟨rfl, -⟩ <;> exact nofun
  have hdriven : Driven b := by
    refine h.good_of_done ?_ (fun _ => rebindController_responsible) hdone
    rcases hstart with rfl | ⟨-, hn, hvalid, rfl⟩
    · exact .inl nofun
    · exact .inr ⟨⟨0, hn⟩, rebindController_repairs hvalid⟩
  cases b with
  | unbound => exact absurd rfl hdriven
  | elan => rfl
  | other => exact absurd rfl hother

/-- Rebinds of device `id` that start from `b₀` may all return and leave it without `elan_i2c`. -/
def MayEndWithoutElan (id : String) (b₀ : Binding) : Prop :=
  ¬ ∀ (n : ℕ) (b : Binding) (pool : Fin n → Program (IoResult RecoveredController)),
    PoolReaches (bindingWorld id true) (fun _ => rebindController id) b₀ pool b →
      (∀ i, ∃ r, pool i = .done r) → b = .elan

/-- An id of another form is refused before anything is touched, and an unbound device stays
unbound; and the driver cannot unbind a device of another one. -/
theorem rebind_of_other_id :
    MayEndWithoutElan "i2c-ELAN0676:00" .unbound ∧ MayEndWithoutElan "7-0015" .other := by
  constructor
  · intro h
    have hinvalid : ¬ validI2cId "i2c-ELAN0676:00" = true := by decide
    have hcall := (if_neg hinvalid : rebindController "i2c-ELAN0676:00" = _)
    exact absurd (h 1 .unbound _ .start fun _ => ⟨_, hcall⟩) nofun
  · intro hall
    have hvalid : validI2cId "7-0015" = true := by decide
    have hcall := (if_pos hvalid : rebindController "7-0015" = _)
    have h : PoolReaches (bindingWorld "7-0015" true) (fun _ : Fin 1 => rebindController "7-0015")
        .other _ .other := .start
    have h := h.answer (i := 0) (a := Except.ok "elan_i2c") hcall ⟨fun _ => ⟨_, rfl⟩, rfl⟩
    have h := h.answer (i := 0) (a := true) rfl ⟨fun _ => by simp, rfl⟩
    have h := h.answer (i := 0) (t := .other) (a := Except.error ⟨.os 19, "No such device"⟩) rfl
      (by simp [bindingWorld])
    exact absurd (hall 1 .other _ h (Fin.forall_fin_one.mpr ⟨_, rfl⟩)) nofun

/-- Two calls that both fail: one finds the device unbound already, the other times out. -/
theorem rebinds_leave_bound_two :
    ∃ (pool : Fin 2 → Program (IoResult RecoveredController)) (b : Binding),
      PoolReaches (bindingWorld "7-0015" true) (fun _ => rebindController "7-0015") .elan pool b
        ∧ (∀ i, ∃ e, pool i = .done (.error e)) ∧ b = .elan := by
  have hvalid : validI2cId "7-0015" = true := by decide
  have hcall := (if_pos hvalid : rebindController "7-0015" = _)
  have h : PoolReaches (bindingWorld "7-0015" true) (fun _ : Fin 2 => rebindController "7-0015")
      .elan _ .elan := .start
  have h := h.answer (i := 0) (a := Except.ok "elan_i2c") hcall ⟨fun _ => ⟨_, rfl⟩, rfl⟩
  have h := h.answer (i := 0) (a := true) rfl ⟨fun _ => by simp, rfl⟩
  have h := h.answer (i := 1) (a := Except.ok "elan_i2c") hcall ⟨fun _ => ⟨_, rfl⟩, rfl⟩
  have h := h.answer (i := 1) (a := true) rfl ⟨fun _ => by simp, rfl⟩
  -- the first call unbinds, so the second cannot
  have h := h.answer (i := 0) (t := .unbound) (a := Except.ok ()) rfl (by simp [bindingWorld])
  have h := h.answer (i := 1) (t := .unbound) (a := Except.error ⟨.os 19, "No such device"⟩) rfl
    (by simp [bindingWorld])
  have h := h.answer (i := 0) (a := (0 : ℕ)) rfl rfl
  have h := h.answer (i := 0) (a := (0 : ℕ)) rfl rfl
  have h := h.answer (i := 0) (a := false) rfl ⟨fun _ => by simp, rfl⟩
  have h := h.answer (i := 0) (a := ()) rfl rfl
  have h := h.answer (i := 0) (a := ()) rfl rfl
  have h := h.answer (i := 0) (t := .elan) (a := Except.ok ()) rfl (by simp [bindingWorld])
  -- it has bound the device again, but does not see it before the time is up
  have h := h.answer (i := 0) (a := (0 : ℕ)) rfl rfl
  have h := h.answer (i := 0) (a := secs 4) rfl rfl
  have h := h.answer (i := 0) (a := Except.error ⟨.os 2, "No such file"⟩) rfl rfl
  refine ⟨_, .elan, h, Fin.forall_fin_two.mpr ⟨⟨_, rfl⟩, ⟨_, rfl⟩⟩, ?_⟩
  exact rebinds_leave_bound (.inl rfl) h (Fin.forall_fin_two.mpr ⟨⟨_, rfl⟩, ⟨_, rfl⟩⟩)

end ConcurrentRebind
