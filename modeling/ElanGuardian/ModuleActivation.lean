/-
# Activating an installed kernel module

`activate` (`src/kernel_module.rs`): if the loaded `elan_i2c` is not the installed one, its
controllers are unbound, the module is replaced, and the new one is expected to bind them
again.  When a controller cannot be unbound or the old module cannot be removed, the
controllers are bound again before the error is returned; the error exits after that leave
them to the new module (`activation_attends_iff`).
-/
import ElanGuardian.Recover

open Dialogue Sysfs

namespace ModuleActivation

/-! ## The program -/

inductive ActivationResult
  | current (srcversion : String)
  | activated (srcversion : String) (controllers : List String)
  deriving DecidableEq

def moduleName : String := "elan_i2c"

def modinfo : String := "modinfo"

def modprobe : String := "modprobe"

def activationNeeded (loaded : Option String) (installed : String) : Bool := loaded ≠ some installed

/-- `ensure_success`. -/
def ensureSuccess (program : String) (output : Output) : IoResult Unit :=
  if !output.success then
    let status := output.status
    let detail := trim output.stderr
    .error ⟨.other, if detail.isEmpty then s!"{program} exited with {status}"
      else s!"{program} failed: {detail}"⟩
  else .ok ()

/-- `successful_output`. -/
def successfulOutput (program : String) (output : Output) : IoResult String :=
  match ensureSuccess program output with
  | .error e => .error e
  | .ok () =>
    match output.stdout with
    | none => .error ⟨.invalidData, "invalid utf-8 sequence"⟩
    | some text =>
      let value := trim text
      if value.isEmpty then
        .error ⟨.invalidData, s!"{program} returned an empty module identity"⟩
      else .ok value

/-- `installed_srcversion`. -/
def installedSrcversion : Program (IoResult String) :=
  (call (I := Sys) (.command modinfo ["-F", "srcversion", moduleName])).orReturn fun output =>
    pure (successfulOutput modinfo output)

/-- `run_modprobe`. -/
def runModprobe (args : List String) : Program (IoResult Unit) :=
  (call (I := Sys) (.command modprobe args)).orReturn fun output =>
    pure (ensureSuccess modprobe output)

/-- `rebind_controllers`. -/
def rebindControllers : List String → Program Unit
  | [] => pure ()
  | id :: rest => do
    let bound ← call (I := Sys) (.pathExists (.deviceDriver id))
    if bound then rebindControllers rest
    else do
      let _ ← writeControl .bind id
      rebindControllers rest

/-- The loop of `unbind_controllers`; returns `last_error`. -/
def unbindEach (lastError : Option IoError) : List String → Program (Option IoError)
  | [] => pure lastError
  | id :: rest => do
    let bound ← call (I := Sys) (.pathExists (.deviceDriver id))
    if bound then do
      match ← writeControl .unbind id with
      | .ok () => unbindEach lastError rest
      | .error error =>
        let cause := error.message
        unbindEach (some ⟨error.kind, s!"could not unbind {id} before module activation: {cause}"⟩)
          rest
    else unbindEach lastError rest

/-- `unbind_controllers`. -/
def unbindControllers (controllers : List String) : Program (IoResult Unit) := do
  match ← unbindEach none controllers with
  | some error => do
    rebindControllers controllers
    pure (.error error)
  | none => pure (.ok ())

/-- `map_err` with a new text. -/
def describe {α : Type} (text : String → String) (p : Program (IoResult α)) :
    Program (IoResult α) := do
  match ← p with
  | .ok a => pure (.ok a)
  | .error e => pure (.error ⟨e.kind, text e.message⟩)

def timedOutMessage : String := "timed out waiting for kernel module activation"

/-- The controllers of the loaded module. -/
def loadedControllers (loaded : Option String) : Program (IoResult (List String)) :=
  if loaded.isSome then
    discover.orReturn fun controllers => pure (.ok (controllers.map Controller.id))
  else pure (.ok [])

/-- `modprobe -r`, and the controllers are bound again if it fails. -/
def removeModule (controllers : List String) : Program (IoResult Unit) := do
  match ← runModprobe ["-r", moduleName] with
  | .error error => do
    rebindControllers controllers
    pure (.error error)
  | .ok () => pure (.ok ())

/-- The controllers and the loaded module are let go. -/
def releaseModule (loaded : Option String) (controllers : List String) :
    Program (IoResult Unit) :=
  if loaded.isSome then (unbindControllers controllers).orReturn fun _ => removeModule controllers
  else pure (.ok ())

def isLoaded (installed : String) : Program Bool := do
  let loaded ← readTrimmed .srcversion
  pure (loaded = some installed)

/-- The controller is found with event nodes. -/
def hasRepublished (id : String) : Program Bool := do
  match ← discover with
  | .error _ => pure false
  | .ok devices => pure (devices.any fun device => device.id = id && !device.eventNodes.isEmpty)

/-- The controllers are waited for, one after the other. -/
def awaitControllers (canonicalDriver : String) : List String → Program (IoResult Unit)
  | [] => pure (.ok ())
  | id :: rest =>
    (describe (fun error => s!"{id} did not bind to the activated elan_i2c: {error}")
      (waitUntil (secs 5) (usesDriver id canonicalDriver) timedOutMessage)).orReturn fun _ =>
    (describe (fun error => s!"{id} did not republish its input devices: {error}")
      (waitUntil (secs 5) (hasRepublished id) timedOutMessage)).orReturn fun _ =>
    awaitControllers canonicalDriver rest

/-- The new module is loaded, and binds the controllers. -/
def loadModule (installed : String) (controllers : List String) :
    Program (IoResult ActivationResult) :=
  (runModprobe [moduleName]).orReturn fun _ =>
  (describe (fun error =>
      s!"loaded elan_i2c does not match installed srcversion {installed}: {error}")
    (waitUntil (secs 5) (isLoaded installed) timedOutMessage)).orReturn fun _ =>
  (call (I := Sys) (.canonicalize .driver)).orReturn fun canonicalDriver =>
  (awaitControllers canonicalDriver controllers).orReturn fun _ =>
  pure (.ok (.activated installed controllers))

/-- `activate`. -/
def activate : Program (IoResult ActivationResult) :=
  installedSrcversion.orReturn fun installed => do
    let loaded ← readTrimmed .srcversion
    if activationNeeded loaded installed then
      (loadedControllers loaded).orReturn fun controllers =>
      (releaseModule loaded controllers).orReturn fun _ =>
      loadModule installed controllers
    else pure (.ok (.current installed))

/-! ## The host -/

/-- What `activate` has done to the controllers, and which of its waits for one of them has
found it bound. -/
inductive Record
  | unbound (id : String)
  | unbindFailed (id : String)
  | removeFailed
  | bindWritten (id : String)
  | awaited (id : String)
  deriving DecidableEq

/-- Which devices are bound, whether a wait is about to look, and the records, newest first. -/
structure Host where
  bound : String → Bool
  waiting : Bool
  log : List Record

/-- The command could not be run, or did not succeed. -/
def failed : IoResult Output → Bool
  | .error _ => true
  | .ok output => !output.success

/-- The name in a line that is written to a control file. -/
def named (text : String) : String := String.ofList text.toList.dropLast

/-- The name in the line that `write_control` writes. -/
theorem named_append (id : String) : named (id ++ "\n") = id := by
  simp [named]

/-- A host on which only `activate` and the kernel bind and unbind devices.  Every access may
fail; a command that fails binds no device.  A wait looks a device up right after it has
looked at the clock or slept, which no scan of the devices does: a lookup that then gives the
path of the driver ends the wait. -/
def hostWorld (driver : String) : World Host Sys := fun s c a s' =>
  match c, a with
  | .pathExists (.deviceDriver id), found =>
    found = s.bound id ∧ s' = { s with waiting := false }
  | .canonicalize .driver, r =>
    (∀ path, r = .ok path → path = driver) ∧ s' = { s with waiting := false }
  | .canonicalize (.deviceDriver id), r =>
    s' = { s with log := if s.waiting ∧ r = .ok driver then .awaited id :: s.log else s.log }
  | .write .unbind text, .ok () =>
    s' = ⟨Function.update s.bound (named text) false, false, .unbound (named text) :: s.log⟩
  | .write .unbind text, .error _ => s' = ⟨s.bound, false, .unbindFailed (named text) :: s.log⟩
  | .write .bind text, .ok () =>
    s' = ⟨Function.update s.bound (named text) true, false, .bindWritten (named text) :: s.log⟩
  | .write .bind text, .error _ => s' = ⟨s.bound, false, .bindWritten (named text) :: s.log⟩
  | .command _ args, r =>
    (failed r = true → ∀ id, s'.bound id = true → s.bound id = true) ∧ s'.waiting = false ∧
    s'.log = if args = ["-r", moduleName] ∧ failed r = true then .removeFailed :: s.log else s.log
  | .now, _ => s' = { s with waiting := true }
  | .sleep _, _ => s' = { s with waiting := true }
  | _, _ => s' = { s with waiting := false }

def Record.isUnbound : Record → Bool
  | .unbound _ => true
  | _ => false

/-- What has happened since the last controller was unbound. -/
def sinceUnbind (log : List Record) : List Record := log.takeWhile fun r => !r.isUnbound

/-- Since the last controller was unbound, each one that was unbound has been written to
`bind`, or has been found bound by the wait for it. -/
def Attended (log : List Record) : Prop :=
  ∀ id, .unbound id ∈ log → .bindWritten id ∈ sinceUnbind log ∨ .awaited id ∈ sinceUnbind log

/-- A controller could not be unbound, or the old module could not be removed. -/
def FailedEarly (log : List Record) : Prop :=
  (∃ id, .unbindFailed id ∈ log) ∨ .removeFailed ∈ log

/-- The controller that was unbound last, if any was. -/
def lastUnbound (log : List Record) : Option String :=
  log.findSome? fun
    | .unbound id => some id
    | _ => none

/-- A failure was early, or the wait for the controller that was unbound last has succeeded,
or none was unbound. -/
def Excused (log : List Record) : Prop :=
  FailedEarly log ∨ ∀ id, lastUnbound log = some id → .awaited id ∈ log

/-! ## Looking around -/

/-- The call leaves no record when no wait is about to look, and starts no wait. -/
def Scanning : Call → Prop
  | .write _ _ => False
  | .command _ args => args ≠ ["-r", moduleName]
  | .now | .sleep _ => False
  | _ => True

/-- The call leaves no record at all. -/
def Mute : Call → Prop
  | .write _ _ => False
  | .command _ args => args ≠ ["-r", moduleName]
  | .canonicalize (.deviceDriver _) => False
  | _ => True

section Looking

variable {driver : String} {s s' : Host} {α : Type} {p : Program α}

/-- The command removes no module, and leaves no record. -/
theorem log_command {program : String} {args : List String} {r : IoResult Output}
    (hargs : args ≠ ["-r", moduleName]) (hw : hostWorld driver s (.command program args) r s') :
    s'.waiting = false ∧ s'.log = s.log := by
  obtain ⟨-, hwaiting, hlog⟩ := hw
  rw [if_neg fun h => hargs h.1] at hlog
  exact ⟨hwaiting, hlog⟩

/-- A mute call leaves no record. -/
theorem log_of_mute {c : Call} {a : c.Answer} (hc : Mute c) (hw : hostWorld driver s c a s') :
    s'.log = s.log := by
  cases c with
  | write f text => exact hc.elim
  | command program args => exact (log_command hc hw).2
  | pathExists f =>
    cases f with
    | deviceDriver id =>
      obtain ⟨-, rfl⟩ := hw
      rfl
    | _ =>
      obtain rfl : s' = _ := hw
      rfl
  | canonicalize f =>
    cases f with
    | driver =>
      obtain ⟨-, rfl⟩ := hw
      rfl
    | deviceDriver id => exact hc.elim
    | _ =>
      obtain rfl : s' = _ := hw
      rfl
  | _ =>
    obtain rfl : s' = _ := hw
    rfl

/-- Scanning leaves no record and starts no wait. -/
theorem log_of_scanning {c : Call} {a : c.Answer} (hc : Scanning c) (hs : s.waiting = false)
    (hw : hostWorld driver s c a s') : s'.waiting = false ∧ s'.log = s.log := by
  cases c with
  | write f text => exact hc.elim
  | command program args => exact log_command hc hw
  | now => exact hc.elim
  | sleep d => exact hc.elim
  | pathExists f =>
    cases f with
    | deviceDriver id =>
      obtain ⟨-, rfl⟩ := hw
      exact ⟨rfl, rfl⟩
    | _ =>
      obtain rfl : s' = _ := hw
      exact ⟨rfl, rfl⟩
  | canonicalize f =>
    cases f with
    | driver =>
      obtain ⟨-, rfl⟩ := hw
      exact ⟨rfl, rfl⟩
    | deviceDriver id =>
      obtain rfl : s' = _ := hw
      refine ⟨hs, if_neg ?_⟩
      rw [hs]
      exact fun h => Bool.false_ne_true h.1
    | _ =>
      obtain rfl : s' = _ := hw
      exact ⟨rfl, rfl⟩
  | _ =>
    obtain rfl : s' = _ := hw
    exact ⟨rfl, rfl⟩

/-- No wait is about to look, and the records are these. -/
def Still (log : List Record) (s : Host) : Prop := s.waiting = false ∧ s.log = log

/-- A program that only scans leaves no record. -/
theorem scanning_always {log : List Record} (hs : Still log s) (hp : Asks Scanning p) :
    Always (hostWorld driver) (fun _ _ => True) (fun _ => Still log) p s := by
  refine Always.of_asks hp hs (fun _ _ _ _ => trivial) fun t c a t' ht hc hw => ?_
  obtain ⟨hwaiting, hlog⟩ := log_of_scanning hc ht.1 hw
  exact ⟨hwaiting, hlog.trans ht.2⟩

/-- A program of mute calls leaves no record. -/
theorem mute_always {log : List Record} (hs : s.log = log) (hp : Asks Mute p) :
    Always (hostWorld driver) (fun _ _ => True) (fun _ (s : Host) => s.log = log) p s :=
  Always.of_asks (J := fun (s : Host) => s.log = log) hp hs (fun _ _ _ _ => trivial)
    fun _ _ _ _ ht hc hw => (log_of_mute hc hw).trans ht

/-- What only looks at files scans. -/
theorem discover_scans : Asks Scanning discover := by
  refine discover_asks fun c hc => ?_
  cases c with
  | write f text => exact hc.elim
  | command program args => exact hc.elim
  | now => exact hc.elim
  | sleep d => exact hc.elim
  | _ => exact trivial

/-- A scan leaves no record, whatever went on before it. -/
theorem discover_still {log : List Record} (hs : s.log = log) :
    Always (hostWorld driver) (fun _ _ => True) (fun _ (s : Host) => s.log = log) discover s := by
  refine ⟨trivial, fun r t hw => ?_⟩
  have ht : Still log t := by
    obtain ⟨-, rfl⟩ := hw
    exact ⟨rfl, hs⟩
  exact (scanning_always ht (discover_scans.2 r)).mono (fun _ _ hg => hg) fun _ _ ht => ht.2

/-- Asking `modinfo` is part of the scan. -/
theorem installedSrcversion_scans : Asks Scanning installedSrcversion := by
  refine Asks.orReturn (asks_call ?_) fun _ => trivial
  show ["-F", "srcversion", moduleName] ≠ ["-r", moduleName]
  decide

/-- And so is looking for the controllers. -/
theorem loadedControllers_scans (loaded : Option String) :
    Asks Scanning (loadedControllers loaded) := by
  unfold loadedControllers
  split_ifs
  · exact Asks.orReturn discover_scans fun _ => trivial
  · exact trivial

end Looking

/-! ## Letting go and taking back -/

/-- Once all controllers up to the one that was unbound last have come, so have all that were
unbound. -/
def InOrder (ids : List String) (log : List Record) : Prop :=
  ∀ done rest last, ids = done ++ rest → lastUnbound log = some last → last ∈ done →
    ∀ id, .unbound id ∈ log → id ∈ done

/-- While the controllers are unbound, and `processed` have been. -/
structure Unbinding (processed : List String) (lastError : Option IoError)
    (bound : String → Bool) (log : List Record) : Prop where
  records : ∀ r ∈ log, (∃ id ∈ processed, r = .unbound id)
    ∨ lastError ≠ none ∧ ∃ id, r = .unbindFailed id
  unbound : ∀ id, .unbound id ∈ log → bound id = false
  failure : lastError ≠ none → FailedEarly log
  settled : lastError = none → ∀ id ∈ processed, bound id = false
  ordered : lastError = none → InOrder processed log

/-- While controllers are bound again: those of `rest` that are still unbound will be written
to `bind`. -/
structure Rebinding (rest : List String) (bound : String → Bool) (log : List Record) : Prop where
  early : FailedEarly log
  attended : ∀ id, .unbound id ∈ log →
    .bindWritten id ∈ sinceUnbind log ∨ id ∈ rest ∧ bound id = false

/-- The controllers have been unbound, in order, and nothing else has been done to them. -/
structure Released (controllers : List String) (log : List Record) : Prop where
  records : ∀ r ∈ log, ∃ id ∈ controllers, r = .unbound id
  ordered : InOrder controllers log

section Logs

variable {ids : List String} {id : String} {log : List Record} {r : Record}

/-- A record that is no unbinding is one since the last. -/
theorem sinceUnbind_cons (h : r.isUnbound = false) :
    sinceUnbind (r :: log) = r :: sinceUnbind log :=
  List.takeWhile_cons_of_pos (by rw [h]; rfl)

/-- An early failure stays one. -/
theorem failedEarly_cons (h : FailedEarly log) : FailedEarly (r :: log) := by
  rcases h with ⟨id, hid⟩ | hremove
  · exact .inl ⟨id, List.mem_cons_of_mem _ hid⟩
  · exact .inr (List.mem_cons_of_mem _ hremove)

/-- A list that ends with `id` has been split in front of `id`, if not behind it. -/
theorem split_concat {done rest : List String} (h : ids ++ [id] = done ++ rest) :
    done = ids ++ [id] ∨ ∃ rest', ids = done ++ rest' := by
  rcases List.eq_nil_or_concat rest with rfl | ⟨rest', last, rfl⟩
  · rw [List.append_nil] at h
    exact .inl h.symm
  · rw [List.concat_eq_append, ← List.append_assoc] at h
    exact .inr ⟨rest', (List.append_inj' h rfl).1⟩

/-- A controller that is passed over. -/
theorem InOrder.skip (h : InOrder ids log) (hall : ∀ id, .unbound id ∈ log → id ∈ ids) :
    InOrder (ids ++ [id]) log := by
  intro done rest last hsplit hlast hdone id' hid'
  rcases split_concat hsplit with rfl | ⟨rest', hids⟩
  · exact List.mem_append_left _ (hall id' hid')
  · exact h done rest' last hids hlast hdone id' hid'

/-- A controller that comes for the first time is unbound. -/
theorem InOrder.unbind (hall : ∀ id, .unbound id ∈ log → id ∈ ids) (hnew : id ∉ ids) :
    InOrder (ids ++ [id]) (.unbound id :: log) := by
  intro done rest last hsplit hlast hdone id' hid'
  obtain rfl : id = last := Option.some.inj hlast
  rcases split_concat hsplit with rfl | ⟨rest', rfl⟩
  · rcases List.mem_cons.mp hid' with heq | hid'
    · rw [Record.unbound.inj heq]
      exact List.mem_append_right _ List.mem_cons_self
    · exact List.mem_append_left _ (hall id' hid')
  · exact absurd (List.mem_append_left _ hdone) hnew

end Logs

section Phases

variable {driver : String} {ids rest controllers : List String} {lastError : Option IoError}
  {bound : String → Bool} {log : List Record} {s s' : Host} {id : String}

/-- Each controller that was unbound is one of those that have been processed. -/
theorem Unbinding.mem (h : Unbinding ids lastError bound log) (hid : .unbound id ∈ log) :
    id ∈ ids := by
  rcases h.records _ hid with ⟨id', hid', heq⟩ | ⟨-, id', heq⟩
  · rw [Record.unbound.inj heq]
    exact hid'
  · cases heq

/-- Nothing has been unbound yet. -/
theorem unbinding_start (bound : String → Bool) : Unbinding [] none bound [] where
  records _ hr := absurd hr List.not_mem_nil
  unbound _ hid := absurd hid List.not_mem_nil
  failure hne := absurd rfl hne
  settled _ _ hid := absurd hid List.not_mem_nil
  ordered _ := fun _ _ _ _ hlast => by cases hlast

/-- A controller without a driver is passed over. -/
theorem Unbinding.skip (h : Unbinding ids lastError bound log) (hid : bound id = false) :
    Unbinding (ids ++ [id]) lastError bound log where
  records r hr := by
    rcases h.records r hr with ⟨id', hid', rfl⟩ | hfailed
    · exact .inl ⟨id', List.mem_append_left _ hid', rfl⟩
    · exact .inr hfailed
  unbound := h.unbound
  failure := h.failure
  settled hnone id' hid' := by
    rcases List.mem_append.mp hid' with hid' | hid'
    · exact h.settled hnone id' hid'
    · rwa [List.mem_singleton.mp hid']
  ordered hnone := (h.ordered hnone).skip fun id' hid' => h.mem hid'

/-- A controller is unbound. -/
theorem Unbinding.done (h : Unbinding ids lastError bound log) (hid : bound id = true) :
    Unbinding (ids ++ [id]) lastError (Function.update bound id false)
      (.unbound id :: log) where
  records r hr := by
    rcases List.mem_cons.mp hr with rfl | hr
    · exact .inl ⟨id, List.mem_append_right _ List.mem_cons_self, rfl⟩
    · rcases h.records r hr with ⟨id', hid', rfl⟩ | hfailed
      · exact .inl ⟨id', List.mem_append_left _ hid', rfl⟩
      · exact .inr hfailed
  unbound id' hid' := by
    by_cases heq : id' = id
    · rw [heq]
      exact Function.update_self _ _ _
    · refine (Function.update_of_ne heq _ _).trans ?_
      exact h.unbound id' ((List.mem_cons.mp hid').resolve_left (by simpa using heq))
  failure hne := failedEarly_cons (h.failure hne)
  settled hnone id' hid' := by
    by_cases heq : id' = id
    · rw [heq]
      exact Function.update_self _ _ _
    · refine (Function.update_of_ne heq _ _).trans (h.settled hnone id' ?_)
      exact (List.mem_append.mp hid').resolve_right fun hid' => heq (List.mem_singleton.mp hid')
  ordered hnone := by
    -- one that has been processed has no driver any more
    refine InOrder.unbind (fun id' hid' => h.mem hid') fun hmem => ?_
    rw [h.settled hnone id hmem] at hid
    cases hid

/-- A controller cannot be unbound. -/
theorem Unbinding.refused (h : Unbinding ids lastError bound log) (e : IoError) :
    Unbinding (ids ++ [id]) (some e) bound (.unbindFailed id :: log) where
  records r hr := by
    rcases List.mem_cons.mp hr with rfl | hr
    · exact .inr ⟨by simp, id, rfl⟩
    · rcases h.records r hr with ⟨id', hid', rfl⟩ | ⟨-, hfailed⟩
      · exact .inl ⟨id', List.mem_append_left _ hid', rfl⟩
      · exact .inr ⟨by simp, hfailed⟩
  unbound id' hid' := h.unbound id' ((List.mem_cons.mp hid').resolve_left (by simp))
  failure _ := .inl ⟨id, List.mem_cons_self⟩
  settled hnone := by cases hnone
  ordered hnone := by cases hnone

/-- The loop of `unbind_controllers`. -/
theorem unbindEach_unbinding (h : Unbinding ids lastError s.bound s.log) :
    Always (hostWorld driver) (fun _ _ => True)
      (fun r (s : Host) => Unbinding (ids ++ rest) r s.bound s.log) (unbindEach lastError rest)
      s := by
  induction rest generalizing ids lastError s with
  | nil =>
    rw [List.append_nil]
    exact h
  | cons id rest ih =>
    rw [List.append_cons]
    refine ⟨trivial, fun found s₁ hw => ?_⟩
    obtain ⟨hfound, rfl⟩ := hw
    cases found with
    | false => exact ih (h.skip hfound.symm)
    | true =>
      refine ⟨trivial, fun r s₂ hw => ?_⟩
      cases r with
      | ok u =>
        obtain rfl : s₂ = _ := hw
        rw [named_append]
        exact ih (h.done hfound.symm)
      | error e =>
        obtain rfl : s₂ = _ := hw
        rw [named_append]
        exact ih (h.refused _)

/-- A controller that is bound is none of those that are still to be bound again. -/
theorem Rebinding.skip (h : Rebinding (id :: rest) bound log) (hid : bound id = true) :
    Rebinding rest bound log := by
  refine ⟨h.early, fun id' hid' => (h.attended id' hid').imp_right ?_⟩
  rintro ⟨hmem, hunbound⟩
  refine ⟨(List.mem_cons.mp hmem).resolve_left ?_, hunbound⟩
  rintro rfl
  rw [hunbound] at hid
  cases hid

/-- The name of a controller is written to `bind`, and only that controller is affected. -/
theorem Rebinding.write (h : Rebinding (id :: rest) bound log) {later : String → Bool}
    (hlater : ∀ id', id' ≠ id → later id' = bound id') :
    Rebinding rest later (.bindWritten id :: log) := by
  refine ⟨failedEarly_cons h.early, fun id' hid' => ?_⟩
  rw [sinceUnbind_cons rfl]
  by_cases heq : id' = id
  · rw [heq]
    exact .inl List.mem_cons_self
  · have hid' := (List.mem_cons.mp hid').resolve_left (by simp)
    rcases h.attended id' hid' with hwritten | ⟨hmem, hunbound⟩
    · exact .inl (List.mem_cons_of_mem _ hwritten)
    · exact .inr ⟨(List.mem_cons.mp hmem).resolve_left heq, (hlater id' heq).trans hunbound⟩

/-- `rebind_controllers` attends to every controller that was unbound. -/
theorem rebindControllers_attends (h : Rebinding rest s.bound s.log) :
    Always (hostWorld driver) (fun _ _ => True) (fun _ s => FailedEarly s.log ∧ Attended s.log)
      (rebindControllers rest) s := by
  induction rest generalizing s with
  | nil =>
    refine ⟨h.early, fun id hid => .inl ?_⟩
    exact (h.attended id hid).resolve_right fun hrest => List.not_mem_nil hrest.1
  | cons id rest ih =>
    refine ⟨trivial, fun found s₁ hw => ?_⟩
    obtain ⟨hfound, rfl⟩ := hw
    cases found with
    | true => exact ih (h.skip hfound.symm)
    | false =>
      refine ⟨trivial, fun r s₂ hw => ?_⟩
      cases r with
      | ok u =>
        obtain rfl : s₂ = _ := hw
        rw [named_append]
        exact ih (h.write fun id' hne => Function.update_of_ne hne _ _)
      | error e =>
        obtain rfl : s₂ = _ := hw
        rw [named_append]
        exact ih (h.write fun _ _ => rfl)

/-- The iff for the errors of a phase. -/
def Judged {α : Type} (r : IoResult α) (s : Host) : Prop :=
  ∀ e, r = .error e → (Attended s.log ↔ Excused s.log)

/-- An early failure after which the controllers have been bound again. -/
theorem judged_early {α : Type} {r : IoResult α} (h : FailedEarly s.log ∧ Attended s.log) :
    Judged r s :=
  fun _ _ => iff_of_true h.2 (.inl h.1)

/-- What a phase leaves behind that lets go of the controllers. -/
def LetGo (controllers : List String) (r : IoResult Unit) (s : Host) : Prop :=
  Judged r s ∧ ∀ u, r = .ok u → Released controllers s.log

/-- An early failure leaves nothing more to show. -/
theorem letGo_early {r : IoResult Unit} {e : IoError} (hr : r = .error e)
    (h : FailedEarly s.log ∧ Attended s.log) : LetGo controllers r s :=
  ⟨judged_early h, fun u hu => by rw [hr] at hu; cases hu⟩

/-- If no unbinding failed, the controllers have been released. -/
theorem Unbinding.released (h : Unbinding controllers none bound log) :
    Released controllers log where
  records r hr := (h.records r hr).resolve_right fun hfailed => hfailed.1 rfl
  ordered := h.ordered rfl

/-- The controllers that were unbound have yet to be bound again. -/
theorem Unbinding.rebinding (h : Unbinding ids lastError bound log) (hearly : FailedEarly log) :
    Rebinding ids bound log :=
  ⟨hearly, fun id hid => .inr ⟨h.mem hid, h.unbound id hid⟩⟩

/-- `unbind_controllers` fails early, or lets all controllers go. -/
theorem unbindControllers_always (hlog : s.log = []) :
    Always (hostWorld driver) (fun _ _ => True)
      (fun r s => (∃ e, r = .error e ∧ FailedEarly s.log ∧ Attended s.log)
        ∨ r = .ok () ∧ Unbinding controllers none s.bound s.log)
      (unbindControllers controllers) s := by
  have hstart : Unbinding [] none s.bound s.log := by
    rw [hlog]
    exact unbinding_start s.bound
  refine (unbindEach_unbinding hstart).bind fun r s₁ h₁ => ?_
  rw [List.nil_append] at h₁
  cases r with
  | none => exact .inr ⟨rfl, h₁⟩
  | some e =>
    have hrebinding := h₁.rebinding (h₁.failure (by simp))
    exact (rebindControllers_attends hrebinding).bind fun _ s₂ h₂ => .inl ⟨e, rfl, h₂⟩

/-- Removing the module fails exactly if the command does. -/
theorem runModprobe_remove :
    Always (hostWorld driver) (fun _ _ => True)
      (fun r s' => (∃ e, r = .error e ∧ s'.log = .removeFailed :: s.log
          ∧ ∀ id, s'.bound id = true → s.bound id = true)
        ∨ r = .ok () ∧ s'.log = s.log)
      (runModprobe ["-r", moduleName]) s := by
  refine ⟨trivial, fun r s' hw => ?_⟩
  obtain ⟨hbound, -, hlog⟩ := hw
  cases r with
  | error e =>
    rw [if_pos ⟨rfl, rfl⟩] at hlog
    exact .inl ⟨e, rfl, hlog, hbound rfl⟩
  | ok output =>
    show (∃ e, ensureSuccess modprobe output = .error e ∧ _) ∨ ensureSuccess modprobe output = _ ∧ _
    unfold ensureSuccess
    cases hsuccess : output.success with
    | true =>
      rw [if_neg (by simp [failed, hsuccess])] at hlog
      exact .inr ⟨rfl, hlog⟩
    | false =>
      have hfailed : failed (.ok output) = true := by simp [failed, hsuccess]
      rw [if_pos ⟨rfl, hfailed⟩] at hlog
      exact .inl ⟨_, rfl, hlog, hbound hfailed⟩

/-- A module that cannot be removed keeps no controller unbound. -/
theorem Unbinding.remains (h : Unbinding controllers none s.bound s.log)
    (hlog : s'.log = .removeFailed :: s.log)
    (hbound : ∀ id, s'.bound id = true → s.bound id = true) :
    Rebinding controllers s'.bound s'.log := by
  rw [hlog]
  refine ⟨.inr List.mem_cons_self, fun id hid => .inr ?_⟩
  have hid := (List.mem_cons.mp hid).resolve_left (by simp)
  refine ⟨h.mem hid, Bool.eq_false_iff.mpr fun htrue => ?_⟩
  have hfalse := h.unbound id hid
  rw [hbound id htrue] at hfalse
  cases hfalse

/-- `modprobe -r` either takes the module out or has the controllers bound again. -/
theorem removeModule_letGo (h : Unbinding controllers none s.bound s.log) :
    Always (hostWorld driver) (fun _ _ => True) (LetGo controllers) (removeModule controllers)
      s := by
  refine runModprobe_remove.bind fun r s₁ h₁ => ?_
  rcases h₁ with ⟨e, rfl, hlog, hbound⟩ | ⟨rfl, hlog⟩
  · refine (rebindControllers_attends (h.remains hlog hbound)).bind fun _ s₂ h₂ => ?_
    exact letGo_early rfl h₂
  · refine ⟨fun e he => (by cases he), fun u _ => ?_⟩
    rw [hlog]
    exact h.released

/-- **Letting go.**  The phases that can fail early judge their own errors; if they do not fail,
the controllers have been unbound in their order. -/
theorem releaseModule_letGo {loaded : Option String} (hlog : s.log = [])
    (hcontrollers : loaded = none → controllers = []) :
    Always (hostWorld driver) (fun _ _ => True) (LetGo controllers)
      (releaseModule loaded controllers) s := by
  unfold releaseModule
  split_ifs with hloaded
  · refine (unbindControllers_always hlog).bind fun r s₁ h₁ => ?_
    rcases h₁ with ⟨e, rfl, hearly⟩ | ⟨rfl, hunbinding⟩
    · exact letGo_early rfl hearly
    · exact removeModule_letGo hunbinding
  · refine ⟨fun e he => (by cases he), fun u _ => ?_⟩
    rw [hlog, hcontrollers (by simpa using hloaded)]
    exact (unbinding_start s.bound).released

/-! ## Waiting for the controllers -/

/-- The records of the waits for some controllers, newest first. -/
def awaits (done : List String) : List Record := (done.map Record.awaited).reverse

/-- One more controller waited for. -/
theorem awaits_concat (done : List String) (id : String) (log : List Record) :
    awaits (done ++ [id]) ++ log = .awaited id :: (awaits done ++ log) := by
  rw [awaits, List.map_append, List.reverse_append]
  rfl

/-- The records of the waits. -/
theorem mem_awaits {done : List String} {r : Record} :
    r ∈ awaits done ↔ ∃ id ∈ done, .awaited id = r := by
  rw [awaits, List.mem_reverse, List.mem_map]

/-- `map_err` keeps what is known of a result that is no error, and changes the others. -/
theorem describe_always {α : Type} {p : Program (IoResult α)} {text : String → String}
    {Q R : IoResult α → Host → Prop}
    (h : Always (hostWorld driver) (fun _ _ => True) Q p s)
    (hok : ∀ a t, Q (.ok a) t → R (.ok a) t)
    (herror : ∀ e t, Q (.error e) t → R (.error ⟨e.kind, text e.message⟩) t) :
    Always (hostWorld driver) (fun _ _ => True) R (describe text p) s := by
  refine h.bind fun r t ht => ?_
  cases r with
  | ok a => exact hok a t ht
  | error e => exact herror e t ht

/-- A wait with looks that leave no record leaves none. -/
theorem waitFive_still {predicate : Program Bool} {text : String → String}
    (hlook : ∀ s : Host, s.log = log → Always (hostWorld driver) (fun _ _ => True)
      (fun _ (s : Host) => s.log = log) predicate s) (hs : s.log = log) :
    Always (hostWorld driver) (fun _ _ => True) (fun _ (s : Host) => s.log = log)
      (describe text (waitUntil (secs 5) predicate timedOutMessage)) s := by
  have hclock : ∀ (t : Host) (d : ℕ) (a : Unit) (t' : Host), t.log = log →
      hostWorld driver t (.sleep d) a t' → t'.log = log := by
    rintro t d a t' ht rfl
    exact ht
  refine describe_always (waitUntil_always _ _ (J := fun t => t.log = log)
    (K := fun t => t.log = log) (fun t ht => ?_) ?_ (fun t a t' => hclock t _ a t') ?_)
    (fun _ _ (ht : _ = log) => ht) (fun _ _ ht => ht.1)
  · exact (hlook t ht).mono (fun _ _ hg => hg) fun _ _ ht' => ⟨fun _ => ht', fun _ => ht'⟩
  · rintro t a t' ht rfl
    exact ht
  · rintro a t rfl
    exact hs

/-- What the wait for the binding of a controller leaves behind. -/
def AwaitedBinding (id : String) (log : List Record) (r : IoResult Unit) (s : Host) : Prop :=
  s.log = if r = .ok () then .awaited id :: log else log

/-- A look of that wait. -/
theorem usesDriver_looked (hs : s.waiting = true ∧ s.log = log) :
    Always (hostWorld driver) (fun _ _ => True)
      (Looked (fun t => t.waiting = true ∧ t.log = log) fun t => t.log = .awaited id :: log)
      (usesDriver id driver) s := by
  refine ⟨trivial, fun r t hw => ?_⟩
  obtain rfl : t = _ := hw
  cases r with
  | error e =>
    refine ⟨fun _ => ⟨hs.1, ?_⟩, fun h => by cases h⟩
    dsimp only
    rw [if_neg (by simp), hs.2]
  | ok path =>
    by_cases hpath : path = driver
    · refine ⟨fun h => by simp [hpath] at h, fun _ => ?_⟩
      dsimp only
      rw [if_pos ⟨hs.1, by rw [hpath]⟩, hs.2]
    · refine ⟨fun _ => ⟨hs.1, ?_⟩, fun h => by simp [hpath] at h⟩
      dsimp only
      rw [if_neg (by simp [hpath]), hs.2]

/-- **The wait for a controller is recorded exactly if it succeeds.** -/
theorem waitBinding_always {text : String → String} (hs : s.log = log) :
    Always (hostWorld driver) (fun _ _ => True) (AwaitedBinding id log)
      (describe text (waitUntil (secs 5) (usesDriver id driver) timedOutMessage)) s := by
  refine describe_always (waitUntil_always _ _ (J := fun t => t.waiting = true ∧ t.log = log)
    (K := fun t => t.log = .awaited id :: log) (fun t ht => usesDriver_looked ht) ?_ ?_ ?_)
    (fun u t ht => ?_) fun e t ht => ?_
  · rintro t a t' ht rfl
    exact ⟨rfl, ht.2⟩
  · rintro t a t' ht rfl
    exact ⟨rfl, ht.2⟩
  · rintro a t rfl
    exact ⟨rfl, hs⟩
  · rw [AwaitedBinding, if_pos rfl]
    exact ht
  · rw [AwaitedBinding, if_neg (by simp)]
    exact ht.1.2

/-- The wait for the event nodes of a controller scans. -/
theorem hasRepublished_still (hs : s.log = log) :
    Always (hostWorld driver) (fun _ _ => True) (fun _ (s : Host) => s.log = log)
      (hasRepublished id) s := by
  refine (discover_still hs).bind fun r t ht => ?_
  cases r <;> exact ht

/-- What the waits for the controllers `ids` leave behind, after those for `done`. -/
def AwaitedInOrder (log : List Record) (done ids : List String) (r : IoResult Unit) (s : Host) :
    Prop :=
  ∃ done' rest, done ++ ids = done' ++ rest ∧ s.log = awaits done' ++ log
    ∧ (r = .ok () → rest = [])

/-- **The controllers are awaited in their order**, up to the first wait that fails. -/
theorem awaitControllers_always (done : List String) (hs : s.log = awaits done ++ log) :
    Always (hostWorld driver) (fun _ _ => True) (AwaitedInOrder log done ids)
      (awaitControllers driver ids) s := by
  induction ids generalizing done s with
  | nil => exact ⟨done, [], rfl, hs, fun _ => rfl⟩
  | cons id rest ih =>
    refine (waitBinding_always hs).orReturn (fun e t ht => ?_) fun u t ht => ?_
    · rw [AwaitedBinding, if_neg (by simp)] at ht
      exact ⟨done, id :: rest, rfl, ht, fun h => by cases h⟩
    rw [AwaitedBinding, if_pos rfl, ← awaits_concat] at ht
    refine (waitFive_still (fun t ht => hasRepublished_still ht) ht).orReturn (fun e t' ht' => ?_)
      fun u t' ht' => ?_
    · exact ⟨done ++ [id], rest, List.append_cons _ _ _, ht', fun h => by cases h⟩
    · refine (ih _ ht').mono (fun _ _ hg => hg) fun r t'' ht'' => ?_
      rw [AwaitedInOrder, List.append_cons]
      exact ht''

/-! ## Late errors -/

/-- Waits hide no unbinding. -/
theorem lastUnbound_awaits (done : List String) (log : List Record) :
    lastUnbound (awaits done ++ log) = lastUnbound log := by
  rw [lastUnbound, List.findSome?_append]
  have hnone : (awaits done).findSome? (fun
      | .unbound id => some id
      | _ => none) = none := by
    rw [List.findSome?_eq_none_iff]
    intro r hr
    obtain ⟨id, -, rfl⟩ := mem_awaits.mp hr
    rfl
  rw [hnone, Option.none_or]
  rfl

/-- Waits come after the last unbinding. -/
theorem sinceUnbind_awaits (done : List String) (log : List Record) :
    sinceUnbind (awaits done ++ log) = awaits done ++ sinceUnbind log := by
  rw [sinceUnbind, List.takeWhile_append_of_pos]
  · rfl
  · intro r hr
    obtain ⟨id, -, rfl⟩ := mem_awaits.mp hr
    rfl

/-- With nothing but unbindings recorded, the last one is the newest record. -/
theorem Released.cases (h : Released controllers log) :
    log = [] ∨ ∃ id older, log = .unbound id :: older ∧ lastUnbound log = some id
      ∧ sinceUnbind log = [] := by
  cases log with
  | nil => exact .inl rfl
  | cons r older =>
    obtain ⟨id, -, rfl⟩ := h.records r List.mem_cons_self
    exact .inr ⟨id, older, rfl, rfl, rfl⟩

/-- After the waits only they and the unbindings have been recorded. -/
theorem Released.records_awaits (h : Released controllers log) {done : List String} {r : Record}
    (hr : r ∈ awaits done ++ log) :
    (∃ id ∈ done, .awaited id = r) ∨ ∃ id, r = .unbound id ∧ r ∈ log := by
  rcases List.mem_append.mp hr with hr | hr
  · exact .inl (mem_awaits.mp hr)
  · obtain ⟨id, -, hid⟩ := h.records r hr
    exact .inr ⟨id, hid, hr⟩

/-- The waits that have succeeded are those recorded. -/
theorem Released.awaited_iff (h : Released controllers log) {done : List String} {id : String} :
    .awaited id ∈ awaits done ++ log ↔ id ∈ done := by
  constructor
  · intro hmem
    rcases h.records_awaits hmem with ⟨id', hid', heq⟩ | ⟨_, heq, -⟩
    · rwa [← Record.awaited.inj heq]
    · cases heq
  · exact fun hid => List.mem_append_left _ (mem_awaits.mpr ⟨id, hid, rfl⟩)

/-- The waits unbind nothing. -/
theorem Released.unbound_iff (h : Released controllers log) {done : List String} {id : String} :
    .unbound id ∈ awaits done ++ log ↔ .unbound id ∈ log := by
  refine ⟨fun hmem => ?_, List.mem_append_right _⟩
  rcases h.records_awaits hmem with ⟨_, -, heq⟩ | ⟨_, -, hlog⟩
  · cases heq
  · exact hlog

/-- Where the controllers have been released and waited for, nothing has failed early. -/
theorem Released.not_failedEarly (h : Released controllers log) (done : List String) :
    ¬ FailedEarly (awaits done ++ log) := by
  rintro (⟨id, hid⟩ | hid)
  · rcases h.records_awaits hid with ⟨_, -, heq⟩ | ⟨_, heq, -⟩ <;> cases heq
  · rcases h.records_awaits hid with ⟨_, -, heq⟩ | ⟨_, heq, -⟩ <;> cases heq

/-- There all controllers are attended to if they have been waited for. -/
theorem Released.attended_iff (h : Released controllers log) (done : List String) :
    Attended (awaits done ++ log) ↔ ∀ id, .unbound id ∈ log → id ∈ done := by
  have hsince : sinceUnbind (awaits done ++ log) = awaits done := by
    rw [sinceUnbind_awaits]
    rcases h.cases with rfl | ⟨_, _, _, _, hsince⟩
    · exact List.append_nil _
    · rw [hsince, List.append_nil]
  unfold Attended
  rw [hsince]
  constructor
  · intro hall id hid
    rcases hall id (h.unbound_iff.mpr hid) with hmem | hmem
    · obtain ⟨_, -, heq⟩ := mem_awaits.mp hmem
      cases heq
    · exact h.awaited_iff.mp (List.mem_append_left _ hmem)
  · intro hall id hid
    exact .inr (mem_awaits.mpr ⟨id, hall id (h.unbound_iff.mp hid), rfl⟩)

/-- **After a late error** the controllers are attended to exactly if the wait for the last one
has succeeded. -/
theorem Released.judged (h : Released controllers log) (done : List String) {rest : List String}
    (hsplit : controllers = done ++ rest) :
    Attended (awaits done ++ log) ↔ Excused (awaits done ++ log) := by
  rw [h.attended_iff, Excused, or_iff_right (h.not_failedEarly done), lastUnbound_awaits]
  constructor
  · intro hall id hlast
    rcases h.cases with rfl | ⟨last, older, hlog, hlast', -⟩
    · cases hlast
    · rw [hlast] at hlast'
      rw [Option.some.inj hlast', h.awaited_iff]
      exact hall last (hlog ▸ List.mem_cons_self)
  · intro hlast id hid
    rcases h.cases with rfl | ⟨last, older, -, hlast', -⟩
    · exact absurd hid List.not_mem_nil
    · -- the controllers before the last one have been waited for, too
      exact h.ordered done rest last hsplit hlast' (h.awaited_iff.mp (hlast last hlast')) id hid

/-- The phases after the old module is gone. -/
theorem loadModule_judged {installed : String} (h : Released controllers s.log) :
    Always (hostWorld driver) (fun _ _ => True) Judged (loadModule installed controllers) s := by
  -- an error before the first wait for a controller
  have hearly {α : Type} {e : IoError} {t : Host} (ht : t.log = s.log) :
      Judged (.error e : IoResult α) t := by
    intro _ _
    rw [ht]
    exact h.judged [] rfl
  have hmodprobe : Asks Mute (runModprobe [moduleName]) := by
    refine Asks.orReturn (asks_call ?_) fun _ => trivial
    show [moduleName] ≠ ["-r", moduleName]
    decide
  have hloaded : Asks Mute (isLoaded installed) :=
    Asks.bind (readTrimmed_asks _ trivial) fun _ => trivial
  refine (mute_always rfl hmodprobe).orReturn (fun e t ht => hearly ht) fun u t ht => ?_
  refine (waitFive_still (fun t ht => mute_always ht hloaded) ht).orReturn
    (fun e t' ht' => hearly ht') fun u t' ht' => ?_
  refine Always.orReturn (Q := fun r t => (∀ path, r = .ok path → path = driver) ∧ t.log = s.log)
    ⟨trivial, fun r t'' hw => ?_⟩ (fun e t'' ht'' => hearly ht''.2) fun path t'' ht'' => ?_
  · obtain ⟨hdriver, rfl⟩ := hw
    exact ⟨hdriver, ht'⟩
  obtain rfl := ht''.1 path rfl
  refine (awaitControllers_always [] ht''.2).orReturn ?_ fun u t₃ _ e he => by cases he
  rintro e t₃ ⟨done', rest, hsplit, hlog, -⟩ _ _
  rw [hlog]
  exact h.judged _ hsplit

/-- A module that is not loaded has no controllers. -/
theorem loadedControllers_always {loaded : Option String} (hs : Still [] s) :
    Always (hostWorld driver) (fun _ _ => True)
      (fun r t => Still [] t ∧ ∀ ids, r = .ok ids → loaded = none → ids = [])
      (loadedControllers loaded) s := by
  cases loaded with
  | none =>
    refine ⟨hs, ?_⟩
    rintro ids hids -
    cases hids
    rfl
  | some loaded =>
    refine (scanning_always hs (loadedControllers_scans (some loaded))).mono (fun _ _ hg => hg)
      fun r t ht => ⟨ht, ?_⟩
    rintro ids - hnone
    cases hnone

/-- **The iff holds for every error of `activate`.** -/
theorem activate_judged (bound₀ : String → Bool) :
    Always (hostWorld driver) (fun _ _ => True) Judged activate ⟨bound₀, false, []⟩ := by
  have huntouched {α : Type} {r : IoResult α} {t : Host} (ht : Still [] t) : Judged r t := by
    intro _ _
    rw [ht.2]
    exact (unbinding_start bound₀).released.judged [] rfl
  have hstart : Still [] ⟨bound₀, false, []⟩ := ⟨rfl, rfl⟩
  refine (scanning_always hstart installedSrcversion_scans).orReturn
    (fun e s hs => huntouched hs) fun installed s hs => ?_
  refine (scanning_always hs (readTrimmed_asks _ trivial)).bind fun loaded s₁ hs₁ => ?_
  split_ifs
  · refine (loadedControllers_always hs₁).orReturn (fun e s₂ hs₂ => huntouched hs₂.1)
      fun controllers s₂ hs₂ => ?_
    refine (releaseModule_letGo hs₂.1.2 (hs₂.2 controllers rfl)).orReturn
      (fun e s₃ hs₃ => fun _ _ => hs₃.1 e rfl) fun u s₃ hs₃ => ?_
    exact loadModule_judged (hs₃.2 u rfl)
  · exact huntouched hs₁

end Phases

/-! ## Two controllers and a failing command -/

/-- What a command returns if the one with the arguments `refused` fails. -/
def commandResult (refused args : List String) : IoResult Output :=
  .ok ⟨args ≠ refused, "exit status: 1", some "NEW\n", ""⟩

/-- A host with an old module and two controllers. -/
def hostAnswers (refused : List String) (s : Host) : (c : Call) → c.Answer × Host
  | .pathExists (.deviceDriver id) => (s.bound id, { s with waiting := false })
  | .pathExists _ => (true, { s with waiting := false })
  | .canonicalize .driver => (.ok "elan_i2c", { s with waiting := false })
  | .canonicalize (.deviceDriver id) =>
    if s.bound id then
      (.ok "elan_i2c", { s with log := if s.waiting then .awaited id :: s.log else s.log })
    else (.error ⟨.os 2, ""⟩, s)
  | .canonicalize _ => (.error ⟨.os 2, ""⟩, { s with waiting := false })
  | .readDir .driver =>
    (.ok [.ok (some "7-0015"), .ok (some "8-002c")], { s with waiting := false })
  | .readDir _ => (.error ⟨.os 2, ""⟩, { s with waiting := false })
  | .readToString .srcversion => (.ok "OLD\n", { s with waiting := false })
  | .readToString _ => (.error ⟨.os 2, ""⟩, { s with waiting := false })
  | .write .unbind text =>
    (.ok (), ⟨Function.update s.bound (named text) false, false, .unbound (named text) :: s.log⟩)
  | .write .bind text =>
    (.ok (), ⟨Function.update s.bound (named text) true, false, .bindWritten (named text) :: s.log⟩)
  | .write _ _ => (.ok (), { s with waiting := false })
  | .command _ args =>
    (commandResult refused args,
      ⟨s.bound, false, if args = ["-r", moduleName] ∧ failed (commandResult refused args) = true
        then .removeFailed :: s.log else s.log⟩)
  | .now => (0, { s with waiting := true })
  | .sleep _ => ((), { s with waiting := true })

/-- The host answers as its world allows. -/
theorem hostAnswers_allowed (refused : List String) (s : Host) (c : Call) :
    hostWorld "elan_i2c" s c (hostAnswers refused s c).1 (hostAnswers refused s c).2 := by
  cases c with
  | pathExists f => cases f <;> first | exact ⟨rfl, rfl⟩ | rfl
  | canonicalize f =>
    cases f with
    | driver => exact ⟨fun path hpath => (Except.ok.inj hpath).symm, rfl⟩
    | deviceDriver id =>
      unfold hostAnswers
      dsimp only
      cases s.bound id with
      | true =>
        show ({ s with log := if s.waiting then .awaited id :: s.log else s.log } : Host)
          = { s with log := if s.waiting ∧ (Except.ok "elan_i2c" : IoResult String) = .ok "elan_i2c"
              then .awaited id :: s.log else s.log }
        simp
      | false =>
        show s = { s with log := if s.waiting ∧ (Except.error _ : IoResult String) = .ok "elan_i2c"
              then .awaited id :: s.log else s.log }
        rw [if_neg (by simp)]
    | _ => rfl
  | readDir f => cases f <;> rfl
  | readToString f => cases f <;> rfl
  | write f text => cases f <;> rfl
  | command program args => exact ⟨fun _ _ hbound => hbound, rfl, rfl⟩
  | now => rfl
  | sleep d => rfl

/-- `activate` on that host. -/
def activation (refused : List String) : IoResult ActivationResult × Host :=
  talk (hostAnswers refused) activate ⟨fun _ => true, false, []⟩

/-- **Which errors abandon a controller.**  When `activate` returns an error, each controller
that it has unbound has been written to `bind` again or found bound by the wait for it, exactly
if the error came from unbinding or from removing the old module, or from something after the
wait for the controller that was unbound last, or none was unbound. -/
theorem activation_attends_iff {driver : String} {bound₀ : String → Bool} {e : IoError} {s : Host}
    (h : Plays (hostWorld driver) activate ⟨bound₀, false, []⟩ (.done (.error e)) s) :
    Attended s.log ↔ Excused s.log :=
  (activate_judged bound₀).plays h e rfl

/-- The old module cannot be removed, so both controllers are bound again. -/
theorem activation_attends_iff_remove :
    ∃ e s, Plays (hostWorld "elan_i2c") activate ⟨fun _ => true, false, []⟩ (.done (.error e)) s
      ∧ .removeFailed ∈ s.log ∧ Attended s.log := by
  have hplays := plays_talk (hostAnswers_allowed ["-r", moduleName]) activate
    ⟨fun _ => true, false, []⟩
  have hresult : (activation ["-r", moduleName]).1
      = .error ⟨.other, "modprobe exited with exit status: 1"⟩ := by
    decide +kernel
  have hremove : .removeFailed ∈ (activation ["-r", moduleName]).2.log := by decide +kernel
  change Plays _ _ _ (.done (activation ["-r", moduleName]).1) _ at hplays
  rw [hresult] at hplays
  exact ⟨_, _, hplays, hremove, (activation_attends_iff hplays).mpr (.inl (.inr hremove))⟩

/-- The old module has been removed, and the new one cannot be loaded: both controllers are
left unbound, and `bind` is not written. -/
theorem abandoned_controllers : ¬ ∀ (driver : String) (bound₀ : String → Bool) (e : IoError)
    (s : Host), Plays (hostWorld driver) activate ⟨bound₀, false, []⟩ (.done (.error e)) s →
      Attended s.log := by
  intro h
  have hplays := plays_talk (hostAnswers_allowed [moduleName]) activate ⟨fun _ => true, false, []⟩
  have hresult : (activation [moduleName]).1
      = .error ⟨.other, "modprobe exited with exit status: 1"⟩ := by
    decide +kernel
  have hlog : (activation [moduleName]).2.log
      = [.unbound "8-002c", .unbound "7-0015"] := by
    decide +kernel
  change Plays _ _ _ (.done (activation [moduleName]).1) _ at hplays
  rw [hresult] at hplays
  have hattended := h _ _ _ _ hplays "7-0015"
  change .unbound "7-0015" ∈ (activation [moduleName]).2.log →
    .bindWritten "7-0015" ∈ sinceUnbind (activation [moduleName]).2.log
      ∨ .awaited "7-0015" ∈ sinceUnbind (activation [moduleName]).2.log at hattended
  rw [hlog] at hattended
  exact absurd (hattended (by decide)) (by decide)

end ModuleActivation
