/-
# Recovering a controller from user space

`src/recover.rs`: the in-place recovery through the `recover` attribute, and the rebind
through the driver's `unbind` and `bind` files.  `recover` looks the controller up among
the bound ones first; `rebind_controller` asks only whether the device has a driver, so
that it can also bind a device that has lost its own.

* `recovery_writes`: what the two functions write, to what device.
-/
import ElanGuardian.Sysfs

open Dialogue Sysfs

namespace Recover

inductive RecoverMethod
  | inPlace
  | rebind
  deriving DecidableEq

structure RecoveredController where
  id : String
  method : RecoverMethod
  eventNodes : List String
  deriving DecidableEq

def invalidIdentifier (id : String) : IoError :=
  ⟨.invalidInput, s!"invalid I2C device identifier '{id}'"⟩

def timedOutMessage : String := "timed out waiting for the Elan controller"

/-- The last component of a path. -/
def fileName (path : String) : String :=
  String.ofList (path.toList.reverse.takeWhile (· ≠ '/')).reverse

/-- `event_nodes` of `recover.rs`. -/
def publishedNodes (id : String) : Program (List String) := do
  match ← discover with
  | .error _ => pure []
  | .ok controllers =>
    match controllers.find? fun device => device.id = id with
    | none => pure []
    | some controller => pure (controller.eventNodes.map fileName)

def hasNodes (id : String) : Program Bool := do
  let nodes ← publishedNodes id
  pure (!nodes.isEmpty)

def hasNoDriver (id : String) : Program Bool := do
  let bound ← call (I := Sys) (.pathExists (.deviceDriver id))
  pure (!bound)

/-- The conditional unbind of `rebind_controller`. -/
def unbindIfBound (id : String) : Program (IoResult Unit) := do
  if ← call (I := Sys) (.pathExists (.deviceDriver id)) then writeControl .unbind id
  else pure (.ok ())

def delays : List ℕ := [0, 100, 250, 500, 1000]

/-- The bind attempts of `rebind_controller`; returns `last_error`. -/
def bindWithDelays (id : String) (lastError : Option IoError) : List ℕ → Program (Option IoError)
  | [] => pure lastError
  | delay :: rest => do
    call (I := Sys) (.sleep (millis delay))
    match ← writeControl .bind id with
    | .ok () => pure none
    | .error error => bindWithDelays id (some error) rest

/-- The end of `rebind_controller`: wait for the binding and for the input nodes. -/
def awaitRebound (id canonicalDriver : String) : Program (IoResult RecoveredController) :=
  (waitUntil (secs 3) (usesDriver id canonicalDriver) timedOutMessage).orReturn fun _ =>
  (waitUntil (secs 3) (hasNodes id) timedOutMessage).orReturn fun _ => do
    let nodes ← publishedNodes id
    pure (.ok ⟨id, .rebind, nodes⟩)

/-- `rebind_controller` from the bind attempts on. -/
def bindAndAwait (id canonicalDriver : String) : Program (IoResult RecoveredController) := do
  match ← bindWithDelays id none delays with
  | some error =>
    let cause := error.message
    pure (.error ⟨error.kind, s!"ELAN {id} was unbound but could not be rebound: {cause}"⟩)
  | none => awaitRebound id canonicalDriver

/-- `rebind_controller`. -/
def rebindController (id : String) : Program (IoResult RecoveredController) :=
  if validI2cId id then
    (call (I := Sys) (.canonicalize .driver)).orReturn fun canonicalDriver =>
    (unbindIfBound id).orReturn fun _ =>
    (waitUntil (secs 1) (hasNoDriver id) timedOutMessage).orReturn fun _ => do
      call (I := Sys) (.sleep (millis 100))
      bindAndAwait id canonicalDriver
  else pure (.error (invalidIdentifier id))

/-- The in-place attempt of `recover`. -/
def recoverInPlace (id : String) : Program (IoResult Unit) :=
  (writeControl (.recover id) "1").orReturn fun _ =>
    waitUntil (secs 3) (hasNodes id) timedOutMessage

/-- `recover` once the controller is known to be bound. -/
def recoverBound (id : String) : Program (IoResult RecoveredController) := do
  if ← call (I := Sys) (.pathExists (.recover id)) then
    match ← recoverInPlace id with
    | .ok () =>
      let nodes ← publishedNodes id
      pure (.ok ⟨id, .inPlace, nodes⟩)
    | .error _ => rebindController id
  else rebindController id

/-- `recover`. -/
def recover (id : String) : Program (IoResult RecoveredController) :=
  if validI2cId id then
    discover.orReturn fun controllers =>
      if controllers.any fun controller => controller.id = id then recoverBound id
      else pure (.error ⟨.invalidInput, s!"{id} is not bound to elan_i2c"⟩)
  else pure (.error (invalidIdentifier id))

/-! ## Identifiers -/

/-- Decimal digits, a dash and four hexadecimal digits. -/
def WellFormedId (id : String) : Prop :=
  ∃ bus address : List Char, id.toList = bus ++ '-' :: address ∧ bus ≠ []
    ∧ (∀ c ∈ bus, c.isDigit = true) ∧ address.length = 4
    ∧ ∀ c ∈ address, isAsciiHexdigit c = true

theorem dash_not_digit : ('-').isDigit = false := by decide

/-- The test of an id is the grammar of one. -/
theorem validI2cId_iff (id : String) : validI2cId id = true ↔ WellFormedId id := by
  constructor
  · intro h
    unfold validI2cId at h
    split at h
    · exact absurd h Bool.false_ne_true
    · rename_i bus address hsplit
      simp only [Bool.and_eq_true, Bool.not_eq_true', List.all_eq_true, beq_iff_eq] at h
      obtain ⟨⟨⟨hne, hbus⟩, hlen⟩, haddress⟩ := h
      refine ⟨bus, address, (splitOnce_eq_some.mp hsplit).1, ?_, hbus, hlen, haddress⟩
      rintro rfl
      exact absurd hne Bool.false_ne_true.symm
  · rintro ⟨bus, address, heq, hne, hbus, hlen, haddress⟩
    have hdash : '-' ∉ bus := by
      intro hmem
      exact absurd (hbus _ hmem) (by rw [dash_not_digit]; exact Bool.false_ne_true)
    unfold validI2cId
    rw [splitOnce_eq_some.mpr ⟨heq, hdash⟩]
    simp only [Bool.and_eq_true, Bool.not_eq_true', List.all_eq_true, beq_iff_eq]
    exact ⟨⟨⟨List.isEmpty_eq_false_iff.mpr hne, hbus⟩, hlen⟩, haddress⟩

/-! ## The calls of the two functions -/

section Calls

variable {P : Call → Prop} {id : String}

/-- Looking for the nodes is passive. -/
theorem publishedNodes_asks (h : ∀ c : Call, c.Passive → P c) : Asks P (publishedNodes id) := by
  refine (discover_asks fun c hc => h c hc.passive).bind fun r => ?_
  cases r with
  | error e => exact trivial
  | ok controllers =>
    dsimp only
    split <;> exact trivial

/-- And so is waiting for them. -/
theorem hasNodes_asks (h : ∀ c : Call, c.Passive → P c) : Asks P (hasNodes id) :=
  (publishedNodes_asks h).bind fun _ => trivial

/-- So is waiting for the driver to be gone. -/
theorem hasNoDriver_asks (h : ∀ c : Call, c.Passive → P c) : Asks P (hasNoDriver id) :=
  Asks.bind (asks_call (h _ trivial)) fun _ => trivial

/-- The bind attempts write to `bind` and nowhere else. -/
theorem bindWithDelays_asks (h : ∀ c : Call, c.Passive → P c)
    (hbind : P (.write .bind (id ++ "\n"))) (ds : List ℕ) (lastError : Option IoError) :
    Asks P (bindWithDelays id lastError ds) := by
  induction ds generalizing lastError with
  | nil => exact trivial
  | cons delay rest ih =>
    refine Asks.bind (asks_call (h _ trivial)) fun _ => ?_
    refine Asks.bind (asks_call hbind) fun r => ?_
    cases r with
    | ok u => exact trivial
    | error e => exact ih (some e)

/-- The end of a rebind is passive. -/
theorem awaitRebound_asks (h : ∀ c : Call, c.Passive → P c) (canonicalDriver : String) :
    Asks P (awaitRebound id canonicalDriver) := by
  refine Asks.orReturn (waitUntil_asks (usesDriver_asks _ (h _ trivial)) (h _ trivial)
    (h _ trivial) _ _) fun _ => ?_
  refine Asks.orReturn (waitUntil_asks (hasNodes_asks h) (h _ trivial) (h _ trivial) _ _)
    fun _ => ?_
  exact (publishedNodes_asks h).bind fun _ => trivial

/-- The second half of a rebind writes to `bind` only. -/
theorem bindAndAwait_asks (h : ∀ c : Call, c.Passive → P c) (hbind : P (.write .bind (id ++ "\n")))
    (canonicalDriver : String) : Asks P (bindAndAwait id canonicalDriver) := by
  refine (bindWithDelays_asks h hbind delays none).bind fun r => ?_
  cases r with
  | some e => exact trivial
  | none => exact awaitRebound_asks h canonicalDriver

/-- A rebind writes to `unbind` and `bind`, and only if the id is valid. -/
theorem rebindController_asks (h : ∀ c : Call, c.Passive → P c)
    (hunbind : validI2cId id = true → P (.write .unbind (id ++ "\n")))
    (hbind : validI2cId id = true → P (.write .bind (id ++ "\n"))) :
    Asks P (rebindController id) := by
  unfold rebindController
  split_ifs with hvalid
  · refine Asks.orReturn (asks_call (h _ trivial)) fun canonicalDriver => ?_
    refine Asks.orReturn (Asks.bind (asks_call (h _ trivial)) fun bound => ?_) fun _ => ?_
    · cases bound with
      | true => exact asks_call (hunbind hvalid)
      | false => exact trivial
    refine Asks.orReturn (waitUntil_asks (hasNoDriver_asks h) (h _ trivial) (h _ trivial) _ _)
      fun _ => ?_
    exact Asks.bind (asks_call (h _ trivial)) fun _ =>
      bindAndAwait_asks h (hbind hvalid) canonicalDriver
  · exact trivial

/-- A recovery writes to the attribute, or rebinds. -/
theorem recoverBound_asks (h : ∀ c : Call, c.Passive → P c)
    (hrecover : P (.write (.recover id) "1\n")) (hrebind : Asks P (rebindController id)) :
    Asks P (recoverBound id) := by
  refine Asks.bind (asks_call (h _ trivial)) fun inPlace => ?_
  cases inPlace with
  | false => exact hrebind
  | true =>
    refine Asks.bind (Asks.orReturn (asks_call hrecover) fun _ =>
      waitUntil_asks (hasNodes_asks h) (h _ trivial) (h _ trivial) _ _) fun r => ?_
    cases r with
    | error e => exact hrebind
    | ok u => exact (publishedNodes_asks h).bind fun _ => trivial

end Calls

/-! ## Writes and bindings -/

/-- What a device is bound to. -/
inductive Binding
  | unbound
  | elan
  | other
  deriving DecidableEq

/-- A sysfs whose accesses may fail in any way.  What a lookup reports is true; a write may
do anything. -/
def sysfsWorld (driver : String) : World (String → Binding) Sys := fun s c a s' =>
  match c, a with
  | .pathExists (.deviceDriver id), found => (found = true → s id ≠ .unbound) ∧ s' = s
  | .canonicalize .driver, r => (∀ path, r = .ok path → path = driver) ∧ s' = s
  | .canonicalize (.deviceDriver id), r =>
    (∀ path, r = .ok path → s id ≠ .unbound ∧ (path = driver ↔ s id = .elan)) ∧ s' = s
  | .write _ _, _ => True
  | _, _ => s' = s

/-- The write is one of `rebind_controller`, with the value it should have. -/
def RebindWrite (id : String) (f : File) (text : String) : Prop :=
  (f = .unbind ∨ f = .bind) ∧ text = id ++ "\n"

/-- The write is one of `recover`, with the value it should have. -/
def RecoverWrite (id : String) (f : File) (text : String) : Prop :=
  (f = .recover id ∧ text = "1\n") ∨ RebindWrite id f text

section Writes

variable {driver id : String} {b : String → Binding} {G : (String → Binding) → Call → Prop}

/-- Looking changes nothing. -/
theorem sysfsWorld_passive {s s' : String → Binding} {c : Call} {a : c.Answer} (hc : c.Passive)
    (hw : sysfsWorld driver s c a s') : s' = s := by
  cases c with
  | write f text => exact hc.elim
  | command program args => exact hc.elim
  | pathExists f =>
    cases f with
    | deviceDriver id => exact hw.2
    | _ => exact hw
  | canonicalize f =>
    cases f with
    | driver => exact hw.2
    | deviceDriver id => exact hw.2
    | _ => exact hw
  | _ => exact hw

/-- Programs that only look change nothing. -/
theorem passive_keeps {α : Type} {p : Program α} (hG : ∀ c : Call, c.Passive → G b c)
    (hp : Asks Call.Passive p) : Always (sysfsWorld driver) G (fun _ s => s = b) p b := by
  refine Always.of_asks (J := fun s => s = b) hp rfl ?_ ?_
  · rintro s c rfl hc
    exact hG c hc
  · rintro s c a s' rfl hc hw
    exact sysfsWorld_passive hc hw

/-- Only a device of the driver passes the test of `discover`. -/
theorem usesDriver_elan (hG : ∀ c : Call, c.Passive → G b c) :
    Always (sysfsWorld driver) G (fun used s => s = b ∧ (used = true → b id = .elan))
      (usesDriver id driver) b := by
  refine ⟨hG _ trivial, fun r s hw => ?_⟩
  obtain ⟨htrue, rfl⟩ := hw
  cases r with
  | error e => exact ⟨rfl, fun h => absurd h Bool.false_ne_true⟩
  | ok path => exact ⟨rfl, fun h => (htrue path rfl).2.mp (of_decide_eq_true h)⟩

/-- The controllers found are devices of the driver. -/
def AllElan (b : String → Binding) (r : IoResult (List Controller)) : Prop :=
  ∀ controllers, r = .ok controllers → ∀ c ∈ controllers, b c.id = .elan

/-- A controller is read under the id it was found by. -/
theorem readController_id (hG : ∀ c : Call, c.Passive → G b c) :
    Always (sysfsWorld driver) G (fun c s => s = b ∧ c.id = id) (readController id) b := by
  refine (passive_keeps hG (readTrimmed_asks _ trivial)).bind fun runtimeWatchdog s hs => ?_
  subst hs
  refine (passive_keeps hG (readTrimmed_asks _ trivial)).bind fun irq s hs => ?_
  subst hs
  refine (passive_keeps hG (eventNodes_asks fun f => trivial)).bind fun nodes s hs => ?_
  exact ⟨hs, rfl⟩

/-- The controllers read are devices of the driver. -/
theorem readControllers_elan (hG : ∀ c : Call, c.Passive → G b c)
    (entries : List (IoResult (Option String))) :
    Always (sysfsWorld driver) G (fun r s => s = b ∧ AllElan b r) (readControllers driver entries)
      b := by
  induction entries with
  | nil =>
    refine ⟨rfl, ?_⟩
    rintro controllers h c hc
    cases h
    exact absurd hc List.not_mem_nil
  | cons entry rest ih =>
    rcases entry with e | _ | id
    · exact ⟨rfl, fun controllers h => by cases h⟩
    · exact ih
    · unfold readControllers
      split_ifs
      · refine (usesDriver_elan hG).bind fun used s hs => ?_
        obtain ⟨rfl, hused⟩ := hs
        cases used with
        | false => exact ih
        | true =>
          refine (readController_id hG).bind fun controller s hs => ?_
          obtain ⟨rfl, hid⟩ := hs
          refine ih.orReturn (fun e t ht => ⟨ht.1, fun controllers h => by cases h⟩) ?_
          rintro controllers t ⟨ht, hall⟩
          refine ⟨ht, ?_⟩
          rintro _ h c hc
          cases h
          rcases List.mem_cons.mp hc with rfl | hc
          · rw [hid]
            exact hused rfl
          · exact hall controllers rfl c hc
      · exact ih

/-- And so are those that `discover` returns. -/
theorem discover_elan (hG : ∀ c : Call, c.Passive → G b c) :
    Always (sysfsWorld driver) G (fun r s => s = b ∧ AllElan b r) discover b := by
  refine ⟨hG _ trivial, fun r s hw => ?_⟩
  obtain ⟨hdriver, rfl⟩ := hw
  cases r with
  | error e => exact ⟨rfl, fun controllers h => by cases h⟩
  | ok path =>
    obtain rfl := hdriver path rfl
    refine ⟨hG _ trivial, fun r t hw => ?_⟩
    obtain rfl : t = s := hw
    cases r with
    | error e => exact ⟨rfl, fun controllers h => by cases h⟩
    | ok entries =>
      refine (readControllers_elan hG entries).orReturn
        (fun e t ht => ⟨ht.1, fun controllers h => by cases h⟩) ?_
      rintro controllers t ⟨ht, hall⟩
      refine ⟨ht, ?_⟩
      rintro _ h c hc
      cases h
      exact hall controllers rfl c ((List.mem_insertionSort _).mp hc)

/-- What a program may write, whatever else it asks. -/
def WritesOnly (W : File → String → Prop) (c : Call) : Prop :=
  ∀ f text, c = .write f text → W f text

/-- A passive call writes nothing. -/
theorem WritesOnly.of_passive {W : File → String → Prop} {c : Call} (hc : c.Passive) :
    WritesOnly W c := by
  rintro f text rfl
  exact hc.elim

/-- A write that is allowed. -/
theorem writesOnly_write {W : File → String → Prop} {f : File} {text : String} (h : W f text) :
    WritesOnly W (.write f text) := by
  rintro f' text' heq
  cases heq
  exact h

/-- A program that makes only such writes makes only such writes in every world. -/
theorem always_of_writes {α : Type} {p : Program α} {W : File → String → Prop}
    {s : String → Binding} (hp : Asks (WritesOnly W) p) :
    Always (sysfsWorld driver) (fun _ => WritesOnly W) (fun _ _ => True) p s :=
  Always.of_asks hp trivial (fun _ _ _ hc => hc) fun _ _ _ _ _ _ _ => trivial

/-- `recover` writes its three values, to a device of the driver. -/
theorem recover_always : Always (sysfsWorld driver)
    (fun _ => WritesOnly fun f text => validI2cId id = true ∧ RecoverWrite id f text ∧ b id = .elan)
    (fun _ _ => True) (recover id) b := by
  unfold recover
  split_ifs with hvalid
  · refine (discover_elan fun c hc => WritesOnly.of_passive hc).orReturn (fun _ _ _ => trivial) ?_
    rintro controllers s ⟨rfl, hall⟩
    split_ifs with hany
    · rw [List.any_eq_true] at hany
      obtain ⟨controller, hmem, hid⟩ := hany
      have helan : s id = .elan := by
        rw [← of_decide_eq_true hid]
        exact hall controllers rfl controller hmem
      apply always_of_writes
      refine recoverBound_asks (fun c hc => WritesOnly.of_passive hc)
        (writesOnly_write ⟨hvalid, .inl ⟨rfl, rfl⟩, helan⟩) ?_
      exact rebindController_asks (fun c hc => WritesOnly.of_passive hc)
        (fun _ => writesOnly_write ⟨hvalid, .inr ⟨.inl rfl, rfl⟩, helan⟩)
        (fun _ => writesOnly_write ⟨hvalid, .inr ⟨.inr rfl, rfl⟩, helan⟩)
    · exact trivial
  · exact trivial

/-- `rebind_controller` unbinds a device that has a driver, and binds any.  Which driver that
is it does not ask. -/
theorem rebindController_always : Always (sysfsWorld driver)
    (fun _ => WritesOnly fun f text => validI2cId id = true ∧ RebindWrite id f text
      ∧ (f = .unbind → b id ≠ .unbound)) (fun _ _ => True) (rebindController id) b := by
  unfold rebindController
  split_ifs with hvalid
  · refine ⟨WritesOnly.of_passive trivial, fun r s hw => ?_⟩
    obtain ⟨-, rfl⟩ := hw
    cases r with
    | error e => exact trivial
    | ok canonicalDriver =>
      refine ⟨WritesOnly.of_passive trivial, fun bound s' hw => ?_⟩
      obtain ⟨hbound, rfl⟩ := hw
      apply always_of_writes
      refine Asks.orReturn ?_ fun _ => Asks.orReturn ?_ fun _ => Asks.bind ?_ fun _ => ?_
      · cases bound with
        | false => exact trivial
        | true =>
          exact asks_call (writesOnly_write ⟨hvalid, ⟨.inl rfl, rfl⟩, fun _ => hbound rfl⟩)
      · exact waitUntil_asks (hasNoDriver_asks fun c hc => WritesOnly.of_passive hc)
          (WritesOnly.of_passive trivial) (WritesOnly.of_passive trivial) _ _
      · exact asks_call (WritesOnly.of_passive trivial)
      · refine bindAndAwait_asks (fun c hc => WritesOnly.of_passive hc) ?_ canonicalDriver
        exact writesOnly_write ⟨hvalid, ⟨.inr rfl, rfl⟩, fun h => nomatch h⟩
  · exact trivial

end Writes

/-- Started with the bindings `b`, the program may write `text` to `f`. -/
def Writes {α : Type} (driver : String) (p : Program α) (b : String → Binding) (f : File)
    (text : String) : Prop :=
  ∃ k s, Plays (sysfsWorld driver) p b (.ask (.write f text) k) s

/-- **What recovery writes.**  `recover` writes to a controller that was bound to the driver
when it was called.  `rebind_controller` by itself also binds a device that has lost its
driver, but unless another driver has the device, it unbinds one of `elan_i2c` only. -/
theorem recovery_writes (driver id : String) (b : String → Binding) :
    (∀ f text, Writes driver (recover id) b f text →
      WellFormedId id ∧ RecoverWrite id f text ∧ b id = .elan)
    ∧ ∀ f text, Writes driver (rebindController id) b f text →
      WellFormedId id ∧ RebindWrite id f text
        ∧ (b id ≠ .other → f = .unbind → b id = .elan) := by
  constructor
  · rintro f text ⟨k, s, hplays⟩
    have hcalls := recover_always.plays hplays
    obtain ⟨hvalid, hwrite, helan⟩ := hcalls.1 f text rfl
    exact ⟨(validI2cId_iff id).mp hvalid, hwrite, helan⟩
  · rintro f text ⟨k, s, hplays⟩
    have hcalls := rebindController_always.plays hplays
    obtain ⟨hvalid, hwrite, hbound⟩ := hcalls.1 f text rfl
    refine ⟨(validI2cId_iff id).mp hvalid, hwrite, ?_⟩
    intro hother hunbind
    cases hb : b id with
    | unbound => exact absurd hb (hbound hunbind)
    | elan => rfl
    | other => exact absurd hb hother

/-- A rebind of a device without a driver writes its name to `bind`. -/
theorem rebind_of_unbound_device : ¬ ∀ (driver id : String) (b : String → Binding) f text,
    Writes driver (rebindController id) b f text →
      WellFormedId id ∧ RebindWrite id f text ∧ b id = .elan := by
  intro h
  have hwrites : Writes "elan_i2c" (rebindController "7-0015") (fun _ => .unbound) .bind
      "7-0015\n" := by
    unfold rebindController
    rw [if_pos (by decide)]
    -- the driver directory is there, the device has no driver
    have hdriver : ∀ path, Except.ok "elan_i2c" = (Except.ok path : IoResult String) →
        path = "elan_i2c" := fun path hpath => (Except.ok.inj hpath).symm
    have hfound : false = true → Binding.unbound ≠ .unbound := fun h => absurd h Bool.false_ne_true
    exact ⟨_, _, .ask ⟨hdriver, rfl⟩ (.ask ⟨hfound, rfl⟩ (.ask (a := (0 : ℕ)) rfl
      (.ask (a := (0 : ℕ)) rfl (.ask ⟨hfound, rfl⟩ (.ask (a := ()) rfl (.ask (a := ()) rfl
      (.refl _ _)))))))⟩
  exact absurd (h _ _ _ _ _ hwrites).2.2 (by decide)

end Recover
