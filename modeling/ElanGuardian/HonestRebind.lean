/-
# What a failed rebind says

`rebind_controller` reports that a device "was unbound but could not be rebound" once its
five bind attempts have been rejected.  It never looks at the binding meanwhile: the kernel
also rejects an attempt because the device is bound already, and that may be the work of
somebody else, such as the unit that udev starts at every unbind.

Here other parties bind and unbind the device between any two calls.  `Scene` remembers what
they have done since the call last saw the device without a driver, and what the last bind
attempt found.
-/
import ElanGuardian.Recover

open Dialogue Sysfs Recover

namespace HonestRebind

/-! ## A device that others use too -/

/-- What a bind attempt found: the binding, and what others had made of it since the device
was last seen without a driver, the latest first. -/
structure Attempt where
  binding : Binding
  others : List Binding
  deriving DecidableEq

/-- The binding of the device, what others have made of it since it was last seen without a
driver, and the last bind attempt. -/
structure Scene where
  binding : Binding
  others : List Binding
  attempt : Option Attempt

/-- Others have bound and unbound the device. -/
def Scene.disturbed (s : Scene) (steps : List Binding) : Scene :=
  { s with binding := steps.head?.getD s.binding, others := steps ++ s.others }

/-- The answers of the kernel, whose errors are in `System`.  A bind is rejected if the device
is bound, and may be if it is not. -/
def kernelAnswers (System : IoError → Prop) (id : String) (t : Scene) :
    (c : Call) → c.Answer → Scene → Prop
  | .pathExists (.deviceDriver device), found, s =>
    (device = id → (found = false ↔ t.binding = .unbound))
      ∧ s = if device = id ∧ found = false then { t with others := [] } else t
  | .write .unbind text, .ok (), s =>
    (text = id ++ "\n" → t.binding = .elan)
      ∧ s = if text = id ++ "\n" then { t with binding := .unbound } else t
  | .write .unbind _, .error e, s => System e ∧ s = t
  | .write .bind text, .ok (), s =>
    (text = id ++ "\n" → t.binding = .unbound)
      ∧ s = if text = id ++ "\n" then
          { t with binding := .elan, attempt := some ⟨t.binding, t.others⟩ }
        else t
  | .write .bind text, .error e, s =>
    System e ∧ s = if text = id ++ "\n" then { t with attempt := some ⟨t.binding, t.others⟩ } else t
  | .canonicalize .driver, .error e, s => System e ∧ s = t
  | _, _, s => s = t

/-- Before every call others may do anything with the device. -/
def sharedWorld (System : IoError → Prop) (id : String) : World Scene Sys := fun s c a s' =>
  ∃ steps, kernelAnswers System id (s.disturbed steps) c a s'

/-- The text of the error for five rejected attempts. -/
def notRebound (id cause : String) : String :=
  s!"ELAN {id} was unbound but could not be rebound: {cause}"

/-- The report is right: the device was not bound to the driver at the last attempt. -/
def Honest (s : Scene) : Prop := ∀ attempt ∈ s.attempt, attempt.binding ≠ .elan

/-- The last that others had done before the last attempt, if anything since the device was
seen without a driver, was not to bind it to the driver. -/
def NotForestalled (s : Scene) : Prop :=
  ∀ attempt ∈ s.attempt, attempt.others.head? ≠ some .elan

/-! ## What the calls keep -/

/-- Since it was seen without a driver the device is as others have left it. -/
def LeftByOthers (s : Scene) : Prop := s.binding = s.others.head?.getD .unbound

/-- The last attempt found the device as others had left it. -/
def Foreseen (s : Scene) : Prop :=
  ∀ attempt ∈ s.attempt, (attempt.binding = .elan ↔ attempt.others.head? = some .elan)

/-- The call is no bind. -/
def NoBind (c : Call) : Prop := ∀ text, c ≠ .write .bind text

section Calls

variable {System : IoError → Prop} {id : String} {s s' t : Scene}

/-- What others do leaves the binding to them. -/
theorem leftByOthers_disturbed (h : LeftByOthers s) (steps : List Binding) :
    LeftByOthers (s.disturbed steps) := by
  cases steps with
  | nil => exact h
  | cons step steps => rfl

/-- The device is bound just if their last step has bound it. -/
theorem elan_iff_of_leftByOthers (h : LeftByOthers s) :
    s.binding = .elan ↔ s.others.head? = some .elan := by
  rw [h]
  cases s.others.head? with
  | none => simp
  | some binding => simp

/-- Only a bind is an attempt. -/
theorem attempt_of_noBind {c : Call} {a : c.Answer} (hc : NoBind c)
    (hw : sharedWorld System id s c a s') : s'.attempt = s.attempt := by
  obtain ⟨steps, hw⟩ := hw
  cases c with
  | write f text =>
    cases f with
    | bind => exact absurd rfl (hc text)
    | unbind =>
      cases a with
      | ok u =>
        rw [hw.2]
        split_ifs <;> rfl
      | error e =>
        rw [hw.2]
        rfl
    | _ =>
      obtain rfl : s' = s.disturbed steps := hw
      rfl
  | pathExists f =>
    cases f with
    | deviceDriver device =>
      rw [hw.2]
      split_ifs <;> rfl
    | _ =>
      obtain rfl : s' = s.disturbed steps := hw
      rfl
  | canonicalize f =>
    cases f with
    | driver =>
      cases a with
      | ok path =>
        obtain rfl : s' = s.disturbed steps := hw
        rfl
      | error e =>
        rw [hw.2]
        rfl
    | _ =>
      obtain rfl : s' = s.disturbed steps := hw
      rfl
  | _ =>
    obtain rfl : s' = s.disturbed steps := hw
    rfl

/-- What the bind attempt of this device finds is remembered. -/
theorem bind_answer {r : IoResult Unit}
    (hw : sharedWorld System id s (.write .bind (id ++ "\n")) r s') (hs : LeftByOthers s) :
    Foreseen s' ∧ s'.attempt ≠ none ∧ ((∃ e, r = .error e) → LeftByOthers s') := by
  obtain ⟨steps, hw⟩ := hw
  have ht := leftByOthers_disturbed hs steps
  generalize s.disturbed steps = t at hw ht
  have hforeseen (binding : Binding) (others : List Binding) :
      Foreseen ⟨binding, others, some ⟨t.binding, t.others⟩⟩ := by
    rintro _ ⟨⟩
    exact elan_iff_of_leftByOthers ht
  cases r with
  | ok u =>
    obtain rfl := hw.2.trans (if_pos rfl)
    refine ⟨hforeseen _ _, Option.some_ne_none _, ?_⟩
    rintro ⟨e, he⟩
    cases he
  | error e =>
    obtain rfl := hw.2.trans (if_pos rfl)
    exact ⟨hforeseen _ _, Option.some_ne_none _, fun _ => ht⟩

end Calls

/-! ## What the programs keep -/

section Programs

variable {System : IoError → Prop} {id : String} {s : Scene}

/-- Programs that do not bind attempt nothing. -/
theorem always_attempt {α : Type} {p : Program α} (hp : Asks NoBind p) :
    Always (sharedWorld System id) (fun _ _ => True)
      (fun _ (t : Scene) => t.attempt = s.attempt) p s := by
  refine Always.of_asks (J := fun t : Scene => t.attempt = s.attempt) hp rfl
    (fun _ _ _ _ => trivial) ?_
  intro t c a t' ht hc hw
  rw [attempt_of_noBind hc hw, ht]

/-- A look at sysfs binds nothing. -/
theorem noBind_of_passive {c : Call} (hc : c.Passive) : NoBind c := by
  rintro text rfl
  exact hc.elim

/-- A device that is seen without a driver has none, whatever others do later. -/
theorem hasNoDriver_always :
    Always (sharedWorld System id) (fun _ _ => True)
      (fun none t => t.attempt = s.attempt ∧ (none = true → LeftByOthers t))
      (hasNoDriver id) s := by
  refine ⟨trivial, fun found t hw => ⟨?_, ?_⟩⟩
  · exact attempt_of_noBind (c := .pathExists (.deviceDriver id)) (fun _ => nofun) hw
  · obtain ⟨steps, hfound, rfl⟩ := hw
    intro hnone
    have hfalse : found = false := by simpa using hnone
    rw [if_pos ⟨rfl, hfalse⟩]
    exact (hfound rfl).mp hfalse

/-- The attempts: each finds the device as others have left it. -/
theorem bindWithDelays_always (ds : List ℕ) (lastError : Option IoError) (hs : LeftByOthers s)
    (hforeseen : Foreseen s) :
    Always (sharedWorld System id) (fun _ _ => True)
      (fun _ t => Foreseen t ∧ (s.attempt ≠ none ∨ ds ≠ [] → t.attempt ≠ none))
      (bindWithDelays id lastError ds) s := by
  induction ds generalizing lastError s with
  | nil => exact ⟨hforeseen, fun h => h.resolve_right (by simp)⟩
  | cons delay rest ih =>
    -- others act before the sleep and once more before the attempt
    refine ⟨trivial, fun u t hw => ?_⟩
    obtain ⟨steps, rfl⟩ := hw
    refine ⟨trivial, fun r t hw => ?_⟩
    obtain ⟨hforeseen', hsome, hleft⟩ := bind_answer hw (leftByOthers_disturbed hs steps)
    cases r with
    | ok u => exact ⟨hforeseen', fun _ => hsome⟩
    | error e =>
      refine (ih (some e) (hleft ⟨e, rfl⟩) hforeseen').mono (fun _ _ h => h) ?_
      intro r t' ht'
      exact ⟨ht'.1, fun _ => ht'.2 (.inl hsome)⟩

/-- An error that is reported before any attempt. -/
def Early (System : IoError → Prop) (id : String) (e : IoError) : Prop :=
  System e ∨ e = ⟨.timedOut, timedOutMessage⟩ ∨ e = invalidIdentifier id

/-- What a call ends with. -/
def Reported (System : IoError → Prop) (id : String) (r : IoResult RecoveredController)
    (s : Scene) : Prop :=
  Foreseen s ∧ ∀ e, r = .error e → s.attempt = none → Early System id e

/-- From the attempts on, a call has made one. -/
theorem bindAndAwait_always (canonicalDriver : String) (hs : LeftByOthers s)
    (hnone : s.attempt = none) :
    Always (sharedWorld System id) (fun _ _ => True) (Reported System id)
      (bindAndAwait id canonicalDriver) s := by
  have hforeseen : Foreseen s := by
    intro attempt hattempt
    rw [hnone] at hattempt
    cases hattempt
  refine (bindWithDelays_always delays none hs hforeseen).bind fun lastError t ht => ?_
  have hsome : t.attempt ≠ none := ht.2 (.inr (by decide))
  cases lastError with
  | some error => exact ⟨ht.1, fun e _ h => absurd h hsome⟩
  | none =>
    -- what is awaited after an accepted bind is no attempt any more
    refine (always_attempt (awaitRebound_asks (fun c hc => noBind_of_passive hc)
      canonicalDriver)).mono (fun _ _ h => h) fun r t' ht' => ?_
    unfold Reported Foreseen
    rw [ht']
    exact ⟨ht.1, fun e _ h => absurd h hsome⟩

/-- What `rebind_controller` reports, and what the other parties have done then. -/
theorem rebindController_always (hnone : s.attempt = none) :
    Always (sharedWorld System id) (fun _ _ => True) (Reported System id) (rebindController id)
      s := by
  have hearly {t : Scene} {e : IoError} (ht : t.attempt = none) (he : Early System id e) :
      Reported System id (.error e) t := by
    refine ⟨fun attempt hattempt => ?_, ?_⟩
    · rw [ht] at hattempt
      cases hattempt
    · rintro _ ⟨⟩ _
      exact he
  have hquiet (c : Call) {t t' : Scene} {a : c.Answer} (hc : NoBind c) (ht : t.attempt = none)
      (hw : sharedWorld System id t c a t') : t'.attempt = none :=
    (attempt_of_noBind hc hw).trans ht
  unfold rebindController
  split_ifs
  · refine ⟨trivial, fun r t hw => ?_⟩
    have ht := hquiet (.canonicalize .driver) (fun _ => nofun) hnone hw
    cases r with
    | error e =>
      obtain ⟨steps, hsystem, -⟩ := hw
      exact hearly ht (.inl hsystem)
    | ok canonicalDriver =>
      -- the unbind, if the device has a driver
      refine Always.orReturn (Q := fun r t => t.attempt = none ∧ ∀ e, r = .error e → System e)
        ?_ (fun e t h => hearly h.1 (.inl (h.2 e rfl))) fun u t ht => ?_
      · refine ⟨trivial, fun found t' hw => ?_⟩
        have ht' := hquiet (.pathExists (.deviceDriver id)) (fun _ => nofun) ht hw
        cases found with
        | false => exact ⟨ht', fun e he => by cases he⟩
        | true =>
          refine ⟨trivial, fun r t'' hw => ⟨?_, ?_⟩⟩
          · exact hquiet (.write .unbind (id ++ "\n")) (fun _ => nofun) ht' hw
          · rintro e rfl
            obtain ⟨steps, hsystem, -⟩ := hw
            exact hsystem
      · refine Always.orReturn (waitUntil_always _ _ (J := fun t => t.attempt = none)
          (K := fun t => t.attempt = none ∧ LeftByOthers t) (fun t ht => ?_)
          (fun t a t' => hquiet .now (fun _ => nofun))
          (fun t a t' => hquiet (.sleep (millis 20)) (fun _ => nofun))
          fun a t' => hquiet .now (fun _ => nofun) ht.1) ?_ ?_
        · refine hasNoDriver_always.mono (fun _ _ h => h) fun none t' h => ?_
          exact ⟨fun _ => h.1.trans ht, fun hnone => ⟨h.1.trans ht, h.2 hnone⟩⟩
        · rintro e t ⟨ht, rfl⟩
          exact hearly ht (.inr (.inl rfl))
        · rintro u t ⟨ht, hleft⟩
          refine ⟨trivial, fun u t' hw => ?_⟩
          have ht' := hquiet (.sleep (millis 100)) (fun _ => nofun) ht hw
          obtain ⟨steps, rfl⟩ := hw
          exact bindAndAwait_always canonicalDriver (leftByOthers_disturbed hleft steps) ht'
  · exact hearly hnone (.inr (.inr rfl))

/-- A text begins with its first part. -/
theorem head?_toList_append {c : Char} (start rest : String) (h : start.toList.head? = some c) :
    (start ++ rest).toList.head? = some c := by
  rw [String.toList_append, List.head?_append, h, Option.some_or]

/-- The text is that of no error that is reported before any attempt. -/
theorem not_early_of_notRebound {e : IoError} {cause : String}
    (hmessage : e.message = notRebound id cause) (hsystem : ¬ System e) :
    ¬ Early System id e := by
  have hfirst : e.message.toList.head? = some 'E' := by
    rw [hmessage]
    exact head?_toList_append _ _ (head?_toList_append _ _ (head?_toList_append "ELAN " id rfl))
  rintro (h | rfl | rfl)
  · exact hsystem h
  · exact absurd hfirst (by decide)
  · have hother : (invalidIdentifier id).message.toList.head? = some 'i' :=
      head?_toList_append _ _ (head?_toList_append "invalid I2C device identifier '" id rfl)
    rw [hother] at hfirst
    exact absurd hfirst (by decide)

end Programs

/-- **When the report of a failed rebind is right.**  Whatever others do between the calls,
the device was not bound to the driver at the last attempt just if the last that others had
done before it, if anything since the device was seen without a driver, was not to bind it to
the driver.  There was an attempt, unless the kernel itself has answered with this text. -/
theorem rebind_failure_honest_iff {System : IoError → Prop} {id cause : String}
    {binding₀ : Binding} {e : IoError} {s : Scene}
    (h : Plays (sharedWorld System id) (rebindController id) ⟨binding₀, [], none⟩
      (.done (.error e)) s)
    (hmessage : e.message = notRebound id cause) :
    (Honest s ↔ NotForestalled s) ∧ (¬ System e → s.attempt ≠ none) := by
  obtain ⟨hforeseen, hearly⟩ : Reported System id (.error e) s :=
    (rebindController_always rfl).plays h
  constructor
  · exact forall₂_congr fun attempt hattempt => not_congr (hforeseen attempt hattempt)
  · intro hsystem hnone
    exact not_early_of_notRebound hmessage hsystem (hearly e rfl hnone)

/-! ## A device that another party has bound -/

/-- The answer to a bind of a device that has a driver. -/
def busy : IoError := ⟨.os 16, "Device or resource busy (os error 16)"⟩

/-- A kernel that rejects every bind; another party binds the device before the first
attempt if it is `rescued`. -/
def hostAnswers (rescued : Bool) (s : Scene) : (c : Call) → c.Answer × Scene
  | .pathExists (.deviceDriver device) =>
    (s.binding ≠ .unbound,
      if device = "13-0015" ∧ s.binding = .unbound then { s with others := [] } else s)
  | .pathExists _ => (true, s)
  | .canonicalize _ => (.ok "elan_i2c", s)
  | .readDir _ => (.ok [], s)
  | .readToString _ => (.ok "", s)
  | .write .unbind text =>
    if text = "13-0015" ++ "\n" then
      if s.binding = .elan then (.ok (), { s with binding := .unbound }) else (.error busy, s)
    else (.ok (), s)
  | .write .bind text =>
    (.error busy,
      if text = "13-0015" ++ "\n" then { s with attempt := some ⟨s.binding, s.others⟩ } else s)
  | .write _ _ => (.ok (), s)
  | .command _ _ => (.ok ⟨true, "", none, ""⟩, s)
  | .now => (0, s)
  | .sleep d => ((), if rescued = true ∧ d = 0 then s.disturbed [.elan] else s)

/-- The answers of this host are possible. -/
theorem hostAnswers_allowed (rescued : Bool) (s : Scene) (c : Call) :
    sharedWorld (fun e => e = busy) "13-0015" s c (hostAnswers rescued s c).1
      (hostAnswers rescued s c).2 := by
  cases c with
  | sleep d =>
    unfold hostAnswers
    dsimp only
    split_ifs
    · exact ⟨[.elan], rfl⟩
    · exact ⟨[], rfl⟩
  | pathExists f =>
    cases f with
    | deviceDriver device =>
      refine ⟨[], fun _ => ?_, ?_⟩
      · simp [hostAnswers, Scene.disturbed]
      · simp [hostAnswers, Scene.disturbed]
    | _ => exact ⟨[], rfl⟩
  | write f text =>
    cases f with
    | bind => exact ⟨[], rfl, rfl⟩
    | unbind =>
      unfold hostAnswers
      dsimp only
      split_ifs with htext helan
      · exact ⟨[], fun _ => helan, (if_pos htext).symm⟩
      · exact ⟨[], rfl, rfl⟩
      · exact ⟨[], fun h => absurd h htext, (if_neg htext).symm⟩
    | _ => exact ⟨[], rfl⟩
  | canonicalize f => cases f <;> exact ⟨[], rfl⟩
  | _ => exact ⟨[], rfl⟩

/-- A call for a bound device. -/
def rebound (rescued : Bool) : IoResult RecoveredController × Scene :=
  talk (hostAnswers rescued) (rebindController "13-0015") ⟨.elan, [], none⟩

/-- The rebind fails, whoever comes to help. -/
theorem rebound_error (rescued : Bool) :
    (rebound rescued).1 = .error ⟨.os 16, notRebound "13-0015" busy.message⟩ := by
  cases rescued <;> decide +kernel

/-- That is a run of the program. -/
theorem plays_rebound (rescued : Bool) :
    Plays (sharedWorld (fun e => e = busy) "13-0015") (rebindController "13-0015")
      ⟨.elan, [], none⟩ (.done (.error ⟨.os 16, notRebound "13-0015" busy.message⟩))
      (rebound rescued).2 := by
  rw [← rebound_error rescued]
  exact plays_talk (hostAnswers_allowed rescued) _ _

/-- The other party binds the device before the first attempt; five attempts are rejected,
the last of them too while the device is bound to the driver. -/
theorem dishonest_rebind :
    ∃ e s, Plays (sharedWorld (fun e => e = busy) "13-0015") (rebindController "13-0015")
        ⟨.elan, [], none⟩ (.done (.error e)) s
      ∧ e.message = notRebound "13-0015" busy.message ∧ ¬ Honest s := by
  refine ⟨_, _, plays_rebound true, rfl, fun hhonest => ?_⟩
  have hattempt : (rebound true).2.attempt = some ⟨.elan, [.elan]⟩ := by decide +kernel
  exact hhonest _ hattempt rfl

/-- Nobody else touches the device, and the kernel rejects an unbound one. -/
theorem rebind_failure_honest_iff_rejected :
    Honest (rebound false).2 ∧ (rebound false).2.attempt ≠ none := by
  obtain ⟨hhonest, hattempt⟩ := rebind_failure_honest_iff (plays_rebound false) rfl
  refine ⟨hhonest.mpr ?_, hattempt (by decide)⟩
  have hfound : (rebound false).2.attempt = some ⟨.unbound, []⟩ := by decide +kernel
  intro attempt hmem
  rw [hfound] at hmem
  cases hmem
  exact nofun

end HonestRebind
