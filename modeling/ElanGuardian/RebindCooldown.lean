/-
# The cooldown after a rebind

After a rebind that returned `Ok`, how long does the monitor wait before it rebinds because
of a stalled consumer?  The cooldown of five seconds is counted from the beginning of the
pass, not from the return of the rebind, which may come nearly two seconds later.  The time
that a descriptor has to be readable is on top of it, so five seconds are kept if the
rebind has returned within that time (`stall_rebinds_are_rested`).  A device that binds at
the fifth attempt only is rebound again too early (`early_stall_rebind`).
-/
import ElanGuardian.MonitorClock

open Dialogue Sysfs Recover Monitor MonitorClock

namespace RebindCooldown

/-! ## Prompt rebinds -/

/-- A rebind that returns `Ok` does so at most `consumerBacklogGrace` after its pass began. -/
def Prompt (s : Timeline) (t : ℕ) : (c : Monitor.Call) → c.Answer → Prop
  | .rebindController _, .ok _ => t ≤ s.began + consumerBacklogGrace
  | _, _ => True

def promptWorld : World Timeline Services := fun s c a s' =>
  timedWorld s c a s' ∧ Prompt s s'.clock c a

/-- The cooldown has passed since every rebind that returned `Ok`. -/
def Cooled (s : Timeline) : Prop := ∀ r ∈ s.returned, r + recoveryCooldown ≤ s.clock

/-- A rebind for a stalled consumer starts only when all others are long over. -/
def Guarded (s : Timeline) (c : Monitor.Call) : Prop := ∀ key, stalledBy c = some key → Cooled s

/-- A call that announces no stalled consumer is guarded. -/
theorem guarded_of_not_stalled {s : Timeline} {c : Monitor.Call} (h : stalledBy c = none) :
    Guarded s c := forall_stalledBy h _

/-! ## What a pass keeps -/

/-- In the pass that began at `now`, with the deadline `til`: every rebind has returned soon
after the beginning of this pass at the latest, and the deadline takes care of it. -/
structure InPass (now : ℕ) (til : Option ℕ) (s : Timeline) : Prop where
  began : s.began = now
  passed : now ≤ s.clock
  done : ∀ r ∈ s.returned, r ≤ s.clock
  soon : ∀ r ∈ s.returned, r ≤ now + consumerBacklogGrace
  cooling : ∀ r ∈ s.returned, ∃ deadline, til = some deadline
    ∧ r + recoveryCooldown ≤ deadline + consumerBacklogGrace

/-- What has been readable was found so when the cooldown was nearly over. -/
def Fresh (b : BacklogObserver) (s : Timeline) : Prop :=
  ∀ key since, b.readySince key = some since →
    ∀ r ∈ s.returned, r + recoveryCooldown ≤ since + consumerBacklogGrace

/-- Between two passes. -/
structure Rested (m : Watch) (s : Timeline) : Prop where
  done : ∀ r ∈ s.returned, r ≤ s.clock
  cooling : ∀ r ∈ s.returned, ∃ deadline, m.recoveryCooldownUntil = some deadline
    ∧ r + recoveryCooldown ≤ deadline + consumerBacklogGrace
  fresh : Fresh m.backlog s

/-- The call neither begins a pass nor rebinds. -/
def Quiet : Monitor.Call → Prop
  | .now | .rebindController _ => False
  | c => stalledBy c = none

section Pass

variable {now : ℕ} {til : Option ℕ} {m : Watch} {b : BacklogObserver} {s s' : Timeline}
  {controllers : List Controller} {id : String}

/-- Time passes, and nothing else happens. -/
theorem InPass.still (h : InPass now til s) (hclock : s.clock ≤ s'.clock)
    (hbegan : s'.began = s.began) (hreturned : s'.returned = s.returned) : InPass now til s' where
  began := hbegan.trans h.began
  passed := h.passed.trans hclock
  done := by
    rw [hreturned]
    exact fun r hr => (h.done r hr).trans hclock
  soon := by
    rw [hreturned]
    exact h.soon
  cooling := by
    rw [hreturned]
    exact h.cooling

/-- A quiet call only takes time. -/
theorem still_of_quiet {c : Monitor.Call} {a : c.Answer} (hc : Quiet c)
    (hw : promptWorld s c a s') :
    s.clock ≤ s'.clock ∧ s'.began = s.began ∧ s'.returned = s.returned := by
  obtain ⟨⟨t, ht, -, rfl⟩, -⟩ := hw
  cases c with
  | now => exact hc.elim
  | rebindController id => exact hc.elim
  | discover => cases a <;> exact ⟨ht, rfl, rfl⟩
  | _ => exact ⟨ht, rfl, rfl⟩

/-- A quiet call in a pass. -/
theorem InPass.quiet {c : Monitor.Call} {a : c.Answer} (h : InPass now til s) (hc : Quiet c)
    (hw : promptWorld s c a s') : InPass now til s' := by
  obtain ⟨hclock, hbegan, hreturned⟩ := still_of_quiet hc hw
  exact h.still hclock hbegan hreturned

/-- A quiet call is guarded. -/
theorem guarded_of_quiet {c : Monitor.Call} (hc : Quiet c) : Guarded s c := by
  apply guarded_of_not_stalled
  cases c with
  | now => exact hc.elim
  | rebindController id => exact hc.elim
  | _ => exact hc

/-- A rebind that returns `Ok` sets a deadline that takes care of all rebinds so far. -/
theorem InPass.rebound {r : RecoveredController} (h : InPass now til s)
    (hw : promptWorld s (.rebindController id) (.ok r) s') :
    InPass now (some (now + recoveryCooldown)) s' := by
  obtain ⟨⟨t, ht, -, rfl⟩, hprompt⟩ := hw
  have hsoon : ∀ r ∈ t :: s.returned, r ≤ now + consumerBacklogGrace := by
    intro r hr
    rcases List.mem_cons.mp hr with rfl | hr
    · rw [← h.began]
      exact hprompt
    · exact h.soon r hr
  constructor
  · exact h.began
  · exact h.passed.trans ht
  · intro r hr
    rcases List.mem_cons.mp hr with rfl | hr
    · exact le_rfl
    · exact (h.done r hr).trans ht
  · exact hsoon
  · intro r hr
    refine ⟨_, rfl, ?_⟩
    have hr := hsoon r hr
    omega

/-- A rebind that fails only takes time. -/
theorem InPass.failed {e : IoError} (h : InPass now til s)
    (hw : promptWorld s (.rebindController id) (.error e) s') : InPass now til s' := by
  obtain ⟨⟨t, ht, -, rfl⟩, -⟩ := hw
  exact h.still ht rfl rfl

/-- Nothing has been readable. -/
theorem fresh_empty : Fresh .empty s := by
  intro key since h
  exact absurd h (by simp [BacklogObserver.empty])

/-- It only depends on the rebinds that have returned. -/
theorem Fresh.of_returned (h : Fresh b s) (hreturned : s'.returned = s.returned) : Fresh b s' := by
  unfold Fresh
  rw [hreturned]
  exact h

/-- The end of a pass. -/
theorem InPass.rested (h : InPass now m.recoveryCooldownUntil s) (hfresh : Fresh m.backlog s) :
    Rested m s :=
  ⟨h.done, h.cooling, hfresh⟩

/-- The beginning of a pass. -/
theorem Rested.begin (h : Rested m s) (hw : promptWorld s .now now s') :
    InPass now m.recoveryCooldownUntil s' ∧ Fresh m.backlog s' := by
  obtain ⟨⟨t, ht, hnow, rfl⟩, -⟩ := hw
  obtain rfl : now = t := hnow
  refine ⟨⟨rfl, le_rfl, fun r hr => (h.done r hr).trans ht, fun r hr => ?_, h.cooling⟩, h.fresh⟩
  have hr := h.done r hr
  show r ≤ now + consumerBacklogGrace
  omega

/-- While `recovered` is not set, the backlog is fresh. -/
def CounterLoop (now : ℕ) (recovered : Bool) (m : Watch) (s : Timeline) : Prop :=
  InPass now m.recoveryCooldownUntil s ∧ (recovered = false → Fresh m.backlog s)

/-- Time passes in the counter branch. -/
theorem CounterLoop.still {recovered : Bool} (h : CounterLoop now recovered m s)
    (hclock : s.clock ≤ s'.clock) (hbegan : s'.began = s.began)
    (hreturned : s'.returned = s.returned) : CounterLoop now recovered m s' :=
  ⟨h.1.still hclock hbegan hreturned, fun hr => (h.2 hr).of_returned hreturned⟩

/-- A quiet call in the counter branch. -/
theorem CounterLoop.quiet {recovered : Bool} {c : Monitor.Call} {a : c.Answer}
    (h : CounterLoop now recovered m s) (hc : Quiet c) (hw : promptWorld s c a s') :
    CounterLoop now recovered m s' := by
  obtain ⟨hclock, hbegan, hreturned⟩ := still_of_quiet hc hw
  exact h.still hclock hbegan hreturned

/-- The rebind of one controller in the counter branch. -/
theorem rebindAfterRecovery_keeps {recovered : Bool} (h : CounterLoop now recovered m s) :
    Always promptWorld Guarded (fun r => CounterLoop now (recovered || r.1) r.2)
      (rebindAfterRecovery now id m) s := by
  refine ⟨guarded_of_not_stalled rfl, fun _ s₁ hw => ?_⟩
  have h₁ := h.quiet (c := .eprintln (.recoveryObserved id)) rfl hw
  refine ⟨guarded_of_not_stalled rfl, fun r s₂ hw => ?_⟩
  cases r with
  | ok r =>
    refine ⟨guarded_of_not_stalled rfl, fun _ s₃ hw' => ?_⟩
    have h₂ := (h₁.1.rebound hw).quiet (c := .eprintln (.rebound r)) rfl hw'
    exact ⟨h₂, fun hr => absurd hr (by simp)⟩
  | error e =>
    obtain ⟨⟨t, ht, -, rfl⟩, -⟩ := hw
    have h₂ : CounterLoop now recovered m (s₁.record t (.rebindController id) (.error e)) :=
      h₁.still ht rfl rfl
    refine ⟨guarded_of_not_stalled rfl, fun _ s₃ hw' => ?_⟩
    show CounterLoop now (recovered || false) m s₃
    rw [Bool.or_false]
    exact h₂.quiet (c := .eprintln (.rebindFailed id e)) rfl hw'

/-- The counter branch, controller by controller. -/
theorem watchCounters_keeps {recovered : Bool} (h : CounterLoop now recovered m s) :
    Always promptWorld Guarded (fun r => CounterLoop now r.1 r.2)
      (watchCounters now recovered m controllers) s := by
  induction controllers generalizing recovered m s with
  | nil => exact h
  | cons controller rest ih =>
    unfold watchCounters
    cases reading controller with
    | none => exact ih h
    | some count =>
      dsimp only
      split_ifs
      · refine Always.bind (rebindAfterRecovery_keeps h) fun r t ht => ?_
        exact ih ht
      · exact ih h

/-- The cooldown is over, and the monitor looks at the consumers. -/
structure Open (now : ℕ) (til : Option ℕ) (b : BacklogObserver) (s : Timeline) : Prop where
  inPass : InPass now til s
  fresh : Fresh b s
  expired : ∀ r ∈ s.returned, r + recoveryCooldown ≤ now + consumerBacklogGrace

/-- After the counter branch, if no cooldown is left. -/
theorem CounterLoop.open (h : CounterLoop now false m s)
    (hexpired : ¬ m.recoveryCooldownUntil.any (fun deadline => now < deadline) = true) :
    Open now m.recoveryCooldownUntil m.backlog s := by
  refine ⟨h.1, h.2 rfl, fun r hr => ?_⟩
  obtain ⟨deadline, hdeadline, hle⟩ := h.1.cooling r hr
  rw [hdeadline, Option.any_some, decide_eq_true_eq] at hexpired
  omega

/-- A quiet call in the consumer branch. -/
theorem Open.quiet {c : Monitor.Call} {a : c.Answer} (h : Open now til b s) (hc : Quiet c)
    (hw : promptWorld s c a s') : Open now til b s' := by
  obtain ⟨hclock, hbegan, hreturned⟩ := still_of_quiet hc hw
  refine ⟨h.inPass.still hclock hbegan hreturned, h.fresh.of_returned hreturned, ?_⟩
  rw [hreturned]
  exact h.expired

/-- Quiet programs in the consumer branch. -/
theorem Open.always {α : Type} {p : Monitor.Program α} (h : Open now til b s)
    (hp : Asks Quiet p) : Always promptWorld Guarded (fun _ => Open now til b) p s :=
  Always.of_asks hp h (fun _ _ _ hc => guarded_of_quiet hc) fun _ _ _ _ hs hc hw => hs.quiet hc hw

/-- What has become readable in this pass is fresh, too. -/
theorem Open.observe {samples : List (ConsumerKey × Bool)} {grace : ℕ} (h : Open now til b s) :
    Open now til (b.observe now samples grace).2 s := by
  refine ⟨h.inPass, fun key since hsince r hr => ?_, h.expired⟩
  rcases BacklogObserver.observe_since hsince with hold | rfl
  · exact h.fresh key since hold r hr
  · exact h.expired r hr

/-- A descriptor that is stalled now became readable late enough. -/
theorem Open.cooled {samples : List (ConsumerKey × Bool)} {key : ConsumerKey}
    (h : Open now til b s)
    (hstalled : (b.observe now samples consumerBacklogGrace).1 = some key) : Cooled s := by
  obtain ⟨since, hsince, hgrace⟩ := BacklogObserver.observe_stalled hstalled
  intro r hr
  have hfresh := h.observe.fresh key since hsince r hr
  have hpassed := h.inPass.passed
  have hpositive : 0 < consumerBacklogGrace := by decide
  omega

/-- A rebind for a stalled consumer, after the cooldown. -/
theorem rebindStalled_keeps {stalled : ConsumerKey} (hcooled : Cooled s)
    (h : InPass now m.recoveryCooldownUntil s) :
    Always promptWorld Guarded Rested (rebindStalled now stalled id m) s := by
  refine ⟨fun _ _ => hcooled, fun _ s₁ hw => ?_⟩
  obtain ⟨⟨t, ht, -, rfl⟩, -⟩ := hw
  have h₁ : InPass now m.recoveryCooldownUntil
      (s.record t (.eprintln (.consumerStalled stalled id)) ()) := h.still ht rfl rfl
  refine ⟨guarded_of_not_stalled rfl, fun r s₂ hw => ?_⟩
  cases r with
  | ok r =>
    refine ⟨guarded_of_not_stalled rfl, fun _ s₃ hw' => ?_⟩
    have h₂ := (h₁.rebound hw).quiet (c := .eprintln (.rebound r)) rfl hw'
    exact InPass.rested (m := (m.rebound id now).restartBacklog) h₂ fresh_empty
  | error e =>
    refine ⟨guarded_of_not_stalled rfl, fun _ s₃ hw' => ?_⟩
    have h₂ := (h₁.failed hw).quiet (c := .eprintln (.stallRebindFailed id e)) rfl hw'
    exact InPass.rested (m := m.restartBacklog) h₂ fresh_empty

/-- The samples of a pass. -/
theorem judgeSamples_keeps {samples : List (ConsumerKey × Bool)}
    (h : Open now m.recoveryCooldownUntil m.backlog s) :
    Always promptWorld Guarded Rested (judgeSamples now controllers samples m) s := by
  unfold judgeSamples
  split
  rename_i stalled backlog heq
  have hfresh : Fresh (m.backlog.observe now samples consumerBacklogGrace).2 s := h.observe.fresh
  rw [heq] at hfresh
  have hrested : Rested { m with backlog := backlog } s := ⟨h.inPass.done, h.inPass.cooling, hfresh⟩
  cases stalled with
  | none => exact hrested
  | some stalled =>
    dsimp only
    cases controllerOf controllers stalled.eventNode with
    | none => exact hrested
    | some controller =>
      have hcooled : Cooled s := h.cooled (by rw [heq])
      exact rebindStalled_keeps hcooled h.inPass

/-- The consumer branch. -/
theorem watchConsumers_keeps (h : Open now m.recoveryCooldownUntil m.backlog s) :
    Always promptWorld Guarded Rested (watchConsumers now controllers m) s := by
  have hrefresh : Asks Quiet (m.consumers.refreshIfDue controllers now) :=
    refreshIfDue_asks (fun _ => rfl) _
  refine (h.always hrefresh).bind fun r s₁ h₁ => ?_
  obtain ⟨refreshed, consumers⟩ := r
  dsimp only
  have hreport := (h₁.always (reportRefresh_asks (fun _ => rfl) (fun _ => rfl) refreshed
    { m with consumers := consumers })).and_yields (reportRefresh_yields _ _)
  refine hreport.bind fun m' s₂ h₂ => ?_
  obtain ⟨h₂, -, -, hbacklog, htil⟩ := h₂
  dsimp only at hbacklog htil
  rw [← hbacklog, ← htil] at h₂
  split_ifs
  · exact h₂.inPass.rested h₂.fresh
  · refine (h₂.always (readiness_asks (fun _ => rfl) _)).bind fun r s₃ h₃ => ?_
    exact judgeSamples_keeps (m := { m' with consumers := r.2 }) h₃

/-- A pass after its scan. -/
theorem watchScan_keeps {scan : IoResult Scan} (h : InPass now m.recoveryCooldownUntil s)
    (hfresh : Fresh m.backlog s) :
    Always promptWorld Guarded Rested (watchScan now scan m) s := by
  cases scan with
  | error e =>
    refine ⟨guarded_of_not_stalled rfl, fun _ s₁ hw => ?_⟩
    have h₁ := h.quiet (c := .eprintln (.scanFailed e)) rfl hw
    obtain ⟨-, -, hreturned⟩ := still_of_quiet (c := .eprintln (.scanFailed e)) rfl hw
    exact h₁.rested (hfresh.of_returned hreturned)
  | ok scan =>
    have hloop : CounterLoop now false m s := ⟨h, fun _ => hfresh⟩
    refine (watchCounters_keeps hloop).bind fun r s₁ h₁ => ?_
    obtain ⟨recovered, m'⟩ := r
    dsimp only at h₁ ⊢
    split_ifs with hrecovered
    · exact InPass.rested (m := m'.restartBacklog) h₁.1 fresh_empty
    · rw [Bool.or_eq_true, not_or] at hrecovered
      rw [Bool.not_eq_true] at hrecovered
      rw [hrecovered.1] at h₁
      exact watchConsumers_keeps (h₁.open hrecovered.2)

/-- **What a pass keeps.** -/
theorem pass_keeps {interval : ℕ} (h : Rested m s) :
    Always promptWorld Guarded Rested (pass interval m) s := by
  refine ⟨guarded_of_not_stalled rfl, fun now s₁ hw => ?_⟩
  obtain ⟨h₁, hfresh⟩ := h.begin hw
  refine ⟨guarded_of_not_stalled rfl, fun scan s₂ hw => ?_⟩
  obtain ⟨hclock, hbegan, hreturned⟩ := still_of_quiet (c := .discover) rfl hw
  have h₂ := h₁.still hclock hbegan hreturned
  refine (watchScan_keeps h₂ (hfresh.of_returned hreturned)).bind fun m' s₃ h₃ => ?_
  refine ⟨guarded_of_not_stalled rfl, fun _ s₄ hw => ?_⟩
  obtain ⟨hclock, -, hreturned⟩ := still_of_quiet (c := .sleep interval) rfl hw
  refine ⟨?_, ?_, h₃.fresh.of_returned hreturned⟩
  · rw [hreturned]
    exact fun r hr => (h₃.done r hr).trans hclock
  · rw [hreturned]
    exact h₃.cooling

end Pass

/-! ## Runs -/

section Runs

variable {interval clock₀ : ℕ} {p : Monitor.Program Watch} {s : Timeline} {key : ConsumerKey}

/-- Every call of a run is guarded. -/
theorem reaches_always (h : Reaches promptWorld interval clock₀ p s) :
    Always promptWorld Guarded Rested p s := by
  refine h.always ?_ fun m s hs => pass_keeps hs
  constructor
  · exact fun r hr => absurd hr List.not_mem_nil
  · exact fun r hr => absurd hr List.not_mem_nil
  · exact fresh_empty

/-- **The cooldown separates rebinds** that are prompt: no rebind for a stalled consumer
starts within five seconds after another rebind has returned `Ok`. -/
theorem stall_rebinds_are_rested (h : Reaches promptWorld interval clock₀ p s)
    (hstalled : p.next.bind stalledBy = some key) : Cooled s := by
  have halways := reaches_always h
  cases p with
  | done m => exact absurd hstalled (by simp [next])
  | ask c k => exact halways.1 key hstalled

/-- A scan that finds the touchpad, whose kernel has recovered it before the first rebind. -/
def touchpadScan (s : Timeline) : Scan where
  controllers :=
    [⟨"7-0015", some (if s.returned.isEmpty then "recoveries=1" else "recoveries=0"), none,
      ["/dev/input/event9"]⟩]
  distinct := List.nodup_singleton _

/-- A desk whose device binds at once, as long as that is prompt. -/
def promptDesk : Desk where
  driver id s := (rebindDevice true 0 id s.clock).2.clock ≤ s.began + consumerBacklogGrace
  failures := 0
  scan := touchpadScan
  poll _ _ := .ready

/-- The desktop answers promptly. -/
theorem promptDesk_prompt (s : Timeline) (c : Monitor.Call) :
    promptWorld s c (promptDesk.answers s c).1 (promptDesk.answers s c).2 := by
  refine ⟨promptDesk.answers_allowed s c, ?_⟩
  cases c with
  | rebindController id =>
    show Prompt s (s.record (rebindDevice (promptDesk.driver id s) 0 id s.clock).2.clock
      (.rebindController id) _).clock (.rebindController id)
      (rebindDevice (promptDesk.driver id s) 0 id s.clock).1
    rw [record_clock]
    cases hdriver : promptDesk.driver id s with
    | true =>
      have hprompt : (rebindDevice true 0 id s.clock).2.clock ≤ s.began + consumerBacklogGrace :=
        of_decide_eq_true hdriver
      cases (rebindDevice true 0 id s.clock).1 with
      | ok r => exact hprompt
      | error e => exact trivial
    | false =>
      obtain ⟨e, he⟩ := rebindDevice_without_driver 0 id s.clock
      rw [he]
      exact trivial
  | _ => exact trivial

/-- The first rebind returns after 100 ms, and the next one starts 6.4 s later. -/
theorem stall_rebinds_are_rested_promptDesk :
    ∃ p s, Reaches promptWorld (millis 800) 0 p s ∧ p.next.bind stalledBy = some consumerKey
      ∧ s.returned = [millis 100] ∧ s.clock = millis 6500 ∧ Cooled s := by
  have hreach : Reaches promptWorld (millis 800) 0 (promptDesk.run (millis 800) 8).1
      (promptDesk.run (millis 800) 8).2 := loops_talkInto promptDesk_prompt _ _
  have hstalled : (promptDesk.run (millis 800) 8).1.next.bind stalledBy = some consumerKey := by
    decide +kernel
  refine ⟨_, _, hreach, hstalled, ?_, ?_, stall_rebinds_are_rested hreach hstalled⟩
  · decide +kernel
  · decide +kernel

/-- A desk whose device binds at the fifth attempt. -/
def slowDesk : Desk := ⟨fun _ _ => true, 4, touchpadScan, fun _ _ => .ready⟩

/-- The rebind returns after 1.95 s, and four seconds later the next one starts. -/
theorem early_stall_rebind : ¬ ∀ (interval clock₀ : ℕ) p s key,
    Reaches timedWorld interval clock₀ p s → p.next.bind stalledBy = some key → Cooled s := by
  intro h
  have hreach : Reaches timedWorld (millis 800) 0 (slowDesk.run (millis 800) 5).1
      (slowDesk.run (millis 800) 5).2 := loops_talkInto slowDesk.answers_allowed _ _
  have hstalled : (slowDesk.run (millis 800) 5).1.next.bind stalledBy = some consumerKey := by
    decide +kernel
  have hcooled := h _ _ _ _ _ hreach hstalled (millis 1950) (by decide +kernel)
  have hclock : (slowDesk.run (millis 800) 5).2.clock = millis 5950 := by decide +kernel
  rw [hclock] at hcooled
  exact absurd hcooled (by decide)

end Runs

end RebindCooldown
