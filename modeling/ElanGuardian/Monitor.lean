/-
# The watch monitor

`watch::monitor` (`src/watch.rs`) and the observers it keeps (`src/consumer.rs`): every
pass reads the kernel's recovery counters and rebinds the controllers whose counter has
risen; then, unless a rebind was recent, it polls the descriptors that libinput consumers
hold and rebinds the controller of one that has stayed readable for too long.

The scan of `/proc`, the discovery of controllers and `rebind_controller` are calls here;
`Sysfs` and `Recover` hold what the last two do.

* `rebinds_eq_announced`: a controller is rebound right after its rebind has been announced, and
  at no other time.
-/
import ElanGuardian.Recover
import ElanGuardian.Transcript

open Dialogue Sysfs Recover

namespace Monitor

def consumerRefreshInterval : ℕ := secs 2

def consumerBacklogGrace : ℕ := millis 750

def recoveryCooldown : ℕ := secs 5

/-! ## Calls -/

/-- The descriptor of a consumer process, with the event node it has open. -/
structure ConsumerKey where
  pid : ℕ
  remoteFd : ℕ
  eventNode : String
  deriving DecidableEq

/-- A descriptor that the monitor has duplicated for polling. -/
structure ConsumerFd where
  key : ConsumerKey
  localFd : ℕ
  deriving DecidableEq

inductive FdReadiness
  | idle
  | ready
  | dead
  deriving DecidableEq

/-- The controllers of one scan.  They are found as the entries of one directory, so no two
have the same name. -/
structure Scan where
  controllers : List Controller
  distinct : (controllers.map Controller.id).Nodup

/-- What the monitor prints. -/
inductive Line
  /-- `kernel recovery observed on <id>; rebinding controller` -/
  | recoveryObserved (id : String)
  /-- `rebound <id> (<event nodes>)` -/
  | rebound (recovered : RecoveredController)
  /-- `rebind of <id> failed: <error>` -/
  | rebindFailed (id : String) (error : IoError)
  /-- `monitoring <count> registered libinput ELAN fd(s)` -/
  | monitoring (count : ℕ)
  /-- `consumer backlog monitoring unavailable: <error>` -/
  | monitoringUnavailable (error : IoError)
  /-- `libinput consumer pid <pid> fd <fd> left <event node> unread for 750 ms; rebinding <id>` -/
  | consumerStalled (stalled : ConsumerKey) (id : String)
  /-- `consumer-stall rebind of <id> failed: <error>` -/
  | stallRebindFailed (id : String) (error : IoError)
  /-- `controller scan failed: <error>` -/
  | scanFailed (error : IoError)
  deriving DecidableEq

inductive Call
  | now
  | discover
  | rebindController (id : String)
  | discoverConsumers (eventNodes : List String)
  | poll (fd : ConsumerFd)
  | eprintln (line : Line)
  | sleep (d : ℕ)
  deriving DecidableEq

abbrev Call.Answer : Call → Type
  | .now => ℕ
  | .discover => IoResult Scan
  | .rebindController _ => IoResult RecoveredController
  | .discoverConsumers _ => IoResult (List ConsumerFd)
  | .poll _ => IoResult FdReadiness
  | .eprintln _ => Unit
  | .sleep _ => Unit

/-- What the monitor rests on. -/
abbrev Services : Interface := ⟨Call, Call.Answer⟩

abbrev Program (α : Type) : Type := Dialogue Services α

/-! ## Recovery counters -/

/-- `RecoveryObserver`: the count last remembered for each controller. -/
structure RecoveryObserver where
  seen : String → Option ℕ

/-- `RecoveryObserver::default`. -/
def RecoveryObserver.empty : RecoveryObserver := ⟨fun _ => none⟩

def RecoveryObserver.previous (o : RecoveryObserver) (id : String) : ℕ := (o.seen id).getD 0

def RecoveryObserver.mark (o : RecoveryObserver) (id : String) (recoveries : ℕ) :
    RecoveryObserver :=
  ⟨Function.update o.seen id (some recoveries)⟩

def RecoveryObserver.observeRecovery (o : RecoveryObserver) (id : String) (recoveries : ℕ) :
    Bool × RecoveryObserver :=
  (decide (recoveries > o.previous id), o.mark id recoveries)

@[simp] theorem RecoveryObserver.previous_mark (o : RecoveryObserver) (id : String) (n : ℕ) :
    (o.mark id n).previous id = n := by
  simp [previous, mark]

@[simp] theorem RecoveryObserver.previous_mark_of_ne (o : RecoveryObserver) {id id' : String}
    (h : id' ≠ id) (n : ℕ) : (o.mark id n).previous id' = o.previous id' := by
  simp [previous, mark, h]

def isAsciiWhitespace (c : Char) : Bool := c ∈ [' ', '\t', '\n', '\x0c', '\r']

/-- `recovery_count`. -/
def recoveryCount (status : String) : Option ℕ :=
  (((status.toList.splitOnP isAsciiWhitespace).filter (· ≠ [])).findSome? fun field =>
    "recoveries=".toList.isPrefixOf? field).bind (parseUnsigned 64)

example : recoveryCount "enabled=1 recoveries=7 reports=4219 report_errors=0" = some 7 := by decide

/-- The count that a pass reads from a controller, if it can be read. -/
def reading (controller : Controller) : Option ℕ := controller.runtimeWatchdog.bind recoveryCount

/-! ## Consumers -/

/-- `ConsumerMonitor`; its refresh interval is always `consumerRefreshInterval`. -/
structure ConsumerMonitor where
  consumers : List ConsumerFd
  refreshedAt : Option ℕ

def ConsumerMonitor.empty : ConsumerMonitor := ⟨[], none⟩

/-- `force_refresh`. -/
def ConsumerMonitor.forceRefresh (_ : ConsumerMonitor) : ConsumerMonitor := ⟨[], none⟩

/-- `discover_consumers`, which asks nobody when there are no event nodes. -/
def discoverConsumers (eventNodes : List String) : Program (IoResult (List ConsumerFd)) :=
  if eventNodes.isEmpty then pure (.ok []) else call (I := Services) (.discoverConsumers eventNodes)

/-- `refresh_if_due`. -/
def ConsumerMonitor.refreshIfDue (m : ConsumerMonitor) (controllers : List Controller) (now : ℕ) :
    Program (IoResult Bool × ConsumerMonitor) :=
  if m.refreshedAt.any fun last => now - last < consumerRefreshInterval then
    pure (.ok false, m)
  else do
    match ← discoverConsumers (controllers.flatMap Controller.eventNodes) with
    | .error error => pure (.error error, m)
    | .ok discovered => pure (.ok true, ⟨discovered, some now⟩)

/-- The loop of `readiness`: the samples, and the consumers that stay. -/
def pollConsumers : List ConsumerFd → Program (List (ConsumerKey × Bool) × List ConsumerFd)
  | [] => pure ([], [])
  | fd :: rest => do
    match ← call (I := Services) (.poll fd) with
    | .ok .ready =>
      let (samples, retained) ← pollConsumers rest
      pure ((fd.key, true) :: samples, fd :: retained)
    | .ok .idle =>
      let (samples, retained) ← pollConsumers rest
      pure ((fd.key, false) :: samples, fd :: retained)
    | _ => pollConsumers rest

/-- `readiness`. -/
def ConsumerMonitor.readiness (m : ConsumerMonitor) :
    Program (List (ConsumerKey × Bool) × ConsumerMonitor) := do
  let (samples, retained) ← pollConsumers m.consumers
  pure (samples, { m with consumers := retained })

/-- `BacklogObserver`: since when each descriptor has been readable. -/
structure BacklogObserver where
  readySince : ConsumerKey → Option ℕ

def BacklogObserver.empty : BacklogObserver := ⟨fun _ => none⟩

/-- `clear`. -/
def BacklogObserver.clear (_ : BacklogObserver) : BacklogObserver := .empty

/-- The `retain` of `observe`: only descriptors with a sample are kept. -/
def BacklogObserver.retain (b : BacklogObserver) (samples : List (ConsumerKey × Bool)) :
    BacklogObserver :=
  ⟨fun key => if key ∈ samples.map Prod.fst then b.readySince key else none⟩

/-- `ready_since.remove`. -/
def BacklogObserver.remove (b : BacklogObserver) (key : ConsumerKey) : BacklogObserver :=
  ⟨Function.update b.readySince key none⟩

/-- `ready_since.entry(key).or_insert(now)`, with what the entry then is. -/
def BacklogObserver.orInsert (b : BacklogObserver) (key : ConsumerKey) (now : ℕ) :
    ℕ × BacklogObserver :=
  let since := (b.readySince key).getD now
  (since, ⟨Function.update b.readySince key (some since)⟩)

/-- The loop of `observe`. -/
def BacklogObserver.observeSamples (now grace : ℕ) (b : BacklogObserver) :
    List (ConsumerKey × Bool) → Option ConsumerKey × BacklogObserver
  | [] => (none, b)
  | (key, false) :: rest => observeSamples now grace (b.remove key) rest
  | (key, true) :: rest =>
    let (since, b) := b.orInsert key now
    if now - since ≥ grace then (some key, b) else observeSamples now grace b rest

/-- `observe`. -/
def BacklogObserver.observe (b : BacklogObserver) (now : ℕ) (samples : List (ConsumerKey × Bool))
    (grace : ℕ) : Option ConsumerKey × BacklogObserver :=
  (b.retain samples).observeSamples now grace samples

section Observe

variable {b : BacklogObserver} {now grace since : ℕ} {key k : ConsumerKey}
  {samples : List (ConsumerKey × Bool)}

/-- The other entries stay. -/
theorem BacklogObserver.remove_since :
    (b.remove k).readySince key = some since ↔ key ≠ k ∧ b.readySince key = some since := by
  unfold remove
  dsimp only
  by_cases hk : key = k
  · subst hk
    simp
  · rw [Function.update_of_ne hk]
    simp [hk]

/-- The entry is there with the time that is returned. -/
theorem BacklogObserver.orInsert_self :
    (b.orInsert k now).2.readySince k = some (b.orInsert k now).1 :=
  Function.update_self _ _ _

/-- The other entries stay. -/
theorem BacklogObserver.orInsert_of_ne (hk : key ≠ k) :
    (b.orInsert k now).2.readySince key = b.readySince key :=
  Function.update_of_ne hk _ _

/-- What is inserted is the entry that was there, or the present. -/
theorem BacklogObserver.orInsert_fst :
    b.readySince k = some (b.orInsert k now).1 ∨ (b.orInsert k now).1 = now := by
  unfold orInsert
  cases hb : b.readySince k with
  | none => exact .inr rfl
  | some old => exact .inl rfl

/-- A descriptor has been readable since an earlier pass, or since this one. -/
theorem BacklogObserver.orInsert_since (h : (b.orInsert k now).2.readySince key = some since) :
    b.readySince key = some since ∨ since = now := by
  by_cases hk : key = k
  · subst hk
    rw [orInsert_self, Option.some.injEq] at h
    rw [← h]
    exact orInsert_fst
  · rw [orInsert_of_ne hk] at h
    exact .inl h

/-- After the samples of a pass an entry is old, or of this pass. -/
theorem BacklogObserver.observeSamples_since
    (h : (observeSamples now grace b samples).2.readySince key = some since) :
    b.readySince key = some since ∨ since = now := by
  induction samples generalizing b with
  | nil => exact .inl h
  | cons sample rest ih =>
    obtain ⟨k, ready⟩ := sample
    cases ready with
    | false =>
      rcases ih h with h | h
      · exact .inl (remove_since.mp h).2
      · exact .inr h
    | true =>
      unfold observeSamples at h
      dsimp only at h
      split_ifs at h
      · exact orInsert_since h
      · rcases ih h with h | h
        · exact orInsert_since h
        · exact .inr h

/-- A stalled descriptor has been readable for the whole grace. -/
theorem BacklogObserver.observeSamples_stalled
    (h : (observeSamples now grace b samples).1 = some key) :
    ∃ since, (observeSamples now grace b samples).2.readySince key = some since
      ∧ grace ≤ now - since := by
  induction samples generalizing b with
  | nil => exact absurd h (by simp [observeSamples])
  | cons sample rest ih =>
    obtain ⟨k, ready⟩ := sample
    cases ready with
    | false => exact ih h
    | true =>
      unfold observeSamples at h ⊢
      dsimp only at h ⊢
      split_ifs at h ⊢ with hgrace
      · obtain rfl := Option.some.inj h
        exact ⟨_, orInsert_self, hgrace⟩
      · exact ih h

/-- After a pass an entry is old, or of this pass. -/
theorem BacklogObserver.observe_since
    (h : (b.observe now samples grace).2.readySince key = some since) :
    b.readySince key = some since ∨ since = now := by
  rcases observeSamples_since h with h | h
  · left
    unfold retain at h
    dsimp only at h
    split_ifs at h
    exact h
  · exact .inr h

/-- A descriptor that is reported has been in the table for the grace period. -/
theorem BacklogObserver.observe_stalled (h : (b.observe now samples grace).1 = some key) :
    ∃ since, (b.observe now samples grace).2.readySince key = some since ∧ grace ≤ now - since :=
  observeSamples_stalled h

end Observe

/-! ## The monitor -/

/-- The local variables of `monitor`. -/
structure Watch where
  observer : RecoveryObserver
  consumers : ConsumerMonitor
  backlog : BacklogObserver
  consumerCount : Option ℕ
  consumerErrorReported : Bool
  recoveryCooldownUntil : Option ℕ

def Watch.init : Watch := ⟨.empty, .empty, .empty, none, false, none⟩

/-- After a rebind that returned `Ok`: the count starts again, and so does the cooldown. -/
def Watch.rebound (m : Watch) (id : String) (now : ℕ) : Watch :=
  { m with
    observer := m.observer.mark id 0
    recoveryCooldownUntil := some (now + recoveryCooldown) }

/-- The backlog starts again, and the consumers are looked up again. -/
def Watch.restartBacklog (m : Watch) : Watch :=
  { m with backlog := m.backlog.clear, consumers := m.consumers.forceRefresh }

/-- A rebind because of the kernel's counter. -/
def rebindAfterRecovery (now : ℕ) (id : String) (m : Watch) : Program (Bool × Watch) := do
  call (I := Services) (.eprintln (.recoveryObserved id))
  match ← call (I := Services) (.rebindController id) with
  | .ok recovered =>
    call (I := Services) (.eprintln (.rebound recovered))
    pure (true, m.rebound id now)
  | .error error =>
    call (I := Services) (.eprintln (.rebindFailed id error))
    pure (false, m)

/-- The loop of a pass over the controllers; returns `recovered_this_pass` as well. -/
def watchCounters (now : ℕ) (recovered : Bool) (m : Watch) :
    List Controller → Program (Bool × Watch)
  | [] => pure (recovered, m)
  | controller :: rest =>
    match reading controller with
    | none => watchCounters now recovered m rest
    | some count =>
      let (observed, observer) := m.observer.observeRecovery controller.id count
      if observed then do
        let (rebound, m) ← rebindAfterRecovery now controller.id { m with observer := observer }
        watchCounters now (recovered || rebound) m rest
      else watchCounters now recovered { m with observer := observer.mark controller.id count } rest

/-- The report on the refreshed consumers. -/
def reportRefresh (refreshed : IoResult Bool) (m : Watch) : Program Watch :=
  match refreshed with
  | .ok refreshed =>
    let count := m.consumers.consumers.length
    if refreshed && m.consumerCount ≠ some count then do
      call (I := Services) (.eprintln (.monitoring count))
      pure { m with consumerErrorReported := false, consumerCount := some count }
    else pure { m with consumerErrorReported := false }
  | .error error =>
    if m.consumerErrorReported then pure m
    else do
      call (I := Services) (.eprintln (.monitoringUnavailable error))
      pure { m with consumerErrorReported := true }

/-- A rebind because of a consumer that has stopped reading. -/
def rebindStalled (now : ℕ) (stalled : ConsumerKey) (id : String) (m : Watch) : Program Watch := do
  call (I := Services) (.eprintln (.consumerStalled stalled id))
  match ← call (I := Services) (.rebindController id) with
  | .ok recovered =>
    call (I := Services) (.eprintln (.rebound recovered))
    pure (m.rebound id now).restartBacklog
  | .error error =>
    call (I := Services) (.eprintln (.stallRebindFailed id error))
    pure m.restartBacklog

/-- The controller of an event node. -/
def controllerOf (controllers : List Controller) (eventNode : String) : Option Controller :=
  controllers.find? fun controller => eventNode ∈ controller.eventNodes

/-- What a pass does with the samples of the consumers. -/
def judgeSamples (now : ℕ) (controllers : List Controller) (samples : List (ConsumerKey × Bool))
    (m : Watch) : Program Watch :=
  let (stalled, backlog) := m.backlog.observe now samples consumerBacklogGrace
  match stalled with
  | none => pure { m with backlog := backlog }
  | some stalled =>
    match controllerOf controllers stalled.eventNode with
    | none => pure { m with backlog := backlog }
    | some controller => rebindStalled now stalled controller.id { m with backlog := backlog }

/-- The consumer branch of a pass. -/
def watchConsumers (now : ℕ) (controllers : List Controller) (m : Watch) : Program Watch := do
  let (refreshed, consumers) ← m.consumers.refreshIfDue controllers now
  let m ← reportRefresh refreshed { m with consumers := consumers }
  if m.consumers.consumers.isEmpty then pure m
  else do
    let (samples, consumers) ← m.consumers.readiness
    judgeSamples now controllers samples { m with consumers := consumers }

/-- What a pass does once the controllers are known. -/
def watchControllers (now : ℕ) (controllers : List Controller) (m : Watch) : Program Watch := do
  let (recovered, m) ← watchCounters now false m controllers
  if recovered || m.recoveryCooldownUntil.any fun deadline => now < deadline then
    pure m.restartBacklog
  else watchConsumers now controllers m

/-- What a pass does with its scan. -/
def watchScan (now : ℕ) (scan : IoResult Scan) (m : Watch) : Program Watch :=
  match scan with
  | .ok scan => watchControllers now scan.controllers m
  | .error error => do
    call (I := Services) (.eprintln (.scanFailed error))
    pure m

/-- One round of the loop of `monitor`. -/
def pass (interval : ℕ) (m : Watch) : Program Watch := do
  let now ← call (I := Services) .now
  let scan ← call (I := Services) .discover
  let m ← watchScan now scan m
  call (I := Services) (.sleep interval)
  pure m

/-! ## The calls of the consumer branch -/

/-- The descriptor for which a rebind is announced; the next call is that rebind
(`rebind_of_announces`). -/
def stalledBy : Call → Option ConsumerKey
  | .eprintln (.consumerStalled key _) => some key
  | _ => none

/-- What is promised of the announcements is met by every other call. -/
theorem forall_stalledBy {c : Call} (h : stalledBy c = none) (P : ConsumerKey → Prop) :
    ∀ key, stalledBy c = some key → P key := by
  intro key hkey
  rw [h] at hkey
  exact absurd hkey (by simp)

section Calls

variable {P : Call → Prop} {now : ℕ} {controllers : List Controller}

/-- A refresh makes no calls but the one that discovers the consumers. -/
theorem refreshIfDue_asks (h : ∀ nodes, P (.discoverConsumers nodes)) (m : ConsumerMonitor) :
    Asks P (m.refreshIfDue controllers now) := by
  unfold ConsumerMonitor.refreshIfDue
  split_ifs
  · exact trivial
  · refine Asks.bind ?_ fun r => ?_
    · unfold discoverConsumers
      split_ifs
      · exact trivial
      · exact asks_call (h _)
    · cases r <;> exact trivial

/-- Polling makes no calls but the polls. -/
theorem pollConsumers_asks (h : ∀ fd, P (.poll fd)) (fds : List ConsumerFd) :
    Asks P (pollConsumers fds) := by
  induction fds with
  | nil => exact trivial
  | cons fd rest ih =>
    refine Asks.bind (asks_call (h fd)) fun r => ?_
    rcases r with e | readiness
    · exact ih
    · cases readiness with
      | ready => exact ih.bind fun _ => trivial
      | idle => exact ih.bind fun _ => trivial
      | dead => exact ih

/-- And neither does the readiness of the consumers. -/
theorem readiness_asks (h : ∀ fd, P (.poll fd)) (m : ConsumerMonitor) : Asks P m.readiness :=
  (pollConsumers_asks h m.consumers).bind fun _ => trivial

/-- The report of a refresh makes no calls but the two lines. -/
theorem reportRefresh_asks (hok : ∀ count, P (.eprintln (.monitoring count)))
    (herror : ∀ e, P (.eprintln (.monitoringUnavailable e))) (refreshed : IoResult Bool)
    (m : Watch) : Asks P (reportRefresh refreshed m) := by
  unfold reportRefresh
  cases refreshed with
  | ok refreshed =>
    dsimp only
    split_ifs
    · exact Asks.bind (asks_call (hok _)) fun _ => trivial
    · exact trivial
  | error error =>
    dsimp only
    split_ifs
    · exact trivial
    · exact Asks.bind (asks_call (herror _)) fun _ => trivial

/-- The report changes nothing that decides about rebinds. -/
theorem reportRefresh_yields (refreshed : IoResult Bool) (m : Watch) :
    Yields (fun m' => m'.observer = m.observer ∧ m'.consumers = m.consumers
        ∧ m'.backlog = m.backlog ∧ m'.recoveryCooldownUntil = m.recoveryCooldownUntil)
      (reportRefresh refreshed m) := by
  unfold reportRefresh
  cases refreshed with
  | ok refreshed =>
    dsimp only
    split_ifs
    · exact fun _ => ⟨rfl, rfl, rfl, rfl⟩
    · exact ⟨rfl, rfl, rfl, rfl⟩
  | error error =>
    dsimp only
    split_ifs
    · exact ⟨rfl, rfl, rfl, rfl⟩
    · exact fun _ => ⟨rfl, rfl, rfl, rfl⟩

/-- The rebind after a recovery leaves the backlog and the consumers alone. -/
theorem rebindAfterRecovery_yields (id : String) (m : Watch) :
    Yields (fun r => r.2.backlog = m.backlog ∧ r.2.consumers = m.consumers)
      (rebindAfterRecovery now id m) := by
  refine fun _ r => ?_
  cases r with
  | ok r => exact fun _ => ⟨rfl, rfl⟩
  | error e => exact fun _ => ⟨rfl, rfl⟩

/-- The counters do not touch the backlog. -/
theorem watchCounters_yields {recovered : Bool} {m : Watch} {b : BacklogObserver}
    {consumers : ConsumerMonitor} (hbacklog : m.backlog = b)
    (hconsumers : m.consumers = consumers) :
    Yields (fun r => r.2.backlog = b ∧ r.2.consumers = consumers)
      (watchCounters now recovered m controllers) := by
  induction controllers generalizing recovered m with
  | nil => exact ⟨hbacklog, hconsumers⟩
  | cons controller rest ih =>
    unfold watchCounters
    cases reading controller with
    | none => exact ih hbacklog hconsumers
    | some count =>
      dsimp only
      split_ifs
      · refine (rebindAfterRecovery_yields _ _).bind fun r hr => ?_
        exact ih (hr.1.trans hbacklog) (hr.2.trans hconsumers)
      · exact ih hbacklog hconsumers

end Calls

/-! ## Announcements and rebinds -/

section Announced

variable {α σ : Type} {now : ℕ} {controllers : List Controller} {said : Transcript Services}

/-- The controller whose rebind a line announces. -/
def announces : Call → Option String
  | .eprintln (.recoveryObserved id) => some id
  | .eprintln (.consumerStalled _ id) => some id
  | _ => none

/-- The controller that is rebound. -/
def rebinds : Call → Option String
  | .rebindController id => some id
  | _ => none

/-- The controller whose rebind the newest call has announced. -/
def announced (said : Transcript Services) : Option String :=
  said.head?.bind fun e => announces e.1

/-- Neither an announcement nor a rebind. -/
def Plain (c : Call) : Prop := announces c = none ∧ rebinds c = none

/-- A program rebinds what has just been announced and nothing else, and ends with no announcement
that is left. -/
def Announced (p : Program α) : Prop :=
  ∀ said, announced said = none → Always transcript (fun said c => rebinds c = announced said)
    (fun _ said => announced said = none) p said

/-- A program that makes neither call. -/
theorem Announced.plain {p : Program α} (hp : Asks Plain p) : Announced p := by
  intro said hsaid
  refine Always.of_asks (J := fun said => announced said = none) hp hsaid
    (fun _ _ hs hc => hc.2.trans hs.symm) ?_
  rintro _ c a _ _ hc rfl
  exact hc.1

/-- Rule for a sequence. -/
theorem Announced.bind {β : Type} {p : Program α} {f : α → Program β} (hp : Announced p)
    (hf : ∀ a, Announced (f a)) : Announced (p >>= f) :=
  fun said hsaid => (hp said hsaid).bind fun a said hsaid => hf a said hsaid

/-- One call that is neither, at the end. -/
theorem Announced.last {c : Call} {a : α} (hc : Plain c) :
    Announced (call (I := Services) c >>= fun _ => pure a) :=
  .plain ((asks_call (I := Services) hc).bind fun _ => trivial)

/-- The rebind after a recovery is announced just before. -/
theorem rebindAfterRecovery_announced (id : String) (m : Watch) :
    Announced (rebindAfterRecovery now id m) := by
  intro said hsaid
  refine ⟨hsaid.symm, ?_⟩
  rintro _ _ rfl
  refine ⟨rfl, ?_⟩
  rintro answer _ rfl
  cases answer with
  | ok recovered => exact Announced.last (c := .eprintln (.rebound recovered)) ⟨rfl, rfl⟩ _ rfl
  | error error => exact Announced.last (c := .eprintln (.rebindFailed id error)) ⟨rfl, rfl⟩ _ rfl

/-- And so is the rebind of a stalled consumer's controller. -/
theorem rebindStalled_announced (stalled : ConsumerKey) (id : String) (m : Watch) :
    Announced (rebindStalled now stalled id m) := by
  intro said hsaid
  refine ⟨hsaid.symm, ?_⟩
  rintro _ _ rfl
  refine ⟨rfl, ?_⟩
  rintro answer _ rfl
  cases answer with
  | ok recovered => exact Announced.last (c := .eprintln (.rebound recovered)) ⟨rfl, rfl⟩ _ rfl
  | error error =>
    exact Announced.last (c := .eprintln (.stallRebindFailed id error)) ⟨rfl, rfl⟩ _ rfl

/-- The rebinds of the counter branch. -/
theorem watchCounters_announced (recovered : Bool) (m : Watch) :
    Announced (watchCounters now recovered m controllers) := by
  induction controllers generalizing recovered m with
  | nil => exact Announced.plain trivial
  | cons controller rest ih =>
    unfold watchCounters
    cases reading controller with
    | none => exact ih _ _
    | some count =>
      dsimp only
      split_ifs
      · exact (rebindAfterRecovery_announced _ _).bind fun _ => ih _ _
      · exact ih _ _

/-- The rebind a backlog asks for. -/
theorem judgeSamples_announced (samples : List (ConsumerKey × Bool)) (m : Watch) :
    Announced (judgeSamples now controllers samples m) := by
  unfold judgeSamples
  obtain ⟨stalled, backlog⟩ := m.backlog.observe now samples consumerBacklogGrace
  cases stalled with
  | none => exact Announced.plain (p := pure _) trivial
  | some stalled =>
    dsimp only
    cases controllerOf controllers stalled.eventNode with
    | none => exact Announced.plain (p := pure _) trivial
    | some controller => exact rebindStalled_announced _ _ _

/-- The rebinds of the consumer branch. -/
theorem watchConsumers_announced (m : Watch) :
    Announced (watchConsumers now controllers m) := by
  have hrefresh : Asks Plain (m.consumers.refreshIfDue controllers now) :=
    refreshIfDue_asks (fun _ => ⟨rfl, rfl⟩) m.consumers
  refine (Announced.plain hrefresh).bind fun r => ?_
  have hreport := reportRefresh_asks (P := Plain) (fun _ => ⟨rfl, rfl⟩) (fun _ => ⟨rfl, rfl⟩) r.1
    { m with consumers := r.2 }
  refine (Announced.plain hreport).bind fun m => ?_
  split_ifs
  · exact Announced.plain trivial
  · have hpoll := readiness_asks (P := Plain) (fun _ => ⟨rfl, rfl⟩) m.consumers
    exact (Announced.plain hpoll).bind fun _ => judgeSamples_announced _ _

/-- The rebinds of a pass. -/
theorem pass_announced (interval : ℕ) (m : Watch) : Announced (pass interval m) := by
  refine (Announced.plain (asks_call ⟨rfl, rfl⟩)).bind fun now => ?_
  refine (Announced.plain (asks_call ⟨rfl, rfl⟩)).bind fun scan => ?_
  refine Announced.bind ?_ fun m => Announced.last (c := .sleep interval) ⟨rfl, rfl⟩
  unfold watchScan
  cases (scan : IoResult Scan) with
  | error error => exact Announced.last (c := .eprintln (.scanFailed error)) ⟨rfl, rfl⟩
  | ok scan =>
    refine (watchCounters_announced _ _).bind fun r => ?_
    dsimp only
    split_ifs
    · exact Announced.plain trivial
    · exact watchConsumers_announced _

/-- At every point of a run the next call rebinds what has just been announced. -/
theorem announced_of_loops {interval : ℕ} {p : Program Watch}
    (h : Loops transcript (pass interval) Watch.init [] p said) :
    Always transcript (fun said c => rebinds c = announced said)
      (fun _ said => announced said = none) p said :=
  h.always (J := fun _ said => announced said = none) rfl fun m said hsaid =>
    pass_announced interval m said hsaid

/-- **The monitor rebinds just what it announces.**  In every run, a call rebinds a controller
exactly if the call right before it has announced the rebind of that controller. -/
theorem rebinds_eq_announced {interval : ℕ} {p : Program Watch} {c : Call}
    (h : Loops transcript (pass interval) Watch.init [] p said) (hc : p.next = some c) :
    rebinds c = announced said := by
  have halways := announced_of_loops h
  cases p with
  | done m => cases hc
  | ask c' k =>
    cases hc
    exact halways.1

/-- **Every announcement is kept at once**, in whatever world: the next call is the rebind. -/
theorem rebind_of_announces {interval : ℕ} {w : World σ Services} {s₀ s : σ} {c : Call}
    {k : c.Answer → Program Watch} {id : String}
    (h : Loops w (pass interval) Watch.init s₀ (.ask c k) s) (hid : announces c = some id)
    (a : c.Answer) : (k a).next = some (.rebindController id) := by
  obtain ⟨said, hsaid⟩ := h.exists_transcript
  have halways := announced_of_loops (hsaid.answer (a := a) rfl)
  have hannounced : announced (⟨c, a⟩ :: said) = some id := hid
  cases hk : k a with
  | done m =>
    rw [hk] at halways
    rw [always_done, hannounced] at halways
    cases halways
  | ask c' k' =>
    rw [hk] at halways
    have hrebinds : rebinds c' = some id := halways.1.trans hannounced
    cases c' with
    | rebindController id' =>
      cases hrebinds
      rfl
    | _ => cases hrebinds

end Announced

end Monitor
