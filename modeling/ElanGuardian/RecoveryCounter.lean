/-
# Which kernel recoveries the monitor acts on

The monitor in a world where every controller has a recovery counter: it counts from 0 on
every bind and only grows while the device stays bound, and a rebind that returns `Ok` has
bound the device anew.  Others may rebind a device, too, and a rebind that fails may or may
not have bound it.

The log keeps, device by device, the samples that the monitor has read, its attempts, and
its successful rebinds (`own`).  A pass deals with every sample as `RecoveryObserver` says
(`pass_watched`), whatever happens to the other devices and to the consumers, so the facts
about one counter carry over.
-/
import ElanGuardian.CounterWatch
import ElanGuardian.Monitor

open Dialogue Sysfs Recover Monitor CounterWatch

namespace RecoveryCounter

/-! ## The world -/

inductive Record
  | round
  | sampled (id : String) (r : Reading)
  | attempted (id : String)
  | renewed (id : String)
  deriving DecidableEq

/-- The counters of the devices, and what the monitor has done so far. -/
structure Kernel where
  counter : String → Reading
  log : List Record

/-- The readable samples of a scan; `incarnation` says which binding each was taken from. -/
def samples (incarnation : String → ℕ) (controllers : List Controller) : List Record :=
  controllers.filterMap fun c =>
    (reading c).map fun n => .sampled c.id (toLex (incarnation c.id, n))

/-- Counters only move forward, whoever moves them; a rebind that returns `Ok` has made a
new binding.  An attempt is logged when it is announced; the next call is the rebind
(`Monitor.rebind_of_announces`). -/
def kernelWorld : World Kernel Services := fun s c a s' =>
  (∀ id, s.counter id ≤ s'.counter id) ∧
  match c, a with
  | .now, _ => s'.log = s.log ++ [.round]
  | .discover, .ok scan => ∃ incarnation : String → ℕ,
    s'.log = s.log ++ samples incarnation scan.controllers ∧
    ∀ c ∈ scan.controllers, ∀ n, reading c = some n →
      s.counter c.id ≤ toLex (incarnation c.id, n) ∧ toLex (incarnation c.id, n) ≤ s'.counter c.id
  | .rebindController id, .ok _ =>
    incarnation (s.counter id) < incarnation (s'.counter id) ∧ s'.log = s.log ++ [.renewed id]
  | .eprintln (.recoveryObserved id), _ => s'.log = s.log ++ [.attempted id]
  | _, _ => s'.log = s.log

/-- The entries of one device. -/
def entryOf (id : String) : Record → Option Entry
  | .round => some .round
  | .sampled id' r => if id' = id then some (.sampled r) else none
  | .attempted id' => if id' = id then some .attempted else none
  | .renewed id' => if id' = id then some .renewed else none

def own (id : String) (log : List Record) : List Entry := log.filterMap (entryOf id)

/-- The call leaves the log as it is, whatever is answered. -/
def Quiet : Monitor.Call → Prop
  | .now | .discover | .rebindController _ | .eprintln (.recoveryObserved _) => False
  | _ => True

/-! ## Samples of one device -/

/-- The count that a scan has read for `id`. -/
def due (id : String) (controllers : List Controller) : Option ℕ :=
  (controllers.find? fun c => c.id = id).bind reading

section Due

variable {id : String} {controller : Controller} {controllers : List Controller}

theorem due_nil : due id [] = none := rfl

/-- The controller that comes first. -/
theorem due_self : due controller.id (controller :: controllers) = reading controller := by
  rw [due, List.find?_cons_of_pos (by simp)]
  rfl

/-- Another controller than the first. -/
theorem due_of_ne (h : controller.id ≠ id) :
    due id (controller :: controllers) = due id controllers := by
  rw [due, due, List.find?_cons_of_neg (by simpa using h)]

/-- A controller that the scan has not found. -/
theorem due_of_not_mem (h : id ∉ controllers.map Controller.id) : due id controllers = none := by
  rw [due, List.find?_eq_none.mpr, Option.bind_none]
  intro c hc heq
  exact h (List.mem_map.mpr ⟨c, hc, of_decide_eq_true heq⟩)

/-- A controller whose counter cannot be read. -/
theorem due_of_unread (hnot : controller.id ∉ controllers.map Controller.id)
    (h : reading controller = none) : due id (controller :: controllers) = due id controllers := by
  by_cases hid : controller.id = id
  · subst hid
    rw [due_self, h, due_of_not_mem hnot]
  · exact due_of_ne hid

/-- A scan leaves at most one sample of a device. -/
theorem own_samples (incarnation : String → ℕ)
    (hdistinct : (controllers.map Controller.id).Nodup) :
    own id (samples incarnation controllers)
      = match due id controllers with
        | none => []
        | some n => [.sampled (toLex (incarnation id, n))] := by
  induction controllers with
  | nil => rfl
  | cons c rest ih =>
    rw [List.map_cons, List.nodup_cons] at hdistinct
    obtain ⟨hnot, hrest⟩ := hdistinct
    unfold samples own at ih ⊢
    cases hc : reading c with
    | none =>
      rw [List.filterMap_cons_none (by rw [hc]; rfl), ih hrest, due_of_unread hnot hc]
    | some n =>
      rw [List.filterMap_cons_some (by rw [hc]; rfl)]
      by_cases hid : c.id = id
      · subst hid
        rw [List.filterMap_cons_some (by simp [entryOf]; rfl), ih hrest, due_self, hc,
          due_of_not_mem hnot]
      · rw [List.filterMap_cons_none (by simp [entryOf, hid]), ih hrest, due_of_ne hid]

end Due

/-! ## What a pass keeps -/

/-- Every counter is where its entries put it, and the observer has dealt with all samples
but those of `controllers`. -/
def Watched (lo : String → Reading) (controllers : List Controller) (o : RecoveryObserver)
    (s : Kernel) : Prop :=
  ∀ id, Between (lo id) (own id s.log) (s.counter id) ∧
    match due id controllers with
    | none => Settled (own id s.log) (o.previous id)
    | some n => Due n (own id s.log) (o.previous id)

/-- Every attempt so far was made at its own reading. -/
def Sound (lo : String → Reading) (s : Kernel) : Prop :=
  ∀ id, (attempts (lo id) (own id s.log)).Pairwise (· < ·)

section Watched

variable {lo : String → Reading} {controllers rest : List Controller} {controller : Controller}
  {o : RecoveryObserver} {s s' : Kernel} {id : String} {n now : ℕ}

/-- What is watched is sound. -/
theorem Watched.sound (h : Watched lo controllers o s) : Sound lo s := by
  intro id
  obtain ⟨hbetween, hwatch⟩ := h id
  split at hwatch
  · exact hwatch.attempts_increase hbetween
  · exact hwatch.attempts_increase hbetween

/-- A device without a sample that is due. -/
theorem Watched.settled (h : Watched lo controllers o s) (hdue : due id controllers = none) :
    Settled (own id s.log) (o.previous id) := by
  have hwatch := (h id).2
  rwa [hdue] at hwatch

/-- A device with a sample that is due. -/
theorem Watched.due (h : Watched lo controllers o s) (hdue : due id controllers = some n) :
    Due n (own id s.log) (o.previous id) := by
  have hwatch := (h id).2
  rwa [hdue] at hwatch

/-- The log is unchanged, and counters have moved on. -/
theorem Watched.quiet (h : Watched lo controllers o s)
    (hcounter : ∀ id, s.counter id ≤ s'.counter id) (hlog : s'.log = s.log) :
    Watched lo controllers o s' := by
  intro id
  rw [hlog]
  exact ⟨(h id).1.mono (hcounter id), (h id).2⟩

/-- The entries of two logs. -/
theorem own_append {log log' : List Record} : own id (log ++ log') = own id log ++ own id log' :=
  List.filterMap_append

/-- A quiet call leaves everything watched. -/
theorem Watched.answer {c : Monitor.Call} {a : c.Answer} (h : Watched lo controllers o s)
    (hc : Quiet c) (hw : kernelWorld s c a s') : Watched lo controllers o s' := by
  obtain ⟨hcounter, hlog⟩ := hw
  cases c with
  | now => exact hc.elim
  | discover => exact hc.elim
  | rebindController id => exact hc.elim
  | eprintln line =>
    cases line with
    | recoveryObserved id => exact hc.elim
    | _ => exact h.quiet hcounter hlog
  | _ => exact h.quiet hcounter hlog

/-- Programs whose calls are all quiet leave everything watched. -/
theorem Watched.always {α : Type} {p : Monitor.Program α} (h : Watched lo controllers o s)
    (hp : Asks Quiet p) :
    Always kernelWorld (fun s _ => Sound lo s) (fun _ => Watched lo controllers o) p s :=
  Always.of_asks hp h (fun _ _ hs _ => hs.sound) fun _ _ _ _ hs hc hw => hs.answer hc hw

/-- A new pass. -/
theorem Watched.round (h : Watched lo [] o s) {t : ℕ} (hw : kernelWorld s .now t s') :
    Watched lo [] o s' := by
  obtain ⟨hcounter, hlog⟩ := hw
  intro id
  rw [hlog, own_append]
  have hround : Between (s'.counter id) [.round] (s'.counter id) := le_rfl
  refine ⟨((h id).1.mono (hcounter id)).append hround, ?_⟩
  exact (h.settled rfl).round

/-- The scan leaves the samples of its controllers to be dealt with. -/
theorem Watched.scan {scan : Scan} (h : Watched lo [] o s)
    (hw : kernelWorld s .discover (.ok scan) s') : Watched lo scan.controllers o s' := by
  obtain ⟨hcounter, incarnation, hlog, hsamples⟩ := hw
  intro id
  rw [hlog, own_append, own_samples incarnation scan.distinct]
  cases hdue : RecoveryCounter.due id scan.controllers with
  | none =>
    rw [List.append_nil]
    exact ⟨(h id).1.mono (hcounter id), h.settled rfl⟩
  | some n =>
    obtain ⟨c, hfind, hreading⟩ := Option.bind_eq_some_iff.mp hdue
    have hid : c.id = id := by simpa using List.find?_some hfind
    have hbounds := hsamples c (List.mem_of_find?_eq_some hfind) n hreading
    rw [hid] at hbounds
    have hsampled : Between (s.counter id) [.sampled (toLex (incarnation id, n))] (s'.counter id) :=
      ⟨hbounds.1, hbounds.2⟩
    refine ⟨(h id).1.append hsampled, ?_⟩
    exact (h.settled rfl).sampled

/-- An unreadable sample asks for nothing. -/
theorem Watched.skip (h : Watched lo (controller :: rest) o s)
    (hnot : controller.id ∉ rest.map Controller.id) (hreading : reading controller = none) :
    Watched lo rest o s := by
  intro id
  have hid := h id
  rw [due_of_unread hnot hreading] at hid
  exact hid

/-- A count that is not above the one remembered is remembered. -/
theorem Watched.ignore (h : Watched lo (controller :: rest) o s)
    (hnot : controller.id ∉ rest.map Controller.id) (hreading : reading controller = some n)
    (hgrown : ¬ o.previous controller.id < n) :
    Watched lo rest ((o.mark controller.id n).mark controller.id n) s := by
  intro id
  refine ⟨(h id).1, ?_⟩
  by_cases hid : controller.id = id
  · subst hid
    rw [due_of_not_mem hnot, RecoveryObserver.previous_mark]
    exact (h.due (due_self.trans hreading)).ignored hgrown
  · have hwatch := (h id).2
    rw [due_of_ne hid] at hwatch
    rwa [RecoveryObserver.previous_mark_of_ne _ (Ne.symm hid),
      RecoveryObserver.previous_mark_of_ne _ (Ne.symm hid)]

/-- A count above the one remembered is announced and remembered. -/
theorem Watched.announce {u : Unit} (h : Watched lo (controller :: rest) o s)
    (hnot : controller.id ∉ rest.map Controller.id) (hreading : reading controller = some n)
    (hgrown : o.previous controller.id < n)
    (hw : kernelWorld s (.eprintln (.recoveryObserved controller.id)) u s') :
    Watched lo rest (o.mark controller.id n) s' := by
  obtain ⟨hcounter, hlog⟩ := hw
  intro id
  rw [hlog, own_append]
  by_cases hid : controller.id = id
  · subst hid
    have hone : own controller.id [.attempted controller.id] = [.attempted] := by
      simp [own, entryOf]
    rw [hone, due_of_not_mem hnot, RecoveryObserver.previous_mark]
    have hattempted : Between (s'.counter controller.id) [.attempted] (s'.counter controller.id) :=
      le_rfl
    refine ⟨((h _).1.mono (hcounter _)).append hattempted, ?_⟩
    exact (h.due (due_self.trans hreading)).attempted hgrown
  · have hnone : own id [.attempted controller.id] = [] := by simp [own, entryOf, hid]
    have hwatch := (h id).2
    rw [due_of_ne hid] at hwatch
    rw [hnone, List.append_nil, RecoveryObserver.previous_mark_of_ne _ (Ne.symm hid)]
    exact ⟨(h id).1.mono (hcounter id), hwatch⟩

/-- After a rebind that returned `Ok` the count starts again. -/
theorem Watched.renew {recovered : RecoveredController} (h : Watched lo rest o s)
    (hdue : RecoveryCounter.due id rest = none)
    (hw : kernelWorld s (.rebindController id) (.ok recovered) s') :
    Watched lo rest (o.mark id 0) s' := by
  obtain ⟨hcounter, hnew, hlog⟩ := hw
  intro id'
  rw [hlog, own_append]
  by_cases hid : id = id'
  · subst hid
    have hone : own id [.renewed id] = [.renewed] := by simp [own, entryOf]
    rw [hone, hdue, RecoveryObserver.previous_mark]
    have hrenewed : Between (s.counter id) [.renewed] (s'.counter id) := ⟨_, hnew, le_rfl⟩
    refine ⟨(h id).1.append hrenewed, ?_⟩
    exact (h.settled hdue).renewed
  · have hnone : own id' [.renewed id] = [] := by simp [own, entryOf, hid]
    rw [hnone, List.append_nil, RecoveryObserver.previous_mark_of_ne _ (Ne.symm hid)]
    exact ⟨(h id').1.mono (hcounter id'), (h id').2⟩

/-- A failed rebind leaves everything watched. -/
theorem Watched.failed {error : IoError} (h : Watched lo rest o s)
    (hw : kernelWorld s (.rebindController id) (.error error) s') : Watched lo rest o s' :=
  h.quiet hw.1 hw.2

end Watched

/-! ## A pass -/

section Pass

variable {lo : String → Reading} {controllers : List Controller} {m : Watch} {s : Kernel}
  {now : ℕ}

/-- The counter branch deals with one sample after another. -/
theorem watchCounters_watched {recovered : Bool}
    (hdistinct : (controllers.map Controller.id).Nodup)
    (h : Watched lo controllers m.observer s) :
    Always kernelWorld (fun s _ => Sound lo s) (fun r => Watched lo [] r.2.observer)
      (watchCounters now recovered m controllers) s := by
  induction controllers generalizing recovered m s with
  | nil => exact h
  | cons controller rest ih =>
    rw [List.map_cons, List.nodup_cons] at hdistinct
    obtain ⟨hnot, hrest⟩ := hdistinct
    unfold watchCounters
    cases hreading : reading controller with
    | none => exact ih hrest (h.skip hnot hreading)
    | some n =>
      unfold RecoveryObserver.observeRecovery
      by_cases hgrown : m.observer.previous controller.id < n
      · simp only [gt_iff_lt, hgrown, decide_true, if_true]
        refine Always.bind (Q := fun r => Watched lo rest r.2.observer) ?_
          fun r t hr => ih hrest hr
        refine ⟨h.sound, fun u s₁ hw => ?_⟩
        have h₁ := h.announce hnot hreading hgrown hw
        refine ⟨h₁.sound, fun r s₂ hw => ?_⟩
        cases r with
        | ok recovered =>
          have h₂ := h₁.renew (due_of_not_mem hnot) hw
          refine ⟨h₂.sound, fun _ s₃ hw => ?_⟩
          exact h₂.answer (c := .eprintln (.rebound recovered)) trivial hw
        | error error =>
          have h₂ := h₁.failed hw
          refine ⟨h₂.sound, fun _ s₃ hw => ?_⟩
          exact h₂.answer (c := .eprintln (.rebindFailed controller.id error)) trivial hw
      · simp only [gt_iff_lt, hgrown, decide_false, Bool.false_eq_true, if_false]
        exact ih hrest (h.ignore hnot hreading hgrown)

/-- A rebind for a stalled consumer is no attempt of this kind. -/
theorem rebindStalled_watched {stalled : ConsumerKey} {id : String}
    (h : Watched lo [] m.observer s) :
    Always kernelWorld (fun s _ => Sound lo s) (fun m => Watched lo [] m.observer)
      (rebindStalled now stalled id m) s := by
  refine ⟨h.sound, fun u s₁ hw => ?_⟩
  have h₁ := h.answer (c := .eprintln (.consumerStalled stalled id)) trivial hw
  refine ⟨h₁.sound, fun r s₂ hw => ?_⟩
  cases r with
  | ok recovered =>
    have h₂ := h₁.renew due_nil hw
    refine ⟨h₂.sound, fun _ s₃ hw => ?_⟩
    exact h₂.answer (c := .eprintln (.rebound recovered)) trivial hw
  | error error =>
    have h₂ := h₁.failed hw
    refine ⟨h₂.sound, fun _ s₃ hw => ?_⟩
    exact h₂.answer (c := .eprintln (.stallRebindFailed id error)) trivial hw

/-- The samples of the consumers. -/
theorem judgeSamples_watched {samples : List (ConsumerKey × Bool)}
    (h : Watched lo [] m.observer s) :
    Always kernelWorld (fun s _ => Sound lo s) (fun m => Watched lo [] m.observer)
      (judgeSamples now controllers samples m) s := by
  unfold judgeSamples
  split
  rename_i stalled backlog _
  cases stalled with
  | none => exact h
  | some stalled =>
    dsimp only
    cases controllerOf controllers stalled.eventNode with
    | none => exact h
    | some controller => exact rebindStalled_watched h

/-- The consumer branch. -/
theorem watchConsumers_watched (h : Watched lo [] m.observer s) :
    Always kernelWorld (fun s _ => Sound lo s) (fun m => Watched lo [] m.observer)
      (watchConsumers now controllers m) s := by
  have hrefresh : Asks Quiet (m.consumers.refreshIfDue controllers now) :=
    refreshIfDue_asks (fun _ => trivial) _
  refine (h.always hrefresh).bind fun r s₁ h₁ => ?_
  obtain ⟨refreshed, consumers⟩ := r
  dsimp only
  have hreport := (h₁.always (reportRefresh_asks (fun _ => trivial) (fun _ => trivial) refreshed
    { m with consumers := consumers })).and_yields (reportRefresh_yields _ _)
  refine hreport.bind fun m' s₂ h₂ => ?_
  obtain ⟨h₂, hobserver, -, -, -⟩ := h₂
  dsimp only at hobserver
  rw [← hobserver] at h₂
  split_ifs
  · exact h₂
  · refine (h₂.always (readiness_asks (fun _ => trivial) _)).bind fun r s₃ h₃ => ?_
    exact judgeSamples_watched (m := { m' with consumers := r.2 }) h₃

/-- A pass after its scan. -/
theorem watchScan_watched {scan : IoResult Scan} {s' : Kernel} (h : Watched lo [] m.observer s)
    (hw : kernelWorld s .discover scan s') :
    Always kernelWorld (fun s _ => Sound lo s) (fun m => Watched lo [] m.observer)
      (watchScan now scan m) s' := by
  cases scan with
  | error error =>
    have h' : Watched lo [] m.observer s' := h.quiet hw.1 hw.2
    refine ⟨h'.sound, fun _ t ht => ?_⟩
    exact h'.answer (c := .eprintln (.scanFailed error)) trivial ht
  | ok scan =>
    refine (watchCounters_watched scan.distinct (h.scan hw)).bind fun r t ht => ?_
    dsimp only
    split_ifs
    · exact ht
    · exact watchConsumers_watched ht

/-- **A pass deals with every sample**, and leaves the observer with what it has sampled. -/
theorem pass_watched {interval : ℕ} (h : Watched lo [] m.observer s) :
    Always kernelWorld (fun s _ => Sound lo s) (fun m => Watched lo [] m.observer)
      (pass interval m) s := by
  refine ⟨h.sound, fun now s₁ hw => ?_⟩
  have h₁ := h.round hw
  refine ⟨h₁.sound, fun scan s₂ hw => ?_⟩
  refine (watchScan_watched h₁ hw).bind fun m' t ht => ?_
  refine ⟨ht.sound, fun _ s' hw => ?_⟩
  exact ht.answer (c := .sleep interval) trivial hw

end Pass

/-! ## Runs of the monitor -/

/-- The points that a run of the monitor reaches. -/
def Reaches (interval : ℕ) (counter₀ : String → Reading) : Monitor.Program Watch → Kernel → Prop :=
  Loops kernelWorld (pass interval) Watch.init ⟨counter₀, []⟩

section Runs

variable {interval interval' : ℕ} {counter₀ counter₀' : String → Reading}
  {p : Monitor.Program Watch} {m m' : Watch} {s s' : Kernel}

/-- Every point of a run is sound. -/
theorem reaches_always (h : Reaches interval counter₀ p s) :
    Always kernelWorld (fun s _ => Sound counter₀ s) (fun m => Watched counter₀ [] m.observer) p
      s := by
  refine h.always (J := fun m => Watched counter₀ [] m.observer) ?_ fun m s hs => pass_watched hs
  exact fun id => ⟨le_rfl, settled_nil⟩

/-- So is what has been reached. -/
theorem reaches_sound (h : Reaches interval counter₀ p s) : Sound counter₀ s := by
  have halways := reaches_always h
  cases p with
  | done m =>
    have hwatched : Watched counter₀ [] m.observer s := halways
    exact hwatched.sound
  | ask c k => exact halways.1

end Runs

/-! ## A device whose rebinds fail -/

def touchpad (status : String) : Controller := ⟨"7-0015", some status, none, []⟩

/-- The counter shows `n`: it has counted on or, if `n` is lower, it belongs to a new
binding. -/
def advance (r : Reading) (n : ℕ) : Reading :=
  if count r ≤ n then toLex (incarnation r, n) else toLex (incarnation r + 1, n)

/-- A counter moves forward. -/
theorem le_advance (r : Reading) (n : ℕ) : r ≤ advance r n := by
  unfold advance
  split_ifs with h
  · exact reading_le.mpr (.inr ⟨rfl, h⟩)
  · exact reading_le.mpr (.inl (Nat.lt_succ_self _))

/-- To the count that is shown. -/
theorem toLex_advance (r : Reading) (n : ℕ) :
    toLex (incarnation (advance r n), n) = advance r n := by
  unfold advance
  split_ifs
  · rfl
  · rfl

/-- The touchpad that the present pass finds, with one of the statuses. -/
def found (statuses : List String) (s : Kernel) : Controller :=
  touchpad (statuses.getD (s.log.count .round - 1) "")

def shown (statuses : List String) (s : Kernel) : Reading :=
  advance (s.counter "7-0015") ((reading (found statuses s)).getD 0)

/-- Each pass finds the touchpad with the next of the statuses, and no rebind returns
`Ok`. -/
def failing (statuses : List String) (s : Kernel) : (c : Monitor.Call) → c.Answer × Kernel
  | .now => (0, { s with log := s.log ++ [.round] })
  | .discover =>
    (.ok ⟨[found statuses s], List.nodup_singleton _⟩,
      ⟨Function.update s.counter "7-0015" (shown statuses s),
        s.log ++ samples (fun _ => incarnation (shown statuses s)) [found statuses s]⟩)
  | .rebindController _ => (.error ⟨.timedOut, "timed out"⟩, s)
  | .discoverConsumers _ => (.ok [], s)
  | .poll _ => (.ok .idle, s)
  | .eprintln (.recoveryObserved id) => ((), { s with log := s.log ++ [.attempted id] })
  | .eprintln _ => ((), s)
  | .sleep _ => ((), s)

/-- The answers are those of a kernel. -/
theorem failing_allowed (statuses : List String) (s : Kernel) (c : Monitor.Call) :
    kernelWorld s c (failing statuses s c).1 (failing statuses s c).2 := by
  cases c with
  | discover =>
    refine ⟨fun id => ?_, fun _ => incarnation (shown statuses s), rfl, ?_⟩
    · show s.counter id ≤ Function.update s.counter "7-0015" (shown statuses s) id
      by_cases hid : id = "7-0015"
      · rw [hid, Function.update_self]
        exact le_advance _ _
      · rw [Function.update_of_ne hid]
    · intro c hc n hreading
      obtain rfl := List.mem_singleton.mp hc
      have hshown : shown statuses s = advance (s.counter "7-0015") n := by
        rw [shown, hreading, Option.getD_some]
      show s.counter "7-0015" ≤ toLex (incarnation (shown statuses s), n)
        ∧ toLex (incarnation (shown statuses s), n)
          ≤ Function.update s.counter "7-0015" (shown statuses s) "7-0015"
      rw [Function.update_self, hshown, toLex_advance]
      exact ⟨le_advance _ _, le_rfl⟩
  | eprintln line =>
    cases line <;> exact ⟨fun _ => le_rfl, rfl⟩
  | _ => exact ⟨fun _ => le_rfl, rfl⟩

/-- What three passes leave behind. -/
def afterThree (statuses : List String) : Watch × Kernel :=
  talkRounds (failing statuses) (pass (millis 50)) 3 (Watch.init, ⟨fun _ => toLex (0, 0), []⟩)

/-- Three passes are a run. -/
theorem afterThree_reached (statuses : List String) :
    Reaches (millis 50) (fun _ => toLex (0, 0)) (.done (afterThree statuses).1)
      (afterThree statuses).2 :=
  loops_talk (failing_allowed statuses) 2

/-! ## What holds of every run -/

section Results

variable {interval interval' : ℕ} {counter₀ counter₀' : String → Reading}
  {p : Monitor.Program Watch} {m m' : Watch} {s s' : Kernel}

/-- **A failed recovery is not repeated.**  At every point of a run the attempts within one
binding of a device were made at increasing counts; and what the monitor attempts for a
device is decided by that device's own samples and rebinds. -/
theorem attempts_not_repeated (h : Reaches interval counter₀ p s) (id : String) :
    (attempts (counter₀ id) (own id s.log)).Pairwise
        (fun r r' => incarnation r = incarnation r' → count r < count r')
      ∧ ∀ m m' interval' counter₀' s', p = .done m → Reaches interval' counter₀' (.done m') s' →
        (own id s.log).filter (· ≠ .attempted) = (own id s'.log).filter (· ≠ .attempted) →
        own id s.log = own id s'.log := by
  constructor
  · refine (reaches_sound h id).imp fun {r r'} hlt hsame => ?_
    rcases reading_lt.mp hlt with hlt | ⟨-, hlt⟩
    · exact absurd hsame hlt.ne
    · exact hlt
  · rintro m m' interval' counter₀' s' rfl h' hinputs
    have hwatched : Watched counter₀ [] m.observer s := reaches_always h
    have hwatched' : Watched counter₀' [] m'.observer s' := reaches_always h'
    exact (hwatched.settled due_nil).eq_of_inputs (hwatched'.settled due_nil) hinputs

/-- A rebind failed at the count 5; the next one is attempted at 6. -/
theorem attempts_not_repeated_three :
    ∃ m s, Reaches (millis 50) (fun _ => toLex (0, 0)) (.done m) s
      ∧ own "7-0015" s.log
        = [.round, .sampled (toLex (0, 5)), .attempted, .round, .sampled (toLex (0, 5)),
          .round, .sampled (toLex (0, 6)), .attempted]
      ∧ (attempts (toLex (0, 0)) (own "7-0015" s.log)).Pairwise
        (fun r r' => incarnation r = incarnation r' → count r < count r') := by
  have hreach := afterThree_reached ["recoveries=5", "recoveries=5", "recoveries=6"]
  refine ⟨_, _, hreach, ?_, (attempts_not_repeated hreach "7-0015").1⟩
  decide +kernel

/-- **What goes unnoticed.**  After each pass of a run, the monitor has acted on every sample
above the earlier ones of its binding exactly if first samples of a binding were 0 or above
the count remembered. -/
theorem recoveries_noticed_iff (h : Reaches interval counter₀ (.done m) s) (id : String) :
    Noticed (own id s.log) ↔ FirstSamplesStandOut (own id s.log) := by
  have hwatched : Watched counter₀ [] m.observer s := reaches_always h
  exact noticed_iff (hwatched id).1 (hwatched.settled due_nil).1

/-- A new binding is sampled at 0 before it has counted past the old one. -/
theorem recoveries_noticed_iff_three :
    ∃ m s, Reaches (millis 50) (fun _ => toLex (0, 0)) (.done m) s
      ∧ own "7-0015" s.log
        = [.round, .sampled (toLex (0, 5)), .attempted, .round, .sampled (toLex (1, 0)),
          .round, .sampled (toLex (1, 3)), .attempted]
      ∧ (Noticed (own "7-0015" s.log) ↔ FirstSamplesStandOut (own "7-0015" s.log)) := by
  have hreach := afterThree_reached ["recoveries=5", "recoveries=0", "recoveries=3"]
  refine ⟨_, _, hreach, ?_, recoveries_noticed_iff hreach "7-0015"⟩
  decide +kernel

/-- The rebind at the count 5 failed, and the device has been bound anew by others.  Three
recoveries of the new binding go unnoticed, because the monitor compares them with the 5 of
the old one. -/
theorem recoveries_masked :
    ¬ ∀ (interval : ℕ) (counter₀ : String → Reading) (m : Watch) (s : Kernel),
      Reaches interval counter₀ (.done m) s → ∀ id, Noticed (own id s.log) := by
  intro h
  have hnoticed := h _ _ _ _ (afterThree_reached ["recoveries=5", "recoveries=3", "recoveries=3"])
    "7-0015"
  have hown : own "7-0015" (afterThree ["recoveries=5", "recoveries=3", "recoveries=3"]).2.log
      = [.round, .sampled (toLex (0, 5)), .attempted, .round, .sampled (toLex (1, 3)), .round,
        .sampled (toLex (1, 3))] := by
    decide +kernel
  rw [hown] at hnoticed
  have hfirst : ∀ r', .sampled r' ∈ [Entry.round, .sampled (toLex (0, 5)), .attempted, .round] →
      incarnation r' = incarnation (toLex (1, 3)) → count r' < count (toLex (1, 3)) := by
    intro r' hmem hsame
    obtain rfl : r' = toLex (0, 5) := by simpa using hmem
    exact absurd hsame (by decide)
  obtain ⟨rest, hrest⟩ := hnoticed [.round, .sampled (toLex (0, 5)), .attempted, .round]
    (toLex (1, 3)) [.round, .sampled (toLex (1, 3))] rfl (by decide) hfirst
  exact absurd (List.cons.inj hrest).1 (by simp)

end Results

end RecoveryCounter
