/-
# How long a stalled consumer has not read

The monitor rebinds a controller when a descriptor has been readable for 750 ms.  It counts
from the beginning of the pass that found it readable first, but polls it later in the
pass, after a scan, rebinds and a refresh that may take seconds.  The 750 ms lie between two
polls all the same if one of the passes that began 750 ms ago was blocked before its poll for
no longer than the present one, and if no pass that found a descriptor idle overlooked it
because of a descriptor that belongs to no controller (`stalled_for_the_grace`).  A rebind
that fails late in the first pass makes 50 ms enough (`stalled_for_a_moment`).  If no pass is
blocked for longer than some time, the gate is wrong by that time at most
(`stalled_for_the_rest`).
-/
import ElanGuardian.MonitorClock

open Dialogue Sysfs Recover Monitor MonitorClock

namespace BacklogGate

/-! ## Polls of one descriptor -/

/-- The polls of a descriptor, newest first. -/
def pollsOf (key : ConsumerKey) (polls : List Poll) : List Poll :=
  polls.filter fun p => p.key = key

/-- Its polls since one that did not find it readable. -/
def streak (key : ConsumerKey) (polls : List Poll) : List Poll :=
  (pollsOf key polls).takeWhile Poll.readable

/-- Two polls found the descriptor readable, at least `span` apart, and so did every poll of
it in between. -/
def Backlog (span : ℕ) (key : ConsumerKey) (polls : List Poll) : Prop :=
  ∃ newer q between p older, pollsOf key polls = newer ++ q :: (between ++ p :: older)
    ∧ q.readable = true ∧ p.readable = true ∧ (∀ r ∈ between, r.readable = true)
    ∧ p.moment + span ≤ q.moment

section Polls

variable {span : ℕ} {key : ConsumerKey} {p q : Poll} {polls rest : List Poll}

/-- The newest poll is one of its own descriptor. -/
theorem pollsOf_self : pollsOf p.key (p :: polls) = p :: pollsOf p.key polls :=
  List.filter_cons_of_pos (by simp)

/-- The newest poll is not one of another descriptor. -/
theorem pollsOf_of_ne (h : p.key ≠ key) : pollsOf key (p :: polls) = pollsOf key polls :=
  List.filter_cons_of_neg (by simpa using h)

/-- A poll that finds its descriptor readable goes on with its streak. -/
theorem streak_self (h : p.readable = true) :
    streak p.key (p :: polls) = p :: streak p.key polls := by
  rw [streak, pollsOf_self, List.takeWhile_cons_of_pos h]
  rfl

/-- And leaves the streaks of the others alone. -/
theorem streak_of_ne (h : p.key ≠ key) : streak key (p :: polls) = streak key polls := by
  rw [streak, pollsOf_of_ne h]
  rfl

/-- A streak depends on the polls of its descriptor only. -/
theorem streak_congr {polls' : List Poll} (h : pollsOf key polls' = pollsOf key polls) :
    streak key polls' = streak key polls := by
  rw [streak, h]
  rfl

/-- Two polls of the streak that are far enough apart. -/
theorem backlog_of_streak (hstreak : streak key polls = q :: rest) (hp : p ∈ rest)
    (hspan : p.moment + span ≤ q.moment) : Backlog span key polls := by
  obtain ⟨between, after, rfl⟩ := List.append_of_mem hp
  have hreadable : ∀ r ∈ streak key polls, r.readable = true :=
    List.all_eq_true.mp List.all_takeWhile
  have hpolls := List.takeWhile_append_dropWhile (p := Poll.readable) (l := pollsOf key polls)
  change streak key polls ++ _ = _ at hpolls
  rw [hstreak] at hreadable hpolls
  refine ⟨[], q, between, p, after ++ (pollsOf key polls).dropWhile Poll.readable, ?_, ?_, ?_, ?_,
    hspan⟩
  · rw [List.nil_append]
    exact hpolls.symm.trans (by simp)
  · exact hreadable q List.mem_cons_self
  · exact hreadable p (by simp)
  · intro r hr
    exact hreadable r (by simp [hr])

end Polls

/-! ## What may block a pass -/

/-- A poll at `t` that finds the descriptor readable meets `ready`; and a descriptor is found
idle only if every descriptor that the pass has already found readable belongs to one of its
controllers. -/
def Polling (ready : Timeline → ℕ → ConsumerKey → Prop) (s : Timeline) (t : ℕ) :
    (c : Monitor.Call) → c.Answer → Prop
  | .poll fd, .ok .ready => ready s t fd.key
  | .poll _, .ok .idle => ∀ p ∈ s.polls, p.pass = s.began → p.readable = true →
    p.key.eventNode ∈ s.present
  | _, _ => True

def pollingWorld (ready : Timeline → ℕ → ConsumerKey → Prop) : World Timeline Services :=
  fun s c a s' => timedWorld s c a s' ∧ Polling ready s s'.clock c a

/-- The descriptor has been readable since the poll `p`, in a pass that began the grace ago. -/
def Overdue (s : Timeline) (key : ConsumerKey) (p : Poll) : Prop :=
  p ∈ streak key s.polls ∧ p.pass + consumerBacklogGrace ≤ s.began

/-- If the descriptor has been readable since a pass that began the grace ago, such a pass was
blocked before its poll of the descriptor for no longer than this one is: by the scan, the
rebinds that failed, the refresh, and the polls of other descriptors. -/
def NoLonger (s : Timeline) (t : ℕ) (key : ConsumerKey) : Prop :=
  (∃ p, Overdue s key p) → ∃ p, Overdue s key p ∧ p.blocked ≤ s.blockedUntil t

/-- Nothing blocks the pass for longer than `bound` before the poll. -/
def Within (bound : ℕ) (s : Timeline) (t : ℕ) (_ : ConsumerKey) : Prop :=
  s.blockedUntil t ≤ bound

def timelyWorld : World Timeline Services := pollingWorld NoLonger

/-- If the descriptor has been readable since a pass that began the grace ago, then since a poll
that was `span` ago. -/
def Spaced (span : ℕ) (s : Timeline) (t : ℕ) (key : ConsumerKey) : Prop :=
  (∃ p, Overdue s key p) → ∃ p ∈ streak key s.polls, p.moment + span ≤ t

/-- The time of a pass is the time that its calls have taken. -/
structure Clocked (s : Timeline) : Prop where
  now : s.clock = s.began + s.blocked
  polls : ∀ p ∈ s.polls, p.moment = p.pass + p.blocked ∧ p.moment ≤ s.clock

section Clocked

variable {ready : Timeline → ℕ → ConsumerKey → Prop} {s s' : Timeline} {c : Monitor.Call}
  {a : c.Answer} {t bound : ℕ} {key : ConsumerKey}

/-- At the start nothing has been polled. -/
theorem clocked_start (clock : ℕ) : Clocked (.start clock) :=
  ⟨rfl, fun _ hp => absurd hp List.not_mem_nil⟩

/-- A call of the pass takes its time. -/
theorem Clocked.until (h : Clocked s) (ht : s.clock ≤ t) : t = s.began + s.blockedUntil t := by
  have hnow := h.now
  unfold Timeline.blockedUntil
  omega

/-- A new pass keeps the moments in order. -/
theorem Clocked.pass (h : Clocked s) (ht : s.clock ≤ t) : Clocked (s.pass t) :=
  ⟨h.until ht, fun p hp => ⟨(h.polls p hp).1, (h.polls p hp).2.trans ht⟩⟩

/-- Every call keeps the clock right. -/
theorem Clocked.record (h : Clocked s) (hw : timedWorld s c a s') : Clocked s' := by
  obtain ⟨t, ht, -, rfl⟩ := hw
  have hpass := h.pass ht
  cases c with
  | now => exact ⟨rfl, hpass.polls⟩
  | discover =>
    cases a with
    | ok scan => exact ⟨hpass.now, hpass.polls⟩
    | error e => exact hpass
  | rebindController id =>
    cases a with
    | ok r => exact ⟨hpass.now, hpass.polls⟩
    | error e => exact hpass
  | poll fd =>
    refine ⟨hpass.now, fun p hp => ?_⟩
    rcases List.mem_cons.mp hp with rfl | hp
    · exact ⟨h.until ht, le_rfl⟩
    · exact hpass.polls p hp
  | _ => exact hpass

/-- A streak consists of polls. -/
theorem mem_of_mem_streak {p : Poll} {polls : List Poll} (h : p ∈ streak key polls) :
    p ∈ polls :=
  List.mem_of_mem_filter ((List.takeWhile_prefix _).subset h)

/-- The polls of a pass that was blocked no longer are as far apart as the passes. -/
theorem spaced_of_noLonger (h : Clocked s) (ht : s.clock ≤ t) (hlonger : NoLonger s t key) :
    Spaced consumerBacklogGrace s t key := by
  intro hoverdue
  obtain ⟨p, ⟨hp, hpass⟩, hblocked⟩ := hlonger hoverdue
  have hmoment := (h.polls p (mem_of_mem_streak hp)).1
  have hnow := h.until ht
  exact ⟨p, hp, by omega⟩

/-- If no pass is blocked for longer than `bound`, the polls are the rest of the grace apart. -/
theorem spaced_of_within (h : Clocked s) (ht : s.clock ≤ t)
    (hpolls : ∀ p ∈ streak key s.polls, p.blocked ≤ bound) :
    Spaced (consumerBacklogGrace - bound) s t key := by
  rintro ⟨p, hp, hpass⟩
  have hblocked := hpolls p hp
  obtain ⟨hmoment, hlate⟩ := h.polls p (mem_of_mem_streak hp)
  have hnow := h.until ht
  exact ⟨p, hp, by omega⟩

/-- Time does not run backwards. -/
theorem clock_le_of_timed (hw : timedWorld s c a s') : s.clock ≤ s'.clock := by
  obtain ⟨t, ht, -, rfl⟩ := hw
  rw [record_clock]
  exact ht

/-- What the polls meet may be exchanged. -/
theorem Polling.imp {ready' : Timeline → ℕ → ConsumerKey → Prop}
    (h : Polling ready s t c a) (himp : ∀ key, ready s t key → ready' s t key) :
    Polling ready' s t c a := by
  cases c with
  | poll fd =>
    cases a with
    | ok readiness =>
      cases readiness with
      | ready => exact himp _ h
      | idle => exact h
      | dead => exact trivial
    | error e => exact trivial
  | _ => exact trivial

end Clocked

/-- A rebind is announced only for a descriptor that has had a backlog. -/
def Guarded (span : ℕ) (s : Timeline) (c : Monitor.Call) : Prop :=
  ∀ key, stalledBy c = some key → Backlog span key s.polls

/-- A call that announces no rebind needs no backlog. -/
theorem guarded_of_not_stalled {span : ℕ} {s : Timeline} {c : Monitor.Call}
    (h : stalledBy c = none) : Guarded span s c := forall_stalledBy h _

/-! ## What the polls of a pass say -/

abbrev spacedWorld (span : ℕ) : World Timeline Services := pollingWorld (Spaced span)

/-- The newest poll of the descriptor found it readable in the present pass, and came late
enough after one of the earlier ones. -/
def FoundReady (span : ℕ) (key : ConsumerKey) (began : ℕ) (polls polls' : List Poll) : Prop :=
  ∃ q, streak key polls' = q :: streak key polls ∧ q.pass = began
    ∧ ((∃ p ∈ streak key polls, p.pass + consumerBacklogGrace ≤ began) →
      ∃ p ∈ streak key polls, p.moment + span ≤ q.moment)

/-- What polling the descriptors `fds` does: `samples` are what the polls say, `retained` are
the descriptors that stay. -/
structure Polled (span : ℕ) (s : Timeline) (fds : List ConsumerFd)
    (samples : List (ConsumerKey × Bool)) (retained : List ConsumerFd) (s' : Timeline) : Prop where
  clock : s.clock ≤ s'.clock
  began : s'.began = s.began
  present : s'.present = s.present
  sampled : (samples.map Prod.fst).Sublist (fds.map ConsumerFd.key)
  kept : (retained.map ConsumerFd.key).Sublist (fds.map ConsumerFd.key)
  others : ∀ key, key ∉ fds.map ConsumerFd.key → pollsOf key s'.polls = pollsOf key s.polls
  ready : ∀ key, (key, true) ∈ samples → FoundReady span key s.began s.polls s'.polls
  owned : ∀ key, (key, false) ∈ samples → ∀ p ∈ s.polls, p.pass = s.began → p.readable = true →
    p.key.eventNode ∈ s.present
  ordered : samples.Pairwise fun x y => x.2 = true → y.2 = false → x.1.eventNode ∈ s.present

section Polled

variable {span : ℕ} {s s' : Timeline} {fd : ConsumerFd} {fds rest retained : List ConsumerFd}
  {samples : List (ConsumerKey × Bool)} {t : ℕ}

/-- Without descriptors nothing is polled. -/
theorem polled_nil : Polled span s [] [] [] s where
  clock := le_rfl
  began := rfl
  present := rfl
  sampled := List.Sublist.slnil
  kept := List.Sublist.slnil
  others _ _ := rfl
  ready _ h := absurd h List.not_mem_nil
  owned _ h := absurd h List.not_mem_nil
  ordered := List.Pairwise.nil

/-- A poll of a descriptor that is not polled again in this pass. -/
theorem Polled.others_cons {r : IoResult FdReadiness}
    (h : Polled span (s.record t (.poll fd) r) rest samples retained s') {key : ConsumerKey}
    (hkey : key ∉ (fd :: rest).map ConsumerFd.key) :
    pollsOf key s'.polls = pollsOf key s.polls := by
  rw [List.map_cons, List.mem_cons, not_or] at hkey
  rw [h.others key hkey.2]
  exact pollsOf_of_ne (Ne.symm hkey.1)

/-- What the rest of the samples finds ready, it finds ready before this poll, too. -/
theorem Polled.ready_cons {r : IoResult FdReadiness}
    (h : Polled span (s.record t (.poll fd) r) rest samples retained s')
    (hnew : fd.key ∉ rest.map ConsumerFd.key) {key : ConsumerKey} (hkey : (key, true) ∈ samples) :
    FoundReady span key s.began s.polls s'.polls := by
  have hne : fd.key ≠ key := by
    rintro rfl
    exact hnew (h.sampled.subset (List.mem_map_of_mem hkey))
  obtain ⟨q, hstreak, hpass, hlate⟩ := h.ready key hkey
  rw [show streak key (s.record t (.poll fd) r).polls = streak key s.polls from streak_of_ne hne]
    at hstreak hlate
  exact ⟨q, hstreak, hpass, hlate⟩

/-- The readable polls before this one are of descriptors with a node present. -/
theorem Polled.owned_cons {r : IoResult FdReadiness}
    (h : Polled span (s.record t (.poll fd) r) rest samples retained s') {key : ConsumerKey}
    (hkey : (key, false) ∈ samples) :
    ∀ p ∈ s.polls, p.pass = s.began → p.readable = true → p.key.eventNode ∈ s.present :=
  fun p hp => h.owned key hkey p (List.mem_cons_of_mem _ hp)

/-- A poll that says nothing. -/
theorem Polled.dropped {r : IoResult FdReadiness}
    (h : Polled span (s.record t (.poll fd) r) rest samples retained s') (ht : s.clock ≤ t)
    (hnew : fd.key ∉ rest.map ConsumerFd.key) : Polled span s (fd :: rest) samples retained s' where
  clock := ht.trans h.clock
  began := h.began
  present := h.present
  sampled := h.sampled.cons _
  kept := h.kept.cons _
  others _ hkey := h.others_cons hkey
  ready _ hkey := h.ready_cons hnew hkey
  owned _ hkey := h.owned_cons hkey
  ordered := h.ordered

/-- A poll that finds its descriptor idle adds an idle sample. -/
theorem Polled.idle
    (h : Polled span (s.record t (.poll fd) (.ok .idle)) rest samples retained s')
    (ht : s.clock ≤ t) (hnew : fd.key ∉ rest.map ConsumerFd.key)
    (htimely : Polling (Spaced span) s t (.poll fd) (.ok .idle)) :
    Polled span s (fd :: rest) ((fd.key, false) :: samples) (fd :: retained) s' where
  clock := ht.trans h.clock
  began := h.began
  present := h.present
  sampled := h.sampled.cons_cons _
  kept := h.kept.cons_cons _
  others _ hkey := h.others_cons hkey
  ready key hkey := by
    rcases List.mem_cons.mp hkey with heq | hkey
    · exact absurd (congrArg Prod.snd heq) (by simp)
    · exact h.ready_cons hnew hkey
  owned key hkey := by
    rcases List.mem_cons.mp hkey with - | hkey
    · exact htimely
    · exact h.owned_cons hkey
  ordered := by
    refine List.Pairwise.cons ?_ h.ordered
    exact fun y _ hready => absurd hready (by simp)

/-- A poll that finds its descriptor readable adds a ready sample. -/
theorem Polled.found
    (h : Polled span (s.record t (.poll fd) (.ok .ready)) rest samples retained s')
    (ht : s.clock ≤ t) (hnew : fd.key ∉ rest.map ConsumerFd.key)
    (htimely : Polling (Spaced span) s t (.poll fd) (.ok .ready)) :
    Polled span s (fd :: rest) ((fd.key, true) :: samples) (fd :: retained) s' where
  clock := ht.trans h.clock
  began := h.began
  present := h.present
  sampled := h.sampled.cons_cons _
  kept := h.kept.cons_cons _
  others _ hkey := h.others_cons hkey
  ready key hkey := by
    rcases List.mem_cons.mp hkey with heq | hkey
    · obtain rfl : key = fd.key := congrArg Prod.fst heq
      refine ⟨⟨fd.key, .ok .ready, s.began, s.blockedUntil t, t⟩, ?_, rfl, ?_⟩
      · rw [streak_congr (h.others fd.key hnew)]
        exact streak_self rfl
      · exact htimely
    · exact h.ready_cons hnew hkey
  owned key hkey := by
    rcases List.mem_cons.mp hkey with heq | hkey
    · exact absurd (congrArg Prod.snd heq) (by simp)
    · exact h.owned_cons hkey
  ordered := by
    refine List.Pairwise.cons ?_ h.ordered
    rintro ⟨key, ready⟩ hy - rfl
    exact h.owned key hy ⟨fd.key, .ok .ready, s.began, s.blockedUntil t, t⟩ List.mem_cons_self rfl
      rfl

/-- **What polling does.** -/
theorem pollConsumers_polled (hdistinct : (fds.map ConsumerFd.key).Nodup) :
    Always (spacedWorld span) (Guarded span) (fun r s' => Polled span s fds r.1 r.2 s')
      (pollConsumers fds) s := by
  induction fds generalizing s with
  | nil => exact polled_nil
  | cons fd rest ih =>
    rw [List.map_cons, List.nodup_cons] at hdistinct
    obtain ⟨hnew, hrest⟩ := hdistinct
    refine ⟨guarded_of_not_stalled rfl, fun r s₁ hw => ?_⟩
    obtain ⟨⟨t, ht, -, rfl⟩, htimely⟩ := hw
    have hpolled := ih (s := s.record t (.poll fd) r) hrest
    have hdropped : Always (spacedWorld span) (Guarded span)
        (fun r s' => Polled span s (fd :: rest) r.1 r.2 s')
        (pollConsumers rest) (s.record t (.poll fd) r) :=
      hpolled.mono (fun _ _ hg => hg) fun _ _ h => h.dropped ht hnew
    rcases r with e | readiness
    · exact hdropped
    · cases readiness with
      | ready => exact hpolled.bind fun r s' h => h.found ht hnew htimely
      | idle => exact hpolled.bind fun r s' h => h.idle ht hnew htimely
      | dead => exact hdropped

end Polled

/-! ## What the observer makes of them -/

/-- Every entry of the observer is the beginning of a pass that polled the descriptor in the
present streak. -/
def Tracked (b : BacklogObserver) (polls : List Poll) : Prop :=
  ∀ key since, b.readySince key = some since → ∃ p ∈ streak key polls, p.pass = since

/-- The same, but for descriptors that are about to be removed. -/
def Pending (b : BacklogObserver) (samples : List (ConsumerKey × Bool)) (polls : List Poll) :
    Prop :=
  ∀ key since, b.readySince key = some since →
    (key, false) ∈ samples ∨ ∃ p ∈ streak key polls, p.pass = since

section Observe

variable {b : BacklogObserver} {samples rest : List (ConsumerKey × Bool)} {polls polls' : List Poll}
  {span now since : ℕ} {key k : ConsumerKey} {present : List String}

/-- An observer without entries tracks any polls. -/
theorem tracked_empty : Tracked .empty polls := by
  intro key since h
  exact absurd h (by simp [BacklogObserver.empty])

/-- An idle sample is settled when its entry is removed. -/
theorem Pending.remove (h : Pending b ((k, false) :: rest) polls) :
    Pending (b.remove k) rest polls := by
  intro key since hsince
  obtain ⟨hne, hold⟩ := BacklogObserver.remove_since.mp hsince
  refine (h key since hold).imp_left fun hmem => ?_
  rcases List.mem_cons.mp hmem with heq | hmem
  · exact absurd (congrArg Prod.fst heq) hne
  · exact hmem

/-- The entry of a descriptor that has just been found readable. -/
theorem Pending.entry (h : Pending b ((k, true) :: rest) polls)
    (hnew : k ∉ rest.map Prod.fst) (hready : FoundReady span k now polls' polls) :
    ∃ p ∈ streak k polls, p.pass = (b.orInsert k now).1 := by
  have horigin : b.readySince k = some (b.orInsert k now).1 ∨ (b.orInsert k now).1 = now :=
    BacklogObserver.orInsert_fst
  rcases horigin with hold | hnow
  · refine (h k _ hold).resolve_left fun hmem => ?_
    rcases List.mem_cons.mp hmem with heq | hmem
    · exact absurd (congrArg Prod.snd heq) (by simp)
    · exact hnew (List.mem_map_of_mem hmem)
  · obtain ⟨q, hstreak, hpass, -⟩ := hready
    rw [hstreak, hnow]
    exact ⟨q, List.mem_cons_self, hpass⟩

/-- A ready sample is settled when its entry is there. -/
theorem Pending.orInsert (h : Pending b ((k, true) :: rest) polls)
    (hnew : k ∉ rest.map Prod.fst) (hready : FoundReady span k now polls' polls) :
    Pending (b.orInsert k now).2 rest polls := by
  intro key since hsince
  by_cases hk : key = k
  · subst hk
    rw [BacklogObserver.orInsert_self, Option.some.injEq] at hsince
    rw [← hsince]
    exact .inr (h.entry hnew hready)
  · rw [BacklogObserver.orInsert_of_ne hk] at hsince
    refine (h key since hsince).imp_left fun hmem => ?_
    rcases List.mem_cons.mp hmem with heq | hmem
    · exact absurd (congrArg Prod.fst heq) hk
    · exact hmem

/-- A descriptor is stalled only if two of its polls are the grace apart; and the observer
has overlooked no poll, unless that descriptor belongs to a controller of the pass. -/
theorem observeSamples_tracked (hdistinct : (samples.map Prod.fst).Nodup)
    (hready : ∀ key, (key, true) ∈ samples → FoundReady span key now polls' polls)
    (hordered : samples.Pairwise fun x y => x.2 = true → y.2 = false → x.1.eventNode ∈ present)
    (hpending : Pending b samples polls) :
    match BacklogObserver.observeSamples now consumerBacklogGrace b samples with
    | (none, b') => Tracked b' polls
    | (some key, b') => Backlog span key polls ∧ (key.eventNode ∉ present → Tracked b' polls) := by
  induction samples generalizing b with
  | nil =>
    intro key since hsince
    exact (hpending key since hsince).resolve_left List.not_mem_nil
  | cons sample rest ih =>
    obtain ⟨k, ready⟩ := sample
    rw [List.map_cons, List.nodup_cons] at hdistinct
    obtain ⟨hnew, hrest⟩ := hdistinct
    obtain ⟨hfirst, hlater⟩ := List.pairwise_cons.mp hordered
    have hreadyRest : ∀ key, (key, true) ∈ rest → FoundReady span key now polls' polls :=
      fun key hkey => hready key (List.mem_cons_of_mem _ hkey)
    cases ready with
    | false => exact ih hrest hreadyRest hlater hpending.remove
    | true =>
      have hk := hready k List.mem_cons_self
      have hinserted := hpending.orInsert hnew hk
      unfold BacklogObserver.observeSamples
      dsimp only
      split_ifs with hgrace
      · refine ⟨?_, fun hnode key since hsince => ?_⟩
        · obtain ⟨p, hp, hpass⟩ := hpending.entry hnew hk
          obtain ⟨q, hstreak, hnow, hlate⟩ := hk
          rw [hstreak] at hp
          have hpositive : 0 < consumerBacklogGrace := by decide
          rcases List.mem_cons.mp hp with rfl | hp
          · omega
          · obtain ⟨p', hp', hspan⟩ := hlate ⟨p, hp, by omega⟩
            exact backlog_of_streak hstreak hp' hspan
        · refine (hinserted key since hsince).resolve_left fun hmem => ?_
          exact hnode (hfirst _ hmem rfl rfl)
      · exact ih hrest hreadyRest hlater hinserted

/-- Between the polls and the observation, entries of idle descriptors are still there. -/
theorem Tracked.pending {s s' : Timeline} {fds retained : List ConsumerFd}
    (h : Tracked b s.polls) (hpolled : Polled span s fds samples retained s') :
    Pending (b.retain samples) samples s'.polls := by
  intro key since hsince
  unfold BacklogObserver.retain at hsince
  dsimp only at hsince
  split_ifs at hsince with hmem
  obtain ⟨⟨k, ready⟩, hsample, rfl⟩ := List.mem_map.mp hmem
  cases ready with
  | false => exact .inl hsample
  | true =>
    obtain ⟨q, hstreak, -, -⟩ := hpolled.ready k hsample
    obtain ⟨p, hp, hpass⟩ := h k since hsince
    rw [hstreak]
    exact .inr ⟨p, List.mem_cons_of_mem _ hp, hpass⟩

/-- An `observe` of the polled samples keeps the observer on track, and what it reports has had a
backlog. -/
theorem observe_tracked {s s' : Timeline} {fds retained : List ConsumerFd}
    (h : Tracked b s.polls) (hdistinct : (fds.map ConsumerFd.key).Nodup)
    (hpolled : Polled span s fds samples retained s') :
    match b.observe s.began samples consumerBacklogGrace with
    | (none, b') => Tracked b' s'.polls
    | (some key, b') => Backlog span key s'.polls
      ∧ (key.eventNode ∉ s.present → Tracked b' s'.polls) :=
  observeSamples_tracked (hpolled.sampled.nodup hdistinct) hpolled.ready hpolled.ordered
    (h.pending hpolled)

end Observe

/-! ## A pass -/

/-- In a pass that began at `now` and has found `nodes`. -/
structure InPass (now : ℕ) (nodes : List String) (m : Watch) (s : Timeline) : Prop where
  began : s.began = now
  passed : now ≤ s.clock
  present : s.present = nodes
  tracked : Tracked m.backlog s.polls
  distinct : (m.consumers.consumers.map ConsumerFd.key).Nodup

/-- Between two passes. -/
def Between (m : Watch) (s : Timeline) : Prop :=
  Tracked m.backlog s.polls ∧ (m.consumers.consumers.map ConsumerFd.key).Nodup

/-- The call is not one of those that the timeline is about. -/
def Quiet : Monitor.Call → Prop
  | .now | .discover | .poll _ => False
  | c => stalledBy c = none

section Pass

variable {span now interval : ℕ} {nodes : List String} {m m' : Watch} {s s' : Timeline}
  {id : String} {controllers : List Controller}

/-- A call without a record in the timeline moves only its clock. -/
theorem still_of_quiet {c : Monitor.Call} {a : c.Answer} (hc : Quiet c)
    (hw : spacedWorld span s c a s') :
    s.clock ≤ s'.clock ∧ s'.began = s.began ∧ s'.present = s.present ∧ s'.polls = s.polls := by
  obtain ⟨⟨t, ht, -, rfl⟩, -⟩ := hw
  cases c with
  | now => exact hc.elim
  | discover => exact hc.elim
  | poll fd => exact hc.elim
  | rebindController id => cases a <;> exact ⟨ht, rfl, rfl, rfl⟩
  | _ => exact ⟨ht, rfl, rfl, rfl⟩

/-- Such a call announces no rebind. -/
theorem guarded_of_quiet {c : Monitor.Call} (hc : Quiet c) : Guarded span s c := by
  apply guarded_of_not_stalled
  cases c with
  | now => exact hc.elim
  | discover => exact hc.elim
  | poll fd => exact hc.elim
  | _ => exact hc

/-- Such a call keeps a pass as it is. -/
theorem InPass.quiet {c : Monitor.Call} {a : c.Answer} (h : InPass now nodes m s) (hc : Quiet c)
    (hw : spacedWorld span s c a s') : InPass now nodes m s' := by
  obtain ⟨hclock, hbegan, hpresent, hpolls⟩ := still_of_quiet hc hw
  refine ⟨hbegan.trans h.began, h.passed.trans hclock, hpresent.trans h.present, ?_, h.distinct⟩
  rw [hpolls]
  exact h.tracked

/-- And what holds between the passes. -/
theorem Between.quiet {c : Monitor.Call} {a : c.Answer} (h : Between m s) (hc : Quiet c)
    (hw : spacedWorld span s c a s') : Between m s' := by
  obtain ⟨-, -, -, hpolls⟩ := still_of_quiet hc hw
  unfold Between
  rw [hpolls]
  exact h

/-- Of the variables of the monitor, only the backlog and the consumers matter. -/
theorem InPass.congr (h : InPass now nodes m s) (hbacklog : m'.backlog = m.backlog)
    (hconsumers : m'.consumers = m.consumers) : InPass now nodes m' s := by
  refine ⟨h.began, h.passed, h.present, ?_, ?_⟩
  · rw [hbacklog]
    exact h.tracked
  · rw [hconsumers]
    exact h.distinct

/-- What holds in a pass holds at its end. -/
theorem InPass.between (h : InPass now nodes m s) : Between m s := ⟨h.tracked, h.distinct⟩

/-- A backlog that starts again is on track. -/
theorem between_restart (m : Watch) (s : Timeline) : Between m.restartBacklog s :=
  ⟨tracked_empty, List.nodup_nil⟩

/-- A program of such calls keeps a pass as it is. -/
theorem InPass.always {α : Type} {p : Monitor.Program α} (h : InPass now nodes m s)
    (hp : Asks Quiet p) :
    Always (spacedWorld span) (Guarded span) (fun _ => InPass now nodes m) p s :=
  Always.of_asks hp h (fun _ _ _ hc => guarded_of_quiet hc) fun _ _ _ _ hs hc hw => hs.quiet hc hw

/-- The loop over the counters makes only such calls. -/
theorem watchCounters_asks {recovered : Bool} :
    Asks Quiet (watchCounters now recovered m controllers) := by
  induction controllers generalizing recovered m with
  | nil => exact trivial
  | cons controller rest ih =>
    unfold watchCounters
    cases reading controller with
    | none => exact ih
    | some count =>
      dsimp only
      split_ifs
      · refine Asks.bind ⟨rfl, fun _ => ⟨rfl, fun r => ?_⟩⟩ fun r => ih
        cases r with
        | ok recovered => exact ⟨rfl, fun _ => trivial⟩
        | error e => exact ⟨rfl, fun _ => trivial⟩
      · exact ih

/-- A refresh keeps the pass, whatever it finds. -/
theorem refreshIfDue_keeps (h : InPass now nodes m s) :
    Always (spacedWorld span) (Guarded span)
      (fun r s' => InPass now nodes { m with consumers := r.2 } s')
      (m.consumers.refreshIfDue controllers now) s := by
  unfold ConsumerMonitor.refreshIfDue
  split_ifs
  · exact h
  · unfold discoverConsumers
    split_ifs
    · exact ⟨h.began, h.passed, h.present, h.tracked, List.nodup_nil⟩
    · refine ⟨guarded_of_not_stalled rfl, fun r s' hw => ?_⟩
      have h' := h.quiet (c := .discoverConsumers _) rfl hw
      obtain ⟨⟨t, -, hdistinct, -⟩, -⟩ := hw
      cases r with
      | error e => exact h'
      | ok consumers => exact ⟨h'.began, h'.passed, h'.present, h'.tracked, hdistinct⟩

/-- A rebind of a stalled consumer is announced after a backlog, and starts the backlog again. -/
theorem rebindStalled_keeps {stalled : ConsumerKey} (hbacklog : Backlog span stalled s.polls) :
    Always (spacedWorld span) (Guarded span) Between (rebindStalled now stalled id m) s := by
  refine ⟨?_, fun _ s₁ _ => ⟨guarded_of_not_stalled rfl, fun r s₂ _ => ?_⟩⟩
  · rintro key hkey
    obtain rfl := Option.some.inj hkey
    exact hbacklog
  · cases r with
    | ok r => exact ⟨guarded_of_not_stalled rfl, fun _ s₃ _ => between_restart _ s₃⟩
    | error e => exact ⟨guarded_of_not_stalled rfl, fun _ s₃ _ => between_restart _ s₃⟩

/-- The event node of a controller of the pass has a controller to be rebound. -/
theorem not_mem_of_controllerOf {node : String} (h : controllerOf controllers node = none) :
    node ∉ controllers.flatMap Controller.eventNodes := by
  intro hmem
  obtain ⟨controller, hcontroller, hnode⟩ := List.mem_flatMap.mp hmem
  exact List.find?_eq_none.mp h controller hcontroller (by simpa using hnode)

/-- What a pass does with its samples is guarded. -/
theorem judgeSamples_keeps {samples : List (ConsumerKey × Bool)} {retained : List ConsumerFd}
    (h : InPass now (controllers.flatMap Controller.eventNodes) m s)
    (hpolled : Polled span s m.consumers.consumers samples retained s') :
    Always (spacedWorld span) (Guarded span) Between
      (judgeSamples now controllers samples
        { m with consumers := { m.consumers with consumers := retained } }) s' := by
  have hkept := hpolled.kept.nodup h.distinct
  have hobserved := observe_tracked h.tracked h.distinct hpolled
  rw [h.began, h.present] at hobserved
  unfold judgeSamples
  split
  rename_i stalled backlog heq
  rw [heq] at hobserved
  cases stalled with
  | none => exact ⟨hobserved, hkept⟩
  | some stalled =>
    dsimp only
    cases hcontroller : controllerOf controllers stalled.eventNode with
    | none => exact ⟨hobserved.2 (not_mem_of_controllerOf hcontroller), hkept⟩
    | some controller => exact rebindStalled_keeps hobserved.1

/-- And so is the whole consumer branch. -/
theorem watchConsumers_keeps (h : InPass now (controllers.flatMap Controller.eventNodes) m s) :
    Always (spacedWorld span) (Guarded span) Between (watchConsumers now controllers m) s := by
  refine (refreshIfDue_keeps h).bind fun r s₁ h₁ => ?_
  obtain ⟨refreshed, consumers⟩ := r
  dsimp only at h₁ ⊢
  have hkeeps : Always (spacedWorld span) (Guarded span) _ _ _ :=
    h₁.always (reportRefresh_asks (fun _ => rfl) (fun _ => rfl) refreshed
      { m with consumers := consumers })
  have hreport := hkeeps.and_yields (reportRefresh_yields _ _)
  refine hreport.bind fun m' s₂ h₂ => ?_
  obtain ⟨h₂, -, hconsumers, hbacklog, -⟩ := h₂
  have h₂ := h₂.congr hbacklog hconsumers
  split_ifs
  · exact h₂.between
  · have hreadiness : Always (spacedWorld span) (Guarded span)
        (fun r s' => ∃ retained, r.2 = { m'.consumers with consumers := retained }
          ∧ Polled span s₂ m'.consumers.consumers r.1 retained s') m'.consumers.readiness s₂ :=
      (pollConsumers_polled h₂.distinct).bind fun r s' hpolled => ⟨r.2, rfl, hpolled⟩
    refine hreadiness.bind fun r s₃ h₃ => ?_
    obtain ⟨retained, hretained, hpolled⟩ := h₃
    rw [hretained]
    exact judgeSamples_keeps h₂ hpolled

/-- And what a pass does with its scan. -/
theorem watchScan_keeps {scan : IoResult Scan} (h : Between m s)
    (hw : spacedWorld span s .discover scan s') (hbegan : s.began = now) (hpassed : now ≤ s.clock) :
    Always (spacedWorld span) (Guarded span) Between (watchScan now scan m) s' := by
  obtain ⟨⟨t, ht, -, rfl⟩, -⟩ := hw
  cases scan with
  | error e =>
    have h' : Between m (s.record t .discover (.error e)) := h
    refine ⟨guarded_of_not_stalled rfl, fun _ s₁ hw => ?_⟩
    exact h'.quiet (c := .eprintln (.scanFailed e)) rfl hw
  | ok scan =>
    have h' : InPass now (scan.controllers.flatMap Controller.eventNodes) m
        (s.record t .discover (.ok scan)) := ⟨hbegan, hpassed.trans ht, rfl, h.1, h.2⟩
    have hcounters : Yields (fun r => r.2.backlog = m.backlog ∧ r.2.consumers = m.consumers)
        (watchCounters now false m scan.controllers) := watchCounters_yields rfl rfl
    refine ((h'.always watchCounters_asks).and_yields hcounters).bind fun r s₁ h₁ => ?_
    obtain ⟨recovered, m'⟩ := r
    obtain ⟨h₁, hbacklog, hconsumers⟩ := h₁
    dsimp only
    split_ifs
    · exact between_restart m' s₁
    · exact watchConsumers_keeps (h₁.congr hbacklog hconsumers)

/-- **What a pass keeps.** -/
theorem pass_keeps (h : Between m s) :
    Always (spacedWorld span) (Guarded span) Between (pass interval m) s := by
  refine ⟨guarded_of_not_stalled rfl, fun now s₁ hw => ?_⟩
  obtain ⟨⟨t, -, hnow, rfl⟩, -⟩ := hw
  refine ⟨guarded_of_not_stalled rfl, fun scan s₂ hw => ?_⟩
  have h₁ : Between m (s.record t .now now) := h
  refine (watchScan_keeps h₁ hw (Eq.symm hnow) (le_of_eq hnow)).bind fun m' s₃ h₃ => ?_
  exact ⟨guarded_of_not_stalled rfl, fun _ s₄ hw => h₃.quiet (c := .sleep interval) rfl hw⟩

end Pass

/-! ## Runs -/

section Runs

variable {interval clock₀ : ℕ} {p : Monitor.Program Watch} {s : Timeline} {key : ConsumerKey}

/-- Every point of a run is guarded. -/
theorem reaches_always {span : ℕ} (h : Reaches (spacedWorld span) interval clock₀ p s) :
    Always (spacedWorld span) (Guarded span) Between p s := by
  refine h.always ?_ fun m s hs => pass_keeps hs
  exact ⟨tracked_empty, List.nodup_nil⟩

/-- The stalled consumer of a run has had a backlog. -/
theorem backlog_of_reaches {span : ℕ} (h : Reaches (spacedWorld span) interval clock₀ p s)
    (hstalled : p.next.bind stalledBy = some key) : Backlog span key s.polls := by
  have halways := reaches_always h
  cases p with
  | done m => exact absurd hstalled (by simp [next])
  | ask c k => exact halways.1 key hstalled

/-- **The gate measures real backlog** in runs in which, of the passes that began 750 ms ago, one
was blocked no longer: a rebind starts for a stalled consumer only if two polls of its
descriptor, 750 ms apart at least, have found it readable, and every poll of it in between,
too. -/
theorem stalled_for_the_grace (h : Reaches timelyWorld interval clock₀ p s)
    (hstalled : p.next.bind stalledBy = some key) :
    Backlog consumerBacklogGrace key s.polls := by
  refine backlog_of_reaches (Loops.of_invariant (clocked_start clock₀) ?_ h).1 hstalled
  rintro s c a s' hs ⟨hw, hpolling⟩
  refine ⟨⟨hw, hpolling.imp fun key hlonger => ?_⟩, hs.record hw⟩
  exact spaced_of_noLonger hs (clock_le_of_timed hw) hlonger

/-- No pass was blocked for longer than `bound` before a poll that found the descriptor
readable. -/
def Held (bound : ℕ) (s : Timeline) : Prop :=
  Clocked s ∧ ∀ p ∈ s.polls, p.readable = true → p.blocked ≤ bound

/-- Every answer keeps the bounds on the calls of a pass. -/
theorem Held.record {bound : ℕ} {s s' : Timeline} {c : Monitor.Call} {a : c.Answer}
    (h : Held bound s) (hw : pollingWorld (Within bound) s c a s') : Held bound s' := by
  obtain ⟨hw, hpolling⟩ := hw
  refine ⟨h.1.record hw, ?_⟩
  obtain ⟨t, -, -, rfl⟩ := hw
  cases c with
  | discover => cases a <;> exact h.2
  | rebindController id => cases a <;> exact h.2
  | poll fd =>
    intro p hp hreadable
    rcases List.mem_cons.mp hp with rfl | hp
    · -- the poll has found the descriptor readable, so the pass was in time
      rcases a with e | readiness
      · cases hreadable
      · cases readiness with
        | ready => exact hpolling
        | idle => cases hreadable
        | dead => cases hreadable
    · exact h.2 p hp hreadable
  | _ => exact h.2

/-- **The gate is wrong by the time for which a pass is blocked, at most.**  If that is never
more than `bound`, the two polls are 750 ms less that time apart. -/
theorem stalled_for_the_rest {bound : ℕ}
    (h : Reaches (pollingWorld (Within bound)) interval clock₀ p s)
    (hstalled : p.next.bind stalledBy = some key) :
    Backlog (consumerBacklogGrace - bound) key s.polls := by
  have hstart : Held bound (.start clock₀) :=
    ⟨clocked_start clock₀, fun p hp => absurd hp List.not_mem_nil⟩
  refine backlog_of_reaches (Loops.of_invariant hstart ?_ h).1 hstalled
  rintro s c a s' hs hw
  refine ⟨⟨hw.1, hw.2.imp fun key _ => ?_⟩, hs.record hw⟩
  refine spaced_of_within hs.1 (clock_le_of_timed hw.1) fun p hp => ?_
  exact hs.2 p (mem_of_mem_streak hp) (List.all_eq_true.mp List.all_takeWhile p hp)

/-- A touchpad whose kernel has recovered it, and a second one. -/
def padsScan (_ : Timeline) : Scan where
  controllers :=
    [⟨"7-0015", some "recoveries=1", none, ["/dev/input/event7"]⟩,
      ⟨"8-002c", some "unavailable", none, ["/dev/input/event9"]⟩]
  distinct := by decide

/-- A poll in a pass that is blocked for as long as the earlier ones finds the descriptor
readable. -/
def timelyDesk : Desk where
  driver _ _ := false
  failures := 0
  scan := padsScan
  poll fd s :=
    if ∀ p ∈ streak fd.key s.polls, p.pass + consumerBacklogGrace ≤ s.began →
      p.blocked ≤ s.blockedUntil s.clock
    then .ready else .dead

/-- What the desk answers is timely. -/
theorem timelyDesk_timely (s : Timeline) (c : Monitor.Call) :
    timelyWorld s c (timelyDesk.answers s c).1 (timelyDesk.answers s c).2 := by
  refine ⟨timelyDesk.answers_allowed s c, ?_⟩
  cases c with
  | poll fd =>
    show Polling NoLonger s s.clock (.poll fd) (.ok (timelyDesk.poll fd s))
    unfold timelyDesk
    dsimp only
    split_ifs with htimely
    · rintro ⟨p, hp⟩
      exact ⟨p, hp, htimely p hp.1 hp.2⟩
    · exact trivial
  | _ => exact trivial

/-- A descriptor that is never read, polled every 50 ms. -/
theorem stalled_for_the_grace_timelyDesk :
    ∃ p s, Reaches timelyWorld (millis 50) 0 p s ∧ p.next.bind stalledBy = some consumerKey
      ∧ (pollsOf consumerKey s.polls).length = 16
      ∧ Backlog consumerBacklogGrace consumerKey s.polls := by
  have hreach : Reaches timelyWorld (millis 50) 0 (timelyDesk.run (millis 50) 15).1
      (timelyDesk.run (millis 50) 15).2 := loops_talkInto timelyDesk_timely _ _
  have hstalled : (timelyDesk.run (millis 50) 15).1.next.bind stalledBy = some consumerKey := by
    decide +kernel
  refine ⟨_, _, hreach, hstalled, ?_, stalled_for_the_grace hreach hstalled⟩
  decide +kernel

/-- A desk whose first device does not bind again, and whose second one is not read. -/
def failingDesk : Desk := ⟨fun _ _ => true, 5, padsScan, fun _ _ => .ready⟩

/-- The first poll comes at the end of a rebind that takes 1.95 s, the second one in the next
pass, which begins 50 ms later.  Nothing else has been polled when the second controller is
rebound. -/
theorem stalled_for_a_moment : ¬ ∀ (interval clock₀ : ℕ) p s key, 0 < interval →
    Reaches timedWorld interval clock₀ p s → p.next.bind stalledBy = some key →
      Backlog consumerBacklogGrace key s.polls := by
  intro h
  have hreach : Reaches timedWorld (millis 50) 0 (failingDesk.run (millis 50) 1).1
      (failingDesk.run (millis 50) 1).2 := loops_talkInto failingDesk.answers_allowed _ _
  have hstalled : (failingDesk.run (millis 50) 1).1.next.bind stalledBy = some consumerKey := by
    decide +kernel
  have hmoments : (pollsOf consumerKey (failingDesk.run (millis 50) 1).2.polls).map Poll.moment
      = [millis 2000, millis 1950] := by
    decide +kernel
  obtain ⟨newer, q, between, p, older, hpolls, -, -, -, hgrace⟩ :=
    h _ _ _ _ _ (by decide) hreach hstalled
  have hmem : ∀ r ∈ pollsOf consumerKey (failingDesk.run (millis 50) 1).2.polls,
      r.moment = millis 2000 ∨ r.moment = millis 1950 := by
    intro r hr
    have hr := List.mem_map_of_mem (f := Poll.moment) hr
    rw [hmoments] at hr
    simpa using hr
  rw [hpolls] at hmem
  have hlate : q.moment ≤ millis 2000 := by
    rcases hmem q (by simp) with hq | hq
    · exact hq.le
    · exact hq.le.trans (by decide)
  have hearly : millis 1950 ≤ p.moment := by
    rcases hmem p (by simp) with hp | hp
    · exact le_trans (by decide) hp.ge
    · exact hp.ge
  have hapart : millis 2000 < millis 1950 + consumerBacklogGrace := by decide
  omega

end Runs

end BacklogGate
