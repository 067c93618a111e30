/-
# The monitor on a clock

A world for the monitor in which every call takes time: as long as it likes, but a `sleep`
at least what was asked for, and `rebind_controller` as long as one of its own runs takes.
The timeline keeps what the properties about time are about: when the pass began and which
event nodes its scan has found, what each poll of a descriptor returned and when, and when
rebinds returned `Ok`.

* `timedWorld`: the world.
* `Desk`: an environment with fixed answers and a device that takes its time to bind again,
  for runs that are to be looked at.
-/
import ElanGuardian.Monitor

open Dialogue Sysfs Recover Monitor

namespace MonitorClock

/-! ## The world -/

/-- A poll of a descriptor, in the pass that began at `pass`. -/
structure Poll where
  key : ConsumerKey
  answer : IoResult FdReadiness
  pass : ℕ
  /-- how long the calls of the pass have taken, this one included -/
  blocked : ℕ
  moment : ℕ

def Poll.readable (p : Poll) : Bool :=
  match p.answer with
  | .ok .ready => true
  | _ => false

/-- The clock, and what has happened so far, newest first. -/
structure Timeline where
  clock : ℕ
  began : ℕ
  /-- how long the calls of the pass have taken so far -/
  blocked : ℕ
  present : List String
  polls : List Poll
  returned : List ℕ

/-- A monitor that is started at `clock`. -/
def Timeline.start (clock : ℕ) : Timeline := ⟨clock, clock, 0, [], [], []⟩

/-- How long the calls of the pass have taken after one that was answered at `t`. -/
def Timeline.blockedUntil (s : Timeline) (t : ℕ) : ℕ := s.blocked + (t - s.clock)

/-- A call of the pass that was answered at `t`. -/
def Timeline.pass (s : Timeline) (t : ℕ) : Timeline :=
  { s with clock := t, blocked := s.blockedUntil t }

/-- The timeline after a call that was answered at `t`. -/
def Timeline.record (s : Timeline) (t : ℕ) : (c : Monitor.Call) → c.Answer → Timeline
  | .now, _ => { s with clock := t, began := t, blocked := 0 }
  | .discover, .ok scan =>
    { s.pass t with present := scan.controllers.flatMap Controller.eventNodes }
  | .rebindController _, .ok _ => { s.pass t with returned := t :: s.returned }
  | .poll fd, r =>
    { s.pass t with polls := ⟨fd.key, r, s.began, s.blockedUntil t, t⟩ :: s.polls }
  | _, _ => s.pass t

/-- The time that a call of the operating system takes. -/
def sysClock : World ℕ Sys := fun t c a t' =>
  t ≤ t' ∧
  match c, a with
  | .now, now => now = t'
  | .sleep d, _ => t + d ≤ t'
  | _, _ => True

/-- A play does not take the clock back. -/
theorem sysClock_le {α : Type} {p q : Sysfs.Program α} {t t' : ℕ} (h : Plays sysClock p t q t') :
    t ≤ t' := by
  induction h with
  | refl => exact le_rfl
  | ask hanswer _ ih => exact hanswer.1.trans ih

/-- What may be answered at `t`.  Every descriptor of a process is found once. -/
def Allowed (s : Timeline) (t : ℕ) : (c : Monitor.Call) → c.Answer → Prop
  | .now, now => now = t
  | .rebindController id, r => Plays sysClock (rebindController id) s.clock (.done r) t
  | .discoverConsumers _, .ok consumers => (consumers.map ConsumerFd.key).Nodup
  | .sleep d, _ => s.clock + d ≤ t
  | _, _ => True

/-- Every call may take any time. -/
def timedWorld : World Timeline Services := fun s c a s' =>
  ∃ t, s.clock ≤ t ∧ Allowed s t c a ∧ s' = s.record t c a

/-- The points that a run of the monitor reaches, in a world, if it is started at
`clock₀`. -/
def Reaches (w : World Timeline Services) (interval clock₀ : ℕ) :
    Monitor.Program Watch → Timeline → Prop :=
  Loops w (pass interval) Watch.init (.start clock₀)

section Record

variable {s s' : Timeline} {t : ℕ} {c : Monitor.Call} {a : c.Answer}

@[simp] theorem record_clock : (s.record t c a).clock = t := by
  unfold Timeline.record
  split <;> rfl

end Record

/-! ## A desk with a slow device -/

/-- A device: whether its driver is loaded, whether it is bound, and how many attempts to
bind it will still fail. -/
structure Device where
  clock : ℕ
  driver : Bool
  bound : Bool
  failures : ℕ

/-- The answers of its sysfs, which take no time. -/
def deviceSysfs (s : Device) : (c : Sysfs.Call) → c.Answer × Device
  | .pathExists _ => (s.bound, s)
  | .canonicalize (.deviceDriver _) => (if s.bound then .ok "elan_i2c" else .error ⟨.os 2, ""⟩, s)
  | .canonicalize _ => (if s.driver then .ok "elan_i2c" else .error ⟨.os 2, ""⟩, s)
  | .readDir .driver => (.ok [.ok (some "7-0015")], s)
  | .readDir (.inputDir _ _) => (.ok [.ok (some "event9")], s)
  | .readDir _ => (.ok [.ok (some "input5")], s)
  | .readToString _ => (.error ⟨.os 2, ""⟩, s)
  | .write .bind _ =>
    if s.failures = 0 then (.ok (), { s with bound := true })
    else (.error ⟨.os 5, ""⟩, { s with failures := s.failures - 1 })
  | .write _ _ => (.ok (), { s with bound := false })
  | .command _ _ => (.error ⟨.os 2, ""⟩, s)
  | .now => (s.clock, s)
  | .sleep d => ((), { s with clock := s.clock + d })

/-- A rebind of the device: what it returns, and the device afterwards. -/
def rebindDevice (driver : Bool) (failures : ℕ) (id : String) (t : ℕ) :
    IoResult RecoveredController × Device :=
  talk deviceSysfs (rebindController id) ⟨t, driver, true, failures⟩

/-- The device answers as the clock allows. -/
theorem deviceSysfs_allowed (s : Device) (c : Sysfs.Call) :
    sysClock s.clock c (deviceSysfs s c).1 (deviceSysfs s c).2.clock := by
  cases c with
  | pathExists f => exact ⟨le_rfl, trivial⟩
  | canonicalize f => cases f <;> exact ⟨le_rfl, trivial⟩
  | readDir f => cases f <;> exact ⟨le_rfl, trivial⟩
  | readToString f => exact ⟨le_rfl, trivial⟩
  | write f text =>
    unfold deviceSysfs
    cases f with
    | bind =>
      dsimp only
      split_ifs
      · exact ⟨le_rfl, trivial⟩
      · exact ⟨le_rfl, trivial⟩
    | _ => exact ⟨le_rfl, trivial⟩
  | command program args => exact ⟨le_rfl, trivial⟩
  | now => exact ⟨le_rfl, rfl⟩
  | sleep d => exact ⟨Nat.le_add_right _ _, le_rfl⟩

/-- A rebind of the device is a play of `rebind_controller`. -/
theorem rebindDevice_plays (driver : Bool) (failures : ℕ) (id : String) (t : ℕ) :
    Plays sysClock (rebindController id) t (.done (rebindDevice driver failures id t).1)
      (rebindDevice driver failures id t).2.clock := by
  have hplays := plays_talk
    (w := fun s c a s' => sysClock (Device.clock s) c a (Device.clock s')) deviceSysfs_allowed
    (rebindController id) ⟨t, driver, true, failures⟩
  exact hplays.map Device.clock fun _ _ _ _ hw => hw

/-- Without the driver no rebind returns `Ok`. -/
theorem rebindDevice_without_driver (failures : ℕ) (id : String) (t : ℕ) :
    ∃ e, (rebindDevice false failures id t).1 = .error e := by
  unfold rebindDevice rebindController
  split_ifs
  · exact ⟨_, rfl⟩
  · exact ⟨_, rfl⟩

/-- A bind that succeeds at the fifth attempt only comes after nearly two seconds. -/
example : (rebindDevice true 4 "7-0015" 0).2.clock = millis 1950 := by decide +kernel

/-- A desktop with one descriptor and a device: when its driver is loaded, how many attempts
to bind it fail, what scans find, and what polls return. -/
structure Desk where
  driver : String → Timeline → Bool
  failures : ℕ
  scan : Timeline → Scan
  poll : ConsumerFd → Timeline → FdReadiness

def consumerKey : ConsumerKey := ⟨4711, 23, "/dev/input/event9"⟩

/-- A call that takes no time. -/
def atOnce (s : Timeline) (c : Monitor.Call) (a : c.Answer) : c.Answer × Timeline :=
  (a, s.record s.clock c a)

/-- Only sleeping and rebinding takes time. -/
def Desk.answers (desk : Desk) (s : Timeline) : (c : Monitor.Call) → c.Answer × Timeline
  | .now => atOnce s .now s.clock
  | .discover => atOnce s .discover (.ok (desk.scan s))
  | .rebindController id =>
    let (r, device) := rebindDevice (desk.driver id s) desk.failures id s.clock
    (r, s.record device.clock (.rebindController id) r)
  | .discoverConsumers nodes => atOnce s (.discoverConsumers nodes) (.ok [⟨consumerKey, 5⟩])
  | .poll fd => atOnce s (.poll fd) (.ok (desk.poll fd s))
  | .eprintln line => atOnce s (.eprintln line) ()
  | .sleep d => ((), s.record (s.clock + d) (.sleep d) ())

/-- The desktop answers as the timed world allows. -/
theorem Desk.answers_allowed (desk : Desk) (s : Timeline) (c : Monitor.Call) :
    timedWorld s c (desk.answers s c).1 (desk.answers s c).2 := by
  cases c with
  | now => exact ⟨s.clock, le_rfl, rfl, rfl⟩
  | discover => exact ⟨s.clock, le_rfl, trivial, rfl⟩
  | rebindController id =>
    have hplays := rebindDevice_plays (desk.driver id s) desk.failures id s.clock
    exact ⟨_, sysClock_le hplays, hplays, rfl⟩
  | discoverConsumers nodes => exact ⟨s.clock, le_rfl, List.nodup_singleton _, rfl⟩
  | poll fd => exact ⟨s.clock, le_rfl, trivial, rfl⟩
  | eprintln line => exact ⟨s.clock, le_rfl, trivial, rfl⟩
  | sleep d => exact ⟨s.clock + d, Nat.le_add_right _ _, le_rfl, rfl⟩

/-- A run at a desk up to the first rebind for a stalled consumer after `n` passes. -/
def Desk.run (desk : Desk) (interval n : ℕ) : Monitor.Program Watch × Timeline :=
  talkInto (fun c => (stalledBy c).isSome) desk.answers (pass interval) n (Watch.init, .start 0)

end MonitorClock
