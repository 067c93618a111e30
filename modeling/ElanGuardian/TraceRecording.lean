/-
# Recording a trace

`record` of `src/trace.rs` opens the event nodes of the bound controllers and then, round by
round, reads what the nodes hold, takes a sample and sleeps.  It is a loop over stages here:
one read, or one end of a round, at a time, so that a drain may take any number of reads.

`Scene` keeps what the clock has answered and how many bytes were read, before the first
sample and after it.

* `record_panics_iff`: the loop reads the clock three times a round, and panics just if the
  clock passes the duration between the exit test and the subtraction.
* `record_evidence`: what a recorded trace holds is what the diagnosis takes it for.
-/
import ElanGuardian.IrqCounters
import ElanGuardian.SortedMap
import ElanGuardian.TraceDiagnosis

open Dialogue Sysfs TraceDiagnosis

namespace TraceRecording

/-! ## What is recorded -/

/-- `TraceSample`. -/
structure RecordedSample extends TraceSample where
  elapsedMs : UInt64
  deriving DecidableEq

/-- `Trace`. -/
structure RecordedTrace where
  schema : String
  capturedUnixMs : ℕ
  expectMotion : Bool
  cursorStalled : Bool
  controllers : List Controller
  samples : List RecordedSample
  deriving DecidableEq

/-- What the classifiers read of a trace. -/
def RecordedTrace.toTrace (trace : RecordedTrace) : Trace where
  schema := trace.schema
  expectMotion := trace.expectMotion
  cursorStalled := trace.cursorStalled
  samples := trace.samples.map RecordedSample.toTraceSample

/-- `RecordOptions`, without the paths: the calls stand for the files there. -/
structure RecordOptions where
  duration : ℕ
  interval : ℕ
  expectMotion : Bool
  cursorStalled : Bool

structure EventReader where
  path : String
  bytes : UInt64
  deriving DecidableEq

/-! ## Calls -/

inductive Call
  | sysfs (c : Sysfs.Call)
  /-- `libc::open`, read-only and without blocking -/
  | openNode (path : String)
  /-- `Instant::now` -/
  | start
  /-- `File::read` into the buffer: the number of bytes -/
  | readNode (path : String)
  /-- `start.elapsed()` -/
  | elapsed
  /-- `fs::read_to_string` of the table of interrupts -/
  | readInterrupts
  | sleep (d : ℕ)
  /-- the time since the epoch, in milliseconds -/
  | unixTime

abbrev Call.Answer : Call → Type
  | .sysfs c => c.Answer
  | .openNode _ => IoResult Unit
  | .start => Unit
  | .readNode _ => IoResult ℕ
  | .elapsed => ℕ
  | .readInterrupts => IoResult String
  | .sleep _ => Unit
  | .unixTime => ℕ

abbrev Rec : Interface := ⟨Call, Call.Answer⟩

/-- A call of discovery. -/
def onSysfs {α : Type} (p : Program α) : Dialogue Rec α :=
  p.lift (J := Rec) Call.sysfs fun _ answer => answer

/-! ## `record` -/

/-- The loop of `open_event_nodes`. -/
def openNodes : List String → Dialogue Rec (IoResult (List EventReader))
  | [] => pure (.ok [])
  | path :: rest =>
    if path.toList.contains '\x00' then pure (.error ⟨.invalidInput, "NUL in device path"⟩)
    else do
      match ← call (I := Rec) (.openNode path) with
      | .error e =>
        let cause := e.message
        pure (.error ⟨e.kind, s!"cannot open {path}: {cause}"⟩)
      | .ok () => (openNodes rest).orReturn fun readers => pure (.ok (⟨path, 0⟩ :: readers))

/-- `open_event_nodes`. -/
def openEventNodes (controllers : List Controller) : Dialogue Rec (IoResult (List EventReader)) :=
  (openNodes (controllers.flatMap Controller.eventNodes)).orReturn fun readers =>
    if readers.isEmpty then pure (.error ⟨.notFound, "Elan controller has no evdev nodes"⟩)
    else pure (.ok readers)

/-- `record` up to its loop. -/
def openControllers (options : RecordOptions) :
    Dialogue Rec (IoResult (List Controller × List EventReader)) :=
  if options.duration = 0 ∨ options.interval = 0 then
    pure (.error ⟨.invalidInput, "duration and interval must be non-zero"⟩)
  else
    (onSysfs discover).orReturn fun controllers =>
    if controllers.isEmpty then
      pure (.error ⟨.notFound, "no controllers are bound to elan_i2c"⟩)
    else
      (openEventNodes controllers).orReturn fun readers => do
        call (I := Rec) .start
        pure (.ok (controllers, readers))

/-- The map of event bytes that is collected from the readers.  Their paths lie in one directory,
where the order of paths is that of their texts. -/
def eventBytes (readers : List EventReader) : List (String × UInt64) :=
  SortedMap.ofEntries (readers.map fun reader => (reader.path, reader.bytes))

/-- Where `record` is: in a drain, with the readers drained in this round and the others;
or at an end. -/
inductive Stage
  | starting
  | draining (controllers : List Controller) (drained waiting : List EventReader)
    (samples : List RecordedSample)
  | returned (r : IoResult RecordedTrace)
  | panicked
  deriving DecidableEq

/-- A sample of the readers. -/
def takeSample (readers : List EventReader) : Dialogue Rec RecordedSample := do
  let elapsed ← call (I := Rec) .elapsed
  let interrupts ← call (I := Rec) .readInterrupts
  pure ⟨⟨(IrqCounters.totalOf interrupts).toOption, eventBytes readers⟩,
    UInt64.ofNat (elapsed / millis 1)⟩

/-- The trace that is returned. -/
def recorded (options : RecordOptions) (controllers : List Controller)
    (samples : List RecordedSample) (captured : ℕ) : RecordedTrace :=
  ⟨traceSchema, captured, options.expectMotion, options.cursorStalled, controllers, samples⟩

/-- The round once its sample is taken: the exit test, and the sleep for the rest of the
duration.  The subtraction of the time since `start` panics if that is longer. -/
def endRound (options : RecordOptions) (controllers : List Controller)
    (readers : List EventReader) (samples : List RecordedSample) : Dialogue Rec Stage := do
  let elapsed ← call (I := Rec) .elapsed
  if elapsed ≥ options.duration then
    let captured ← call (I := Rec) .unixTime
    pure (.returned (.ok (recorded options controllers samples captured)))
  else
    let elapsed ← call (I := Rec) .elapsed
    if elapsed > options.duration then pure .panicked
    else
      call (I := Rec) (.sleep (min options.interval (options.duration - elapsed)))
      pure (.draining controllers [] readers samples)

/-- One read of `drain_events`. -/
def readEvents (controllers : List Controller) (drained : List EventReader) (reader : EventReader)
    (waiting : List EventReader) (samples : List RecordedSample) : Dialogue Rec Stage := do
  match ← call (I := Rec) (.readNode reader.path) with
  | .ok count =>
    -- `Ok(0) => break`: the end of the file
    if count = 0 then pure (.draining controllers (drained ++ [reader]) waiting samples)
    else
      let reader := { reader with bytes := saturatingAdd reader.bytes (UInt64.ofNat count) }
      pure (.draining controllers drained (reader :: waiting) samples)
  | .error e =>
    if e.kind = .wouldBlock then
      pure (.draining controllers (drained ++ [reader]) waiting samples)
    else if e.kind = .interrupted then
      pure (.draining controllers drained (reader :: waiting) samples)
    else pure (.returned (.error e))

/-- One step of `record`. -/
def record (options : RecordOptions) : Stage → Dialogue Rec Stage
  | .starting => do
    match ← openControllers options with
    | .error e => pure (.returned (.error e))
    | .ok (controllers, readers) => pure (.draining controllers [] readers [])
  | .draining controllers drained [] samples => do
    let sample ← takeSample drained
    endRound options controllers drained (samples ++ [sample])
  | .draining controllers drained (reader :: waiting) samples =>
    readEvents controllers drained reader waiting samples
  | .returned r => pure (.returned r)
  | .panicked => pure .panicked

/-! ## The clock and the nodes -/

/-- What `start.elapsed()` has answered, in order, and the bytes read before the first of these
answers and after it. -/
structure Scene where
  readings : List ℕ
  first : ℕ
  later : ℕ
  deriving DecidableEq

/-- Nothing has happened yet. -/
def Scene.fresh : Scene := ⟨[], 0, 0⟩

/-- The bytes read so far. -/
def Scene.bytes (s : Scene) : ℕ := s.first + s.later

/-- Some bytes are read. -/
def Scene.addBytes (s : Scene) (count : ℕ) : Scene :=
  if s.readings = [] then { s with first := s.first + count }
  else { s with later := s.later + count }

/-- A clock that never goes back; everything else may be answered in any way. -/
def recordWorld : World Scene Rec := fun s c a s' =>
  match c, a with
  | .elapsed, t => (∀ t' ∈ s.readings, t' ≤ t) ∧ s' = { s with readings := s.readings ++ [t] }
  | .readNode _, .ok count => s' = s.addBytes count
  | _, _ => s' = s

/-! ## What one step does -/

/-- The call neither reads the clock nor a node. -/
def Idle : Call → Prop
  | .elapsed => False
  | .readNode _ => False
  | _ => True

/-- One read: the reader is drained, is interrupted, has read some bytes, or has failed. -/
inductive ReadsEvents (controllers : List Controller) (drained : List EventReader)
    (reader : EventReader) (waiting : List EventReader) (samples : List RecordedSample)
    (s : Scene) : Stage → Scene → Prop
  | drained : ReadsEvents controllers drained reader waiting samples s
      (.draining controllers (drained ++ [reader]) waiting samples) s
  | interrupted : ReadsEvents controllers drained reader waiting samples s
      (.draining controllers drained (reader :: waiting) samples) s
  | data (count : ℕ) : ReadsEvents controllers drained reader waiting samples s
      (.draining controllers drained
        ({ reader with bytes := saturatingAdd reader.bytes (UInt64.ofNat count) } :: waiting)
        samples) (s.addBytes count)
  | failed (e : IoError) : ReadsEvents controllers drained reader waiting samples s
      (.returned (.error e)) s

/-- The end of a round, with what the clock answers to the exit test and after it. -/
inductive EndsRound (options : RecordOptions) (controllers : List Controller)
    (readers : List EventReader) (samples : List RecordedSample) (s : Scene) :
    Stage → Scene → Prop
  | finished (test captured : ℕ) (htest : options.duration ≤ test) :
      EndsRound options controllers readers samples s
        (.returned (.ok (recorded options controllers samples captured)))
        { s with readings := s.readings ++ [test] }
  | overrun (test rest : ℕ) (htest : test < options.duration) (hrest : options.duration < rest) :
      EndsRound options controllers readers samples s .panicked
        { s with readings := s.readings ++ [test, rest] }
  | again (test rest : ℕ) (htest : test < options.duration) (hrest : rest ≤ options.duration) :
      EndsRound options controllers readers samples s (.draining controllers [] readers samples)
        { s with readings := s.readings ++ [test, rest] }

section Steps

variable {options : RecordOptions} {controllers : List Controller}
  {readers drained waiting : List EventReader} {reader : EventReader}
  {samples : List RecordedSample} {s : Scene}

/-- An idle call changes nothing. -/
theorem recordWorld_idle {s' : Scene} {c : Call} {a : c.Answer} (hc : Idle c)
    (hw : recordWorld s c a s') : s' = s := by
  cases c with
  | elapsed => exact hc.elim
  | readNode path => exact hc.elim
  | _ => exact hw

/-- Opening the nodes is idle. -/
theorem openNodes_asks (paths : List String) : Asks Idle (openNodes paths) := by
  induction paths with
  | nil => exact trivial
  | cons path rest ih =>
    unfold openNodes
    split_ifs
    · exact trivial
    · refine Asks.bind (asks_call trivial) fun r => ?_
      cases r with
      | error e => exact trivial
      | ok u => exact ih.orReturn fun readers => trivial

/-- And so is all that comes before the loop. -/
theorem openControllers_asks : Asks Idle (openControllers options) := by
  unfold openControllers
  split_ifs
  · exact trivial
  · refine Asks.orReturn (asks_lift (fun c => trivial) _) fun controllers => ?_
    split_ifs
    · exact trivial
    · refine Asks.orReturn (Asks.orReturn (openNodes_asks _) fun readers => ?_) fun readers => ?_
      · split_ifs <;> exact trivial
      · exact Asks.bind (asks_call trivial) fun _ => trivial

/-- The readers that are opened have read nothing. -/
theorem openNodes_yields (paths : List String) : Yields (fun r => ∀ readers, r = .ok readers →
    readers = paths.map fun path => ⟨path, 0⟩) (openNodes paths) := by
  induction paths with
  | nil =>
    rintro readers ⟨⟩
    rfl
  | cons path rest ih =>
    unfold openNodes
    split_ifs
    · rintro readers ⟨⟩
    · refine Yields.bind (Q := fun _ => True) (fun _ => trivial) fun r _ => ?_
      cases r with
      | error e => rintro readers ⟨⟩
      | ok u =>
        refine Yields.bind ih fun r hr => ?_
        cases r with
        | error e => rintro readers ⟨⟩
        | ok readers =>
          rintro _ ⟨⟩
          rw [hr readers rfl, List.map_cons]

/-- There is one reader for each node of the controllers. -/
theorem openControllers_yields : Yields (fun r => ∀ controllers readers,
    r = .ok (controllers, readers) →
      readers = (controllers.flatMap Controller.eventNodes).map fun path => ⟨path, 0⟩)
    (openControllers options) := by
  unfold openControllers
  split_ifs
  · rintro controllers readers ⟨⟩
  · refine Yields.bind (yields_true _) fun r _ => ?_
    cases r with
    | error e => rintro controllers readers ⟨⟩
    | ok controllers =>
      show Yields _ (if controllers.isEmpty then _ else _)
      split_ifs
      · rintro controllers readers ⟨⟩
      · refine Yields.bind (Q := fun r => ∀ readers, r = .ok readers →
          readers = (controllers.flatMap Controller.eventNodes).map fun path => ⟨path, 0⟩)
          (Yields.bind (openNodes_yields _) fun r hr => ?_) fun r hr => ?_
        · cases r with
          | error e => rintro readers ⟨⟩
          | ok readers =>
            show Yields _ (if readers.isEmpty then _ else _)
            split_ifs
            · rintro readers ⟨⟩
            · exact hr
        · cases r with
          | error e => rintro controllers readers ⟨⟩
          | ok readers =>
            rintro _ _ _ ⟨⟩
            exact hr readers rfl

/-- No bytes are added. -/
theorem addBytes_zero (s : Scene) : s.addBytes 0 = s := by
  unfold Scene.addBytes
  split_ifs <;> rfl

/-- Reading the events of a node leads to one of these stages. -/
theorem readEvents_always :
    Always recordWorld (fun _ _ => True)
      (ReadsEvents controllers drained reader waiting samples s)
      (readEvents controllers drained reader waiting samples) s := by
  refine ⟨trivial, fun r t hw => ?_⟩
  cases r with
  | ok count =>
    obtain rfl : t = s.addBytes count := hw
    show Always _ _ _ (if count = 0 then _ else _) _
    split_ifs with hzero
    · rw [hzero, addBytes_zero]
      exact .drained
    · exact .data count
  | error e =>
    obtain rfl : t = s := hw
    show Always _ _ _ (if e.kind = .wouldBlock then _ else _) _
    split_ifs
    · exact .drained
    · exact .interrupted
    · exact .failed e

/-- A sample is stamped with an answer of the clock. -/
theorem takeSample_always :
    Always recordWorld (fun _ _ => True)
      (fun sample t => ∃ stamp, (∀ t' ∈ s.readings, t' ≤ stamp)
        ∧ t = { s with readings := s.readings ++ [stamp] }
        ∧ sample.eventBytes = eventBytes readers
        ∧ sample.elapsedMs = UInt64.ofNat (stamp / millis 1)) (takeSample readers) s := by
  refine ⟨trivial, fun stamp t hw => ⟨trivial, fun interrupts t' hw' => ?_⟩⟩
  obtain ⟨hstamp, rfl⟩ := hw
  obtain rfl := recordWorld_idle (c := .readInterrupts) trivial hw'
  exact ⟨stamp, hstamp, rfl, rfl, rfl⟩

/-- The end of a round leads to one of these stages. -/
theorem endRound_always :
    Always recordWorld (fun _ _ => True) (EndsRound options controllers readers samples s)
      (endRound options controllers readers samples) s := by
  refine ⟨trivial, fun test t hw => ?_⟩
  obtain ⟨-, rfl⟩ := hw
  show Always _ _ _ (if test ≥ options.duration then _ else _) _
  split_ifs with htest
  · refine ⟨trivial, fun captured t hw => ?_⟩
    obtain rfl := recordWorld_idle (c := .unixTime) trivial hw
    exact .finished test captured htest
  · refine ⟨trivial, fun rest t hw => ?_⟩
    obtain ⟨-, rfl⟩ := hw
    rw [List.append_assoc]
    show Always _ _ _ (if rest > options.duration then _ else _) _
    split_ifs with hrest
    · exact .overrun test rest (not_le.mp htest) hrest
    · refine ⟨trivial, fun u t hw => ?_⟩
      obtain rfl := recordWorld_idle (c := .sleep _) trivial hw
      exact .again test rest (not_le.mp htest) (not_lt.mp hrest)

end Steps

/-! ## Recordings of one touchpad -/

/-- One touchpad with one event node. -/
def onePad : (c : Sysfs.Call) → c.Answer
  | .readDir .driver => .ok [.ok (some "13-0015")]
  | .readDir (.input _) => .ok [.ok (some "input5")]
  | .readDir _ => .ok [.ok (some "event7")]
  | .canonicalize _ => .ok "elan_i2c"
  | .readToString _ => .ok ""
  | .pathExists _ => true
  | .write _ _ => .ok ()
  | .command _ _ => .ok ⟨true, "", none, ""⟩
  | .now => 0
  | .sleep _ => ()

/-- The clock answers by a table; the node holds 24 bytes before the first of its answers, and
24 after it. -/
def onePadAnswers (table : List ℕ) (s : Scene) : (c : Call) → c.Answer × Scene
  | .sysfs c => (onePad c, s)
  | .readNode _ =>
    if s.first = 0 ∨ s.readings ≠ [] ∧ s.later = 0 then (.ok 24, s.addBytes 24)
    else (.error ⟨.wouldBlock, "Resource temporarily unavailable (os error 11)"⟩, s)
  | .elapsed =>
    let t := s.readings.foldr max (table.getD s.readings.length 0)
    (t, { s with readings := s.readings ++ [t] })
  | .openNode _ => (.ok (), s)
  | .start => ((), s)
  | .readInterrupts => (.ok "", s)
  | .sleep _ => ((), s)
  | .unixTime => (0, s)

/-- The touchpad answers as the world allows. -/
theorem onePadAnswers_allowed (table : List ℕ) (s : Scene) (c : Call) :
    recordWorld s c (onePadAnswers table s c).1 (onePadAnswers table s c).2 := by
  cases c with
  | elapsed => exact ⟨fun t ht => List.le_max_of_le' _ ht le_rfl, rfl⟩
  | readNode path =>
    unfold onePadAnswers
    dsimp only
    split_ifs
    · rfl
    · rfl
  | _ => rfl

/-- Ten seconds, with a sample every 100 ms. -/
def tenSeconds : RecordOptions := ⟨secs 10, millis 100, true, false⟩

/-- The rounds of a recording of one touchpad. -/
def recordRounds (table : List ℕ) (n : ℕ) : Stage × Scene :=
  talkRounds (onePadAnswers table) (record tenSeconds) n (.starting, .fresh)

/-- The rounds of the touchpad are a run. -/
theorem loops_recordRounds (table : List ℕ) (n : ℕ) :
    Loops recordWorld (record tenSeconds) .starting .fresh (.done (recordRounds table (n + 1)).1)
      (recordRounds table (n + 1)).2 :=
  loops_talk (onePadAnswers_allowed table) n

/-! ## The clock -/

/-- In some round the clock has passed the duration between the exit test and the
subtraction. -/
def Overruns (duration : ℕ) : List ℕ → Prop
  | _ :: test :: rest :: more => (test < duration ∧ duration < rest) ∨ Overruns duration more
  | _ => False

/-- What the answers of the clock are at a stage. -/
def ClockAt (options : RecordOptions) (s : Scene) : Stage → Prop
  | .starting => s.readings = []
  | .draining _ _ _ samples =>
    s.readings.length = 3 * samples.length ∧ ¬ Overruns options.duration s.readings
  | .returned _ => ¬ Overruns options.duration s.readings
  | .panicked => Overruns options.duration s.readings

section Clock

variable {options : RecordOptions} {duration : ℕ} {readings more : List ℕ}

/-- Whole rounds come first. -/
theorem overruns_append (n : ℕ) (h : readings.length = 3 * n) :
    Overruns duration (readings ++ more) ↔ Overruns duration readings ∨ Overruns duration more := by
  induction n generalizing readings with
  | zero =>
    rw [List.length_eq_zero_iff.mp h, List.nil_append]
    exact (or_iff_right not_false).symm
  | succ n ih =>
    rcases readings with _ | ⟨stamp, _ | ⟨test, _ | ⟨rest, readings⟩⟩⟩
    -- a round reads the clock three times
    · rw [List.length_nil] at h
      omega
    · simp only [List.length_cons, List.length_nil] at h
      omega
    · simp only [List.length_cons, List.length_nil] at h
      omega
    · have hlength : readings.length = 3 * n := by
        simp only [List.length_cons] at h
        omega
      show _ ∨ Overruns duration (readings ++ more)
        ↔ (_ ∨ Overruns duration readings) ∨ Overruns duration more
      rw [ih hlength, or_assoc]

/-- Bytes are no readings of the clock. -/
theorem addBytes_readings (s : Scene) (count : ℕ) : (s.addBytes count).readings = s.readings := by
  unfold Scene.addBytes
  split_ifs <;> rfl

/-- **One step** keeps account of the clock. -/
theorem record_clockAt (stage : Stage) (s : Scene) (hs : ClockAt options s stage) :
    Always recordWorld (fun _ _ => True) (fun stage t => ClockAt options t stage)
      (record options stage) s := by
  have hnever : ¬ Overruns options.duration [] := not_false
  cases stage with
  | starting =>
    have hopen : Always recordWorld (fun _ _ => True) (fun _ t => t = s) (openControllers options)
        s := by
      refine Always.of_asks (J := fun t => t = s) openControllers_asks rfl
        (fun _ _ _ _ => trivial) ?_
      rintro t c a t' rfl hc hw
      exact recordWorld_idle hc hw
    refine hopen.bind fun r t ht => ?_
    subst ht
    cases r with
    | error e =>
      show ¬ Overruns options.duration t.readings
      rw [hs]
      exact hnever
    | ok opened =>
      show t.readings.length = 0 ∧ ¬ Overruns options.duration t.readings
      rw [hs]
      exact ⟨rfl, hnever⟩
  | draining controllers drained waiting samples =>
    obtain ⟨hlength, hno⟩ := hs
    cases waiting with
    | nil =>
      -- the drain is over: the sample and the end of the round
      refine takeSample_always.bind fun sample t ht => ?_
      obtain ⟨stamp, -, rfl, -, -⟩ := ht
      refine endRound_always.mono (fun _ _ h => h) fun stage t ht => ?_
      cases ht with
      | finished test captured htest =>
        show ¬ Overruns options.duration ((s.readings ++ [stamp]) ++ [test])
        rw [List.append_assoc, overruns_append _ hlength]
        exact fun h => h.elim hno id
      | overrun test rest htest hrest =>
        show Overruns options.duration ((s.readings ++ [stamp]) ++ [test, rest])
        rw [List.append_assoc, overruns_append _ hlength]
        exact Or.inr (Or.inl ⟨htest, hrest⟩)
      | again test rest htest hrest =>
        constructor
        · simp only [List.length_append, List.length_cons, List.length_nil, hlength]
          omega
        · rw [List.append_assoc, overruns_append _ hlength]
          rintro (h | h | h)
          · exact hno h
          · exact absurd h.2 (not_lt.mpr hrest)
          · exact h
    | cons reader waiting =>
      refine readEvents_always.mono (fun _ _ h => h) fun stage t ht => ?_
      cases ht with
      | drained => exact ⟨hlength, hno⟩
      | interrupted => exact ⟨hlength, hno⟩
      | data count =>
        show (s.addBytes count).readings.length = _ ∧ ¬ Overruns _ (s.addBytes count).readings
        rw [addBytes_readings]
        exact ⟨hlength, hno⟩
      | failed e => exact hno
  | returned r => exact hs
  | panicked => exact hs

end Clock

/-- **When `record` panics**: with a clock that never goes back, in whatever time passes between
its calls, a recording panics just if in some round the clock passes the duration between the
exit test and the subtraction. -/
theorem record_panics_iff (options : RecordOptions) {stage : Stage} {s : Scene}
    (h : Loops recordWorld (record options) .starting .fresh (.done stage) s) :
    stage = .panicked ↔ Overruns options.duration s.readings := by
  have hstart : ClockAt options .fresh .starting := rfl
  have hclock : ClockAt options s stage :=
    Loops.always (J := fun stage s => ClockAt options s stage) hstart record_clockAt h
  constructor
  · rintro rfl
    exact hclock
  · intro hoverruns
    cases stage with
    | starting =>
      rw [show s.readings = [] from hclock] at hoverruns
      exact hoverruns.elim
    | draining controllers drained waiting samples => exact absurd hoverruns hclock.2
    | returned r => exact absurd hoverruns hclock
    | panicked => rfl

/-- The exit test finds the ten seconds not over by 1 ns; 2 ns later the subtraction panics. -/
def heldUp : List ℕ := [0, 9999999999, 10000000001]

/-- The run ends with a panic. -/
theorem heldUp_panicked : (recordRounds heldUp 4).1 = .panicked := by
  decide +kernel

/-- And it is a run of `record`. -/
theorem loops_heldUp :
    Loops recordWorld (record tenSeconds) .starting .fresh (.done .panicked)
      (recordRounds heldUp 4).2 := by
  rw [← heldUp_panicked]
  exact loops_recordRounds heldUp 3

/-- Its readings overrun the duration. -/
theorem record_panics_iff_heldUp : Overruns (secs 10) (recordRounds heldUp 4).2.readings :=
  (record_panics_iff tenSeconds loops_heldUp).mp rfl

/-- A clock that never goes back does not keep `record` from a panic. -/
theorem record_underflows :
    ¬ ∀ (options : RecordOptions) (stage : Stage) (s : Scene), 0 < options.duration →
      0 < options.interval →
      Loops recordWorld (record options) .starting .fresh (.done stage) s → stage ≠ .panicked := by
  intro h
  exact h tenSeconds _ _ (by decide) (by decide) loops_heldUp rfl

/-! ## The samples -/

/-- The same nodes, and no byte count has gone back. -/
def Grows : List (String × UInt64) → List (String × UInt64) → Prop :=
  SortedMap.Related (· ≤ ·)

/-- The kernel counts nanoseconds in a signed 64-bit number. -/
def KernelClock (s : Scene) : Prop := ∀ t ∈ s.readings, t < 2 ^ 63

/-- What is known of a recording with these readers and samples. -/
structure Recording (s : Scene) (controllers : List Controller) (readers : List EventReader)
    (samples : List RecordedSample) : Prop where
  nodes : readers.map EventReader.path = controllers.flatMap Controller.eventNodes
  total : s.bytes < 2 ^ 64 → (readers.map fun reader => reader.bytes.toNat).sum = s.bytes
  unsampled : samples = [] ↔ s.readings = []
  fresh : s.readings = [] → s.later = 0
  current : ∀ sample ∈ samples, Grows sample.eventBytes (eventBytes readers)
  stamps : ∀ sample ∈ samples, ∃ stamp ∈ s.readings,
    sample.elapsedMs = UInt64.ofNat (stamp / millis 1)
  grow : samples.Pairwise fun a b => Grows a.eventBytes b.eventBytes
  ordered : KernelClock s → samples.Pairwise fun a b => a.elapsedMs ≤ b.elapsedMs
  firstBytes : ∀ sample, samples.head? = some sample →
    (controllers.flatMap Controller.eventNodes).Nodup → s.bytes < 2 ^ 64 →
      exactBytes sample.toTraceSample = s.first

section Samples

variable {controllers : List Controller} {readers drained waiting : List EventReader}
  {reader : EventReader} {samples : List RecordedSample} {s : Scene}

/-- Nothing has been read. -/
theorem grows_refl (entries : List (String × UInt64)) : Grows entries entries :=
  SortedMap.Related.refl (fun _ => UInt64.le_refl _) entries

/-- Growing goes on. -/
theorem Grows.trans {a b c : List (String × UInt64)} (h : Grows a b) (h' : Grows b c) :
    Grows a c :=
  SortedMap.Related.trans (R := (· ≤ ·)) (fun _ _ _ hab hbc => UInt64.le_trans hab hbc) h h'

/-- Reading grows the counts of a reader, and so the map of all. -/
theorem grows_eventBytes {bytes : UInt64} (hle : reader.bytes ≤ bytes) :
    Grows (eventBytes (drained ++ reader :: waiting))
      (eventBytes (drained ++ { reader with bytes := bytes } :: waiting)) := by
  apply SortedMap.Related.ofEntries
  rw [List.map_append, List.map_append, List.map_cons, List.map_cons]
  refine List.rel_append (grows_refl _) (.cons ⟨rfl, hle⟩ (grows_refl _))

/-- With a reader for each node, the map holds every count once. -/
theorem exactBytes_eventBytes (hnodup : (readers.map EventReader.path).Nodup)
    {sample : RecordedSample} (hsample : sample.eventBytes = eventBytes readers) :
    exactBytes sample.toTraceSample = (readers.map fun reader => reader.bytes.toNat).sum := by
  have hkeys : ((readers.map fun reader => (reader.path, reader.bytes)).map Prod.fst).Nodup := by
    rw [List.map_map]
    exact hnodup
  rw [exactBytes, hsample, eventBytes]
  rw [((SortedMap.ofEntries_perm hkeys).map _).sum_eq, List.map_map]
  rfl

/-- All bytes are counted. -/
theorem addBytes_bytes (s : Scene) (count : ℕ) : (s.addBytes count).bytes = s.bytes + count := by
  unfold Scene.addBytes Scene.bytes
  split_ifs
  · show s.first + count + s.later = _
    omega
  · show s.first + (s.later + count) = _
    omega

/-- Before the loop nothing is read. -/
theorem recording_start (controllers : List Controller) :
    Recording .fresh controllers
      ((controllers.flatMap Controller.eventNodes).map fun path => ⟨path, 0⟩) [] := by
  constructor
  · rw [List.map_map]
    exact List.map_id _
  · intro _
    rw [List.map_map]
    show ((controllers.flatMap Controller.eventNodes).map fun _ => 0).sum = 0
    simp
  · exact iff_of_true rfl rfl
  · exact fun _ => rfl
  · exact fun sample hsample => absurd hsample List.not_mem_nil
  · exact fun sample hsample => absurd hsample List.not_mem_nil
  · exact .nil
  · exact fun _ => .nil
  · intro sample hsample
    cases hsample

/-- **A read** adds its bytes to one reader. -/
theorem Recording.read (h : Recording s controllers (drained ++ reader :: waiting) samples)
    (count : ℕ) :
    Recording (s.addBytes count) controllers
      (drained ++ { reader with bytes := saturatingAdd reader.bytes (UInt64.ofNat count) }
        :: waiting) samples := by
  have hle : reader.bytes ≤ saturatingAdd reader.bytes (UInt64.ofNat count) := by
    have hbytes := reader.bytes.toNat_lt
    rw [UInt64.le_iff_toNat_le, Words.saturatingAdd_toNat]
    omega
  have hless (hfits : (s.addBytes count).bytes < 2 ^ 64) : s.bytes < 2 ^ 64 := by
    rw [addBytes_bytes] at hfits
    omega
  constructor
  · rw [← h.nodes, List.map_append, List.map_append, List.map_cons, List.map_cons]
  · intro hfits
    have htotal := h.total (hless hfits)
    rw [addBytes_bytes] at hfits ⊢
    rw [List.map_append, List.map_cons, List.sum_append, List.sum_cons] at htotal ⊢
    rw [Words.saturatingAdd_toNat, UInt64.toNat_ofNat', Nat.mod_eq_of_lt (by omega)]
    omega
  · rw [addBytes_readings]
    exact h.unsampled
  · rw [addBytes_readings]
    intro hnone
    have hlater := h.fresh hnone
    rw [Scene.addBytes, if_pos hnone]
    exact hlater
  · intro sample hsample
    exact (h.current sample hsample).trans (grows_eventBytes hle)
  · rw [addBytes_readings]
    exact h.stamps
  · exact h.grow
  · unfold KernelClock
    rw [addBytes_readings]
    exact h.ordered
  · intro sample hsample hnodup hfits
    -- there is a sample already, so that these bytes are later ones
    have hsampled : s.readings ≠ [] := by
      intro hnone
      rw [h.unsampled.mpr hnone] at hsample
      cases hsample
    rw [h.firstBytes sample hsample hnodup (hless hfits), Scene.addBytes, if_neg hsampled]

/-- The clock is read between samples. -/
theorem Recording.tick (h : Recording s controllers readers samples) (hsamples : samples ≠ [])
    (more : List ℕ) :
    Recording { s with readings := s.readings ++ more } controllers readers samples := by
  have hsampled : s.readings ++ more ≠ [] := by
    intro hnone
    exact hsamples (h.unsampled.mpr (List.append_eq_nil_iff.mp hnone).1)
  constructor
  · exact h.nodes
  · exact h.total
  · exact iff_of_false hsamples hsampled
  · exact fun hnone => absurd hnone hsampled
  · exact h.current
  · intro sample hsample
    obtain ⟨stamp, hstamp, helapsed⟩ := h.stamps sample hsample
    exact ⟨stamp, List.mem_append_left _ hstamp, helapsed⟩
  · exact h.grow
  · intro hclock
    exact h.ordered fun t ht => hclock t (List.mem_append_left _ ht)
  · exact h.firstBytes

/-- Later answers of the clock are later stamps. -/
theorem ofNat_millis_le {t t' : ℕ} (hle : t ≤ t') (hlt : t' < 2 ^ 63) :
    UInt64.ofNat (t / millis 1) ≤ UInt64.ofNat (t' / millis 1) := by
  have hdiv : t / millis 1 ≤ t' / millis 1 := Nat.div_le_div_right hle
  have hdiv' : t' / millis 1 ≤ t' := Nat.div_le_self _ _
  rw [UInt64.le_iff_toNat_le, UInt64.toNat_ofNat', UInt64.toNat_ofNat', Nat.mod_eq_of_lt (by omega),
    Nat.mod_eq_of_lt (by omega)]
  exact hdiv

/-- **A sample** holds the counts of the readers, which are the bytes read so far. -/
theorem Recording.sample (h : Recording s controllers readers samples) {sample : RecordedSample}
    {stamp : ℕ} (hstamp : ∀ t ∈ s.readings, t ≤ stamp)
    (hsample : sample.eventBytes = eventBytes readers)
    (helapsed : sample.elapsedMs = UInt64.ofNat (stamp / millis 1)) :
    Recording { s with readings := s.readings ++ [stamp] } controllers readers
      (samples ++ [sample]) := by
  constructor
  · exact h.nodes
  · exact h.total
  · exact iff_of_false (by simp) (by simp)
  · exact fun hnone => absurd hnone (by simp)
  · intro other hother
    rcases List.mem_append.mp hother with hother | hother
    · exact h.current other hother
    · rw [List.mem_singleton.mp hother, hsample]
      exact grows_refl _
  · intro other hother
    rcases List.mem_append.mp hother with hother | hother
    · obtain ⟨t, ht, ht'⟩ := h.stamps other hother
      exact ⟨t, List.mem_append_left _ ht, ht'⟩
    · rw [List.mem_singleton.mp hother]
      exact ⟨stamp, List.mem_append_right _ List.mem_cons_self, helapsed⟩
  · refine List.pairwise_append.mpr ⟨h.grow, List.pairwise_singleton _ _, ?_⟩
    intro other hother last hlast
    rw [List.mem_singleton.mp hlast, hsample]
    exact h.current other hother
  · intro hclock
    have hbefore : KernelClock s := fun t ht => hclock t (List.mem_append_left _ ht)
    refine List.pairwise_append.mpr ⟨h.ordered hbefore, List.pairwise_singleton _ _, ?_⟩
    intro other hother last hlast
    obtain ⟨t, ht, ht'⟩ := h.stamps other hother
    rw [List.mem_singleton.mp hlast, ht', helapsed]
    exact ofNat_millis_le (hstamp t ht)
      (hclock stamp (List.mem_append_right _ List.mem_cons_self))
  · intro other hother hnodup hfits
    cases hsamples : samples with
    | nil =>
      -- the first sample: all that was read was read before it
      have hnone := h.unsampled.mp hsamples
      rw [hsamples] at hother
      obtain rfl : sample = other := Option.some.inj hother
      have hlater : s.later = 0 := h.fresh hnone
      rw [exactBytes_eventBytes (by rw [h.nodes]; exact hnodup) hsample, h.total hfits]
      show s.first + s.later = s.first
      omega
    | cons first rest =>
      rw [hsamples] at hother
      refine h.firstBytes other ?_ hnodup hfits
      rw [hsamples]
      exact hother

end Samples

/-! ## Whole recordings -/

/-- What is known of the samples at a stage. -/
def SamplesAt (options : RecordOptions) (s : Scene) : Stage → Prop
  | .starting => s = .fresh
  | .draining controllers drained waiting samples =>
    Recording s controllers (drained ++ waiting) samples
  | .returned (.ok trace) => trace.expectMotion = options.expectMotion
    ∧ ∃ readers samples sample, trace.samples = samples ++ [sample]
      ∧ Recording s trace.controllers readers trace.samples
      ∧ sample.eventBytes = eventBytes readers
  | .returned (.error _) => True
  | .panicked => True

section Whole

variable {options : RecordOptions}

/-- **One step** keeps account of the samples. -/
theorem record_samplesAt (stage : Stage) (s : Scene) (hs : SamplesAt options s stage) :
    Always recordWorld (fun _ _ => True) (fun stage t => SamplesAt options t stage)
      (record options stage) s := by
  cases stage with
  | starting =>
    obtain rfl : s = .fresh := hs
    have hopen : Always recordWorld (fun _ _ => True) (fun _ t => t = Scene.fresh)
        (openControllers options) .fresh := by
      refine Always.of_asks (J := fun t => t = Scene.fresh) openControllers_asks rfl
        (fun _ _ _ _ => trivial) ?_
      rintro t c a t' rfl hc hw
      exact recordWorld_idle hc hw
    refine (hopen.and_yields openControllers_yields).bind fun r t ht => ?_
    obtain ⟨rfl, hreaders⟩ := ht
    cases r with
    | error e => exact trivial
    | ok opened =>
      show Recording .fresh opened.1 opened.2 []
      rw [hreaders opened.1 opened.2 rfl]
      exact recording_start opened.1
  | draining controllers drained waiting samples =>
    cases waiting with
    | nil =>
      -- the drain is over: all readers are drained
      have hrecording : Recording s controllers drained samples := by
        rw [← List.append_nil drained]
        exact hs
      refine takeSample_always.bind fun sample t ht => ?_
      obtain ⟨stamp, hstamp, rfl, hsample, helapsed⟩ := ht
      have hsampled := hrecording.sample hstamp hsample helapsed
      have htick := hsampled.tick (by simp)
      refine endRound_always.mono (fun _ _ h => h) fun stage t ht => ?_
      cases ht with
      | finished test captured htest =>
        exact ⟨rfl, drained, samples, sample, rfl, htick _, hsample⟩
      | overrun test rest htest hrest => exact trivial
      | again test rest htest hrest => exact htick _
    | cons reader waiting =>
      refine readEvents_always.mono (fun _ _ h => h) fun stage t ht => ?_
      cases ht with
      | drained =>
        show Recording s controllers ((drained ++ [reader]) ++ waiting) samples
        rw [List.append_assoc]
        exact hs
      | interrupted => exact hs
      | data count => exact Recording.read hs count
      | failed e => exact trivial
  | returned r =>
    cases r with
    | error e => exact trivial
    | ok trace => exact hs
  | panicked => exact trivial

/-- Bytes that came make the difference, if motion is expected. -/
theorem kind_active_iff {trace : Trace} (h : trace.expectMotion = true) :
    (analyzeTrace trace).kind = .healthy ∨ (analyzeTrace trace).kind = .consumerStalled
      ↔ 0 < (analyzeTrace trace).eventByteDelta.toNat := by
  rw [kind_analyzeTrace, if_pos h, ← gt_iff_lt, toNat_pos_iff]
  unfold kindOf
  by_cases hbytes : (analyzeTrace trace).eventByteDelta > 0
  · rw [if_pos hbytes]
    cases trace.cursorStalled <;> simp [hbytes]
  · rw [if_neg hbytes]
    cases (analyzeTrace trace).irqDelta with
    | none => simp [hbytes]
    | some irqs =>
      dsimp only
      split_ifs <;> simp [hbytes]

end Whole

/-- **A recorded trace carries the evidence of the diagnosis.**  Of every recording that
returns a trace, over distinct nodes and with less than 2^64 bytes read: there are samples, all
of the same nodes; the counts never go back, and with the clock of the kernel, which counts
nanoseconds in a signed 64-bit number, nor do the stamps; and what `analyze_trace` finds is the
number of bytes read after the first drain, so that it sees activity just if there was some. -/
theorem record_evidence (options : RecordOptions) {trace : RecordedTrace} {s : Scene}
    (h : Loops recordWorld (record options) .starting .fresh (.done (.returned (.ok trace))) s)
    (hnodes : (trace.controllers.flatMap Controller.eventNodes).Nodup)
    (hbytes : s.bytes < 2 ^ 64) :
    trace.samples ≠ []
      ∧ (∃ keys, ∀ sample ∈ trace.samples, sample.eventBytes.map Prod.fst = keys)
      ∧ (KernelClock s → trace.samples.Pairwise fun a b => a.elapsedMs ≤ b.elapsedMs)
      ∧ (trace.samples.Pairwise fun a b => Grows a.eventBytes b.eventBytes)
      ∧ (analyzeTrace trace.toTrace).eventByteDelta.toNat = s.later
      ∧ (options.expectMotion = true →
          ((analyzeTrace trace.toTrace).kind = .healthy
            ∨ (analyzeTrace trace.toTrace).kind = .consumerStalled ↔ 0 < s.later)) := by
  have hstart : SamplesAt options .fresh .starting := rfl
  obtain ⟨hmotion, readers, samples, sample, hsamples, hrecording, hsample⟩ :
      SamplesAt options s (.returned (.ok trace)) :=
    Loops.always (J := fun stage s => SamplesAt options s stage) hstart record_samplesAt h
  have hne : trace.samples ≠ [] := by
    rw [hsamples]
    simp
  obtain ⟨first, hfirst⟩ : ∃ first, trace.samples.head? = some first :=
    ⟨_, List.head?_eq_some_head hne⟩
  have hlast : trace.toTrace.samples.getLast? = some sample.toTraceSample := by
    show (trace.samples.map _).getLast? = _
    rw [hsamples, List.map_append, List.map_singleton, List.getLast?_concat]
  have hhead : trace.toTrace.samples.head? = some first.toTraceSample := by
    show (trace.samples.map _).head? = _
    rw [List.head?_map, hfirst]
    rfl
  have hfirstBytes : exactBytes first.toTraceSample = s.first :=
    hrecording.firstBytes first hfirst hnodes hbytes
  have hlastBytes : exactBytes sample.toTraceSample = s.bytes := by
    rw [exactBytes_eventBytes (by rw [hrecording.nodes]; exact hnodes) hsample,
      hrecording.total hbytes]
  have hdelta : (analyzeTrace trace.toTrace).eventByteDelta.toNat = s.later := by
    have hsum : s.bytes = s.first + s.later := rfl
    rw [eventByteDelta_toNat, byteGrowth, hlast, hhead, Option.map_some, Option.map_some,
      Option.getD_some, Option.getD_some, hlastBytes, hfirstBytes]
    · omega
    · intro other hother
      rcases hother with hother | hother
      · rw [hhead] at hother
        rw [← Option.some.inj hother, hfirstBytes]
        omega
      · rw [hlast] at hother
        rw [← Option.some.inj hother, hlastBytes]
        exact hbytes
  refine ⟨hne, ⟨(eventBytes readers).map Prod.fst, fun other hother => ?_⟩,
    hrecording.ordered, hrecording.grow, hdelta, fun hexpect => ?_⟩
  · exact (hrecording.current other hother).keys
  · rw [← hdelta]
    exact kind_active_iff (hmotion.trans hexpect)

/-- Two rounds, the second of which ends after ten seconds. -/
def twoRounds : List ℕ := [0, 1000000000, 1000000001, 10000000000, 10000000001]

/-- A sample of the node. -/
def padSample (elapsedMs bytes : UInt64) : RecordedSample :=
  ⟨⟨none, [("/dev/input/event7", bytes)]⟩, elapsedMs⟩

/-- What two rounds record. -/
def twoSamples : RecordedTrace :=
  recorded tenSeconds [⟨"13-0015", some "", none, ["/dev/input/event7"]⟩]
    [padSample 0 24, padSample 10000 48] 0

/-- The run of two rounds returns. -/
theorem twoRounds_returned : (recordRounds twoRounds 7).1 = .returned (.ok twoSamples) := by
  decide +kernel

/-- What is recorded is evidence of 24 bytes. -/
theorem record_evidence_twoRounds :
    (twoSamples.samples.Pairwise fun a b => a.elapsedMs ≤ b.elapsedMs)
      ∧ (analyzeTrace twoSamples.toTrace).eventByteDelta.toNat = 24
      ∧ ((analyzeTrace twoSamples.toTrace).kind = .healthy
        ∨ (analyzeTrace twoSamples.toTrace).kind = .consumerStalled) := by
  have hloops : Loops recordWorld (record tenSeconds) .starting .fresh
      (.done (.returned (.ok twoSamples))) (recordRounds twoRounds 7).2 := by
    rw [← twoRounds_returned]
    exact loops_recordRounds twoRounds 6
  have hscene : (recordRounds twoRounds 7).2 = ⟨twoRounds, 24, 24⟩ := by decide +kernel
  rw [hscene] at hloops
  obtain ⟨-, -, hstamps, -, hdelta, hactive⟩ :=
    record_evidence tenSeconds hloops (by decide) (by decide)
  have hclock : KernelClock ⟨twoRounds, 24, 24⟩ := by
    unfold KernelClock
    decide
  exact ⟨hstamps hclock, hdelta, (hactive rfl).mpr (by decide)⟩

end TraceRecording
