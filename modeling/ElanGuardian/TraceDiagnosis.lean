/-
# Three classifiers of a trace

`analyze_trace` (`src/diagnose.rs`) classifies a recorded trace.  The repository holds two
more classifiers to check it against: the reference policy `diagnose`
(`formal/idris/ElanPolicy.idr`), which takes the evidence as a record, and a scorer
(`fortran/elan_trace_score.f90`), which reads the row of features that `export-features`
(`src/main.rs`) writes.

The row has no place for an unknown IRQ counter and is read into signed numbers, so the
scorer agrees with the others under a condition only (`classifiers_agree_iff`).
-/
import Mathlib.Data.UInt
import Mathlib.Tactic.Positivity
import ElanGuardian.Sysfs

open Sysfs

namespace TraceDiagnosis

/-! ## Traces -/

/-- `TraceSample`; the map of event bytes is its list of entries. -/
structure TraceSample where
  irqTotal : Option UInt64
  eventBytes : List (String × UInt64)
  deriving DecidableEq

/-- `Trace`, without the data that no classifier reads. -/
structure Trace where
  schema : String
  expectMotion : Bool
  cursorStalled : Bool
  samples : List TraceSample

def traceSchema : String := "org.elan-guardian.trace.v1"

/-- The end of `read_json`, once the file has been parsed. -/
def checkSchema (trace : Trace) : IoResult Trace :=
  if trace.schema ≠ traceSchema then
    let schema := trace.schema
    .error ⟨.invalidData, s!"unsupported trace schema '{schema}'"⟩
  else .ok trace

/-! ## `analyze_trace` -/

inductive DiagnosisKind
  | healthy
  | transportStalled
  | driverStalled
  | consumerStalled
  | inconclusive
  deriving DecidableEq

/-- `Display` for `DiagnosisKind`. -/
def DiagnosisKind.name : DiagnosisKind → String
  | .healthy => "healthy"
  | .transportStalled => "transport-stalled"
  | .driverStalled => "driver-stalled"
  | .consumerStalled => "consumer-stalled"
  | .inconclusive => "inconclusive"

structure Diagnosis where
  kind : DiagnosisKind
  irqDelta : Option UInt64
  eventByteDelta : UInt64
  explanation : String

/-- `u64::saturating_sub`. -/
def saturatingSub (a b : UInt64) : UInt64 := if a < b then 0 else a - b

/-- The sum of the byte counts of a sample; without overflow checks it wraps. -/
def sumBytes (sample : TraceSample) : UInt64 := (sample.eventBytes.map Prod.snd).sum

/-- `inconclusive`. -/
def inconclusive (explanation : String) : Diagnosis := ⟨.inconclusive, none, 0, explanation⟩

/-- The `match` of `analyze_trace`. -/
def kindOf (irqDelta : Option UInt64) (eventByteDelta : UInt64) (cursorStalled : Bool) :
    DiagnosisKind :=
  if eventByteDelta > 0 then
    if cursorStalled then .consumerStalled else .healthy
  else
    match irqDelta with
    | some irqs => if irqs > 0 then .driverStalled else .transportStalled
    | none => .inconclusive

def explanationOf : DiagnosisKind → String
  | .healthy => "IRQ and evdev activity reached userspace"
  | .transportStalled => "expected movement produced neither an Elan IRQ nor evdev bytes"
  | .driverStalled => "Elan IRQ activity increased, but the driver emitted no evdev bytes"
  | .consumerStalled => "evdev bytes were available while the graphical cursor remained stalled"
  | .inconclusive => "the trace lacks a usable Elan IRQ counter"

/-- `analyze_trace`. -/
def analyzeTrace (trace : Trace) : Diagnosis :=
  match trace.samples.head?, trace.samples.getLast? with
  | some first, some last =>
    let irqDelta := first.irqTotal.bind fun start => last.irqTotal.map fun stop =>
      saturatingSub stop start
    let eventByteDelta := saturatingSub (sumBytes last) (sumBytes first)
    if !trace.expectMotion then
      ⟨.inconclusive, irqDelta, eventByteDelta,
        "no motion was requested, so silence may be normal idle behavior"⟩
    else
      let kind := kindOf irqDelta eventByteDelta trace.cursorStalled
      ⟨kind, irqDelta, eventByteDelta, explanationOf kind⟩
  | _, _ => inconclusive "trace contains no samples"

/-! ## The reference policy -/

inductive FaultLayer
  | healthy
  | transport
  | driver
  | consumer
  | inconclusive
  deriving DecidableEq

structure Evidence where
  expectedMotion : Bool
  cursorStalled : Bool
  irqDelta : ℕ
  eventBytes : ℕ
  irqKnown : Bool

def diagnose (e : Evidence) : FaultLayer :=
  if !e.expectedMotion then .inconclusive
  else if e.eventBytes > 0 then
    if e.cursorStalled then .consumer else .healthy
  else if !e.irqKnown then .inconclusive
  else if e.irqDelta > 0 then .driver
  else .transport

/-- The layer that a kind of diagnosis blames. -/
def DiagnosisKind.layer : DiagnosisKind → FaultLayer
  | .healthy => .healthy
  | .transportStalled => .transport
  | .driverStalled => .driver
  | .consumerStalled => .consumer
  | .inconclusive => .inconclusive

/-! ## The scorer -/

inductive TraceClass
  | inconclusive
  | healthy
  | transport
  | driver
  | consumer
  deriving DecidableEq

/-- `classify_trace`. -/
def classifyTrace (irqDelta eventBytes : ℤ) (expectMotion cursorStalled : Bool) : TraceClass :=
  if !expectMotion then .inconclusive
  else if eventBytes > 0 then
    if cursorStalled then .consumer else .healthy
  else if irqDelta > 0 then .driver
  else .transport

/-- What the scorer prints for a class. -/
def TraceClass.printed : TraceClass → String
  | .healthy => "healthy"
  | .transport => "transport-stalled"
  | .driver => "driver-stalled"
  | .consumer => "consumer-stalled"
  | .inconclusive => "inconclusive"

def isBlank (c : Char) : Bool := c = ' ' || c = '\n'

/-- The sign of a number, and the rest of it. -/
def splitSign : List Char → Bool × List Char
  | '-' :: rest => (true, rest)
  | '+' :: rest => (false, rest)
  | unsigned => (false, unsigned)

/-- List-directed input of one integer of the given width: blanks, an optional sign, and
digits up to the next blank or the end.  A number that does not fit is an error. -/
def readInteger (bits : ℕ) (text : List Char) : Option (ℤ × List Char) :=
  let signed := splitSign (text.dropWhile isBlank)
  let digits := signed.2.takeWhile Char.isDigit
  let rest := signed.2.dropWhile Char.isDigit
  let magnitude : ℤ := Nat.ofDigitChars 10 digits 0
  let value := if signed.1 then -magnitude else magnitude
  if digits = [] || !(rest.head?.all isBlank) then none
  else if -2 ^ (bits - 1) ≤ value ∧ value < 2 ^ (bits - 1) then some (value, rest)
  else none

/-- List-directed input of several integers. -/
def readIntegers : List ℕ → List Char → Option (List ℤ)
  | [], _ => some []
  | bits :: more, text =>
    (readInteger bits text).bind fun (value, rest) =>
      (readIntegers more rest).map fun values => value :: values

/-- `elan_trace_score` for a file of trace features: the line it prints, if it does. -/
def elanTraceScore (features : String) : Option String :=
  match readIntegers [64, 64, 32, 32] features.toList with
  | some [irqDelta, eventBytes, expectMotion, cursorStalled] =>
    some (classifyTrace irqDelta eventBytes (expectMotion ≠ 0) (cursorStalled ≠ 0)).printed
  | _ => none

/-- The row that `export_features` writes. -/
def exportFeatures (trace : Trace) : String :=
  let diagnosis := analyzeTrace trace
  toString (diagnosis.irqDelta.getD 0).toNat ++ " " ++ toString diagnosis.eventByteDelta.toNat
    ++ " " ++ toString trace.expectMotion.toNat ++ " " ++ toString trace.cursorStalled.toNat
    ++ "\n"

/-! ## Reading the row back -/

section Row

variable {bits n : ℕ} {sep : Char} {rest : List Char}

/-- A digit is no blank. -/
theorem not_isBlank_of_isDigit {c : Char} (h : c.isDigit = true) : isBlank c = false := by
  rw [isBlank, Bool.or_eq_false_iff, decide_eq_false_iff_not, decide_eq_false_iff_not]
  constructor
  · rintro rfl
    exact absurd h (by decide)
  · rintro rfl
    exact absurd h (by decide)

/-- A number that starts with a digit has no sign. -/
theorem splitSign_of_isDigit {c : Char} (h : c.isDigit = true) :
    splitSign (c :: rest) = (false, c :: rest) := by
  unfold splitSign
  split
  · rename_i heq
    obtain ⟨rfl, -⟩ := List.cons.inj heq
    exact absurd h (by decide)
  · rename_i heq
    obtain ⟨rfl, -⟩ := List.cons.inj heq
    exact absurd h (by decide)
  · rfl

/-- Blanks in front of a number are skipped. -/
theorem readInteger_blank (h : isBlank sep = true) :
    readInteger bits (sep :: rest) = readInteger bits rest := by
  rw [readInteger, readInteger, List.dropWhile_cons_of_pos h]

/-- The digits of a number, up to the next blank. -/
theorem takeWhile_toDigits (hsep : isBlank sep = true) :
    (Nat.toDigits 10 n ++ sep :: rest).takeWhile Char.isDigit = Nat.toDigits 10 n
      ∧ (Nat.toDigits 10 n ++ sep :: rest).dropWhile Char.isDigit = sep :: rest := by
  have hdigits : ∀ c ∈ Nat.toDigits 10 n, c.isDigit = true :=
    fun c hc => Nat.isDigit_of_mem_toDigits (by decide) (by decide) hc
  have hnot : ¬ sep.isDigit = true := by
    intro h
    rw [not_isBlank_of_isDigit h] at hsep
    exact absurd hsep Bool.false_ne_true
  constructor
  · rw [List.takeWhile_append_of_pos hdigits, List.takeWhile_cons_of_neg hnot, List.append_nil]
  · rw [List.dropWhile_append_of_pos hdigits, List.dropWhile_cons_of_neg hnot]

/-- A number that fits is read back. -/
theorem readInteger_toDigits (hsep : isBlank sep = true) :
    readInteger bits (Nat.toDigits 10 n ++ sep :: rest)
      = if (n : ℤ) < 2 ^ (bits - 1) then some ((n : ℤ), sep :: rest) else none := by
  obtain ⟨htake, hdrop⟩ : (Nat.toDigits 10 n ++ sep :: rest).takeWhile Char.isDigit
        = Nat.toDigits 10 n
      ∧ (Nat.toDigits 10 n ++ sep :: rest).dropWhile Char.isDigit = sep :: rest :=
    takeWhile_toDigits hsep
  obtain ⟨d, ds, hds⟩ := List.exists_cons_of_ne_nil (Nat.toDigits_ne_nil (n := n) (b := 10))
  have hd : d.isDigit = true :=
    Nat.isDigit_of_mem_toDigits (b := 10) (n := n) (by decide) (by decide) (by simp [hds])
  have hitem : (Nat.toDigits 10 n ++ sep :: rest).dropWhile isBlank
      = Nat.toDigits 10 n ++ sep :: rest := by
    rw [hds, List.cons_append, List.dropWhile_cons_of_neg (by simp [not_isBlank_of_isDigit hd])]
  have hlow : -2 ^ (bits - 1) ≤ (n : ℤ) := by
    have hpow : (0 : ℤ) ≤ 2 ^ (bits - 1) := by positivity
    omega
  unfold readInteger
  dsimp only
  rw [hitem, hds, List.cons_append, splitSign_of_isDigit hd, ← List.cons_append, ← hds, htake,
    hdrop, Nat.ofDigitChars_ten_toDigits]
  simp [hds, hsep, hlow]

/-- The row of features, as the scorer reads it. -/
theorem toList_exportFeatures (trace : Trace) :
    (exportFeatures trace).toList
      = Nat.toDigits 10 ((analyzeTrace trace).irqDelta.getD 0).toNat
        ++ ' ' :: (Nat.toDigits 10 (analyzeTrace trace).eventByteDelta.toNat
        ++ ' ' :: (Nat.toDigits 10 trace.expectMotion.toNat
        ++ ' ' :: (Nat.toDigits 10 trace.cursorStalled.toNat ++ '\n' :: []))) := by
  unfold exportFeatures
  simp

/-- The same for several numbers. -/
theorem readIntegers_blank (more : List ℕ) (h : isBlank sep = true) :
    readIntegers more (sep :: rest) = readIntegers more rest := by
  cases more with
  | nil => rfl
  | cons bits more => rw [readIntegers, readIntegers, readInteger_blank h]

/-- A number that fits its kind is read from its digits. -/
theorem readIntegers_toDigits (more : List ℕ) (hsep : isBlank sep = true) :
    readIntegers (bits :: more) (Nat.toDigits 10 n ++ sep :: rest)
      = if (n : ℤ) < 2 ^ (bits - 1) then
          (readIntegers more rest).map fun values => (n : ℤ) :: values
        else none := by
  rw [readIntegers, readInteger_toDigits hsep]
  split_ifs
  · show (readIntegers more (sep :: rest)).map _ = _
    rw [readIntegers_blank more hsep]
  · rfl

/-- Four numbers are read back if they fit. -/
theorem readIntegers_row (a b c d : ℕ) :
    readIntegers [64, 64, 32, 32] (Nat.toDigits 10 a ++ ' ' :: (Nat.toDigits 10 b
        ++ ' ' :: (Nat.toDigits 10 c ++ ' ' :: (Nat.toDigits 10 d ++ '\n' :: []))))
      = if a < 2 ^ 63 ∧ b < 2 ^ 63 ∧ c < 2 ^ 31 ∧ d < 2 ^ 31 then some [(a : ℤ), b, c, d]
        else none := by
  have hspace : isBlank ' ' = true := by decide
  have hnewline : isBlank '\n' = true := by decide
  rw [readIntegers_toDigits _ hspace, readIntegers_toDigits _ hspace,
    readIntegers_toDigits _ hspace, readIntegers_toDigits _ hnewline, readIntegers]
  split_ifs <;> first | rfl | omega

end Row

/-! ## Agreement -/

/-- The exact number of bytes of a sample. -/
def exactBytes (sample : TraceSample) : ℕ := (sample.eventBytes.map fun entry => entry.2.toNat).sum

/-- The byte sums of all samples fit in a `u64`. -/
def Fits (trace : Trace) : Prop := ∀ sample ∈ trace.samples, exactBytes sample < 2 ^ 64

/-- By how much the IRQ counter has grown from the first sample to the last, if both have
one. -/
def irqGrowth (trace : Trace) : Option ℕ := do
  let first ← trace.samples.head?
  let last ← trace.samples.getLast?
  let start ← first.irqTotal
  let stop ← last.irqTotal
  pure (stop.toNat - start.toNat)

/-- By how many bytes the last sample exceeds the first. -/
def byteGrowth (trace : Trace) : ℕ :=
  ((trace.samples.getLast?.map exactBytes).getD 0) - ((trace.samples.head?.map exactBytes).getD 0)

section Agreement

variable {trace : Trace} {sample : TraceSample}

/-- Saturating subtraction is subtraction of natural numbers. -/
theorem saturatingSub_toNat (a b : UInt64) : (saturatingSub a b).toNat = a.toNat - b.toNat := by
  rw [saturatingSub]
  split_ifs with h
  · rw [UInt64.lt_iff_toNat_lt] at h
    rw [UInt64.toNat_zero]
    omega
  · exact UInt64.toNat_sub_of_le _ _ (UInt64.not_lt.mp h)

/-- A sum that fits is the sum. -/
theorem sum_toNat (ns : List UInt64) (h : (ns.map UInt64.toNat).sum < 2 ^ 64) :
    ns.sum.toNat = (ns.map UInt64.toNat).sum := by
  induction ns with
  | nil => rfl
  | cons n rest ih =>
    rw [List.map_cons, List.sum_cons] at h ⊢
    have hrest := ih (by omega)
    rw [List.sum_cons, UInt64.toNat_add, hrest, Nat.mod_eq_of_lt h]

/-- The bytes of a sample, if they fit. -/
theorem sumBytes_toNat (h : exactBytes sample < 2 ^ 64) :
    (sumBytes sample).toNat = exactBytes sample := by
  have hexact : exactBytes sample = ((sample.eventBytes.map Prod.snd).map UInt64.toNat).sum := by
    rw [List.map_map]
    rfl
  rw [hexact] at h ⊢
  exact sum_toNat _ h

/-- The sample is the first or the last one. -/
def AtEnd (trace : Trace) (sample : TraceSample) : Prop :=
  trace.samples.head? = some sample ∨ trace.samples.getLast? = some sample

/-- The first and the last sample are among the samples. -/
theorem AtEnd.mem (h : AtEnd trace sample) : sample ∈ trace.samples := by
  rcases h with h | h
  · exact List.mem_of_head? h
  · exact List.mem_of_getLast? h

/-- A trace without samples has no last one either. -/
theorem samples_cases (trace : Trace) :
    trace.samples = [] ∨ ∃ first last, trace.samples.head? = some first
      ∧ trace.samples.getLast? = some last := by
  cases hsamples : trace.samples with
  | nil => exact .inl rfl
  | cons first rest =>
    right
    exact ⟨first, _, rfl, List.getLast?_eq_some_getLast (List.cons_ne_nil first rest)⟩

/-- The bytes that `analyze_trace` finds. -/
theorem eventByteDelta_toNat (h : ∀ sample, AtEnd trace sample → exactBytes sample < 2 ^ 64) :
    (analyzeTrace trace).eventByteDelta.toNat = byteGrowth trace := by
  unfold analyzeTrace byteGrowth
  rcases samples_cases trace with hnil | ⟨first, last, hfirst, hlast⟩
  · rw [hnil]
    rfl
  · have hbytes : (saturatingSub (sumBytes last) (sumBytes first)).toNat
        = exactBytes last - exactBytes first := by
      rw [saturatingSub_toNat, sumBytes_toNat (h last (.inr hlast)),
        sumBytes_toNat (h first (.inl hfirst))]
    rw [hfirst, hlast]
    dsimp only
    split_ifs
    · exact hbytes
    · exact hbytes

/-- The interrupts that `analyze_trace` finds. -/
theorem irqDelta_toNat (trace : Trace) :
    (analyzeTrace trace).irqDelta.map UInt64.toNat = irqGrowth trace := by
  unfold analyzeTrace irqGrowth
  rcases samples_cases trace with hnil | ⟨first, last, hfirst, hlast⟩
  · rw [hnil]
    rfl
  · have hirq : (first.irqTotal.bind fun start => last.irqTotal.map fun stop =>
          saturatingSub stop start).map UInt64.toNat
        = first.irqTotal.bind fun start => last.irqTotal.bind fun stop =>
          some (stop.toNat - start.toNat) := by
      cases first.irqTotal with
      | none => rfl
      | some start =>
        cases last.irqTotal with
        | none => rfl
        | some stop => exact congrArg some (saturatingSub_toNat stop start)
    rw [hfirst, hlast]
    dsimp only
    split_ifs
    · exact hirq
    · exact hirq

/-- What `analyze_trace` finds, as numbers. -/
theorem analyzeTrace_growth (h : Fits trace) :
    (analyzeTrace trace).irqDelta.map UInt64.toNat = irqGrowth trace
      ∧ (analyzeTrace trace).eventByteDelta.toNat = byteGrowth trace :=
  ⟨irqDelta_toNat trace, eventByteDelta_toNat fun sample hend => h sample hend.mem⟩

/-- The kind of a diagnosis follows from its numbers and the flags. -/
theorem kind_analyzeTrace (trace : Trace) :
    (analyzeTrace trace).kind
      = if trace.expectMotion then
          kindOf (analyzeTrace trace).irqDelta (analyzeTrace trace).eventByteDelta
            trace.cursorStalled
        else .inconclusive := by
  unfold analyzeTrace
  split
  · cases trace.expectMotion <;> rfl
  · cases trace.expectMotion <;> rfl

/-- The evidence that a diagnosis holds. -/
def evidence (trace : Trace) : Evidence where
  expectedMotion := trace.expectMotion
  cursorStalled := trace.cursorStalled
  irqDelta := ((analyzeTrace trace).irqDelta.getD 0).toNat
  eventBytes := (analyzeTrace trace).eventByteDelta.toNat
  irqKnown := (analyzeTrace trace).irqDelta.isSome

/-- Positive counts. -/
theorem toNat_pos_iff (n : UInt64) : n.toNat > 0 ↔ n > 0 :=
  (UInt64.lt_iff_toNat_lt (a := 0) (b := n)).symm

/-- The reference policy agrees with `analyze_trace` on every trace. -/
theorem diagnose_evidence (trace : Trace) :
    diagnose (evidence trace) = (analyzeTrace trace).kind.layer := by
  rw [kind_analyzeTrace]
  unfold evidence diagnose kindOf
  generalize (analyzeTrace trace).irqDelta = irqDelta
  generalize (analyzeTrace trace).eventByteDelta = bytes
  simp only [toNat_pos_iff]
  cases trace.expectMotion with
  | false => rfl
  | true =>
    by_cases hbytes : bytes > 0
    · rw [if_pos hbytes, if_pos hbytes]
      cases trace.cursorStalled <;> rfl
    · rw [if_neg hbytes, if_neg hbytes]
      cases irqDelta with
      | none => rfl
      | some irqs =>
        rw [Option.getD_some]
        by_cases hirqs : irqs > 0
        · simp [hirqs, DiagnosisKind.layer]
        · simp [hirqs, DiagnosisKind.layer]

/-- The kind that a class stands for. -/
def TraceClass.kind : TraceClass → DiagnosisKind
  | .healthy => .healthy
  | .transport => .transportStalled
  | .driver => .driverStalled
  | .consumer => .consumerStalled
  | .inconclusive => .inconclusive

/-- A class is printed by the name of its kind. -/
theorem printed_eq (c : TraceClass) : c.printed = c.kind.name := by
  cases c <;> rfl

/-- No two kinds have the same name. -/
theorem name_injective : Function.Injective DiagnosisKind.name := by
  intro k k' h
  revert h
  cases k <;> cases k' <;> decide

/-- The scorer reads the row if the numbers fit. -/
theorem elanTraceScore_exportFeatures (trace : Trace) :
    elanTraceScore (exportFeatures trace)
      = if ((analyzeTrace trace).irqDelta.getD 0).toNat < 2 ^ 63
            ∧ (analyzeTrace trace).eventByteDelta.toNat < 2 ^ 63 then
          some (classifyTrace ((analyzeTrace trace).irqDelta.getD 0).toNat
            (analyzeTrace trace).eventByteDelta.toNat trace.expectMotion
            trace.cursorStalled).printed
        else none := by
  have hflag : ∀ b : Bool, b.toNat < 2 ^ 31 ∧ decide ((b.toNat : ℤ) ≠ 0) = b := by decide
  unfold elanTraceScore
  rw [toList_exportFeatures, readIntegers_row]
  simp only [(hflag _).1, and_true]
  split_ifs with hfit
  · dsimp only
    rw [(hflag _).2, (hflag _).2]
  · rfl

/-- Read without loss, the row gives the kind of the diagnosis, unless an unknown counter
matters. -/
theorem classifyTrace_kind (trace : Trace) :
    (classifyTrace ((analyzeTrace trace).irqDelta.getD 0).toNat
        (analyzeTrace trace).eventByteDelta.toNat trace.expectMotion trace.cursorStalled).kind
      = (analyzeTrace trace).kind
    ↔ (trace.expectMotion = true → (analyzeTrace trace).eventByteDelta.toNat = 0 →
        (analyzeTrace trace).irqDelta.isSome = true) := by
  rw [kind_analyzeTrace]
  unfold classifyTrace kindOf
  generalize (analyzeTrace trace).irqDelta = irqDelta
  generalize (analyzeTrace trace).eventByteDelta = bytes
  have hcast : ∀ n : UInt64, ((n.toNat : ℤ) > 0) ↔ n > 0 := by
    intro n
    rw [← toNat_pos_iff]
    exact Int.natCast_pos
  simp only [hcast]
  cases trace.expectMotion with
  | false => simp [TraceClass.kind]
  | true =>
    by_cases hbytes : bytes > 0
    · have hne : bytes.toNat ≠ 0 := ((toNat_pos_iff bytes).mpr hbytes).ne'
      rw [if_pos hbytes, if_pos hbytes]
      cases trace.cursorStalled <;> simp [TraceClass.kind, hne]
    · have hzero : bytes.toNat = 0 := by
        rw [← toNat_pos_iff] at hbytes
        omega
      rw [if_neg hbytes, if_neg hbytes]
      cases irqDelta with
      | none => simp [TraceClass.kind, hzero]
      | some irqs =>
        rw [Option.getD_some]
        by_cases hirqs : irqs > 0
        · simp [hirqs, TraceClass.kind]
        · simp [hirqs, TraceClass.kind]

/-- The three classifiers agree on a trace: the reference policy on the evidence, and the
scorer on the exported row. -/
def Agree (trace : Trace) : Prop :=
  diagnose (evidence trace) = (analyzeTrace trace).kind.layer
    ∧ elanTraceScore (exportFeatures trace) = some (analyzeTrace trace).kind.name

/-- **When the classifiers agree**: the numbers of the row fit in an `int64`, and the IRQ
counter is known wherever it decides. -/
theorem classifiers_agree_iff (h : Fits trace) :
    Agree trace ↔ (irqGrowth trace).getD 0 < 2 ^ 63 ∧ byteGrowth trace < 2 ^ 63
      ∧ (trace.expectMotion = true → byteGrowth trace = 0 → (irqGrowth trace).isSome = true) := by
  obtain ⟨hirq, hbytes⟩ := analyzeTrace_growth h
  have hgetD : ((analyzeTrace trace).irqDelta.getD 0).toNat = (irqGrowth trace).getD 0 := by
    rw [← hirq]
    cases (analyzeTrace trace).irqDelta <;> rfl
  have hknown : (irqGrowth trace).isSome = (analyzeTrace trace).irqDelta.isSome := by
    rw [← hirq, Option.isSome_map]
  rw [Agree, elanTraceScore_exportFeatures, hknown, ← hgetD, ← hbytes, ← classifyTrace_kind]
  constructor
  · rintro ⟨-, hscore⟩
    split_ifs at hscore with hfit
    rw [Option.some.injEq, printed_eq] at hscore
    exact ⟨hfit.1, hfit.2, name_injective hscore⟩
  · rintro ⟨hirqFits, hbytesFits, hkind⟩
    refine ⟨diagnose_evidence trace, ?_⟩
    rw [if_pos ⟨hirqFits, hbytesFits⟩, printed_eq, hkind]

/-- A trace of one event node. -/
def recorded (expectMotion : Bool) (samples : List (Option UInt64 × UInt64)) : Trace where
  schema := traceSchema
  expectMotion := expectMotion
  cursorStalled := true
  samples := samples.map fun (irqTotal, bytes) => ⟨irqTotal, [("/dev/input/event9", bytes)]⟩

/-- Interrupts came, but no events. -/
theorem classifiers_agree_iff_recorded :
    Agree (recorded true [(some 10, 24), (some 12, 24)])
      ∧ (analyzeTrace (recorded true [(some 10, 24), (some 12, 24)])).kind = .driverStalled := by
  have hfits : Fits (recorded true [(some 10, 24), (some 12, 24)]) := by
    intro sample hsample
    simp only [recorded, List.map_cons, List.map_nil, List.mem_cons, List.not_mem_nil,
      or_false] at hsample
    rcases hsample with rfl | rfl <;> decide
  exact ⟨(classifiers_agree_iff hfits).mpr (by decide), by decide⟩

/-- Without an IRQ counter the trace is inconclusive, but its row says that no interrupt
came. -/
theorem unknown_counter_scored : ¬ ∀ trace : Trace, checkSchema trace = .ok trace → Fits trace →
    Agree trace := by
  intro h
  have hfits : Fits (recorded true [(none, 24), (none, 24)]) := by
    intro sample hsample
    simp only [recorded, List.map_cons, List.map_nil, List.mem_cons, List.not_mem_nil,
      or_false] at hsample
    rcases hsample with rfl | rfl <;> decide
  have hscore := (h _ rfl hfits).2
  have hprinted : elanTraceScore (exportFeatures (recorded true [(none, 24), (none, 24)]))
      = some "transport-stalled" := by
    decide +kernel
  rw [hprinted] at hscore
  exact absurd hscore (by decide)

end Agreement

end TraceDiagnosis
