/-
# The byte sums of a stored trace

A stored trace may hold any byte counts.  `analyze_trace` subtracts the sum of its first
sample from the sum of its last one, with saturation, but it adds the counts of one sample
with `sum()`, which panics on overflow where overflow is checked and wraps where it is not.
The difference is exact just if the two sums fit (`exactDelta_iff`).
-/
import ElanGuardian.TraceDiagnosis

open Sysfs TraceDiagnosis

namespace TraceSums

/-- `sum()` of `u64` counts, where overflow is checked: `none` is the panic. -/
def checkedSum (acc : UInt64) : List UInt64 → Option UInt64
  | [] => some acc
  | n :: rest => if acc.toNat + n.toNat < 2 ^ 64 then checkedSum (acc + n) rest else none

/-- The chain of additions does not overflow just if its exact result fits. -/
theorem checkedSum_eq (acc : UInt64) (ns : List UInt64) :
    checkedSum acc ns
      = if acc.toNat + (ns.map UInt64.toNat).sum < 2 ^ 64 then some (acc + ns.sum) else none := by
  induction ns generalizing acc with
  | nil =>
    have hacc := acc.toNat_lt
    rw [checkedSum, List.map_nil, List.sum_nil, List.sum_nil, Nat.add_zero, if_pos hacc,
      UInt64.add_zero]
  | cons n rest ih =>
    rw [checkedSum, List.map_cons, List.sum_cons, List.sum_cons]
    by_cases hstep : acc.toNat + n.toNat < 2 ^ 64
    · have hnext : (acc + n).toNat = acc.toNat + n.toNat := by
        rw [UInt64.toNat_add, Nat.mod_eq_of_lt hstep]
      rw [if_pos hstep, ih, hnext, Nat.add_assoc, UInt64.add_assoc]
    · -- the other counts only add to a sum that has overflowed
      rw [if_neg hstep, if_neg (by omega)]

/-- The sum of the byte counts of a sample, where overflow is checked. -/
def checkedBytes (sample : TraceSample) : Option UInt64 :=
  checkedSum 0 (sample.eventBytes.map Prod.snd)

/-- The difference of a trace is computed exactly: neither sum overflows on the way, and the
result is the difference of the exact sums, cut off at zero and at the largest `u64`. -/
structure ExactDelta (trace : Trace) : Prop where
  sums : ∀ sample, AtEnd trace sample → checkedBytes sample = some (sumBytes sample)
  delta : (analyzeTrace trace).eventByteDelta.toNat = min (byteGrowth trace) (2 ^ 64 - 1)

section Delta

variable {trace : Trace}

/-- The checked sum of a sample is there if it fits. -/
theorem checkedBytes_eq (sample : TraceSample) :
    checkedBytes sample
      = if exactBytes sample < 2 ^ 64 then some (sumBytes sample) else none := by
  have hexact : exactBytes sample = ((sample.eventBytes.map Prod.snd).map UInt64.toNat).sum := by
    rw [List.map_map]
    rfl
  rw [checkedBytes, checkedSum_eq, UInt64.toNat_zero, Nat.zero_add, UInt64.zero_add, hexact]
  rfl

/-- The growth fits in a `u64` if the sums do. -/
theorem byteGrowth_lt (h : ∀ sample, AtEnd trace sample → exactBytes sample < 2 ^ 64) :
    byteGrowth trace < 2 ^ 64 := by
  rcases samples_cases trace with hnil | ⟨first, last, -, hlast⟩
  · rw [byteGrowth, hnil]
    decide
  · have hfits := h last (.inr hlast)
    rw [byteGrowth, hlast, Option.map_some, Option.getD_some]
    omega

end Delta

/-- **When the analysis of a trace is exact**: the byte counts of the first sample and those
of the last sample add up to less than 2^64. -/
theorem exactDelta_iff (trace : Trace) :
    ExactDelta trace ↔ ∀ sample, AtEnd trace sample → exactBytes sample < 2 ^ 64 := by
  constructor
  · intro h sample hend
    have hsum := h.sums sample hend
    rw [checkedBytes_eq] at hsum
    by_contra hlarge
    rw [if_neg hlarge] at hsum
    cases hsum
  · intro h
    constructor
    · intro sample hend
      rw [checkedBytes_eq, if_pos (h sample hend)]
    · have hgrowth := byteGrowth_lt h
      rw [eventByteDelta_toNat h]
      omega

/-- The file is one that `read_json` accepts; the event bytes of a sample are a map. -/
structure Stored (trace : Trace) : Prop where
  schema : checkSchema trace = .ok trace
  maps : ∀ sample ∈ trace.samples, (sample.eventBytes.map Prod.fst).Nodup

/-- Two nodes with 2^63 bytes each after a sample with none: the sum wraps to zero. -/
def twoBusyNodes : Trace where
  schema := traceSchema
  expectMotion := true
  cursorStalled := true
  samples := [⟨some 10, [("/dev/input/event7", 0), ("/dev/input/event9", 0)]⟩,
    ⟨some 10, [("/dev/input/event7", 0x8000000000000000),
      ("/dev/input/event9", 0x8000000000000000)]⟩]

/-- A stored trace may have counts whose sum does not fit. -/
theorem stored_sums_overflow : ¬ ∀ trace, Stored trace → ExactDelta trace := by
  intro h
  have hstored : Stored twoBusyNodes := by
    constructor
    · rfl
    · intro sample hsample
      simp only [twoBusyNodes, List.mem_cons, List.not_mem_nil, or_false] at hsample
      rcases hsample with rfl | rfl <;> decide
  have hdelta := (h twoBusyNodes hstored).delta
  have hwrapped : (analyzeTrace twoBusyNodes).eventByteDelta = 0 := by decide
  have hgrowth : byteGrowth twoBusyNodes = 2 ^ 64 := by decide
  rw [hwrapped, hgrowth] at hdelta
  exact absurd hdelta (by decide)

end TraceSums
