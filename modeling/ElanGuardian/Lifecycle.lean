/-
# The lifecycle model over whole runs

The machine of `formal/agda/ElanGuardian.agda`: the state of the driver, the interrupt line
and the number of recovery attempts.  The Agda file proves single steps.  The last clause of
`transition` moves the state and leaves the line as it is, so that what holds of the line
rests on the machines that can be reached: in them, the line is disabled just during a
recovery (`irq_disabled_iff_recovering`).
-/
import Mathlib.Data.List.Induction

namespace Lifecycle

/-! ## The machine -/

inductive DriverState
  | active
  | suspending
  | suspended
  | waking
  | faulted
  | recovering
  deriving DecidableEq

inductive Signal
  | beginSuspend
  | suspendComplete
  | beginWake
  | wakeComplete
  | observeFault
  | beginRecovery
  | recoveryComplete
  | recoveryFailed
  deriving DecidableEq

def step : DriverState → Signal → DriverState
  | .active, .beginSuspend => .suspending
  | .suspending, .suspendComplete => .suspended
  | .suspended, .beginWake => .waking
  | .waking, .wakeComplete => .active
  | .active, .observeFault => .faulted
  | .faulted, .beginRecovery => .recovering
  | .recovering, .recoveryComplete => .active
  | .recovering, .recoveryFailed => .faulted
  | state, _ => state

inductive IrqState
  | enabled
  | disabled
  deriving DecidableEq

structure Machine where
  state : DriverState
  irq : IrqState
  attempts : ℕ
  deriving DecidableEq

def transition : Machine → Signal → Machine
  | ⟨.active, .enabled, 0⟩, .observeFault => ⟨.faulted, .enabled, 0⟩
  | ⟨.faulted, .enabled, count⟩, .beginRecovery => ⟨.recovering, .disabled, count + 1⟩
  | ⟨.recovering, .disabled, count⟩, .recoveryComplete => ⟨.active, .enabled, count⟩
  | ⟨.recovering, .disabled, count⟩, .recoveryFailed => ⟨.faulted, .enabled, count⟩
  | ⟨state, irq, count⟩, signal => ⟨step state signal, irq, count⟩

/-- `machine active enabled zero`. -/
def initial : Machine := ⟨.active, .enabled, 0⟩

def run (signals : List Signal) : Machine := signals.foldl transition initial

/-! ## One step -/

/-- The line of a machine that can be reached. -/
def lineOf (state : DriverState) : IrqState :=
  if state = .recovering then .disabled else .enabled

/-- **The invariant.** -/
def Consistent (m : Machine) : Prop := m.irq = lineOf m.state

/-- The signal begins a recovery. -/
def Begins (m : Machine) (signal : Signal) : Prop := signal = .beginRecovery ∧ m.state = .faulted

instance (m : Machine) (signal : Signal) : Decidable (Begins m signal) :=
  inferInstanceAs (Decidable (_ ∧ _))

section Step

variable {m : Machine}

/-- What a step does to a consistent machine: it follows `step`, with the line, and counts the
recoveries. -/
theorem transition_eq (h : Consistent m) (signal : Signal) :
    transition m signal = ⟨step m.state signal, lineOf (step m.state signal),
      m.attempts + if Begins m signal then 1 else 0⟩ := by
  obtain ⟨state, irq, attempts⟩ := m
  obtain rfl : irq = lineOf state := h
  cases state with
  | active =>
    -- the first clause asks for no attempts; the last one does the same with some
    cases attempts with
    | zero => cases signal <;> rfl
    | succ n => cases signal <;> rfl
  | faulted => cases signal <;> rfl
  | recovering => cases signal <;> rfl
  | suspending => cases signal <;> rfl
  | suspended => cases signal <;> rfl
  | waking => cases signal <;> rfl

/-- Each signal keeps it. -/
theorem Consistent.transition (h : Consistent m) (signal : Signal) :
    Consistent (transition m signal) := by
  rw [transition_eq h]
  rfl

end Step

/-! ## Runs -/

section Run

variable {signals : List Signal} {signal : Signal}

/-- One more signal. -/
theorem run_snoc : run (signals ++ [signal]) = transition (run signals) signal := by
  rw [run, List.foldl_append]
  rfl

/-- The model is consistent after every run. -/
theorem consistent_run (signals : List Signal) : Consistent (run signals) := by
  induction signals using List.reverseRecOn with
  | nil => rfl
  | append_singleton signals signal ih =>
    rw [run_snoc]
    exact ih.transition signal

/-- The number of positions at which a recovery began. -/
def recoveriesBegun (signals : List Signal) : ℕ :=
  (List.range signals.length).countP fun i =>
    signals[i]? = some .beginRecovery ∧ (run (signals.take i)).state = .faulted

/-- One more signal begins a recovery or none. -/
theorem recoveriesBegun_snoc :
    recoveriesBegun (signals ++ [signal])
      = recoveriesBegun signals + if Begins (run signals) signal then 1 else 0 := by
  have hearlier : ∀ i ∈ List.range signals.length,
      (decide ((signals ++ [signal])[i]? = some .beginRecovery
          ∧ (run ((signals ++ [signal]).take i)).state = .faulted) = true
        ↔ decide (signals[i]? = some .beginRecovery
          ∧ (run (signals.take i)).state = .faulted) = true) := by
    intro i hi
    have hlt := List.mem_range.mp hi
    rw [List.getElem?_append_left hlt, List.take_append_of_le_length (Nat.le_of_lt hlt)]
  rw [recoveriesBegun, List.length_append, List.length_singleton, List.range_succ,
    List.countP_append, List.countP_congr hearlier, ← recoveriesBegun, List.countP_singleton,
    List.getElem?_concat_length, List.take_left' rfl]
  simp only [Option.some.injEq, decide_eq_true_eq]
  rfl

/-- The recoveries begun are counted. -/
theorem attempts_run (signals : List Signal) :
    (run signals).attempts = recoveriesBegun signals := by
  induction signals using List.reverseRecOn with
  | nil => rfl
  | append_singleton signals signal ih =>
    rw [run_snoc, recoveriesBegun_snoc, transition_eq (consistent_run signals), ← ih]

end Run

/-- **The line over whole runs.**  After every sequence of signals the interrupt line is
disabled just if the driver is recovering, so never while it suspends, is suspended or wakes
up; and the attempts are the recoveries that began. -/
theorem irq_disabled_iff_recovering (signals : List Signal) :
    ((run signals).irq = .disabled ↔ (run signals).state = .recovering)
      ∧ ((run signals).state ∈ [.suspending, .suspended, .waking] →
          (run signals).irq = .enabled)
      ∧ (run signals).attempts = recoveriesBegun signals := by
  have hline : (run signals).irq = lineOf (run signals).state := consistent_run signals
  refine ⟨?_, ?_, attempts_run signals⟩
  · rw [hline, lineOf]
    constructor
    · intro h
      by_contra hstate
      rw [if_neg hstate] at h
      cases h
    · intro h
      rw [if_pos h]
  · intro hmem
    rw [hline, lineOf]
    apply if_neg
    intro hstate
    rw [hstate] at hmem
    simp at hmem

/-- Two recoveries, of which the first fails, and a signal out of order. -/
example : run [.observeFault, .beginRecovery, .recoveryFailed, .beginSuspend, .beginRecovery]
    = ⟨.recovering, .disabled, 2⟩ := by decide

end Lifecycle
