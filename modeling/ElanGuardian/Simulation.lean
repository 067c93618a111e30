/-
# Programs simulated by runs

Support library: a sequential program `x` over the state `σ` against a transition system
over the state `ν`.  `Simulates step own R x R'` says that from states related by `R` the
system has a run, of actions in `own` only, to a state related by `R'` to the one in which
`x` ends.  Where the two move apart the rules say who moves:

* `silent`: the program moves and the system stands still;
* `prepend`: the system runs a block of actions and the program stands still;
* `block`: the program moves while the system runs a block of actions.
-/
import ElanGuardian.Prog
import ElanGuardian.Runs

open Prog

namespace Simulation

variable {ν σ ε α β act : Type}

/-- From related states, `x` and some run of the system end related by `R'`. -/
def Simulates (step : ν → act → Option ν) (own : act → Prop) (R : ν → σ → Prop)
    (x : Prog σ ε α) (R' : α → ν → σ → Prop) : Prop :=
  ∀ u s, R u s → ∃ as u', Runs.runFrom step u as = some u' ∧ (∀ a ∈ as, own a)
    ∧ R' (run x s).value u' (run x s).state

variable {step : ν → act → Option ν} {own : act → Prop} {R Q : ν → σ → Prop}
  {R' : α → ν → σ → Prop} {x : Prog σ ε α}

/-- The program moves, the system stands. -/
theorem Simulates.silent {G : ε → Prop} (h : ∀ u, Triple (R u) x (fun a => R' a u) G) :
    Simulates step own R x R' := by
  intro u s hR
  exact ⟨[], u, rfl, by simp, (h u s hR).1⟩

/-- Rule for a value. -/
theorem Simulates.pure {a : α} (h : ∀ u s, R u s → R' a u s) :
    Simulates step own R (pure a : Prog σ ε α) R' := by
  intro u s hR
  exact ⟨[], u, rfl, by simp, h u s hR⟩

/-- A weaker relation at the end. -/
theorem Simulates.weaken {T : α → ν → σ → Prop} (hx : Simulates step own R x R')
    (h : ∀ a u s, R' a u s → T a u s) : Simulates step own R x T := by
  intro u s hR
  obtain ⟨as, u', hrun, hown, hR'⟩ := hx u s hR
  exact ⟨as, u', hrun, hown, h _ _ _ hR'⟩

/-- Rule for a sequence. -/
theorem Simulates.bind {f : α → Prog σ ε β} {T : β → ν → σ → Prop}
    (hx : Simulates step own R x R') (hf : ∀ a, Simulates step own (R' a) (f a) T) :
    Simulates step own R (x >>= f) T := by
  intro u s hR
  obtain ⟨as, u₁, has, howna, h₁⟩ := hx u s hR
  obtain ⟨bs, u₂, hbs, hownb, h₂⟩ := hf _ u₁ _ h₁
  refine ⟨as ++ bs, u₂, Runs.runFrom_append.mpr ⟨u₁, has, hbs⟩, fun a ha => ?_, h₂⟩
  rcases List.mem_append.mp ha with ha | ha
  · exact howna a ha
  · exact hownb a ha

/-- Rule for a choice. -/
theorem Simulates.ite {c : Prop} [Decidable c] {y : Prog σ ε α}
    (hx : c → Simulates step own R x R') (hy : ¬ c → Simulates step own R y R') :
    Simulates step own R (if c then x else y) R' := by
  by_cases h : c
  · rw [if_pos h]; exact hx h
  · rw [if_neg h]; exact hy h

/-- A program that reads its state may be judged for the state that it reads. -/
theorem Simulates.get_bind {f : σ → Prog σ ε β} {T : β → ν → σ → Prop}
    (hf : ∀ s₀, Simulates step own (fun u s => s = s₀ ∧ R u s) (f s₀) T) :
    Simulates step own R (get >>= f) T :=
  fun u s hR => hf s u s ⟨rfl, hR⟩

/-- The program moves while the system runs `as`. -/
theorem Simulates.block (as : List act) (hown : ∀ a ∈ as, own a)
    (h : ∀ u s, R u s → ∃ u', Runs.runFrom step u as = some u'
      ∧ R' (run x s).value u' (run x s).state) : Simulates step own R x R' := by
  intro u s hR
  obtain ⟨u', hrun, hR'⟩ := h u s hR
  exact ⟨as, u', hrun, hown, hR'⟩

/-- The system runs `as` before the program goes on. -/
theorem Simulates.prepend (as : List act) (hown : ∀ a ∈ as, own a)
    (h : ∀ u s, R u s → ∃ u', Runs.runFrom step u as = some u' ∧ Q u' s)
    (hx : Simulates step own Q x R') : Simulates step own R x R' := by
  intro u s hR
  obtain ⟨u₁, has, hQ⟩ := h u s hR
  obtain ⟨bs, u₂, hbs, hownb, h₂⟩ := hx u₁ s hQ
  refine ⟨as ++ bs, u₂, Runs.runFrom_append.mpr ⟨u₁, has, hbs⟩, fun a ha => ?_, h₂⟩
  rcases List.mem_append.mp ha with ha | ha
  · exact hown a ha
  · exact hownb a ha

end Simulation
