/-
# Footprints of stateful programs

Support library: `Via R x` says that a program changes its state only by steps of the relation
`R`.  One rule per way to build a program derives it from the updates the program makes; an
invariant of the steps is then an invariant of the program, whatever the invariant.
-/
import ElanGuardian.Prog
import Mathlib.Logic.Relation

namespace Prog

variable {σ ε α β : Type}

/-- From any state, the program ends in a state that some steps of `R` lead to. -/
def Via (R : σ → σ → Prop) (x : Prog σ ε α) : Prop :=
  ∀ s, Relation.ReflTransGen R s (run x s).state

section Via

variable {R : σ → σ → Prop} {x y : Prog σ ε α}

theorem Via.pure (a : α) : Via R (pure a : Prog σ ε α) := fun _ => .refl

theorem Via.emit (e : ε) : Via R (emit e : Prog σ ε Unit) := fun _ => .refl

/-- One store. -/
theorem Via.modify {f : σ → σ} (h : ∀ s, R s (f s)) : Via R (modify f : Prog σ ε Unit) :=
  fun s => .single (h s)

/-- Rule for a sequence. -/
theorem Via.bind {f : α → Prog σ ε β} (hx : Via R x) (hf : ∀ a, Via R (f a)) :
    Via R (x >>= f) :=
  fun s => (hx s).trans (hf _ _)

/-- Reading the state stores nothing. -/
theorem Via.read {f : σ → Prog σ ε β} (hf : ∀ s, Via R (f s)) : Via R (get >>= f) :=
  fun s => hf s s

/-- Rule for a branch. -/
theorem Via.ite {c : Prop} [Decidable c] (hx : c → Via R x) (hy : ¬ c → Via R y) :
    Via R (if c then x else y) := by
  by_cases h : c
  · rw [if_pos h]
    exact hx h
  · rw [if_neg h]
    exact hy h

/-- More steps are allowed. -/
theorem Via.mono {R' : σ → σ → Prop} (hx : Via R x) (h : ∀ s s', R s s' → R' s s') : Via R' x :=
  fun s => Relation.ReflTransGen.mono h _ _ (hx s)

/-- Rule for a bounded loop. -/
theorem Via.retry {ok : α → Bool} (hx : Via R x) (extra : ℕ) : Via R (retry ok x extra) := by
  induction extra with
  | zero => exact hx
  | succ extra ih => exact hx.bind fun a => .ite (fun _ => .pure a) fun _ => ih

/-- **Invariant rule.**  What the steps keep, the program keeps. -/
theorem Via.keeps {J : σ → Prop} (hx : Via R x) (hJ : ∀ s s', R s s' → J s → J s') {s : σ}
    (hs : J s) : J (run x s).state := by
  have hrun : ∀ s', Relation.ReflTransGen R s s' → J s' := by
    intro s' h
    induction h with
    | refl => exact hs
    | tail _ hstep ih => exact hJ _ _ hstep ih
  exact hrun _ (hx s)

end Via

end Prog
