/-
# Finite runs of a partial step function

Support library: a system is a function `step : σ → α → Option σ`; `step s a` is
`none` when the action `a` is not enabled in `s`.  `runFrom step s as` executes a
list of actions.  The rules below turn what one step preserves into what every
run preserves:

* `runFrom_invariant` for an invariant of all steps;
* `runFrom_invariant_of_stepsMeet` for one of the steps that meet a condition;
* `runFrom_past` for an invariant that relates the state to the actions executed so
  far, so that counts and orders of past actions need no auxiliary variables;
* `runFrom_snoc` and `runFrom_append` to cut a run at any point;
* `foldl_lastValue`, for a total step whose items each overwrite what is observed or leave
  it alone.
-/
import Mathlib.Data.List.Induction

namespace Runs

variable {σ α : Type}

/-- Execute the actions in order; `none` as soon as one is not enabled. -/
def runFrom (step : σ → α → Option σ) : σ → List α → Option σ
  | s, [] => some s
  | s, a :: as => (step s a).bind fun s' => runFrom step s' as

/-- `s` is reached from `s₀` by some run. -/
def Reachable (step : σ → α → Option σ) (s₀ s : σ) : Prop :=
  ∃ as, runFrom step s₀ as = some s

variable {step : σ → α → Option σ}

@[simp] theorem runFrom_nil (s : σ) : runFrom step s [] = some s := rfl

/-- A step, and then the rest of the run. -/
theorem runFrom_cons (s : σ) (a : α) (as : List α) :
    runFrom step s (a :: as) = (step s a).bind fun s' => runFrom step s' as := rfl

/-- A run that ends has passed through each of its states. -/
theorem runFrom_cons_eq_some {s s' : σ} {a : α} {as : List α} :
    runFrom step s (a :: as) = some s'
      ↔ ∃ t, step s a = some t ∧ runFrom step t as = some s' := by
  rw [runFrom_cons, Option.bind_eq_some_iff]

/-- A run of `as ++ bs` is a run of `as` followed by one of `bs`. -/
theorem runFrom_append {s s' : σ} {as bs : List α} :
    runFrom step s (as ++ bs) = some s'
      ↔ ∃ t, runFrom step s as = some t ∧ runFrom step t bs = some s' := by
  induction as generalizing s with
  | nil => simp
  | cons a as ih =>
    rw [List.cons_append, runFrom_cons_eq_some]
    constructor
    · rintro ⟨u, hu, hrun⟩
      obtain ⟨t, ht, hbs⟩ := ih.mp hrun
      exact ⟨t, runFrom_cons_eq_some.mpr ⟨u, hu, ht⟩, hbs⟩
    · rintro ⟨t, hrun, hbs⟩
      obtain ⟨u, hu, ht⟩ := runFrom_cons_eq_some.mp hrun
      exact ⟨u, hu, ih.mpr ⟨t, ht, hbs⟩⟩

/-- One more step at the end. -/
theorem runFrom_snoc {s s' : σ} {as : List α} {a : α} :
    runFrom step s (as ++ [a]) = some s'
      ↔ ∃ t, runFrom step s as = some t ∧ step t a = some s' := by
  rw [runFrom_append]
  simp [runFrom_cons_eq_some]

/-- What is reached by a run from a reachable state is reachable. -/
theorem Reachable.trans {s₀ s s' : σ} (h : Reachable step s₀ s) {as : List α}
    (hrun : runFrom step s as = some s') : Reachable step s₀ s' := by
  obtain ⟨bs, hbs⟩ := h
  exact ⟨bs ++ as, runFrom_append.mpr ⟨s, hbs, hrun⟩⟩

/-- And so is what is reached by one step. -/
theorem Reachable.snoc {s₀ s s' : σ} (h : Reachable step s₀ s) {a : α}
    (hstep : step s a = some s') : Reachable step s₀ s' := by
  obtain ⟨as, has⟩ := h
  exact ⟨as ++ [a], runFrom_snoc.mpr ⟨s, has, hstep⟩⟩

/-- **Invariant rule.**  What every step preserves, every run preserves. -/
theorem runFrom_invariant {I : σ → Prop}
    (hstep : ∀ s a s', I s → step s a = some s' → I s') {s s' : σ} {as : List α}
    (hs : I s) (hrun : runFrom step s as = some s') : I s' := by
  induction as generalizing s with
  | nil =>
    rw [runFrom_nil, Option.some.injEq] at hrun
    exact hrun ▸ hs
  | cons a as ih =>
    obtain ⟨t, ht, hrest⟩ := runFrom_cons_eq_some.mp hrun
    exact ih (hstep s a t hs ht) hrest

/-- **Invariant rule.** What every step keeps holds of each reachable state. -/
theorem Reachable.invariant {I : σ → Prop} {s₀ s : σ} (h₀ : I s₀)
    (hstep : ∀ s a s', I s → step s a = some s' → I s') (h : Reachable step s₀ s) : I s := by
  obtain ⟨as, hrun⟩ := h
  exact runFrom_invariant hstep h₀ hrun

/-- An invariant may rest on another one that is already known to hold. -/
theorem Reachable.invariant_of {I J : σ → Prop} {s₀ s : σ}
    (hJ : ∀ s, Reachable step s₀ s → J s) (h₀ : I s₀)
    (hstep : ∀ s a s', J s → I s → step s a = some s' → I s') (h : Reachable step s₀ s) : I s := by
  have hboth : Reachable step s₀ s ∧ I s := by
    refine h.invariant (I := fun u => Reachable step s₀ u ∧ I u) ⟨⟨[], rfl⟩, h₀⟩ ?_
    rintro u a u' ⟨hu, hI⟩ hua
    exact ⟨hu.snoc hua, hstep u a u' (hJ u hu) hI hua⟩
  exact hboth.2

/-! ## Runs whose steps meet a condition -/

/-- Every step of the run of `as` from `s` meets `ok`, a condition on the state
before the step and on the action. -/
def StepsMeet (step : σ → α → Option σ) (ok : σ → α → Prop) : σ → List α → Prop
  | _, [] => True
  | s, a :: as => ok s a ∧ match step s a with
    | none => True
    | some s' => StepsMeet step ok s' as

instance decidableStepsMeet (step : σ → α → Option σ) (ok : σ → α → Prop)
    [∀ s a, Decidable (ok s a)] : ∀ s as, Decidable (StepsMeet step ok s as)
  | _, [] => isTrue trivial
  | s, a :: as =>
    have : Decidable (match step s a with
        | none => True
        | some s' => StepsMeet step ok s' as) :=
      match step s a with
      | none => isTrue trivial
      | some s' => decidableStepsMeet step ok s' as
    inferInstanceAs (Decidable (_ ∧ _))

/-- The first step meets the condition, and the others do. -/
theorem stepsMeet_cons {ok : σ → α → Prop} {s s' : σ} {a : α} {as : List α}
    (h : step s a = some s') :
    StepsMeet step ok s (a :: as) ↔ ok s a ∧ StepsMeet step ok s' as := by
  rw [StepsMeet, h]

/-- **Guarded invariant rule.**  What every step that meets `ok` preserves, every
run of such steps preserves. -/
theorem runFrom_invariant_of_stepsMeet {I : σ → Prop} {ok : σ → α → Prop}
    (hstep : ∀ s a s', I s → ok s a → step s a = some s' → I s') {s s' : σ} {as : List α}
    (hs : I s) (hok : StepsMeet step ok s as) (hrun : runFrom step s as = some s') : I s' := by
  induction as generalizing s with
  | nil =>
    rw [runFrom_nil, Option.some.injEq] at hrun
    exact hrun ▸ hs
  | cons a as ih =>
    obtain ⟨t, ht, hrest⟩ := runFrom_cons_eq_some.mp hrun
    obtain ⟨ha, has⟩ := (stepsMeet_cons ht).mp hok
    exact ih (hstep s a t hs ha ht) has hrest

/-- A condition on the actions alone is met by every run of such actions. -/
theorem StepsMeet.of_forall {p : α → Prop} {as : List α} (h : ∀ a ∈ as, p a) (s : σ) :
    StepsMeet step (fun _ a => p a) s as := by
  induction as generalizing s with
  | nil => trivial
  | cons a as ih =>
    refine ⟨h a List.mem_cons_self, ?_⟩
    cases step s a with
    | none => trivial
    | some s' => exact ih (fun b hb => h b (List.mem_cons_of_mem a hb)) s'

/-- The condition on a run is one on each of its two parts. -/
theorem StepsMeet.append {ok : σ → α → Prop} {s t : σ} {as bs : List α}
    (hrun : runFrom step s as = some t) :
    StepsMeet step ok s (as ++ bs) ↔ StepsMeet step ok s as ∧ StepsMeet step ok t bs := by
  induction as generalizing s with
  | nil =>
    rw [runFrom_nil, Option.some.injEq] at hrun
    simp [StepsMeet, hrun]
  | cons a as ih =>
    obtain ⟨u, hu, hrest⟩ := runFrom_cons_eq_some.mp hrun
    rw [List.cons_append, stepsMeet_cons hu, stepsMeet_cons hu, ih hrest, and_assoc]

/-! ## Invariants that mention the past -/

/-- **Guarded invariant rule with a past.**  The invariant may relate the state to the
actions executed so far, and need only survive steps that meet `ok`. -/
theorem runFrom_past_of_stepsMeet {I : σ → List α → Prop} {ok : σ → α → Prop} {s₀ : σ}
    (h₀ : I s₀ [])
    (hstep : ∀ s past a s', runFrom step s₀ past = some s → I s past → ok s a →
      step s a = some s' → I s' (past ++ [a])) {s : σ} {as : List α}
    (hok : StepsMeet step ok s₀ as) (hrun : runFrom step s₀ as = some s) : I s as := by
  induction as using List.reverseRecOn generalizing s with
  | nil =>
    rw [runFrom_nil, Option.some.injEq] at hrun
    exact hrun ▸ h₀
  | append_singleton past a ih =>
    obtain ⟨t, ht, hlast⟩ := runFrom_snoc.mp hrun
    obtain ⟨hpast, ha, -⟩ := (StepsMeet.append ht).mp hok
    exact hstep t past a s ht (ih hpast ht) ha hlast

/-- **Invariant rule with a past.** -/
theorem runFrom_past {I : σ → List α → Prop} {s₀ : σ} (h₀ : I s₀ [])
    (hstep : ∀ s past a s', runFrom step s₀ past = some s → I s past → step s a = some s' →
      I s' (past ++ [a])) {s : σ} {as : List α} (hrun : runFrom step s₀ as = some s) :
    I s as :=
  runFrom_past_of_stepsMeet h₀ (fun s past a s' hpast hI _ => hstep s past a s' hpast hI)
    (StepsMeet.of_forall (p := fun _ => True) (fun _ _ => trivial) s₀) hrun

/-! ## Runs in which the last write decides -/

section LastWrite

variable {β : Type} {step : σ → α → σ} {value : α → Option β} {R : β → σ → Prop}

/-- The last value that one of the items gives. -/
def lastValue (value : α → Option β) (items : List α) : Option β :=
  (items.filterMap value).getLast?

/-- The value of the last item, or if it has none, that of the others. -/
theorem lastValue_snoc (items : List α) (a : α) :
    lastValue value (items ++ [a]) = (value a).or (lastValue value items) := by
  rw [lastValue, lastValue, List.filterMap_append]
  cases h : value a with
  | none => simp [h]
  | some b => simp [h]

/-- **Last-write rule.**  If an item that gives a value makes the state show it, and every
other item keeps what the state shows, then after a run it shows the last value given. -/
theorem foldl_lastValue (hwrite : ∀ s a b, value a = some b → R b (step s a))
    (hkeep : ∀ s a b, value a = none → R b s → R b (step s a)) (s : σ) (items : List α) {b : β}
    (h : lastValue value items = some b) : R b (items.foldl step s) := by
  induction items using List.reverseRecOn generalizing b with
  | nil => simp [lastValue] at h
  | append_singleton items a ih =>
    rw [lastValue_snoc] at h
    rw [List.foldl_append]
    cases ha : value a with
    | none =>
      rw [ha, Option.none_or] at h
      exact hkeep _ a b ha (ih h)
    | some c =>
      rw [ha, Option.some_or] at h
      exact hwrite _ a b (ha.trans h)

/-- If no item gives a value, nothing is shown but what was. -/
theorem foldl_lastValue_none {I : σ → Prop}
    (hkeep : ∀ s a, value a = none → I s → I (step s a)) (s : σ) (items : List α) (hs : I s)
    (h : lastValue value items = none) : I (items.foldl step s) := by
  induction items using List.reverseRecOn with
  | nil => exact hs
  | append_singleton items a ih =>
    rw [lastValue_snoc, Option.or_eq_none_iff] at h
    rw [List.foldl_append]
    exact hkeep _ a h.1 (ih h.2)

end LastWrite

end Runs
