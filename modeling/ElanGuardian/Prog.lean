/-
# Stateful programs with an effect trace

Support library: imperative code is written as a `Prog σ ε α`, a function of the
state `σ` that returns a value, the new state, and the list of effects of type
`ε` it performed, in order.  The value, the state and the trace of a composed
program are given by one simp lemma each, so a reader of the trace never has to
unfold the code that computes the value, and the other way round.

`Triple P x Q G` is the Hoare triple of such a program: started in a state with
`P` it ends with `Q`, and every effect on the way meets `G`.  Because `G` speaks
about each effect, a property of intermediate moments ("the counter never went
below zero") is a property of a triple.
-/
import Mathlib.Data.List.Basic

/-- What one execution produced: a value, the final state, and its effects. -/
structure Outcome (σ ε α : Type) where
  value : α
  state : σ
  trace : List ε

/-- A program over the state `σ` that performs effects of type `ε`. -/
def Prog (σ ε α : Type) : Type := σ → Outcome σ ε α

namespace Prog

variable {σ ε α β γ : Type}

/-- Execute a program from a state. -/
def run (x : Prog σ ε α) (s : σ) : Outcome σ ε α := x s

instance : Monad (Prog σ ε) where
  pure a := fun s => ⟨a, s, []⟩
  bind x f := fun s =>
    ⟨(run (f (run x s).value) (run x s).state).value,
      (run (f (run x s).value) (run x s).state).state,
      (run x s).trace ++ (run (f (run x s).value) (run x s).state).trace⟩

/-- Read the whole state. -/
def get : Prog σ ε σ := fun s => ⟨s, s, []⟩

/-- Update the state. -/
def modify (f : σ → σ) : Prog σ ε Unit := fun s => ⟨(), f s, []⟩

/-- Perform one effect. -/
def emit (e : ε) : Prog σ ε Unit := fun s => ⟨(), s, [e]⟩

/-! ## Value, state and trace of the combinators -/

@[simp] theorem run_pure (a : α) (s : σ) : run (pure a : Prog σ ε α) s = ⟨a, s, []⟩ := rfl

@[simp] theorem run_get (s : σ) : run (get : Prog σ ε σ) s = ⟨s, s, []⟩ := rfl

@[simp] theorem run_modify (f : σ → σ) (s : σ) :
    run (modify f : Prog σ ε Unit) s = ⟨(), f s, []⟩ := rfl

@[simp] theorem run_emit (e : ε) (s : σ) : run (emit e : Prog σ ε Unit) s = ⟨(), s, [e]⟩ := rfl

@[simp] theorem value_bind (x : Prog σ ε α) (f : α → Prog σ ε β) (s : σ) :
    (run (x >>= f) s).value = (run (f (run x s).value) (run x s).state).value := rfl

@[simp] theorem state_bind (x : Prog σ ε α) (f : α → Prog σ ε β) (s : σ) :
    (run (x >>= f) s).state = (run (f (run x s).value) (run x s).state).state := rfl

@[simp] theorem trace_bind (x : Prog σ ε α) (f : α → Prog σ ε β) (s : σ) :
    (run (x >>= f) s).trace
      = (run x s).trace ++ (run (f (run x s).value) (run x s).state).trace := rfl

/-! ## Loops -/

/-- `do { r = body } while (!ok(r) && --repeat > 0)`: one attempt, then up to
`extra` more, stopping at the first result that is `ok`. -/
def retry (ok : α → Bool) (body : Prog σ ε α) : ℕ → Prog σ ε α
  | 0 => body
  | extra + 1 => do
    let r ← body
    if ok r then pure r else retry ok body extra

/-- The executions of the body in `retry`, in order. -/
def tries (ok : α → Bool) (body : Prog σ ε α) : ℕ → σ → List (Outcome σ ε α)
  | 0, s => [run body s]
  | extra + 1, s =>
    if ok (run body s).value then [run body s]
    else run body s :: tries ok body extra (run body s).state

section Retry

variable {ok : α → Bool} {body : Prog σ ε α} {extra : ℕ} {s : σ}

/-- An attempt that succeeds is the last. -/
theorem tries_of_ok (h : ok (run body s).value = true) :
    tries ok body (extra + 1) s = [run body s] := if_pos h

/-- After one that fails come the others. -/
theorem tries_of_not_ok (h : ok (run body s).value = false) :
    tries ok body (extra + 1) s = run body s :: tries ok body extra (run body s).state :=
  if_neg (by simp [h])

/-- If an attempt succeeds, that is all. -/
theorem run_retry_of_ok (h : ok (run body s).value = true) :
    run (retry ok body (extra + 1)) s = run body s := by
  show run (body >>= fun r => if ok r then pure r else retry ok body extra) s = _
  show Outcome.mk _ _ _ = _
  simp [h]

/-- If it fails, the rest is tried in the state it leaves. -/
theorem run_retry_of_not_ok (h : ok (run body s).value = false) :
    run (retry ok body (extra + 1)) s
      = ⟨(run (retry ok body extra) (run body s).state).value,
        (run (retry ok body extra) (run body s).state).state,
        (run body s).trace ++ (run (retry ok body extra) (run body s).state).trace⟩ := by
  show Outcome.mk _ _ _ = _
  simp only [h, Bool.false_eq_true, if_false]

/-- There is one attempt at least. -/
theorem length_tries_pos : 0 < (tries ok body extra s).length := by
  cases extra with
  | zero => exact Nat.one_pos
  | succ extra =>
    rw [tries]
    split_ifs <;> exact Nat.succ_pos _

/-- And there are no more than allowed. -/
theorem length_tries_le : (tries ok body extra s).length ≤ extra + 1 := by
  induction extra generalizing s with
  | zero => exact Nat.le_refl _
  | succ extra ih =>
    rw [tries]
    split_ifs
    · exact Nat.succ_le_succ (Nat.zero_le _)
    · exact Nat.succ_le_succ ih

/-- **A loop is its attempts**: it ends like the last one, and its trace is theirs. -/
theorem run_retry (ok : α → Bool) (body : Prog σ ε α) (extra : ℕ) (s : σ) :
    ∃ last, (tries ok body extra s).getLast? = some last
      ∧ run (retry ok body extra) s
        = ⟨last.value, last.state, (tries ok body extra s).flatMap Outcome.trace⟩ := by
  induction extra generalizing s with
  | zero => exact ⟨run body s, rfl, by simp [tries, retry]⟩
  | succ extra ih =>
    cases h : ok (run body s).value with
    | true =>
      rw [tries_of_ok h, run_retry_of_ok h]
      exact ⟨run body s, rfl, by simp⟩
    | false =>
      obtain ⟨last, hlast, hrun⟩ := ih (run body s).state
      refine ⟨last, ?_, ?_⟩
      · rw [tries_of_not_ok h, List.getLast?_cons, hlast]
        rfl
      · rw [tries_of_not_ok h, run_retry_of_not_ok h, hrun, List.flatMap_cons]

/-- A loop succeeds just if one of its attempts does. -/
theorem ok_retry_iff (ok : α → Bool) (body : Prog σ ε α) (extra : ℕ) (s : σ) :
    ok (run (retry ok body extra) s).value = true
      ↔ ∃ o ∈ tries ok body extra s, ok o.value = true := by
  induction extra generalizing s with
  | zero => simp [tries, retry]
  | succ extra ih =>
    cases h : ok (run body s).value with
    | true =>
      rw [tries_of_ok h, run_retry_of_ok h]
      simp [h]
    | false =>
      rw [tries_of_not_ok h, run_retry_of_not_ok h, ih]
      simp [h]

/-- What holds of every execution of the body holds of the attempts. -/
theorem forall_tries {I : σ → Prop} {P : Outcome σ ε α → Prop}
    (hbody : ∀ s, I s → P (run body s) ∧ I (run body s).state) (hs : I s) :
    ∀ o ∈ tries ok body extra s, P o := by
  induction extra generalizing s with
  | zero =>
    intro o ho
    rw [List.mem_singleton.mp ho]
    exact (hbody s hs).1
  | succ extra ih =>
    cases h : ok (run body s).value with
    | true =>
      rw [tries_of_ok h]
      intro o ho
      rw [List.mem_singleton.mp ho]
      exact (hbody s hs).1
    | false =>
      rw [tries_of_not_ok h, List.forall_mem_cons]
      exact ⟨(hbody s hs).1, ih (hbody s hs).2⟩

end Retry

/-! ## Effects -/

/-- Every effect of the program meets `G`, from whatever state it is started. -/
def Only (G : ε → Prop) (x : Prog σ ε α) : Prop := ∀ s, ∀ e ∈ (run x s).trace, G e

section Only

variable {G : ε → Prop} {x y : Prog σ ε α} {f : α → Prog σ ε β}

theorem Only.pure (a : α) : Only G (pure a : Prog σ ε α) := fun s => by simp

theorem Only.modify (u : σ → σ) : Only G (modify u : Prog σ ε Unit) := fun s => by simp

theorem Only.emit {e : ε} (he : G e) : Only G (emit e : Prog σ ε Unit) :=
  fun s => by simpa using he

/-- Rule for a sequence. -/
theorem Only.bind (hx : Only G x) (hf : ∀ a, Only G (f a)) : Only G (x >>= f) := by
  intro s e he
  rw [trace_bind, List.mem_append] at he
  rcases he with he | he
  · exact hx s e he
  · exact hf _ _ e he

/-- Rule for a choice. -/
theorem Only.ite {c : Prop} [Decidable c] (hx : c → Only G x) (hy : ¬ c → Only G y) :
    Only G (if c then x else y) := by
  by_cases h : c
  · rw [if_pos h]; exact hx h
  · rw [if_neg h]; exact hy h

end Only

/-! ## Hoare triples -/

/-- From a state with `P` the program ends with `Q`, and every effect meets `G`. -/
def Triple (P : σ → Prop) (x : Prog σ ε α) (Q : α → σ → Prop) (G : ε → Prop) : Prop :=
  ∀ s, P s → Q (run x s).value (run x s).state ∧ ∀ e ∈ (run x s).trace, G e

variable {P P' : σ → Prop} {Q Q' : α → σ → Prop} {R : β → σ → Prop} {G G' : ε → Prop}

/-- Rule for a value. -/
theorem Triple.pure {a : α} (h : ∀ s, P s → Q a s) :
    Triple P (pure a : Prog σ ε α) Q G :=
  fun s hs => ⟨h s hs, by simp⟩

/-- Rule for a sequence. -/
theorem Triple.bind {x : Prog σ ε α} {f : α → Prog σ ε β} (hx : Triple P x Q G)
    (hf : ∀ a, Triple (Q a) (f a) R G) : Triple P (x >>= f) R G := by
  intro s hs
  obtain ⟨hq, htx⟩ := hx s hs
  obtain ⟨hr, htf⟩ := hf _ _ hq
  refine ⟨hr, fun e he => ?_⟩
  rw [trace_bind, List.mem_append] at he
  rcases he with he | he
  · exact htx e he
  · exact htf e he

/-- Rule for reading the state, which is then known. -/
theorem Triple.get_bind {f : σ → Prog σ ε β}
    (hf : ∀ s₀, Triple (fun s => s = s₀ ∧ P s) (f s₀) R G) : Triple P (get >>= f) R G :=
  fun s hs => hf s s ⟨rfl, hs⟩

/-- A program that reads the state may be judged by what it does for every state. -/
theorem Triple.read {f : σ → Prog σ ε β} (hf : ∀ s₀, Triple P (f s₀) R G) :
    Triple P (get >>= f) R G :=
  fun s hs => hf s s hs

/-- Rule for an update. -/
theorem Triple.modify {f : σ → σ} {Q : Unit → σ → Prop} (h : ∀ s, P s → Q () (f s)) :
    Triple P (modify f : Prog σ ε Unit) Q G :=
  fun s hs => ⟨h s hs, by simp⟩

/-- Rule for an effect. -/
theorem Triple.emit {e : ε} {Q : Unit → σ → Prop} (h : ∀ s, P s → Q () s)
    (he : ∀ s, P s → G e) : Triple P (emit e : Prog σ ε Unit) Q G :=
  fun s hs => ⟨h s hs, by simpa using he s hs⟩

/-- An effect alone changes no state. -/
theorem Triple.emit_same {e : ε} (he : G e) :
    Triple P (Prog.emit e : Prog σ ε Unit) (fun _ => P) G :=
  Triple.emit (Q := fun _ => P) (fun _ hs => hs) fun _ _ => he

/-- Rule for a choice. -/
theorem Triple.ite {c : Prop} [Decidable c] {x y : Prog σ ε α}
    (hx : c → Triple P x Q G) (hy : ¬ c → Triple P y Q G) :
    Triple P (if c then x else y) Q G := by
  by_cases h : c
  · rw [if_pos h]; exact hx h
  · rw [if_neg h]; exact hy h

/-- Rule of consequence. -/
theorem Triple.conseq {x : Prog σ ε α} (hx : Triple P x Q G) (hP : ∀ s, P' s → P s)
    (hQ : ∀ a s, Q a s → Q' a s) (hG : ∀ e, G e → G' e) : Triple P' x Q' G' := by
  intro s hs
  obtain ⟨hq, ht⟩ := hx s (hP s hs)
  exact ⟨hQ _ _ hq, fun e he => hG e (ht e he)⟩

/-- **Loop rule.**  A body that keeps the invariant `I` and returns with `Q` does so
after all the attempts of `retry`. -/
theorem Triple.retry {I : σ → Prop} {ok : α → Bool} {body : Prog σ ε α}
    (hbody : Triple I body Q G) (hI : ∀ a s, Q a s → I s) (extra : ℕ) :
    Triple I (retry ok body extra) Q G := by
  induction extra with
  | zero => exact hbody
  | succ extra ih =>
    refine Triple.bind hbody fun r => Triple.ite (fun _ => Triple.pure fun s hs => hs) fun _ => ?_
    exact ih.conseq (hI r) (fun _ _ h => h) fun _ h => h

end Prog
