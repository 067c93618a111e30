/-
# Several programs in one world

Support library: a pool of dialogues that share a world and are answered one call at a
time, in any order.  `PoolReaches` says which pools can be reached.

The rule `PoolReaches.good_of_done` is for a condition on the world that programs may break
for a while: if every program that breaks it does not return before it holds again
(`Responsible`, `Repairs`), it holds when all programs have returned.  A program that
waits to repair need not do it itself: another one may.
-/
import Mathlib.Logic.Function.Basic
import ElanGuardian.Dialogue

namespace Dialogue

variable {I : Interface} {α β ε σ ι : Type}

/-- The pools and worlds that the pool `start` reaches from the world `s₀`. -/
inductive PoolReaches [DecidableEq ι] (w : World σ I) (start : ι → Dialogue I α) (s₀ : σ) :
    (ι → Dialogue I α) → σ → Prop
  | start : PoolReaches w start s₀ start s₀
  | answer {pool : ι → Dialogue I α} {s t : σ} {i : ι} {c : I.Call}
      {k : I.Answer c → Dialogue I α} {a : I.Answer c} (h : PoolReaches w start s₀ pool s)
      (hcall : pool i = ask c k) (hanswer : w s c a t) :
      PoolReaches w start s₀ (Function.update pool i (k a)) t

variable {w : World σ I} {Good : σ → Prop}

/-- What every answer keeps, every run of a pool keeps. -/
theorem PoolReaches.invariant [DecidableEq ι] {J : σ → Prop} {start pool : ι → Dialogue I α}
    {s₀ s : σ} (h : PoolReaches w start s₀ pool s) (hstart : J s₀)
    (hkeep : ∀ s c a s', J s → w s c a s' → J s') : J s := by
  induction h with
  | start => exact hstart
  | answer _ _ hanswer ih => exact hkeep _ _ _ _ ih hanswer

/-- As long as `Good` fails, the program goes on until it makes it true, or returns a value
with `Q`. -/
def Repairs (w : World σ I) (Good : σ → Prop) (Q : α → Prop) : Dialogue I α → Prop
  | done a => Q a
  | ask c k => ∀ s a s', ¬ Good s → w s c a s' → Good s' ∨ Repairs w Good Q (k a)

/-- Once it has made `Good` false, the program repairs it, or returns a value with `Q`. -/
def Responsible (w : World σ I) (Good : σ → Prop) (Q : α → Prop) : Dialogue I α → Prop
  | done _ => True
  | ask c k => ∀ s a s', w s c a s' →
    Responsible w Good Q (k a) ∧ (Good s → ¬ Good s' → Repairs w Good Q (k a))

section Repairs

variable {Q : α → Prop} {R : β → Prop} {p : Dialogue I α} {f : α → Dialogue I β}

/-- Rule for a sequence. -/
theorem Repairs.bind (h : Repairs w Good Q p) (hf : ∀ a, Q a → Repairs w Good R (f a)) :
    Repairs w Good R (p >>= f) := by
  induction p with
  | done a => exact hf a h
  | ask c k ih =>
    intro s a s' hbad hw
    exact (h s a s' hbad hw).imp id (ih a)

/-- Rule for `?`, where no error is returned. -/
theorem Repairs.orReturn {p : Dialogue I (Except ε α)} {f : α → Dialogue I (Except ε β)}
    {R : Except ε β → Prop} (h : Repairs w Good (fun r => ∃ a, r = .ok a) p)
    (hf : ∀ a, Repairs w Good R (f a)) : Repairs w Good R (p.orReturn f) := by
  refine h.bind ?_
  rintro _ ⟨a, rfl⟩
  exact hf a

/-- A call that does not repair leaves the rest of the program to do it. -/
theorem Repairs.call_bind {c : I.Call} {f : I.Answer c → Dialogue I β}
    (h : ∀ a, Repairs w Good R (f a)) : Repairs w Good R (call c >>= f) :=
  fun _ a _ _ _ => .inr (h a)

/-- Rule for a sequence: what the first program breaks it repairs, or the second one does. -/
theorem Responsible.bind (h : Responsible w Good Q p)
    (hrepair : ∀ a, Q a → Repairs w Good R (f a)) (hf : ∀ a, Responsible w Good R (f a)) :
    Responsible w Good R (p >>= f) := by
  induction p with
  | done a => exact hf a
  | ask c k ih =>
    intro s a s' hw
    obtain ⟨hrest, hbreaks⟩ := h s a s' hw
    exact ⟨ih a hrest, fun hgood hbad => (hbreaks hgood hbad).bind hrepair⟩

/-- Rule for `?`, where no error is returned. -/
theorem Responsible.orReturn {p : Dialogue I (Except ε α)} {f : α → Dialogue I (Except ε β)}
    {R : Except ε β → Prop} (h : Responsible w Good (fun r => ∃ a, r = .ok a) p)
    (hrepair : ∀ a, Repairs w Good R (f a)) (hf : ∀ a, Responsible w Good R (f a)) :
    Responsible w Good R (p.orReturn f) := by
  refine h.bind ?_ fun r => ?_
  · rintro _ ⟨a, rfl⟩
    exact hrepair a
  · cases r with
    | error e => exact trivial
    | ok a => exact hf a

/-- A program that never makes `Good` false has nothing to repair. -/
theorem Responsible.of_asks {P : I.Call → Prop} (hp : Asks P p)
    (hkeep : ∀ s c a s', P c → w s c a s' → Good s → Good s') : Responsible w Good Q p := by
  induction p with
  | done a => exact trivial
  | ask c k ih =>
    intro s a s' hw
    exact ⟨ih a (hp.2 a), fun hgood hbad => absurd (hkeep s c a s' hp.1 hw hgood) hbad⟩

end Repairs

/-- **Repair rule.**  If `Good` fails, some program of the pool has not returned and is
about to repair it. -/
theorem PoolReaches.repaired [DecidableEq ι] {start pool : ι → Dialogue I α} {s₀ s : σ}
    (hstart : Good s₀ ∨ ∃ i, Repairs w Good (fun _ => False) (start i))
    (hresponsible : ∀ i, Responsible w Good (fun _ => False) (start i))
    (h : PoolReaches w start s₀ pool s) :
    (Good s ∨ ∃ i, Repairs w Good (fun _ => False) (pool i))
      ∧ ∀ i, Responsible w Good (fun _ => False) (pool i) := by
  induction h with
  | start => exact ⟨hstart, hresponsible⟩
  | @answer pool s s' i c k a _ hcall hanswer ih =>
    obtain ⟨hrepair, hresp⟩ := ih
    have hi := hresp i
    rw [hcall] at hi
    obtain ⟨hrest, hbreaks⟩ := hi s a s' hanswer
    constructor
    · by_cases hgood' : Good s'
      · exact .inl hgood'
      · right
        by_cases hgood : Good s
        · -- this call made it false
          refine ⟨i, ?_⟩
          rw [Function.update_self]
          exact hbreaks hgood hgood'
        · obtain ⟨j, hj⟩ := hrepair.resolve_left hgood
          refine ⟨j, ?_⟩
          by_cases hji : j = i
          · subst hji
            rw [Function.update_self]
            rw [hcall] at hj
            exact (hj s a s' hgood hanswer).resolve_left hgood'
          · rw [Function.update_of_ne hji]
            exact hj
    · intro j
      by_cases hji : j = i
      · subst hji
        rw [Function.update_self]
        exact hrest
      · rw [Function.update_of_ne hji]
        exact hresp j

/-- Once all programs have returned, the world is `Good`. -/
theorem PoolReaches.good_of_done [DecidableEq ι] {start pool : ι → Dialogue I α} {s₀ s : σ}
    (hstart : Good s₀ ∨ ∃ i, Repairs w Good (fun _ => False) (start i))
    (hresponsible : ∀ i, Responsible w Good (fun _ => False) (start i))
    (h : PoolReaches w start s₀ pool s) (hdone : ∀ i, ∃ a, pool i = done a) : Good s := by
  refine (h.repaired hstart hresponsible).1.resolve_right ?_
  rintro ⟨i, hi⟩
  obtain ⟨a, ha⟩ := hdone i
  rw [ha] at hi
  exact hi

end Dialogue
