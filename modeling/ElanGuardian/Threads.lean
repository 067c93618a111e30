/-
# Threads and their counters

Support library: a system of threads, each at a program counter, takes one step of one thread
after the other.

* `Counts`: a counter that a thread raises when it enters a region of its code and lowers when
  it leaves the region is the number of threads inside, whatever the interleaving.
* `sum_update`: a jump of one thread changes the sum of the ranks by as much as its own rank.
* `runFrom_length_le`: a run whose steps lower a measure is bounded by it.
-/
import Mathlib.Algebra.BigOperators.Group.Finset.Basic
import Mathlib.Data.Set.Card
import ElanGuardian.Runs

namespace Threads

variable {T P : Type}

/-! ## Counting the threads in a region -/

/-- The threads inside the region. -/
def inside (region : T → P → Bool) (pc : T → P) : Set T := {t | region t (pc t) = true}

/-- The counter is the number of threads inside the region. -/
def Counts (region : T → P → Bool) (pc : T → P) (n : ℕ) : Prop := (inside region pc).encard = n

section Counts

variable {region : T → P → Bool} {pc : T → P} {n : ℕ} {t : T} {dst : P}

/-- While a thread is inside, the counter is not zero. -/
theorem Counts.pos (h : Counts region pc n) (hin : region t (pc t) = true) : 0 < n := by
  rcases Nat.eq_zero_or_pos n with rfl | hpos
  · have hempty : inside region pc = ∅ := Set.encard_eq_zero.mp h
    have hmem : t ∈ inside region pc := hin
    rw [hempty] at hmem
    exact absurd hmem (Set.notMem_empty t)
  · exact hpos

/-- Nobody is in the region. -/
theorem Counts.of_forall (h : ∀ t, region t (pc t) = false) : Counts region pc 0 := by
  have hempty : inside region pc = ∅ := by
    ext t
    simp [inside, h t]
  rw [Counts, hempty, Set.encard_empty]
  rfl

variable [DecidableEq T]

/-- A thread jumps outside of the region, or inside. -/
theorem Counts.stay (h : Counts region pc n) (heq : region t dst = region t (pc t)) :
    Counts region (Function.update pc t dst) n := by
  have hset : inside region (Function.update pc t dst) = inside region pc := by
    ext u
    by_cases hu : u = t
    · subst hu
      simp [inside, heq]
    · simp [inside, hu]
  rw [Counts, hset]
  exact h

/-- A thread that enters the region is counted. -/
theorem Counts.enter (h : Counts region pc n) (hout : region t (pc t) = false)
    (hin : region t dst = true) : Counts region (Function.update pc t dst) (n + 1) := by
  have hset : inside region (Function.update pc t dst) = insert t (inside region pc) := by
    ext u
    by_cases hu : u = t
    · subst hu
      simp [inside, hin]
    · simp [inside, hu]
  have hnot : t ∉ inside region pc := by simp [inside, hout]
  rw [Counts, hset, Set.encard_insert_of_notMem hnot, h]
  rfl

/-- And a thread that leaves it no longer is. -/
theorem Counts.leave (h : Counts region pc n) (hin : region t (pc t) = true)
    (hout : region t dst = false) : Counts region (Function.update pc t dst) (n - 1) := by
  have hset : inside region (Function.update pc t dst) = inside region pc \ {t} := by
    ext u
    by_cases hu : u = t
    · subst hu
      simp [inside, hout]
    · simp [inside, hu]
  have hmem : t ∈ inside region pc := hin
  have hadd := Set.encard_sdiff_singleton_add_one hmem
  rw [h] at hadd
  rw [Counts, hset]
  have hfin : (inside region pc \ {t}).encard ≠ ⊤ := by
    intro htop
    rw [htop] at hadd
    exact absurd hadd (by simp)
  obtain ⟨m, hm⟩ := ENat.ne_top_iff_exists.mp hfin
  rw [← hm] at hadd ⊢
  have hnat : m + 1 = n := by exact_mod_cast hadd
  rw [← hnat]
  rfl

/-- **Counting rule.**  The counter follows every jump of a thread. -/
theorem Counts.jump (h : Counts region pc n) (t : T) (dst : P) :
    Counts region (Function.update pc t dst)
      (n + (region t dst).toNat - (region t (pc t)).toNat) := by
  cases hsrc : region t (pc t) with
  | false =>
    cases hdst : region t dst with
    | false => exact h.stay (by rw [hsrc, hdst])
    | true => exact h.enter hsrc hdst
  | true =>
    cases hdst : region t dst with
    | false => exact h.leave hsrc hdst
    | true => exact h.stay (by rw [hsrc, hdst])

end Counts

/-! ## Ranks -/

/-- **A jump of one thread changes the sum of the ranks by as much as its own rank.** -/
theorem sum_update [DecidableEq T] (rank : P → ℕ) (pc : T → P) {t : T} (dst : P)
    {threads : Finset T} (ht : t ∈ threads) :
    ∑ u ∈ threads, rank (Function.update pc t dst u) + rank (pc t)
      = ∑ u ∈ threads, rank (pc u) + rank dst := by
  have hrest : ∑ u ∈ threads.erase t, rank (Function.update pc t dst u)
      = ∑ u ∈ threads.erase t, rank (pc u) :=
    Finset.sum_congr rfl fun u hu => by
      rw [Function.update_of_ne (Finset.ne_of_mem_erase hu)]
  rw [← Finset.add_sum_erase _ _ ht, ← Finset.add_sum_erase _ (fun u => rank (pc u)) ht, hrest,
    Function.update_self]
  omega

end Threads

namespace Runs

variable {σ α : Type} {step : σ → α → Option σ} {p : α → Prop} {K : σ → Prop} {μ : σ → ℕ}

/-- **A run that lowers a measure is bounded by it.** -/
theorem runFrom_length_le (hkeep : ∀ s a s', K s → p a → step s a = some s' → K s')
    (hlower : ∀ s a s', K s → p a → step s a = some s' → μ s' < μ s) {s s' : σ} {as : List α}
    (hs : K s) (hp : ∀ a ∈ as, p a) (hrun : runFrom step s as = some s') :
    K s' ∧ as.length + μ s' ≤ μ s := by
  induction as generalizing s with
  | nil =>
    rw [runFrom_nil, Option.some.injEq] at hrun
    subst hrun
    exact ⟨hs, by simp⟩
  | cons a as ih =>
    obtain ⟨t, ht, hrest⟩ := runFrom_cons_eq_some.mp hrun
    have ha : p a := hp a List.mem_cons_self
    obtain ⟨hK, hlen⟩ := ih (hkeep s a t hs ha ht)
      (fun b hb => hp b (List.mem_cons_of_mem a hb)) hrest
    have hlt := hlower s a t hs ha ht
    refine ⟨hK, ?_⟩
    rw [List.length_cons]
    omega

end Runs
