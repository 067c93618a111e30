/-
# Watching a counter that starts again

Support library: somebody samples a counter now and then and acts when it has grown.  The
counter belongs to an incarnation of its owner; a new incarnation counts from 0 again, so
that its state is a pair of an incarnation and a count, and grows in lexicographic order.
The watcher does not see the incarnation: it remembers the count it sampled last, and 0
once it has made a new incarnation itself.

* `replay`: when such a watcher acts, as a function of what it has sampled and made.
* `attempts_increase`: it never acts twice at one count of one incarnation.
* `noticed_iff`: it notices all growth exactly if the first count it samples of an
  incarnation is 0 or above the count it remembers.
-/
import Mathlib.Data.Prod.Lex
import Mathlib.Order.RelClasses

namespace CounterWatch

/-- An incarnation and its count. -/
abbrev Reading : Type := ℕ ×ₗ ℕ

def incarnation (r : Reading) : ℕ := (ofLex r).1

def count (r : Reading) : ℕ := (ofLex r).2

/-- Readings are ordered by their binding first, and then by their count. -/
theorem reading_le {r r' : Reading} :
    r ≤ r' ↔ incarnation r < incarnation r' ∨ incarnation r = incarnation r' ∧ count r ≤ count r' :=
  Prod.Lex.toLex_le_toLex

/-- The strict order is the same with a larger count. -/
theorem reading_lt {r r' : Reading} :
    r < r' ↔ incarnation r < incarnation r' ∨ incarnation r = incarnation r' ∧ count r < count r' :=
  Prod.Lex.toLex_lt_toLex

/-- A later reading is of the same or of a later binding. -/
theorem incarnation_le {r r' : Reading} (h : r ≤ r') : incarnation r ≤ incarnation r' := by
  rcases reading_le.mp h with h | ⟨h, -⟩
  · exact h.le
  · exact h.le

/-- What happens to one counter, in order. -/
inductive Entry
  /-- a round of the watcher begins -/
  | round
  | sampled (r : Reading)
  /-- the watcher acts -/
  | attempted
  /-- the watcher has made a new incarnation -/
  | renewed
  deriving DecidableEq

/-- The count remembered after the entries, from `v` before them. -/
def remembered : ℕ → List Entry → ℕ
  | v, [] => v
  | _, .sampled r :: rest => remembered (count r) rest
  | _, .renewed :: rest => remembered 0 rest
  | v, .round :: rest => remembered v rest
  | v, .attempted :: rest => remembered v rest

/-- The same entries, with an attempt after just those samples that exceed the count
remembered. -/
def replay : ℕ → List Entry → List Entry
  | _, [] => []
  | v, .sampled r :: rest =>
    if v < count r then .sampled r :: .attempted :: replay (count r) rest
    else .sampled r :: replay (count r) rest
  | _, .renewed :: rest => .renewed :: replay 0 rest
  | v, .round :: rest => .round :: replay v rest
  | v, .attempted :: rest => replay v rest

/-- The readings at which attempts were made, if `last` was sampled before the entries. -/
def attempts : Reading → List Entry → List Reading
  | _, [] => []
  | _, .sampled r :: rest => attempts r rest
  | last, .attempted :: rest => last :: attempts last rest
  | last, _ :: rest => attempts last rest

/-- The entries are those of a counter that was at `lo` before them and is at `hi` after
them. -/
def Between : Reading → List Entry → Reading → Prop
  | lo, [], hi => lo ≤ hi
  | lo, .sampled r :: rest, hi => lo ≤ r ∧ Between r rest hi
  | lo, .renewed :: rest, hi => ∃ r, incarnation lo < incarnation r ∧ Between r rest hi
  | lo, _ :: rest, hi => Between lo rest hi

section Append

variable {v : ℕ} {lo hi hi' : Reading} {xs ys : List Entry}

/-- What is remembered after two parts of a record, part by part. -/
theorem remembered_append : remembered v (xs ++ ys) = remembered (remembered v xs) ys := by
  induction xs generalizing v with
  | nil => rfl
  | cons e xs ih => cases e <;> exact ih

/-- A record replays part by part. -/
theorem replay_append : replay v (xs ++ ys) = replay v xs ++ replay (remembered v xs) ys := by
  induction xs generalizing v with
  | nil => rfl
  | cons e xs ih =>
    cases e with
    | sampled r =>
      rw [List.cons_append, replay, replay, remembered, ih]
      split_ifs <;> rfl
    | renewed => exact congrArg _ ih
    | round => exact congrArg _ ih
    | attempted => exact ih

/-- Attempts are not part of what is replayed. -/
theorem replay_inputs : replay v (xs.filter (· ≠ .attempted)) = replay v xs := by
  induction xs generalizing v with
  | nil => rfl
  | cons e xs ih =>
    cases e with
    | sampled r =>
      rw [List.filter_cons_of_pos (by simp), replay, replay, ih]
    | renewed =>
      rw [List.filter_cons_of_pos (by simp), replay, replay, ih]
    | round =>
      rw [List.filter_cons_of_pos (by simp), replay, replay, ih]
    | attempted =>
      rw [List.filter_cons_of_neg (by simp), replay, ih]

/-- A record ends in the same or in a later binding. -/
theorem Between.incarnation_le (h : Between lo xs hi) : incarnation lo ≤ incarnation hi := by
  induction xs generalizing lo with
  | nil => exact CounterWatch.incarnation_le h
  | cons e xs ih =>
    cases e with
    | sampled r => exact (CounterWatch.incarnation_le h.1).trans (ih h.2)
    | renewed =>
      obtain ⟨r, hr, hrest⟩ := h
      exact hr.le.trans (ih hrest)
    | round => exact ih h
    | attempted => exact ih h

/-- The reading after a record may be later. -/
theorem Between.mono (h : Between lo xs hi) (hhi : hi ≤ hi') : Between lo xs hi' := by
  induction xs generalizing lo with
  | nil => exact h.trans hhi
  | cons e xs ih =>
    cases e with
    | sampled r => exact ⟨h.1, ih h.2⟩
    | renewed =>
      obtain ⟨r, hr, hrest⟩ := h
      exact ⟨r, hr, ih hrest⟩
    | round => exact ih h
    | attempted => exact ih h

/-- Two records that meet at a reading are one. -/
theorem Between.append (h : Between lo xs hi) (h' : Between hi ys hi') :
    Between lo (xs ++ ys) hi' := by
  induction xs generalizing lo with
  | nil =>
    -- only the first entry of `ys` meets the lower bound
    have hlower : ∀ zs : List Entry, Between hi zs hi' → Between lo zs hi' := by
      intro zs
      induction zs with
      | nil => exact fun h' => le_trans h h'
      | cons e zs ih =>
        cases e with
        | sampled r => exact fun h' => ⟨le_trans h h'.1, h'.2⟩
        | renewed =>
          rintro ⟨r, hr, hrest⟩
          exact ⟨r, (incarnation_le h).trans_lt hr, hrest⟩
        | round => exact ih
        | attempted => exact ih
    exact hlower ys h'
  | cons e xs ih =>
    cases e with
    | sampled r => exact ⟨h.1, ih h.2⟩
    | renewed =>
      obtain ⟨r, hr, hrest⟩ := h
      exact ⟨r, hr, ih hrest⟩
    | round => exact ih h
    | attempted => exact ih h

/-- A sample is no attempt. -/
theorem attempts_append_sampled {last r : Reading} :
    attempts last (xs ++ [.sampled r]) = attempts last xs := by
  induction xs generalizing last with
  | nil => rfl
  | cons e xs ih =>
    cases e with
    | attempted => exact congrArg (List.cons last) ih
    | sampled r' => exact ih
    | renewed => exact ih
    | round => exact ih

end Append

/-! ## No attempt is repeated -/

section Attempts

variable {v : ℕ} {lo hi last : Reading} {xs : List Entry}

/-- Attempts lie above what was sampled before, and strictly so while it is remembered. -/
theorem attempts_above (h : Between lo xs hi) :
    ∀ r ∈ attempts last (replay v xs), lo ≤ r ∧ (count lo ≤ v → lo < r) := by
  induction xs generalizing v lo last with
  | nil => exact fun r hr => absurd hr List.not_mem_nil
  | cons e xs ih =>
    cases e with
    | round => exact ih h
    | attempted => exact ih h
    | renewed =>
      obtain ⟨b, hb, hrest⟩ := h
      intro r hr
      have hbr := (ih hrest r hr).1
      have hlt : lo < r := lt_of_lt_of_le (reading_lt.mpr (.inl hb)) hbr
      exact ⟨hlt.le, fun _ => hlt⟩
    | sampled a =>
      obtain ⟨hle, hrest⟩ := h
      have hlater : ∀ r ∈ attempts a (replay (count a) xs), lo < r := by
        intro r hr
        exact lt_of_le_of_lt hle ((ih hrest r hr).2 le_rfl)
      unfold replay
      split_ifs with hgrown
      · rintro r (_ | ⟨_, hr⟩)
        · refine ⟨hle, fun hv => lt_of_le_of_ne hle ?_⟩
          rintro rfl
          omega
        · exact ⟨(hlater r hr).le, fun _ => hlater r hr⟩
      · exact fun r hr => ⟨(hlater r hr).le, fun _ => hlater r hr⟩

/-- **No attempt is repeated.**  The readings at which attempts are made increase strictly. -/
theorem attempts_increase (h : Between lo xs hi) :
    (attempts last (replay v xs)).Pairwise (· < ·) := by
  induction xs generalizing v lo last with
  | nil => exact List.Pairwise.nil
  | cons e xs ih =>
    cases e with
    | round => exact ih h
    | attempted => exact ih h
    | renewed =>
      obtain ⟨b, -, hrest⟩ := h
      exact ih hrest
    | sampled a =>
      unfold replay
      split_ifs
      · exact List.Pairwise.cons (fun r hr => (attempts_above h.2 r hr).2 le_rfl) (ih h.2)
      · exact ih h.2

end Attempts

/-! ## What is noticed -/

/-- Every sample above all earlier ones of its incarnation, and above 0, is followed by an
attempt. -/
def Noticed (xs : List Entry) : Prop :=
  ∀ past r future, xs = past ++ .sampled r :: future → 0 < count r →
    (∀ r', .sampled r' ∈ past → incarnation r' = incarnation r → count r' < count r) →
    ∃ rest, future = .attempted :: rest

/-- The first sample of an incarnation is 0 or above the count remembered from before. -/
def FirstSamplesStandOut (xs : List Entry) : Prop :=
  ∀ past r future, xs = past ++ .sampled r :: future →
    (∀ r', .sampled r' ∈ past → incarnation r' ≠ incarnation r) →
    count r = 0 ∨ remembered 0 past < count r

section Noticed

variable {v : ℕ} {lo hi : Reading} {xs past future : List Entry} {r : Reading}

/-- A sample parts the record around it. -/
theorem between_split (h : Between lo (past ++ .sampled r :: future) hi) :
    Between lo past r ∧ Between r future hi := by
  induction past generalizing lo with
  | nil => exact h
  | cons e past ih =>
    cases e with
    | sampled r' => exact ⟨⟨h.1, (ih h.2).1⟩, (ih h.2).2⟩
    | renewed =>
      obtain ⟨b, hb, hrest⟩ := h
      exact ⟨⟨b, hb, (ih hrest).1⟩, (ih hrest).2⟩
    | round => exact ih h
    | attempted => exact ih h

/-- While the incarnation stays the same, what is remembered is its last sample. -/
theorem remembered_of_same (h : Between lo xs hi) (hsame : incarnation lo = incarnation hi) :
    remembered v xs = v ∨ ∃ r₀, .sampled r₀ ∈ xs ∧ incarnation r₀ = incarnation hi
      ∧ remembered v xs = count r₀ := by
  induction xs generalizing v lo with
  | nil => exact .inl rfl
  | cons e xs ih =>
    cases e with
    | round =>
      refine (ih h hsame).imp id ?_
      rintro ⟨r₀, hmem, hr₀⟩
      exact ⟨r₀, List.mem_cons_of_mem _ hmem, hr₀⟩
    | attempted =>
      refine (ih h hsame).imp id ?_
      rintro ⟨r₀, hmem, hr₀⟩
      exact ⟨r₀, List.mem_cons_of_mem _ hmem, hr₀⟩
    | renewed =>
      obtain ⟨b, hb, hrest⟩ := h
      have hle := hrest.incarnation_le
      omega
    | sampled r =>
      have hr : incarnation r = incarnation hi := by
        have hlo := incarnation_le h.1
        have hhi := h.2.incarnation_le
        omega
      right
      rcases ih (v := count r) h.2 hr with hv | ⟨r₀, hmem, hr₀⟩
      · exact ⟨r, List.mem_cons_self, hr, hv⟩
      · exact ⟨r₀, List.mem_cons_of_mem _ hmem, hr₀⟩

/-- After a sample of the present incarnation, some sample of it is what is remembered. -/
theorem remembered_of_sampled (h : Between lo past hi) {r' : Reading} (hmem : .sampled r' ∈ past)
    (hsame : incarnation r' = incarnation hi) :
    ∃ r₀, .sampled r₀ ∈ past ∧ incarnation r₀ = incarnation hi ∧ remembered v past = count r₀ := by
  obtain ⟨before, after, rfl⟩ := List.append_of_mem hmem
  rw [remembered_append, remembered]
  rcases remembered_of_same (v := count r') (between_split h).2 hsame with hv | ⟨r₀, hmem₀, hr₀⟩
  · exact ⟨r', hmem, hsame, hv⟩
  · exact ⟨r₀, List.mem_append_right _ (List.mem_cons_of_mem _ hmem₀), hr₀⟩

/-- No replay starts with an attempt. -/
theorem replay_ne_attempted : replay v xs ≠ .attempted :: future := by
  induction xs with
  | nil => simp [replay]
  | cons e xs ih =>
    cases e with
    | attempted => exact ih
    | sampled r =>
      unfold replay
      split_ifs <;> simp
    | _ => simp [replay]

/-- After a sample the observer attempts exactly what exceeds its count. -/
theorem replay_sampled (h : replay v (.sampled r :: xs) = .sampled r :: xs) :
    (v < count r ∧ ∃ rest, xs = .attempted :: rest ∧ replay (count r) rest = rest)
      ∨ ¬ v < count r ∧ replay (count r) xs = xs := by
  rw [replay] at h
  split_ifs at h with hgrown
  · left
    obtain ⟨-, hxs⟩ := List.cons.inj h
    refine ⟨hgrown, replay (count r) xs, hxs.symm, ?_⟩
    -- the attempt is skipped when the rest is replayed
    conv_rhs => rw [← hxs]
    rfl
  · exact .inr ⟨hgrown, (List.cons.inj h).2⟩

/-- In a history that replays itself, an attempt follows a sample just if that exceeds the
count remembered. -/
theorem attempted_iff : ∀ (past : List Entry) {v : ℕ},
    replay v (past ++ .sampled r :: future) = past ++ .sampled r :: future →
      ((∃ rest, future = .attempted :: rest) ↔ remembered v past < count r)
  | [], v, h => by
    rcases replay_sampled h with ⟨hgrown, rest, hrest, -⟩ | ⟨hgrown, hrest⟩
    · exact iff_of_true ⟨rest, hrest⟩ hgrown
    · refine iff_of_false ?_ hgrown
      rintro ⟨rest, rfl⟩
      exact replay_ne_attempted hrest
  | .round :: past, v, h => attempted_iff past (List.cons.inj h).2
  | .renewed :: past, v, h => attempted_iff past (List.cons.inj h).2
  | .attempted :: past, v, h => absurd h replay_ne_attempted
  | .sampled r' :: past, v, h => by
    rcases replay_sampled h with ⟨-, rest, hrest, hreplay⟩ | ⟨-, hreplay⟩
    · cases past with
      | nil => exact absurd (List.cons.inj hrest).1 (by simp)
      | cons e past =>
        obtain ⟨rfl, rfl⟩ := List.cons.inj hrest
        exact attempted_iff past hreplay
    · exact attempted_iff past hreplay
termination_by past => past.length

/-- **What is noticed.**  A watcher notices all growth exactly if first samples stand out. -/
theorem noticed_iff (h : Between lo xs hi) (hreplay : replay 0 xs = xs) :
    Noticed xs ↔ FirstSamplesStandOut xs := by
  constructor
  · rintro hnoticed past r future rfl hfirst
    by_cases hzero : count r = 0
    · exact .inl hzero
    · right
      rw [← attempted_iff past hreplay]
      refine hnoticed past r future rfl (Nat.pos_of_ne_zero hzero) ?_
      exact fun r' hmem hsame => absurd hsame (hfirst r' hmem)
  · rintro hfirst past r future rfl hpos habove
    rw [attempted_iff past hreplay]
    by_cases hseen : ∃ r', .sampled r' ∈ past ∧ incarnation r' = incarnation r
    · obtain ⟨r', hmem, hsame⟩ := hseen
      obtain ⟨r₀, hmem₀, hsame₀, hremembered⟩ :=
        remembered_of_sampled (v := 0) (between_split h).1 hmem hsame
      rw [hremembered]
      exact habove r₀ hmem₀ hsame₀
    · push Not at hseen
      exact (hfirst past r future rfl hseen).resolve_left hpos.ne'

end Noticed

/-! ## The watcher step by step -/

/-- The watcher has dealt with all its samples and remembers `v`. -/
def Settled (xs : List Entry) (v : ℕ) : Prop := replay 0 xs = xs ∧ remembered 0 xs = v

/-- The watcher has just sampled the count `n`, and remembers `v` from before. -/
def Due (n : ℕ) (xs : List Entry) (v : ℕ) : Prop :=
  ∃ past r, xs = past ++ [.sampled r] ∧ count r = n ∧ Settled past v

section Steps

variable {xs ys : List Entry} {v n : ℕ} {lo hi last r : Reading}

/-- At the start nothing is due. -/
theorem settled_nil : Settled [] 0 := ⟨rfl, rfl⟩

/-- A new pass leaves nothing due. -/
theorem Settled.round (h : Settled xs v) : Settled (xs ++ [.round]) v := by
  refine ⟨?_, by rw [remembered_append, h.2]; rfl⟩
  rw [replay_append, h.1]
  rfl

/-- After a rebind the observer remembers zero. -/
theorem Settled.renewed (h : Settled xs v) : Settled (xs ++ [.renewed]) 0 := by
  refine ⟨?_, by rw [remembered_append]; rfl⟩
  rw [replay_append, h.1]
  rfl

/-- A sample is due until it has been dealt with. -/
theorem Settled.sampled (h : Settled xs v) : Due (count r) (xs ++ [.sampled r]) v :=
  ⟨xs, r, rfl, rfl, h⟩

/-- A count above the one remembered is acted on. -/
theorem Due.attempted (h : Due n xs v) (hgrown : v < n) : Settled (xs ++ [.attempted]) n := by
  obtain ⟨past, r, rfl, rfl, hreplay, rfl⟩ := h
  rw [List.append_assoc]
  refine ⟨?_, by rw [remembered_append]; rfl⟩
  rw [replay_append, hreplay, List.cons_append, replay, if_pos hgrown]
  rfl

/-- Any other count is remembered only. -/
theorem Due.ignored (h : Due n xs v) (hgrown : ¬ v < n) : Settled xs n := by
  obtain ⟨past, r, rfl, rfl, hreplay, rfl⟩ := h
  refine ⟨?_, by rw [remembered_append]; rfl⟩
  rw [replay_append, hreplay, replay, if_neg hgrown]
  rfl

/-- With nothing due, the attempts of one binding increase. -/
theorem Settled.attempts_increase (h : Settled xs v) (hbetween : Between lo xs hi) :
    (attempts last xs).Pairwise (· < ·) := by
  rw [← h.1]
  exact CounterWatch.attempts_increase hbetween

/-- And with a sample due, too. -/
theorem Due.attempts_increase (h : Due n xs v) (hbetween : Between lo xs hi) :
    (attempts last xs).Pairwise (· < ·) := by
  obtain ⟨past, r, rfl, -, hpast⟩ := h
  rw [attempts_append_sampled]
  exact hpast.attempts_increase (between_split hbetween).1

/-- Two watchers with the same inputs have acted alike. -/
theorem Settled.eq_of_inputs {w : ℕ} (h : Settled xs v) (h' : Settled ys w)
    (hinputs : xs.filter (· ≠ .attempted) = ys.filter (· ≠ .attempted)) : xs = ys := by
  rw [← h.1, ← h'.1, ← replay_inputs, hinputs, replay_inputs]

end Steps

end CounterWatch
