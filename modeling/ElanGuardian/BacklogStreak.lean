/-
# The backlog observer against its streaks

`BacklogObserver` (`src/consumer.rs`) keeps, for each descriptor, the moment since which it
has been readable.  What it should keep is the start of a streak: the moment of the first of
the consecutive `observe` calls, up to this one, that found the descriptor readable.

A call that reports a descriptor returns in the middle of its samples, so that it neither
starts nor ends the streak of a descriptor behind the reported one.  The observer follows
the streaks exactly as far as this makes no difference (`observer_follows_streaks_iff`), in
particular where no such call finds the descriptor idle or new (`follows_of_steady`).
-/
import Mathlib.Data.List.Find
import ElanGuardian.Monitor

open Monitor

namespace BacklogStreak

/-! ## Calls and streaks -/

/-- A call on an observer. -/
inductive Use
  | observe (now : ℕ) (samples : List (ConsumerKey × Bool))
  | clear
  deriving DecidableEq

/-- The observer after some calls, the newest first. -/
def after (grace : ℕ) : List Use → BacklogObserver
  | [] => .empty
  | .observe now samples :: older => ((after grace older).observe now samples grace).2
  | .clear :: older => (after grace older).clear

/-- The moments of the consecutive `observe` calls, back from the newest call, that found
the descriptor ready. -/
def streak (key : ConsumerKey) : List Use → List ℕ
  | .observe now samples :: older =>
    if (key, true) ∈ samples then now :: streak key older else []
  | .clear :: _ => []
  | [] => []

/-- The moment of the first call of the streak. -/
def streakStart (key : ConsumerKey) (calls : List Use) : Option ℕ := (streak key calls).getLast?

/-- Something that has lasted since `start` has lasted for the grace. -/
def waited (grace now : ℕ) (start : Option ℕ) : Bool :=
  start.any fun since => since + grace ≤ now

/-- The samples that are due: ready, and for the grace. -/
def due (grace now : ℕ) (since : ConsumerKey → Option ℕ) (sample : ConsumerKey × Bool) : Bool :=
  sample.2 && waited grace now (since sample.1)

/-- What `observe` should return after the calls `older`: the first descriptor that is ready
and whose streak has lasted for the grace. -/
def stalled (grace now : ℕ) (samples : List (ConsumerKey × Bool)) (older : List Use) :
    Option ConsumerKey :=
  (samples.find? (due grace now fun key =>
    streakStart key (.observe now samples :: older))).map Prod.fst

/-- Every `observe` call returns what it should. -/
def Follows (grace : ℕ) (calls : List Use) : Prop :=
  ∀ now samples older, .observe now samples :: older <:+ calls →
    ((after grace older).observe now samples grace).1 = stalled grace now samples older

/-! ## Hidden descriptors -/

/-- The samples before that of a descriptor. -/
def before (key : ConsumerKey) (samples : List (ConsumerKey × Bool)) :
    List (ConsumerKey × Bool) :=
  samples.takeWhile fun sample => sample.1 ≠ key

/-- A call hides a descriptor behind another one whose streak has lasted for the grace. -/
def hides (grace : ℕ) (key : ConsumerKey) : Use → List Use → Bool
  | .observe now samples, older =>
    key ∈ samples.map Prod.fst && (before key samples).any
      (due grace now fun other => streakStart other (.observe now samples :: older))
  | .clear, _ => false

/-- The calls that do not hide the descriptor. -/
def visible (grace : ℕ) (key : ConsumerKey) : List Use → List Use
  | [] => []
  | call :: older =>
    if hides grace key call older then visible grace key older
    else call :: visible grace key older

/-- Leaving out the calls that hid a descriptor makes no difference where it is ready and not
hidden itself: its streak has lasted for the grace with them just when it has without. -/
def Undisturbed (grace : ℕ) (calls : List Use) : Prop :=
  ∀ now samples older, .observe now samples :: older <:+ calls → ∀ key, (key, true) ∈ samples →
    hides grace key (.observe now samples) older = false →
      waited grace now (streakStart key (visible grace key (.observe now samples :: older)))
        = waited grace now (streakStart key (.observe now samples :: older))

/-- No call has two samples of one descriptor. -/
def Distinct (calls : List Use) : Prop :=
  ∀ now samples, .observe now samples ∈ calls → (samples.map Prod.fst).Nodup

section Streaks

variable {grace now : ℕ} {key k : ConsumerKey} {samples rest : List (ConsumerKey × Bool)}
  {older calls : List Use} {call : Use}

/-- An `observe` call goes on with a streak, starts it or ends it. -/
theorem streakStart_observe :
    streakStart key (.observe now samples :: older)
      = if (key, true) ∈ samples then some ((streakStart key older).getD now) else none := by
  rw [streakStart, streak]
  split_ifs
  · rw [List.getLast?_cons]
    rfl
  · rfl

/-- A call that hides the descriptor is left out. -/
theorem visible_of_hides (h : hides grace key call older = true) :
    visible grace key (call :: older) = visible grace key older := by
  rw [visible, if_pos h]

/-- Every other call stays. -/
theorem visible_of_not_hides (h : hides grace key call older = false) :
    visible grace key (call :: older) = call :: visible grace key older := by
  rw [visible, if_neg (by simp [h])]

end Streaks

/-! ## The first of several samples -/

section First

variable {key k : ConsumerKey} {ready : Bool} {samples rest : List (ConsumerKey × Bool)}
  {p q : ConsumerKey × Bool → Bool}

/-- Nothing is before the first sample. -/
theorem before_self : before key ((key, ready) :: rest) = [] :=
  List.takeWhile_cons_of_neg (by simp)

/-- The first sample is before every other one. -/
theorem before_of_ne (h : k ≠ key) :
    before key ((k, ready) :: rest) = (k, ready) :: before key rest :=
  List.takeWhile_cons_of_pos (by simpa using h)

/-- The samples behind the first one are of other descriptors. -/
theorem ne_of_mem_rest (hnew : k ∉ rest.map Prod.fst) {sample : ConsumerKey × Bool}
    (h : sample ∈ rest) : k ≠ sample.1 := by
  rintro rfl
  exact hnew (List.mem_map_of_mem h)

/-- The head is not found further on. -/
theorem find?_rest_ne (hnew : k ∉ rest.map Prod.fst) :
    (rest.find? p).map Prod.fst ≠ some k := by
  intro h
  obtain ⟨sample, hfind, rfl⟩ := Option.map_eq_some_iff.mp h
  exact hnew (List.mem_map_of_mem (List.mem_of_find?_eq_some hfind))

/-- Two tests find the same sample first if they agree up to the one that the second finds. -/
theorem find?_eq_iff (hdistinct : (samples.map Prod.fst).Nodup) :
    (samples.find? p).map Prod.fst = (samples.find? q).map Prod.fst
      ↔ ∀ sample ∈ samples, (before sample.1 samples).any q = false → p sample = q sample := by
  induction samples with
  | nil => simp
  | cons head rest ih =>
    obtain ⟨k, ready⟩ := head
    rw [List.map_cons, List.nodup_cons] at hdistinct
    obtain ⟨hnew, hrest⟩ := hdistinct
    rw [List.forall_mem_cons, before_self]
    cases hq : q (k, ready) with
    | true =>
      -- every other sample is behind the head, so that only the head counts
      rw [List.find?_cons_of_pos hq]
      constructor
      · intro h
        refine ⟨fun _ => ?_, fun sample hmem hbefore => ?_⟩
        · by_contra hp
          rw [List.find?_cons_of_neg (by simpa using hp)] at h
          exact find?_rest_ne hnew h
        · rw [before_of_ne (ne_of_mem_rest hnew hmem), List.any_cons, hq] at hbefore
          exact absurd hbefore (by simp)
      · rintro ⟨hhead, -⟩
        rw [List.find?_cons_of_pos (hhead rfl)]
    | false =>
      -- the head hides nothing: the rest is as without it
      have hlater : (∀ sample ∈ rest, (before sample.1 ((k, ready) :: rest)).any q = false →
            p sample = q sample)
          ↔ ∀ sample ∈ rest, (before sample.1 rest).any q = false → p sample = q sample := by
        refine forall₂_congr fun sample hmem => ?_
        rw [before_of_ne (ne_of_mem_rest hnew hmem), List.any_cons, hq, Bool.false_or]
      have hskip : ((k, ready) :: rest).find? q = rest.find? q :=
        List.find?_cons_of_neg (by simp [hq])
      rw [hskip, hlater, ← ih hrest]
      constructor
      · intro h
        cases hp : p (k, ready) with
        | true =>
          rw [List.find?_cons_of_pos hp] at h
          exact absurd h.symm (find?_rest_ne hnew)
        | false =>
          rw [List.find?_cons_of_neg (by simp [hp])] at h
          exact ⟨fun _ => rfl, h⟩
      · rintro ⟨hhead, h⟩
        have hp : p (k, ready) = false := hhead rfl
        rw [List.find?_cons_of_neg (by simp [hp])]
        exact h

/-- Then they also agree on what lies behind that sample. -/
theorem any_before_eq (hdistinct : (samples.map Prod.fst).Nodup)
    (h : (samples.find? p).map Prod.fst = (samples.find? q).map Prod.fst)
    (hmem : key ∈ samples.map Prod.fst) :
    (before key samples).any p = (before key samples).any q := by
  induction samples with
  | nil => exact absurd hmem List.not_mem_nil
  | cons head rest ih =>
    obtain ⟨k, ready⟩ := head
    rw [List.map_cons, List.nodup_cons] at hdistinct
    obtain ⟨hnew, hrest⟩ := hdistinct
    by_cases hk : k = key
    · subst hk
      rw [before_self]
      rfl
    · have hmem : key ∈ rest.map Prod.fst := (List.mem_cons.mp hmem).resolve_left (Ne.symm hk)
      rw [before_of_ne hk, List.any_cons, List.any_cons]
      cases hp : p (k, ready) with
      | true =>
        cases hq : q (k, ready) with
        | true => rfl
        | false =>
          rw [List.find?_cons_of_pos hp, List.find?_cons_of_neg (by simp [hq])] at h
          exact absurd h.symm (find?_rest_ne hnew)
      | false =>
        cases hq : q (k, ready) with
        | true =>
          rw [List.find?_cons_of_neg (by simp [hp]), List.find?_cons_of_pos hq] at h
          exact absurd h (find?_rest_ne hnew)
        | false =>
          rw [List.find?_cons_of_neg (by simp [hp]), List.find?_cons_of_neg (by simp [hq])] at h
          rw [ih hrest h hmem]

end First

/-! ## What one call does -/

section Observe

variable {b : BacklogObserver} {grace now : ℕ} {key k : ConsumerKey} {ready : Bool}
  {samples rest : List (ConsumerKey × Bool)} {since since' : ConsumerKey → Option ℕ}

/-- The moment from which a ready sample counts. -/
def entry (b : BacklogObserver) (now : ℕ) (key : ConsumerKey) : Option ℕ :=
  some ((b.readySince key).getD now)

/-- Whether a sample is due depends on its own moment only. -/
theorem due_congr {sample : ConsumerKey × Bool} (h : since sample.1 = since' sample.1) :
    due grace now since sample = due grace now since' sample := by
  rw [due, due, h]

/-- Removing an entry leaves the others. -/
theorem readySince_remove (h : key ≠ k) : (b.remove k).readySince key = b.readySince key :=
  Function.update_of_ne h _ _

/-- And the moments from which the others count. -/
theorem entry_remove (h : key ≠ k) : entry (b.remove k) now key = entry b now key := by
  rw [entry, entry, readySince_remove h]

/-- So does adding one. -/
theorem entry_orInsert (h : key ≠ k) : entry (b.orInsert k now).2 now key = entry b now key := by
  rw [entry, entry, BacklogObserver.orInsert_of_ne h]

/-- An idle sample loses its entry, and the loop goes on. -/
theorem observeSamples_idle :
    b.observeSamples now grace ((k, false) :: rest)
      = (b.remove k).observeSamples now grace rest := rfl

/-- A ready sample gets an entry, and stops the loop if it is due. -/
theorem observeSamples_ready (hgrace : 0 < grace) :
    b.observeSamples now grace ((k, true) :: rest)
      = if due grace now (entry b now) (k, true) then (some k, (b.orInsert k now).2)
        else (b.orInsert k now).2.observeSamples now grace rest := by
  -- `saturating_duration_since` is zero for a moment to come, which is below any grace
  have hdue : due grace now (entry b now) (k, true) = true
      ↔ now - (b.orInsert k now).1 ≥ grace := by
    show decide ((b.readySince k).getD now + grace ≤ now) = true ↔ _
    rw [decide_eq_true_iff]
    show _ ↔ grace ≤ now - (b.readySince k).getD now
    omega
  simp only [hdue]
  rfl

/-- The loop returns the first sample that is due. -/
theorem observeSamples_fst (hgrace : 0 < grace) (hdistinct : (samples.map Prod.fst).Nodup) :
    (b.observeSamples now grace samples).1
      = (samples.find? (due grace now (entry b now))).map Prod.fst := by
  induction samples generalizing b with
  | nil => rfl
  | cons head rest ih =>
    obtain ⟨k, ready⟩ := head
    rw [List.map_cons, List.nodup_cons] at hdistinct
    obtain ⟨hnew, hrest⟩ := hdistinct
    cases ready with
    | false =>
      rw [observeSamples_idle, List.find?_cons_of_neg (by simp [due]), ih hrest]
      refine congrArg _ (List.find?_congr fun sample hmem => ?_)
      exact due_congr (entry_remove (ne_of_mem_rest hnew hmem).symm)
    | true =>
      rw [observeSamples_ready hgrace]
      cases hdue : due grace now (entry b now) (k, true) with
      | true =>
        rw [List.find?_cons_of_pos hdue]
        rfl
      | false =>
        rw [List.find?_cons_of_neg (by simp [hdue]), if_neg Bool.false_ne_true, ih hrest]
        refine congrArg _ (List.find?_congr fun sample hmem => ?_)
        exact due_congr (entry_orInsert (ne_of_mem_rest hnew hmem).symm)

/-- A descriptor without a sample keeps its entry. -/
theorem observeSamples_of_not_mem (hgrace : 0 < grace) (h : key ∉ samples.map Prod.fst) :
    (b.observeSamples now grace samples).2.readySince key = b.readySince key := by
  induction samples generalizing b with
  | nil => rfl
  | cons head rest ih =>
    obtain ⟨k, ready⟩ := head
    rw [List.map_cons, List.mem_cons, not_or] at h
    cases ready with
    | false => rw [observeSamples_idle, ih h.2, readySince_remove h.1]
    | true =>
      rw [observeSamples_ready hgrace]
      split_ifs
      · exact BacklogObserver.orInsert_of_ne h.1
      · rw [ih h.2, BacklogObserver.orInsert_of_ne h.1]

/-- Whether one of the samples is due depends on their own moments only. -/
theorem any_due_congr (h : ∀ sample ∈ samples, since sample.1 = since' sample.1) :
    samples.any (due grace now since) = samples.any (due grace now since') := by
  rw [Bool.eq_iff_iff, List.any_eq_true, List.any_eq_true]
  refine exists_congr fun sample => and_congr_right fun hmem => ?_
  rw [due_congr (h sample hmem)]

/-- The loop updates the entry of a sample if it gets as far. -/
theorem observeSamples_of_mem (hgrace : 0 < grace) (hdistinct : (samples.map Prod.fst).Nodup)
    (h : key ∈ samples.map Prod.fst) :
    (b.observeSamples now grace samples).2.readySince key
      = if (before key samples).any (due grace now (entry b now)) then b.readySince key
        else if (key, true) ∈ samples then entry b now key else none := by
  induction samples generalizing b with
  | nil => exact absurd h List.not_mem_nil
  | cons head rest ih =>
    obtain ⟨k, ready⟩ := head
    rw [List.map_cons, List.nodup_cons] at hdistinct
    obtain ⟨hnew, hrest⟩ := hdistinct
    have hfresh : ∀ sample ∈ before key rest, sample.1 ≠ k := fun sample hmem =>
      (ne_of_mem_rest hnew ((List.takeWhile_sublist _).subset hmem)).symm
    by_cases hk : k = key
    · -- no later sample is of this descriptor, so that its entry is settled here
      subst hk
      have hlone : (k, true) ∈ (k, ready) :: rest ↔ ready = true := by
        rw [List.mem_cons, Prod.mk.injEq]
        constructor
        · rintro (⟨-, hready⟩ | hmem)
          · exact hready.symm
          · exact absurd (List.mem_map_of_mem hmem) hnew
        · rintro rfl
          exact .inl ⟨rfl, rfl⟩
      rw [before_self, List.any_nil, if_neg Bool.false_ne_true]
      simp only [hlone]
      cases ready with
      | false =>
        rw [observeSamples_idle, observeSamples_of_not_mem hgrace hnew]
        exact Function.update_self _ _ _
      | true =>
        rw [observeSamples_ready hgrace, if_pos rfl]
        split_ifs
        · exact BacklogObserver.orInsert_self
        · rw [observeSamples_of_not_mem hgrace hnew]
          exact BacklogObserver.orInsert_self
    · -- the head decides only whether the loop gets to the rest
      have hmem : key ∈ rest.map Prod.fst := (List.mem_cons.mp h).resolve_left (Ne.symm hk)
      have htrue : (key, true) ∈ (k, ready) :: rest ↔ (key, true) ∈ rest := by
        rw [List.mem_cons, Prod.mk.injEq]
        exact or_iff_right fun heq => hk heq.1.symm
      rw [before_of_ne hk, List.any_cons]
      simp only [htrue]
      cases ready with
      | false =>
        have hany : (before key rest).any (due grace now (entry (b.remove k) now))
            = (before key rest).any (due grace now (entry b now)) :=
          any_due_congr fun sample hs => entry_remove (hfresh sample hs)
        rw [observeSamples_idle, ih hrest hmem, hany, readySince_remove (Ne.symm hk),
          entry_remove (Ne.symm hk)]
        rfl
      | true =>
        rw [observeSamples_ready hgrace]
        cases hdue : due grace now (entry b now) (k, true) with
        | true => exact BacklogObserver.orInsert_of_ne (Ne.symm hk)
        | false =>
          have hany : (before key rest).any (due grace now (entry (b.orInsert k now).2 now))
              = (before key rest).any (due grace now (entry b now)) :=
            any_due_congr fun sample hs => entry_orInsert (hfresh sample hs)
          rw [if_neg Bool.false_ne_true, ih hrest hmem, hany,
            BacklogObserver.orInsert_of_ne (Ne.symm hk), entry_orInsert (Ne.symm hk)]
          rfl

/-- `retain` keeps the entries of the samples. -/
theorem readySince_retain :
    (b.retain samples).readySince key
      = if key ∈ samples.map Prod.fst then b.readySince key else none := rfl

end Observe

/-! ## Whole sequences of calls -/

section Calls

variable {grace now : ℕ} {key : ConsumerKey} {samples : List (ConsumerKey × Bool)}
  {older calls : List Use}

/-- What holds of every `observe` call holds of the newest and of the older ones. -/
theorem forall_suffix_observe {P : ℕ → List (ConsumerKey × Bool) → List Use → Prop} :
    (∀ n s o, .observe n s :: o <:+ .observe now samples :: older → P n s o)
      ↔ P now samples older ∧ ∀ n s o, .observe n s :: o <:+ older → P n s o := by
  constructor
  · intro h
    refine ⟨h _ _ _ List.suffix_rfl, fun n s o ho => ?_⟩
    exact h n s o (List.suffix_cons_iff.mpr (.inr ho))
  · rintro ⟨hnew, holder⟩ n s o ho
    rcases List.suffix_cons_iff.mp ho with heq | ho
    · cases heq
      exact hnew
    · exact holder n s o ho

/-- A `clear` is no `observe` call. -/
theorem forall_suffix_clear {P : ℕ → List (ConsumerKey × Bool) → List Use → Prop} :
    (∀ n s o, .observe n s :: o <:+ .clear :: older → P n s o)
      ↔ ∀ n s o, .observe n s :: o <:+ older → P n s o := by
  refine forall₃_congr fun n s o => imp_congr_left ?_
  rw [List.suffix_cons_iff]
  exact or_iff_right (by simp)

/-- A call hides a descriptor behind a sample before it that is due. -/
theorem hides_observe (hmem : key ∈ samples.map Prod.fst) :
    hides grace key (.observe now samples) older
      = (before key samples).any
        (due grace now fun other => streakStart other (.observe now samples :: older)) := by
  rw [hides, decide_eq_true hmem, Bool.true_and]

/-- The older calls have distinct samples, too. -/
theorem Distinct.tail {call : Use} (h : Distinct (call :: older)) : Distinct older :=
  fun now samples hmem => h now samples (List.mem_cons_of_mem _ hmem)

/-- **What the observer keeps**, as long as it has returned what it should: the start of the
streak, but for the calls that hid the descriptor. -/
theorem readySince_after (hgrace : 0 < grace) (hdistinct : Distinct calls)
    (h : Follows grace calls) :
    (after grace calls).readySince key = streakStart key (visible grace key calls) := by
  induction calls with
  | nil => rfl
  | cons call older ih =>
    cases call with
    | clear => rfl
    | observe now samples =>
      obtain ⟨hnew, holder⟩ := forall_suffix_observe.mp h
      have ih := ih hdistinct.tail holder
      have hkeys := hdistinct now samples List.mem_cons_self
      show (((after grace older).retain samples).observeSamples now grace samples).2.readySince key
        = _
      by_cases hmem : key ∈ samples.map Prod.fst
      · -- the call stops where the streaks say, as it has returned what they say
        have hbefore := any_before_eq hkeys ((observeSamples_fst hgrace hkeys).symm.trans hnew) hmem
        rw [observeSamples_of_mem hgrace hkeys hmem, hbefore, ← hides_observe hmem, entry,
          readySince_retain, if_pos hmem, ih]
        cases hhides : hides grace key (.observe now samples) older with
        | true => rw [visible_of_hides hhides, if_pos rfl]
        | false =>
          rw [visible_of_not_hides hhides, streakStart_observe, if_neg Bool.false_ne_true]
      · -- `retain` forgets a descriptor without a sample, and so does its streak
        have hhides : hides grace key (.observe now samples) older = false := by
          rw [hides, decide_eq_false hmem, Bool.false_and]
        have hready : (key, true) ∉ samples := fun hready => hmem (List.mem_map_of_mem hready)
        rw [observeSamples_of_not_mem hgrace hmem, readySince_retain, if_neg hmem,
          visible_of_not_hides hhides, streakStart_observe, if_neg hready]

/-- One more call returns what it should just if no descriptor is disturbed in it. -/
theorem observe_eq_stalled_iff (hgrace : 0 < grace)
    (hdistinct : Distinct (.observe now samples :: older)) (h : Follows grace older) :
    ((after grace older).observe now samples grace).1 = stalled grace now samples older
      ↔ ∀ key, (key, true) ∈ samples → hides grace key (.observe now samples) older = false →
        waited grace now (streakStart key (visible grace key (.observe now samples :: older)))
          = waited grace now (streakStart key (.observe now samples :: older)) := by
  have hkeys := hdistinct now samples List.mem_cons_self
  rw [BacklogObserver.observe, observeSamples_fst hgrace hkeys, stalled, find?_eq_iff hkeys]
  have hentry : ∀ key, key ∈ samples.map Prod.fst →
      (key, true) ∈ samples → hides grace key (.observe now samples) older = false →
        entry ((after grace older).retain samples) now key
          = streakStart key (visible grace key (.observe now samples :: older)) := by
    intro key hmem hready hhides
    rw [visible_of_not_hides hhides, streakStart_observe, if_pos hready, entry, readySince_retain,
      if_pos hmem, readySince_after hgrace hdistinct.tail h]
  constructor
  · intro hall key hready hhides
    have hmem : key ∈ samples.map Prod.fst := List.mem_map_of_mem hready
    have hdue := hall (key, true) hready ((hides_observe hmem).symm.trans hhides)
    rw [← hentry key hmem hready hhides]
    exact hdue
  · rintro hall ⟨key, ready⟩ hsample hbefore
    have hmem : key ∈ samples.map Prod.fst := List.mem_map_of_mem hsample
    cases ready with
    | false => rfl
    | true =>
      have hhides := (hides_observe hmem).trans hbefore
      have hwaited := hall key hsample hhides
      rw [← hentry key hmem hsample hhides] at hwaited
      exact hwaited

/-- No call that hides a descriptor is one that finds it idle or starts its streak. -/
def Steady (grace : ℕ) (calls : List Use) : Prop :=
  ∀ now samples older, .observe now samples :: older <:+ calls → ∀ key,
    hides grace key (.observe now samples) older = true →
      (key, true) ∈ samples ∧ (streakStart key older).isSome = true

/-- Then the calls that hid a descriptor make no difference to the start of its streak. -/
theorem streakStart_visible (h : Steady grace calls) :
    streakStart key (visible grace key calls) = streakStart key calls := by
  induction calls with
  | nil => rfl
  | cons call older ih =>
    cases call with
    | clear => rfl
    | observe now samples =>
      obtain ⟨hnew, holder⟩ := forall_suffix_observe.mp h
      have ih := ih holder
      cases hhides : hides grace key (.observe now samples) older with
      | true =>
        obtain ⟨hready, hsome⟩ := hnew key hhides
        obtain ⟨since, hsince⟩ := Option.isSome_iff_exists.mp hsome
        rw [visible_of_hides hhides, ih, streakStart_observe, if_pos hready, hsince]
        rfl
      | false => rw [visible_of_not_hides hhides, streakStart_observe, streakStart_observe, ih]

/-- **Steady calls are followed.**  In particular the observer returns what it should whenever no
call that hides a descriptor finds it idle or starts its streak. -/
theorem follows_of_steady (hgrace : 0 < grace) (hdistinct : Distinct calls)
    (h : Steady grace calls) : Follows grace calls := by
  induction calls with
  | nil => exact fun _ _ _ hsuffix => absurd (List.suffix_nil.mp hsuffix) (by simp)
  | cons call older ih =>
    cases call with
    | clear => exact forall_suffix_clear.mpr (ih hdistinct.tail (forall_suffix_clear.mp h))
    | observe now samples =>
      have holder := ih hdistinct.tail (forall_suffix_observe.mp h).2
      refine forall_suffix_observe.mpr ⟨?_, holder⟩
      refine (observe_eq_stalled_iff hgrace hdistinct holder).mpr fun key _ _ => ?_
      rw [streakStart_visible h]

/-- **When the observer follows the streaks.**  Every `observe` call returns the first
descriptor that is ready and has been for the grace, just if the calls that hid a descriptor
behind another one make no difference to it. -/
theorem observer_follows_streaks_iff (grace : ℕ) (calls : List Use) (hgrace : 0 < grace)
    (hdistinct : Distinct calls) : Follows grace calls ↔ Undisturbed grace calls := by
  induction calls with
  | nil =>
    constructor
    · intro _ now samples older hsuffix
      exact absurd (List.suffix_nil.mp hsuffix) (by simp)
    · intro _ now samples older hsuffix
      exact absurd (List.suffix_nil.mp hsuffix) (by simp)
  | cons call older ih =>
    have ih := ih hdistinct.tail
    cases call with
    | clear =>
      unfold Follows Undisturbed at ih ⊢
      rw [forall_suffix_clear, forall_suffix_clear]
      exact ih
    | observe now samples =>
      unfold Follows Undisturbed at ih ⊢
      rw [forall_suffix_observe, forall_suffix_observe, ← ih]
      refine and_congr_left fun holder => ?_
      exact observe_eq_stalled_iff hgrace hdistinct holder

/-- Two descriptors of one process. -/
def touchpadFd : ConsumerKey := ⟨812, 30, "/dev/input/event7"⟩

def trackpointFd : ConsumerKey := ⟨812, 31, "/dev/input/event9"⟩

/-- Both descriptors go unread.  The first one is reported, and hides the second one, which is
reported when the first has been read. -/
def bothUnread : List Use :=
  [.observe 800 [(touchpadFd, false), (trackpointFd, true)],
    .observe 750 [(touchpadFd, true), (trackpointFd, true)],
    .observe 0 [(touchpadFd, true), (trackpointFd, true)]]

/-- The observer follows them here, and reports the second descriptor at 800 ms. -/
theorem observer_follows_streaks_iff_bothUnread :
    Follows 750 bothUnread
      ∧ stalled 750 800 [(touchpadFd, false), (trackpointFd, true)] (bothUnread.drop 1)
        = some trackpointFd := by
  have hdistinct : Distinct bothUnread := by
    intro now samples hmem
    simp only [bothUnread, List.mem_cons, Use.observe.injEq, List.not_mem_nil, or_false] at hmem
    rcases hmem with ⟨-, rfl⟩ | ⟨-, rfl⟩ | ⟨-, rfl⟩ <;> decide
  refine ⟨(observer_follows_streaks_iff 750 bothUnread (by decide) hdistinct).mpr ?_, by decide⟩
  unfold Undisturbed bothUnread
  rw [forall_suffix_observe, forall_suffix_observe, forall_suffix_observe]
  refine ⟨fun key hkey _ => ?_, fun key hkey _ => ?_, fun key hkey _ => ?_, fun _ _ _ h => ?_⟩
  · simp only [List.mem_cons, Prod.mk.injEq, List.not_mem_nil, or_false] at hkey
    rcases hkey with ⟨rfl, -⟩ | ⟨rfl, -⟩ <;> decide
  · simp only [List.mem_cons, Prod.mk.injEq, List.not_mem_nil, or_false] at hkey
    rcases hkey with ⟨rfl, -⟩ | ⟨rfl, -⟩ <;> decide
  · simp only [List.mem_cons, Prod.mk.injEq, List.not_mem_nil, or_false] at hkey
    rcases hkey with ⟨rfl, -⟩ | ⟨rfl, -⟩ <;> decide
  · exact absurd (List.suffix_nil.mp h) (by simp)

/-- The moments of the `observe` calls do not decrease. -/
def Ordered (calls : List Use) : Prop :=
  (calls.filterMap fun
    | .observe now _ => some now
    | .clear => none).Pairwise (· ≥ ·)

/-- The second descriptor is read at 750 ms, in the call that reports the first one, and is
reported as unread since the beginning 50 ms later. -/
def readBehindAnother : List Use :=
  [.observe 800 [(touchpadFd, false), (trackpointFd, true)],
    .observe 750 [(touchpadFd, true), (trackpointFd, false)],
    .observe 0 [(touchpadFd, true), (trackpointFd, true)]]

/-- The observer returns a descriptor that has been read 50 ms ago. -/
theorem read_behind_another : ¬ ∀ grace calls, 0 < grace → Ordered calls → Distinct calls →
    Follows grace calls := by
  intro h
  have hdistinct : Distinct readBehindAnother := by
    intro now samples hmem
    simp only [readBehindAnother, List.mem_cons, Use.observe.injEq, List.not_mem_nil, or_false]
      at hmem
    rcases hmem with ⟨-, rfl⟩ | ⟨-, rfl⟩ | ⟨-, rfl⟩ <;> decide
  have hordered : Ordered readBehindAnother := by
    unfold Ordered
    decide
  have hlast := h 750 readBehindAnother (by decide) hordered hdistinct 800
    [(touchpadFd, false), (trackpointFd, true)] (readBehindAnother.drop 1) List.suffix_rfl
  have hreported : ((after 750 (readBehindAnother.drop 1)).observe 800
      [(touchpadFd, false), (trackpointFd, true)] 750).1 = some trackpointFd := by
    decide
  have hnone : stalled 750 800 [(touchpadFd, false), (trackpointFd, true)]
      (readBehindAnother.drop 1) = none := by
    decide
  rw [hreported, hnone] at hlast
  cases hlast

end Calls

end BacklogStreak
