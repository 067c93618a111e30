/-
# Transcripts of dialogues

Support library: what has been said in a dialogue, exchange by exchange.  Where nothing is known
of an environment but its answers, a claim about it is a claim about the transcript: what has
been asked, and what was answered.

* `transcript`: the world that answers anything; its state is what has been said, the newest
  exchange first.
* `Since breaks stages`: the stages have come one after the other, with nothing that `breaks`
  the sequence after the first of them.
-/
import ElanGuardian.Dialogue

namespace Dialogue

variable {I : Interface}

/-- A call, and what answered it. -/
abbrev Exchange (I : Interface) : Type := (c : I.Call) × I.Answer c

/-- What has been said, the newest exchange first. -/
abbrev Transcript (I : Interface) : Type := List (Exchange I)

/-- Any answer may come, and everything is written down. -/
def transcript : World (Transcript I) I := fun said c answer said' => said' = ⟨c, answer⟩ :: said

/-- One call, whatever is answered. -/
theorem always_call {G : Transcript I → I.Call → Prop} {c : I.Call}
    {Q : I.Answer c → Transcript I → Prop} {said : Transcript I} (hc : G said c)
    (h : ∀ answer, Q answer (⟨c, answer⟩ :: said)) : Always transcript G Q (call c) said := by
  refine ⟨hc, ?_⟩
  rintro answer _ rfl
  exact h answer

/-- A loop that runs in some world has a transcript. -/
theorem Loops.exists_transcript {σ τ : Type} {w : World σ I} {body : τ → Dialogue I τ} {m₀ : τ}
    {s₀ s : σ} {p : Dialogue I τ} (h : Loops w body m₀ s₀ p s) :
    ∃ said, Loops transcript body m₀ [] p said := by
  induction h with
  | start => exact ⟨[], .start⟩
  | @answer c k a _ _ _ _ ih =>
    obtain ⟨said, h⟩ := ih
    exact ⟨⟨c, a⟩ :: said, h.answer rfl⟩
  | again _ ih =>
    obtain ⟨said, h⟩ := ih
    exact ⟨said, h.again⟩

/-! ## Sequences of exchanges -/

section Since

variable {ε : Type} {breaks stage stage' : ε → Prop} {stages : List (ε → Prop)} {e : ε}
  {said : List ε}

/-- The stages have come in this order, both lists with the newest first, and nothing that
`breaks` the sequence has come in between or since. -/
def Since (breaks : ε → Prop) : List (ε → Prop) → List ε → Prop
  | [], _ => True
  | stage :: stages, said => ∃ recent e earlier, said = recent ++ e :: earlier
    ∧ (∀ x ∈ recent, ¬ breaks x) ∧ stage e ∧ Since breaks stages earlier

/-- The next stage has come. -/
theorem Since.push (h : Since breaks stages said) (he : stage e) :
    Since breaks (stage :: stages) (e :: said) :=
  ⟨[], e, said, rfl, fun _ hx => absurd hx List.not_mem_nil, he, h⟩

/-- Something else has come that breaks nothing. -/
theorem Since.later (h : Since breaks stages said) (he : ¬ breaks e) :
    Since breaks stages (e :: said) := by
  cases stages with
  | nil => exact trivial
  | cons stage stages =>
    obtain ⟨recent, first, earlier, rfl, hrecent, hfirst, hearlier⟩ := h
    refine ⟨e :: recent, first, earlier, rfl, fun x hx => ?_, hfirst, hearlier⟩
    rcases List.mem_cons.mp hx with rfl | hx
    · exact he
    · exact hrecent x hx

/-- Only the last stage may be left out, when it breaks nothing itself. -/
theorem Since.tail (h : Since breaks (stage :: stages) said) (hstage : ∀ e, stage e → ¬ breaks e) :
    Since breaks stages said := by
  obtain ⟨recent, e, earlier, rfl, hrecent, he, hearlier⟩ := h
  have hmiddle : Since breaks stages (e :: earlier) := hearlier.later (hstage e he)
  induction recent with
  | nil => exact hmiddle
  | cons x recent ih =>
    exact (ih fun y hy => hrecent y (List.mem_cons_of_mem _ hy)).later
      (hrecent x List.mem_cons_self)

/-- The last stage may be taken for a weaker one. -/
theorem Since.imp (h : Since breaks (stage :: stages) said) (himp : ∀ e, stage e → stage' e) :
    Since breaks (stage' :: stages) said := by
  obtain ⟨recent, e, earlier, hsaid, hrecent, he, hearlier⟩ := h
  exact ⟨recent, e, earlier, hsaid, hrecent, himp e he, hearlier⟩

end Since

end Dialogue
