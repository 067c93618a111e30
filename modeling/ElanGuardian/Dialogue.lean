/-
# Programs in dialogue with their environment

Support library: a program that talks to an operating system is the tree of its calls.
`Dialogue I α` either returns or makes a call of the interface `I` and goes on with the
answer, whatever it is.  The program says nothing about the environment: a `World` is a
relation that says which answers a call may get and what the world is like afterwards, and
one program can be judged in several worlds.

* `Plays`: what a program may have done so far.
* `Always G Q`: whatever the world answers, every call meets `G` when it is made and the
  program ends with `Q`.  One rule per way to build a program.
* `Asks P`: the program makes only calls of one kind, in any world.
* `Yields Q`: what it returns, in any world.
* `Loops`: the points that `loop { m = body(m) }` can reach, and the loop rule.
* `talk`: the dialogue with an environment that is a function, to be evaluated.
-/
import Mathlib.Data.List.Basic

/-- The calls of an environment, and what answers each of them. -/
structure Interface where
  Call : Type
  Answer : Call → Type

/-- A program that returns an `α` after some calls of `I`. -/
inductive Dialogue (I : Interface) (α : Type) : Type
  | done (a : α)
  | ask (c : I.Call) (k : I.Answer c → Dialogue I α)

namespace Dialogue

variable {I : Interface} {α β γ ε σ τ : Type}

/-- Go on with `f` once the program has returned. -/
def andThen : Dialogue I α → (α → Dialogue I β) → Dialogue I β
  | done a, f => f a
  | ask c k, f => ask c fun a => andThen (k a) f

instance : Monad (Dialogue I) where
  pure := done
  bind := andThen

/-- The call that the program is about to make. -/
def next : Dialogue I α → Option I.Call
  | done _ => none
  | ask c _ => some c

/-- Make one call and return its answer. -/
def call (c : I.Call) : Dialogue I (I.Answer c) := ask c done

/-- The `?` operator: the error of the first program is returned at once. -/
def orReturn (p : Dialogue I (Except ε α)) (f : α → Dialogue I (Except ε β)) :
    Dialogue I (Except ε β) := do
  match ← p with
  | .error e => pure (.error e)
  | .ok a => f a

@[simp] theorem done_bind (a : α) (f : α → Dialogue I β) : (done a >>= f) = f a := rfl

@[simp] theorem pure_bind (a : α) (f : α → Dialogue I β) : (pure a >>= f) = f a := rfl

@[simp] theorem ask_bind (c : I.Call) (k : I.Answer c → Dialogue I α) (f : α → Dialogue I β) :
    (ask c k >>= f) = ask c fun a => k a >>= f := rfl

@[simp] theorem call_bind (c : I.Call) (f : I.Answer c → Dialogue I β) :
    (call c >>= f) = ask c f := rfl

/-! ## Worlds and plays -/

/-- Which answers a call may get, and what the world is like afterwards. -/
abbrev World (σ : Type) (I : Interface) : Type := σ → (c : I.Call) → I.Answer c → σ → Prop

/-- `Plays w p s p' s'`: some calls later, what is left of `p` is `p'` and the world is
`s'`. -/
inductive Plays (w : World σ I) : Dialogue I α → σ → Dialogue I α → σ → Prop
  | refl (p : Dialogue I α) (s : σ) : Plays w p s p s
  | ask {c : I.Call} {k : I.Answer c → Dialogue I α} {a : I.Answer c} {s t s' : σ}
      {p' : Dialogue I α} (hanswer : w s c a t) (hrest : Plays w (k a) t p' s') :
      Plays w (ask c k) s p' s'

variable {w : World σ I}

/-- A play goes on from where another one has come. -/
theorem Plays.trans {p q r : Dialogue I α} {s t u : σ} (h : Plays w p s q t)
    (h' : Plays w q t r u) : Plays w p s r u := by
  induction h with
  | refl => exact h'
  | ask hanswer _ ih => exact .ask hanswer (ih h')

/-- The first program of a sequence plays within it. -/
theorem Plays.bind {p q : Dialogue I α} {s t : σ} (h : Plays w p s q t)
    (f : α → Dialogue I β) : Plays w (p >>= f) s (q >>= f) t := by
  induction h with
  | refl => exact .refl _ _
  | ask hanswer _ ih => exact .ask hanswer ih

/-- A play, seen through a view of the world. -/
theorem Plays.map {v : World τ I} (view : σ → τ)
    (hv : ∀ s c a s', w s c a s' → v (view s) c a (view s')) {p q : Dialogue I α} {s t : σ}
    (h : Plays w p s q t) : Plays v p (view s) q (view t) := by
  induction h with
  | refl => exact .refl _ _
  | ask hanswer _ ih => exact .ask (hv _ _ _ _ hanswer) ih

/-! ## What holds of every play -/

/-- Every call meets `G` in the world in which it is made, and the program ends with `Q`. -/
def Always (w : World σ I) (G : σ → I.Call → Prop) (Q : α → σ → Prop) :
    Dialogue I α → σ → Prop
  | done a, s => Q a s
  | ask c k, s => G s c ∧ ∀ a s', w s c a s' → Always w G Q (k a) s'

section Always

variable {G G' : σ → I.Call → Prop} {Q Q' : α → σ → Prop} {R : β → σ → Prop}
  {p : Dialogue I α} {f : α → Dialogue I β} {s : σ}

@[simp] theorem always_done {a : α} : Always w G Q (done a) s ↔ Q a s := Iff.rfl

@[simp] theorem always_pure {a : α} : Always w G Q (pure a) s ↔ Q a s := Iff.rfl

theorem always_ask {c : I.Call} {k : I.Answer c → Dialogue I α} :
    Always w G Q (ask c k) s ↔ G s c ∧ ∀ a s', w s c a s' → Always w G Q (k a) s' := Iff.rfl

/-- A sequence meets its calls' condition just if both programs do. -/
theorem always_bind : Always w G R (p >>= f) s ↔ Always w G (fun a => Always w G R (f a)) p s := by
  induction p generalizing s with
  | done a => exact Iff.rfl
  | ask c k ih =>
    rw [ask_bind, always_ask, always_ask]
    apply and_congr_right
    intro _
    exact forall_congr' fun a => forall_congr' fun s' => imp_congr_right fun _ => ih a

/-- Rule of consequence. -/
theorem Always.mono (h : Always w G Q p s) (hG : ∀ s c, G s c → G' s c)
    (hQ : ∀ a s, Q a s → Q' a s) : Always w G' Q' p s := by
  induction p generalizing s with
  | done a => exact hQ a s h
  | ask c k ih => exact ⟨hG s c h.1, fun a s' hw => ih a (h.2 a s' hw)⟩

/-- Rule for a sequence. -/
theorem Always.bind (h : Always w G Q p s) (hf : ∀ a t, Q a t → Always w G R (f a) t) :
    Always w G R (p >>= f) s :=
  always_bind.mpr (h.mono (fun _ _ hg => hg) hf)

/-- What holds of every play holds of the rest of one. -/
theorem Always.plays {q : Dialogue I α} {t : σ} (h : Always w G Q p s) (hp : Plays w p s q t) :
    Always w G Q q t := by
  induction hp with
  | refl => exact h
  | ask hanswer _ ih => exact ih (h.2 _ _ hanswer)

/-- Rule for `?`: an error ends the program. -/
theorem Always.orReturn {p : Dialogue I (Except ε α)} {f : α → Dialogue I (Except ε β)}
    {Q : Except ε α → σ → Prop} {R : Except ε β → σ → Prop} (h : Always w G Q p s)
    (herr : ∀ e t, Q (.error e) t → R (.error e) t)
    (hok : ∀ a t, Q (.ok a) t → Always w G R (f a) t) : Always w G R (p.orReturn f) s := by
  refine h.bind fun r t hr => ?_
  cases r with
  | error e => exact herr e t hr
  | ok a => exact hok a t hr

end Always

/-! ## The kinds of calls a program makes -/

/-- Every call of the program meets `P`, whatever is answered. -/
def Asks (P : I.Call → Prop) : Dialogue I α → Prop
  | done _ => True
  | ask c k => P c ∧ ∀ a, Asks P (k a)

section Asks

variable {P : I.Call → Prop} {p : Dialogue I α} {f : α → Dialogue I β}

/-- One call. -/
theorem asks_call {c : I.Call} (h : P c) : Asks P (call c : Dialogue I (I.Answer c)) :=
  ⟨h, fun _ => trivial⟩

/-- A sequence makes the calls of both programs. -/
theorem Asks.bind (h : Asks P p) (hf : ∀ a, Asks P (f a)) : Asks P (p >>= f) := by
  induction p with
  | done a => exact hf a
  | ask c k ih => exact ⟨h.1, fun a => ih a (h.2 a)⟩

/-- And so does a program that returns early. -/
theorem Asks.orReturn {p : Dialogue I (Except ε α)} {f : α → Dialogue I (Except ε β)}
    (h : Asks P p) (hf : ∀ a, Asks P (f a)) : Asks P (p.orReturn f) := by
  refine h.bind fun r => ?_
  cases r with
  | error e => exact trivial
  | ok a => exact hf a

/-- What the calls of one kind keep, a program that makes no others keeps. -/
theorem Always.of_asks {G : σ → I.Call → Prop} {J : σ → Prop} {s : σ} (hp : Asks P p) (hs : J s)
    (hG : ∀ s c, J s → P c → G s c)
    (hJ : ∀ s c a s', J s → P c → w s c a s' → J s') :
    Always w G (fun _ => J) p s := by
  induction p generalizing s with
  | done a => exact hs
  | ask c k ih =>
    refine ⟨hG s c hs hp.1, fun a s' hw => ?_⟩
    exact ih a (hp.2 a) (hJ s c a s' hs hp.1 hw)

end Asks

/-- A program of `I`, run where each of its calls is a call of another interface. -/
def lift {J : Interface} (f : I.Call → J.Call) (answer : ∀ c, J.Answer (f c) → I.Answer c) :
    Dialogue I α → Dialogue J α
  | done a => done a
  | ask c k => ask (f c) fun a => lift f answer (k (answer c a))

/-- A lifted program makes lifted calls. -/
theorem asks_lift {J : Interface} {P : J.Call → Prop} {f : I.Call → J.Call}
    {answer : ∀ c, J.Answer (f c) → I.Answer c} (h : ∀ c, P (f c)) (p : Dialogue I α) :
    Asks P (lift f answer p) := by
  induction p with
  | done a => exact trivial
  | ask c k ih => exact ⟨h c, fun a => ih (answer c a)⟩

/-! ## What a program returns -/

/-- Whatever is answered, the program returns a value with `Q`. -/
def Yields (Q : α → Prop) : Dialogue I α → Prop
  | done a => Q a
  | ask _ k => ∀ a, Yields Q (k a)

/-- Every program returns something, if it returns. -/
theorem yields_true (p : Dialogue I α) : Yields (fun _ => True) p := by
  induction p with
  | done a => exact trivial
  | ask c k ih => exact ih

/-- Rule for a sequence. -/
theorem Yields.bind {Q : α → Prop} {R : β → Prop} {p : Dialogue I α} {f : α → Dialogue I β}
    (h : Yields Q p) (hf : ∀ a, Q a → Yields R (f a)) : Yields R (p >>= f) := by
  induction p with
  | done a => exact hf a h
  | ask c k ih => exact fun a => ih a (h a)

/-- What a program returns in any world, it also returns in this one. -/
theorem Always.and_yields {G : σ → I.Call → Prop} {J : α → σ → Prop} {Q : α → Prop}
    {p : Dialogue I α} {s : σ} (h : Always w G J p s) (hp : Yields Q p) :
    Always w G (fun a s => J a s ∧ Q a) p s := by
  induction p generalizing s with
  | done a => exact ⟨h, hp⟩
  | ask c k ih => exact ⟨h.1, fun a s' hw => ih a (h.2 a s' hw) (hp a)⟩

/-! ## Loops -/

/-- The points that `loop { m = body(m) }` can reach from the value `m₀` and the world `s₀`:
the rest of the current round, and the world. -/
inductive Loops (w : World σ I) (body : τ → Dialogue I τ) (m₀ : τ) (s₀ : σ) :
    Dialogue I τ → σ → Prop
  | start : Loops w body m₀ s₀ (body m₀) s₀
  | answer {c : I.Call} {k : I.Answer c → Dialogue I τ} {a : I.Answer c} {s s' : σ}
      (h : Loops w body m₀ s₀ (ask c k) s) (hanswer : w s c a s') :
      Loops w body m₀ s₀ (k a) s'
  | again {m : τ} {s : σ} (h : Loops w body m₀ s₀ (done m) s) : Loops w body m₀ s₀ (body m) s

/-- **Loop rule.**  A round that starts with the invariant makes only calls that meet `G`
and ends with the invariant; then so does every round that can be reached. -/
theorem Loops.always {body : τ → Dialogue I τ} {m₀ : τ} {s₀ : σ} {G : σ → I.Call → Prop}
    {J : τ → σ → Prop} (h₀ : J m₀ s₀) (hbody : ∀ m s, J m s → Always w G J (body m) s)
    {p : Dialogue I τ} {s : σ} (h : Loops w body m₀ s₀ p s) : Always w G J p s := by
  induction h with
  | start => exact hbody m₀ s₀ h₀
  | answer _ hanswer ih => exact ih.2 _ _ hanswer
  | again _ ih => exact hbody _ _ ih

/-- A round plays on. -/
theorem Loops.plays {body : τ → Dialogue I τ} {m₀ : τ} {s₀ : σ} {p q : Dialogue I τ} {s t : σ}
    (h : Loops w body m₀ s₀ p s) (hp : Plays w p s q t) : Loops w body m₀ s₀ q t := by
  induction hp with
  | refl => exact h
  | ask hanswer _ ih => exact ih (h.answer hanswer)

/-- What every call keeps may be assumed of the world that answers: if from the worlds in which
`J` holds every answer of `w` is one of `v` and leads to such a world again, then a run in `w`
is one in `v`. -/
theorem Loops.of_invariant {body : τ → Dialogue I τ} {m₀ : τ} {s₀ : σ} {v : World σ I}
    {J : σ → Prop} (h₀ : J s₀) (hw : ∀ s c a s', J s → w s c a s' → v s c a s' ∧ J s')
    {p : Dialogue I τ} {s : σ} (h : Loops w body m₀ s₀ p s) : Loops v body m₀ s₀ p s ∧ J s := by
  induction h with
  | start => exact ⟨.start, h₀⟩
  | answer _ hanswer ih =>
    obtain ⟨hrun, hs⟩ := ih
    obtain ⟨hallowed, hs'⟩ := hw _ _ _ _ hs hanswer
    exact ⟨hrun.answer hallowed, hs'⟩
  | again _ ih => exact ⟨ih.1.again, ih.2⟩

/-! ## Environments that are functions -/

/-- The dialogue with an environment that answers by `reply`. -/
def talk (reply : σ → (c : I.Call) → I.Answer c × σ) : Dialogue I α → σ → α × σ
  | done a, s => (a, s)
  | ask c k, s => talk reply (k (reply s c).1) (reply s c).2

/-- The dialogue up to a call at which to stop. -/
def talkUntil (stop : I.Call → Bool) (reply : σ → (c : I.Call) → I.Answer c × σ) :
    Dialogue I α → σ → Dialogue I α × σ
  | done a, s => (done a, s)
  | ask c k, s =>
    if stop c then (ask c k, s)
    else talkUntil stop reply (k (reply s c).1) (reply s c).2

/-- Some rounds of `loop { m = body(m) }`. -/
def talkRounds (reply : σ → (c : I.Call) → I.Answer c × σ) (body : τ → Dialogue I τ) :
    ℕ → τ × σ → τ × σ
  | 0, x => x
  | n + 1, x => talkRounds reply body n (talk reply (body x.1) x.2)

section Talk

variable {reply : σ → (c : I.Call) → I.Answer c × σ}

/-- The second program goes on where the first one ends. -/
@[simp] theorem talk_bind (p : Dialogue I α) (f : α → Dialogue I β) (s : σ) :
    talk reply (p >>= f) s = talk reply (f (talk reply p s).1) (talk reply p s).2 := by
  induction p generalizing s with
  | done a => rfl
  | ask c k ih => exact ih _ _

/-- A dialogue with an environment whose answers the world allows is a play. -/
theorem plays_talk (h : ∀ s c, w s c (reply s c).1 (reply s c).2) (p : Dialogue I α) (s : σ) :
    Plays w p s (done (talk reply p s).1) (talk reply p s).2 := by
  induction p generalizing s with
  | done a => exact .refl _ _
  | ask c k ih => exact .ask (h s c) (ih _ _)

/-- The dialogue up to a call is a play, if the world allows the replies. -/
theorem plays_talkUntil (h : ∀ s c, w s c (reply s c).1 (reply s c).2) (stop : I.Call → Bool)
    (p : Dialogue I α) (s : σ) :
    Plays w p s (talkUntil stop reply p s).1 (talkUntil stop reply p s).2 := by
  induction p generalizing s with
  | done a => exact .refl _ _
  | ask c k ih =>
    unfold talkUntil
    split_ifs
    · exact .refl _ _
    · exact .ask (h s c) (ih _ _)

/-- One round more. -/
theorem talkRounds_succ (body : τ → Dialogue I τ) (n : ℕ) (x : τ × σ) :
    talkRounds reply body (n + 1) x
      = talk reply (body (talkRounds reply body n x).1) (talkRounds reply body n x).2 := by
  induction n generalizing x with
  | zero => rfl
  | succ n ih => exact ih _

/-- Rounds held with such an environment are rounds of the loop. -/
theorem loops_talkRounds {body : τ → Dialogue I τ} {m₀ : τ} {s₀ : σ}
    (h : ∀ s c, w s c (reply s c).1 (reply s c).2) (n : ℕ) {x : τ × σ}
    (hx : Loops w body m₀ s₀ (body x.1) x.2) :
    Loops w body m₀ s₀ (body (talkRounds reply body n x).1) (talkRounds reply body n x).2 := by
  induction n generalizing x with
  | zero => exact hx
  | succ n ih => exact ih (hx.plays (plays_talk h _ _)).again

/-- Some rounds, and a part of the next one. -/
def talkInto (stop : I.Call → Bool) (reply : σ → (c : I.Call) → I.Answer c × σ)
    (body : τ → Dialogue I τ) (n : ℕ) (x : τ × σ) : Dialogue I τ × σ :=
  talkUntil stop reply (body (talkRounds reply body n x).1) (talkRounds reply body n x).2

/-- Some rounds and a part of the next one are reached by the loop. -/
theorem loops_talkInto {body : τ → Dialogue I τ} {m₀ : τ} {s₀ : σ}
    (h : ∀ s c, w s c (reply s c).1 (reply s c).2) (stop : I.Call → Bool) (n : ℕ) :
    Loops w body m₀ s₀ (talkInto stop reply body n (m₀, s₀)).1
      (talkInto stop reply body n (m₀, s₀)).2 :=
  (loops_talkRounds (x := (m₀, s₀)) h n .start).plays (plays_talkUntil h stop _ _)

/-- The end of one more round. -/
theorem loops_talk {body : τ → Dialogue I τ} {m₀ : τ} {s₀ : σ}
    (h : ∀ s c, w s c (reply s c).1 (reply s c).2) (n : ℕ) :
    Loops w body m₀ s₀ (done (talkRounds reply body (n + 1) (m₀, s₀)).1)
      (talkRounds reply body (n + 1) (m₀, s₀)).2 := by
  rw [talkRounds_succ]
  exact (loops_talkRounds (x := (m₀, s₀)) h n .start).plays (plays_talk h _ _)

end Talk

end Dialogue
