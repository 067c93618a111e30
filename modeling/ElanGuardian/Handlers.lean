/-
# Handlers: dialogues that serve dialogues

Support library: a `Handler I J` serves each call of the interface `I` by a dialogue of the
interface `J`, the way a driver serves its callers by talking to a bus.  `handle` runs a
program of `I` over it.

* `Implements`: every call is served as a world of `I` says, along a relation between the
  states of the two worlds.
* `Always.handle`: what holds of a program in the upper world holds of the served program in
  the lower one.
* `MayReturn`: what a program can be made to return.
* `retry`: a bounded loop around a call that may fail.
* `inProg`: a dialogue run as a stateful program.
-/
import ElanGuardian.Dialogue
import ElanGuardian.Prog

/-- Each call of `I` is served by a dialogue of `J`. -/
abbrev Handler (I J : Interface) : Type := (c : I.Call) → Dialogue J (I.Answer c)

namespace Dialogue

variable {I J : Interface} {α β γ ε σ τ : Type}

/-- The program with each of its calls served by `h`. -/
def handle (h : Handler I J) : Dialogue I α → Dialogue J α
  | done a => done a
  | ask c k => h c >>= fun a => handle h (k a)

section Handle

variable {h : Handler I J}

@[simp] theorem handle_done (a : α) : handle h (done a : Dialogue I α) = done a := rfl

@[simp] theorem handle_ask (c : I.Call) (k : I.Answer c → Dialogue I α) :
    handle h (ask c k) = h c >>= fun a => handle h (k a) := rfl

/-- The program with each of its calls served as `w` says: a call that meets `G` in the upper
world makes only calls that meet `G'` in the lower one, and ends with related states. -/
def Implements (w : World σ I) (v : World τ J) (R : σ → τ → Prop) (G : σ → I.Call → Prop)
    (G' : τ → J.Call → Prop) (h : Handler I J) : Prop :=
  ∀ s t c, R s t → G s c → Always v G' (fun a t' => ∃ s', w s c a s' ∧ R s' t') (h c) t

/-- **Simulation rule.**  A program that always behaves in the upper world always behaves in
the lower one when a handler that implements the upper one serves it. -/
theorem Always.handle {w : World σ I} {v : World τ J} {R : σ → τ → Prop}
    {G : σ → I.Call → Prop} {G' : τ → J.Call → Prop} {Q : α → σ → Prop} {p : Dialogue I α}
    {s : σ} {t : τ} (hh : Implements w v R G G' h) (hp : Always w G Q p s) (hR : R s t) :
    Always v G' (fun a t' => ∃ s', Q a s' ∧ R s' t') (handle h p) t := by
  induction p generalizing s t with
  | done a => exact ⟨s, hp, hR⟩
  | ask c k ih =>
    rw [handle_ask]
    refine (hh s t c hR hp.1).bind ?_
    rintro a t' ⟨s', hanswer, hR'⟩
    exact ih a (hp.2 a s' hanswer) hR'

end Handle

/-- The `?` operator in two steps or in one. -/
theorem orReturn_assoc {p : Dialogue I (Except ε α)} {f : α → Dialogue I (Except ε β)}
    {g : β → Dialogue I (Except ε γ)} :
    (p.orReturn f).orReturn g = p.orReturn fun a => (f a).orReturn g := by
  induction p with
  | done r => cases r <;> rfl
  | ask c k ih => exact congrArg (ask c) (funext ih)

/-- A program with `?` meets its calls' condition just if it does up to the first result, and from
then on. -/
theorem always_orReturn {w : World σ I} {G : σ → I.Call → Prop} {R : Except ε β → σ → Prop}
    {p : Dialogue I (Except ε α)} {f : α → Dialogue I (Except ε β)} {s : σ} :
    Always w G R (p.orReturn f) s
      ↔ Always w G (fun r t => match r with
        | .error e => R (.error e) t
        | .ok a => Always w G R (f a) t) p s := by
  have hpost (r : Except ε α) (t : σ) :
      Always w G R (match r with
        | .error e => pure (.error e)
        | .ok a => f a) t
      ↔ match r with
        | .error e => R (.error e) t
        | .ok a => Always w G R (f a) t := by
    cases r <;> exact Iff.rfl
  rw [Dialogue.orReturn, always_bind]
  exact ⟨fun h => h.mono (fun _ _ hc => hc) fun r t => (hpost r t).mp,
    fun h => h.mono (fun _ _ hc => hc) fun r t => (hpost r t).mpr⟩

/-- A program makes, through a handler, only the calls that its own calls are served by. -/
theorem Asks.handle {h : Handler I J} {P : I.Call → Prop} {P' : J.Call → Prop}
    {p : Dialogue I α} (hp : Asks P p) (hh : ∀ c, P c → Asks P' (h c)) :
    Asks P' (Dialogue.handle h p) := by
  induction p with
  | done a => exact trivial
  | ask c k ih => exact (hh c hp.1).bind fun a => ih a (hp.2 a)

/-- `done` is neutral at the end. -/
theorem bind_done (p : Dialogue I α) : (p >>= done) = p := by
  induction p with
  | done a => rfl
  | ask c k ih => exact congrArg (ask c) (funext ih)

/-- Sequences are associative. -/
theorem bind_assoc (p : Dialogue I α) (f : α → Dialogue I β) (g : β → Dialogue I γ) :
    (p >>= f) >>= g = p >>= fun a => f a >>= g := by
  induction p with
  | done a => rfl
  | ask c k ih => exact congrArg (ask c) (funext ih)

/-- A handler goes through a sequence. -/
theorem handle_bind {h : Handler I J} (p : Dialogue I α) (f : α → Dialogue I β) :
    handle h (p >>= f) = handle h p >>= fun a => handle h (f a) := by
  induction p with
  | done a => rfl
  | ask c k ih =>
    rw [ask_bind, handle_ask, handle_ask, bind_assoc]
    exact congrArg (h c >>= ·) (funext ih)

/-- And through `?`. -/
theorem handle_orReturn {h : Handler I J} (p : Dialogue I (Except ε α))
    (f : α → Dialogue I (Except ε β)) :
    handle h (p.orReturn f) = (handle h p).orReturn fun a => handle h (f a) := by
  rw [Dialogue.orReturn, handle_bind]
  refine congrArg (handle h p >>= ·) (funext fun r => ?_)
  cases r <;> rfl

@[simp] theorem handle_call {h : Handler I J} (c : I.Call) : handle h (call c) = h c :=
  bind_done (h c)

/-- What a program returns when the answers have `A`, it returns over a handler that answers
with `A`. -/
theorem Yields.handle {h : Handler I J} {A : (c : I.Call) → I.Answer c → Prop} {Q : α → Prop}
    {p : Dialogue I α} (hh : ∀ c, Yields (A c) (h c))
    (hp : Always (fun (_ : Unit) c a _ => A c a) (fun _ _ => True) (fun a _ => Q a) p ()) :
    Yields Q (Dialogue.handle h p) := by
  induction p with
  | done a => exact hp
  | ask c k ih => exact (hh c).bind fun a ha => ih a (hp.2 a () ha)

/-- A sequence returns such values just if the rest does after every value. -/
theorem yields_bind {R : β → Prop} {p : Dialogue I α} {f : α → Dialogue I β} :
    Yields R (p >>= f) ↔ Yields (fun a => Yields R (f a)) p := by
  induction p with
  | done a => exact Iff.rfl
  | ask c k ih => exact forall_congr' ih

/-- What is returned in any world is returned in this one. -/
theorem Yields.always {w : World σ I} {Q : α → Prop} {p : Dialogue I α} (h : Yields Q p)
    (s : σ) : Always w (fun _ _ => True) (fun a _ => Q a) p s := by
  induction p generalizing s with
  | done a => exact h
  | ask c k ih => exact ⟨trivial, fun a s' _ => ih a (h a) s'⟩

/-- Rule for `?`. -/
theorem Yields.orReturn {Q : Except ε α → Prop} {R : Except ε β → Prop}
    {p : Dialogue I (Except ε α)} {f : α → Dialogue I (Except ε β)} (h : Yields Q p)
    (herr : ∀ e, Q (.error e) → R (.error e)) (hok : ∀ a, Q (.ok a) → Yields R (f a)) :
    Yields R (p.orReturn f) := by
  refine h.bind fun r hr => ?_
  cases r with
  | error e => exact herr e hr
  | ok a => exact hok a hr

/-! ## What a program may return -/

/-- Some answers make the program return `a`. -/
inductive MayReturn : Dialogue I α → α → Prop
  | done (a : α) : MayReturn (done a) a
  | ask {c : I.Call} {k : I.Answer c → Dialogue I α} {a : α} (answer : I.Answer c)
      (h : MayReturn (k answer) a) : MayReturn (ask c k) a

section MayReturn

variable {p : Dialogue I α} {a : α} {b : β}

/-- A sequence may return what the rest may. -/
theorem MayReturn.bind {f : α → Dialogue I β} (hp : MayReturn p a) (hf : MayReturn (f a) b) :
    MayReturn (p >>= f) b := by
  induction hp with
  | done a => exact hf
  | ask answer _ ih => exact .ask answer (ih hf)

/-- What is returned whatever is answered has the property that is yielded. -/
theorem Yields.of_mayReturn {Q : α → Prop} (h : Yields Q p) (hp : MayReturn p a) : Q a := by
  induction hp with
  | done a => exact h
  | ask answer _ ih => exact ih (h answer)

/-- What comes after a success that may happen. -/
theorem Yields.of_orReturn {R : Except ε β → Prop} {p : Dialogue I (Except ε α)}
    {f : α → Dialogue I (Except ε β)} (h : Yields R (p.orReturn f))
    (hp : MayReturn p (.ok a)) : Yields R (f a) :=
  (yields_bind.mp h).of_mayReturn hp

end MayReturn

/-! ## Bounded retries -/

/-- `do { r = body } while (r failed && --repeat > 0)`: one attempt, then up to `extra`
more, stopping at the first that succeeds. -/
def retry (body : Dialogue I (Except ε α)) : ℕ → Dialogue I (Except ε α)
  | 0 => body
  | extra + 1 => do
    match ← body with
    | .ok a => pure (.ok a)
    | .error _ => retry body extra

/-- **Retry rule.**  An attempt that fails keeps what the next one needs. -/
theorem Always.retry {w : World σ I} {G : σ → I.Call → Prop} {K : σ → Prop}
    {Q : Except ε α → σ → Prop} {body : Dialogue I (Except ε α)}
    (hbody : ∀ s, K s → Always w G Q body s) (hfail : ∀ e s, Q (.error e) s → K s) (extra : ℕ)
    {s : σ} (hs : K s) : Always w G Q (retry body extra) s := by
  induction extra generalizing s with
  | zero => exact hbody s hs
  | succ extra ih =>
    refine (hbody s hs).bind fun r t hr => ?_
    cases r with
    | ok a => exact hr
    | error e => exact ih (hfail e t hr)

/-! ## What a composed program returns -/

/-- Equivalent conditions on the value. -/
theorem yields_congr {Q R : α → Prop} (h : ∀ a, Q a ↔ R a) {p : Dialogue I α} :
    Yields Q p ↔ Yields R p := by
  induction p with
  | done a => exact h a
  | ask c k ih => exact forall_congr' ih

/-! ## Dialogues as stateful programs -/

end Dialogue

namespace Prog

variable {σ ε α β γ : Type}

theorem pure_bind (a : α) (f : α → Prog σ ε β) : (pure a >>= f) = f a := rfl

/-- `pure` is neutral at the end. -/
theorem bind_pure (x : Prog σ ε α) : (x >>= pure) = x :=
  funext fun _ => congrArg (Outcome.mk _ _) (List.append_nil _)

theorem bind_assoc (x : Prog σ ε α) (f : α → Prog σ ε β) (g : β → Prog σ ε γ) :
    (x >>= f) >>= g = x >>= fun a => f a >>= g :=
  funext fun _ => congrArg (Outcome.mk _ _) (List.append_assoc _ _ _)

theorem run_get_bind (f : σ → Prog σ ε β) (s : σ) : run (get >>= f) s = run (f s) s := rfl

/-- What comes after a program matters only where the program ends. -/
theorem run_bind_congr {x : Prog σ ε α} {f g : α → Prog σ ε β} {s : σ}
    (h : run (f (run x s).value) (run x s).state = run (g (run x s).value) (run x s).state) :
    run (x >>= f) s = run (x >>= g) s := by
  show Outcome.mk _ _ _ = Outcome.mk _ _ _
  rw [h]

end Prog

namespace Dialogue

variable {I : Interface} {α β ε σ : Type}

/-- The program with each of its calls performed by `serve`. -/
def inProg (serve : (c : I.Call) → Prog σ ε (I.Answer c)) : Dialogue I α → Prog σ ε α
  | done a => pure a
  | ask c k => serve c >>= fun a => inProg serve (k a)

section InProg

variable {serve : (c : I.Call) → Prog σ ε (I.Answer c)}

/-- A sequence is run as a sequence. -/
theorem inProg_bind (p : Dialogue I α) (f : α → Dialogue I β) :
    inProg serve (p >>= f) = inProg serve p >>= fun a => inProg serve (f a) := by
  induction p with
  | done a => exact (Prog.pure_bind a fun a => inProg serve (f a)).symm
  | ask c k ih =>
    rw [inProg, Prog.bind_assoc]
    exact bind_congr fun a => ih a

theorem inProg_call (c : I.Call) : inProg serve (call c) = serve c := Prog.bind_pure _

end InProg

end Dialogue
