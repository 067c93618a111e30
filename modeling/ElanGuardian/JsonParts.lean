/-
# Lists and maps in JSON text

The parts of a list or of an object are read one after the other into a state
(`has_next_element` and `has_next_key` in `vendor/serde_json/src/de.rs`, and the loop of the
visitor around them).  What a part does to the state is a step, which may refuse it;
`visitParts_partsText` reads a text of some parts into what their steps make of the state, and
`exists_partsText` finds the parts in what has been read.

Lists and maps are two instances: a list appends its elements, a map inserts its entries.
-/
import Mathlib.Data.List.Pairwise
import ElanGuardian.JsonFormat

namespace Json

/-! ## The loop over the parts -/

/-- `has_next_element` and `has_next_key`, for a closing bracket and the characters that a
part may start with. -/
def hasNext (close : Char) (starts : Char → Bool) (first : Bool) (text : List Char) :
    Option (Bool × List Char) :=
  match parseWhitespace text with
  | [] => none
  | c :: rest =>
    if c = close then some (false, c :: rest)
    else if first then if starts c then some (true, c :: rest) else none
    else if c = ',' then
      match parseWhitespace rest with
      | [] => none
      | c :: rest => if c ≠ close ∧ starts c then some (true, c :: rest) else none
    else none

def hasNextElement : Bool → List Char → Option (Bool × List Char) := hasNext ']' fun _ => true

def hasNextKey : Bool → List Char → Option (Bool × List Char) := hasNext '}' fun c => c == '"'

/-- `end_seq` and `end_map`. -/
def endParts (close : Char) (text : List Char) : Option (List Char) :=
  match parseWhitespace text with
  | [] => none
  | c :: rest => if c = close then some rest else none

/-- The closing bracket is read. -/
theorem endParts_close {close : Char} (hclose : isWhitespace close = false) {blank : List Char}
    (hblank : Blank blank) (rest : List Char) :
    endParts close (blank ++ close :: rest) = some rest := by
  rw [endParts, parseWhitespace_blank hblank hclose]
  exact if_pos rfl

/-- Nothing but the closing bracket ends the parts. -/
theorem exists_of_endParts {close : Char} {text rest : List Char}
    (h : endParts close text = some rest) :
    ∃ blank, Blank blank ∧ text = blank ++ close :: rest := by
  obtain ⟨blank, hblank, htext⟩ := exists_blank text
  unfold endParts at h
  split at h
  · cases h
  · rename_i c behind hstart
    split_ifs at h with hclose
    cases h
    exact ⟨blank, hblank, by rw [htext, hstart, hclose]⟩

section Visit

variable {σ α : Type}

/-- The loop of a visitor, in at most `fuel` steps. -/
def visitParts (hasNext : Bool → List Char → Option (Bool × List Char))
    (part : σ → Reader σ) : ℕ → Bool → σ → Reader σ
  | 0, _, _, _ => none
  | fuel + 1, first, state, text => do
    let (more, text) ← hasNext first text
    if more then do
      let (state, text) ← part state text
      visitParts hasNext part fuel false state text
    else some (state, text)

/-- The parts and the closing bracket, behind the opening one; the length of the text bounds
the number of steps. -/
def visitBrackets (close : Char) (hasNext : Bool → List Char → Option (Bool × List Char))
    (part : σ → Reader σ) (state : σ) (text : List Char) : Option (σ × List Char) := do
  let (state, text) ← visitParts hasNext part (text.length + 1) true state text
  let text ← endParts close text
  some (state, text)

/-- The texts of some parts, one at least, with commas between them. -/
inductive PartsText (Text : α → List Char → Prop) : List α → List Char → Prop
  | last {a : α} {blank text blank' : List Char} :
    Blank blank → Text a text → Blank blank' → PartsText Text [a] (blank ++ (text ++ blank'))
  | more {a : α} {as : List α} {blank text blank' texts : List Char} :
    Blank blank → Text a text → Blank blank' → PartsText Text as texts →
    PartsText Text (a :: as) (blank ++ (text ++ (blank' ++ ',' :: texts)))

/-- The texts of some parts in brackets. -/
inductive BracketsText (frame close : Char) (Text : α → List Char → Prop) :
    List α → List Char → Prop
  | empty {blank : List Char} :
    Blank blank → BracketsText frame close Text [] (frame :: (blank ++ [close]))
  | parts {as : List α} {body : List Char} :
    PartsText Text as body → BracketsText frame close Text as (frame :: (body ++ [close]))

/-- No more parts than characters. -/
theorem PartsText.length_le {Text : α → List Char → Prop} {as : List α} {body : List Char}
    (h : PartsText Text as body) (hstart : ∀ {a text}, Text a text → text ≠ []) :
    as.length ≤ body.length := by
  induction h with
  | last _ htext _ =>
    have := List.length_pos_iff.mpr (hstart htext)
    simp only [List.length_append, List.length_singleton]
    omega
  | more _ htext _ _ ih =>
    have := List.length_pos_iff.mpr (hstart htext)
    simp only [List.length_append, List.length_cons]
    omega

/-- Blanks after the last part. -/
theorem PartsText.append_blank {Text : α → List Char → Prop} {as : List α}
    {body blank : List Char} (h : PartsText Text as body) (hblank : Blank blank) :
    PartsText Text as (body ++ blank) := by
  induction h with
  | last hblank₁ htext hblank₂ =>
    rw [List.append_assoc, List.append_assoc]
    exact .last hblank₁ htext (hblank₂.append hblank)
  | more hblank₁ htext hblank₂ _ ih =>
    rw [List.append_assoc, List.append_assoc, List.append_assoc, List.cons_append]
    exact .more hblank₁ htext hblank₂ ih

/-- The parts may be written by the values they come from. -/
theorem PartsText.map {β : Type} {Text : β → List Char → Prop} {g : α → β} {as : List α}
    {body : List Char} (h : PartsText (fun a => Text (g a)) as body) :
    PartsText Text (as.map g) body := by
  induction h with
  | last hblank htext hblank' => exact .last hblank htext hblank'
  | more hblank htext hblank' _ ih => exact .more hblank htext hblank' ih

/-- And so may the parts between brackets. -/
theorem BracketsText.map {β : Type} {frame close : Char} {Text : β → List Char → Prop}
    {g : α → β} {as : List α} {text : List Char}
    (h : BracketsText frame close (fun a => Text (g a)) as text) :
    BracketsText frame close Text (as.map g) text := by
  cases h with
  | empty hblank => exact .empty hblank
  | parts hbody => exact .parts hbody.map

section Parts

variable {close : Char} {starts : Char → Bool} {part : σ → Reader σ} {step : σ → α → Option σ}
  {Text : α → List Char → Prop}

/-- The closing bracket ends the loop. -/
theorem hasNext_close (hclose : isWhitespace close = false) {blank : List Char}
    (hblank : Blank blank) (first : Bool) (rest : List Char) :
    hasNext close starts first (blank ++ close :: rest) = some (false, close :: rest) := by
  simp only [hasNext, parseWhitespace_blank hblank hclose, if_true]

/-- In front of the first part there is nothing, in front of another one a comma. -/
inductive Separator : Bool → List Char → Prop
  | first : Separator true []
  | comma {blank : List Char} : Blank blank → Separator false (blank ++ [','])

/-- The loop finds the next part. -/
theorem hasNext_part {first : Bool} {separator blank : List Char} {c : Char}
    (hseparator : Separator first separator) (hblank : Blank blank) (hc : ValueStart c)
    (hne : c ≠ close) (hcomma : close ≠ ',') (hstart : starts c) (rest : List Char) :
    hasNext close starts first (separator ++ (blank ++ c :: rest)) = some (true, c :: rest) := by
  have hspace := parseWhitespace_blank hblank hc.1 rest
  cases hseparator with
  | first => simp only [List.nil_append, hasNext, hspace, if_neg hne, if_true, hstart]
  | comma hblank' =>
    have hspace' := parseWhitespace_blank hblank' (c := ',') (by decide) (blank ++ c :: rest)
    rw [List.append_assoc, List.singleton_append]
    simp [hasNext, hspace', hspace, hcomma.symm, hne, hstart]

/-- What has to hold of the parts of an object, or of a list: each is read as its step, and
nothing else is, and they start as the loop expects. -/
structure Parts (close : Char) (starts : Char → Bool) (part : σ → Reader σ)
    (step : σ → α → Option σ) (Text : α → List Char → Prop) : Prop where
  bracket : close = ']' ∨ close = '}'
  start : ∀ {a text}, Text a text → ∃ c rest, text = c :: rest ∧ ValueStart c ∧ starts c
  reads : ∀ {a text s s' rest}, Text a text → step s a = some s' → Stops rest →
    part s (text ++ rest) = some (s', rest)
  sound : ∀ {c text s s' rest}, starts c → part s (c :: text) = some (s', rest) →
    ∃ a blank body, step s a = some s' ∧ Blank blank ∧ Text a body ∧
      c :: text = blank ++ (body ++ rest)

/-- The closing bracket is neither whitespace nor a comma. -/
theorem Parts.close_not (h : Parts close starts part step Text) :
    isWhitespace close = false ∧ close ≠ ',' := by
  rcases h.bracket with h | h <;> subst h <;> decide

/-- A part stops at the closing bracket. -/
theorem Parts.stops (h : Parts close starts part step Text) {blank : List Char}
    (hblank : Blank blank) (rest : List Char) : Stops (blank ++ close :: rest) := by
  refine Stops.blank hblank ?_
  rcases h.bracket with h | h
  · exact .inr (.inr (.inl h))
  · exact .inr (.inr (.inr h))

/-- One part takes one step of the loop. -/
theorem Parts.visit_one (h : Parts close starts part step Text) {a : α} {s s' : σ}
    (hstep : step s a = some s') {first : Bool} {separator blank text rest : List Char}
    (hseparator : Separator first separator) (hblank : Blank blank) (htext : Text a text)
    (hrest : Stops rest) (fuel : ℕ) :
    visitParts (hasNext close starts) part (fuel + 1) first s
        (separator ++ (blank ++ (text ++ rest))) =
      visitParts (hasNext close starts) part fuel false s' rest := by
  obtain ⟨c, tail, rfl, hc, hstart⟩ := h.start htext
  have hne : c ≠ close := by
    rcases h.bracket with h | h <;> subst h
    · exact hc.2.2.1
    · exact hc.2.2.2
  have hnext := hasNext_part hseparator hblank hc hne h.close_not.2 hstart (tail ++ rest)
  have hread := h.reads htext hstep hrest
  rw [List.cons_append] at hread ⊢
  simp only [visitParts, hnext, Option.bind_eq_bind, Option.bind_some, if_true, hread]

/-- **A text of some parts is read as their steps.** -/
theorem Parts.visitParts_partsText (h : Parts close starts part step Text) {as : List α}
    {body : List Char} (hbody : PartsText Text as body) {s s' : σ}
    (hsteps : as.foldlM step s = some s') {first : Bool} {separator : List Char}
    (hseparator : Separator first separator) (fuel : ℕ) (hfuel : as.length < fuel)
    (rest : List Char) :
    visitParts (hasNext close starts) part fuel first s
      (separator ++ (body ++ close :: rest)) = some (s', close :: rest) := by
  induction hbody generalizing s first separator fuel with
  | @last a blank text blank' hblank htext hblank' =>
    obtain ⟨fuel, rfl⟩ : ∃ n, fuel = n + 2 := ⟨fuel - 2, by
      rw [List.length_singleton] at hfuel
      omega⟩
    have hstep : step s a = some s' := by
      rw [List.foldlM_cons, Option.bind_eq_bind, Option.bind_eq_some_iff] at hsteps
      obtain ⟨_, hstep, hnil⟩ := hsteps
      cases hnil
      exact hstep
    rw [List.append_assoc, List.append_assoc,
      h.visit_one hstep hseparator hblank htext (h.stops hblank' rest)]
    simp [visitParts, hasNext_close h.close_not.1 hblank']
  | @more a as blank text blank' texts hblank htext hblank' _ ih =>
    obtain ⟨fuel, rfl⟩ : ∃ n, fuel = n + 1 := ⟨fuel - 1, by omega⟩
    rw [List.foldlM_cons, Option.bind_eq_bind, Option.bind_eq_some_iff] at hsteps
    obtain ⟨s₁, hstep, hsteps⟩ := hsteps
    have hstops : Stops (blank' ++ ',' :: (texts ++ close :: rest)) :=
      Stops.blank hblank' (.inr (.inl rfl))
    rw [List.append_assoc, List.append_assoc, List.append_assoc, List.cons_append,
      h.visit_one hstep hseparator hblank htext hstops]
    have hrun := ih hsteps (.comma hblank') fuel (by rw [List.length_cons] at hfuel; omega)
    rwa [List.append_assoc, List.singleton_append] at hrun

/-- **A text of some parts in brackets is read as their steps.** -/
theorem Parts.visitBrackets_text (h : Parts close starts part step Text) {frame : Char}
    {as : List α} {text : List Char} (htext : BracketsText frame close Text as text) {s s' : σ}
    (hsteps : as.foldlM step s = some s') (rest : List Char) :
    ∃ body, text = frame :: body ∧
      visitBrackets close (hasNext close starts) part s (body ++ rest) = some (s', rest) := by
  have hend : endParts close (close :: rest) = some rest :=
    endParts_close h.close_not.1 Blank.nil rest
  cases htext with
  | empty hblank =>
    refine ⟨_, rfl, ?_⟩
    rw [List.foldlM_nil] at hsteps
    cases hsteps
    rw [List.append_assoc, List.singleton_append]
    simp [visitBrackets, visitParts, hasNext_close h.close_not.1 hblank, hend]
  | @parts as body hbody =>
    refine ⟨_, rfl, ?_⟩
    have hlength := hbody.length_le fun htext => by
      obtain ⟨c, tail, rfl, -⟩ := h.start htext
      exact List.cons_ne_nil _ _
    have hrun := h.visitParts_partsText hbody hsteps .first ((body ++ close :: rest).length + 1)
      (by rw [List.length_append]; omega) rest
    rw [List.nil_append] at hrun
    rw [List.append_assoc, List.singleton_append]
    simp only [visitBrackets, hrun, Option.bind_eq_bind, Option.bind_some, hend]

/-! ### Only texts of parts are read -/

/-- What the loop finds: the closing bracket, or a part behind what separates it. -/
theorem hasNext_cases {first more : Bool} {text rest : List Char}
    (h : hasNext close starts first text = some (more, rest)) :
    (more = false ∧ ∃ blank tail, Blank blank ∧ rest = close :: tail ∧ text = blank ++ rest) ∨
      (more = true ∧ ∃ separator blank c tail, Separator first separator ∧ Blank blank ∧
        starts c ∧ rest = c :: tail ∧ text = separator ++ (blank ++ rest)) := by
  obtain ⟨blank, hblank, htext⟩ := exists_blank text
  unfold hasNext at h
  cases hspace : parseWhitespace text with
  | nil =>
    rw [hspace] at h
    cases h
  | cons c tail =>
    rw [hspace] at h htext
    dsimp only at h
    split_ifs at h with hclose hfirst hstart hcomma
    · cases h
      exact .inl ⟨rfl, blank, tail, hblank, by rw [hclose], htext⟩
    · cases h
      subst hfirst
      exact .inr ⟨rfl, [], blank, c, tail, .first, hblank, hstart, rfl, htext⟩
    · obtain ⟨blank', hblank', htail⟩ := exists_blank tail
      cases hspace' : parseWhitespace tail with
      | nil =>
        rw [hspace'] at h
        cases h
      | cons c' tail' =>
        rw [hspace'] at h htail
        dsimp only at h
        split_ifs at h with hstart
        cases h
        have hfalse : first = false := by simpa using hfirst
        subst hfalse
        refine .inr ⟨rfl, blank ++ [','], blank', c', tail', .comma hblank, hblank', hstart.2,
          rfl, ?_⟩
        rw [htext, hcomma, htail, List.append_assoc, List.singleton_append]

/-- The texts in front of the closing bracket: nothing but whitespace, or parts. -/
def Remaining (Text : α → List Char → Prop) (first : Bool) (as : List α)
    (text rest : List Char) : Prop :=
  (as = [] ∧ ∃ blank, Blank blank ∧ text = blank ++ rest) ∨
    ∃ separator body, Separator first separator ∧ PartsText Text as body ∧
      text = separator ++ (body ++ rest)

/-- A part in front of what remains. -/
theorem Remaining.cons {first : Bool} {a : α} {as : List α}
    {separator blank body behind rest : List Char} (h : Remaining Text false as behind rest)
    (hseparator : Separator first separator) (hblank : Blank blank) (hbody : Text a body) :
    Remaining Text first (a :: as) (separator ++ (blank ++ (body ++ behind))) rest := by
  right
  rcases h with ⟨rfl, blank', hblank', rfl⟩ | ⟨_, body', hcomma, hbody', rfl⟩
  · exact ⟨separator, _, hseparator, .last hblank hbody hblank', by simp⟩
  · cases hcomma with
    | comma hblank' =>
      exact ⟨separator, _, hseparator, .more hblank hbody hblank' hbody', by simp⟩

/-- What remains behind an opening bracket, in front of the closing one. -/
theorem Remaining.bracketsText {frame : Char} {as : List α} {text blank rest : List Char}
    (h : Remaining Text true as text (blank ++ close :: rest)) (hblank : Blank blank) :
    ∃ body, BracketsText frame close Text as (frame :: body) ∧ text = body ++ rest := by
  rcases h with ⟨rfl, blank', hblank', rfl⟩ | ⟨_, body, ⟨⟩, hbody, rfl⟩
  · exact ⟨(blank' ++ blank) ++ [close], .empty (hblank'.append hblank), by simp⟩
  · exact ⟨(body ++ blank) ++ [close], .parts (hbody.append_blank hblank), by simp⟩

/-- **What the loop reads is a text of parts**, and their steps make the state. -/
theorem Parts.exists_partsText (h : Parts close starts part step Text) {fuel : ℕ} {first : Bool}
    {s s' : σ} {text rest : List Char}
    (hrun : visitParts (hasNext close starts) part fuel first s text = some (s', rest)) :
    ∃ as, as.foldlM step s = some s' ∧ Remaining Text first as text rest := by
  induction fuel generalizing first s text with
  | zero => cases hrun
  | succ fuel ih =>
    rw [visitParts, Option.bind_eq_bind, Option.bind_eq_some_iff] at hrun
    obtain ⟨⟨more, behind⟩, hnext, hrun⟩ := hrun
    dsimp only at hrun
    rcases hasNext_cases hnext with ⟨rfl, blank, tail, hblank, rfl, htext⟩ |
      ⟨rfl, separator, blank, c, tail, hseparator, hblank, hstart, rfl, htext⟩
    · cases hrun
      exact ⟨[], rfl, .inl ⟨rfl, blank, hblank, htext⟩⟩
    · rw [if_pos rfl, Option.bind_eq_bind, Option.bind_eq_some_iff] at hrun
      obtain ⟨⟨s₁, behind⟩, hpart, hrun⟩ := hrun
      obtain ⟨a, blank', body, hstep, hblank', hbody, hc⟩ := h.sound hstart hpart
      obtain ⟨as, hsteps, hremaining⟩ := ih hrun
      have hfold : (a :: as).foldlM step s = some s' := by
        rw [List.foldlM_cons, hstep]
        exact hsteps
      refine ⟨a :: as, hfold, ?_⟩
      rw [htext, hc, ← List.append_assoc blank]
      exact hremaining.cons hseparator (hblank.append hblank') hbody

/-- **What is read between brackets is a text of parts.** -/
theorem Parts.exists_bracketsText (h : Parts close starts part step Text) (frame : Char)
    {s s' : σ} {text rest : List Char}
    (hrun : visitBrackets close (hasNext close starts) part s text = some (s', rest)) :
    ∃ as body, as.foldlM step s = some s' ∧ BracketsText frame close Text as (frame :: body) ∧
      text = body ++ rest := by
  rw [visitBrackets, Option.bind_eq_bind, Option.bind_eq_some_iff] at hrun
  obtain ⟨⟨s₁, behind⟩, hparts, hrun⟩ := hrun
  dsimp only at hrun
  rw [Option.bind_eq_bind, Option.bind_eq_some_iff] at hrun
  obtain ⟨behind', hend, hrun⟩ := hrun
  cases hrun
  obtain ⟨as, hsteps, hremaining⟩ := h.exists_partsText hparts
  obtain ⟨blank, hblank, rfl⟩ := exists_of_endParts hend
  obtain ⟨body, hbody, htext⟩ := hremaining.bracketsText hblank
  exact ⟨as, body, hsteps, hbody, htext⟩

end Parts

end Visit

/-! ## What the writer makes of parts -/

section Write

variable {α : Type} {item : Writer α} {Text : α → List Char → Prop}

/-- The blanks of the pretty printer. -/
theorem blank_replicate (n : ℕ) : Blank (List.replicate n ' ') := by
  intro c hc
  rw [List.eq_of_mem_replicate hc]
  rfl

/-- The separator in front of a part. -/
def separator (first : Bool) : List Char := if first then [] else [',']

/-- One part, with a line break and blanks in front of it. -/
theorem serializePart_writes (hitem : ∀ a f, ∃ text, Text a text ∧ Writes (item a) f text)
    (a : α) (first : Bool) (f : Formatter) :
    ∃ blank text, Blank blank ∧ Text a text ∧
      Writes (fun f => (item a (f.beginPart first)).endPart) f
        (separator first ++ (blank ++ text)) := by
  obtain ⟨text, htext, hout, hindent⟩ := hitem a (f.beginPart first)
  refine ⟨'\n' :: List.replicate (2 * f.currentIndent) ' ', text,
    Blank.cons (by decide) (blank_replicate _), htext, ?_, hindent⟩
  show (item a (f.beginPart first)).out = _
  rw [hout]
  cases first <;> simp [Formatter.beginPart, Formatter.indent, Formatter.write, separator]

/-- The parts inside a bracket. -/
theorem serializeParts_writes (hitem : ∀ a f, ∃ text, Text a text ∧ Writes (item a) f text)
    (a : α) (as : List α) (first : Bool) (f : Formatter) :
    ∃ body, PartsText Text (a :: as) body ∧
      Writes (serializeParts item first (a :: as)) f (separator first ++ body) ∧
      (serializeParts item first (a :: as) f).hasValue = true := by
  induction as generalizing a first f with
  | nil =>
    obtain ⟨blank, text, hblank, htext, hpart⟩ := serializePart_writes hitem a first f
    refine ⟨blank ++ (text ++ []), .last hblank htext Blank.nil, ?_, rfl⟩
    rw [List.append_nil]
    exact hpart
  | cons a' as ih =>
    obtain ⟨blank, text, hblank, htext, hout, hindent⟩ := serializePart_writes hitem a first f
    obtain ⟨body, hbody, ⟨hout', hindent'⟩, hvalue⟩ :=
      ih a' false (item a (f.beginPart first)).endPart
    refine ⟨blank ++ (text ++ ([] ++ ',' :: body)), .more hblank htext Blank.nil hbody,
      ⟨?_, hindent'.trans hindent⟩, hvalue⟩
    show (serializeParts item false (a' :: as) (item a (f.beginPart first)).endPart).out = _
    rw [hout', hout]
    simp [separator]

/-- **The writer writes a text of the parts in brackets.** -/
theorem serializeBrackets_writes (hitem : ∀ a f, ∃ text, Text a text ∧ Writes (item a) f text)
    (frame close : Char) (as : List α) (f : Formatter) :
    ∃ text, BracketsText frame close Text as text ∧
      Writes (serializeBrackets frame close item as) f text := by
  cases as with
  | nil =>
    refine ⟨frame :: ([] ++ [close]), .empty Blank.nil, ?_, ?_⟩
    · simp [serializeBrackets, serializeParts, Formatter.beginParts, Formatter.endParts,
        Formatter.write]
    · exact Nat.add_sub_cancel _ _
  | cons a as =>
    obtain ⟨body, hbody, ⟨hout, hindent⟩, hvalue⟩ :=
      serializeParts_writes hitem a as true (f.beginParts frame)
    have hspace : Blank ('\n' :: List.replicate (2 * f.currentIndent) ' ') :=
      Blank.cons (by decide) (blank_replicate _)
    have hlevel : (serializeParts item true (a :: as) (f.beginParts frame)).currentIndent - 1 =
        f.currentIndent := by
      rw [hindent]
      exact Nat.add_sub_cancel _ _
    refine ⟨_, .parts (hbody.append_blank hspace), ?_, ?_⟩
    · simp only [serializeBrackets, Formatter.endParts, hvalue, if_true, Formatter.write,
        Formatter.indent, hout, hlevel]
      simp [separator, Formatter.beginParts, Formatter.write]
    · simp only [serializeBrackets, Formatter.endParts, hvalue, if_true, Formatter.write,
        Formatter.indent, hlevel]

end Write

/-! ## Lists -/

section List

variable {α : Type}

/-- `deserialize_seq`, for the visitor of a list. -/
def deserializeSeq (read : Reader α) (text : List Char) : Option (List α × List Char) :=
  match parseWhitespace text with
  | '[' :: text =>
    visitBrackets ']' hasNextElement
      (fun items text => (read text).map fun (item, rest) => (items ++ [item], rest)) [] text
  | _ => none

/-- `Vec`. -/
def Format.seq (F : Format α) : Format (List α) where
  deserialize := deserializeSeq F.deserialize
  serialize := serializeBrackets '[' ']' F.serialize
  Text := BracketsText '[' ']' F.Text

/-- A list is collected element by element. -/
theorem foldlM_append (done items : List α) :
    items.foldlM (fun items item => some (items ++ [item])) done = some (done ++ items) := by
  induction items generalizing done with
  | nil => rw [List.append_nil]; rfl
  | cons item items ih =>
    rw [List.foldlM_cons, Option.bind_eq_bind, Option.bind_some, ih, List.append_assoc,
      List.singleton_append]

/-- What stands in brackets starts as values do. -/
theorem BracketsText.starts {frame close : Char} {Text : α → List Char → Prop}
    (hframe : ValueStart frame) {as : List α} {text : List Char}
    (h : BracketsText frame close Text as text) :
    ∃ c rest, text = c :: rest ∧ ValueStart c := by
  cases h with
  | empty _ => exact ⟨_, _, rfl, hframe⟩
  | parts _ => exact ⟨_, _, rfl, hframe⟩

/-- An element is read and appended. -/
theorem Format.Lawful.parts_seq {F : Format α} (h : F.Lawful) :
    Parts ']' (fun _ => true)
      (fun items text => (F.deserialize text).map fun (item, rest) => (items ++ [item], rest))
      (fun items item => some (items ++ [item])) F.Text where
  bracket := .inl rfl
  start := by
    intro item text htext
    obtain ⟨c, tail, htail, hc⟩ := h.starts htext
    exact ⟨c, tail, htail, hc, rfl⟩
  reads := by
    intro item text items items' rest htext hstep hrest
    cases hstep
    have hread := h.reads htext Blank.nil hrest
    rw [List.nil_append] at hread
    rw [hread]
    rfl
  sound := by
    intro c text items items' rest _ hread
    obtain ⟨⟨item, behind⟩, hitem, heq⟩ := Option.map_eq_some_iff.mp hread
    cases heq
    obtain ⟨blank, body, hblank, hbody, htext⟩ := h.sound hitem
    exact ⟨item, blank, body, rfl, hblank, hbody, htext⟩

/-- The format of a list is lawful if the format of its elements is. -/
theorem Format.seq_lawful {F : Format α} (h : F.Lawful) : F.seq.Lawful where
  starts htext := htext.starts (by decide)
  reads := by
    intro items text blank rest htext hblank _
    have hsteps := foldlM_append [] items
    rw [List.nil_append] at hsteps
    obtain ⟨body, rfl, hread⟩ := h.parts_seq.visitBrackets_text htext hsteps rest
    simp only [Format.seq, deserializeSeq]
    rw [List.cons_append, parseWhitespace_blank hblank (by decide)]
    exact hread
  sound := by
    intro items text rest hread
    obtain ⟨blank, hblank, htext⟩ := exists_blank text
    simp only [Format.seq, deserializeSeq] at hread
    split at hread
    · rename_i hstart
      obtain ⟨items', body, hsteps, hbody, hbehind⟩ := h.parts_seq.exists_bracketsText '[' hread
      rw [foldlM_append, List.nil_append] at hsteps
      obtain rfl := Option.some.inj hsteps
      exact ⟨blank, _, hblank, hbody, by rw [htext, hstart, hbehind]; rfl⟩
    · cases hread
  writes items f := serializeBrackets_writes h.writes '[' ']' items f

end List

/-! ## Maps -/

/-- `parse_object_colon`. -/
def parseObjectColon (text : List Char) : Option (List Char) :=
  match parseWhitespace text with
  | ':' :: text => some text
  | _ => none

/-- The key of an entry, from its quote on. -/
def deserializeKey : Reader String
  | [] => none
  | _ :: text => parseStr (text.length + 1) [] text

/-- A key, a colon and the text of a value. -/
def EntryText (key : String) (Value : List Char → Prop) (text : List Char) : Prop :=
  ∃ name blank blank' value, StringText key name ∧ Blank blank ∧ Blank blank' ∧ Value value ∧
    text = name ++ (blank ++ ':' :: (blank' ++ value))

section Entry

variable {key : String} {Value : List Char → Prop} {text : List Char}

/-- An entry starts with the quote of its key. -/
theorem EntryText.starts (h : EntryText key Value text) :
    ∃ c rest, text = c :: rest ∧ ValueStart c ∧ (c == '"') = true := by
  obtain ⟨name, blank, blank', value, ⟨body, -, rfl⟩, -, -, -, rfl⟩ := h
  exact ⟨'"', _, List.cons_append, by decide, rfl⟩

/-- An entry is read as its key, the colon and its value. -/
theorem EntryText.reads (h : EntryText key Value text) (rest : List Char) :
    ∃ behind blank value, Blank blank ∧ Value value ∧
      deserializeKey (text ++ rest) = some (key, behind) ∧
      parseObjectColon behind = some (blank ++ (value ++ rest)) := by
  obtain ⟨name, blank, blank', value, hname, hblank, hblank', hvalue, rfl⟩ := h
  obtain ⟨body, rfl, hparse⟩ := hname.parse (blank ++ ':' :: (blank' ++ (value ++ rest)))
  refine ⟨blank ++ ':' :: (blank' ++ (value ++ rest)), blank', value, hblank', hvalue, ?_, ?_⟩
  · simp only [List.cons_append, List.append_assoc, deserializeKey]
    exact hparse _ (by simp only [List.length_append]; omega)
  · simp only [parseObjectColon,
      parseWhitespace_blank hblank (by decide : isWhitespace ':' = false)]

/-- What is read as a key, a colon and a value is an entry. -/
theorem exists_entryText {text behind rest : List Char} {blank value : List Char}
    (hkey : deserializeKey ('"' :: text) = some (key, behind))
    (hcolon : parseObjectColon behind = some (blank ++ (value ++ rest))) (hblank : Blank blank)
    (hvalue : Value value) :
    ∃ body, EntryText key Value body ∧ '"' :: text = body ++ rest := by
  obtain ⟨name, hname, rfl⟩ := exists_stringText hkey
  obtain ⟨blank', hblank', hspace⟩ := exists_blank behind
  unfold parseObjectColon at hcolon
  split at hcolon
  · rename_i hstart
    cases hcolon
    refine ⟨_, ⟨_, blank', blank, value, hname, hblank', hblank, hvalue, rfl⟩, ?_⟩
    rw [hspace, hstart]
    simp
  · cases hcolon

/-- The printer writes an entry. -/
theorem serializeEntry_writes {value : Formatter → Formatter} (key : String)
    (hvalue : ∀ f, ∃ text, Value text ∧ Writes value f text) (f : Formatter) :
    ∃ text, EntryText key Value text ∧ Writes (serializeEntry key value) f text := by
  obtain ⟨text, htext, hout, hindent⟩ :=
    hvalue ((f.write (formatEscapedStr key)).write [':', ' '])
  refine ⟨formatEscapedStr key ++ ([] ++ ':' :: ([' '] ++ text)),
    ⟨_, _, _, _, stringText_formatEscapedStr key, Blank.nil, Blank.cons (by decide) Blank.nil,
      htext, rfl⟩, ?_, hindent⟩
  rw [serializeEntry, hout]
  simp [Formatter.write]

end Entry

section Map

variable {σ β : Type}

/-- A turn of the visitor of a map. -/
def visitInsert (read : Reader β) (insert : String → β → σ → σ) (map : σ) : Reader σ :=
  fun text => do
    let (key, text) ← deserializeKey text
    let text ← parseObjectColon text
    let (value, text) ← read text
    some (insert key value map, text)

/-- `deserialize_map`, for a visitor that inserts the entries one after the other. -/
def deserializeMap (read : Reader β) (insert : String → β → σ → σ) (empty : σ)
    (text : List Char) : Option (σ × List Char) :=
  match parseWhitespace text with
  | '{' :: text => visitBrackets '}' hasNextKey (visitInsert read insert) empty text
  | _ => none

/-- The entries inserted into the empty map. -/
def insertAll (insert : String → β → σ → σ) (empty : σ) (entries : List (String × β)) : σ :=
  entries.foldl (fun map entry => insert entry.1 entry.2 map) empty

/-- A map with the insertion of an entry and the list of the entries.  Its texts have any
entries that make the map. -/
def Format.map (F : Format β) (insert : String → β → σ → σ) (empty : σ)
    (entries : σ → List (String × β)) : Format σ where
  deserialize := deserializeMap F.deserialize insert empty
  serialize map := serializeBrackets '{' '}'
    (fun entry => serializeEntry entry.1 (F.serialize entry.2)) (entries map)
  Text map text := ∃ entries, insertAll insert empty entries = map ∧
    BracketsText '{' '}' (fun entry => EntryText entry.1 (F.Text entry.2)) entries text

/-- A fold that cannot fail. -/
theorem foldlM_some (insert : σ → α → σ) (map : σ) (entries : List α) :
    entries.foldlM (fun map entry => some (insert map entry)) map =
      some (entries.foldl insert map) := by
  induction entries generalizing map with
  | nil => rfl
  | cons entry entries ih => rw [List.foldlM_cons, Option.bind_eq_bind, Option.bind_some, ih]; rfl

/-- An entry is read and inserted. -/
theorem Format.Lawful.parts_map {F : Format β} (h : F.Lawful) (insert : String → β → σ → σ) :
    Parts '}' (fun c => c == '"') (visitInsert F.deserialize insert)
      (fun map entry => some (insert entry.1 entry.2 map))
      (fun (entry : String × β) => EntryText entry.1 (F.Text entry.2)) where
  bracket := .inr rfl
  start htext := EntryText.starts htext
  reads := by
    intro entry text map map' rest htext hstep hrest
    cases hstep
    obtain ⟨behind, blank, value, hblank, hvalue, hkey, hcolon⟩ := htext.reads rest
    simp only [visitInsert, hkey, hcolon, h.reads hvalue hblank hrest, Option.bind_eq_bind,
      Option.bind_some]
  sound := by
    intro c text map map' rest hstart hread
    rw [beq_iff_eq] at hstart
    subst hstart
    simp only [visitInsert, Option.bind_eq_bind, Option.bind_eq_some_iff] at hread
    obtain ⟨⟨key, behind⟩, hkey, behind', hcolon, ⟨value, behind''⟩, hvalue, heq⟩ := hread
    cases heq
    obtain ⟨blank, body, hblank, hbody, rfl⟩ := h.sound hvalue
    obtain ⟨entry, hentry, htext⟩ := exists_entryText hkey hcolon hblank hbody
    exact ⟨(key, value), [], entry, rfl, Blank.nil, hentry, htext⟩

/-- The format of a map is lawful if the format of its values is and the map is what inserting its
entries gives. -/
theorem Format.map_lawful {F : Format β} (h : F.Lawful) {insert : String → β → σ → σ} {empty : σ}
    {entries : σ → List (String × β)}
    (hentries : ∀ map, insertAll insert empty (entries map) = map) :
    (F.map insert empty entries).Lawful where
  starts := by
    rintro map text ⟨entries, -, htext⟩
    exact htext.starts (by decide)
  reads := by
    rintro map text blank rest ⟨entries, rfl, htext⟩ hblank -
    have hsteps := foldlM_some (fun map (entry : String × β) => insert entry.1 entry.2 map) empty
      entries
    obtain ⟨body, rfl, hread⟩ := (h.parts_map insert).visitBrackets_text htext hsteps rest
    simp only [Format.map, deserializeMap]
    rw [List.cons_append, parseWhitespace_blank hblank (by decide)]
    exact hread
  sound := by
    intro map text rest hread
    obtain ⟨blank, hblank, htext⟩ := exists_blank text
    simp only [Format.map, deserializeMap] at hread
    split at hread
    · rename_i hstart
      obtain ⟨entries', body, hsteps, hbody, hbehind⟩ :=
        (h.parts_map insert).exists_bracketsText '{' hread
      rw [foldlM_some] at hsteps
      exact ⟨blank, _, hblank, ⟨entries', Option.some.inj hsteps, hbody⟩,
        by rw [htext, hstart, hbehind]; rfl⟩
    · cases hread
  writes map f := by
    obtain ⟨text, htext, hwrites⟩ := serializeBrackets_writes
      (fun (entry : String × β) => serializeEntry_writes entry.1 (h.writes entry.2))
      '{' '}' (entries map) f
    exact ⟨text, ⟨entries map, hentries map, htext⟩, hwrites⟩

end Map

end Json
