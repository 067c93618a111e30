/-
# Structs in JSON text

The derived reader of a struct (`deserialize_struct` in `vendor/serde_json/src/de.rs`, with the
visitor that `vendor/serde_derive` generates) takes the fields from an object, where they stand
in any order and others are ignored, or from a list, where they stand in the order of their
declaration.

`Format.struct_lawful`: with lawful formats of the fields, every such text is read as the struct,
and no other text is read.
-/
import Mathlib.Data.List.Nodup
import Mathlib.Logic.Function.Basic
import ElanGuardian.JsonParts

namespace Json

/-- The fields of a struct: their names, types and formats, and what a missing one stands for. -/
structure Schema (ι : Type) where
  name : ι → String
  type : ι → Type
  format : (i : ι) → Format (type i)
  /-- `missing_field`. -/
  missing : (i : ι) → Option (type i)
  /-- The order of the declaration. -/
  order : List ι
  complete : ∀ i, i ∈ order
  nodup : (order.map name).Nodup

namespace Schema

variable {ι : Type} (S : Schema ι)

/-- The values of all fields. -/
abbrev Fields : Type := (i : ι) → S.type i

/-- The values read so far. -/
abbrev State : Type := (i : ι) → Option (S.type i)

/-! ## The derived reader -/

/-- `__Field`: the field of a name. -/
def fieldOf (key : String) : Option ι := S.order.find? fun i => S.name i == key

/-- The field found under a key is called so. -/
theorem name_of_fieldOf {key : String} {i : ι} (h : S.fieldOf key = some i) : S.name i = key := by
  simpa using List.find?_some h

/-- A field is found under its name. -/
theorem fieldOf_name (i : ι) : S.fieldOf (S.name i) = some i := by
  have hmem : ∃ j ∈ S.order, (S.name j == S.name i) = true :=
    ⟨i, S.complete i, beq_self_eq_true _⟩
  cases hfind : S.order.find? fun j => S.name j == S.name i with
  | none => exact absurd hfind (by simpa [List.find?_eq_none] using hmem)
  | some j =>
    have hj : S.name j = S.name i := by simpa using List.find?_some hfind
    have hji : j = i := List.inj_on_of_nodup_map S.nodup (S.complete j) (S.complete i) hj
    rw [fieldOf, hfind, hji]

/-- A field with its value, or with what stands for it when it is missing. -/
def value (state : S.State) (i : ι) : Option (S.type i) := (state i).or (S.missing i)

/-- The end of the visitor: every field needs a value. -/
def finish (state : S.State) : Option S.Fields :=
  if h : ∀ i ∈ S.order, (S.value state i).isSome then
    some fun i => (S.value state i).get (h i (S.complete i))
  else none

/-- If every field has its value, the struct is finished with these values. -/
theorem finish_of_value {S : Schema ι} {state : S.State} {fields : S.Fields}
    (h : ∀ i, S.value state i = some (fields i)) : S.finish state = some fields := by
  have hsome : ∀ i ∈ S.order, (S.value state i).isSome := fun i _ => by
    rw [h i]
    rfl
  rw [finish, dif_pos hsome]
  refine congrArg some (funext fun i => ?_)
  simp only [h, Option.get_some]

/-- A finished struct has the value of every field. -/
theorem value_of_finish {S : Schema ι} {state : S.State} {fields : S.Fields}
    (h : S.finish state = some fields) (i : ι) : S.value state i = some (fields i) := by
  unfold finish at h
  split_ifs at h with hsome
  cases h
  exact (Option.some_get _).symm

/-- A value that has been read is the value of its field. -/
theorem eq_of_finish {S : Schema ι} {state : S.State} {fields : S.Fields}
    (h : S.finish state = some fields) {i : ι} {value : S.type i} (hi : state i = some value) :
    value = fields i := by
  have hvalue := value_of_finish h i
  rw [Schema.value, hi, Option.some_or] at hvalue
  exact Option.some.inj hvalue

variable [DecidableEq ι]

/-- A turn of `visit_map`: no field stands twice, and what is no field is ignored. -/
def visitEntry (state : S.State) (text : List Char) : Option (S.State × List Char) := do
  let (key, text) ← deserializeKey text
  match S.fieldOf key with
  | some i =>
    if (state i).isSome then none
    else do
      let text ← parseObjectColon text
      let (value, text) ← (S.format i).deserialize text
      some (Function.update state i (some value), text)
  | none => do
    let text ← parseObjectColon text
    let text ← deserializeIgnoredAny text
    some (state, text)

/-- `visit_seq`: all fields, in the order of their declaration. -/
def visitSeq : List ι → Bool → S.State → Reader S.State
  | [], _, state, text => some (state, text)
  | i :: rest, first, state, text => do
    let (more, text) ← hasNextElement first text
    if more then do
      let (value, text) ← (S.format i).deserialize text
      visitSeq rest false (Function.update state i (some value)) text
    else none

/-- The list or the object of a struct. -/
def visitStruct : Reader S.State
  | '[' :: text => do
    let (state, text) ← S.visitSeq S.order true (fun _ => none) text
    let text ← endParts ']' text
    some (state, text)
  | '{' :: text => visitBrackets '}' hasNextKey S.visitEntry (fun _ => none) text
  | _ => none

/-- `deserialize_struct`. -/
def deserializeStruct (text : List Char) : Option (S.Fields × List Char) := do
  let (state, text) ← S.visitStruct (parseWhitespace text)
  let fields ← S.finish state
  some (fields, text)

/-! ## The texts of a struct -/

/-- An entry of an object: a field with its value, or an entry that is no field. -/
inductive Entry
  | field (i : ι) (value : S.type i)
  | unknown (key : String)

/-- The text of an entry. -/
def PartText : S.Entry → List Char → Prop
  | .field i value => EntryText (S.name i) ((S.format i).Text value)
  | .unknown key => fun text => S.fieldOf key = none ∧ EntryText key (Ignored none) text

/-- The fields among some entries. -/
def indices (entries : List S.Entry) : List ι :=
  entries.filterMap fun
    | .field i _ => some i
    | .unknown _ => none

/-- The entries hold the values: each field stands once at most, and has its value, and one that
is not there stands for its value. -/
structure Holds (entries : List S.Entry) (fields : S.Fields) : Prop where
  nodup : (S.indices entries).Nodup
  value : ∀ i value, Entry.field i value ∈ entries → value = fields i
  missing : ∀ i, i ∉ S.indices entries → S.missing i = some (fields i)

/-- The texts of a struct. -/
inductive Text (fields : S.Fields) : List Char → Prop
  | object {entries : List S.Entry} {text : List Char} :
    S.Holds entries fields → BracketsText '{' '}' S.PartText entries text → Text fields text
  | list {text : List Char} :
    BracketsText '[' ']' (fun i => (S.format i).Text (fields i)) S.order text →
    Text fields text

/-! ## The fields of an object -/

/-- What an entry does to the values read so far. -/
def step (state : S.State) : S.Entry → Option S.State
  | .field i value =>
    if (state i).isSome then none else some (Function.update state i (some value))
  | .unknown _ => some state

/-- The values of the fields in a list, and the state for the others. -/
def filled (state : S.State) (fields : S.Fields) (is : List ι) : S.State :=
  fun i => if i ∈ is then some (fields i) else state i

variable {S}

/-- Filling one field and then the others. -/
theorem filled_cons (state : S.State) (fields : S.Fields) (i : ι) (is : List ι) :
    S.filled (Function.update state i (some (fields i))) fields is =
      S.filled state fields (i :: is) := by
  funext j
  by_cases hj : j = i
  · subst hj
    simp [filled]
  · simp [filled, hj]

/-- Entries that hold the values, and none of which has been read, are taken. -/
theorem foldlM_step {fields : S.Fields} {entries : List S.Entry} {state : S.State}
    (hnodup : (S.indices entries).Nodup)
    (hvalue : ∀ i value, Entry.field i value ∈ entries → value = fields i)
    (hnew : ∀ i ∈ S.indices entries, state i = none) :
    entries.foldlM S.step state = some (S.filled state fields (S.indices entries)) := by
  induction entries generalizing state with
  | nil =>
    rw [List.foldlM_nil]
    exact congrArg some (funext fun i => (if_neg (List.not_mem_nil)).symm)
  | cons entry entries ih =>
    have hrest : ∀ i value, Entry.field i value ∈ entries → value = fields i :=
      fun i value h => hvalue i value (List.mem_cons_of_mem _ h)
    rw [List.foldlM_cons, Option.bind_eq_bind]
    cases entry with
    | field i value =>
      have hindices : S.indices (.field i value :: entries) = i :: S.indices entries := rfl
      rw [hindices, List.nodup_cons] at hnodup
      rw [hindices] at hnew ⊢
      obtain ⟨hi, hnew⟩ := List.forall_mem_cons.mp hnew
      obtain rfl := hvalue i value List.mem_cons_self
      have hstep : S.step state (.field i (fields i)) =
          some (Function.update state i (some (fields i))) := by
        rw [step, if_neg (by rw [hi]; exact Bool.false_ne_true)]
      rw [hstep, Option.bind_some, ih hnodup.2 hrest, filled_cons]
      intro j hj
      have hne : j ≠ i := fun h => hnodup.1 (h ▸ hj)
      rw [Function.update_of_ne hne, hnew j hj]
    | unknown key => exact ih hnodup hrest hnew

/-- **Entries that hold the values of all fields are read as these values.** -/
theorem Holds.finish {fields : S.Fields} {entries : List S.Entry} (h : S.Holds entries fields) :
    ∃ state, entries.foldlM S.step (fun _ => none) = some state ∧
      S.finish state = some fields := by
  refine ⟨_, foldlM_step h.nodup h.value fun i _ => rfl, finish_of_value fun i => ?_⟩
  unfold Schema.value Schema.filled
  split_ifs with hi
  · rfl
  · exact h.missing i hi

/-- What a run over some entries makes of the values read so far. -/
structure Taken (state : S.State) (entries : List S.Entry) (state' : S.State) : Prop where
  nodup : (S.indices entries).Nodup
  new : ∀ i ∈ S.indices entries, state i = none
  value : ∀ i value, Entry.field i value ∈ entries → state' i = some value
  other : ∀ i, i ∉ S.indices entries → state' i = state i

/-- A field in front of the entries: they do not stand for it, since it is set by then. -/
theorem Taken.field {entries : List S.Entry} {state state' : S.State} {i : ι} {value : S.type i}
    (h : Taken (Function.update state i (some value)) entries state') (hnone : state i = none) :
    Taken state (.field i value :: entries) state' := by
  have hself : Function.update state i (some value) i = some value :=
    Function.update_self i (some value) state
  have hi : i ∉ S.indices entries := by
    intro hi
    have hnew := h.new i hi
    rw [hself] at hnew
    cases hnew
  refine ⟨List.nodup_cons.mpr ⟨hi, h.nodup⟩, ?_, ?_, ?_⟩
  · refine List.forall_mem_cons.mpr ⟨hnone, ?_⟩
    intro j hj
    have hne : j ≠ i := fun heq => hi (heq ▸ hj)
    rw [← h.new j hj, Function.update_of_ne hne]
  · intro j value' hj
    rcases List.mem_cons.mp hj with heq | hj
    · cases heq
      rw [h.other i hi, hself]
    · exact h.value j value' hj
  · intro j hj
    obtain ⟨hne, hj⟩ := not_or.mp (mt List.mem_cons.mpr hj)
    rw [h.other j hj, Function.update_of_ne hne]

omit [DecidableEq ι] in
/-- An unknown field changes nothing. -/
theorem Taken.unknown {entries : List S.Entry} {state state' : S.State}
    (h : Taken state entries state') (key : String) :
    Taken state (.unknown key :: entries) state' := by
  refine ⟨h.nodup, h.new, ?_, h.other⟩
  intro i value hi
  rcases List.mem_cons.mp hi with heq | hi
  · cases heq
  · exact h.value i value hi

/-- **The entries of a run are taken.** -/
theorem taken_of_foldlM {entries : List S.Entry} {state state' : S.State}
    (h : entries.foldlM S.step state = some state') : Taken state entries state' := by
  induction entries generalizing state with
  | nil =>
    rw [List.foldlM_nil] at h
    cases h
    exact ⟨List.nodup_nil, fun _ hi => absurd hi List.not_mem_nil,
      fun _ _ hi => absurd hi List.not_mem_nil, fun _ _ => rfl⟩
  | cons entry entries ih =>
    rw [List.foldlM_cons, Option.bind_eq_bind, Option.bind_eq_some_iff] at h
    obtain ⟨state₁, hstep, hsteps⟩ := h
    cases entry with
    | field i value =>
      rw [step] at hstep
      split_ifs at hstep with hset
      obtain rfl := Option.some.inj hstep
      exact (ih hsteps).field (by simpa using hset)
    | unknown key =>
      cases hstep
      exact (ih hsteps).unknown key

omit [DecidableEq ι] in
/-- **Entries that are read as the values of all fields hold these values.** -/
theorem Taken.holds {entries : List S.Entry} {state : S.State} {fields : S.Fields}
    (h : Taken (fun _ => none) entries state) (hfinish : S.finish state = some fields) :
    S.Holds entries fields where
  nodup := h.nodup
  value i value hi := eq_of_finish hfinish (h.value i value hi)
  missing i hi := by
    have hvalue := value_of_finish hfinish i
    rwa [Schema.value, h.other i hi, Option.none_or] at hvalue

/-- What a turn of `visit_map` reads is an entry, and it takes its step. -/
theorem exists_partText_of_visitEntry (hlawful : ∀ i, (S.format i).Lawful)
    {state state' : S.State} {text rest : List Char}
    (h : S.visitEntry state ('"' :: text) = some (state', rest)) :
    ∃ entry body, S.step state entry = some state' ∧ S.PartText entry body ∧
      '"' :: text = body ++ rest := by
  rw [visitEntry, Option.bind_eq_bind, Option.bind_eq_some_iff] at h
  obtain ⟨⟨key, behind⟩, hkey, h⟩ := h
  dsimp only at h
  cases hfield : S.fieldOf key with
  | some i =>
    rw [hfield] at h
    dsimp only at h
    split_ifs at h with hset
    simp only [Option.bind_eq_bind, Option.bind_eq_some_iff] at h
    obtain ⟨behind', hcolon, ⟨value, behind''⟩, hvalue, heq⟩ := h
    cases heq
    obtain ⟨blank, body, hblank, hbody, rfl⟩ := (hlawful i).sound hvalue
    obtain ⟨entry, hentry, htext⟩ := exists_entryText hkey hcolon hblank hbody
    refine ⟨.field i value, entry, if_neg hset, ?_, htext⟩
    rw [PartText, name_of_fieldOf S hfield]
    exact hentry
  | none =>
    rw [hfield] at h
    simp only [Option.bind_eq_bind, Option.bind_eq_some_iff] at h
    obtain ⟨behind', hcolon, behind'', hvalue, heq⟩ := h
    cases heq
    obtain ⟨blank, body, hblank, hbody, rfl⟩ := exists_ignored hvalue
    obtain ⟨entry, hentry, htext⟩ := exists_entryText hkey hcolon hblank hbody
    exact ⟨.unknown key, entry, rfl, ⟨hfield, hentry⟩, htext⟩

/-- A turn of `visit_map` reads an entry as its step. -/
theorem parts_object (hlawful : ∀ i, (S.format i).Lawful) :
    Parts '}' (fun c => c == '"') S.visitEntry S.step S.PartText where
  bracket := .inr rfl
  start := by
    intro entry text htext
    cases entry with
    | field i value => exact EntryText.starts htext
    | unknown key => exact EntryText.starts htext.2
  reads := by
    intro entry text state state' rest htext hstep hrest
    cases entry with
    | field i value =>
      obtain ⟨behind, blank, text', hblank, htext', hkey, hcolon⟩ := EntryText.reads htext rest
      have hread := (hlawful i).reads htext' hblank hrest
      rw [step] at hstep
      split_ifs at hstep with hnew
      cases hstep
      simp only [visitEntry, hkey, fieldOf_name, if_neg hnew, hcolon, hread,
        Option.bind_eq_bind, Option.bind_some]
    | unknown key =>
      obtain ⟨hunknown, hentry⟩ := htext
      obtain ⟨behind, blank, text', hblank, htext', hkey, hcolon⟩ := hentry.reads rest
      have hread := deserializeIgnoredAny_ignored htext' hblank hrest
      cases hstep
      simp only [visitEntry, hkey, hunknown, hcolon, hread, Option.bind_eq_bind,
        Option.bind_some]
  sound := by
    intro c text state state' rest hstart hread
    rw [beq_iff_eq] at hstart
    subst hstart
    obtain ⟨entry, body, hstep, hbody, htext⟩ := exists_partText_of_visitEntry hlawful hread
    exact ⟨entry, [], body, hstep, Blank.nil, hbody, htext⟩

theorem filled_nil (state : S.State) (fields : S.Fields) : S.filled state fields [] = state :=
  funext fun _ => if_neg List.not_mem_nil

/-- A field of a list is read. -/
theorem visitSeq_cons (hlawful : ∀ i, (S.format i).Lawful) {fields : S.Fields} {i : ι}
    {first : Bool} {separator blank text rest : List Char} (hseparator : Separator first separator)
    (hblank : Blank blank) (htext : (S.format i).Text (fields i) text) (hrest : Stops rest)
    (is : List ι) (state : S.State) :
    S.visitSeq (i :: is) first state (separator ++ (blank ++ (text ++ rest))) =
      S.visitSeq is false (Function.update state i (some (fields i))) rest := by
  obtain ⟨c, tail, rfl, hc⟩ := (hlawful i).starts htext
  have hnext : hasNextElement first (separator ++ (blank ++ c :: (tail ++ rest))) =
      some (true, c :: (tail ++ rest)) :=
    hasNext_part hseparator hblank hc hc.2.2.1 (by decide) rfl (tail ++ rest)
  have hread := (hlawful i).reads htext Blank.nil hrest
  rw [List.cons_append, List.nil_append] at hread
  simp only [visitSeq, List.cons_append, hnext, hread, Option.bind_eq_bind, Option.bind_some,
    if_true]

/-- **The fields of a list are read one after the other.** -/
theorem visitSeq_partsText (hlawful : ∀ i, (S.format i).Lawful) {fields : S.Fields}
    {is : List ι} {body : List Char}
    (hbody : PartsText (fun i => (S.format i).Text (fields i)) is body) (state : S.State)
    {first : Bool} {separator : List Char} (hseparator : Separator first separator)
    (rest : List Char) :
    ∃ blank, Blank blank ∧
      S.visitSeq is first state (separator ++ (body ++ ']' :: rest)) =
        some (S.filled state fields is, blank ++ ']' :: rest) := by
  induction hbody generalizing state first separator with
  | @last i blank text blank' hblank htext hblank' =>
    have hstops : Stops (blank' ++ ']' :: rest) := Stops.blank hblank' (.inr (.inr (.inl rfl)))
    refine ⟨blank', hblank', ?_⟩
    rw [List.append_assoc, List.append_assoc,
      visitSeq_cons hlawful hseparator hblank htext hstops, visitSeq, ← filled_cons, filled_nil]
  | @more i is blank text blank' texts hblank htext hblank' _ ih =>
    have hstops : Stops (blank' ++ ',' :: (texts ++ ']' :: rest)) :=
      Stops.blank hblank' (.inr (.inl rfl))
    obtain ⟨blank₁, hblank₁, hrun⟩ :=
      ih (Function.update state i (some (fields i))) (.comma hblank')
    refine ⟨blank₁, hblank₁, ?_⟩
    rw [List.append_assoc, List.singleton_append] at hrun
    rw [List.append_assoc, List.append_assoc, List.append_assoc, List.cons_append,
      visitSeq_cons hlawful hseparator hblank htext hstops, hrun, filled_cons]

/-- The fields that are not in the list are left alone. -/
theorem visitSeq_other {is : List ι} {first : Bool} {state state' : S.State}
    {text rest : List Char} (h : S.visitSeq is first state text = some (state', rest)) {i : ι}
    (hi : i ∉ is) : state' i = state i := by
  induction is generalizing first state text with
  | nil =>
    cases h
    rfl
  | cons j is ih =>
    rw [visitSeq, Option.bind_eq_bind, Option.bind_eq_some_iff] at h
    obtain ⟨⟨more, behind⟩, -, h⟩ := h
    dsimp only at h
    split_ifs at h
    rw [Option.bind_eq_bind, Option.bind_eq_some_iff] at h
    obtain ⟨⟨value, behind'⟩, -, h⟩ := h
    rw [List.mem_cons, not_or] at hi
    rw [ih h hi.2, Function.update_of_ne hi.1]

/-- **What is read as the fields of a list is a text of their values.** -/
theorem exists_partsText_of_visitSeq (hlawful : ∀ i, (S.format i).Lawful) {fields : S.Fields}
    {is : List ι} (hnodup : is.Nodup) {first : Bool} {state state' : S.State}
    {text rest : List Char} (h : S.visitSeq is first state text = some (state', rest))
    (hfields : ∀ i value, state' i = some value → value = fields i) :
    Remaining (fun i => (S.format i).Text (fields i)) first is text rest := by
  induction is generalizing first state text with
  | nil =>
    cases h
    exact .inl ⟨rfl, [], Blank.nil, rfl⟩
  | cons i is ih =>
    rw [List.nodup_cons] at hnodup
    rw [visitSeq, Option.bind_eq_bind, Option.bind_eq_some_iff] at h
    obtain ⟨⟨more, behind⟩, hnext, h⟩ := h
    dsimp only at h
    split_ifs at h with hmore
    subst hmore
    rw [Option.bind_eq_bind, Option.bind_eq_some_iff] at h
    obtain ⟨⟨value, behind'⟩, hread, h⟩ := h
    dsimp only at h
    have hvalue : state' i = some value := by
      rw [visitSeq_other h hnodup.1, Function.update_self]
    obtain rfl := hfields i value hvalue
    rcases hasNext_cases hnext with ⟨hfalse, -⟩ |
      ⟨-, separator, blank, c, tail, hseparator, hblank, -, -, htext⟩
    · cases hfalse
    · obtain ⟨blank', body, hblank', hbody, hbehind⟩ := (hlawful i).sound hread
      rw [htext, hbehind, ← List.append_assoc blank]
      exact (ih hnodup.2 h).cons hseparator (hblank.append hblank') hbody

omit [DecidableEq ι] in
/-- The text of a struct starts as values do. -/
theorem Text.starts {fields : S.Fields} {text : List Char} (h : S.Text fields text) :
    ∃ c rest, text = c :: rest ∧ ValueStart c := by
  cases h with
  | object _ htext => exact htext.starts (by decide)
  | list htext => exact htext.starts (by decide)

/-- The visitor reads each text of a struct. -/
theorem Text.visitStruct (hlawful : ∀ i, (S.format i).Lawful) {fields : S.Fields}
    {text : List Char} (h : S.Text fields text) (rest : List Char) :
    ∃ state, S.visitStruct (text ++ rest) = some (state, rest) ∧
      S.finish state = some fields := by
  cases h with
  | object hholds htext =>
    obtain ⟨state, hsteps, hfinish⟩ := hholds.finish
    obtain ⟨body, rfl, hread⟩ := (parts_object hlawful).visitBrackets_text htext hsteps rest
    exact ⟨state, hread, hfinish⟩
  | list htext =>
    refine ⟨S.filled (fun _ => none) fields S.order, ?_, finish_of_value fun i => ?_⟩
    · have hend : ∀ blank, Blank blank → endParts ']' (blank ++ ']' :: rest) = some rest :=
        fun blank hblank => endParts_close (by decide) hblank rest
      generalize hempty : (fun _ => none : S.State) = empty
      generalize hitems : S.order = order at htext ⊢
      cases htext with
      | empty hblank =>
        rw [List.cons_append, List.append_assoc, List.singleton_append]
        simp only [Schema.visitStruct, hitems, visitSeq, Option.bind_eq_bind, Option.bind_some,
          hend _ hblank, hempty, filled_nil]
      | parts hbody =>
        obtain ⟨blank, hblank, hrun⟩ :=
          visitSeq_partsText hlawful hbody empty .first rest
        rw [List.nil_append] at hrun
        rw [List.cons_append, List.append_assoc, List.singleton_append]
        simp only [Schema.visitStruct, hitems, hempty, hrun, Option.bind_eq_bind,
          Option.bind_some, hend _ hblank]
    · unfold Schema.value Schema.filled
      rw [if_pos (S.complete i)]
      rfl

/-- **Every text of a struct is read as its fields.** -/
theorem Text.reads (hlawful : ∀ i, (S.format i).Lawful) {fields : S.Fields}
    {text blank : List Char} (h : S.Text fields text) (hblank : Blank blank)
    (rest : List Char) :
    S.deserializeStruct (blank ++ (text ++ rest)) = some (fields, rest) := by
  obtain ⟨state, hread, hfinish⟩ := h.visitStruct hlawful rest
  obtain ⟨c, tail, rfl, hc⟩ := h.starts
  rw [List.cons_append] at hread ⊢
  simp only [deserializeStruct, parseWhitespace_blank hblank hc.1, hread, Option.bind_eq_bind,
    Option.bind_some, hfinish]

/-- And what the visitor reads is such a text. -/
theorem exists_text_of_visitStruct (hlawful : ∀ i, (S.format i).Lawful) {fields : S.Fields}
    {state : S.State} {text rest : List Char} (h : S.visitStruct text = some (state, rest))
    (hfinish : S.finish state = some fields) :
    ∃ body, S.Text fields body ∧ text = body ++ rest := by
  unfold Schema.visitStruct at h
  split at h
  · rename_i text
    rw [Option.bind_eq_bind, Option.bind_eq_some_iff] at h
    obtain ⟨⟨state₁, behind⟩, hrun, h⟩ := h
    dsimp only at h
    rw [Option.bind_eq_bind, Option.bind_eq_some_iff] at h
    obtain ⟨behind', hend, heq⟩ := h
    cases heq
    obtain ⟨blank, hblank, rfl⟩ := exists_of_endParts hend
    have hnodup : S.order.Nodup := List.Nodup.of_map _ S.nodup
    have hremaining := exists_partsText_of_visitSeq hlawful hnodup hrun
      fun i value => eq_of_finish hfinish
    obtain ⟨body, hbody, rfl⟩ := hremaining.bracketsText hblank
    exact ⟨_, .list hbody, rfl⟩
  · obtain ⟨entries, body, hsteps, hbody, rfl⟩ := (parts_object hlawful).exists_bracketsText '{' h
    exact ⟨_, .object ((taken_of_foldlM hsteps).holds hfinish) hbody, rfl⟩
  · cases h

/-- **Only texts of a struct are read as its fields.** -/
theorem exists_text_of_deserializeStruct (hlawful : ∀ i, (S.format i).Lawful) {fields : S.Fields}
    {text rest : List Char} (h : S.deserializeStruct text = some (fields, rest)) :
    ∃ blank body, Blank blank ∧ S.Text fields body ∧ text = blank ++ (body ++ rest) := by
  obtain ⟨blank, hblank, htext⟩ := exists_blank text
  simp only [deserializeStruct, Option.bind_eq_bind, Option.bind_eq_some_iff] at h
  obtain ⟨⟨state, behind⟩, hvisit, fields', hfinish, heq⟩ := h
  cases heq
  obtain ⟨body, hbody, hbehind⟩ := exists_text_of_visitStruct hlawful hvisit hfinish
  exact ⟨blank, body, hblank, hbody, by rw [htext, hbehind]⟩

/-! ## The format of a struct -/

omit [DecidableEq ι] in
/-- What the writer makes of the fields is an object that holds them. -/
theorem holds_order (fields : S.Fields) :
    S.Holds (S.order.map fun i => .field i (fields i)) fields := by
  have hindices : S.indices (S.order.map fun i => .field i (fields i)) = S.order := by
    rw [indices, List.filterMap_map]
    exact List.filterMap_some
  refine ⟨?_, fun i value h => ?_, fun i h => ?_⟩
  · rw [hindices]
    exact List.Nodup.of_map _ S.nodup
  · obtain ⟨j, -, hj⟩ := List.mem_map.mp h
    cases hj
    rfl
  · rw [hindices] at h
    exact absurd (S.complete i) h

end Schema

section Struct

variable {ι : Type} [DecidableEq ι] {α : Type}

/-- A struct with the functions that take it apart and put it together. -/
def Format.struct (S : Schema ι) (fields : α → S.Fields) (make : S.Fields → α) : Format α where
  deserialize text := (S.deserializeStruct text).map fun (fields, rest) => (make fields, rest)
  serialize value := serializeBrackets '{' '}'
    (fun i => serializeEntry (S.name i) ((S.format i).serialize (fields value i))) S.order
  Text value := S.Text (fields value)

/-- The format of a struct is lawful if the formats of its fields are. -/
theorem Format.struct_lawful {S : Schema ι} (hlawful : ∀ i, (S.format i).Lawful)
    {fields : α → S.Fields} {make : S.Fields → α} (hmake : ∀ value, make (fields value) = value)
    (hfields : ∀ values, fields (make values) = values) :
    (Format.struct S fields make).Lawful where
  starts htext := Schema.Text.starts htext
  reads := by
    intro value text blank rest htext hblank _
    simp only [Format.struct, Schema.Text.reads hlawful htext hblank rest, Option.map_some, hmake]
  sound := by
    intro value text rest hread
    obtain ⟨⟨values, behind⟩, hstruct, heq⟩ := Option.map_eq_some_iff.mp hread
    cases heq
    obtain ⟨blank, body, hblank, hbody, htext⟩ :=
      Schema.exists_text_of_deserializeStruct hlawful hstruct
    refine ⟨blank, body, hblank, ?_, htext⟩
    show S.Text (fields (make values)) body
    rw [hfields]
    exact hbody
  writes value f := by
    obtain ⟨text, htext, hwrites⟩ := serializeBrackets_writes
      (fun i f => serializeEntry_writes (S.name i) ((hlawful i).writes (fields value i)) f)
      '{' '}' S.order f
    exact ⟨text, .object (Schema.holds_order (fields value)) htext.map, hwrites⟩

end Struct

end Json
