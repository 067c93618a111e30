/-
# Formats of values in JSON text

A format of a type has its reader (`vendor/serde_json/src/de.rs`), its writer
(`vendor/serde_json/src/ser.rs`), and the texts that stand for a value, in any layout.  It
is lawful when the reader takes these texts as the value and no other text, and the writer's
text is one of them.

* `Format.Lawful.fromSlice_text`: every text of a value, with whitespace around it, is read as
  the value.
* `Format.Lawful.exists_text`: nothing else is read.
* `Format.Lawful.fromSlice_toVecPretty`: a value is read back from what the writer wrote.
-/
import ElanGuardian.JsonIgnored

namespace Json

/-! ## The pretty printer -/

/-- `PrettyFormatter`, with what has been written. -/
structure Formatter where
  currentIndent : ℕ
  hasValue : Bool
  out : List Char

namespace Formatter

variable (f : Formatter)

/-- `write_all`. -/
def write (text : List Char) : Formatter := { f with out := f.out ++ text }

/-- `indent`: two blanks for each level. -/
def indent : Formatter := f.write (List.replicate (2 * f.currentIndent) ' ')

/-- `begin_array` and `begin_object`. -/
def beginParts (frame : Char) : Formatter :=
  write { f with currentIndent := f.currentIndent + 1, hasValue := false } [frame]

/-- `end_array` and `end_object`. -/
def endParts (close : Char) : Formatter :=
  let f := { f with currentIndent := f.currentIndent - 1 }
  let f := if f.hasValue then (f.write ['\n']).indent else f
  f.write [close]

/-- `begin_array_value` and `begin_object_key`. -/
def beginPart (first : Bool) : Formatter :=
  (f.write (if first then ['\n'] else [',', '\n'])).indent

/-- `end_array_value` and `end_object_value`. -/
def endPart : Formatter := { f with hasValue := true }

end Formatter

/-- A writer of values. -/
abbrev Writer (α : Type) := α → Formatter → Formatter

/-- The parts inside a bracket, each written by `item`. -/
def serializeParts {α : Type} (item : Writer α) : Bool → List α → Formatter → Formatter
  | _, [], f => f
  | first, a :: rest, f => serializeParts item false rest (item a (f.beginPart first)).endPart

/-- `serialize_seq`, or `serialize_map`, and all its parts. -/
def serializeBrackets {α : Type} (frame close : Char) (item : Writer α) : Writer (List α) :=
  fun items f => (serializeParts item true items (f.beginParts frame)).endParts close

/-- `serialize_entry`, for a key and what writes its value. -/
def serializeEntry (key : String) (value : Formatter → Formatter) (f : Formatter) : Formatter :=
  value ((f.write (formatEscapedStr key)).write [':', ' '])

/-! ## Formats -/

structure Format (α : Type) where
  deserialize : Reader α
  serialize : Writer α
  /-- The texts of a value, without whitespace around them. -/
  Text : α → List Char → Prop

/-- A step of the printer writes a text, and leaves the level of indentation. -/
def Writes (write : Formatter → Formatter) (f : Formatter) (text : List Char) : Prop :=
  (write f).out = f.out ++ text ∧ (write f).currentIndent = f.currentIndent

/-- The reader takes the texts of a value as the value, and no other text, and the writer writes
one. -/
structure Format.Lawful {α : Type} (F : Format α) : Prop where
  starts : ∀ {a text}, F.Text a text → ∃ c rest, text = c :: rest ∧ ValueStart c
  reads : ∀ {a text blank rest}, F.Text a text → Blank blank → Stops rest →
    F.deserialize (blank ++ (text ++ rest)) = some (a, rest)
  sound : ∀ {a text rest}, F.deserialize text = some (a, rest) →
    ∃ blank body, Blank blank ∧ F.Text a body ∧ text = blank ++ (body ++ rest)
  writes : ∀ a f, ∃ text, F.Text a text ∧ Writes (F.serialize a) f text

/-- `from_slice`: the value, and nothing but whitespace behind it. -/
def Format.fromSlice {α : Type} (F : Format α) (text : List Char) : Option α := do
  let (value, rest) ← F.deserialize text
  if parseWhitespace rest = [] then some value else none

/-- `to_vec_pretty`. -/
def Format.toVecPretty {α : Type} (F : Format α) (value : α) : List Char :=
  (F.serialize value ⟨0, false, []⟩).out

section Laws

variable {α : Type} {F : Format α}

/-- **Every text of a value is read as the value.** -/
theorem Format.Lawful.fromSlice_text (h : F.Lawful) {value : α} {text blank blank' : List Char}
    (htext : F.Text value text) (hblank : Blank blank) (hblank' : Blank blank') :
    F.fromSlice (blank ++ (text ++ blank')) = some value := by
  have hstops : Stops blank' := by
    have hend : Stops (blank' ++ []) := Stops.blank hblank' trivial
    rwa [List.append_nil] at hend
  rw [Format.fromSlice, h.reads htext hblank hstops]
  simp [parseWhitespace_of_blank hblank']

/-- **What is read as a value is one of its texts**, with whitespace around it. -/
theorem Format.Lawful.exists_text (h : F.Lawful) {value : α} {text : List Char}
    (hread : F.fromSlice text = some value) :
    ∃ blank body blank', Blank blank ∧ F.Text value body ∧ Blank blank' ∧
      text = blank ++ (body ++ blank') := by
  rw [Format.fromSlice, Option.bind_eq_bind, Option.bind_eq_some_iff] at hread
  obtain ⟨⟨value', rest⟩, hvalue, hend⟩ := hread
  dsimp only at hend
  split_ifs at hend with hspace
  cases hend
  obtain ⟨blank, body, hblank, hbody, htext⟩ := h.sound hvalue
  obtain ⟨blank', hblank', hrest⟩ := exists_blank rest
  rw [hspace, List.append_nil] at hrest
  exact ⟨blank, body, blank', hblank, hbody, hblank', by rw [htext, hrest]⟩

/-- **A value is read back from what was written.** -/
theorem Format.Lawful.fromSlice_toVecPretty (h : F.Lawful) (value : α) :
    F.fromSlice (F.toVecPretty value) = some value := by
  obtain ⟨text, htext, hout, -⟩ := h.writes value ⟨0, false, []⟩
  have hread := h.fromSlice_text htext Blank.nil Blank.nil
  rwa [List.nil_append, List.append_nil, ← List.nil_append text, ← hout] at hread

end Laws

/-! ## Words, numbers and strings -/

/-- `deserialize_bool`. -/
def deserializeBool (text : List Char) : Option (Bool × List Char) :=
  match parseWhitespace text with
  | 't' :: text => (parseIdent ['r', 'u', 'e'] text).map fun text => (true, text)
  | 'f' :: text => (parseIdent ['a', 'l', 's', 'e'] text).map fun text => (false, text)
  | _ => none

def boolText : Bool → List Char
  | true => ['t', 'r', 'u', 'e']
  | false => ['f', 'a', 'l', 's', 'e']

namespace Format

/-- `bool`. -/
def bool : Format Bool where
  deserialize := deserializeBool
  serialize value f := f.write (boolText value)
  Text value text := text = boolText value

/-- The format of a `bool` is lawful. -/
theorem bool_lawful : bool.Lawful where
  starts := by
    rintro (_ | _) text rfl
    · exact ⟨_, _, rfl, by decide⟩
    · exact ⟨_, _, rfl, by decide⟩
  reads := by
    rintro (_ | _) text blank rest rfl hblank -
    · have hspace := parseWhitespace_blank hblank (c := 'f') (by decide)
        (['a', 'l', 's', 'e'] ++ rest)
      simp only [bool, deserializeBool, boolText, List.cons_append, List.nil_append] at hspace ⊢
      rw [hspace]
      rfl
    · have hspace := parseWhitespace_blank hblank (c := 't') (by decide) (['r', 'u', 'e'] ++ rest)
      simp only [bool, deserializeBool, boolText, List.cons_append, List.nil_append] at hspace ⊢
      rw [hspace]
      rfl
  sound := by
    intro a text rest h
    obtain ⟨blank, hblank, htext⟩ := exists_blank text
    simp only [bool, deserializeBool] at h
    split at h
    · rename_i hstart
      obtain ⟨rfl, hident⟩ := of_map_parseIdent h
      exact ⟨blank, _, hblank, rfl, by rw [htext, hstart, hident]; rfl⟩
    · rename_i hstart
      obtain ⟨rfl, hident⟩ := of_map_parseIdent h
      exact ⟨blank, _, hblank, rfl, by rw [htext, hstart, hident]; rfl⟩
    · cases h
  writes value f := ⟨_, rfl, rfl, rfl⟩

section Number

variable {α : Type}

/-- The unsigned integers of a type, with the reader of their values. -/
def number (read : Reader ℕ) (ofNat : ℕ → α) (toNat : α → ℕ) : Format α where
  deserialize text := (read text).map fun (value, rest) => (ofNat value, rest)
  serialize value f := f.write (Nat.toDigits 10 (toNat value))
  Text value text := text = Nat.toDigits 10 (toNat value)

/-- A format of numbers is lawful if its reader reads the decimal digits and nothing else. -/
theorem number_lawful {read : Reader ℕ} {ofNat : ℕ → α} {toNat : α → ℕ}
    (hread : ∀ a {blank rest}, Blank blank → Stops rest →
      read (blank ++ (Nat.toDigits 10 (toNat a) ++ rest)) = some (toNat a, rest))
    (hinv : ∀ a, ofNat (toNat a) = a)
    (hsound : ∀ {n text rest}, read text = some (n, rest) → toNat (ofNat n) = n ∧
      ∃ blank, Blank blank ∧ text = blank ++ (Nat.toDigits 10 n ++ rest)) :
    (number read ofNat toNat).Lawful where
  starts := by
    rintro a text rfl
    obtain ⟨c, rest, htext, hc⟩ := toDigits_starts (toNat a)
    exact ⟨c, rest, htext, valueStart_of_isDigit hc⟩
  reads := by
    rintro a text blank rest rfl hblank hrest
    simp only [number, hread a hblank hrest, Option.map_some, hinv]
  sound := by
    intro a text rest h
    obtain ⟨⟨n, behind⟩, hread, heq⟩ := Option.map_eq_some_iff.mp h
    cases heq
    obtain ⟨hn, blank, hblank, htext⟩ := hsound hread
    exact ⟨blank, _, hblank, rfl, by rw [hn]; exact htext⟩
  writes value f := ⟨_, rfl, rfl, rfl⟩

/-- A number does not start like a word. -/
theorem number_head {read : Reader ℕ} {ofNat : ℕ → α} {toNat : α → ℕ} {a : α}
    {text : List Char} (h : (number read ofNat toNat).Text a text) : text.head? ≠ some 'n' := by
  obtain ⟨c, rest, htext, hc⟩ := toDigits_starts (toNat a)
  rw [show text = _ from h, htext, List.head?_cons]
  rintro heq
  cases heq
  cases hc

/-- `u64`. -/
def u64 : Format UInt64 := number (deserializeNumber (2 ^ 64)) UInt64.ofNat UInt64.toNat

/-- `u32`. -/
def u32 : Format UInt32 := number (deserializeNumber (2 ^ 32)) UInt32.ofNat UInt32.toNat

/-- `u128`. -/
def u128 : Format (BitVec 128) := number deserializeU128 (BitVec.ofNat 128) BitVec.toNat

/-- The format of a `u64` is lawful. -/
theorem u64_lawful : u64.Lawful :=
  number_lawful (fun a _ _ hblank hrest =>
    deserializeNumber_toDigits a.toNat_lt (Nat.le_refl _) hblank hrest)
    (fun _ => UInt64.ofNat_toNat) fun h =>
    (toDigits_of_deserializeNumber h).imp_left UInt64.toNat_ofNat_of_lt'

/-- The format of a `u32` is lawful. -/
theorem u32_lawful : u32.Lawful :=
  number_lawful (fun a _ _ hblank hrest =>
    deserializeNumber_toDigits a.toNat_lt (by decide) hblank hrest)
    (fun _ => UInt32.ofNat_toNat) fun h =>
    (toDigits_of_deserializeNumber h).imp_left UInt32.toNat_ofNat_of_lt'

/-- The format of a `u128` is lawful. -/
theorem u128_lawful : u128.Lawful :=
  number_lawful (fun a _ _ hblank hrest => deserializeU128_toDigits a.isLt hblank hrest)
    (fun a => BitVec.ofNat_toNat 128 a) fun h =>
    (toDigits_of_deserializeU128 h).imp_left fun hn => by
      rw [BitVec.toNat_ofNat, Nat.mod_eq_of_lt hn]

end Number

/-- `String`. -/
def string : Format String where
  deserialize := deserializeStr
  serialize value f := f.write (formatEscapedStr value)
  Text := StringText

/-- The format of a string is lawful. -/
theorem string_lawful : string.Lawful where
  starts := by
    rintro value text ⟨body, -, rfl⟩
    exact ⟨_, _, rfl, by decide⟩
  reads htext hblank _ := deserializeStr_text htext hblank _
  sound h := exists_stringText_of_deserializeStr h
  writes value f := ⟨_, stringText_formatEscapedStr value, rfl, rfl⟩

/-- A string does not start like a word. -/
theorem string_head {value : String} {text : List Char} (h : string.Text value text) :
    text.head? ≠ some 'n' := by
  obtain ⟨body, -, rfl⟩ := h
  rintro heq
  cases heq

/-! ## Options -/

section Option

variable {α : Type}

/-- `deserialize_option`. -/
def deserializeOption (read : Reader α) (text : List Char) : Option (Option α × List Char) :=
  match parseWhitespace text with
  | 'n' :: text => (parseIdent ['u', 'l', 'l'] text).map fun text => (none, text)
  | text => (read text).map fun (value, rest) => (some value, rest)

/-- `Option`. -/
def option (F : Format α) : Format (Option α) where
  deserialize := deserializeOption F.deserialize
  serialize value f :=
    match value with
    | none => f.write ['n', 'u', 'l', 'l']
    | some value => F.serialize value f
  Text value text :=
    match value with
    | none => text = ['n', 'u', 'l', 'l']
    | some value => F.Text value text

/-- The format of an option is lawful, if no value's text looks like `null`. -/
theorem option_lawful {F : Format α} (h : F.Lawful)
    (hnull : ∀ {a text}, F.Text a text → text.head? ≠ some 'n') : (option F).Lawful where
  starts := by
    rintro (_ | value) text htext
    · cases htext
      exact ⟨_, _, rfl, by decide⟩
    · exact h.starts htext
  reads := by
    rintro (_ | value) text blank rest htext hblank hrest
    · cases htext
      have hspace := parseWhitespace_blank hblank (c := 'n') (by decide) (['u', 'l', 'l'] ++ rest)
      simp only [option, deserializeOption, List.cons_append, List.nil_append] at hspace ⊢
      rw [hspace]
      rfl
    · obtain ⟨c, tail, rfl, hc⟩ := h.starts htext
      have hread := h.reads htext Blank.nil hrest
      have hn : c ≠ 'n' := fun hc => hnull htext (by rw [hc]; rfl)
      simp only [option, deserializeOption, List.cons_append, List.nil_append] at hread ⊢
      rw [parseWhitespace_blank hblank hc.1]
      split
      · rename_i heq
        cases heq
        exact absurd rfl hn
      · rw [hread]
        rfl
  sound := by
    intro a text rest hread
    obtain ⟨blank, hblank, htext⟩ := exists_blank text
    simp only [option, deserializeOption] at hread
    split at hread
    · rename_i hstart
      obtain ⟨rfl, hident⟩ := of_map_parseIdent hread
      exact ⟨blank, _, hblank, rfl, by rw [htext, hstart, hident]; rfl⟩
    · obtain ⟨⟨value, behind⟩, hvalue, heq⟩ := Option.map_eq_some_iff.mp hread
      cases heq
      obtain ⟨blank', body, hblank', hbody, hspace⟩ := h.sound hvalue
      exact ⟨blank ++ blank', body, hblank.append hblank', hbody,
        by rw [htext, hspace, List.append_assoc]⟩
  writes := by
    rintro (_ | value) f
    · exact ⟨_, rfl, rfl, rfl⟩
    · exact h.writes value f

end Option

end Format

end Json
