/-
# Values that a reader ignores

`ignore_value` (`vendor/serde_json/src/de.rs`) skips a value of any kind.  It is a loop
with a stack of the brackets that are open, while the values themselves are nested.

`deserializeIgnoredAny_ignored` connects the two: the loop passes exactly over a value, whatever
it holds, and by `exists_ignored` over nothing else.
-/
import Mathlib.Data.List.DropRight
import ElanGuardian.JsonText

namespace Json

/-! ## The loop -/

/-- `ignore_escape`: any four hexadecimal digits will do. -/
def ignoreEscape : List Char → Option (List Char)
  | [] => none
  | c :: text =>
    if c = 'u' then (decodeHexEscape text).map Prod.snd
    else (escapeLetter c).map fun _ => text

/-- `ignore_str`, behind the opening quote, in at most `fuel` steps. -/
def ignoreStr : ℕ → List Char → Option (List Char)
  | 0, _ => none
  | _ + 1, [] => none
  | fuel + 1, c :: text =>
    if !isEscape c then ignoreStr fuel text
    else if c = '"' then some text
    else if c = '\\' then do
      let text ← ignoreEscape text
      ignoreStr fuel text
    else none

/-- `ignore_exponent`, behind its letter. -/
def ignoreExponent (text : List Char) : Option (List Char) :=
  let text := match text with
    | '+' :: text => text
    | '-' :: text => text
    | text => text
  if startsWithDigit text then some (text.dropWhile Char.isDigit) else none

/-- The exponent of a number, if there is one. -/
def ignoreOptionalExponent : List Char → Option (List Char)
  | 'e' :: text => ignoreExponent text
  | 'E' :: text => ignoreExponent text
  | text => some text

/-- `ignore_decimal`, behind the point. -/
def ignoreDecimal (text : List Char) : Option (List Char) :=
  if startsWithDigit text then ignoreOptionalExponent (text.dropWhile Char.isDigit) else none

/-- The fraction of a number, if there is one, and the exponent. -/
def ignoreOptionalDecimal : List Char → Option (List Char)
  | '.' :: text => ignoreDecimal text
  | text => ignoreOptionalExponent text

/-- `ignore_integer`. -/
def ignoreInteger (text : List Char) : Option (List Char) := do
  let (_, text) ← scanInteger128 text
  ignoreOptionalDecimal text

/-- The start of a value: a value without parts, or the bracket that opens one with parts. -/
def ignoreStart : List Char → Option (Option Char × List Char)
  | [] => none
  | c :: text =>
    if c = 'n' then (parseIdent ['u', 'l', 'l'] text).map fun text => (none, text)
    else if c = 't' then (parseIdent ['r', 'u', 'e'] text).map fun text => (none, text)
    else if c = 'f' then (parseIdent ['a', 'l', 's', 'e'] text).map fun text => (none, text)
    else if c = '-' then (ignoreInteger text).map fun text => (none, text)
    else if c.isDigit then (ignoreInteger (c :: text)).map fun text => (none, text)
    else if c = '"' then (ignoreStr (text.length + 1) text).map fun text => (none, text)
    else if c = '[' ∨ c = '{' then some (some c, text)
    else none

/-- The inner loop of `ignore_value`: closing brackets, up to the place of the next part.  It
ends with the bracket around that part and those around this one, or behind the value. -/
def ignoreClosing (acceptComma : Bool) (frame : Char) (scratch text : List Char) :
    Option (Option (Char × List Char) × List Char) :=
  match parseWhitespace text with
  | [] => none
  | c :: rest =>
    if c = ',' ∧ acceptComma then some (some (frame, scratch), rest)
    else if c = ']' ∧ frame = '[' ∨ c = '}' ∧ frame = '{' then
      match scratch with
      | [] => some (none, rest)
      | frame :: scratch => ignoreClosing true frame scratch rest
    else if acceptComma then none
    else some (some (frame, scratch), c :: rest)
  termination_by structural scratch

/-- The key of an entry and its colon. -/
def ignoreKey (text : List Char) : Option (List Char) :=
  match parseWhitespace text with
  | '"' :: text => do
    let text ← ignoreStr (text.length + 1) text
    match parseWhitespace text with
    | ':' :: text => some text
    | _ => none
  | _ => none

/-- `ignore_value`, in at most `fuel` steps.  `enclosing` is the innermost open bracket, and
`scratch` has the others. -/
def ignoreValue : ℕ → Option Char → List Char → List Char → Option (List Char)
  | 0, _, _, _ => none
  | fuel + 1, enclosing, scratch, text => do
    let (opened, text) ← ignoreStart (parseWhitespace text)
    let (next, text) ←
      match opened, enclosing.toList ++ scratch with
      | some frame, scratch => ignoreClosing false frame scratch text
      | none, frame :: scratch => ignoreClosing true frame scratch text
      | none, [] => some (none, text)
    match next with
    | none => some text
    | some (frame, scratch) => do
      let text ← if frame = '{' then ignoreKey text else some text
      ignoreValue fuel (some frame) scratch text

/-- `deserialize_ignored_any`; the length of the text bounds the number of steps. -/
def deserializeIgnoredAny (text : List Char) : Option (List Char) :=
  ignoreValue (text.length + 1) none [] text

/-! ## Values -/

/-- Some digits, one at least. -/
def DigitsText (text : List Char) : Prop := startsWithDigit text ∧ ∀ c ∈ text, c.isDigit

/-- An exponent, or nothing. -/
inductive ExponentText : List Char → Prop
  | absent : ExponentText []
  | present {letter : Char} {sign digits : List Char} :
    letter = 'e' ∨ letter = 'E' → sign = [] ∨ sign = ['+'] ∨ sign = ['-'] →
    DigitsText digits → ExponentText (letter :: (sign ++ digits))

/-- A fraction, or nothing. -/
inductive FractionText : List Char → Prop
  | absent : FractionText []
  | present {digits : List Char} : DigitsText digits → FractionText ('.' :: digits)

/-- A number that is not negative. -/
inductive NumberText : List Char → Prop
  | mk (n : ℕ) {fraction exponent : List Char} :
    FractionText fraction → ExponentText exponent →
    NumberText (Nat.toDigits 10 n ++ (fraction ++ exponent))

/-- The characters of a string that nobody reads: surrogates need no partner. -/
inductive IgnoredChars : List Char → Prop
  | nil : IgnoredChars []
  | plain {c : Char} {text : List Char} :
    isEscape c = false → IgnoredChars text → IgnoredChars (c :: text)
  | letter {letter c : Char} {text : List Char} :
    escapeLetter letter = some c → IgnoredChars text → IgnoredChars ('\\' :: letter :: text)
  | unicode {n : ℕ} {hex text : List Char} :
    HexText n hex → IgnoredChars text → IgnoredChars ('\\' :: 'u' :: (hex ++ text))

/-- An opening bracket and its closing bracket. -/
def Brackets (frame close : Char) : Prop :=
  frame = '[' ∧ close = ']' ∨ frame = '{' ∧ close = '}'

/-- What stands before a part: nothing in a list, a key and a colon in an object. -/
inductive KeyText : Char → List Char → Prop
  | list : KeyText '[' []
  | object {blank body blank' : List Char} :
    Blank blank → IgnoredChars body → Blank blank' →
    KeyText '{' (blank ++ '"' :: (body ++ '"' :: (blank' ++ [':'])))

/-- The texts that are ignored: of a value, or of the parts inside a bracket. -/
inductive Ignored : Option Char → List Char → Prop
  | word {text : List Char} :
    text = ['n', 'u', 'l', 'l'] ∨ text = ['t', 'r', 'u', 'e'] ∨
      text = ['f', 'a', 'l', 's', 'e'] →
    Ignored none text
  | number {text : List Char} : NumberText text → Ignored none text
  | negative {text : List Char} : NumberText text → Ignored none ('-' :: text)
  | string {body : List Char} : IgnoredChars body → Ignored none ('"' :: (body ++ ['"']))
  | empty {frame close : Char} {blank : List Char} :
    Brackets frame close → Blank blank → Ignored none (frame :: (blank ++ [close]))
  | nested {frame close : Char} {parts : List Char} :
    Brackets frame close → Ignored (some frame) parts →
    Ignored none (frame :: (parts ++ [close]))
  | last {frame : Char} {key blank value blank' : List Char} :
    KeyText frame key → Blank blank → Ignored none value → Blank blank' →
    Ignored (some frame) (key ++ (blank ++ (value ++ blank')))
  | more {frame : Char} {key blank value blank' parts : List Char} :
    KeyText frame key → Blank blank → Ignored none value → Blank blank' →
    Ignored (some frame) parts →
    Ignored (some frame) (key ++ (blank ++ (value ++ (blank' ++ ',' :: parts))))

/-! ## Numbers -/

/-- The reader drops just the digits. -/
theorem DigitsText.dropWhile {digits rest : List Char} (h : DigitsText digits)
    (hrest : startsWithDigit rest = false) : (digits ++ rest).dropWhile Char.isDigit = rest := by
  rw [List.dropWhile_append_of_pos h.2]
  cases rest with
  | nil => rfl
  | cons c rest =>
    refine List.dropWhile_cons_of_neg ?_
    rw [show c.isDigit = false from hrest]
    exact Bool.false_ne_true

/-- Digits start with a digit. -/
theorem DigitsText.starts {digits : List Char} (h : DigitsText digits) (rest : List Char) :
    startsWithDigit (digits ++ rest) := by
  cases digits with
  | nil => exact absurd h.1 Bool.false_ne_true
  | cons c digits => exact h.1

/-- Where a number stops there is no exponent. -/
theorem Stops.ignoreOptionalExponent {rest : List Char} (h : Stops rest) :
    ignoreOptionalExponent rest = some rest := by
  unfold Json.ignoreOptionalExponent
  split
  · exact absurd h (by simp [Stops, isWhitespace])
  · exact absurd h (by simp [Stops, isWhitespace])
  · rfl

/-- An exponent is passed over, up to the end of the value. -/
theorem ExponentText.ignore {text rest : List Char} (h : ExponentText text)
    (hrest : Stops rest) : ignoreOptionalExponent (text ++ rest) = some rest := by
  cases h with
  | absent => exact hrest.ignoreOptionalExponent
  | @present letter sign digits hletter hsign hdigits =>
    have hexponent : ignoreExponent (sign ++ digits ++ rest) = some rest := by
      have hdrop := hdigits.dropWhile hrest.not_digit
      have hstarts := hdigits.starts rest
      rcases hsign with rfl | rfl | rfl
      · rw [List.nil_append]
        unfold ignoreExponent
        split
        · rename_i htext
          rw [htext] at hstarts
          cases hstarts
        · rename_i htext
          rw [htext] at hstarts
          cases hstarts
        · rw [if_pos hstarts, hdrop]
      · simp [ignoreExponent, hstarts, hdrop]
      · simp [ignoreExponent, hstarts, hdrop]
    rw [List.cons_append]
    rcases hletter with rfl | rfl <;> exact hexponent

/-- Neither an exponent nor what follows a number goes on with a digit. -/
theorem ExponentText.not_digit {text rest : List Char} (h : ExponentText text)
    (hrest : Stops rest) : startsWithDigit (text ++ rest) = false := by
  cases h with
  | absent => exact hrest.not_digit
  | present hletter _ _ => rcases hletter with rfl | rfl <;> rfl

/-- **A number is passed over, up to the end of the value.** -/
theorem NumberText.ignore {text rest : List Char} (h : NumberText text) (hrest : Stops rest) :
    ignoreInteger (text ++ rest) = some rest := by
  obtain ⟨n, hfraction, hexponent⟩ := h
  rename_i fraction exponent
  rw [List.append_assoc, List.append_assoc]
  have hexp := hexponent.ignore hrest
  have hend := hexponent.not_digit hrest
  cases hfraction with
  | absent =>
    have hpoint : ignoreOptionalDecimal (exponent ++ rest) = some rest := by
      unfold ignoreOptionalDecimal
      split
      · rename_i htext
        rw [htext] at hexp
        -- neither an exponent nor what stops a value starts with a point
        cases hexponent with
        | absent =>
          rw [List.nil_append] at htext
          exact absurd (htext ▸ hrest) (by simp [Stops, isWhitespace])
        | present hletter _ _ =>
          rw [List.cons_append] at htext
          rcases hletter with rfl | rfl <;> cases htext
      · exact hexp
    simp only [ignoreInteger, List.nil_append, scanInteger128_toDigits n hend,
      Option.bind_eq_bind, Option.bind_some, hpoint]
  | @present digits hdigits =>
    have hpoint : startsWithDigit ('.' :: (digits ++ (exponent ++ rest))) = false := rfl
    simp only [ignoreInteger, List.cons_append, scanInteger128_toDigits n hpoint,
      Option.bind_eq_bind, Option.bind_some, ignoreOptionalDecimal, ignoreDecimal,
      if_pos (hdigits.starts _), hdigits.dropWhile hend, hexp]

/-! ## Strings -/

/-- A string is passed over. -/
theorem IgnoredChars.ignore {body : List Char} (h : IgnoredChars body) (fuel : ℕ)
    (hfuel : body.length < fuel) (rest : List Char) :
    ignoreStr fuel (body ++ '"' :: rest) = some rest := by
  induction h generalizing fuel with
  | nil =>
    obtain ⟨fuel, rfl⟩ := Nat.exists_eq_add_of_lt hfuel
    simp [ignoreStr, isEscape]
  | plain hc _ ih =>
    obtain ⟨fuel, rfl⟩ : ∃ n, fuel = n + 1 := ⟨fuel - 1, by omega⟩
    rw [List.length_cons] at hfuel
    rw [List.cons_append, ignoreStr, if_pos (by simp [hc]), ih _ (by omega)]
  | @letter letter c text hletter _ ih =>
    obtain ⟨fuel, rfl⟩ : ∃ n, fuel = n + 1 := ⟨fuel - 1, by omega⟩
    rw [List.length_cons, List.length_cons] at hfuel
    have hu : letter ≠ 'u' := by
      rintro rfl
      cases hletter
    simp [ignoreStr, isEscape, ignoreEscape, hu, hletter, ih fuel (by omega)]
  | @unicode n hex text hhex _ ih =>
    obtain ⟨fuel, rfl⟩ : ∃ n, fuel = n + 1 := ⟨fuel - 1, by omega⟩
    rw [List.length_cons, List.length_cons, List.length_append] at hfuel
    simp [ignoreStr, isEscape, ignoreEscape, hhex.decode, ih fuel (by omega)]

/-! ## The loop passes over a value -/

/-- The part of the loop behind a value, with the brackets around the value. -/
def ignoreNext (scratch text : List Char) : Option (Option (Char × List Char) × List Char) :=
  match scratch with
  | [] => some (none, text)
  | frame :: scratch => ignoreClosing true frame scratch text

/-- The part of the loop from the place of the next part on. -/
def ignoreRest (fuel : ℕ) (next : Option (Option (Char × List Char) × List Char)) :
    Option (List Char) := do
  let (next, text) ← next
  match next with
  | none => some text
  | some (frame, scratch) => do
    let text ← if frame = '{' then ignoreKey text else some text
    ignoreValue fuel (some frame) scratch text

/-- A value without brackets is passed over in one step. -/
theorem ignoreValue_word {start text : List Char}
    (h : ignoreStart (parseWhitespace start) = some (none, text)) (fuel : ℕ)
    (enclosing : Option Char) (scratch : List Char) :
    ignoreValue (fuel + 1) enclosing scratch start =
      ignoreRest fuel (ignoreNext (enclosing.toList ++ scratch) text) := by
  rw [ignoreValue, h]
  cases henclosing : enclosing.toList ++ scratch <;> rfl

/-- A bracket is opened in one step. -/
theorem ignoreValue_bracket {start text : List Char} {frame : Char}
    (h : ignoreStart (parseWhitespace start) = some (some frame, text)) (fuel : ℕ)
    (enclosing : Option Char) (scratch : List Char) :
    ignoreValue (fuel + 1) enclosing scratch start =
      ignoreRest fuel (ignoreClosing false frame (enclosing.toList ++ scratch) text) := by
  rw [ignoreValue, h]
  rfl

section Closing

variable {frame close : Char} {blank : List Char}

/-- A bracket is no whitespace. -/
theorem Brackets.not_whitespace (h : Brackets frame close) :
    isWhitespace frame = false ∧ isWhitespace close = false := by
  rcases h with ⟨rfl, rfl⟩ | ⟨rfl, rfl⟩ <;> decide

/-- A closing bracket ends the value around it. -/
theorem ignoreClosing_close (h : Brackets frame close) (hblank : Blank blank)
    (acceptComma : Bool) (scratch rest : List Char) :
    ignoreClosing acceptComma frame scratch (blank ++ close :: rest) =
      ignoreNext scratch rest := by
  have hspace := parseWhitespace_blank hblank h.not_whitespace.2 rest
  have hcomma : close ≠ ',' := by rcases h with ⟨-, rfl⟩ | ⟨-, rfl⟩ <;> decide
  have hclose : close = ']' ∧ frame = '[' ∨ close = '}' ∧ frame = '{' := by
    rcases h with ⟨rfl, rfl⟩ | ⟨rfl, rfl⟩ <;> decide
  unfold ignoreClosing
  simp only [hspace, hcomma, false_and, if_false, if_pos hclose]
  cases scratch <;> rfl

/-- A comma leads to the next part. -/
theorem ignoreClosing_comma (frame : Char) (hblank : Blank blank) (scratch rest : List Char) :
    ignoreClosing true frame scratch (blank ++ ',' :: rest) =
      some (some (frame, scratch), rest) := by
  have hspace := parseWhitespace_blank hblank (c := ',') (by decide) rest
  unfold ignoreClosing
  simp only [hspace, and_self, if_true]

end Closing

/-! ## Where values start -/

/-- A value may start with a digit. -/
theorem valueStart_of_isDigit {c : Char} (h : c.isDigit) : ValueStart c := by
  refine ⟨isWhitespace_of_isDigit h, ?_, ?_, ?_⟩ <;> rintro rfl <;> cases h

/-- A number without its sign starts with a digit. -/
theorem NumberText.starts {text : List Char} (h : NumberText text) :
    ∃ c rest, text = c :: rest ∧ c.isDigit := by
  obtain ⟨n, _, _⟩ := h
  obtain ⟨c, digits, htext, hc⟩ := toDigits_starts n
  exact ⟨c, _, by rw [htext, List.cons_append], hc⟩

/-- A value that is ignored starts as values do. -/
theorem Ignored.starts {text : List Char} (h : Ignored none text) :
    ∃ c rest, text = c :: rest ∧ ValueStart c := by
  cases h with
  | word htext => rcases htext with rfl | rfl | rfl <;> exact ⟨_, _, rfl, by decide⟩
  | number hnumber =>
    obtain ⟨c, rest, rfl, hc⟩ := hnumber.starts
    exact ⟨c, rest, rfl, valueStart_of_isDigit hc⟩
  | negative _ => exact ⟨_, _, rfl, by decide⟩
  | string _ => exact ⟨_, _, rfl, by decide⟩
  | empty hframe _ => rcases hframe with ⟨rfl, rfl⟩ | ⟨rfl, rfl⟩ <;> exact ⟨_, _, rfl, by decide⟩
  | nested hframe _ => rcases hframe with ⟨rfl, rfl⟩ | ⟨rfl, rfl⟩ <;> exact ⟨_, _, rfl, by decide⟩

/-- The parts in a bracket start with the first of them. -/
theorem Ignored.parts_start {frame : Char} {parts : List Char} (h : Ignored (some frame) parts) :
    ∃ blank c rest, parts = blank ++ c :: rest ∧ Blank blank ∧ ValueStart c := by
  obtain ⟨key, blank, value, rest, hkey, hblank, hvalue, hparts⟩ :
      ∃ key blank value rest, KeyText frame key ∧ Blank blank ∧ Ignored none value ∧
        parts = key ++ (blank ++ (value ++ rest)) := by
    cases h with
    | last hkey hblank hvalue _ => exact ⟨_, _, _, _, hkey, hblank, hvalue, rfl⟩
    | more hkey hblank hvalue _ _ => exact ⟨_, _, _, _, hkey, hblank, hvalue, rfl⟩
  subst hparts
  cases hkey with
  | list =>
    obtain ⟨c, tail, rfl, hc⟩ := hvalue.starts
    exact ⟨blank, c, _, rfl, hblank, hc⟩
  | object hspace _ _ =>
    rw [List.append_assoc, List.cons_append]
    exact ⟨_, '"', _, rfl, hspace, by decide⟩

/-- Behind an opening bracket, the loop goes on with the first part. -/
theorem Ignored.ignoreClosing_open {frame : Char} {parts : List Char}
    (h : Ignored (some frame) parts) (scratch rest : List Char) :
    ignoreClosing false frame scratch (parts ++ rest) =
      some (some (frame, scratch), parseWhitespace (parts ++ rest)) := by
  obtain ⟨blank, c, tail, rfl, hblank, hc, -, hlist, hobject⟩ := h.parts_start
  rw [List.append_assoc, List.cons_append]
  have hspace := parseWhitespace_blank hblank hc (tail ++ rest)
  unfold ignoreClosing
  simp [hspace, hlist, hobject]

/-- Whitespace is passed over once. -/
theorem parseWhitespace_idem (text : List Char) :
    parseWhitespace (parseWhitespace text) = parseWhitespace text :=
  List.dropWhile_idempotent _ _

/-- Whitespace before a part makes no difference. -/
theorem ignoreRest_parseWhitespace (fuel : ℕ) (frame : Char) (scratch text : List Char) :
    ignoreRest fuel (some (some (frame, scratch), parseWhitespace text)) =
      ignoreRest fuel (some (some (frame, scratch), text)) := by
  have hkey : ignoreKey (parseWhitespace text) = ignoreKey text := by
    rw [ignoreKey, ignoreKey, parseWhitespace_idem]
  have hvalue : ignoreValue fuel (some frame) scratch (parseWhitespace text) =
      ignoreValue fuel (some frame) scratch text := by
    cases fuel with
    | zero => rfl
    | succ fuel => rw [ignoreValue, ignoreValue, parseWhitespace_idem]
  simp only [ignoreRest, Option.bind_eq_bind, Option.bind_some, hkey]
  split_ifs with hframe
  · rfl
  · exact hvalue

/-- The key of a part is passed over. -/
theorem KeyText.ignore {frame : Char} {key : List Char} (h : KeyText frame key) (fuel : ℕ)
    (scratch rest : List Char) :
    ignoreRest fuel (some (some (frame, scratch), key ++ rest)) =
      ignoreValue fuel (some frame) scratch rest := by
  cases h with
  | list => rfl
  | @object blank body blank' hblank hbody hblank' =>
    have hquote := parseWhitespace_blank hblank (c := '"') (by decide)
      (body ++ '"' :: (blank' ++ ':' :: rest))
    have hcolon := parseWhitespace_blank hblank' (c := ':') (by decide) rest
    have hstring : ∀ fuel, body.length < fuel →
        ignoreStr fuel (body ++ '"' :: (blank' ++ ':' :: rest)) = some (blank' ++ ':' :: rest) :=
      fun fuel hfuel => hbody.ignore fuel hfuel _
    have hkey : ignoreKey (blank ++ '"' :: (body ++ '"' :: (blank' ++ ':' :: rest))) =
        some rest := by
      simp only [ignoreKey, hquote]
      rw [hstring _ (by simp only [List.length_append]; omega)]
      simp only [Option.bind_eq_bind, Option.bind_some, hcolon]
    simp only [List.append_assoc, List.cons_append, List.nil_append, ignoreRest,
      Option.bind_eq_bind, Option.bind_some, if_true, hkey]

/-! ## The loop and the nested values -/

/-- What the loop does with a text: it uses some of its steps on a value, or on the parts
inside a bracket and the closing bracket, and goes on behind. -/
def Passed : Option Char → List Char → Prop
  | none, text => ∃ k ≤ text.length, ∀ fuel enclosing scratch blank rest,
    Blank blank → Stops rest →
    ignoreValue (fuel + k) enclosing scratch (blank ++ (text ++ rest)) =
      ignoreRest fuel (ignoreNext (enclosing.toList ++ scratch) rest)
  | some frame, text => ∃ k ≤ text.length, ∀ close fuel scratch rest, Brackets frame close →
    ignoreRest (fuel + k) (some (some (frame, scratch), text ++ close :: rest)) =
      ignoreRest fuel (ignoreNext scratch rest)

/-- A value without parts takes one step. -/
theorem Passed.of_start {c : Char} {text : List Char} (hc : isWhitespace c = false)
    (h : ∀ rest, Stops rest → ignoreStart (c :: (text ++ rest)) = some (none, rest)) :
    Passed none (c :: text) := by
  refine ⟨1, by simp, fun fuel enclosing scratch blank rest hblank hrest => ?_⟩
  have hspace := parseWhitespace_blank hblank hc (text ++ rest)
  exact ignoreValue_word (by rw [List.cons_append, hspace, h rest hrest]) fuel enclosing scratch

/-- A digit starts an integer. -/
theorem ignoreStart_digit {c : Char} (hc : c.isDigit) (text : List Char) :
    ignoreStart (c :: text) = (ignoreInteger (c :: text)).map fun text => (none, text) := by
  have hn : c ≠ 'n' := by rintro rfl; cases hc
  have ht : c ≠ 't' := by rintro rfl; cases hc
  have hf : c ≠ 'f' := by rintro rfl; cases hc
  have hminus : c ≠ '-' := by rintro rfl; cases hc
  rw [ignoreStart, if_neg hn, if_neg ht, if_neg hf, if_neg hminus, if_pos hc]

/-- The opening bracket takes one step. -/
theorem ignoreValue_open {frame close : Char} (h : Brackets frame close) {blank : List Char}
    (hblank : Blank blank) (fuel : ℕ) (enclosing : Option Char) (scratch text : List Char) :
    ignoreValue (fuel + 1) enclosing scratch (blank ++ frame :: text) =
      ignoreRest fuel (ignoreClosing false frame (enclosing.toList ++ scratch) text) := by
  refine ignoreValue_bracket ?_ fuel enclosing scratch
  rw [parseWhitespace_blank hblank h.not_whitespace.1]
  rcases h with ⟨rfl, -⟩ | ⟨rfl, -⟩ <;> rfl

/-- **The loop and the nested values.**  The loop passes over every value, and over the parts
in every bracket. -/
theorem Ignored.passed {frame? : Option Char} {text : List Char} (h : Ignored frame? text) :
    Passed frame? text := by
  induction h with
  | word htext =>
    rcases htext with rfl | rfl | rfl
    · exact .of_start (by decide) fun rest _ => rfl
    · exact .of_start (by decide) fun rest _ => rfl
    · exact .of_start (by decide) fun rest _ => rfl
  | number hnumber =>
    obtain ⟨c, digits, rfl, hc⟩ := hnumber.starts
    refine .of_start (isWhitespace_of_isDigit hc) fun rest hrest => ?_
    rw [ignoreStart_digit hc, ← List.cons_append, hnumber.ignore hrest]
    rfl
  | negative hnumber =>
    refine .of_start (by decide) fun rest hrest => ?_
    rw [ignoreStart]
    simp [hnumber.ignore hrest]
  | @string body hbody =>
    refine .of_start (by decide) fun rest _ => ?_
    have hstring := hbody.ignore ((body ++ '"' :: rest).length + 1)
      (by rw [List.length_append]; omega) rest
    rw [List.append_assoc, List.singleton_append]
    exact congrArg (Option.map fun text => (none, text)) hstring
  | @empty frame close blank hframe hblank =>
    refine ⟨1, by simp, fun fuel enclosing scratch blank' rest hblank' _ => ?_⟩
    rw [List.cons_append, ignoreValue_open hframe hblank', List.append_assoc,
      List.singleton_append, ignoreClosing_close hframe hblank]
  | @nested frame close parts hframe hparts ih =>
    obtain ⟨k, hk, hrun⟩ := ih
    refine ⟨k + 1, by simp; omega, fun fuel enclosing scratch blank rest hblank _ => ?_⟩
    rw [List.cons_append, ← Nat.add_assoc, ignoreValue_open hframe hblank, List.append_assoc,
      List.singleton_append, hparts.ignoreClosing_open, ignoreRest_parseWhitespace,
      hrun close fuel _ rest hframe]
  | @last frame key blank value blank' hkey hblank hvalue hblank' ih =>
    obtain ⟨k, hk, hrun⟩ := ih
    refine ⟨k, by simp only [List.length_append]; omega,
      fun close fuel scratch rest hframe => ?_⟩
    have hstops : Stops (blank' ++ close :: rest) := by
      refine Stops.blank hblank' ?_
      rcases hframe with ⟨-, rfl⟩ | ⟨-, rfl⟩
      · exact .inr (.inr (.inl rfl))
      · exact .inr (.inr (.inr rfl))
    rw [List.append_assoc, hkey.ignore, List.append_assoc, List.append_assoc,
      hrun fuel (some frame) scratch blank _ hblank hstops]
    exact congrArg _ (ignoreClosing_close hframe hblank' true scratch rest)
  | @more frame key blank value blank' parts hkey hblank hvalue hblank' hparts ih ih' =>
    obtain ⟨k, hk, hrun⟩ := ih
    obtain ⟨k', hk', hrun'⟩ := ih'
    refine ⟨k' + k, by simp only [List.length_append, List.length_cons]; omega,
      fun close fuel scratch rest hframe => ?_⟩
    have hstops : Stops (blank' ++ ',' :: (parts ++ close :: rest)) :=
      Stops.blank hblank' (.inr (.inl rfl))
    rw [List.append_assoc, hkey.ignore, List.append_assoc, List.append_assoc, List.append_assoc,
      List.cons_append, ← Nat.add_assoc,
      hrun (fuel + k') (some frame) scratch blank _ hblank hstops]
    have hcomma := ignoreClosing_comma frame hblank' scratch (parts ++ close :: rest)
    exact (congrArg _ hcomma).trans (hrun' close fuel scratch rest hframe)

/-- **A value that nobody reads is passed over exactly.** -/
theorem deserializeIgnoredAny_ignored {text : List Char} (h : Ignored none text)
    {blank rest : List Char} (hblank : Blank blank) (hrest : Stops rest) :
    deserializeIgnoredAny (blank ++ (text ++ rest)) = some rest := by
  obtain ⟨k, hk, hrun⟩ := h.passed
  obtain ⟨fuel, hfuel⟩ : ∃ fuel, (blank ++ (text ++ rest)).length + 1 = fuel + k := by
    refine ⟨(blank ++ (text ++ rest)).length + 1 - k, ?_⟩
    simp only [List.length_append]
    omega
  rw [deserializeIgnoredAny, hfuel, hrun fuel none [] blank rest hblank hrest]
  rfl

/-! ## Only values are passed over -/

/-- The reader drops digits in front of what is left. -/
theorem exists_digitsText {text : List Char} (h : startsWithDigit text) :
    ∃ digits, DigitsText digits ∧ text = digits ++ text.dropWhile Char.isDigit := by
  refine ⟨text.takeWhile Char.isDigit, ⟨?_, fun _ hc => List.mem_takeWhile_imp hc⟩,
    List.takeWhile_append_dropWhile.symm⟩
  cases text with
  | nil => exact absurd h Bool.false_ne_true
  | cons c text =>
    rw [List.takeWhile_cons_of_pos (show c.isDigit from h)]
    exact h

/-- What the reader passes over as an exponent is one. -/
theorem exists_exponentText {letter : Char} (hletter : letter = 'e' ∨ letter = 'E')
    {text rest : List Char} (h : ignoreExponent text = some rest) :
    ∃ exponent, ExponentText exponent ∧ letter :: text = exponent ++ rest := by
  obtain ⟨sign, digits, hsign, hdigits, htext⟩ :
      ∃ sign digits, (sign = [] ∨ sign = ['+'] ∨ sign = ['-']) ∧ DigitsText digits ∧
        text = sign ++ (digits ++ rest) := by
    unfold ignoreExponent at h
    split at h
    all_goals
      dsimp only at h
      split_ifs at h with hstart
      obtain ⟨digits, hdigits, htext⟩ := exists_digitsText hstart
      rw [Option.some.inj h] at htext
    · exact ⟨['+'], digits, .inr (.inl rfl), hdigits, congrArg ('+' :: ·) htext⟩
    · exact ⟨['-'], digits, .inr (.inr rfl), hdigits, congrArg ('-' :: ·) htext⟩
    · exact ⟨[], digits, .inl rfl, hdigits, htext⟩
  refine ⟨letter :: (sign ++ digits), .present hletter hsign hdigits, ?_⟩
  rw [htext, List.cons_append, List.append_assoc]

/-- The same where there may be no exponent. -/
theorem exists_optionalExponentText {text rest : List Char}
    (h : ignoreOptionalExponent text = some rest) :
    ∃ exponent, ExponentText exponent ∧ text = exponent ++ rest := by
  unfold ignoreOptionalExponent at h
  split at h
  · exact exists_exponentText (.inl rfl) h
  · exact exists_exponentText (.inr rfl) h
  · cases h
    exact ⟨[], .absent, rfl⟩

/-- What is passed over as a number is one. -/
theorem exists_numberText {text rest : List Char} (h : ignoreInteger text = some rest) :
    ∃ number, NumberText number ∧ text = number ++ rest := by
  rw [ignoreInteger, Option.bind_eq_bind, Option.bind_eq_some_iff] at h
  obtain ⟨⟨n, behind⟩, hscan, h⟩ := h
  obtain rfl := toDigits_of_scanInteger128 hscan
  dsimp only at h
  unfold ignoreOptionalDecimal at h
  split at h
  · rw [ignoreDecimal] at h
    split_ifs at h with hstart
    obtain ⟨digits, hdigits, htext⟩ := exists_digitsText hstart
    obtain ⟨exponent, hexponent, hrest⟩ := exists_optionalExponentText h
    refine ⟨_, .mk n (.present hdigits) hexponent, ?_⟩
    rw [htext, hrest]
    simp
  · obtain ⟨exponent, hexponent, rfl⟩ := exists_optionalExponentText h
    refine ⟨_, .mk n .absent hexponent, ?_⟩
    rw [List.nil_append, List.append_assoc]

/-- What is passed over as a string is one. -/
theorem exists_ignoredChars {fuel : ℕ} {text rest : List Char}
    (h : ignoreStr fuel text = some rest) :
    ∃ body, IgnoredChars body ∧ text = body ++ '"' :: rest := by
  induction fuel generalizing text with
  | zero => cases h
  | succ fuel ih =>
    cases text with
    | nil => cases h
    | cons c text =>
      rw [ignoreStr] at h
      split_ifs at h with hplain hquote hescape
      · obtain ⟨body, hbody, rfl⟩ := ih h
        exact ⟨c :: body, .plain (by simpa using hplain) hbody, rfl⟩
      · cases h
        exact ⟨[], .nil, by rw [hquote]; rfl⟩
      · rw [Option.bind_eq_bind, Option.bind_eq_some_iff] at h
        obtain ⟨behind, hletter, h⟩ := h
        obtain ⟨body, hbody, rfl⟩ := ih h
        cases text with
        | nil => cases hletter
        | cons letter text =>
          rw [ignoreEscape] at hletter
          split_ifs at hletter with hu
          · rw [Option.map_eq_some_iff] at hletter
            obtain ⟨⟨n, behind⟩, hdecode, rfl⟩ := hletter
            obtain ⟨hex, hhex, rfl⟩ := exists_hexText hdecode
            refine ⟨_, .unicode hhex hbody, ?_⟩
            rw [hescape, hu, List.cons_append, List.cons_append, List.append_assoc]
          · rw [Option.map_eq_some_iff] at hletter
            obtain ⟨escaped, hletter, rfl⟩ := hletter
            exact ⟨_, .letter hletter hbody, by rw [hescape]; rfl⟩

/-- What is passed over at the start is a value without parts, or an opening bracket. -/
theorem exists_start {text rest : List Char} {opened : Option Char}
    (h : ignoreStart text = some (opened, rest)) :
    match opened with
    | none => ∃ value, Ignored none value ∧ text = value ++ rest
    | some frame => (frame = '[' ∨ frame = '{') ∧ text = frame :: rest := by
  cases text with
  | nil => cases h
  | cons c text =>
    rw [ignoreStart] at h
    split_ifs at h with hn ht hf hminus hdigit hquote hbracket
    · obtain ⟨rfl, hident⟩ := of_map_parseIdent h
      exact ⟨_, .word (.inl rfl), by rw [hn, hident]; rfl⟩
    · obtain ⟨rfl, hident⟩ := of_map_parseIdent h
      exact ⟨_, .word (.inr (.inl rfl)), by rw [ht, hident]; rfl⟩
    · obtain ⟨rfl, hident⟩ := of_map_parseIdent h
      exact ⟨_, .word (.inr (.inr rfl)), by rw [hf, hident]; rfl⟩
    · obtain ⟨behind, hpassed, h⟩ := Option.map_eq_some_iff.mp h
      cases h
      obtain ⟨number, hnumber, rfl⟩ := exists_numberText hpassed
      exact ⟨_, .negative hnumber, by rw [hminus]; rfl⟩
    · obtain ⟨behind, hpassed, h⟩ := Option.map_eq_some_iff.mp h
      cases h
      obtain ⟨number, hnumber, htext⟩ := exists_numberText hpassed
      exact ⟨_, .number hnumber, htext⟩
    · obtain ⟨behind, hstring, h⟩ := Option.map_eq_some_iff.mp h
      cases h
      obtain ⟨body, hbody, rfl⟩ := exists_ignoredChars hstring
      refine ⟨_, .string hbody, ?_⟩
      rw [hquote, List.cons_append, List.append_assoc, List.singleton_append]
    · cases h
      exact ⟨hbracket, rfl⟩

/-- What the inner loop can do: it takes a comma, or a closing bracket, or nothing. -/
theorem ignoreClosing_cases {acceptComma : Bool} {frame : Char} {scratch text : List Char}
    {next : Option (Char × List Char) × List Char}
    (h : ignoreClosing acceptComma frame scratch text = some next) :
    ∃ blank, Blank blank ∧
      ((∃ rest, acceptComma = true ∧ text = blank ++ ',' :: rest ∧
          next = (some (frame, scratch), rest)) ∨
        (∃ close rest, Brackets frame close ∧ text = blank ++ close :: rest ∧
          ignoreNext scratch rest = some next) ∨
        (acceptComma = false ∧ next = (some (frame, scratch), parseWhitespace text) ∧
          text = blank ++ parseWhitespace text)) := by
  obtain ⟨blank, hblank, htext⟩ := exists_blank text
  refine ⟨blank, hblank, ?_⟩
  unfold ignoreClosing at h
  cases hspace : parseWhitespace text with
  | nil =>
    rw [hspace] at h
    cases h
  | cons c rest =>
    rw [hspace] at h htext
    dsimp only at h
    split_ifs at h with hcomma hclose haccept
    · cases h
      exact .inl ⟨rest, hcomma.2, by rw [htext, hcomma.1], rfl⟩
    · refine .inr (.inl ⟨c, rest, ?_, htext, ?_⟩)
      · exact hclose.imp And.symm And.symm
      · cases scratch <;> exact h
    · cases h
      exact .inr (.inr ⟨by simpa using haccept, rfl, htext⟩)

/-- What the reader passes over as a key is one. -/
theorem exists_keyText {text rest : List Char} (h : ignoreKey text = some rest) :
    ∃ key, KeyText '{' key ∧ text = key ++ rest := by
  obtain ⟨blank, hblank, htext⟩ := exists_blank text
  unfold ignoreKey at h
  split at h
  · rename_i behind hquote
    rw [Option.bind_eq_bind, Option.bind_eq_some_iff] at h
    obtain ⟨behind', hstring, h⟩ := h
    obtain ⟨body, hbody, rfl⟩ := exists_ignoredChars hstring
    obtain ⟨blank', hblank', htext'⟩ := exists_blank behind'
    split at h
    · rename_i hcolon
      cases h
      refine ⟨_, .object hblank hbody hblank', ?_⟩
      rw [htext, hquote, htext', hcolon]
      simp
    · cases h
  · cases h

/-- Whitespace in front of the parts belongs to the first of them. -/
theorem Ignored.blank_parts {frame : Char} {parts blank : List Char}
    (h : Ignored (some frame) parts) (hblank : Blank blank) :
    Ignored (some frame) (blank ++ parts) := by
  have hkey : ∀ {key blank₁ : List Char}, KeyText frame key → Blank blank₁ →
      ∃ key' blank₂, KeyText frame key' ∧ Blank blank₂ ∧
        ∀ rest, blank ++ (key ++ (blank₁ ++ rest)) = key' ++ (blank₂ ++ rest) := by
    intro key blank₁ hkey hblank₁
    cases hkey with
    | list => exact ⟨[], blank ++ blank₁, .list, hblank.append hblank₁, by simp⟩
    | object hspace hbody hspace' =>
      exact ⟨_, blank₁, .object (hblank.append hspace) hbody hspace', hblank₁, by simp⟩
  cases h with
  | last hkeyText hblank₁ hvalue hblank₂ =>
    obtain ⟨key', blank', hkey', hblank', heq⟩ := hkey hkeyText hblank₁
    rw [heq]
    exact .last hkey' hblank' hvalue hblank₂
  | more hkeyText hblank₁ hvalue hblank₂ hparts =>
    obtain ⟨key', blank', hkey', hblank', heq⟩ := hkey hkeyText hblank₁
    rw [heq]
    exact .more hkey' hblank' hvalue hblank₂ hparts

/-- A run of the loop in front of a value passes over one. -/
def PassesValue (fuel : ℕ) : Prop :=
  ∀ enclosing scratch text rest,
    ignoreValue fuel enclosing scratch text = some rest →
    ∃ blank value behind, Blank blank ∧ Ignored none value ∧ text = blank ++ (value ++ behind) ∧
      ∃ left < fuel, ignoreRest left (ignoreNext (enclosing.toList ++ scratch) behind) = some rest

/-- A run of the loop in front of a part passes over the parts and the closing bracket. -/
def PassesParts (fuel : ℕ) : Prop :=
  ∀ frame scratch text rest, frame = '[' ∨ frame = '{' →
    ignoreRest fuel (some (some (frame, scratch), text)) = some rest →
    ∃ parts close behind, Brackets frame close ∧ Ignored (some frame) parts ∧
      text = parts ++ close :: behind ∧
      ∃ left < fuel, ignoreRest left (ignoreNext scratch behind) = some rest

/-- A value with brackets takes one more step than its parts. -/
theorem PassesParts.value {fuel : ℕ} (h : PassesParts fuel) : PassesValue (fuel + 1) := by
  intro enclosing scratch text rest hrun
  obtain ⟨blank, hblank, htext⟩ := exists_blank text
  cases hstart : ignoreStart (parseWhitespace text) with
  | none =>
    rw [ignoreValue, hstart] at hrun
    cases hrun
  | some start =>
    obtain ⟨opened, behind⟩ := start
    have hstartText := exists_start hstart
    cases opened with
    | none =>
      obtain ⟨value, hvalue, hstartText⟩ := hstartText
      rw [ignoreValue_word hstart] at hrun
      exact ⟨blank, value, behind, hblank, hvalue, by rw [htext, hstartText], fuel, by omega, hrun⟩
    | some frame =>
      obtain ⟨hframe, hstartText⟩ := hstartText
      rw [hstartText] at htext
      rw [ignoreValue_bracket hstart] at hrun
      cases hclosing : ignoreClosing false frame (enclosing.toList ++ scratch) behind with
      | none =>
        rw [hclosing] at hrun
        cases hrun
      | some next =>
        rw [hclosing] at hrun
        obtain ⟨blank', hblank', ⟨_, haccept, -⟩ | ⟨close, rest', hclose, hbehind, hnext⟩ |
          ⟨-, hnext, hbehind⟩⟩ := ignoreClosing_cases hclosing
        · cases haccept
        · refine ⟨blank, _, rest', hblank, .empty hclose hblank', ?_, fuel, by omega, ?_⟩
          · rw [htext, hbehind]
            simp
          · rw [hnext]
            exact hrun
        · rw [hnext] at hrun
          obtain ⟨parts, close, behind', hclose, hparts, hspace, left, hleft, hrun⟩ :=
            h _ _ _ _ hframe hrun
          refine ⟨blank, _, behind', hblank, .nested hclose (hparts.blank_parts hblank'), ?_, left,
            by omega, hrun⟩
          rw [htext, hbehind, hspace]
          simp

/-- The parts are passed over one by one, each with the fuel the last one has left. -/
theorem PassesValue.parts {fuel : ℕ} (h : PassesValue fuel)
    (ih : ∀ left < fuel, PassesParts left) : PassesParts fuel := by
  intro frame scratch text rest hframe hpart
  -- the key of the part
  obtain ⟨key, behind, hkey, rfl, hvalueRun⟩ :
      ∃ key behind, KeyText frame key ∧ text = key ++ behind ∧
        ignoreValue fuel (some frame) scratch behind = some rest := by
    rw [ignoreRest, Option.bind_eq_bind, Option.bind_some] at hpart
    dsimp only at hpart
    rcases hframe with rfl | rfl
    · exact ⟨[], text, .list, rfl, hpart⟩
    · rw [if_pos rfl, Option.bind_eq_bind, Option.bind_eq_some_iff] at hpart
      obtain ⟨behind, hkey, hpart⟩ := hpart
      obtain ⟨key, hkey, htext⟩ := exists_keyText hkey
      exact ⟨key, behind, hkey, htext, hpart⟩
  -- its value, and what stands behind it
  obtain ⟨blank, value, behind, hblank, hvalue, rfl, left, hleft, hrun⟩ :=
    h _ _ _ _ hvalueRun
  change ignoreRest left (ignoreClosing true frame scratch behind) = some rest at hrun
  cases hclosing : ignoreClosing true frame scratch behind with
  | none =>
    rw [hclosing] at hrun
    cases hrun
  | some next =>
    rw [hclosing] at hrun
    obtain ⟨blank', hblank', ⟨rest', -, rfl, rfl⟩ | ⟨close, rest', hclose, rfl, hnext⟩ |
      ⟨haccept, -⟩⟩ := ignoreClosing_cases hclosing
    · obtain ⟨parts, close, behind, hclose, hparts, rfl, left', hleft', hrun⟩ :=
        ih left hleft _ _ _ _ hframe hrun
      refine ⟨_, close, behind, hclose, .more hkey hblank hvalue hblank' hparts, by simp, left',
        by omega, hrun⟩
    · refine ⟨_, close, rest', hclose, .last hkey hblank hvalue hblank', by simp, left, hleft, ?_⟩
      rw [hnext]
      exact hrun
    · cases haccept

/-- By induction on the fuel, the loop passes over values and over parts. -/
theorem passes (fuel : ℕ) : PassesValue fuel ∧ PassesParts fuel := by
  induction fuel using Nat.strong_induction_on with
  | _ fuel ih =>
    have hvalue : PassesValue fuel := by
      cases fuel with
      | zero =>
        intro enclosing scratch text rest hrun
        cases hrun
      | succ fuel => exact (ih fuel (Nat.lt_succ_self fuel)).2.value
    exact ⟨hvalue, hvalue.parts fun left hleft => (ih left hleft).2⟩

/-- **Only a value is passed over.** -/
theorem exists_ignored {text rest : List Char} (h : deserializeIgnoredAny text = some rest) :
    ∃ blank value, Blank blank ∧ Ignored none value ∧ text = blank ++ (value ++ rest) := by
  obtain ⟨blank, value, behind, hblank, hvalue, htext, left, -, hrun⟩ := (passes _).1 _ _ _ _ h
  obtain rfl : behind = rest := Option.some.inj hrun
  exact ⟨blank, value, hblank, hvalue, htext⟩

end Json
