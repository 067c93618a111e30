/-
# Numbers and strings in JSON text

The scanner of `vendor/serde_json`: whitespace, words, unsigned numbers and strings (`src/de.rs`,
`src/read.rs`), and the writer of strings (`src/ser.rs`).  A text is the list of its
characters, and a reader takes a value from the front of a text.

For strings a relation says which texts are renderings of a string, with any choice of
escapes.  `parseStr_chars` reads each of them, `exists_stringText` says that nothing else is
read, and the writer's text is one of them.
-/
import Mathlib.Data.List.TakeWhile
import Mathlib.Tactic.IntervalCases

namespace Json

/-- A value from the front of a text and the text behind it; `none` for every error. -/
abbrev Reader (α : Type) := List Char → Option (α × List Char)

/-! ## Whitespace and words -/

def isWhitespace (c : Char) : Bool := c == ' ' || c == '\n' || c == '\t' || c == '\r'

/-- `parse_whitespace`: the text from the first character that is not whitespace. -/
def parseWhitespace (text : List Char) : List Char := text.dropWhile isWhitespace

/-- `parse_ident`: the rest of a word. -/
def parseIdent : List Char → List Char → Option (List Char)
  | [], text => some text
  | _ :: _, [] => none
  | expected :: ident, next :: text => if next = expected then parseIdent ident text else none

/-- A character that a value may start with. -/
def ValueStart (c : Char) : Prop := isWhitespace c = false ∧ c ≠ ',' ∧ c ≠ ']' ∧ c ≠ '}'

instance : DecidablePred ValueStart := fun _ => inferInstanceAs (Decidable (_ ∧ _))

/-- A text of whitespace. -/
def Blank (text : List Char) : Prop := ∀ c ∈ text, isWhitespace c

@[simp] theorem Blank.nil : Blank [] := List.forall_mem_nil _

/-- One more blank. -/
theorem Blank.cons {c : Char} {text : List Char} (hc : isWhitespace c) (h : Blank text) :
    Blank (c :: text) :=
  List.forall_mem_cons.mpr ⟨hc, h⟩

/-- Blanks after blanks. -/
theorem Blank.append {text text' : List Char} (h : Blank text) (h' : Blank text') :
    Blank (text ++ text') :=
  List.forall_mem_append.mpr ⟨h, h'⟩

/-- Whitespace before a character that is none is skipped. -/
theorem parseWhitespace_blank {blank : List Char} (h : Blank blank) {c : Char}
    (hc : isWhitespace c = false) (rest : List Char) :
    parseWhitespace (blank ++ c :: rest) = c :: rest := by
  unfold parseWhitespace
  rw [List.dropWhile_append_of_pos h, List.dropWhile_cons_of_neg (by simp [hc])]

/-- A text of whitespace is skipped whole. -/
theorem parseWhitespace_of_blank {blank : List Char} (h : Blank blank) :
    parseWhitespace blank = [] :=
  List.dropWhile_eq_nil_iff.mpr h

/-- What is skipped in front of a text is whitespace. -/
theorem exists_blank (text : List Char) :
    ∃ blank, Blank blank ∧ text = blank ++ parseWhitespace text :=
  ⟨text.takeWhile isWhitespace, fun _ hc => List.mem_takeWhile_imp hc,
    List.takeWhile_append_dropWhile.symm⟩

/-- Only the identifier itself is read as one. -/
theorem eq_append_of_parseIdent {ident text rest : List Char}
    (h : parseIdent ident text = some rest) : text = ident ++ rest := by
  induction ident generalizing text with
  | nil => exact Option.some.inj h
  | cons expected ident ih =>
    cases text with
    | nil => cases h
    | cons next text =>
      rw [parseIdent] at h
      split_ifs at h with hnext
      rw [hnext, ih h, List.cons_append]

/-- A value that is read from a word. -/
theorem of_map_parseIdent {β : Type} {ident text rest : List Char} {value b : β}
    (h : (parseIdent ident text).map (fun text => (value, text)) = some (b, rest)) :
    b = value ∧ text = ident ++ rest := by
  obtain ⟨behind, hident, heq⟩ := Option.map_eq_some_iff.mp h
  cases heq
  exact ⟨rfl, eq_append_of_parseIdent hident⟩

/-! ## Unsigned numbers -/

/-- The value of a decimal digit. -/
def digit (c : Char) : ℕ := c.toNat - '0'.toNat

/-- The digits at the front of a text, behind those that made `significand`. -/
def parseDigits (significand : ℕ) : List Char → ℕ × List Char
  | [] => (significand, [])
  | c :: text =>
    if c.isDigit then parseDigits (significand * 10 + digit c) text
    else (significand, c :: text)

/-- The text starts with a digit. -/
def startsWithDigit : List Char → Bool
  | c :: _ => c.isDigit
  | [] => false

/-- `scan_integer128`: digits without a leading zero. -/
def scanInteger128 : Reader ℕ
  | [] => none
  | c :: text =>
    if c = '0' then if startsWithDigit text then none else some (0, text)
    else if c.isDigit then some (parseDigits (digit c) text)
    else none

/-- `parse_number`, of a positive number: with a fraction or an exponent it is no integer. -/
def parseNumber (significand : ℕ) : Reader ℕ
  | '.' :: _ => none
  | 'e' :: _ => none
  | 'E' :: _ => none
  | text => some (significand, text)

/-- `parse_integer`, of a positive number: from 2⁶⁴ on it is no integer. -/
def parseInteger (text : List Char) : Option (ℕ × List Char) := do
  let (significand, text) ← scanInteger128 text
  if significand < 2 ^ 64 then parseNumber significand text else none

/-- `deserialize_number`, for the unsigned integers below `bound`; none of them has a sign. -/
def deserializeNumber (bound : ℕ) (text : List Char) : Option (ℕ × List Char) := do
  let (value, text) ← parseInteger (parseWhitespace text)
  if value < bound then some (value, text) else none

/-- `do_deserialize_u128`. -/
def deserializeU128 (text : List Char) : Option (ℕ × List Char) := do
  let (value, text) ← scanInteger128 (parseWhitespace text)
  if value < 2 ^ 128 then some (value, text) else none

/-- The text goes on with whitespace, or with a character that may follow a value. -/
def Stops : List Char → Prop
  | [] => True
  | c :: _ => isWhitespace c ∨ c = ',' ∨ c = ']' ∨ c = '}'

/-- A number does not stop in front of a digit. -/
theorem Stops.not_digit {rest : List Char} (h : Stops rest) : startsWithDigit rest = false := by
  cases rest with
  | nil => rfl
  | cons c rest =>
    rcases h with h | h | h | h
    · simp only [isWhitespace, Bool.or_eq_true, beq_iff_eq] at h
      rcases h with ((h | h) | h) | h <;> subst h <;> rfl
    all_goals subst h; rfl

/-- A number also stops at blanks. -/
theorem Stops.blank {blank rest : List Char} (hblank : Blank blank) (hrest : Stops rest) :
    Stops (blank ++ rest) := by
  cases blank with
  | nil => exact hrest
  | cons c blank => exact .inl (hblank c List.mem_cons_self)

/-- A number that stops is an integer. -/
theorem parseNumber_stops {rest : List Char} (h : Stops rest) (significand : ℕ) :
    parseNumber significand rest = some (significand, rest) := by
  unfold parseNumber
  split
  · exact absurd h (by simp [Stops, isWhitespace])
  · exact absurd h (by simp [Stops, isWhitespace])
  · exact absurd h (by simp [Stops, isWhitespace])
  · rfl

/-- All digits of a text are read. -/
theorem parseDigits_append {digits rest : List Char} (hdigits : ∀ c ∈ digits, c.isDigit)
    (hrest : startsWithDigit rest = false) (significand : ℕ) :
    parseDigits significand (digits ++ rest) =
      (Nat.ofDigitChars 10 digits significand, rest) := by
  induction digits generalizing significand with
  | nil =>
    cases rest with
    | nil => rfl
    | cons c rest =>
      have hc : ¬c.isDigit := by
        rw [show c.isDigit = false from hrest]
        exact Bool.false_ne_true
      rw [List.nil_append, parseDigits, if_neg hc]
      rfl
  | cons c digits ih =>
    obtain ⟨hc, hdigits⟩ := List.forall_mem_cons.mp hdigits
    rw [List.cons_append, parseDigits, if_pos hc, ih hdigits, Nat.ofDigitChars_cons,
      Nat.mul_comm]
    rfl

/-- The decimal digits are digits. -/
theorem isDigit_of_mem {n : ℕ} {c : Char} (h : c ∈ Nat.toDigits 10 n) : c.isDigit :=
  Nat.isDigit_of_mem_toDigits (by decide) (by decide) h

/-- A positive number is not written with a leading zero. -/
theorem toDigits_head_ne_zero {n : ℕ} (hn : 0 < n) : (Nat.toDigits 10 n).head? ≠ some '0' := by
  induction n using Nat.strong_induction_on with
  | _ n ih =>
    by_cases hlt : n < 10
    · rw [Nat.toDigits_of_lt_base hlt]
      interval_cases n <;> decide
    · rw [Nat.toDigits_of_base_le (by decide) (by omega)]
      have hhead := ih (n / 10) (by omega) (by omega)
      cases htext : Nat.toDigits 10 (n / 10) with
      | nil => exact absurd htext Nat.toDigits_ne_nil
      | cons c digits => rwa [htext] at hhead

/-- **The digits of a number are read as the number.** -/
theorem scanInteger128_toDigits (n : ℕ) {rest : List Char}
    (hrest : startsWithDigit rest = false) :
    scanInteger128 (Nat.toDigits 10 n ++ rest) = some (n, rest) := by
  rcases Nat.eq_zero_or_pos n with rfl | hn
  · simp [scanInteger128, hrest]
  · have hvalue := Nat.ofDigitChars_ten_toDigits (n := n)
    have hdigits := fun c (h : c ∈ Nat.toDigits 10 n) => isDigit_of_mem h
    have hhead := toDigits_head_ne_zero hn
    cases htext : Nat.toDigits 10 n with
    | nil => exact absurd htext Nat.toDigits_ne_nil
    | cons c digits =>
      rw [htext] at hvalue hdigits hhead
      obtain ⟨hc, hdigits⟩ := List.forall_mem_cons.mp hdigits
      have hzero : c ≠ '0' := fun h => hhead (by rw [h]; rfl)
      rw [List.cons_append, scanInteger128, if_neg hzero, if_pos hc,
        parseDigits_append hdigits hrest, ← hvalue, Nat.ofDigitChars_cons]
      simp [digit]

/-- A number begins with a digit. -/
theorem toDigits_starts (n : ℕ) : ∃ c digits, Nat.toDigits 10 n = c :: digits ∧ c.isDigit := by
  cases htext : Nat.toDigits 10 n with
  | nil => exact absurd htext Nat.toDigits_ne_nil
  | cons c digits => exact ⟨c, digits, rfl, isDigit_of_mem (htext ▸ List.mem_cons_self)⟩

/-- A digit is no whitespace. -/
theorem isWhitespace_of_isDigit {c : Char} (h : c.isDigit) : isWhitespace c = false := by
  rw [isWhitespace]
  simp only [Bool.or_eq_false_iff, beq_eq_false_iff_ne]
  refine ⟨⟨⟨?_, ?_⟩, ?_⟩, ?_⟩ <;> rintro rfl <;> exact absurd h (by decide)

/-- Whitespace before a number is skipped. -/
theorem parseWhitespace_toDigits {blank : List Char} (h : Blank blank) (n : ℕ)
    (rest : List Char) :
    parseWhitespace (blank ++ (Nat.toDigits 10 n ++ rest)) = Nat.toDigits 10 n ++ rest := by
  obtain ⟨c, digits, htext, hc⟩ := toDigits_starts n
  rw [htext, List.cons_append]
  exact parseWhitespace_blank h (isWhitespace_of_isDigit hc) _

/-- A number in its bound is read from its decimal digits. -/
theorem deserializeNumber_toDigits {n bound : ℕ} (hn : n < bound) (hbound : bound ≤ 2 ^ 64)
    {blank rest : List Char} (hblank : Blank blank) (hrest : Stops rest) :
    deserializeNumber bound (blank ++ (Nat.toDigits 10 n ++ rest)) = some (n, rest) := by
  have hlt : n < 2 ^ 64 := lt_of_lt_of_le hn hbound
  simp only [deserializeNumber, parseInteger, parseWhitespace_toDigits hblank,
    scanInteger128_toDigits n hrest.not_digit, Option.bind_eq_bind, Option.bind_some, if_pos hlt,
    parseNumber_stops hrest, if_pos hn]

/-- The same for a `u128`, which has a reader of its own. -/
theorem deserializeU128_toDigits {n : ℕ} (hn : n < 2 ^ 128) {blank rest : List Char}
    (hblank : Blank blank) (hrest : Stops rest) :
    deserializeU128 (blank ++ (Nat.toDigits 10 n ++ rest)) = some (n, rest) := by
  simp only [deserializeU128, parseWhitespace_toDigits hblank,
    scanInteger128_toDigits n hrest.not_digit, Option.bind_eq_bind, Option.bind_some,
    if_pos hn]

/-! ## Only the digits of a number are read as the number -/

/-- A digit is written back as it was read. -/
theorem digitChar_digit {c : Char} (hc : c.isDigit) : digit c < 10 ∧ (digit c).digitChar = c := by
  rw [Char.isDigit_iff_toNat] at hc
  have hzero : '0'.toNat = 48 := rfl
  have hnine : '9'.toNat = 57 := rfl
  have hlt : digit c < 10 := by
    unfold digit
    omega
  refine ⟨hlt, Char.toNat_inj.mp ?_⟩
  rw [Nat.toNat_digitChar_of_lt_ten hlt, digit]
  omega

/-- One more digit. -/
theorem toDigits_append_digit {significand : ℕ} (hpos : 0 < significand) {c : Char}
    (hc : c.isDigit) :
    Nat.toDigits 10 (significand * 10 + digit c) = Nat.toDigits 10 significand ++ [c] := by
  obtain ⟨hlt, hchar⟩ := digitChar_digit hc
  have happend := Nat.toDigits_append_toDigits (b := 10) (n := significand) (d := digit c)
    (by decide) hpos hlt
  rw [Nat.toDigits_of_lt_base hlt, hchar, Nat.mul_comm] at happend
  exact happend.symm

/-- The digits that are read are those of the number, behind those that were read before. -/
theorem toDigits_parseDigits {significand n : ℕ} {text rest : List Char}
    (hpos : 0 < significand) (h : parseDigits significand text = (n, rest)) :
    Nat.toDigits 10 significand ++ text = Nat.toDigits 10 n ++ rest := by
  induction text generalizing significand with
  | nil =>
    cases h
    rfl
  | cons c text ih =>
    rw [parseDigits] at h
    split_ifs at h with hc
    · have hrun := ih (by omega) h
      rwa [toDigits_append_digit hpos hc, List.append_assoc, List.singleton_append] at hrun
    · cases h
      rfl

/-- **What is read as a number is its digits.** -/
theorem toDigits_of_scanInteger128 {n : ℕ} {text rest : List Char}
    (h : scanInteger128 text = some (n, rest)) : text = Nat.toDigits 10 n ++ rest := by
  cases text with
  | nil => cases h
  | cons c text =>
    rw [scanInteger128] at h
    split_ifs at h with hzero hnext hc
    · cases h
      rw [hzero]
      rfl
    · obtain ⟨hlt, hchar⟩ := digitChar_digit hc
      have hpos : 0 < digit c := by
        rcases Nat.eq_zero_or_pos (digit c) with h0 | hpos
        · rw [h0] at hchar
          exact absurd hchar.symm hzero
        · exact hpos
      have hrun := toDigits_parseDigits hpos (Option.some.inj h)
      rwa [Nat.toDigits_of_lt_base hlt, hchar, List.singleton_append] at hrun

/-- A number that is read as an integer has neither fraction nor exponent. -/
theorem eq_of_parseNumber {significand n : ℕ} {text rest : List Char}
    (h : parseNumber significand text = some (n, rest)) : n = significand ∧ rest = text := by
  unfold parseNumber at h
  split at h
  · cases h
  · cases h
  · cases h
  · cases h
    exact ⟨rfl, rfl⟩

/-- Nothing but the decimal digits of a number is read as that number. -/
theorem toDigits_of_deserializeNumber {bound n : ℕ} {text rest : List Char}
    (h : deserializeNumber bound text = some (n, rest)) :
    n < bound ∧ ∃ blank, Blank blank ∧ text = blank ++ (Nat.toDigits 10 n ++ rest) := by
  obtain ⟨blank, hblank, htext⟩ := exists_blank text
  simp only [deserializeNumber, parseInteger, Option.bind_eq_bind, Option.bind_eq_some_iff] at h
  obtain ⟨⟨n', rest'⟩, ⟨⟨significand, behind⟩, hscan, hnumber⟩, hn⟩ := h
  split_ifs at hn with hbound
  cases hn
  split_ifs at hnumber
  obtain ⟨rfl, rfl⟩ := eq_of_parseNumber hnumber
  exact ⟨hbound, blank, hblank, by rw [← toDigits_of_scanInteger128 hscan, ← htext]⟩

/-- The same for a `u128`. -/
theorem toDigits_of_deserializeU128 {n : ℕ} {text rest : List Char}
    (h : deserializeU128 text = some (n, rest)) :
    n < 2 ^ 128 ∧ ∃ blank, Blank blank ∧ text = blank ++ (Nat.toDigits 10 n ++ rest) := by
  obtain ⟨blank, hblank, htext⟩ := exists_blank text
  simp only [deserializeU128, Option.bind_eq_bind, Option.bind_eq_some_iff] at h
  obtain ⟨⟨n', rest'⟩, hscan, hn⟩ := h
  split_ifs at hn with hbound
  cases hn
  exact ⟨hbound, blank, hblank, by rw [← toDigits_of_scanInteger128 hscan, ← htext]⟩

/-! ## Strings -/

/-- `decode_hex_val_slow`. -/
def decodeHexVal (c : Char) : Option ℕ :=
  if '0' ≤ c ∧ c ≤ '9' then some (c.toNat - '0'.toNat)
  else if 'A' ≤ c ∧ c ≤ 'F' then some (c.toNat - 'A'.toNat + 10)
  else if 'a' ≤ c ∧ c ≤ 'f' then some (c.toNat - 'a'.toNat + 10)
  else none

/-- `decode_hex_escape`. -/
def decodeHexEscape : Reader ℕ
  | a :: b :: c :: d :: text => do
    let a ← decodeHexVal a
    let b ← decodeHexVal b
    let c ← decodeHexVal c
    let d ← decodeHexVal d
    some (((a * 16 + b) * 16 + c) * 16 + d, text)
  | _ => none

/-- `parse_unicode_escape`, for a string that has to be valid: surrogates come in pairs. -/
def parseUnicodeEscape (text : List Char) : Option (Char × List Char) := do
  let (n, text) ← decodeHexEscape text
  if 0xDC00 ≤ n ∧ n ≤ 0xDFFF then none
  else if n < 0xD800 ∨ 0xDBFF < n then some (Char.ofNat n, text)
  else match text with
    | '\\' :: 'u' :: text => do
      let (n2, text) ← decodeHexEscape text
      if n2 < 0xDC00 ∨ 0xDFFF < n2 then none
      else some (Char.ofNat ((n - 0xD800) * 2 ^ 10 + (n2 - 0xDC00) + 0x10000), text)
    | _ => none

/-- What a letter behind a backslash stands for. -/
def escapeLetter (c : Char) : Option Char :=
  match c with
  | '"' => some '"'
  | '\\' => some '\\'
  | '/' => some '/'
  | 'b' => some '\x08'
  | 'f' => some '\x0c'
  | 'n' => some '\n'
  | 'r' => some '\r'
  | 't' => some '\t'
  | _ => none

/-- `parse_escape`. -/
def parseEscape : Reader Char
  | [] => none
  | c :: text =>
    if c = 'u' then parseUnicodeEscape text
    else (escapeLetter c).map fun escaped => (escaped, text)

/-- `is_escape`, with the control characters. -/
def isEscape (c : Char) : Bool := c == '"' || c == '\\' || c.toNat < 0x20

/-- `parse_str`, behind the opening quote, in at most `fuel` steps. -/
def parseStr : ℕ → List Char → Reader String
  | 0, _, _ => none
  | _ + 1, _, [] => none
  | fuel + 1, scratch, c :: text =>
    if !isEscape c then parseStr fuel (scratch ++ [c]) text
    else if c = '"' then some (String.ofList scratch, text)
    else if c = '\\' then do
      let (escaped, text) ← parseEscape text
      parseStr fuel (scratch ++ [escaped]) text
    else none

/-! ## Renderings of a string -/

/-- Four hexadecimal digits of a value. -/
def HexText (n : ℕ) (text : List Char) : Prop := decodeHexEscape text = some (n, [])

/-- The texts of a character inside a string. -/
inductive CharText : Char → List Char → Prop
  | plain {c : Char} : isEscape c = false → CharText c [c]
  | letter {letter c : Char} : escapeLetter letter = some c → CharText c ['\\', letter]
  | unicode {n : ℕ} {hex : List Char} :
    HexText n hex → n < 0xD800 ∨ 0xDFFF < n → CharText (Char.ofNat n) ('\\' :: 'u' :: hex)
  | surrogates {n n2 : ℕ} {hex hex2 : List Char} :
    HexText n hex → 0xD800 ≤ n ∧ n ≤ 0xDBFF → HexText n2 hex2 → 0xDC00 ≤ n2 ∧ n2 ≤ 0xDFFF →
    CharText (Char.ofNat ((n - 0xD800) * 2 ^ 10 + (n2 - 0xDC00) + 0x10000))
      ('\\' :: 'u' :: (hex ++ '\\' :: 'u' :: hex2))

/-- The texts of some characters inside a string. -/
inductive CharsText : List Char → List Char → Prop
  | nil : CharsText [] []
  | cons {c : Char} {cs text texts : List Char} :
    CharText c text → CharsText cs texts → CharsText (c :: cs) (text ++ texts)

/-- The four digits of an escape are read. -/
theorem HexText.decode {n : ℕ} {hex : List Char} (h : HexText n hex) (rest : List Char) :
    decodeHexEscape (hex ++ rest) = some (n, rest) := by
  match hex, h with
  | [a, b, c, d], h =>
    simp only [HexText, decodeHexEscape, Option.bind_eq_bind, Option.bind_eq_some_iff,
      Option.some.injEq, Prod.mk.injEq] at h
    obtain ⟨a', ha, b', hb, c', hc, d', hd, hn, -⟩ := h
    simp only [List.cons_append, List.nil_append, decodeHexEscape, ha, hb, hc, hd, hn,
      Option.bind_eq_bind, Option.bind_some]
  | [], h => exact absurd h (by simp [HexText, decodeHexEscape])
  | [_], h => exact absurd h (by simp [HexText, decodeHexEscape])
  | [_, _], h => exact absurd h (by simp [HexText, decodeHexEscape])
  | [_, _, _], h => exact absurd h (by simp [HexText, decodeHexEscape])
  | a :: b :: c :: d :: e :: hex, h =>
    simp only [HexText, decodeHexEscape, Option.bind_eq_bind, Option.bind_eq_some_iff,
      Option.some.injEq, Prod.mk.injEq] at h
    obtain ⟨_, _, _, _, _, _, _, _, _, hrest⟩ := h
    cases hrest

/-- A character that is not written as itself is an escape. -/
theorem CharText.escape {c : Char} {text : List Char} (h : CharText c text) :
    (isEscape c = false ∧ text = [c]) ∨
      ∃ escaped, text = '\\' :: escaped ∧
        ∀ rest, parseEscape (escaped ++ rest) = some (c, rest) := by
  cases h with
  | plain hc => exact .inl ⟨hc, rfl⟩
  | @letter letter c hc =>
    refine .inr ⟨[letter], rfl, fun rest => ?_⟩
    have hu : letter ≠ 'u' := by
      rintro rfl
      cases hc
    rw [List.singleton_append, parseEscape, if_neg hu, hc]
    rfl
  | @unicode n hex hhex hn =>
    refine .inr ⟨'u' :: hex, rfl, fun rest => ?_⟩
    have hlow : ¬(0xDC00 ≤ n ∧ n ≤ 0xDFFF) := by omega
    have hhigh : n < 0xD800 ∨ 0xDBFF < n := by omega
    simp only [List.cons_append, parseEscape, if_true, parseUnicodeEscape, hhex.decode rest,
      Option.bind_eq_bind, Option.bind_some, if_neg hlow, if_pos hhigh]
  | @surrogates n n2 hex hex2 hhex hn hhex2 hn2 =>
    refine .inr ⟨'u' :: (hex ++ '\\' :: 'u' :: hex2), rfl, fun rest => ?_⟩
    have hlow : ¬(0xDC00 ≤ n ∧ n ≤ 0xDFFF) := by omega
    have hhigh : ¬(n < 0xD800 ∨ 0xDBFF < n) := by omega
    have hlow2 : ¬(n2 < 0xDC00 ∨ 0xDFFF < n2) := by omega
    simp only [List.cons_append, List.append_assoc, parseEscape, if_true, parseUnicodeEscape,
      hhex.decode, hhex2.decode, Option.bind_eq_bind, Option.bind_some, if_neg hlow,
      if_neg hhigh, if_neg hlow2]

/-- **Every rendering of a string is read as the string.** -/
theorem parseStr_chars {cs text : List Char} (h : CharsText cs text) (fuel : ℕ)
    (hfuel : text.length < fuel) (scratch rest : List Char) :
    parseStr fuel scratch (text ++ '"' :: rest) =
      some (String.ofList (scratch ++ cs), rest) := by
  induction h generalizing fuel scratch with
  | nil =>
    obtain ⟨fuel, rfl⟩ := Nat.exists_eq_add_of_lt hfuel
    simp [parseStr, isEscape]
  | @cons c cs text texts hc _ ih =>
    obtain ⟨fuel, rfl⟩ : ∃ n, fuel = n + 1 := ⟨fuel - 1, by omega⟩
    rcases hc.escape with ⟨hplain, rfl⟩ | ⟨escaped, rfl, hescaped⟩
    · rw [List.length_append, List.length_singleton] at hfuel
      rw [List.append_assoc, List.singleton_append, parseStr, if_pos (by simp [hplain]),
        ih _ (by omega), List.append_assoc, List.singleton_append]
    · rw [List.length_append, List.length_cons] at hfuel
      have hstep := ih fuel (by omega) (scratch ++ [c])
      rw [List.append_assoc, List.singleton_append] at hstep
      simp only [List.cons_append, List.append_assoc, parseStr, isEscape, hescaped,
        beq_self_eq_true, Option.bind_eq_bind, Option.bind_some, hstep]
      rfl

/-- `deserialize_str`; the text behind the quote bounds the number of steps. -/
def deserializeStr (text : List Char) : Option (String × List Char) :=
  match parseWhitespace text with
  | '"' :: text => parseStr (text.length + 1) [] text
  | _ => none

/-- The texts of a string. -/
def StringText (value : String) (text : List Char) : Prop :=
  ∃ body, CharsText value.toList body ∧ text = '"' :: (body ++ ['"'])

/-- The text of a string is read, with as much fuel as it has characters. -/
theorem StringText.parse {value : String} {text : List Char} (h : StringText value text)
    (rest : List Char) :
    ∃ body, text = '"' :: body ∧
      ∀ fuel, body.length ≤ fuel → parseStr fuel [] (body ++ rest) = some (value, rest) := by
  obtain ⟨body, hbody, rfl⟩ := h
  refine ⟨body ++ ['"'], rfl, fun fuel hfuel => ?_⟩
  rw [List.length_append, List.length_singleton] at hfuel
  rw [List.append_assoc, List.singleton_append, parseStr_chars hbody fuel hfuel, List.nil_append,
    String.ofList_toList]

/-- The text of a string is read after blanks. -/
theorem deserializeStr_text {value : String} {text : List Char} (h : StringText value text)
    {blank : List Char} (hblank : Blank blank) (rest : List Char) :
    deserializeStr (blank ++ (text ++ rest)) = some (value, rest) := by
  obtain ⟨body, rfl, hparse⟩ := h.parse rest
  unfold deserializeStr
  rw [List.cons_append, parseWhitespace_blank hblank (by decide)]
  exact hparse _ (by rw [List.length_append]; omega)

/-! ## Only the texts of a string are read as the string -/

/-- Four digits are read and nothing else. -/
theorem exists_hexText {n : ℕ} {text rest : List Char}
    (h : decodeHexEscape text = some (n, rest)) : ∃ hex, HexText n hex ∧ text = hex ++ rest := by
  match text, h with
  | a :: b :: c :: d :: text, h =>
    have hdecode := h
    simp only [decodeHexEscape, Option.bind_eq_bind, Option.bind_eq_some_iff,
      Option.some.injEq, Prod.mk.injEq] at h
    obtain ⟨a', ha, b', hb, c', hc, d', hd, hn, rfl⟩ := h
    refine ⟨[a, b, c, d], ?_, rfl⟩
    simp only [HexText, decodeHexEscape, ha, hb, hc, hd, hn, Option.bind_eq_bind,
      Option.bind_some]
  | [], h => cases h
  | [_], h => cases h
  | [_, _], h => cases h
  | [_, _, _], h => cases h

/-- What is read after `\u` is the text of the character. -/
theorem exists_charText_of_unicode {c : Char} {text rest : List Char}
    (h : parseUnicodeEscape text = some (c, rest)) :
    ∃ body, CharText c ('\\' :: 'u' :: body) ∧ text = body ++ rest := by
  rw [parseUnicodeEscape, Option.bind_eq_bind, Option.bind_eq_some_iff] at h
  obtain ⟨⟨n, behind⟩, hdecode, h⟩ := h
  obtain ⟨hex, hhex, rfl⟩ := exists_hexText hdecode
  dsimp only at h
  split_ifs at h with hlow hhigh
  · cases h
    exact ⟨hex, .unicode hhex (by omega), rfl⟩
  · -- a leading surrogate needs a trailing one
    split at h
    · rename_i behind
      rw [Option.bind_eq_some_iff] at h
      obtain ⟨⟨n2, behind2⟩, hdecode2, h⟩ := h
      obtain ⟨hex2, hhex2, rfl⟩ := exists_hexText hdecode2
      dsimp only at h
      split_ifs at h with hlow2
      obtain ⟨rfl, rfl⟩ := Prod.mk.inj (Option.some.inj h)
      refine ⟨_, .surrogates hhex (by omega) hhex2 (by omega), ?_⟩
      rw [List.append_assoc, List.cons_append, List.cons_append]
    · cases h

/-- What is read after a backslash is the text of the character. -/
theorem exists_charText_of_escape {c : Char} {text rest : List Char}
    (h : parseEscape text = some (c, rest)) :
    ∃ body, CharText c ('\\' :: body) ∧ text = body ++ rest := by
  cases text with
  | nil => cases h
  | cons letter text =>
    rw [parseEscape] at h
    split_ifs at h with hu
    · obtain ⟨body, hbody, rfl⟩ := exists_charText_of_unicode h
      exact ⟨'u' :: body, hbody, by rw [hu, List.cons_append]⟩
    · rw [Option.map_eq_some_iff] at h
      obtain ⟨escaped, hletter, h⟩ := h
      cases h
      exact ⟨[letter], .letter hletter, rfl⟩

/-- **What is read as a string is one of its texts.** -/
theorem exists_charsText_of_parseStr {fuel : ℕ} {scratch text rest : List Char} {value : String}
    (h : parseStr fuel scratch text = some (value, rest)) :
    ∃ cs body, CharsText cs body ∧ value = String.ofList (scratch ++ cs) ∧
      text = body ++ '"' :: rest := by
  induction fuel generalizing scratch text with
  | zero => cases h
  | succ fuel ih =>
    cases text with
    | nil => cases h
    | cons c text =>
      rw [parseStr] at h
      split_ifs at h with hplain hquote hescape
      · obtain ⟨cs, body, hbody, hvalue, rfl⟩ := ih h
        refine ⟨c :: cs, [c] ++ body, .cons (.plain (by simpa using hplain)) hbody, ?_, rfl⟩
        rwa [List.append_assoc, List.singleton_append] at hvalue
      · cases h
        exact ⟨[], [], .nil, by rw [List.append_nil], by rw [hquote]; rfl⟩
      · simp only [Option.bind_eq_bind, Option.bind_eq_some_iff] at h
        obtain ⟨⟨escaped, behind⟩, hletter, h⟩ := h
        obtain ⟨cs, body, hbody, hvalue, rfl⟩ := ih h
        obtain ⟨body', hbody', rfl⟩ := exists_charText_of_escape hletter
        refine ⟨escaped :: cs, ('\\' :: body') ++ body, .cons hbody' hbody, ?_, ?_⟩
        · rwa [List.append_assoc, List.singleton_append] at hvalue
        · rw [hescape, List.cons_append, List.cons_append, List.append_assoc]

/-- What is read up to the closing quote is the text of the string. -/
theorem exists_stringText {fuel : ℕ} {text rest : List Char} {value : String}
    (h : parseStr fuel [] text = some (value, rest)) :
    ∃ body, StringText value ('"' :: body) ∧ text = body ++ rest := by
  obtain ⟨cs, body, hbody, rfl, rfl⟩ := exists_charsText_of_parseStr h
  rw [List.nil_append]
  refine ⟨body ++ ['"'], ⟨body, by rwa [String.toList_ofList], rfl⟩, ?_⟩
  rw [List.append_assoc, List.singleton_append]

/-- The same after blanks. -/
theorem exists_stringText_of_deserializeStr {text rest : List Char} {value : String}
    (h : deserializeStr text = some (value, rest)) :
    ∃ blank body, Blank blank ∧ StringText value body ∧ text = blank ++ (body ++ rest) := by
  obtain ⟨blank, hblank, htext⟩ := exists_blank text
  unfold deserializeStr at h
  split at h
  · rename_i behind hquote
    obtain ⟨body, hbody, rfl⟩ := exists_stringText h
    exact ⟨blank, _, hblank, hbody, by rw [htext, hquote, List.cons_append]⟩
  · cases h

/-! ## The writer of strings -/

/-- `CharEscape`. -/
inductive CharEscape
  | quote
  | reverseSolidus
  | backspace
  | formFeed
  | lineFeed
  | carriageReturn
  | tab
  | asciiControl (byte : ℕ)

/-- The table `ESCAPE`: the characters that are not written as themselves. -/
def charEscape (c : Char) : Option CharEscape :=
  match c with
  | '\x08' => some .backspace
  | '\t' => some .tab
  | '\n' => some .lineFeed
  | '\x0c' => some .formFeed
  | '\r' => some .carriageReturn
  | '"' => some .quote
  | '\\' => some .reverseSolidus
  | c => if c.toNat < 0x20 then some (.asciiControl c.toNat) else none

/-- `write_char_escape`. -/
def writeCharEscape : CharEscape → List Char
  | .quote => ['\\', '"']
  | .reverseSolidus => ['\\', '\\']
  | .backspace => ['\\', 'b']
  | .formFeed => ['\\', 'f']
  | .lineFeed => ['\\', 'n']
  | .carriageReturn => ['\\', 'r']
  | .tab => ['\\', 't']
  | .asciiControl byte =>
    ['\\', 'u', '0', '0', Nat.digitChar (byte / 16), Nat.digitChar (byte % 16)]

/-- `format_escaped_str_contents`, for one character. -/
def escapeChar (c : Char) : List Char :=
  match charEscape c with
  | some escape => writeCharEscape escape
  | none => [c]

/-- `format_escaped_str`. -/
def formatEscapedStr (value : String) : List Char :=
  '"' :: (value.toList.flatMap escapeChar ++ ['"'])

/-- The digits the printer writes for a control character are read back. -/
theorem decodeHexEscape_control :
    ∀ byte < 0x20, decodeHexEscape
      ['0', '0', Nat.digitChar (byte / 16), Nat.digitChar (byte % 16)] = some (byte, []) := by
  decide

/-- The writer's text of a character is one of its texts. -/
theorem charText_escapeChar (c : Char) : CharText c (escapeChar c) := by
  unfold escapeChar charEscape
  split
  · rename_i escape hescape
    split at hescape
    case h_8 =>
      split_ifs at hescape with hcontrol
      cases hescape
      have htext := CharText.unicode (decodeHexEscape_control c.toNat hcontrol)
        (.inl (by omega))
      rwa [Char.ofNat_toNat] at htext
    all_goals
      cases hescape
      exact .letter rfl
  · rename_i hescape
    refine .plain ?_
    split at hescape <;> simp_all [isEscape]

/-- What the printer writes for characters is a text of them. -/
theorem charsText_escape (cs : List Char) : CharsText cs (cs.flatMap escapeChar) := by
  induction cs with
  | nil => exact .nil
  | cons c cs ih => exact .cons (charText_escapeChar c) ih

/-- And what it writes for a string is a text of it. -/
theorem stringText_formatEscapedStr (value : String) :
    StringText value (formatEscapedStr value) :=
  ⟨_, charsText_escape value.toList, rfl⟩

end Json
