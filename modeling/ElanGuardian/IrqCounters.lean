/-
# The interrupt counters

`src/irq.rs`: the sum of the counters of the driver's interrupts, from the table in
`/proc/interrupts`.

The loops are followed over any text (`parseTotal_eq`).  A table is given by its rows, which
carry the derivation of their counters in the grammar `Counts`:

* `leadingCounters_splitWhitespace`: the fields of a text begin with the counters that the
  grammar gives it;
* `lines_tableText`: the lines of a table stand for its rows;
* `parseTotal_table`: the total is that of the rows of the driver.
-/
import ElanGuardian.Fields
import ElanGuardian.Sysfs
import ElanGuardian.Words

open Sysfs

namespace IrqCounters

/-- A line without the carriage return before its line feed. -/
def stripCarriageReturn (line : List Char) : List Char :=
  if line.getLast? = some '\r' then line.dropLast else line

/-- `str::lines`: a line feed ends a line, and the last line may go without one. -/
def lines (text : List Char) : List (List Char) :=
  let segments := text.splitOn '\n'
  segments.dropLast.map stripCarriageReturn ++ (segments.getLast?.toList.filter (· ≠ []))

/-- `str::split_whitespace`. -/
def splitWhitespace (text : List Char) : List (List Char) :=
  (text.splitOnP isWhitespace).filter (· ≠ [])

/-- `str::contains`. -/
def containsText (part text : List Char) : Bool := text.tails.any part.isPrefixOf

/-- The loop over the fields of a line: `total` and `line_found`. -/
def addCounters (total : UInt64) (lineFound : Bool) : List (List Char) → UInt64 × Bool
  | [] => (total, lineFound)
  | field :: fields =>
    match parseUnsigned 64 field with
    | none => (total, lineFound)
    | some value => addCounters (saturatingAdd total (UInt64.ofNat value)) true fields

/-- The loop over the lines of the driver: `total` and `found`; `none` is the return for a
line without a colon. -/
def addLines (total : UInt64) (found : Bool) : List (List Char) → Option (UInt64 × Bool)
  | [] => some (total, found)
  | line :: rest =>
    (splitOnce ':' line).bind fun (_, counters) =>
      let counted := addCounters total false (splitWhitespace counters)
      addLines counted.1 (found || counted.2) rest

/-- `parse_total`. -/
def parseTotal (contents : String) : Option UInt64 :=
  (addLines 0 false ((lines contents.toList).filter (containsText "elan_i2c".toList))).bind
    fun (total, found) => if found then some total else none

/-- `total_from_proc`, once the table has been read. -/
def totalOf (contents : IoResult String) : IoResult UInt64 :=
  match contents with
  | .error e => .error e
  | .ok text =>
    match parseTotal text with
    | none => .error ⟨.notFound, "elan_i2c IRQ is not registered"⟩
    | some total => .ok total

example : parseTotal " 16: 10 20 0 IR-IO-APIC i801_smbus\n206: 7 8 9 dummy elan_i2c\n"
    = some 24 := by
  decide +kernel

example : parseTotal "16: 10 20 IR-IO-APIC i801_smbus\n" = none := by
  decide +kernel

/-! ## Counters -/

/-- A decimal `u64`, as its text: digits, perhaps after a plus sign. -/
structure Counter where
  plus : Bool
  digits : List Char
  nonempty : digits ≠ []
  isDigit : ∀ c ∈ digits, c.isDigit = true
  fits : Nat.ofDigitChars 10 digits 0 < 2 ^ 64

def Counter.value (c : Counter) : ℕ := Nat.ofDigitChars 10 c.digits 0

def Counter.text (c : Counter) : List Char := if c.plus then '+' :: c.digits else c.digits

/-- The counters that the fields of a line begin with. -/
def leadingCounters : List (List Char) → List ℕ
  | [] => []
  | field :: fields =>
    match parseUnsigned 64 field with
    | none => []
    | some value => value :: leadingCounters fields

/-- The counters of a line, if it has a label. -/
def lineCounters (line : List Char) : Option (List ℕ) :=
  (splitOnce ':' line).map fun (_, counters) => leadingCounters (splitWhitespace counters)

section Counters

variable {field : List Char} {n : ℕ} {total : UInt64} {found : Bool}

/-- **A field is parsed just if it is a counter.** -/
theorem parseUnsigned_eq_some :
    parseUnsigned 64 field = some n ↔ ∃ c : Counter, c.text = field ∧ c.value = n := by
  constructor
  · intro h
    obtain ⟨digits, htext, hne, hdigits, hvalue, hfits⟩ := of_parseUnsigned_eq_some h
    rw [← hvalue] at hfits
    rcases htext with rfl | rfl
    · exact ⟨⟨false, _, hne, hdigits, hfits⟩, rfl, hvalue⟩
    · exact ⟨⟨true, _, hne, hdigits, hfits⟩, rfl, hvalue⟩
  · rintro ⟨c, rfl, rfl⟩
    have hparse : parseUnsigned 64 c.digits = some c.value := by
      rw [parseUnsigned_digits c.isDigit c.nonempty, if_pos c.fits, Counter.value]
    unfold Counter.text
    split_ifs
    · rw [parseUnsigned_plus c.isDigit, hparse]
    · exact hparse

/-- A field is no number just if it is the text of none. -/
theorem parseUnsigned_eq_none :
    parseUnsigned 64 field = none ↔ ∀ c : Counter, c.text ≠ field := by
  rw [Option.eq_none_iff_forall_ne_some]
  constructor
  · intro h c htext
    exact h c.value (parseUnsigned_eq_some.mpr ⟨c, htext, rfl⟩)
  · intro h n hparse
    obtain ⟨c, htext, -⟩ := parseUnsigned_eq_some.mp hparse
    exact h c htext

/-- Without counters, the total and the flag stay as they are. -/
theorem count_nil (total : UInt64) (found : Bool) :
    total.toNat = min (total.toNat + ([] : List ℕ).sum) (2 ^ 64 - 1)
      ∧ found = (found || ([] : List ℕ) ≠ []) := by
  have htotal := total.toNat_lt
  constructor
  · rw [List.sum_nil]
    omega
  · simp

/-- The loop over the fields adds their leading counters, with saturation. -/
theorem addCounters_eq (fields : List (List Char)) (total : UInt64) (found : Bool) :
    (addCounters total found fields).1.toNat
        = min (total.toNat + (leadingCounters fields).sum) (2 ^ 64 - 1)
      ∧ (addCounters total found fields).2 = (found || leadingCounters fields ≠ []) := by
  induction fields generalizing total found with
  | nil => exact count_nil total found
  | cons field fields ih =>
    unfold addCounters leadingCounters
    cases hparse : parseUnsigned 64 field with
    | none =>
      -- the loop breaks at the first field that is no counter
      exact count_nil total found
    | some value =>
      obtain ⟨c, -, rfl⟩ := parseUnsigned_eq_some.mp hparse
      have hvalue : (UInt64.ofNat c.value).toNat = c.value := by
        rw [UInt64.toNat_ofNat']
        exact Nat.mod_eq_of_lt c.fits
      obtain ⟨hsum, hfound⟩ := ih (saturatingAdd total (UInt64.ofNat c.value)) true
      constructor
      · show (addCounters _ true fields).1.toNat = _
        rw [hsum, Words.saturatingAdd_toNat, hvalue, List.sum_cons]
        omega
      · show (addCounters _ true fields).2 = _
        rw [hfound]
        simp

/-- The loop over the lines adds the counters of all, and finds out whether there are any. -/
theorem addLines_eq {lines : List (List Char)} {counts : List (List ℕ)}
    (h : List.Forall₂ (fun line ns => lineCounters line = some ns) lines counts) (total : UInt64)
    (found : Bool) :
    ∃ sum : UInt64, addLines total found lines = some (sum, found || counts.flatten ≠ [])
      ∧ sum.toNat = min (total.toNat + counts.flatten.sum) (2 ^ 64 - 1) := by
  induction h generalizing total found with
  | nil =>
    obtain ⟨hsum, hfound⟩ := count_nil total found
    exact ⟨total, congrArg (fun b => some (total, b)) hfound, hsum⟩
  | @cons line ns lines counts hline _ ih =>
    obtain ⟨⟨label, counters⟩, hsplit, hns⟩ := Option.map_eq_some_iff.mp hline
    have hns : leadingCounters (splitWhitespace counters) = ns := hns
    obtain ⟨hcounted, hfound⟩ := addCounters_eq (splitWhitespace counters) total false
    obtain ⟨sum, hrun, hsum⟩ := ih (addCounters total false (splitWhitespace counters)).1
      (found || (addCounters total false (splitWhitespace counters)).2)
    refine ⟨sum, ?_, ?_⟩
    · rw [addLines, hsplit, Option.bind_some]
      show addLines _ (found || _) lines = _
      rw [hrun, hfound, hns, List.flatten_cons]
      simp [Bool.or_assoc]
    · rw [hsum, hcounted, hns, List.flatten_cons, List.sum_append]
      omega

/-- **What `parse_total` returns**, if all lines of the driver have labels. -/
theorem parseTotal_eq {contents : String} {counts : List (List ℕ)}
    (h : List.Forall₂ (fun line ns => lineCounters line = some ns)
      ((lines contents.toList).filter (containsText "elan_i2c".toList)) counts) :
    parseTotal contents = if counts.flatten = [] then none
      else some (UInt64.ofNat (min (2 ^ 64 - 1) counts.flatten.sum)) := by
  obtain ⟨sum, hrun, hsum⟩ := addLines_eq h 0 false
  have htotal : sum = UInt64.ofNat (min (2 ^ 64 - 1) counts.flatten.sum) := by
    rw [← UInt64.ofNat_toNat (x := sum), hsum, UInt64.toNat_zero, Nat.zero_add, min_comm]
  rw [parseTotal, hrun, Option.bind_some, htotal]
  by_cases hnone : counts.flatten = []
  · simp [hnone]
  · simp [hnone]

end Counters

/-! ## Lines -/

section Lines

variable {line part : List Char} {c : Char}

/-- A line contains a text just if the text is a part of it. -/
theorem containsText_iff : containsText part line = true ↔ part <:+: line := by
  unfold containsText
  rw [List.any_eq_true, List.infix_iff_prefix_suffix]
  refine exists_congr fun t => ?_
  rw [List.mem_tails, List.isPrefixOf_iff_prefix, and_comm]

/-- The lines are the segments between the line feeds, and what is behind the last of these. -/
theorem lines_of_splitOn {text last : List Char} {segments : List (List Char)}
    (h : text.splitOn '\n' = segments ++ [last]) :
    lines text = segments.map stripCarriageReturn ++ if last = [] then [] else [last] := by
  unfold lines
  dsimp only
  rw [h, List.dropLast_concat, List.getLast?_concat]
  by_cases hlast : last = []
  · simp [hlast]
  · simp [hlast]

/-- A line is cut before its end. -/
theorem splitOnce_concat (hc : c ≠ ':') :
    splitOnce ':' (line ++ [c])
      = (splitOnce ':' line).map fun (label, counters) => (label, counters ++ [c]) := by
  induction line with
  | nil => simp [splitOnce, hc]
  | cons d line ih =>
    rw [List.cons_append]
    unfold splitOnce
    split_ifs
    · rfl
    · rw [ih, Option.map_map, Option.map_map]
      rfl

/-- A line either has no carriage return at its end, or is one with it. -/
theorem stripCarriageReturn_cases (line : List Char) :
    stripCarriageReturn line = line ∨ line = stripCarriageReturn line ++ ['\r'] := by
  unfold stripCarriageReturn
  split_ifs with hlast
  · right
    exact (List.dropLast_append_getLast? '\r' hlast).symm
  · left
    rfl

/-- A carriage return at the end is white space behind the last field. -/
theorem lineCounters_stripCarriageReturn (line : List Char) :
    lineCounters (stripCarriageReturn line) = lineCounters line := by
  rcases stripCarriageReturn_cases line with heq | heq
  · rw [heq]
  · have hspace (counters : List Char) :
        splitWhitespace (counters ++ ['\r']) = splitWhitespace counters :=
      Fields.fields_concat (by decide) counters
    conv_rhs => rw [heq]
    unfold lineCounters
    rw [splitOnce_concat (by decide), Option.map_map]
    congr 1
    funext x
    show leadingCounters _ = leadingCounters (splitWhitespace (x.2 ++ ['\r']))
    rw [hspace]

/-- A text without carriage returns is not found at the end of a line that has one. -/
theorem infix_stripCarriageReturn (hpart : '\r' ∉ part) (line : List Char) :
    part <:+: stripCarriageReturn line ↔ part <:+: line := by
  rcases stripCarriageReturn_cases line with heq | heq
  · rw [heq]
  · conv_rhs => rw [heq, List.infix_concat_iff, List.suffix_concat_iff]
    constructor
    · exact .inr
    · rintro ((rfl | ⟨t, rfl, -⟩) | h)
      · exact List.nil_infix
      · exact absurd (List.mem_append_right t List.mem_cons_self) hpart
      · exact h

end Lines

/-! ## Tables -/

/-- **The grammar of a line behind its label**: the text begins with these counters.  There may
be white space before everything; a counter is followed by white space; and then comes a token
that is no counter, with white space or nothing after it. -/
inductive Counts : List Char → List ℕ → Prop
  | blank {c : Char} {text : List Char} {ns : List ℕ} (hc : isWhitespace c = true)
      (h : Counts text ns) : Counts (c :: text) ns
  | counter (c : Counter) {sep : Char} {text : List Char} {ns : List ℕ}
      (hsep : isWhitespace sep = true) (h : Counts text ns) :
      Counts (c.text ++ sep :: text) (c.value :: ns)
  | last {token : List Char} (hne : token ≠ []) (hblank : ∀ c ∈ token, isWhitespace c = false)
      (hcounter : ∀ c : Counter, c.text ≠ token) : Counts token []
  | more {token : List Char} {sep : Char} (rest : List Char) (hne : token ≠ [])
      (hblank : ∀ c ∈ token, isWhitespace c = false) (hcounter : ∀ c : Counter, c.text ≠ token)
      (hsep : isWhitespace sep = true) : Counts (token ++ sep :: rest) []

/-- A row: a label and a colon, and a text that begins with the counters. -/
structure Row where
  label : List Char
  body : List Char
  counters : List ℕ
  noColon : ':' ∉ label
  counts : Counts body counters
  oneLine : '\n' ∉ label ∧ '\n' ∉ body

def Row.text (row : Row) : List Char := row.label ++ ':' :: row.body

/-- The row is one of the driver. -/
def Row.Elan (row : Row) : Prop := "elan_i2c".toList <:+: row.text

instance : DecidablePred Row.Elan := fun row =>
  inferInstanceAs (Decidable ("elan_i2c".toList <:+: row.text))

/-- The table: its rows as lines, of which the last may be ended too. -/
def tableText (rows : List Row) (ended : Bool) : String :=
  String.ofList (['\n'].intercalate (rows.map Row.text ++ if ended then [[]] else []))

/-- The counters of the rows of the driver. -/
def elanCounters (rows : List Row) : List ℕ := (rows.filter Row.Elan).flatMap Row.counters

section Tables

variable {text : List Char} {ns : List ℕ} {rows rows' : List Row} {row : Row}

/-- A digit is no whitespace. -/
theorem not_isWhitespace_of_isDigit {c : Char} (h : c.isDigit = true) :
    isWhitespace c = false := by
  have hle : c ≤ '9' := by
    rw [Char.isDigit, Bool.and_eq_true, decide_eq_true_eq, decide_eq_true_eq] at h
    exact h.2
  rw [isWhitespace, Bool.or_eq_false_iff, decide_eq_false_iff_not]
  constructor
  · intro hmem
    simp only [List.mem_cons, List.not_mem_nil, or_false] at hmem
    rcases hmem with rfl | rfl | rfl | rfl | rfl | rfl | rfl | rfl | rfl | rfl | rfl | rfl | rfl
      | rfl <;> exact absurd h (by decide)
  · rw [Bool.and_eq_false_iff, decide_eq_false_iff_not]
    left
    intro hge
    exact absurd (Char.le_trans hge hle) (by decide)

/-- A counter has a text. -/
theorem Counter.text_ne_nil (c : Counter) : c.text ≠ [] := by
  unfold Counter.text
  split_ifs
  · exact List.cons_ne_nil _ _
  · exact c.nonempty

/-- And no whitespace in it. -/
theorem Counter.not_isWhitespace (c : Counter) : ∀ d ∈ c.text, isWhitespace d = false := by
  have hdigits : ∀ d ∈ c.digits, isWhitespace d = false := fun d hd =>
    not_isWhitespace_of_isDigit (c.isDigit d hd)
  unfold Counter.text
  split_ifs
  · exact List.forall_mem_cons.mpr ⟨by decide, hdigits⟩
  · exact hdigits

/-- A token that is no counter ends the counters. -/
theorem leadingCounters_cons_of_not_counter {token : List Char}
    (hcounter : ∀ c : Counter, c.text ≠ token) (fields : List (List Char)) :
    leadingCounters (token :: fields) = [] := by
  rw [leadingCounters, parseUnsigned_eq_none.mpr hcounter]

/-- **A text of the grammar is read as it is written.** -/
theorem leadingCounters_splitWhitespace (h : Counts text ns) :
    leadingCounters (splitWhitespace text) = ns := by
  induction h with
  | @blank c text ns hc _ ih =>
    have hsplit : splitWhitespace (c :: text) = splitWhitespace text := Fields.fields_cons hc text
    rw [hsplit, ih]
  | @counter c sep text ns hsep _ ih =>
    have hsplit : splitWhitespace (c.text ++ sep :: text) = c.text :: splitWhitespace text :=
      Fields.fields_field_cons c.not_isWhitespace c.text_ne_nil hsep text
    have hparse : parseUnsigned 64 c.text = some c.value := parseUnsigned_eq_some.mpr ⟨c, rfl, rfl⟩
    rw [hsplit, leadingCounters, hparse]
    show c.value :: leadingCounters (splitWhitespace text) = _
    rw [ih]
  | @last token hne hblank hcounter =>
    have hsplit : splitWhitespace token = [token] := Fields.fields_self hblank hne
    rw [hsplit, leadingCounters_cons_of_not_counter hcounter]
  | @more token sep rest hne hblank hcounter hsep =>
    have hsplit : splitWhitespace (token ++ sep :: rest) = token :: splitWhitespace rest :=
      Fields.fields_field_cons hblank hne hsep rest
    rw [hsplit, leadingCounters_cons_of_not_counter hcounter]

/-- The counters of a text are determined by it. -/
theorem Counts.unique {ns' : List ℕ} (h : Counts text ns) (h' : Counts text ns') : ns = ns' := by
  rw [← leadingCounters_splitWhitespace h, leadingCounters_splitWhitespace h']

/-- The counters of a row are read from its line. -/
theorem Row.lineCounters_text (row : Row) : lineCounters row.text = some row.counters := by
  have hsplit : splitOnce ':' row.text = some (row.label, row.body) :=
    splitOnce_eq_some.mpr ⟨rfl, row.noColon⟩
  rw [lineCounters, hsplit, Option.map_some]
  show some (leadingCounters (splitWhitespace row.body)) = _
  rw [leadingCounters_splitWhitespace row.counts]

/-- The line stands for the row. -/
def Stands (line : List Char) (row : Row) : Prop :=
  (containsText "elan_i2c".toList line = true ↔ row.Elan) ∧ lineCounters line = some row.counters

/-- The line of a row stands for the row. -/
theorem Row.stands_text (row : Row) : Stands row.text row :=
  ⟨containsText_iff, row.lineCounters_text⟩

/-- The row that ends in a carriage return and a line feed. -/
theorem Row.stands_stripCarriageReturn (row : Row) :
    Stands (stripCarriageReturn row.text) row := by
  constructor
  · rw [containsText_iff, infix_stripCarriageReturn (by decide)]
    rfl
  · rw [lineCounters_stripCarriageReturn, row.lineCounters_text]

/-- A line has no end of line in it. -/
theorem Row.newline_not_mem_text (row : Row) : '\n' ∉ row.text := by
  unfold Row.text
  rw [List.mem_append, List.mem_cons]
  rintro (h | h | h)
  · exact row.oneLine.1 h
  · exact absurd h (by decide)
  · exact row.oneLine.2 h

/-- A line is not empty. -/
theorem Row.text_ne_nil (row : Row) : row.text ≠ [] :=
  List.append_ne_nil_of_right_ne_nil _ (List.cons_ne_nil _ _)

/-- The segments between the line feeds of a table. -/
theorem splitOn_tableText (rows : List Row) (ended : Bool) (h : rows ≠ [] ∨ ended = true) :
    (tableText rows ended).toList.splitOn '\n'
      = rows.map Row.text ++ if ended then [[]] else [] := by
  unfold tableText
  rw [String.toList_ofList]
  apply List.splitOn_intercalate
  · intro segment hsegment
    rcases List.mem_append.mp hsegment with hsegment | hsegment
    · obtain ⟨row, -, rfl⟩ := List.mem_map.mp hsegment
      exact row.newline_not_mem_text
    · have hnil : segment = [] := by
        split_ifs at hsegment
        · exact List.mem_singleton.mp hsegment
        · exact absurd hsegment List.not_mem_nil
      rw [hnil]
      exact List.not_mem_nil
  · intro hnil
    rw [List.append_eq_nil_iff, List.map_eq_nil_iff] at hnil
    rcases h with h | h
    · exact h hnil.1
    · rw [h] at hnil
      exact absurd hnil.2 (List.cons_ne_nil _ _)

/-- **The lines of a table stand for its rows.** -/
theorem lines_tableText (rows : List Row) (ended : Bool) :
    List.Forall₂ Stands (lines (tableText rows ended).toList) rows := by
  have hstripped (rows : List Row) :
      List.Forall₂ Stands ((rows.map Row.text).map stripCarriageReturn) rows := by
    rw [List.forall₂_map_left_iff, List.forall₂_map_left_iff, List.forall₂_same]
    exact fun row _ => row.stands_stripCarriageReturn
  cases ended with
  | true =>
    rw [lines_of_splitOn (splitOn_tableText rows true (.inr rfl)), if_pos rfl, List.append_nil]
    exact hstripped rows
  | false =>
    rcases List.eq_nil_or_concat rows with rfl | ⟨older, row, rfl⟩
    · exact .nil
    · -- the last line has no line feed, and keeps a carriage return
      have hsplit := splitOn_tableText (older ++ [row]) false (.inl (by simp))
      rw [if_neg Bool.false_ne_true, List.append_nil, List.map_append, List.map_singleton] at hsplit
      rw [List.concat_eq_append, lines_of_splitOn hsplit, if_neg row.text_ne_nil]
      exact List.rel_append (hstripped older) (.cons row.stands_text .nil)

/-- What `parse_total` returns of a table. -/
theorem parseTotal_tableText (rows : List Row) (ended : Bool) :
    parseTotal (tableText rows ended) = if elanCounters rows = [] then none
      else some (UInt64.ofNat (min (2 ^ 64 - 1) (elanCounters rows).sum)) := by
  have hfiltered : List.Forall₂ Stands
      ((lines (tableText rows ended).toList).filter (containsText "elan_i2c".toList))
      (rows.filter Row.Elan) := by
    refine List.rel_filter (fun line row hstands => ?_) (lines_tableText rows ended)
    show containsText _ line = true ↔ decide row.Elan = true
    rw [decide_eq_true_eq]
    exact hstands.1
  show _ = if ((rows.filter Row.Elan).map Row.counters).flatten = [] then none else _
  apply parseTotal_eq
  rw [List.forall₂_map_right_iff]
  exact hfiltered.imp fun line row hstands => hstands.2

/-- There are no counters just if no row of the driver has any. -/
theorem elanCounters_eq_nil :
    elanCounters rows = [] ↔ ∀ row ∈ rows, row.Elan → row.counters = [] := by
  unfold elanCounters
  rw [List.flatMap_eq_nil_iff]
  refine forall_congr' fun row => ?_
  rw [List.mem_filter, decide_eq_true_eq, and_imp]

/-- The order of the rows does not matter to the counters. -/
theorem elanCounters_perm (h : rows'.Perm rows) :
    (elanCounters rows').Perm (elanCounters rows) :=
  (h.filter _).flatMap_right _

/-- The rows have the same counters, and both are of the driver or none is. -/
def SameCounters (row row' : Row) : Prop :=
  row.counters = row'.counters ∧ (row.Elan ↔ row'.Elan)

/-- What else the rows hold makes no difference. -/
theorem elanCounters_congr (h : List.Forall₂ SameCounters rows' rows) :
    elanCounters rows' = elanCounters rows := by
  unfold elanCounters
  induction h with
  | nil => rfl
  | @cons row' row rows' rows hsame _ ih =>
    obtain ⟨hcounters, helan⟩ := hsame
    by_cases hrow : row.Elan
    · rw [List.filter_cons_of_pos (by simpa using helan.mpr hrow),
        List.filter_cons_of_pos (by simpa using hrow), List.flatMap_cons, List.flatMap_cons,
        hcounters, ih]
    · have hrow' : ¬ row'.Elan := fun h => hrow (helan.mp h)
      rw [List.filter_cons_of_neg (by simpa using hrow'),
        List.filter_cons_of_neg (by simpa using hrow), ih]

end Tables

/-- **`parse_total` sums exactly the rows of the driver.**  Of every table it returns `None` just
if no row of the driver has a counter, and otherwise the sum of the leading counters of these
rows, cut off at the largest `u64`.  The order of the rows makes no difference, and neither does
anything behind the counters of a row, such as the number of a hardware interrupt. -/
theorem parseTotal_table (rows : List Row) (ended : Bool) :
    (parseTotal (tableText rows ended) = none ↔ ∀ row ∈ rows, row.Elan → row.counters = [])
      ∧ (parseTotal (tableText rows ended) ≠ none → parseTotal (tableText rows ended)
          = some (UInt64.ofNat (min (2 ^ 64 - 1) (elanCounters rows).sum)))
      ∧ (∀ rows' ended', rows'.Perm rows →
          parseTotal (tableText rows' ended') = parseTotal (tableText rows ended))
      ∧ ∀ rows' ended', List.Forall₂ SameCounters rows' rows →
          parseTotal (tableText rows' ended') = parseTotal (tableText rows ended) := by
  refine ⟨?_, ?_, ?_, ?_⟩
  · rw [parseTotal_tableText, ← elanCounters_eq_nil]
    by_cases hnone : elanCounters rows = []
    · rw [if_pos hnone]
      exact iff_of_true rfl hnone
    · rw [if_neg hnone]
      exact iff_of_false (Option.some_ne_none _) hnone
  · rw [parseTotal_tableText]
    split_ifs with hnone
    · exact fun h => absurd rfl h
    · exact fun _ => rfl
  · intro rows' ended' hperm
    have hcounters := elanCounters_perm hperm
    have hnil : elanCounters rows' = [] ↔ elanCounters rows = [] := by
      rw [← List.length_eq_zero_iff, hcounters.length_eq, List.length_eq_zero_iff]
    rw [parseTotal_tableText, parseTotal_tableText, hcounters.sum_nat]
    simp only [hnil]
  · intro rows' ended' hsame
    rw [parseTotal_tableText, parseTotal_tableText, elanCounters_congr hsame]

/-- A number as it is printed. -/
def printed (n : ℕ) (h : n < 2 ^ 64) : Counter where
  plus := false
  digits := Nat.toDigits 10 n
  nonempty := Nat.toDigits_ne_nil
  isDigit := fun _ hc => Nat.isDigit_of_mem_toDigits (by decide) (by decide) hc
  fits := by rwa [Nat.ofDigitChars_ten_toDigits]

def seven : Counter := printed 7 (by omega)

def nine : Counter := printed 9 (by omega)

/-- Nothing from this token on is a counter. -/
theorem counts_dummy (rest : List Char) : Counts ("dummy".toList ++ ' ' :: rest) [] := by
  have hblank : ("dummy".toList.all fun c => !isWhitespace c) = true := by decide
  refine .more rest (by decide) (fun c hc => ?_) (parseUnsigned_eq_none.mp (by decide)) (by decide)
  exact (Bool.not_eq_true' _).mp (List.all_eq_true.mp hblank c hc)

/-- A row with the number of a hardware interrupt before the name of the driver. -/
def touchpadRow : Row where
  label := "206".toList
  body := ' ' :: (seven.text ++ ' ' :: (nine.text ++ ' ' ::
    ("dummy".toList ++ ' ' :: "14 elan_i2c".toList)))
  counters := [seven.value, nine.value]
  noColon := by decide
  counts := .blank (by decide)
    (.counter seven (by decide) (.counter nine (by decide) (counts_dummy _)))
  oneLine := by decide

/-- The row of another driver. -/
def keyboardRow : Row where
  label := "1".toList
  body := ' ' :: (seven.text ++ ' ' :: ("dummy".toList ++ ' ' :: "i8042".toList))
  counters := [seven.value]
  noColon := by decide
  counts := .blank (by decide) (.counter seven (by decide) (counts_dummy _))
  oneLine := by decide

/-- The interrupts of the touchpad's row are summed, wherever it stands. -/
theorem parseTotal_table_touchpadRow :
    parseTotal (tableText [keyboardRow, touchpadRow] true) = some 16
      ∧ parseTotal (tableText [touchpadRow, keyboardRow] false) = some 16 := by
  obtain ⟨hnone, hsome, hperm, -⟩ := parseTotal_table [keyboardRow, touchpadRow] true
  have hsum : elanCounters [keyboardRow, touchpadRow] = [7, 9] := by decide
  have htotal : parseTotal (tableText [keyboardRow, touchpadRow] true) = some 16 := by
    rw [hsome, hsum]
    · rfl
    · intro h
      exact absurd (hnone.mp h touchpadRow (by simp) (by decide)) (by decide)
  refine ⟨htotal, ?_⟩
  rw [hperm _ false (List.Perm.swap _ _ _), htotal]

end IrqCounters
