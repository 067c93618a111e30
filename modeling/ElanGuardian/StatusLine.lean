/-
# The counter that the kernel prints

`runtime_watchdog_show` of the driver prints a line of fields; `recovery_count` of the
monitor looks one of them up, in the text that discovery has read and trimmed.  Nothing but
the text connects the two, and it carries the counter whatever the other fields say and
whatever follows them (`recoveryCount_runtimeWatchdogShow`).
-/
import ElanGuardian.Fields
import ElanGuardian.Monitor

open Sysfs Monitor

namespace StatusLine

/-- What `runtime_watchdog_show` prints of `struct elan_tp_data`. -/
structure WatchdogStatus where
  watchdogEnabled : Bool
  watchdogRecoveries : UInt32
  reportCount : Int64
  reportErrors : UInt32

/-- The fields of the line. -/
def statusFields (data : WatchdogStatus) : String :=
  "enabled=" ++ toString data.watchdogEnabled.toNat
    ++ " recoveries=" ++ toString data.watchdogRecoveries.toNat
    ++ " reports=" ++ toString data.reportCount.toInt
    ++ " report_errors=" ++ toString data.reportErrors.toNat

/-- `runtime_watchdog_show`. -/
def runtimeWatchdogShow (data : WatchdogStatus) : String := statusFields data ++ "\n"

example : runtimeWatchdogShow ⟨true, 7, -1, 0⟩
    = "enabled=1 recoveries=7 reports=-1 report_errors=0\n" := by decide

section Fields

variable {rest : List Char}

/-- A field with a number, as its characters. -/
def numberField (name : String) (n : ℕ) : List Char := name.toList ++ Nat.toDigits 10 n

/-- The line, up to the field after the counter. -/
theorem toList_statusFields (data : WatchdogStatus) :
    ∃ rest, (statusFields data).toList
      = numberField "enabled=" data.watchdogEnabled.toNat
        ++ ' ' :: (numberField "recoveries=" data.watchdogRecoveries.toNat
        ++ ' ' :: ("reports".toList ++ '=' :: rest)) := by
  unfold statusFields numberField
  refine ⟨(toString data.reportCount.toInt ++ " report_errors="
    ++ toString data.reportErrors.toNat).toList, ?_⟩
  simp

/-- A digit is no whitespace. -/
theorem not_isAsciiWhitespace_of_isDigit {c : Char} (h : c.isDigit = true) :
    isAsciiWhitespace c = false := by
  rw [isAsciiWhitespace, decide_eq_false_iff_not]
  intro hmem
  simp only [List.mem_cons, List.not_mem_nil, or_false] at hmem
  rcases hmem with rfl | rfl | rfl | rfl | rfl <;> exact absurd h (by decide)

/-- A field with a number is one field. -/
theorem fields_numberField {name : String}
    (hname : name.toList.all (fun c => !isAsciiWhitespace c) = true) (n : ℕ) :
    ((numberField name n ++ ' ' :: rest).splitOnP isAsciiWhitespace).filter (· ≠ [])
      = numberField name n :: (rest.splitOnP isAsciiWhitespace).filter (· ≠ []) := by
  have hfield : ∀ c ∈ numberField name n, isAsciiWhitespace c = false := by
    intro c hc
    rcases List.mem_append.mp hc with hc | hc
    · exact (Bool.not_eq_true' _).mp (List.all_eq_true.mp hname c hc)
    · exact not_isAsciiWhitespace_of_isDigit
        (Nat.isDigit_of_mem_toDigits (by decide) (by decide) hc)
  have hne : numberField name n ≠ [] :=
    List.append_ne_nil_of_right_ne_nil _ Nat.toDigits_ne_nil
  exact Fields.fields_field_cons hfield hne (by decide) rest

/-- What a prefix leaves of a text that begins with it. -/
theorem isPrefixOf?_append (start rest : List Char) :
    start.isPrefixOf? (start ++ rest) = some rest := by
  induction start with
  | nil => rfl
  | cons c start ih =>
    rw [List.cons_append, List.isPrefixOf?, if_pos (beq_self_eq_true c)]
    exact ih

/-- The counter is read from a text whose second field is its own. -/
theorem recoveryCount_of_fields {text : String} {enabled recoveries : ℕ}
    (h : text.toList = numberField "enabled=" enabled
      ++ ' ' :: (numberField "recoveries=" recoveries ++ ' ' :: rest))
    (hfits : recoveries < 2 ^ 64) : recoveryCount text = some recoveries := by
  -- the field before it begins otherwise
  have hskip : "recoveries=".toList.isPrefixOf? (numberField "enabled=" enabled) = none := by
    simp [numberField, List.isPrefixOf?]
  have hfound : "recoveries=".toList.isPrefixOf? (numberField "recoveries=" recoveries)
      = some (Nat.toDigits 10 recoveries) := isPrefixOf?_append _ _
  rw [recoveryCount, h, fields_numberField (by decide), fields_numberField (by decide),
    List.findSome?_cons, hskip, List.findSome?_cons, hfound]
  show parseUnsigned 64 (Nat.toDigits 10 recoveries) = _
  rw [parseUnsigned_toDigits, if_pos hfits]

/-- Trimming changes nothing in the line itself. -/
theorem toList_trim_statusFields (data : WatchdogStatus) (more : String) :
    ∃ rest, (trim (statusFields data ++ more)).toList
      = numberField "enabled=" data.watchdogEnabled.toNat
        ++ ' ' :: (numberField "recoveries=" data.watchdogRecoveries.toNat
        ++ ' ' :: ("reports".toList ++ '=' :: rest)) := by
  obtain ⟨rest, hfields⟩ := toList_statusFields data
  have htext : (statusFields data ++ more).toList
      = 'e' :: (("nabled=".toList ++ Nat.toDigits 10 data.watchdogEnabled.toNat
        ++ ' ' :: (numberField "recoveries=" data.watchdogRecoveries.toNat
        ++ ' ' :: "reports".toList)) ++ '=' :: (rest ++ more.toList)) := by
    rw [String.toList_append, hfields]
    simp [numberField]
  obtain ⟨rest', htrim⟩ := toList_trim htext (by decide) (by decide)
  refine ⟨rest', ?_⟩
  rw [htrim]
  simp [numberField]

end Fields

/-- **The monitor reads the counter that the kernel prints**, and goes on reading it if the
line is extended. -/
theorem recoveryCount_runtimeWatchdogShow (data : WatchdogStatus) :
    recoveryCount (trim (runtimeWatchdogShow data)) = some data.watchdogRecoveries.toNat
      ∧ ∀ more, recoveryCount (trim (statusFields data ++ more))
        = some data.watchdogRecoveries.toNat := by
  have hfits : data.watchdogRecoveries.toNat < 2 ^ 64 := by
    have hlt := data.watchdogRecoveries.toNat_lt
    omega
  have hmore : ∀ more, recoveryCount (trim (statusFields data ++ more))
      = some data.watchdogRecoveries.toNat := by
    intro more
    obtain ⟨rest, htrim⟩ := toList_trim_statusFields data more
    exact recoveryCount_of_fields htrim hfits
  exact ⟨hmore "\n", hmore⟩

end StatusLine
