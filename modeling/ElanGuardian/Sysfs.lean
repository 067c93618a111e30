/-
# The guardian's view of sysfs

What the user-space programs of `src/` ask of the operating system, and the discovery of
bound controllers (`src/device.rs`).  Every access is one call of the interface `Sys`; the
answers are left to the world in which a program is judged.  Durations and instants are in
nanoseconds.
-/
import Mathlib.Data.List.Sort
import Mathlib.Data.List.Destutter
import Mathlib.Data.UInt
import ElanGuardian.Dialogue

open Dialogue

namespace Sysfs

/-! ## Calls -/

def millis (n : ℕ) : ℕ := n * 1000000

def secs (n : ℕ) : ℕ := n * 1000000000

/-- `io::ErrorKind`, with the kinds that the programs make or test for by name. -/
inductive ErrorKind
  | invalidInput
  | invalidData
  | notFound
  | wouldBlock
  | interrupted
  | timedOut
  | other
  | os (errno : ℕ)
  deriving DecidableEq

/-- `io::Error`. -/
structure IoError where
  kind : ErrorKind
  message : String
  deriving DecidableEq

abbrev IoResult (α : Type) : Type := Except IoError α

/-- The files that the programs name, with their paths below the sysfs root. -/
inductive File
  /-- `bus/i2c/drivers/elan_i2c` -/
  | driver
  /-- `bus/i2c/drivers/elan_i2c/bind` -/
  | bind
  /-- `bus/i2c/drivers/elan_i2c/unbind` -/
  | unbind
  /-- `bus/i2c/devices/<id>/driver` -/
  | deviceDriver (id : String)
  /-- `bus/i2c/devices/<id>/recover` -/
  | recover (id : String)
  /-- `bus/i2c/devices/<id>/runtime_watchdog` -/
  | runtimeWatchdog (id : String)
  /-- `bus/i2c/devices/<id>/irq` -/
  | irq (id : String)
  /-- `bus/i2c/devices/<id>/input` -/
  | input (id : String)
  /-- `bus/i2c/devices/<id>/input/<name>` -/
  | inputDir (id : String) (name : Option String)
  /-- `module/elan_i2c/srcversion` -/
  | srcversion
  deriving DecidableEq

/-- What a finished command leaves behind; `stdout` is `none` when it is not UTF-8. -/
structure Output where
  success : Bool
  status : String
  stdout : Option String
  stderr : String

/-- The calls; a directory entry has no name where the name is not UTF-8. -/
inductive Call
  | pathExists (f : File)
  | canonicalize (f : File)
  | readDir (f : File)
  | readToString (f : File)
  | write (f : File) (text : String)
  | command (program : String) (args : List String)
  | now
  | sleep (d : ℕ)
  deriving DecidableEq

/-- The answer of each call. -/
abbrev Call.Answer : Call → Type
  | .pathExists _ => Bool
  | .canonicalize _ => IoResult String
  | .readDir _ => IoResult (List (IoResult (Option String)))
  | .readToString _ => IoResult String
  | .write _ _ => IoResult Unit
  | .command _ _ => IoResult Output
  | .now => ℕ
  | .sleep _ => Unit

/-- The operating system. -/
abbrev Sys : Interface := ⟨Call, Call.Answer⟩

/-- A program of the guardian. -/
abbrev Program (α : Type) : Type := Dialogue Sys α

/-- Neither a write nor a command: the call changes nothing outside the program. -/
def Call.Passive : Call → Prop
  | .write _ _ => False
  | .command _ _ => False
  | _ => True

/-- The call looks at files, and does nothing else. -/
def Call.Looks : Call → Prop
  | .write _ _ => False
  | .command _ _ => False
  | .now => False
  | .sleep _ => False
  | _ => True

/-- Looking at files is passive. -/
theorem Call.Looks.passive {c : Call} (h : c.Looks) : c.Passive := by
  cases c with
  | write f text => exact h.elim
  | command program args => exact h.elim
  | _ => exact trivial

/-! ## Text -/

/-- `str::split_once` on the characters of a string. -/
def splitOnce (separator : Char) : List Char → Option (List Char × List Char)
  | [] => none
  | c :: rest =>
    if c = separator then some ([], rest)
    else (splitOnce separator rest).map fun (left, right) => (c :: left, right)

/-- The text is split at its first separator. -/
theorem splitOnce_eq_some {separator : Char} {text left right : List Char} :
    splitOnce separator text = some (left, right)
      ↔ text = left ++ separator :: right ∧ separator ∉ left := by
  induction text generalizing left with
  | nil => simp [splitOnce]
  | cons c rest ih =>
    unfold splitOnce
    split_ifs with hc
    · subst hc
      constructor
      · intro h
        rw [Option.some.injEq, Prod.mk.injEq] at h
        obtain ⟨rfl, rfl⟩ := h
        simp
      · rintro ⟨h, hleft⟩
        cases left with
        | nil => simpa using h
        | cons d left =>
          rw [List.cons_append, List.cons.injEq] at h
          exact absurd (h.1 ▸ List.mem_cons_self) hleft
    · rw [Option.map_eq_some_iff]
      constructor
      · rintro ⟨⟨l, r⟩, h, heq⟩
        rw [Prod.mk.injEq] at heq
        obtain ⟨rfl, rfl⟩ := heq
        obtain ⟨rfl, hl⟩ := ih.mp h
        simp [hl, Ne.symm hc]
      · rintro ⟨h, hleft⟩
        cases left with
        | nil => exact absurd (List.cons.inj h).1 hc
        | cons d left =>
          rw [List.cons_append, List.cons.injEq] at h
          rw [List.mem_cons, not_or] at hleft
          exact ⟨(left, right), ih.mpr ⟨h.2, hleft.2⟩, by rw [h.1]⟩

/-- `u8::is_ascii_hexdigit`. -/
def isAsciiHexdigit (c : Char) : Bool :=
  c.isDigit || ('a' ≤ c && c ≤ 'f') || ('A' ≤ c && c ≤ 'F')

/-- `valid_i2c_id`.  Bytes and characters agree here: what is not ASCII is no digit. -/
def validI2cId (id : String) : Bool :=
  match splitOnce '-' id.toList with
  | none => false
  | some (bus, address) =>
    !bus.isEmpty && bus.all Char.isDigit && address.length == 4 && address.all isAsciiHexdigit

/-- The value of a string of decimal digits read after `acc`. -/
def digitsValue (acc : ℕ) : List Char → Option ℕ
  | [] => some acc
  | c :: rest =>
    if c.isDigit then digitsValue (acc * 10 + (c.toNat - '0'.toNat)) rest else none

/-- `str::parse` for an unsigned integer of the given width: an optional plus sign, at least
one digit, and no overflow. -/
def parseUnsigned (bits : ℕ) (text : List Char) : Option ℕ :=
  let digits := match text with
    | '+' :: rest => rest
    | other => other
  if digits.isEmpty then none
  else (digitsValue 0 digits).filter fun n => n < 2 ^ bits

/-- A string has a value just if it is one of digits, and then it is that of its digits. -/
theorem digitsValue_eq_some {digits : List Char} {acc n : ℕ} :
    digitsValue acc digits = some n
      ↔ (∀ c ∈ digits, c.isDigit = true) ∧ Nat.ofDigitChars 10 digits acc = n := by
  induction digits generalizing acc with
  | nil => simp [digitsValue]
  | cons c rest ih =>
    rw [digitsValue, List.forall_mem_cons, Nat.ofDigitChars_cons, Nat.mul_comm 10 acc]
    by_cases hc : c.isDigit = true
    · rw [if_pos hc, ih, and_iff_right hc]
    · rw [if_neg hc]
      exact iff_of_false nofun fun h => hc h.1.1

/-- There is no sign before digits. -/
theorem withoutSign_digits {digits : List Char} : (∀ c ∈ digits, c.isDigit = true) →
    (match digits with
      | '+' :: rest => rest
      | other => other) = digits := by
  intro hdigits
  split
  · exact absurd (hdigits '+' List.mem_cons_self) (by decide)
  · rfl

/-- Digits that are parsed. -/
theorem parseUnsigned_digits {digits : List Char} (hdigits : ∀ c ∈ digits, c.isDigit = true)
    (hne : digits ≠ []) (bits : ℕ) :
    parseUnsigned bits digits
      = if Nat.ofDigitChars 10 digits 0 < 2 ^ bits then some (Nat.ofDigitChars 10 digits 0)
        else none := by
  unfold parseUnsigned
  dsimp only
  rw [withoutSign_digits hdigits, List.isEmpty_eq_false_iff.mpr hne,
    digitsValue_eq_some.mpr ⟨hdigits, rfl⟩, Option.filter_some]
  simp

/-- A plus sign before digits makes no difference. -/
theorem parseUnsigned_plus {digits : List Char} (hdigits : ∀ c ∈ digits, c.isDigit = true)
    (bits : ℕ) : parseUnsigned bits ('+' :: digits) = parseUnsigned bits digits := by
  unfold parseUnsigned
  dsimp only
  rw [withoutSign_digits hdigits]
  rfl

/-- What is parsed is a string of digits, perhaps after a plus sign, whose number fits. -/
theorem of_parseUnsigned_eq_some {bits n : ℕ} {text : List Char}
    (h : parseUnsigned bits text = some n) :
    ∃ digits, (text = digits ∨ text = '+' :: digits) ∧ digits ≠ []
      ∧ (∀ c ∈ digits, c.isDigit = true) ∧ Nat.ofDigitChars 10 digits 0 = n ∧ n < 2 ^ bits := by
  unfold parseUnsigned at h
  dsimp only at h
  obtain ⟨digits, hdigits⟩ : ∃ digits, (match text with
      | '+' :: rest => rest
      | other => other) = digits := ⟨_, rfl⟩
  rw [hdigits] at h
  have htext : text = digits ∨ text = '+' :: digits := by
    split at hdigits
    · exact .inr (by rw [hdigits])
    · exact .inl hdigits
  split_ifs at h with hempty
  rw [Option.filter_eq_some_iff, decide_eq_true_eq, digitsValue_eq_some] at h
  obtain ⟨⟨hall, hvalue⟩, hfits⟩ := h
  refine ⟨digits, htext, ?_, hall, hvalue, hfits⟩
  rintro rfl
  exact hempty rfl

/-- A printed number is read back if it fits. -/
theorem parseUnsigned_toDigits (bits n : ℕ) :
    parseUnsigned bits (Nat.toDigits 10 n) = if n < 2 ^ bits then some n else none := by
  have hdigits : ∀ c ∈ Nat.toDigits 10 n, c.isDigit = true :=
    fun c hc => Nat.isDigit_of_mem_toDigits (by decide) (by decide) hc
  rw [parseUnsigned_digits hdigits Nat.toDigits_ne_nil, Nat.ofDigitChars_ten_toDigits]

/-- `char::is_whitespace`. -/
def isWhitespace (c : Char) : Bool :=
  c ∈ ['\t', '\n', '\x0b', '\x0c', '\r', ' ', '\x85', '\xa0', '\u1680', '\u2028', '\u2029',
    '\u202f', '\u205f', '\u3000'] || ('\u2000' ≤ c && c ≤ '\u200a')

/-- `str::trim`. -/
def trim (text : String) : String :=
  String.ofList (((text.toList.dropWhile isWhitespace).reverse.dropWhile isWhitespace).reverse)

/-- Trimming stops at the first and the last character that is no white space. -/
theorem toList_trim {text : String} {c d : Char} {body rest : List Char}
    (h : text.toList = c :: (body ++ d :: rest)) (hc : isWhitespace c = false)
    (hd : isWhitespace d = false) :
    ∃ rest', (trim text).toList = c :: (body ++ d :: rest') := by
  have hleft : text.toList.dropWhile isWhitespace = c :: (body ++ d :: rest) := by
    rw [h, List.dropWhile_cons_of_neg (by simp [hc])]
  have hright : (c :: (body ++ d :: rest)).reverse = rest.reverse ++ d :: (c :: body).reverse := by
    simp
  have hstop : (d :: (c :: body).reverse).dropWhile isWhitespace = d :: (c :: body).reverse :=
    List.dropWhile_cons_of_neg (by simp [hd])
  rw [trim, hleft, hright, String.toList_ofList, List.dropWhile_append, hstop]
  split_ifs
  · exact ⟨[], by simp⟩
  · exact ⟨(rest.reverse.dropWhile isWhitespace).reverse, by simp⟩

/-! ## Discovery -/

/-- `Controller`, without the metadata that discovery leaves unread. -/
structure Controller where
  id : String
  runtimeWatchdog : Option String
  irq : Option ℕ
  eventNodes : List String
  deriving DecidableEq

/-- `read_trimmed`. -/
def readTrimmed (f : File) : Program (Option String) := do
  match ← call (I := Sys) (.readToString f) with
  | .error _ => pure none
  | .ok text => pure (some (trim text))

/-- `uses_driver`. -/
def usesDriver (id : String) (canonicalDriver : String) : Program Bool := do
  match ← call (I := Sys) (.canonicalize (.deviceDriver id)) with
  | .error _ => pure false
  | .ok path => pure (path = canonicalDriver)

/-- The name of an event node: `event` and at least one digit. -/
def isEventName (name : String) : Bool :=
  match name.toList with
  | 'e' :: 'v' :: 'e' :: 'n' :: 't' :: suffix => !suffix.isEmpty && suffix.all Char.isDigit
  | _ => false

/-- The nodes among the entries of one input directory. -/
def nodesOf (entries : List (IoResult (Option String))) : List String :=
  entries.filterMap fun
    | .ok (some name) => if isEventName name then some ("/dev/input/" ++ name) else none
    | _ => none

/-- The nodes of the input directories of a controller, unsorted. -/
def collectNodes (id : String) : List (IoResult (Option String)) → Program (List String)
  | [] => pure []
  | .error _ :: rest => collectNodes id rest
  | .ok name :: rest => do
    match ← call (I := Sys) (.readDir (.inputDir id name)) with
    | .error _ => collectNodes id rest
    | .ok entries =>
      let nodes ← collectNodes id rest
      pure (nodesOf entries ++ nodes)

/-- `event_nodes` of `device.rs`. -/
def eventNodes (id : String) : Program (List String) := do
  match ← call (I := Sys) (.readDir (.input id)) with
  | .error _ => pure []
  | .ok inputs =>
    let nodes ← collectNodes id inputs
    pure ((nodes.insertionSort (· ≤ ·)).destutter (· ≠ ·))

/-- One entry of the driver directory that is a controller of this driver. -/
def readController (id : String) : Program Controller := do
  let runtimeWatchdog ← readTrimmed (.runtimeWatchdog id)
  let irq ← readTrimmed (.irq id)
  let nodes ← eventNodes id
  pure ⟨id, runtimeWatchdog, irq.bind fun value => parseUnsigned 32 value.toList, nodes⟩

/-- The loop of `discover` over the entries of the driver directory. -/
def readControllers (canonicalDriver : String) :
    List (IoResult (Option String)) → Program (IoResult (List Controller))
  | [] => pure (.ok [])
  | .error e :: _ => pure (.error e)
  | .ok none :: rest => readControllers canonicalDriver rest
  | .ok (some id) :: rest =>
    if validI2cId id then do
      if ← usesDriver id canonicalDriver then
        let controller ← readController id
        (readControllers canonicalDriver rest).orReturn fun controllers =>
          pure (.ok (controller :: controllers))
      else readControllers canonicalDriver rest
    else readControllers canonicalDriver rest

/-- `discover`. -/
def discover : Program (IoResult (List Controller)) :=
  (call (I := Sys) (.canonicalize .driver)).orReturn fun canonicalDriver =>
  (call (I := Sys) (.readDir .driver)).orReturn fun entries =>
  (readControllers canonicalDriver entries).orReturn fun controllers =>
    pure (.ok (controllers.insertionSort fun left right => left.id ≤ right.id))

/-! ## Control files and waiting -/

/-- `write_control`. -/
def writeControl (f : File) (value : String) : Program (IoResult Unit) :=
  call (I := Sys) (.write f (value ++ "\n"))

/-- The last look of `wait_until`. -/
def lastLook (predicate : Program Bool) (message : String) : Program (IoResult Unit) := do
  if ← predicate then pure (.ok ()) else pure (.error ⟨.timedOut, message⟩)

/-- The rounds of `wait_until`. -/
def pollUntil (deadline : ℕ) (predicate : Program Bool) (message : String) :
    ℕ → Program (IoResult Unit)
  | 0 => lastLook predicate message
  | rounds + 1 => do
    let now ← call (I := Sys) .now
    if now < deadline then
      if ← predicate then pure (.ok ())
      else
        call (I := Sys) (.sleep (millis 20))
        pollUntil deadline predicate message rounds
    else lastLook predicate message

/-- `wait_until`.  Every round sleeps for 20 ms, so the deadline has passed after
`timeout / 20 ms` of them. -/
def waitUntil (timeout : ℕ) (predicate : Program Bool) (message : String) :
    Program (IoResult Unit) := do
  let start ← call (I := Sys) .now
  pollUntil (start + timeout) predicate message (timeout / millis 20)

/-! ## Programs that only look -/

section Passive

variable {P : Call → Prop} {id : String}

/-- Reading an attribute is one call. -/
theorem readTrimmed_asks (f : File) (h : P (.readToString f)) : Asks P (readTrimmed f) := by
  refine Asks.bind (asks_call h) fun r => ?_
  cases r <;> exact trivial

/-- Looking at the driver of a device is one call. -/
theorem usesDriver_asks (canonicalDriver : String) (h : P (.canonicalize (.deviceDriver id))) :
    Asks P (usesDriver id canonicalDriver) := by
  refine Asks.bind (asks_call h) fun r => ?_
  cases r <;> exact trivial

/-- The nodes of an input directory are looked up in directories. -/
theorem collectNodes_asks (h : ∀ f, P (.readDir f)) (entries : List (IoResult (Option String))) :
    Asks P (collectNodes id entries) := by
  induction entries with
  | nil => exact trivial
  | cons entry rest ih =>
    cases entry with
    | error e => exact ih
    | ok name =>
      refine Asks.bind (asks_call (h _)) fun r => ?_
      cases r with
      | error e => exact ih
      | ok entries => exact Asks.bind ih fun nodes => trivial

/-- And so are those of a device. -/
theorem eventNodes_asks (h : ∀ f, P (.readDir f)) : Asks P (eventNodes id) := by
  refine Asks.bind (asks_call (h _)) fun r => ?_
  cases r with
  | error e => exact trivial
  | ok inputs => exact Asks.bind (collectNodes_asks h inputs) fun nodes => trivial

/-- A controller is read from directories and attributes. -/
theorem readController_asks (hdir : ∀ f, P (.readDir f)) (hread : ∀ f, P (.readToString f)) :
    Asks P (readController id) := by
  refine Asks.bind (readTrimmed_asks _ (hread _)) fun runtimeWatchdog => ?_
  refine Asks.bind (readTrimmed_asks _ (hread _)) fun irq => ?_
  exact Asks.bind (eventNodes_asks hdir) fun nodes => trivial

/-- Reading all controllers only looks. -/
theorem readControllers_asks (h : ∀ c : Call, c.Looks → P c) (canonicalDriver : String)
    (entries : List (IoResult (Option String))) :
    Asks P (readControllers canonicalDriver entries) := by
  induction entries with
  | nil => exact trivial
  | cons entry rest ih =>
    rcases entry with e | _ | id
    · exact trivial
    · exact ih
    · unfold readControllers
      split_ifs
      · refine Asks.bind (usesDriver_asks canonicalDriver (h _ trivial)) fun used => ?_
        cases used with
        | false => exact ih
        | true =>
          refine Asks.bind (readController_asks (fun f => h _ trivial) fun f => h _ trivial) ?_
          exact fun controller => ih.orReturn fun controllers => trivial
      · exact ih

/-- And so does `discover`. -/
theorem discover_asks (h : ∀ c : Call, c.Looks → P c) : Asks P discover := by
  refine Asks.orReturn (asks_call (h _ trivial)) fun canonicalDriver => ?_
  refine Asks.orReturn (asks_call (h _ trivial)) fun entries => ?_
  exact (readControllers_asks h canonicalDriver entries).orReturn fun controllers => trivial

/-- The last look makes the calls of the predicate. -/
theorem lastLook_asks {predicate : Program Bool} (h : Asks P predicate) (message : String) :
    Asks P (lastLook predicate message) := by
  refine h.bind fun r => ?_
  cases r <;> exact trivial

/-- Waiting makes the calls of the predicate, and those of the clock. -/
theorem pollUntil_asks {predicate : Program Bool} (h : Asks P predicate) (hnow : P .now)
    (hsleep : P (.sleep (millis 20))) (deadline : ℕ) (message : String) (rounds : ℕ) :
    Asks P (pollUntil deadline predicate message rounds) := by
  induction rounds with
  | zero => exact lastLook_asks h message
  | succ rounds ih =>
    refine Asks.bind (asks_call hnow) fun now => ?_
    split_ifs
    · refine h.bind fun r => ?_
      cases r with
      | true => exact trivial
      | false => exact Asks.bind (asks_call hsleep) fun _ => ih
    · exact lastLook_asks h message

/-- The same up to a timeout. -/
theorem waitUntil_asks {predicate : Program Bool} (h : Asks P predicate) (hnow : P .now)
    (hsleep : P (.sleep (millis 20))) (timeout : ℕ) (message : String) :
    Asks P (waitUntil timeout predicate message) :=
  Asks.bind (asks_call hnow) fun _ => pollUntil_asks h hnow hsleep _ message _

end Passive

/-! ## What waiting ends with -/

section Waiting

variable {σ : Type} {w : World σ Sys} {J K : σ → Prop} {predicate : Program Bool} {s : σ}

/-- The wait has ended well with `K`, or has timed out. -/
def Waited (J K : σ → Prop) (message : String) (r : IoResult Unit) (s : σ) : Prop :=
  match r with
  | .ok () => K s
  | .error e => J s ∧ e = ⟨.timedOut, message⟩

/-- What a look keeps, and what it ends with if it succeeds. -/
def Looked (J K : σ → Prop) (holds : Bool) (s : σ) : Prop :=
  (holds = false → J s) ∧ (holds = true → K s)

/-- The last look ends the wait, one way or the other. -/
theorem lastLook_always (message : String)
    (hlook : ∀ s, J s → Always w (fun _ _ => True) (Looked J K) predicate s) (hs : J s) :
    Always w (fun _ _ => True) (Waited J K message) (lastLook predicate message) s := by
  refine (hlook s hs).bind fun holds t ht => ?_
  cases holds with
  | true => exact ht.2 rfl
  | false => exact ⟨ht.1 rfl, rfl⟩

/-- The rounds of a wait keep what every look keeps. -/
theorem pollUntil_always (deadline : ℕ) (message : String)
    (hlook : ∀ s, J s → Always w (fun _ _ => True) (Looked J K) predicate s)
    (hnow : ∀ s a s', J s → w s .now a s' → J s')
    (hsleep : ∀ s a s', J s → w s (.sleep (millis 20)) a s' → J s') (rounds : ℕ) (hs : J s) :
    Always w (fun _ _ => True) (Waited J K message) (pollUntil deadline predicate message rounds)
      s := by
  induction rounds generalizing s with
  | zero => exact lastLook_always message hlook hs
  | succ rounds ih =>
    refine Always.bind (Q := fun _ => J) ⟨trivial, fun now t hw => hnow s now t hs hw⟩ ?_
    intro now t ht
    split_ifs
    · refine (hlook t ht).bind fun holds t' ht' => ?_
      cases holds with
      | true => exact ht'.2 rfl
      | false => exact ⟨trivial, fun u t'' hw' => ih (hsleep t' u t'' (ht'.1 rfl) hw')⟩
    · exact lastLook_always message hlook ht

/-- **Waiting.**  If the first look at the clock leads to `J`, every look in vain keeps it, and
one that succeeds ends with `K`, then the wait ends with `K`, unless it times out. -/
theorem waitUntil_always (timeout : ℕ) (message : String)
    (hlook : ∀ s, J s → Always w (fun _ _ => True) (Looked J K) predicate s)
    (hnow : ∀ s a s', J s → w s .now a s' → J s')
    (hsleep : ∀ s a s', J s → w s (.sleep (millis 20)) a s' → J s')
    (hstart : ∀ a t, w s .now a t → J t) :
    Always w (fun _ _ => True) (Waited J K message) (waitUntil timeout predicate message) s := by
  refine ⟨trivial, fun start t hw => ?_⟩
  exact pollUntil_always _ message hlook hnow hsleep _ (hstart start t hw)

end Waiting

end Sysfs
