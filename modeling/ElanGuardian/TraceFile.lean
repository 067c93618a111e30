/-
# Trace files

`write_json` and `read_json` of `src/trace.rs`: a trace as JSON text, with the schema that the
reader checks.  The text of a file is the list of its characters.

* `readJson_ok_iff`: the texts of a trace are read as the trace, whatever their layout, the order
  of their fields and the fields they have besides, and no other text is.
* `readJson_writeJson`: a trace is read back from its file.
-/
import ElanGuardian.JsonStruct
import ElanGuardian.OrderedMap
import ElanGuardian.TraceDiagnosis

open Json Std
open Sysfs (IoResult)

namespace TraceFile

/-! ## Paths as keys -/

/-- A component of a path. -/
inductive Component
  | rootDir
  | curDir
  | parentDir
  | normal (name : String)

/-- The component that stands between two slashes, if there is one. -/
def component (name : List Char) : Option Component :=
  if name = [] ∨ name = ['.'] then none
  else if name = ['.', '.'] then some .parentDir
  else some (.normal (String.ofList name))

/-- `Path::components`: only a leading dot is a component. -/
def components (path : String) : List Component :=
  let names := path.toList.splitOn '/'
  (if path.toList.head? = some '/' then [.rootDir]
    else if names.head? = some ['.'] then [.curDir]
    else []) ++ names.filterMap component

/-- The place of a kind of component in the order of components, and its name. -/
def Component.rank : Component → ℕ × String
  | .rootDir => (0, "")
  | .curDir => (1, "")
  | .parentDir => (2, "")
  | .normal name => (3, name)

def compareRanks : ℕ × String → ℕ × String → Ordering :=
  compareLex (compareOn Prod.fst) (compareOn Prod.snd)

/-- `Ord` of `Component`. -/
def compareComponents (a b : Component) : Ordering := compareRanks a.rank b.rank

/-- `Path::cmp`. -/
def comparePaths (a b : String) : Ordering :=
  List.compareLex compareComponents (components a) (components b)

instance : TransCmp compareRanks := inferInstanceAs (TransCmp (compareLex _ _))

instance : TransCmp compareComponents := transCmp_comap Component.rank

instance : TransCmp comparePaths := transCmp_comap components

/-! ## Traces -/

/-- `Controller`. -/
structure Controller where
  id : String
  sysfsPath : String
  productId : Option String
  firmwareVersion : Option String
  sampleVersion : Option String
  iapVersion : Option String
  mode : Option String
  runtimeWatchdog : Option String
  irq : Option UInt32
  eventNodes : List String

/-- `BTreeMap<PathBuf, u64>`. -/
abbrev EventBytes : Type := OrderedMap comparePaths UInt64

/-- `TraceSample`. -/
structure TraceSample where
  elapsedMs : UInt64
  irqTotal : Option UInt64
  eventBytes : EventBytes

/-- `Trace`. -/
structure Trace where
  schema : String
  capturedUnixMs : BitVec 128
  expectMotion : Bool
  cursorStalled : Bool
  controllers : List Controller
  samples : List TraceSample

/-! ## The fields of the structs -/

inductive ControllerField
  | id
  | sysfsPath
  | productId
  | firmwareVersion
  | sampleVersion
  | iapVersion
  | mode
  | runtimeWatchdog
  | irq
  | eventNodes
  deriving DecidableEq

inductive SampleField
  | elapsedMs
  | irqTotal
  | eventBytes
  deriving DecidableEq

inductive TraceField
  | schema
  | capturedUnixMs
  | expectMotion
  | cursorStalled
  | controllers
  | samples
  deriving DecidableEq

/-- An optional text; a missing one is none. -/
def optionalString : Format (Option String) := Format.string.option

def controllerSchema : Schema ControllerField where
  name
    | .id => "id"
    | .sysfsPath => "sysfs_path"
    | .productId => "product_id"
    | .firmwareVersion => "firmware_version"
    | .sampleVersion => "sample_version"
    | .iapVersion => "iap_version"
    | .mode => "mode"
    | .runtimeWatchdog => "runtime_watchdog"
    | .irq => "irq"
    | .eventNodes => "event_nodes"
  type
    | .id => String
    | .sysfsPath => String
    | .productId => Option String
    | .firmwareVersion => Option String
    | .sampleVersion => Option String
    | .iapVersion => Option String
    | .mode => Option String
    | .runtimeWatchdog => Option String
    | .irq => Option UInt32
    | .eventNodes => List String
  format
    | .id => .string
    | .sysfsPath => .string
    | .productId => optionalString
    | .firmwareVersion => optionalString
    | .sampleVersion => optionalString
    | .iapVersion => optionalString
    | .mode => optionalString
    | .runtimeWatchdog => optionalString
    | .irq => Format.u32.option
    | .eventNodes => Format.string.seq
  missing
    | .id => none
    | .sysfsPath => none
    | .productId => some none
    | .firmwareVersion => some none
    | .sampleVersion => some none
    | .iapVersion => some none
    | .mode => some none
    | .runtimeWatchdog => some none
    | .irq => some none
    | .eventNodes => none
  order := [.id, .sysfsPath, .productId, .firmwareVersion, .sampleVersion, .iapVersion, .mode,
    .runtimeWatchdog, .irq, .eventNodes]
  complete i := by cases i <;> decide
  nodup := by decide

def controllerFields (controller : Controller) : controllerSchema.Fields
  | .id => controller.id
  | .sysfsPath => controller.sysfsPath
  | .productId => controller.productId
  | .firmwareVersion => controller.firmwareVersion
  | .sampleVersion => controller.sampleVersion
  | .iapVersion => controller.iapVersion
  | .mode => controller.mode
  | .runtimeWatchdog => controller.runtimeWatchdog
  | .irq => controller.irq
  | .eventNodes => controller.eventNodes

def makeController (fields : controllerSchema.Fields) : Controller :=
  ⟨fields .id, fields .sysfsPath, fields .productId, fields .firmwareVersion,
    fields .sampleVersion, fields .iapVersion, fields .mode, fields .runtimeWatchdog,
    fields .irq, fields .eventNodes⟩

def controllerFormat : Format Controller :=
  .struct controllerSchema controllerFields makeController

def eventBytesFormat : Format EventBytes :=
  Format.u64.map OrderedMap.insert OrderedMap.empty OrderedMap.entries

def sampleSchema : Schema SampleField where
  name
    | .elapsedMs => "elapsed_ms"
    | .irqTotal => "irq_total"
    | .eventBytes => "event_bytes"
  type
    | .elapsedMs => UInt64
    | .irqTotal => Option UInt64
    | .eventBytes => EventBytes
  format
    | .elapsedMs => .u64
    | .irqTotal => Format.u64.option
    | .eventBytes => eventBytesFormat
  missing
    | .elapsedMs => none
    | .irqTotal => some none
    | .eventBytes => none
  order := [.elapsedMs, .irqTotal, .eventBytes]
  complete i := by cases i <;> decide
  nodup := by decide

def sampleFields (sample : TraceSample) : sampleSchema.Fields
  | .elapsedMs => sample.elapsedMs
  | .irqTotal => sample.irqTotal
  | .eventBytes => sample.eventBytes

def makeSample (fields : sampleSchema.Fields) : TraceSample :=
  ⟨fields .elapsedMs, fields .irqTotal, fields .eventBytes⟩

def sampleFormat : Format TraceSample := .struct sampleSchema sampleFields makeSample

def traceFileSchema : Schema TraceField where
  name
    | .schema => "schema"
    | .capturedUnixMs => "captured_unix_ms"
    | .expectMotion => "expect_motion"
    | .cursorStalled => "cursor_stalled"
    | .controllers => "controllers"
    | .samples => "samples"
  type
    | .schema => String
    | .capturedUnixMs => BitVec 128
    | .expectMotion => Bool
    | .cursorStalled => Bool
    | .controllers => List Controller
    | .samples => List TraceSample
  format
    | .schema => .string
    | .capturedUnixMs => .u128
    | .expectMotion => .bool
    | .cursorStalled => .bool
    | .controllers => controllerFormat.seq
    | .samples => sampleFormat.seq
  missing
    | .schema => none
    | .capturedUnixMs => none
    | .expectMotion => none
    | .cursorStalled => none
    | .controllers => none
    | .samples => none
  order := [.schema, .capturedUnixMs, .expectMotion, .cursorStalled, .controllers, .samples]
  complete i := by cases i <;> decide
  nodup := by decide

def traceFields (trace : Trace) : traceFileSchema.Fields
  | .schema => trace.schema
  | .capturedUnixMs => trace.capturedUnixMs
  | .expectMotion => trace.expectMotion
  | .cursorStalled => trace.cursorStalled
  | .controllers => trace.controllers
  | .samples => trace.samples

def makeTrace (fields : traceFileSchema.Fields) : Trace :=
  ⟨fields .schema, fields .capturedUnixMs, fields .expectMotion, fields .cursorStalled,
    fields .controllers, fields .samples⟩

def traceFormat : Format Trace := .struct traceFileSchema traceFields makeTrace

/-! ## The formats are lawful -/

/-- The format of an optional string is lawful. -/
theorem optionalString_lawful : optionalString.Lawful :=
  Format.option_lawful Format.string_lawful Format.string_head

/-- The format of a controller is lawful. -/
theorem controllerFormat_lawful : controllerFormat.Lawful := by
  refine Format.struct_lawful (fun i => ?_) (fun _ => rfl)
    fun _ => funext fun i => by cases i <;> rfl
  cases i
  case id | sysfsPath => exact Format.string_lawful
  case irq => exact Format.option_lawful Format.u32_lawful Format.number_head
  case eventNodes => exact Format.seq_lawful Format.string_lawful
  all_goals exact optionalString_lawful

/-- The format of the byte counts is lawful. -/
theorem eventBytesFormat_lawful : eventBytesFormat.Lawful :=
  Format.map_lawful Format.u64_lawful OrderedMap.ofEntries_entries

/-- The format of a sample is lawful. -/
theorem sampleFormat_lawful : sampleFormat.Lawful := by
  refine Format.struct_lawful (fun i => ?_) (fun _ => rfl)
    fun _ => funext fun i => by cases i <;> rfl
  cases i with
  | elapsedMs => exact Format.u64_lawful
  | irqTotal => exact Format.option_lawful Format.u64_lawful Format.number_head
  | eventBytes => exact eventBytesFormat_lawful

/-- The format of a trace is lawful. -/
theorem traceFormat_lawful : traceFormat.Lawful := by
  refine Format.struct_lawful (fun i => ?_) (fun _ => rfl)
    fun _ => funext fun i => by cases i <;> rfl
  cases i with
  | schema => exact Format.string_lawful
  | capturedUnixMs => exact Format.u128_lawful
  | expectMotion => exact Format.bool_lawful
  | cursorStalled => exact Format.bool_lawful
  | controllers => exact Format.seq_lawful controllerFormat_lawful
  | samples => exact Format.seq_lawful sampleFormat_lawful

/-! ## Writing and reading a file -/

/-- `write_json`: the text of the file. -/
def writeJson (trace : Trace) : List Char := traceFormat.toVecPretty trace

/-- The end of `read_json`: the schema of the trace. -/
def checkSchema (trace : Trace) : IoResult Trace :=
  if trace.schema ≠ TraceDiagnosis.traceSchema then
    let schema := trace.schema
    .error ⟨.invalidData, s!"unsupported trace schema '{schema}'"⟩
  else .ok trace

/-- `read_json`, of the text of a file; `refusal` is what `serde_json` says of a text that it
refuses. -/
def readJson (refusal : List Char → String) (text : List Char) : IoResult Trace :=
  match traceFormat.fromSlice text with
  | none => .error ⟨.other, refusal text⟩
  | some trace => checkSchema trace

/-- Only traces of this schema are accepted, as they are. -/
theorem checkSchema_ok_iff {trace trace' : Trace} :
    checkSchema trace = .ok trace' ↔
      trace = trace' ∧ trace.schema = TraceDiagnosis.traceSchema := by
  unfold checkSchema
  split_ifs with h
  · constructor
    · intro herror
      cases herror
    · intro hok
      exact absurd hok.2 h
  · constructor
    · intro hok
      exact ⟨Except.ok.inj hok, not_not.mp h⟩
    · intro hok
      exact congrArg Except.ok hok.1

/-- **A trace is read from its texts, and from no other text.** -/
theorem readJson_ok_iff (refusal : List Char → String) (text : List Char) (trace : Trace) :
    readJson refusal text = .ok trace ↔
      trace.schema = TraceDiagnosis.traceSchema ∧
        ∃ blank body blank', Blank blank ∧ traceFormat.Text trace body ∧ Blank blank' ∧
          text = blank ++ (body ++ blank') := by
  constructor
  · intro h
    unfold readJson at h
    split at h
    · cases h
    · rename_i trace' hread
      obtain ⟨rfl, hschema⟩ := checkSchema_ok_iff.mp h
      exact ⟨hschema, traceFormat_lawful.exists_text hread⟩
  · rintro ⟨hschema, blank, body, blank', hblank, hbody, hblank', rfl⟩
    rw [readJson, traceFormat_lawful.fromSlice_text hbody hblank hblank']
    exact checkSchema_ok_iff.mpr ⟨rfl, hschema⟩

/-- **A trace is read back from its file.** -/
theorem readJson_writeJson (refusal : List Char → String) (trace : Trace) :
    readJson refusal (writeJson trace) = checkSchema trace := by
  rw [readJson, writeJson, traceFormat_lawful.fromSlice_toVecPretty trace]

end TraceFile
