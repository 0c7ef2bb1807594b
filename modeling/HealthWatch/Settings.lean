import HealthWatch.Files
import HealthWatch.Failure
import HealthWatch.Toml.Document

/-! # Settings of the supervisor

Settings come from a TOML document in which every key is optional. `Settings.ofTable` reads
them from the table that the document stands for, `Settings.load` from a file, and
`Settings.loadOrDefault` does without the file when it has the default name and does not
exist. All settings that are loaded keep the bounds that `Settings.violation?` checks.
-/

namespace HealthWatch

/-- What the supervisor can be told beforehand. -/
structure Settings where
  /-- The program that runs commands inside containers. -/
  runtime : Bytes := Bytes.ofText "/usr/bin/crun"
  /-- The key of the annotation that holds a healthcheck. -/
  annotationKey : String := "io.containers.healthcheck"
  /-- Bytes of a probe's standard error that are kept. -/
  stderrLimit : Nat := 4096
  /-- How long a report may wait for a place in the queue. -/
  reportTimeout : Span := ⟨1000⟩
  /-- Places in the queue of reports. -/
  reportQueue : Nat := 64
  /-- Whether probing is left to a service manager that runs. -/
  preferSystemd : Bool := false
  deriving DecidableEq, Repr

namespace Settings

/-- The names of the settings. -/
def names : List String :=
  ["runtime", "annotation", "stderr_limit", "report_timeout_ms", "report_queue",
    "prefer_systemd"]

/-- A text setting. -/
def textOf (expected : String) : Toml.Value → Except Mismatch String
  | .string text => .ok text
  | other => .error (.wrongType other.found expected)

/-- A setting that counts something. -/
def countOf (expected : String) : Toml.Value → Except Mismatch Nat
  | .integer value =>
      if 0 ≤ value then .ok value.toNat
      else .error (.wrongValue (.integer value) expected)
  | other => .error (.wrongType other.found expected)

/-- A setting that is on or off. -/
def flagOf : Toml.Value → Except Mismatch Bool
  | .boolean value => .ok value
  | other => .error (.wrongType other.found "a boolean")

/-- The settings with one of them changed. -/
def set (settings : Settings) (name : String) (value : Toml.Value) : Except Mismatch Settings :=
  if name = "runtime" then
    (textOf "path string" value).map fun runtime => { settings with runtime := .ofText runtime }
  else if name = "annotation" then
    (textOf "a string" value).map fun annotationKey => { settings with annotationKey }
  else if name = "stderr_limit" then
    (countOf "usize" value).map fun stderrLimit => { settings with stderrLimit }
  else if name = "report_timeout_ms" then
    (countOf "u64" value).map fun wait => { settings with reportTimeout := ⟨wait⟩ }
  else if name = "report_queue" then
    (countOf "usize" value).map fun reportQueue => { settings with reportQueue }
  else if name = "prefer_systemd" then
    (flagOf value).map fun preferSystemd => { settings with preferSystemd }
  else .error (.unknownField name names)

/-- The settings in a table: its entries in turn, and defaults for all others. -/
def ofTable (table : Toml.Entries) : Except Mismatch Settings :=
  table.foldlM (fun settings entry => settings.set entry.1 entry.2) {}

/-- The settings in a document, whose bounds are not checked. -/
def ofDocument (document : String) : Except SettingsFault Settings :=
  match Toml.parse document with
  | none => .error .malformed
  | some table => (ofTable table).mapError .mismatch

/-- The first bound that settings do not keep. -/
def violation? (settings : Settings) : Option SettingsViolation :=
  if settings.runtime = [] then some .emptyRuntime
  else if settings.annotationKey = "" then some .emptyAnnotationKey
  else if settings.stderrLimit < 1 ∨ 65536 < settings.stderrLimit then
    some (.stderrLimit settings.stderrLimit)
  else if settings.reportTimeout.milliseconds < 1 ∨ 60000 < settings.reportTimeout.milliseconds then
    some (.reportTimeout settings.reportTimeout.milliseconds)
  else if settings.reportQueue = 0 then some .emptyQueue
  else none

/-- The settings in the document of a file, whose bounds are checked. -/
def check (document : String) : Except Failure Settings :=
  match ofDocument document with
  | .error fault => .error (.settingsMalformed fault)
  | .ok settings =>
      match settings.violation? with
      | some violation => .error (.settingsInvalid violation)
      | none => .ok settings

/-- The settings in a file. -/
def load (read : FileReader) (path : Bytes) : Except Failure Settings :=
  match read.text path with
  | .error fault => .error (.settingsUnreadable path fault)
  | .ok document => check document

/-- The file that settings are read from when no other is named. -/
def defaultPath : Bytes := Bytes.ofText "lookout.toml"

/-- The settings in a file, or the defaults when it is the default file and does not exist. -/
def loadOrDefault (read : FileReader) (path : Bytes) : Except Failure Settings :=
  match load read path with
  | .error (.settingsUnreadable unread .notFound) =>
      if Path.components path = Path.components defaultPath then .ok {}
      else .error (.settingsUnreadable unread .notFound)
  | result => result

end Settings

end HealthWatch
