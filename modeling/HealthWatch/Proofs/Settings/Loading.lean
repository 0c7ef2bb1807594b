import HealthWatch.Proofs.Bytes
import HealthWatch.Proofs.Except
import HealthWatch.Proofs.Healthcheck.Values
import HealthWatch.Proofs.Toml.Keys
import HealthWatch.Supervisor

/-! # Settings that are loaded

A document holds settings when it has no other keys than theirs, each with a value of its type;
every setting is then that of its own key, or the default (`Settings.Taken`). Settings are loaded
from a file when it holds a text, the text is a document, the document holds settings and they keep
their bounds; otherwise the first of these that fails is told. Defaults stand in for one missing
file only, and whatever a command runs with keeps the bounds (`Settings.loads`).
-/

namespace HealthWatch

namespace Settings

/-! ## The settings one by one -/

/-- One of the settings. -/
inductive Key
  | runtime
  | annotationKey
  | stderrLimit
  | reportTimeout
  | reportQueue
  | preferSystemd
  deriving DecidableEq

namespace Key

/-- The key of a document that gives the setting. -/
def name : Key → String
  | runtime => "runtime"
  | annotationKey => "annotation"
  | stderrLimit => "stderr_limit"
  | reportTimeout => "report_timeout_ms"
  | reportQueue => "report_queue"
  | preferSystemd => "prefer_systemd"

abbrev Content : Key → Type
  | runtime => Bytes
  | annotationKey => String
  | stderrLimit | reportQueue => Nat
  | reportTimeout => Span
  | preferSystemd => Bool

/-- What a value of a document means about a setting. Counts are never negative. -/
def Means : (key : Key) → Toml.Value → key.Content → Prop
  | runtime, value, path => ∃ text, value = .string text ∧ path = Bytes.ofText text
  | annotationKey, value, text => value = .string text
  | stderrLimit, value, count => value = .integer (Int.ofNat count)
  | reportTimeout, value, wait => value = .integer (Int.ofNat wait.milliseconds)
  | reportQueue, value, count => value = .integer (Int.ofNat count)
  | preferSystemd, value, flag => value = .boolean flag

/-- The setting that a value is read as. -/
def read : (key : Key) → Toml.Value → Except Mismatch key.Content
  | runtime, value => (textOf "path string" value).map Bytes.ofText
  | annotationKey, value => textOf "a string" value
  | stderrLimit, value => countOf "usize" value
  | reportTimeout, value => (countOf "u64" value).map Span.mk
  | reportQueue, value => countOf "usize" value
  | preferSystemd, value => flagOf value

end Key

/-- One of the settings. -/
def get (settings : Settings) : (key : Key) → key.Content
  | .runtime => settings.runtime
  | .annotationKey => settings.annotationKey
  | .stderrLimit => settings.stderrLimit
  | .reportTimeout => settings.reportTimeout
  | .reportQueue => settings.reportQueue
  | .preferSystemd => settings.preferSystemd

/-- The settings with one of them changed. -/
def put (settings : Settings) : (key : Key) → key.Content → Settings
  | .runtime, runtime => { settings with runtime }
  | .annotationKey, annotationKey => { settings with annotationKey }
  | .stderrLimit, stderrLimit => { settings with stderrLimit }
  | .reportTimeout, reportTimeout => { settings with reportTimeout }
  | .reportQueue, reportQueue => { settings with reportQueue }
  | .preferSystemd, preferSystemd => { settings with preferSystemd }

section Keys

variable {settings other : Settings} {key : Key} {content : key.Content} {value : Toml.Value}
  {name : String}

/-- Settings with the same values for all keys are the same. -/
theorem get_ext (same : ∀ key, settings.get key = other.get key) : settings = other := by
  cases settings
  cases other
  cases same .runtime
  cases same .annotationKey
  cases same .stderrLimit
  cases same .reportTimeout
  cases same .reportQueue
  cases same .preferSystemd
  rfl

theorem get_put : (settings.put key content).get key = content := by
  cases key <;> rfl

theorem get_put_of_ne {another : Key} (differ : another ≠ key) :
    (settings.put key content).get another = settings.get another := by
  cases key <;> cases another <;> first | rfl | exact absurd rfl differ

/-- Keys of different settings have different names. -/
theorem name_injective {first second : Key} (same : first.name = second.name) :
    first = second := by
  revert same
  cases first <;> cases second <;> decide

/-- Only a string is read as a text. -/
theorem textOf_eq_ok {expected text : String} :
    textOf expected value = .ok text ↔ value = .string text := by
  cases value <;> simp [textOf]

/-- Only an integer that is not negative is read as a count. -/
theorem countOf_eq_ok {expected : String} {count : Nat} :
    countOf expected value = .ok count ↔ value = .integer (Int.ofNat count) := by
  cases value with
  | integer whole =>
      cases whole with
      | ofNat whole =>
          simp only [countOf, Int.ofNat_eq_natCast, Int.natCast_nonneg, if_true, Int.toNat_natCast,
            Except.ok.injEq, Toml.Value.integer.injEq, Int.natCast_inj]
      | negSucc whole => simp [countOf]
  | _ => simp [countOf]

/-- Only a boolean is read as a flag. -/
theorem flagOf_eq_ok {flag : Bool} : flagOf value = .ok flag ↔ value = .boolean flag := by
  cases value <;> simp [flagOf]

/-- A setting is read from exactly those values that mean something for it. -/
theorem read_eq_ok : key.read value = .ok content ↔ key.Means value content := by
  cases key with
  | runtime =>
      refine map_eq_ok.trans (exists_congr fun text => and_congr_left' ?_)
      exact textOf_eq_ok
  | annotationKey => exact textOf_eq_ok
  | stderrLimit => exact countOf_eq_ok
  | reportTimeout =>
      refine map_eq_ok.trans ⟨?_, fun same => ⟨_, countOf_eq_ok.mpr same, rfl⟩⟩
      rintro ⟨count, read, rfl⟩
      exact countOf_eq_ok.mp read
  | reportQueue => exact countOf_eq_ok
  | preferSystemd => exact flagOf_eq_ok

/-- A known key changes its setting to what its value is read as. -/
theorem set_name : settings.set key.name value = (key.read value).map (settings.put key) := by
  cases key with
  | runtime => cases value <;> rfl
  | annotationKey => rfl
  | stderrLimit => rfl
  | reportTimeout =>
      show (countOf "u64" value).map _ = ((countOf "u64" value).map Span.mk).map _
      cases countOf "u64" value <;> rfl
  | reportQueue => rfl
  | preferSystemd => rfl

/-- A key of no setting is refused by its name. -/
theorem set_unknown (unknown : ∀ key : Key, name ≠ key.name) :
    settings.set name value = .error (.unknownField name names) := by
  unfold set
  refine (if_neg (unknown .runtime)).trans ?_
  refine (if_neg (unknown .annotationKey)).trans ?_
  refine (if_neg (unknown .stderrLimit)).trans ?_
  refine (if_neg (unknown .reportTimeout)).trans ?_
  refine (if_neg (unknown .reportQueue)).trans ?_
  exact if_neg (unknown .preferSystemd)

/-- An entry sets one of the settings, or is refused. -/
theorem set_eq_ok : settings.set name value = .ok other ↔
    ∃ key content, name = key.name ∧ key.Means value content ∧
      other = settings.put key content := by
  constructor
  · intro done
    by_cases known : ∃ key : Key, name = key.name
    · obtain ⟨key, rfl⟩ := known
      rw [set_name, map_eq_ok] at done
      obtain ⟨content, read, rfl⟩ := done
      exact ⟨key, content, rfl, read_eq_ok.mp read, rfl⟩
    · rw [set_unknown (not_exists.mp known)] at done
      cases done
  · rintro ⟨key, content, rfl, means, rfl⟩
    rw [set_name, read_eq_ok.mpr means]
    rfl

end Keys

/-! ## The settings in a table -/

/-- The settings in a table: every key of it is that of a setting, and every setting is the one that
the table gives, or that of `defaults` when the table gives none. -/
structure TakenWith (defaults : Settings) (table : Toml.Entries) (settings : Settings) : Prop where
  known : ∀ entry ∈ table, ∃ key : Key, entry.1 = key.name
  given : ∀ (key : Key) (value : Toml.Value), table.find? key.name = some value →
    key.Means value (settings.get key)
  left : ∀ key : Key, table.find? key.name = none → settings.get key = defaults.get key

section Tables

variable {defaults settings : Settings} {table : Toml.Entries}

theorem find?_cons_other {key other : Key} (differ : other ≠ key) {value : Toml.Value} :
    Toml.Entries.find? other.name ((key.name, value) :: table) = table.find? other.name :=
  Toml.Entries.find?_cons_of_ne fun same => differ (name_injective same.symm)

/-- An entry that comes first is taken, and leaves the other settings to those after it. -/
theorem takenWith_cons {key : Key} {value : Toml.Value} (new : table.find? key.name = none) :
    TakenWith defaults ((key.name, value) :: table) settings ↔
      ∃ content, key.Means value content ∧ TakenWith (defaults.put key content) table settings := by
  constructor
  · intro taken
    refine ⟨settings.get key, taken.given key value Toml.Entries.find?_cons_self,
      fun entry member => taken.known entry (List.mem_cons_of_mem _ member), ?_, ?_⟩
    · intro other given found
      have differ : other ≠ key := by
        rintro rfl
        rw [new] at found
        cases found
      exact taken.given other given ((find?_cons_other differ).trans found)
    · intro other absent
      by_cases same : other = key
      · subst same
        exact get_put.symm
      · rw [get_put_of_ne same]
        exact taken.left other ((find?_cons_other same).trans absent)
  · rintro ⟨content, means, taken⟩
    have first : settings.get key = content := (taken.left key new).trans get_put
    refine ⟨List.forall_mem_cons.mpr ⟨⟨key, rfl⟩, taken.known⟩, ?_, ?_⟩
    · intro other given found
      by_cases same : other = key
      · subst same
        rw [Toml.Entries.find?_cons_self] at found
        cases found
        rwa [first]
      · exact taken.given other given ((find?_cons_other same).symm.trans found)
    · intro other absent
      by_cases same : other = key
      · subst same
        rw [Toml.Entries.find?_cons_self] at absent
        cases absent
      · rw [taken.left other ((find?_cons_other same).symm.trans absent), get_put_of_ne same]

/-- Taking the entries one by one succeeds exactly when the table gives the settings. -/
theorem foldlM_set_eq_ok (distinct : table.Distinct) :
    table.foldlM (fun settings entry => settings.set entry.1 entry.2) defaults = .ok settings ↔
      TakenWith defaults table settings := by
  induction table generalizing defaults with
  | nil =>
      constructor
      · rintro ⟨⟩
        exact ⟨nofun, nofun, fun _ _ => rfl⟩
      · exact fun taken => congrArg Except.ok (get_ext fun key => (taken.left key rfl).symm)
  | cons entry table ih =>
      obtain ⟨name, value⟩ := entry
      rw [List.foldlM_cons, bind_eq_ok]
      constructor
      · rintro ⟨next, done, rest⟩
        obtain ⟨key, content, rfl, means, rfl⟩ := set_eq_ok.mp done
        exact (takenWith_cons distinct.find?_eq_none_of_cons).mpr
          ⟨content, means, (ih distinct.of_cons).mp rest⟩
      · intro taken
        obtain ⟨key, same⟩ := taken.known (name, value) List.mem_cons_self
        cases same
        obtain ⟨content, means, rest⟩ :=
          (takenWith_cons distinct.find?_eq_none_of_cons).mp taken
        exact ⟨_, set_eq_ok.mpr ⟨key, content, rfl, means, rfl⟩, (ih distinct.of_cons).mpr rest⟩

end Tables

/-- The settings in a table, with the defaults of the program. -/
abbrev Taken (table : Toml.Entries) (settings : Settings) : Prop := TakenWith {} table settings

/-- The settings in a document. -/
def Holds (document : String) (settings : Settings) : Prop :=
  ∃ table, Toml.parse document = some table ∧ Taken table settings

section Documents

variable {document : String} {settings : Settings}

/-- Settings are taken from exactly those documents that hold them. -/
theorem ofDocument_eq_ok : ofDocument document = .ok settings ↔ Holds document settings := by
  rw [ofDocument, Holds]
  cases parsed : Toml.parse document with
  | none => simp
  | some table =>
      simp only [Option.some.injEq, exists_eq_left']
      exact mapError_eq_ok.trans (foldlM_set_eq_ok (Toml.distinct_parse parsed))

/-- A document that holds no settings is refused. -/
theorem ofDocument_eq_error : (∃ fault, ofDocument document = .error fault) ↔
    ¬ ∃ settings, Holds document settings := by
  simp only [← ofDocument_eq_ok]
  cases ofDocument document <;> simp

end Documents

/-! ## Bounds -/

/-- The bounds of settings in the order in which they are checked, each with what is told. -/
def bounds (settings : Settings) : List (Requirement SettingsViolation) :=
  [⟨settings.runtime ≠ [], .emptyRuntime⟩,
    ⟨settings.annotationKey ≠ "", .emptyAnnotationKey⟩,
    ⟨1 ≤ settings.stderrLimit ∧ settings.stderrLimit ≤ 65536, .stderrLimit settings.stderrLimit⟩,
    ⟨1 ≤ settings.reportTimeout.milliseconds ∧ settings.reportTimeout.milliseconds ≤ 60000,
      .reportTimeout settings.reportTimeout.milliseconds⟩,
    ⟨1 ≤ settings.reportQueue, .emptyQueue⟩]

/-- Settings keep all bounds. -/
def Sound (settings : Settings) : Prop := Requirement.AllMet settings.bounds

section Bounds

variable {settings : Settings} {violation : SettingsViolation}

/-- The violation that is told is the first bound that is not kept. -/
theorem violation?_eq_some :
    settings.violation? = some violation ↔ Requirement.FirstUnmet settings.bounds violation := by
  simp only [violation?, bounds, Requirement.firstUnmet_cons, Requirement.not_firstUnmet_nil,
    and_false, or_false]
  grind

/-- Nothing is told exactly when all bounds are kept. -/
theorem violation?_eq_none : settings.violation? = none ↔ settings.Sound :=
  Requirement.eq_none_iff_allMet fun _ => violation?_eq_some

/-- The defaults keep all bounds. -/
theorem sound_default : Sound {} := by
  have runtime : Bytes.ofText "/usr/bin/crun" ≠ [] := by
    rw [Bytes.ofText_eq]
    decide
  have others : ∀ bound ∈ (bounds {}).tail, bound.holds := by
    simp [bounds]
  exact List.forall_mem_cons.mpr ⟨runtime, others⟩

end Bounds

/-! ## Loading a file -/

section Files

variable {read : FileReader} {path : Bytes} {document : String} {settings : Settings}

/-- A document passes exactly when it holds settings that keep all bounds. -/
theorem check_eq_ok :
    check document = .ok settings ↔ Holds document settings ∧ settings.Sound := by
  rw [← ofDocument_eq_ok, check]
  cases ofDocument document with
  | error fault => simp
  | ok found =>
      rw [Except.ok.injEq, ← violation?_eq_none]
      dsimp only
      cases violated : found.violation? with
      | some violation =>
          refine ⟨nofun, ?_⟩
          rintro ⟨rfl, kept⟩
          rw [violated] at kept
          cases kept
      | none =>
          constructor
          · rintro ⟨⟩
            exact ⟨rfl, violated⟩
          · rintro ⟨rfl, -⟩
            rfl

/-- A document is refused because it holds no settings, or because those it holds do not keep a
bound. -/
theorem check_eq_error {failure : Failure} : check document = .error failure ↔
    (∃ fault, ofDocument document = .error fault ∧ failure = .settingsMalformed fault) ∨
      ∃ settings violation, Holds document settings ∧
        Requirement.FirstUnmet settings.bounds violation ∧
        failure = .settingsInvalid violation := by
  simp only [← ofDocument_eq_ok, ← violation?_eq_some]
  rw [check]
  cases ofDocument document with
  | error fault => simp [eq_comm]
  | ok found =>
      cases violated : found.violation? with
      | some violation => simp [violated, eq_comm]
      | none => simp [violated]

/-- A file is read as text exactly when its bytes are those of the text. -/
theorem text_eq_ok : read.text path = .ok document ↔ read path = .ok (Bytes.ofText document) := by
  rw [FileReader.text]
  cases read path with
  | error fault => simp
  | ok content =>
      simp only [Except.ok.injEq, ← Bytes.text?_eq_some]
      cases content.text? <;> simp

/-- Why a file cannot be read as text. -/
def Unreadable (read : FileReader) (path : Bytes) (fault : IoFault) : Prop :=
  read path = .error fault ∨
    (fault = .notText ∧ ∃ content, read path = .ok content ∧ ∀ text, content ≠ Bytes.ofText text)

/-- A file is refused as text when it cannot be read or its bytes are no text. -/
theorem text_eq_error {fault : IoFault} :
    read.text path = .error fault ↔ Unreadable read path fault := by
  rw [FileReader.text, Unreadable]
  cases read path with
  | error other => simp
  | ok content =>
      simp only [reduceCtorEq, Except.ok.injEq, exists_eq_left', false_or, ne_eq,
        ← Bytes.text?_eq_some]
      cases content.text? <;> simp [eq_comm]

/-- Why no settings are loaded from a file: of its reading, its document and their bounds, the first
that fails. -/
inductive Refusal (read : FileReader) (path : Bytes) : Failure → Prop
  | unreadable {fault : IoFault} (unread : Unreadable read path fault) :
      Refusal read path (.settingsUnreadable path fault)
  | malformed {document : String} {fault : SettingsFault}
      (content : read path = .ok (Bytes.ofText document))
      (useless : ¬ ∃ settings, Holds document settings)
      (told : ofDocument document = .error fault) : Refusal read path (.settingsMalformed fault)
  | invalid {document : String} {settings : Settings} {violation : SettingsViolation}
      (content : read path = .ok (Bytes.ofText document)) (held : Holds document settings)
      (unmet : Requirement.FirstUnmet settings.bounds violation) :
      Refusal read path (.settingsInvalid violation)

/-- Settings are loaded exactly from a readable file whose document holds them and keeps their
bounds. -/
theorem load_eq_ok : load read path = .ok settings ↔
    ∃ document, read path = .ok (Bytes.ofText document) ∧ Holds document settings ∧
      settings.Sound := by
  simp only [← text_eq_ok, ← check_eq_ok]
  rw [load]
  cases read.text path <;> simp

/-- A load is refused by the first of its stages that fails. -/
theorem load_eq_error {failure : Failure} :
    load read path = .error failure ↔ Refusal read path failure := by
  constructor
  · intro refused
    rw [load] at refused
    split at refused
    · rename_i unread
      cases refused
      exact .unreadable (text_eq_error.mp unread)
    · rename_i document content
      obtain ⟨fault, told, rfl⟩ | ⟨settings, violation, held, unmet, rfl⟩ :=
        check_eq_error.mp refused
      · exact .malformed (text_eq_ok.mp content) (ofDocument_eq_error.mp ⟨fault, told⟩) told
      · exact .invalid (text_eq_ok.mp content) held unmet
  · intro refusal
    rw [load]
    cases refusal with
    | unreadable unread => rw [text_eq_error.mpr unread]
    | malformed content useless told =>
        rw [text_eq_ok.mpr content]
        exact check_eq_error.mpr (.inl ⟨_, told, rfl⟩)
    | invalid content held unmet =>
        rw [text_eq_ok.mpr content]
        exact check_eq_error.mpr (.inr ⟨_, _, held, unmet, rfl⟩)

/-- The default file does not exist. -/
structure Missing (read : FileReader) (path : Bytes) : Prop where
  absent : read path = .error .notFound
  standard : Path.components path = [Bytes.ofText "lookout.toml"]

/-- The default path has one component. -/
theorem components_defaultPath : Path.components defaultPath = [Bytes.ofText "lookout.toml"] := by
  rw [defaultPath, Bytes.ofText_eq]
  decide

/-- When the default file does not exist, the defaults are used. -/
theorem loadOrDefault_of_missing (missing : Missing read path) :
    loadOrDefault read path = .ok {} := by
  have unread : load read path = .error (.settingsUnreadable path .notFound) :=
    load_eq_error.mpr (.unreadable (.inl missing.absent))
  rw [loadOrDefault, unread]
  exact if_pos (missing.standard.trans components_defaultPath.symm)

/-- Any other file has to be there and to be right. -/
theorem loadOrDefault_of_not_missing (present : ¬ Missing read path) :
    loadOrDefault read path = load read path := by
  rw [loadOrDefault]
  split
  · rename_i unread
    refine (if_neg fun same => present ⟨?_, same.trans components_defaultPath⟩).trans unread.symm
    cases load_eq_error.mp unread with
    | unreadable unread => exact unread.resolve_right fun wrong => nomatch wrong.1
  · rfl

/-- Settings that a program runs with keep all bounds. -/
theorem sound_of_loadOrDefault (loaded : loadOrDefault read path = .ok settings) :
    settings.Sound := by
  by_cases missing : Missing read path
  · rw [loadOrDefault_of_missing missing] at loaded
    cases loaded
    exact sound_default
  · rw [loadOrDefault_of_not_missing missing] at loaded
    obtain ⟨-, -, -, sound⟩ := load_eq_ok.mp loaded
    exact sound

end Files

end Settings

/-! ## Settings that commands run with -/

namespace Supervisor

variable (surroundings : Surroundings) (now : Int)

/-- What a command does with the settings. Completions do without. -/
def actionOf : Command → Option (Settings → Except Failure Reply)
  | .completion _ => none
  | .validate bundle payload => some fun settings =>
      (inspect surroundings settings bundle payload).map fun inspection =>
        printed 0 inspection.text
  | .probe container exec timeout test => some fun settings =>
      (probeOnce surroundings settings container exec timeout test).map fun outcome =>
        printed (outcome.exitCode % 256).toNat (outcomeText outcome)
  | .monitor container bundle exec descriptor => some fun settings =>
      (prepare surroundings settings now container bundle exec descriptor).map fun _ =>
        printed 0 ""

/-- The reply of an action that is over. -/
def settled : Except Failure Reply → Reply
  | .error failure => failed failure
  | .ok reply => reply

/-- A command that needs settings runs with those of its file, or tells why there are none. -/
theorem reply_eq_withSettings {invocation : Invocation}
    {action : Settings → Except Failure Reply}
    (needs : actionOf surroundings now invocation.command = some action) :
    reply surroundings now invocation = withSettings surroundings invocation.settings action := by
  rw [reply]
  cases command : invocation.command <;> rw [command] at needs <;> cases needs <;> rfl

end Supervisor

namespace Settings

open Supervisor (actionOf reply settled failed)

/-- Which settings are loaded from a file, what is told when there are none, and what commands run
with. -/
structure Loads (surroundings : Surroundings) (path : Bytes) : Prop where
  loaded : ∀ settings, load surroundings.read path = .ok settings ↔
    ∃ document, surroundings.read path = .ok (Bytes.ofText document) ∧ Holds document settings ∧
      settings.Sound
  refused : ∀ failure,
    load surroundings.read path = .error failure ↔ Refusal surroundings.read path failure
  missing : Missing surroundings.read path → loadOrDefault surroundings.read path = .ok {}
  present : ¬ Missing surroundings.read path →
    loadOrDefault surroundings.read path = load surroundings.read path
  defaultsSound : Sound {}
  /-- A command that needs settings fails as their loading does, or runs with sound settings. -/
  commands : ∀ now verbose command action, actionOf surroundings now command = some action →
    (∃ failure, loadOrDefault surroundings.read path = .error failure ∧
      reply surroundings now ⟨path, verbose, command⟩ = failed failure) ∨
    ∃ settings, loadOrDefault surroundings.read path = .ok settings ∧ settings.Sound ∧
      reply surroundings now ⟨path, verbose, command⟩ = settled (action settings)

/-- **Which settings a file gives.** Those that its document holds, if they keep all bounds; the
defaults, if the path is that of the default file and there is none; and else the first reason that
there are none. -/
theorem loads (surroundings : Surroundings) (path : Bytes) : Loads surroundings path where
  loaded _ := load_eq_ok
  refused _ := load_eq_error
  missing := loadOrDefault_of_missing
  present := loadOrDefault_of_not_missing
  defaultsSound := sound_default
  commands now verbose command action needs := by
    rw [Supervisor.reply_eq_withSettings surroundings now needs, Supervisor.withSettings]
    cases loaded : loadOrDefault surroundings.read path with
    | error failure => exact .inl ⟨failure, rfl, rfl⟩
    | ok settings => exact .inr ⟨settings, rfl, sound_of_loadOrDefault loaded, rfl⟩

/-- Paths are told apart by their components, of which a separator at the end is none. -/
example : Path.components (Bytes.ofText "lookout.toml/.") = [Bytes.ofText "lookout.toml"] ∧
    Path.components (Bytes.ofText "./lookout.toml") ≠ [Bytes.ofText "lookout.toml"] := by
  simp only [Bytes.ofText_eq]
  decide

end Settings

end HealthWatch
