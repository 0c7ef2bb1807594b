import HealthWatch.Healthcheck.Annotations
import HealthWatch.Proofs.Healthcheck.Values
import HealthWatch.Proofs.Json.Records

/-! # What annotations are accepted

An annotation that is one object is read in two stages. Its members have to spell out a test and
four numbers (`Annotations.Spells`), and those have to be permitted (`Annotations.Permits`). Which
stage fails decides on the failure (`Annotations.answers`).
-/

namespace HealthWatch

namespace Annotations

open Json Json.Written

/-- The values that an annotation has to give. -/
structure Values where
  test : List String
  interval : Int
  timeout : Int
  startPeriod : Int
  retries : Int

/-- A value is written as a whole number of 64 bits. -/
def Counts (tree : Tree) (value : Int) : Prop :=
  tree.integer? = some value ∧ -0x8000000000000000 ≤ value ∧ value ≤ 0x7FFFFFFFFFFFFFFF

/-- The members of an object spell out values: in some order they are one for each of the five keys,
and no others. -/
def Spells (members : List (Member Tree)) (values : Values) : Prop :=
  ∃ entries test interval timeout startPeriod retries,
    entries? members = some entries ∧
    entries.Perm [("test", test), ("interval", interval), ("timeout", timeout),
      ("start_period", startPeriod), ("retries", retries)] ∧
    test.strings? = some values.test ∧ Counts interval values.interval ∧
    Counts timeout values.timeout ∧ Counts startPeriod values.startPeriod ∧
    Counts retries values.retries

/-- A test names a program with its arguments, or one command for the shell. -/
inductive Form : List String → List String → Prop
  | program {program : String} (arguments : List String) (nonempty : program ≠ "") :
      Form ("CMD" :: program :: arguments) (program :: arguments)
  | shell {command : String} (nonempty : command ≠ "") (short : command.utf8ByteSize ≤ 4096) :
      Form ["CMD-SHELL", command] ["/bin/sh", "-c", command]

/-- The values describe a healthcheck that runs `argv`. -/
structure Permits (values : Values) (argv : List String) : Prop where
  form : Form values.test argv
  noNul : ∀ argument ∈ values.test.tail, '\x00' ∉ argument.toList
  interval : 1 ≤ values.interval ∧ values.interval ≤ 3600
  timeout : 1 ≤ values.timeout ∧ values.timeout ≤ 300
  startPeriod : 0 ≤ values.startPeriod ∧ values.startPeriod ≤ 3600
  retries : 0 ≤ values.retries ∧ values.retries ≤ 100

/-- The healthcheck is enabled, runs `argv` and has the numbers of the values. -/
structure Keeps (values : Values) (argv : List String) (check : Healthcheck) : Prop where
  enabled : check.enabled = true
  test : check.test = argv
  interval : (check.interval.toNat : Int) = values.interval
  timeout : (check.timeout.toNat : Int) = values.timeout
  startPeriod : (check.startPeriod.toNat : Int) = values.startPeriod
  retries : (check.retries.toNat : Int) = values.retries

/-- A command is taken from the two forms that a test can have, and from no others. -/
theorem commandOf_eq_ok {test argv : List String} :
    commandOf test = .ok argv ↔
      (∃ program arguments, test = "CMD" :: program :: arguments ∧ argv = program :: arguments) ∨
        ∃ command, test = ["CMD-SHELL", command] ∧ argv = shellTest command ∧ command ≠ "" ∧
          command.utf8ByteSize ≤ maxCommandBytes := by
  constructor
  · intro taken
    obtain _ | ⟨form, _ | ⟨first, others⟩⟩ := test
    · cases taken
    · cases taken
    · change (if form = "CMD" then _ else if form = "CMD-SHELL" then _ else _) = _ at taken
      split at taken
      · rename_i isProgram
        cases taken
        exact .inl ⟨first, others, by rw [isProgram], rfl⟩
      · split at taken
        · rename_i isShell
          cases others with
          | cons other others => cases taken
          | nil =>
              dsimp only at taken
              split at taken
              · cases taken
              · rename_i nonempty
                split at taken
                · cases taken
                · rename_i short
                  cases taken
                  exact .inr ⟨first, by rw [isShell], rfl,
                    fun empty => nonempty (String.isEmpty_iff.mpr empty), Nat.not_lt.mp short⟩
        · cases taken
  · rintro (⟨program, arguments, rfl, rfl⟩ | ⟨command, rfl, rfl, nonempty, short⟩)
    · rfl
    · have notEmpty : ¬command.isEmpty = true := fun empty => nonempty (String.isEmpty_iff.mp empty)
      rw [commandOf, if_neg (by decide), if_pos rfl, if_neg notEmpty, if_neg (Nat.not_lt.mpr short)]

/-- A test is taken, and what it runs can be run, exactly when it has one of the two forms. -/
theorem form_iff {test argv : List String} :
    commandOf test = .ok argv ∧ Healthcheck.testFault? argv = none ↔
      Form test argv ∧ ∀ argument ∈ test.tail, '\x00' ∉ argument.toList := by
  rw [commandOf_eq_ok, Healthcheck.testFault?_eq_none]
  constructor
  · rintro ⟨⟨program, arguments, rfl, rfl⟩ | ⟨command, rfl, rfl, nonempty, short⟩,
      ⟨_, _, ⟨⟩, named⟩, clean⟩
    · exact ⟨.program arguments named, clean⟩
    · exact ⟨.shell nonempty short,
        fun argument member => clean argument (.tail _ (.tail _ member))⟩
  · rintro ⟨form, clean⟩
    cases form with
    | program arguments nonempty =>
        exact ⟨.inl ⟨_, arguments, rfl, rfl⟩, ⟨_, arguments, rfl, nonempty⟩, clean⟩
    | @shell command nonempty short =>
        refine ⟨.inr ⟨command, rfl, rfl, nonempty, short⟩, ⟨_, _, rfl, by decide⟩, ?_⟩
        intro argument member
        rcases member with _ | ⟨_, _ | ⟨_, member⟩⟩
        · decide
        · decide
        · exact clean argument member

/-- Values make a healthcheck exactly when they are permitted, and it keeps them. -/
theorem healthcheck_eq_ok {values : Values} {check : Healthcheck} :
    healthcheck values.test values.interval values.timeout values.startPeriod values.retries =
        .ok check ↔
      ∃ argv, Permits values argv ∧ Keeps values argv check := by
  rw [healthcheck, bind_eq_ok]
  simp only [Healthcheck.ofValues_eq_ok_iff, Healthcheck.checkRange_eq_ok]
  constructor
  · rintro ⟨argv, taken, sound, interval, timeout, startPeriod, retries, test, enabled⟩
    obtain ⟨form, clean⟩ := form_iff.mp ⟨taken, sound⟩
    exact ⟨argv, ⟨form, clean, interval.1, timeout.1, startPeriod.1, retries.1⟩,
      ⟨enabled, test, interval.2, timeout.2, startPeriod.2, retries.2⟩⟩
  · rintro ⟨argv, permits, keeps⟩
    obtain ⟨taken, sound⟩ := form_iff.mpr ⟨permits.form, permits.noNul⟩
    exact ⟨argv, taken, sound, ⟨permits.interval, keeps.interval⟩,
      ⟨permits.timeout, keeps.timeout⟩, ⟨permits.startPeriod, keeps.startPeriod⟩,
      ⟨permits.retries, keeps.retries⟩, keeps.test, keeps.enabled⟩

/-- A number is read as an integer exactly when it is written as one that fits. -/
theorem data?_int64 {tree : Tree} {value : Int} :
    tree.data? .int64 = some value ↔ Counts tree value := by
  rw [Tree.data?, Option.filter_eq_some_iff, decide_eq_true_eq]
  rfl

/-- The record of an annotation is read from an object exactly when its members spell out the
values. -/
theorem ofText_eq_ok {document : Document} {values : Values} :
    record.ofText document.text = .ok (values.test, values.interval, values.timeout,
        values.startPeriod, values.retries, ()) ↔ Spells document.members values := by
  rw [Record.ofText_eq_ok (by decide) (by decide)]
  constructor
  · rintro ⟨entries, _, others, named, same, listed, -, none⟩
    obtain ⟨test, _, rfl, texts, interval, _, rfl, first, timeout, _, rfl, second, startPeriod, _,
      rfl, third, retries, _, rfl, fourth, rfl⟩ := listed
    rw [none rfl, List.append_nil] at same
    exact ⟨entries, test, interval, timeout, startPeriod, retries, named, same, texts,
      data?_int64.mp first, data?_int64.mp second, data?_int64.mp third, data?_int64.mp fourth⟩
  · rintro ⟨entries, test, interval, timeout, startPeriod, retries, named, same, texts, first,
      second, third, fourth⟩
    exact ⟨entries, _, [], named, (List.append_nil _).symm ▸ same,
      ⟨test, _, rfl, texts, interval, _, rfl, data?_int64.mpr first, timeout, _, rfl,
        data?_int64.mpr second, startPeriod, _, rfl, data?_int64.mpr third, retries, _, rfl,
        data?_int64.mpr fourth, rfl⟩, nofun, fun _ => rfl⟩

/-- Values that are permitted can all be kept in a healthcheck. -/
theorem exists_keeps {values : Values} {argv : List String} (permits : Permits values argv) :
    ∃ check, Keeps values argv check := by
  obtain ⟨-, -, interval, timeout, startPeriod, retries⟩ := permits
  refine ⟨⟨argv, .ofNat values.interval.toNat, .ofNat values.timeout.toNat,
    .ofNat values.startPeriod.toNat, .ofNat values.retries.toNat, true⟩, rfl, rfl, ?_, ?_, ?_, ?_⟩
  all_goals
    rw [UInt32.toNat_ofNat']
    omega

/-- The record of an annotation is read, and has these values. -/
def Reads (payload : String) (values : Values) : Prop :=
  record.ofText payload = .ok (values.test, values.interval, values.timeout, values.startPeriod,
    values.retries, ())

section Reads

variable {payload : String} {values : Values} (reads : Reads payload values)
include reads

/-- A payload with five values makes what the checks of these values make of them. -/
theorem parse_of_reads : parse payload =
    (healthcheck values.test values.interval values.timeout values.startPeriod
      values.retries).mapError .healthcheckInvalid := by
  rw [parse, reads]

/-- Values that are read make a healthcheck when they are permitted. -/
theorem parse_eq_ok_of_reads {check : Healthcheck} :
    parse payload = .ok check ↔ ∃ argv, Permits values argv ∧ Keeps values argv check := by
  rw [parse_of_reads reads, ← healthcheck_eq_ok]
  cases healthcheck values.test values.interval values.timeout values.startPeriod
    values.retries with
  | error fault => exact ⟨nofun, nofun⟩
  | ok other =>
      exact ⟨fun same => congrArg _ (Except.ok.inj same),
        fun same => congrArg _ (Except.ok.inj same)⟩

/-- Values that are read and not permitted make the healthcheck invalid. -/
theorem parse_eq_invalid_of_reads :
    (∃ fault, parse payload = .error (.healthcheckInvalid fault)) ↔
      ¬∃ argv, Permits values argv := by
  constructor
  · rintro ⟨fault, refused⟩ ⟨argv, permits⟩
    obtain ⟨check, keeps⟩ := exists_keeps permits
    cases refused.symm.trans ((parse_eq_ok_of_reads reads).mpr ⟨argv, permits, keeps⟩)
  · intro forbidden
    have same := parse_of_reads reads
    cases checked : healthcheck values.test values.interval values.timeout values.startPeriod
      values.retries with
    | error fault => exact ⟨fault, by rw [same, checked]; rfl⟩
    | ok check =>
        obtain ⟨argv, permits, -⟩ := healthcheck_eq_ok.mp checked
        exact absurd ⟨argv, permits⟩ forbidden

end Reads

/-- An annotation of which no values are read is malformed. -/
theorem parse_of_not_reads {payload : String} (unread : ¬∃ values, Reads payload values) :
    ∃ error, parse payload = .error (.annotationMalformed error) := by
  rw [parse]
  cases read : record.ofText payload with
  | error error => exact ⟨error, rfl⟩
  | ok filled =>
      obtain ⟨test, interval, timeout, startPeriod, retries, ⟨⟩⟩ := filled
      exact absurd ⟨⟨test, interval, timeout, startPeriod, retries⟩, read⟩ unread

section Reading

variable {payload : String}

/-- A payload is accepted when it holds five values that are permitted. -/
theorem parse_eq_ok_iff {check : Healthcheck} : parse payload = .ok check ↔
    ∃ values argv, Reads payload values ∧ Permits values argv ∧ Keeps values argv check := by
  constructor
  · intro accepted
    by_cases read : ∃ values, Reads payload values
    · obtain ⟨values, reads⟩ := read
      obtain ⟨argv, permits, keeps⟩ := (parse_eq_ok_of_reads reads).mp accepted
      exact ⟨values, argv, reads, permits, keeps⟩
    · obtain ⟨error, refused⟩ := parse_of_not_reads read
      cases refused.symm.trans accepted
  · rintro ⟨values, argv, reads, permits, keeps⟩
    exact (parse_eq_ok_of_reads reads).mpr ⟨argv, permits, keeps⟩

/-- A payload is malformed when no five values can be read from it. -/
theorem parse_eq_malformed_iff : (∃ error, parse payload = .error (.annotationMalformed error)) ↔
    ¬∃ values, Reads payload values := by
  refine ⟨?_, parse_of_not_reads⟩
  rintro ⟨error, refused⟩ ⟨values, reads⟩
  rw [parse_of_reads reads] at refused
  cases checked : healthcheck values.test values.interval values.timeout values.startPeriod
    values.retries <;> rw [checked] at refused <;> cases refused

/-- A payload is invalid when five values can be read from it that are not permitted. -/
theorem parse_eq_invalid_iff :
    (∃ fault, parse payload = .error (.healthcheckInvalid fault)) ↔
      ∃ values, Reads payload values ∧ ¬∃ argv, Permits values argv := by
  constructor
  · intro invalid
    by_cases read : ∃ values, Reads payload values
    · obtain ⟨values, reads⟩ := read
      exact ⟨values, reads, (parse_eq_invalid_of_reads reads).mp invalid⟩
    · obtain ⟨error, malformed⟩ := parse_of_not_reads read
      obtain ⟨fault, invalid⟩ := invalid
      cases malformed.symm.trans invalid
  · rintro ⟨values, reads, forbidden⟩
    exact (parse_eq_invalid_of_reads reads).mpr forbidden

end Reading

section Spells

variable {document : Document} {values : Values} (spells : Spells document.members values)
include spells

/-- A document with five values makes what the checks of these values make of them. -/
theorem parse_of_spells : parse document.text =
    (healthcheck values.test values.interval values.timeout values.startPeriod
      values.retries).mapError .healthcheckInvalid :=
  parse_of_reads (ofText_eq_ok.mpr spells)

/-- Values that are spelled out make a healthcheck when they are permitted. -/
theorem parse_eq_ok {check : Healthcheck} :
    parse document.text = .ok check ↔ ∃ argv, Permits values argv ∧ Keeps values argv check :=
  parse_eq_ok_of_reads (ofText_eq_ok.mpr spells)

/-- Values that are spelled out and not permitted make the healthcheck invalid. -/
theorem parse_eq_invalid : (∃ fault, parse document.text = .error (.healthcheckInvalid fault)) ↔
    ¬∃ argv, Permits values argv :=
  parse_eq_invalid_of_reads (ofText_eq_ok.mpr spells)

end Spells

/-- Members that spell out no values make an annotation malformed. -/
theorem parse_eq_malformed {document : Document}
    (unspelled : ¬∃ values, Spells document.members values) :
    ∃ error, parse document.text = .error (.annotationMalformed error) :=
  parse_of_not_reads fun ⟨values, reads⟩ => unspelled ⟨values, ofText_eq_ok.mp reads⟩

/-- Whatever an annotation is, the healthcheck that it describes was made of checked values. -/
theorem made_of_parse {payload : String} {check : Healthcheck}
    (parsed : parse payload = .ok check) : check.Made := by
  rw [parse] at parsed
  split at parsed
  · cases parsed
  · rename_i test interval timeout startPeriod retries read
    cases made : healthcheck test interval timeout startPeriod retries with
    | error fault =>
        rw [made] at parsed
        cases parsed
    | ok other =>
        rw [made] at parsed
        cases parsed
        obtain ⟨argv, -, made⟩ := bind_eq_ok.mp made
        exact ⟨argv, interval, timeout, startPeriod, retries, made⟩

/-- What reading an annotation comes to, when it is one object. -/
structure Answers (document : Document) : Prop where
  accepted : (∃ check, parse document.text = .ok check) ↔
    ∃ values argv, Spells document.members values ∧ Permits values argv
  /-- The healthcheck has the values that are spelled out. -/
  kept : ∀ check, parse document.text = .ok check →
    ∃ values argv, Spells document.members values ∧ Permits values argv ∧ Keeps values argv check
  /-- Members that spell out no values make the annotation malformed. -/
  malformed : (∃ error, parse document.text = .error (.annotationMalformed error)) ↔
    ¬∃ values, Spells document.members values
  /-- Values that are not permitted make the healthcheck invalid. -/
  invalid : (∃ fault, parse document.text = .error (.healthcheckInvalid fault)) ↔
    ∃ values, Spells document.members values ∧ ¬∃ argv, Permits values argv

/-- **What becomes of an annotation.** A document is accepted exactly when it holds the five values
once each and all of them are permitted, and the healthcheck keeps these values. Otherwise its
failure tells which of the two is wrong. -/
theorem answers (document : Document) : Answers document := by
  by_cases spelled : ∃ values, Spells document.members values
  · obtain ⟨values, spells⟩ := spelled
    constructor
    · constructor
      · rintro ⟨check, accepted⟩
        obtain ⟨argv, permits, -⟩ := (parse_eq_ok spells).mp accepted
        exact ⟨values, argv, spells, permits⟩
      · rintro ⟨values, argv, spells, permits⟩
        obtain ⟨check, keeps⟩ := exists_keeps permits
        exact ⟨check, (parse_eq_ok spells).mpr ⟨argv, permits, keeps⟩⟩
    · intro check accepted
      obtain ⟨argv, permits, keeps⟩ := (parse_eq_ok spells).mp accepted
      exact ⟨values, argv, spells, permits, keeps⟩
    · constructor
      · rintro ⟨error, refused⟩
        rw [parse_of_spells spells] at refused
        cases checked : healthcheck values.test values.interval values.timeout values.startPeriod
          values.retries <;> rw [checked] at refused <;> cases refused
      · intro unspelled
        exact absurd ⟨values, spells⟩ unspelled
    · constructor
      · intro refused
        exact ⟨values, spells, (parse_eq_invalid spells).mp refused⟩
      · rintro ⟨values, spells, forbidden⟩
        exact (parse_eq_invalid spells).mpr forbidden
  · obtain ⟨error, same⟩ := parse_eq_malformed spelled
    constructor
    · rw [same]
      constructor
      · rintro ⟨check, ⟨⟩⟩
      · rintro ⟨values, argv, spells, -⟩
        exact absurd ⟨values, spells⟩ spelled
    · intro check accepted
      cases same.symm.trans accepted
    · exact ⟨fun _ => spelled, fun _ => ⟨error, same⟩⟩
    · rw [same]
      constructor
      · rintro ⟨check, ⟨⟩⟩
      · rintro ⟨values, spells, -⟩
        exact absurd ⟨values, spells⟩ spelled

end Annotations

end HealthWatch
