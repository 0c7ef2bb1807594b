import HealthWatch.Proofs.CommandLine.ProbeLine
import HealthWatch.Proofs.Healthcheck.Values
import HealthWatch.Proofs.Probe.Programs
import HealthWatch.Supervisor

/-! # Probing with the words of a command line

No word of the command of a probe is lost, moved or taken for something else on its way from the
command line to the process that is started (`Supervisor.carried`).
-/

namespace HealthWatch

namespace CommandLine

namespace ProbeLine

variable (line : ProbeLine)

/-- Whether the command can be run, and the time for it is one that a probe may have. -/
structure Sound : Prop where
  program : line.program ≠ ""
  timeout : 1 ≤ line.timeout ∧ line.timeout ≤ 300

/-- No word of the command holds a NUL. Those of a process never do. -/
def NulFree : Prop := ∀ argument ∈ line.test, '\x00' ∉ argument.toList

/-- The arguments that bring the command to where it runs. -/
def carrier (settings : Settings) : List Bytes :=
  if line.exec.inside then
    [line.exec.runtime.getD settings.runtime, Bytes.ofText "exec", Bytes.ofText line.container]
  else []

/-- The arguments of the process that the words ask for. -/
def command (settings : Settings) : List Bytes :=
  line.carrier settings ++ line.test.map Bytes.ofText

/-- The executor's arguments are those of the command line, behind what carries them to where they
run. -/
theorem arguments_eq (settings : Settings) {check : Healthcheck} (same : check.test = line.test) :
    (line.exec.executor settings).arguments check line.container = line.command settings := by
  rw [Executor.arguments, ExecChoice.executor, same, command, carrier]
  by_cases inside : line.exec.inside = true
  · rw [if_pos inside, if_pos inside]
    rfl
  · rw [if_neg inside, if_neg inside]
    rfl

/-- The healthcheck of the command, or why it has none. -/
def check : Except HealthcheckFault Healthcheck :=
  Healthcheck.ofValues line.test 1 line.timeout 0 0

variable {line}

/-- The healthcheck of a command line has its words and its timeout, which are then sound. -/
theorem check_eq_ok {check : Healthcheck} (checked : line.check = .ok check) :
    (line.Sound ∧ line.NulFree) ∧ check.test = line.test ∧
      (check.timeout.toNat : Int) = line.timeout := by
  obtain ⟨sound, -, timeout, -, -, same, -⟩ := Healthcheck.ofValues_eq_ok_iff.mp checked
  obtain ⟨⟨program, arguments, form, nonempty⟩, nulFree⟩ := Healthcheck.testFault?_eq_none.mp sound
  cases form
  obtain ⟨range, word⟩ := Healthcheck.checkRange_eq_ok.mp timeout
  exact ⟨⟨⟨nonempty, range⟩, nulFree⟩, same, word⟩

/-- Sound words without NULs make a healthcheck. -/
theorem exists_check (sound : line.Sound) (nulFree : line.NulFree) :
    ∃ check, line.check = .ok check := by
  have range := sound.timeout
  have word : (((UInt32.ofNat line.timeout.toNat).toNat : Nat) : Int) = line.timeout := by
    rw [UInt32.toNat_ofNat']
    omega
  refine ⟨⟨line.test, 1, UInt32.ofNat line.timeout.toNat, 0, 0, true⟩,
    Healthcheck.ofValues_eq_ok_iff.mpr ⟨?_, rfl, ?_, rfl, rfl, rfl, rfl⟩⟩
  · exact Healthcheck.testFault?_eq_none.mpr ⟨⟨_, _, rfl, sound.program⟩, nulFree⟩
  · exact Healthcheck.checkRange_eq_ok.mpr ⟨range, word⟩

end ProbeLine

end CommandLine

namespace Supervisor

open CommandLine

variable {surroundings : Surroundings} {settings : Settings}

/-- What is printed when the executor is called with a healthcheck. -/
def executed (programs : Programs) (settings : Settings) (line : ProbeLine) (check : Healthcheck) :
    Reply :=
  let outcome := Probe.execute programs (line.exec.executor settings) check line.container
  printed (outcome.exitCode % 256).toNat (outcomeText outcome)

/-- A command line for a probe is parsed as it was written and then probed. -/
theorem run_probe (now : Int) (line : ProbeLine)
    (loaded : Settings.loadOrDefault surroundings.read Settings.defaultPath = .ok settings) :
    run surroundings now line.words =
      match line.check with
      | .error fault => failed (.healthcheckInvalid fault)
      | .ok check => executed surroundings.programs settings line check := by
  rw [run, line.parse_words]
  dsimp only
  rw [reply, ProbeLine.invocation]
  dsimp only
  rw [withSettings, loaded]
  dsimp only
  rw [probeOnce, ProbeLine.check]
  cases Healthcheck.ofValues line.test 1 line.timeout 0 0 <;> rfl

variable (surroundings) (now : Int) (settings) (line : ProbeLine)

/-- The executor is called for the command of the words, and its outcome is what is printed. -/
structure Calls (check : Healthcheck) : Prop where
  test : check.test = line.test
  timeout : (check.timeout.toNat : Int) = line.timeout
  arguments : (line.exec.executor settings).arguments check line.container = line.command settings
  prints : ∀ programs, run { surroundings with programs } now line.words =
    executed programs settings line check
  /-- Nothing matters of what programs do but what the command of the words does. -/
  alone : ∀ programs other, programs (line.command settings) = other (line.command settings) →
    run { surroundings with programs } now line.words =
      run { surroundings with programs := other } now line.words

/-- The words are read as they are and come to a call of the executor, or to nothing that runs. -/
structure Carried : Prop where
  parses : Invocation.parse surroundings.environment line.words = .ok line.invocation
  /-- The command is run exactly when it can be, and otherwise nothing is. -/
  calls : ∀ settings, Settings.loadOrDefault surroundings.read Settings.defaultPath = .ok settings →
    line.NulFree → ((∃ check, Calls surroundings settings now line check) ↔ line.Sound)
  refuses : ∀ settings,
    Settings.loadOrDefault surroundings.read Settings.defaultPath = .ok settings →
    ¬(line.Sound ∧ line.NulFree) →
      ∃ fault, ∀ programs, run { surroundings with programs } now line.words =
        failed (.healthcheckInvalid fault)

variable {surroundings} {settings} {line}

/-- Words that make a healthcheck are passed to the executor. -/
theorem calls_of_check
    (loaded : Settings.loadOrDefault surroundings.read Settings.defaultPath = .ok settings)
    {check : Healthcheck} (checked : line.check = .ok check) :
    Calls surroundings settings now line check := by
  obtain ⟨-, test, timeout⟩ := ProbeLine.check_eq_ok checked
  have arguments := line.arguments_eq settings test
  have prints (programs : Programs) : run { surroundings with programs } now line.words =
      executed programs settings line check := by
    have loaded : Settings.loadOrDefault { surroundings with programs }.read
        Settings.defaultPath = .ok settings := loaded
    rw [run_probe now line loaded, checked]
  refine ⟨test, timeout, arguments, prints, fun programs other same => ?_⟩
  rw [← arguments] at same
  rw [prints, prints, executed, executed, Probe.execute_congr same]

/-- Words that make no healthcheck are refused, whatever the programs are. -/
theorem refused_of_check
    (loaded : Settings.loadOrDefault surroundings.read Settings.defaultPath = .ok settings)
    {fault : HealthcheckFault} (checked : line.check = .error fault) (programs : Programs) :
    run { surroundings with programs } now line.words = failed (.healthcheckInvalid fault) := by
  have loaded : Settings.loadOrDefault { surroundings with programs }.read Settings.defaultPath =
      .ok settings := loaded
  rw [run_probe now line loaded, checked]

/-- **What becomes of the words of a probe.** They are parsed as they were written, whatever they
look like, and the executor is called with them if the words and the timeout are sound. Otherwise
nothing runs. -/
theorem carried (surroundings : Surroundings) (now : Int) (line : ProbeLine) :
    Carried surroundings now line where
  parses := line.parse_words surroundings.environment
  calls settings loaded nulFree := by
    constructor
    · rintro ⟨check, calls⟩
      cases checked : line.check with
      | error fault =>
          have refused := refused_of_check now loaded checked surroundings.programs
          rw [calls.prints] at refused
          cases congrArg Reply.failure refused
      | ok other => exact (ProbeLine.check_eq_ok checked).1.1
    · intro sound
      obtain ⟨check, checked⟩ := ProbeLine.exists_check sound nulFree
      exact ⟨check, calls_of_check now loaded checked⟩
  refuses settings loaded unsound := by
    cases checked : line.check with
    | error fault => exact ⟨fault, refused_of_check now loaded checked⟩
    | ok check => exact absurd (ProbeLine.check_eq_ok checked).1 unsound

/-- A command whose words look like options, a subcommand and a further end of the options. -/
def lookalikes : ProbeLine where
  options := [.timeout .joined "5" 5, .inside, .container .apart "c1"]
  valid := by
    have word : Spelling.apart.Fits (Bytes.ofText "c1") := by
      rw [Bytes.ofText_eq]
      decide
    simp only [List.forall_mem_cons, List.not_mem_nil, false_implies, implies_true, and_true]
    exact ⟨⟨trivial, by decide⟩, trivial, word⟩
  once := by decide
  program := "--timeout"
  arguments := ["--", "probe", "", "--exec"]

/-- Surroundings without files, in which all programs succeed at once. -/
def bare : Surroundings where
  read _ := .error .notFound
  environment _ := none
  firstCommand := none
  programs _ := ⟨some (0, .exited 0), []⟩
  descriptorFault _ := none

/-- Words that look like options are carried to the executor all the same. -/
theorem calls_lookalikes : ∃ check, Calls bare {} 0 lookalikes check := by
  have loaded : Settings.loadOrDefault bare.read Settings.defaultPath = .ok {} := if_pos rfl
  have nulFree : lookalikes.NulFree := by
    unfold ProbeLine.NulFree
    decide
  exact ((carried bare 0 lookalikes).calls {} loaded nulFree).mpr ⟨by decide, by decide⟩

end Supervisor

end HealthWatch
