import HealthWatch.Proofs.Bytes
import HealthWatch.Proofs.Healthcheck.Values
import HealthWatch.Proofs.Probe.Programs
import HealthWatch.Supervisor

/-! # The arguments of a probe

A process can be started with arguments if there are any and none of them holds a zero. The
command of a healthcheck that was made of checked values is of this kind, so a probe that runs by
itself is never refused. A probe that runs through a runtime is refused exactly when the path of the
runtime or the name of the container holds a zero (`Probe.commanded`).
-/

namespace HealthWatch

open Requirement

namespace Probe

/-- What an argument of a process has to be. -/
def zeroFree (argument : Bytes) : Requirement ProbeFault :=
  ⟨0 ∉ argument, .nulInArgument (argument.idxOf 0)⟩

/-- The place of a NUL is that of the first one. -/
theorem nulPlace?_eq_some {argument : Bytes} {place : Nat} :
    nulPlace? argument = some place ↔ 0 ∈ argument ∧ argument.idxOf 0 = place := by
  have same : argument.findIdx (fun byte => decide (byte = 0)) = argument.idxOf 0 := rfl
  rw [nulPlace?, List.findIdx?_eq_some_iff_findIdx_eq, same, ← List.idxOf_lt_length_iff]
  exact ⟨fun ⟨inside, first⟩ => ⟨first ▸ inside, first⟩,
    fun ⟨inside, first⟩ => ⟨first ▸ inside, first⟩⟩

/-- What keeps a process from being started is the first requirement that its arguments do not meet:
there has to be one, and each has to be free of NULs. -/
theorem argumentFault?_eq_some {arguments : List Bytes} {fault : ProbeFault} :
    argumentFault? arguments = some fault ↔
      FirstUnmet (⟨arguments ≠ [], .emptyCommand⟩ :: arguments.map zeroFree) fault := by
  have finds (argument : Bytes) (fault : ProbeFault) :
      (Option.map .nulInArgument ∘ nulPlace?) argument = some fault ↔
        ¬ (zeroFree argument).holds ∧ (zeroFree argument).failure = fault := by
    rw [Function.comp_apply, Option.map_eq_some_iff, zeroFree, Classical.not_not]
    constructor
    · rintro ⟨place, found, rfl⟩
      obtain ⟨member, rfl⟩ := nulPlace?_eq_some.mp found
      exact ⟨member, rfl⟩
    · rintro ⟨member, rfl⟩
      exact ⟨_, nulPlace?_eq_some.mpr ⟨member, rfl⟩, rfl⟩
  rw [firstUnmet_cons, firstUnmet_map finds, ← List.map_findSome?]
  cases arguments with
  | nil => simp [argumentFault?]
  | cons program arguments => simp [argumentFault?]

/-! ## Refused arguments -/

section Refused

variable {executor : Executor} {check : Healthcheck} {container : String} {fault : ProbeFault}
  (refused : argumentFault? (executor.arguments check container) = some fault)

include refused

/-- A probe with refused arguments is over before anything is read or polled. -/
theorem executeAlong_of_refused (course : Course) :
    executeAlong course executor check container =
      some (.infrastructure (Failure.probeNotRun fault).message) := by
  rw [executeAlong, spawnAlong, refused]
  rfl

/-- Arguments that cannot be passed to a process come to an infrastructure outcome, whatever the
programs are. -/
theorem execute_of_refused (programs : Programs) :
    execute programs executor check container =
      .infrastructure (Failure.probeNotRun fault).message := by
  rw [execute, executeFor, spawn, spawnAlong, refused]
  rfl

end Refused

/-! ## The arguments of a checked command -/

section Checked

variable {test : List String} {interval timeout startPeriod retries : Int} {check : Healthcheck}
  (made : Healthcheck.ofValues test interval timeout startPeriod retries = .ok check)

include made

/-- The words of an accepted healthcheck hold no NUL. -/
theorem zeroFree_of_ofValues : AllMet ((test.map Bytes.ofText).map zeroFree) := by
  obtain ⟨sound, -⟩ := Healthcheck.ofValues_eq_ok_iff.mp made
  obtain ⟨-, nulFree⟩ := Healthcheck.testFault?_eq_none.mp sound
  rw [List.map_map]
  intro requirement member
  obtain ⟨argument, present, rfl⟩ := List.mem_map.mp member
  exact Bytes.zero_not_mem_ofText (nulFree argument present)

/-- The words of an accepted healthcheck can be passed to a process. -/
theorem argumentFault?_of_ofValues : argumentFault? (test.map Bytes.ofText) = none := by
  obtain ⟨sound, -⟩ := Healthcheck.ofValues_eq_ok_iff.mp made
  obtain ⟨⟨program, arguments, form, -⟩, -⟩ := Healthcheck.testFault?_eq_none.mp sound
  rw [eq_none_iff_allMet fun _ => argumentFault?_eq_some, allMet_cons]
  refine ⟨?_, zeroFree_of_ofValues made⟩
  rw [form]
  exact List.cons_ne_nil _ _

/-- Before a checked command, it is the other arguments that are refused. -/
theorem argumentFault?_append_of_ofValues {program : Bytes} {arguments : List Bytes}
    {fault : ProbeFault} :
    argumentFault? (program :: arguments ++ test.map Bytes.ofText) = some fault ↔
      FirstUnmet ((program :: arguments).map zeroFree) fault := by
  have later : ¬ FirstUnmet ((test.map Bytes.ofText).map zeroFree) fault := fun unmet =>
    unmet.not_allMet (zeroFree_of_ofValues made)
  have nonempty : program :: arguments ++ test.map Bytes.ofText ≠ [] := List.cons_ne_nil _ _
  rw [argumentFault?_eq_some, firstUnmet_cons, List.map_append, firstUnmet_append]
  constructor
  · rintro (⟨empty, -⟩ | ⟨-, unmet | ⟨-, unmet⟩⟩)
    · exact absurd nonempty empty
    · exact unmet
    · exact absurd unmet later
  · exact fun unmet => .inr ⟨nonempty, .inl unmet⟩

end Checked

/-- The program that takes a command into the container. -/
def runtimeOf (choice : ExecChoice) (settings : Settings) : Bytes :=
  choice.runtime.getD settings.runtime

/-- What a probe starts, and when it is refused. -/
structure Commanded (settings : Settings) (choice : ExecChoice) (container : String)
    (test : List String) (check : Healthcheck) : Prop where
  /-- By itself the command is started as it is, whatever runtime is given. -/
  direct : choice.inside = false →
    (choice.executor settings).arguments check container = test.map Bytes.ofText
  inside : choice.inside = true →
    (choice.executor settings).arguments check container =
      runtimeOf choice settings :: Bytes.ofText "exec" :: Bytes.ofText container ::
        test.map Bytes.ofText
  /-- The outcome is what comes of waiting for the process that is started with these arguments. -/
  runs : ∀ programs, execute programs (choice.executor settings) check container =
    (executeAlong
      (courseOf (programs ((choice.executor settings).arguments check container))
        check.timeoutSpan.milliseconds)
      (choice.executor settings) check container).getD
        (.infrastructure (Failure.probeNotRun (.unobserved "no end was observed")).message)
  /-- When the arguments are accepted, and the standard error of this process is read as fast as it
  is written, the outcome tells how the process has terminated. -/
  completes : argumentFault? ((choice.executor settings).arguments check container) = none →
    ∀ programs, (programs ((choice.executor settings).arguments check container)).Quiet →
      execute programs (choice.executor settings) check container =
        let termination :=
          terminationIn (programs ((choice.executor settings).arguments check container))
            check.timeoutSpan.milliseconds
        if termination.Named then .completed termination.code
        else .infrastructure
          "Failed to run probe: waitpid failed: EINVAL: Invalid argument"
  accepted : choice.inside = false →
    argumentFault? ((choice.executor settings).arguments check container) = none
  /-- The runtime is looked at first, then the container, and nothing else is ever refused. -/
  refused : choice.inside = true → ∀ fault,
    argumentFault? ((choice.executor settings).arguments check container) = some fault ↔
      FirstUnmet [zeroFree (runtimeOf choice settings), zeroFree (Bytes.ofText container)] fault
  fails : choice.inside = true →
    ((∃ fault, argumentFault? ((choice.executor settings).arguments check container) = some fault) ↔
      0 ∈ runtimeOf choice settings ∨ 0 ∈ Bytes.ofText container)
  /-- Arguments that are accepted bring a process to be waited for. -/
  started : argumentFault? ((choice.executor settings).arguments check container) = none →
    ∀ course, executeAlong course (choice.executor settings) check container =
      (await check.timeoutSpan.milliseconds settings.stderrLimit course).map outcomeOf
  /-- When arguments are refused there is no process: nothing that one might do matters. -/
  stopped : ∀ fault,
    argumentFault? ((choice.executor settings).arguments check container) = some fault →
      (∀ programs, execute programs (choice.executor settings) check container =
        .infrastructure (Failure.probeNotRun fault).message) ∧
      ∀ course, executeAlong course (choice.executor settings) check container =
        some (.infrastructure (Failure.probeNotRun fault).message)

/-- The word that tells a runtime what to do is never refused. -/
theorem firstUnmet_exec {program container : Bytes} {fault : ProbeFault} :
    FirstUnmet ([program, Bytes.ofText "exec", container].map zeroFree) fault ↔
      FirstUnmet [zeroFree program, zeroFree container] fault := by
  have accepted : (zeroFree (Bytes.ofText "exec")).holds :=
    Bytes.zero_not_mem_ofText (by decide)
  simp only [List.map_cons, List.map_nil, firstUnmet_cons, accepted, not_true_eq_false, false_and,
    true_and, false_or]

/-- **What a probe starts.** The process is given the words of the healthcheck as they are, behind
those of the runtime if it is run in the container. What becomes of that process is the outcome, and
only an argument that no process can have is refused. -/
theorem commanded (settings : Settings) (choice : ExecChoice) (container : String)
    {test : List String} {interval timeout startPeriod retries : Int} {check : Healthcheck}
    (made : Healthcheck.ofValues test interval timeout startPeriod retries = .ok check) :
    Commanded settings choice container test check := by
  obtain ⟨-, -, -, -, -, same, -⟩ := Healthcheck.ofValues_eq_ok_iff.mp made
  have direct (outside : choice.inside = false) :
      (choice.executor settings).arguments check container = test.map Bytes.ofText := by
    rw [Executor.arguments, ExecChoice.executor, outside, same]
    rfl
  have inside (inside : choice.inside = true) :
      (choice.executor settings).arguments check container =
        [runtimeOf choice settings, Bytes.ofText "exec", Bytes.ofText container] ++
          test.map Bytes.ofText := by
    rw [Executor.arguments, ExecChoice.executor, inside, same]
    rfl
  have refused (chosen : choice.inside = true) (fault : ProbeFault) :
      argumentFault? ((choice.executor settings).arguments check container) = some fault ↔
        FirstUnmet [zeroFree (runtimeOf choice settings), zeroFree (Bytes.ofText container)]
          fault := by
    rw [inside chosen, argumentFault?_append_of_ofValues made, firstUnmet_exec]
  constructor
  case direct => exact direct
  case inside => exact inside
  case runs => exact fun programs => execute_eq programs (choice.executor settings) check container
  case completes => exact fun started programs => execute_of_quiet started
  case accepted =>
    intro outside
    rw [direct outside, argumentFault?_of_ofValues made]
  case refused => exact refused
  case fails =>
    intro chosen
    rw [← Option.isSome_iff_exists, Option.isSome_iff_ne_none, Ne,
      eq_none_iff_allMet (refused chosen), allMet_cons, allMet_cons]
    simp [zeroFree, AllMet, or_iff_not_imp_left]
  case started => exact fun started course => executeAlong_of_started started
  case stopped =>
    exact fun fault refused => ⟨execute_of_refused refused, executeAlong_of_refused refused⟩

/-- A runtime whose path is no text, and a container with a NUL in its name. -/
theorem commanded_of_odd_names :
    let check : Healthcheck := ⟨["true"], 30, 5, 0, 3, true⟩
    Healthcheck.ofValues ["true"] 30 5 0 3 = .ok check ∧
      Commanded {} ⟨true, some [0x2F, 0xFF]⟩ "c\x00" ["true"] check := by
  have made : Healthcheck.ofValues ["true"] 30 5 0 3 = .ok ⟨["true"], 30, 5, 0, 3, true⟩ := rfl
  exact ⟨made, commanded {} ⟨true, some [0x2F, 0xFF]⟩ "c\x00" made⟩

/-- It is the place of the NUL in its argument that is told. -/
example : argumentFault? [[0x2F, 0xFF], Bytes.ofText "exec", Bytes.ofText "c\x00"] =
    some (.nulInArgument 1) := by
  decide +kernel

end Probe

end HealthWatch
