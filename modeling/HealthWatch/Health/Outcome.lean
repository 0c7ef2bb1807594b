/-! # Outcomes of a probe -/

namespace HealthWatch

/-- How one invocation of a probe ended. -/
inductive Outcome
  /-- The probe ran and terminated with an exit code; death by a signal counts as the code
  128 plus the signal. -/
  | completed (code : Int)
  /-- The probe could not be started or observed. -/
  | infrastructure (reason : String)
  deriving DecidableEq, Repr

namespace Outcome

/-- A probe passes when it ran and exited with code zero. -/
def passed : Outcome → Bool
  | completed code => code == 0
  | infrastructure _ => false

/-- The exit code told to others; a probe that could not be run has the code -1. -/
def exitCode : Outcome → Int
  | completed code => code
  | infrastructure _ => -1

/-- Whether the probe could not be run at all. -/
def isInfrastructure : Outcome → Bool
  | completed _ => false
  | infrastructure _ => true

/-- A probe passes with the exit code zero, and with nothing else. -/
theorem passed_eq_true_iff {outcome : Outcome} : outcome.passed = true ↔ outcome = completed 0 := by
  cases outcome <;> simp [passed]

end Outcome

end HealthWatch
