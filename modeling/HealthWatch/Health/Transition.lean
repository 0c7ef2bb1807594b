import HealthWatch.Health.Outcome
import HealthWatch.Health.Status

/-! # Health transitions

A running timer holds a `Health`. `Health.step` feeds one probe outcome into it and says
whether the parent has to be told; `Health.run` feeds a whole history. The numbers are
32-bit words: the failure counter stops at the largest word and the remaining start period
stops at zero.
-/

namespace HealthWatch

/-- The next word, or the largest word again. -/
def succSaturating (word : UInt32) : UInt32 :=
  if word = 0xFFFFFFFF then word else word + 1

/-- The difference of two words, or zero when it would be negative. -/
def subSaturating (word less : UInt32) : UInt32 :=
  if word ≤ less then 0 else word - less

/-- Counting up stops at the largest word. -/
theorem toNat_succSaturating (word : UInt32) :
    (succSaturating word).toNat = min (word.toNat + 1) 0xFFFFFFFF := by
  have bound := word.toNat_lt
  unfold succSaturating
  split
  · rename_i top
    subst top
    decide
  · rename_i other
    have notTop : word.toNat ≠ 0xFFFFFFFF :=
      fun same => other (UInt32.toNat_inj.mp (by simpa using same))
    rw [UInt32.toNat_add]
    have : word.toNat + 1 < 0x100000000 := by omega
    simp
    omega

/-- Counting down stops at zero, as it does for natural numbers. -/
theorem toNat_subSaturating (word less : UInt32) :
    (subSaturating word less).toNat = word.toNat - less.toNat := by
  unfold subSaturating
  split
  · rename_i small
    have := UInt32.le_iff_toNat_le.mp small
    simp
    omega
  · rename_i large
    have : less ≤ word := by
      rw [UInt32.le_iff_toNat_le] at large ⊢
      omega
    rw [UInt32.toNat_sub_of_le _ _ this]

/-- The health that one timer loop keeps between its ticks. -/
structure Health where
  /-- The current status. -/
  status : Status
  /-- Failed probes in a row that counted. -/
  failures : UInt32
  /-- Seconds of the start period that are left. -/
  remaining : UInt32
  /-- Whether a tick of the start period has already asked for a report. -/
  announced : Bool
  deriving DecidableEq, Repr

/-- A health after one tick, and whether the tick has to be reported. -/
structure Transition where
  health : Health
  report : Bool
  deriving DecidableEq, Repr

namespace Health

/-- The health of a timer that has just been started. -/
def starting (startPeriod : UInt32) : Health :=
  ⟨.starting, 0, startPeriod, false⟩

/-- The health of a timer that does not run. -/
def idle (startPeriod : UInt32) : Health :=
  ⟨.none, 0, startPeriod, false⟩

/-- A tick inside the start period: the status stays `starting`, no failure counts, and the
first such tick and every failed probe are reported. -/
def graceStep (health : Health) (interval : UInt32) (outcome : Outcome) : Transition where
  health :=
    { health with
      status := .starting
      remaining := subSaturating health.remaining interval
      announced := true }
  report := !health.announced || !outcome.passed

/-- A tick after the start period. A passing probe makes the container healthy and is
reported; a probe that could not be run makes it unhealthy at once; any other failure is
counted, and makes it unhealthy and is reported once `retries` failures came in a row. -/
def verdictStep (health : Health) (retries : UInt32) (outcome : Outcome) : Transition :=
  match outcome with
  | .infrastructure _ =>
      ⟨{ health with status := .unhealthy, failures := succSaturating health.failures }, true⟩
  | .completed code =>
      if code = 0 then
        ⟨{ health with status := .healthy, failures := 0 }, true⟩
      else
        let failures := succSaturating health.failures
        if retries ≤ failures then
          ⟨{ health with status := .unhealthy, failures }, true⟩
        else
          ⟨{ health with failures }, false⟩

/-- The health after one tick whose probe ended with `outcome`. -/
def step (health : Health) (interval retries : UInt32) (outcome : Outcome) : Transition :=
  if health.remaining > 0 then health.graceStep interval outcome
  else health.verdictStep retries outcome

/-- The transitions made by a history of outcomes, oldest first. -/
def run (interval retries : UInt32) : Health → List Outcome → List Transition
  | _, [] => []
  | health, outcome :: rest =>
      let transition := health.step interval retries outcome
      transition :: run interval retries transition.health rest

/-- The health after a history of outcomes. -/
def after (interval retries : UInt32) (health : Health) (outcomes : List Outcome) : Health :=
  outcomes.foldl (fun current outcome => (current.step interval retries outcome).health) health

end Health

end HealthWatch
