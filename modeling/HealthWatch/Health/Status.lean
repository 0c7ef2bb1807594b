/-! # Health statuses -/

namespace HealthWatch

/-- The health of a container as its supervisor sees it. -/
inductive Status
  /-- No timer runs. -/
  | none
  /-- A timer runs and has no verdict yet. -/
  | starting
  /-- The last probe passed. -/
  | healthy
  /-- Too many probes failed in a row, or a probe could not be run. -/
  | unhealthy
  deriving DecidableEq, Repr

/-- The word for a status in status events. -/
def Status.word : Status → String
  | none => "none"
  | starting => "starting"
  | healthy => "healthy"
  | unhealthy => "unhealthy"

end HealthWatch
