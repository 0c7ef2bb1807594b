import HealthWatch.Timer

/-! # The registry of timers

The registry maps containers to their running timers. Timers are stopped outside of it: a
container whose timer is being stopped is kept in `stopping` until the loop has ended, so
that it never has two loops at once. Every function here is what one caller does while it
has the registry for itself.
-/

namespace HealthWatch

/-- The timers that run, the containers whose timers are being stopped, and whether new timers
are refused. -/
structure Registry where
  timers : List (String × Timer)
  stopping : List String
  closed : Bool
  deriving DecidableEq, Repr

namespace Registry

/-- The registry without timers. -/
def empty : Registry := ⟨[], [], false⟩

/-- The timer of a container. -/
def find? (registry : Registry) (container : String) : Option Timer :=
  (registry.timers.find? fun entry => entry.1 = container).map Prod.snd

/-- Whether a container has a timer. -/
def contains (registry : Registry) (container : String) : Bool :=
  (registry.find? container).isSome

/-- The containers with a timer. -/
def containers (registry : Registry) : List String := registry.timers.map Prod.fst

/-- The snapshot of a container's timer. -/
def snapshot? (registry : Registry) (container : String) : Option Snapshot :=
  (registry.find? container).map Timer.snapshot

/-- Creates and starts the timer of a container. -/
def register (registry : Registry) (now : Int) (container : String) (check : Healthcheck) :
    Except Failure (Registry × Snapshot) :=
  if registry.closed then .error (.timerNotStarted container .registryClosed)
  else if registry.contains container then .error (.alreadyRegistered container)
  else if registry.stopping.contains container then
    .error (.timerNotStarted container .stillStopping)
  else
    match (Timer.create container check).start now with
    | .error fault => .error (.timerNotStarted container fault)
    | .ok timer =>
        .ok ({ registry with timers := registry.timers ++ [(container, timer)] }, timer.snapshot)

/-- The registry without the timer of a container. -/
def erase (registry : Registry) (container : String) : Registry :=
  { registry with timers := registry.timers.filter fun entry => entry.1 ≠ container }

/-- Takes out the timer of a container to be stopped. Its identifier stays reserved. -/
def takeOut (registry : Registry) (container : String) : Option (Registry × Timer) :=
  (registry.find? container).map fun timer =>
    let rest := registry.erase container
    ({ rest with stopping := container :: rest.stopping }, timer)

/-- Frees the identifier of a container whose timer has been stopped. -/
def release (registry : Registry) (container : String) : Registry :=
  { registry with stopping := registry.stopping.filter (· ≠ container) }

/-- Takes out all timers to be stopped, and refuses new ones. -/
def close (registry : Registry) : Registry × List Timer :=
  ({ registry with timers := [], closed := true }, registry.timers.map Prod.snd)

/-- Changes the timer of a container. -/
def update (registry : Registry) (container : String) (change : Timer → Timer) : Registry :=
  { registry with
    timers := registry.timers.map fun entry =>
      if entry.1 = container then (entry.1, change entry.2) else entry }

end Registry

end HealthWatch
