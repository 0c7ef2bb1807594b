import HealthWatch.Registry

/-! # Supervision

Timers are stopped by the caller that took them out of the registry, and others use the
registry meanwhile. A `Supervision` is the registry together with all calls that still stop
timers. Each function is one step that no other step can interrupt; a call returns when the
loops of all of its timers have ended.
-/

namespace HealthWatch

/-- A call that stops the timers which it took out of the registry, one after the other. -/
structure StopCall where
  /-- The timers that are still to be stopped; the loop of the first one is cancelled. -/
  timers : List Timer
  /-- The container whose identifier is freed when the call returns. -/
  reserved : Option String
  deriving DecidableEq, Repr

namespace StopCall

/-- Cancels loops, one after the other, up to the first whose probe is in flight. Timers whose
loops have ended are gone. -/
def advance : List Timer → List Timer
  | [] => []
  | timer :: rest =>
      if timer.cancel.loop.isSome then timer.cancel :: rest else advance rest

/-- The call that stops the given timers. -/
def begin (timers : List Timer) (reserved : Option String) : StopCall :=
  ⟨advance timers, reserved⟩

/-- Whether the call can return. -/
def finished (call : StopCall) : Bool := call.timers.isEmpty

/-- The probe of a container returns to the first timer that waits for it. -/
def finishProbeIn (container : String) (now : Int) (result : Timer.Return) :
    List Timer → List Timer × Option StatusEvent
  | [] => ([], none)
  | timer :: rest =>
      if timer.container = container && timer.probing then
        let (timer, event) := timer.finishProbe now result
        (timer :: rest, event)
      else
        let (rest, event) := finishProbeIn container now result rest
        (timer :: rest, event)

/-- The probe of a container returns to a timer of this call, which then goes on. -/
def finishProbe (call : StopCall) (container : String) (now : Int) (result : Timer.Return) :
    StopCall × Option StatusEvent :=
  let (timers, event) := finishProbeIn container now result call.timers
  (⟨advance timers, call.reserved⟩, event)

/-- Whether a timer of this call waits for the probe of a container. -/
def probing (call : StopCall) (container : String) : Bool :=
  call.timers.any fun timer => timer.container = container && timer.probing

end StopCall

/-- The registry and the calls that stop timers which it no longer holds. -/
structure Supervision where
  registry : Registry
  stops : List StopCall
  deriving DecidableEq, Repr

namespace Supervision

/-- A registry without timers, which nobody stops. -/
def empty : Supervision := ⟨.empty, []⟩

/-- Registers a container. -/
def register (supervision : Supervision) (now : Int) (container : String)
    (check : Healthcheck) : Except Failure (Supervision × Snapshot) :=
  match supervision.registry.register now container check with
  | .error failure => .error failure
  | .ok (registry, snapshot) => .ok ({ supervision with registry }, snapshot)

/-- A call that stops no more timers returns, and frees the identifier that it reserved. -/
def settle (supervision : Supervision) : Supervision where
  registry :=
    ((supervision.stops.filter StopCall.finished).filterMap StopCall.reserved).foldl
      Registry.release supervision.registry
  stops := supervision.stops.filter fun call => !call.finished

/-- A call takes the timer of a container out of the registry and begins to stop it. -/
def unregister (supervision : Supervision) (container : String) : Option Supervision :=
  (supervision.registry.takeOut container).map fun (registry, timer) =>
    settle ⟨registry, supervision.stops ++ [.begin [timer] (some container)]⟩

/-- A call closes the registry and begins to stop all of its timers. -/
def shutdown (supervision : Supervision) : Supervision :=
  let (registry, timers) := supervision.registry.close
  settle ⟨registry, supervision.stops ++ [.begin timers none]⟩

/-- The interval of a container's timer is over. -/
def callProbe (supervision : Supervision) (container : String) : Supervision :=
  { supervision with registry := supervision.registry.update container Timer.callProbe }

/-- Whether a timer in the registry waits for the probe of its container. -/
def registeredProbing (supervision : Supervision) (container : String) : Bool :=
  (supervision.registry.find? container).any Timer.probing

/-- Whether a call waits for the probe of a container. -/
def leavingProbing (supervision : Supervision) (container : String) : Bool :=
  supervision.stops.any (·.probing container)

/-- The probe of a container returns to the timer in the registry. -/
def finishRegistered (supervision : Supervision) (container : String) (now : Int)
    (result : Timer.Return) : Supervision × Option StatusEvent :=
  match supervision.registry.find? container with
  | none => (supervision, none)
  | some timer =>
      let (timer, event) := timer.finishProbe now result
      ({ supervision with registry := supervision.registry.update container fun _ => timer },
        event)

/-- The probe of a container returns to the first call that waits for it. -/
def finishLeavingIn (container : String) (now : Int) (result : Timer.Return) :
    List StopCall → List StopCall × Option StatusEvent
  | [] => ([], none)
  | call :: rest =>
      if call.probing container then
        let (call, event) := call.finishProbe container now result
        (call :: rest, event)
      else
        let (rest, event) := finishLeavingIn container now result rest
        (call :: rest, event)

/-- The probe of a container returns to a timer that is no longer in the registry. -/
def finishLeaving (supervision : Supervision) (container : String) (now : Int)
    (result : Timer.Return) : Supervision × Option StatusEvent :=
  let (stops, event) := finishLeavingIn container now result supervision.stops
  (settle { supervision with stops }, event)

end Supervision

end HealthWatch
