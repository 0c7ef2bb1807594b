import HealthWatch.Registry.Supervision
import HealthWatch.Report.Delivery

/-! # A ward of containers

A `Ward` is a registry in use, together with the queue that the reports of all its timers go
to. `Ward.act` is everything that can happen to it, one step at a time.
-/

namespace HealthWatch

/-- Something that happens to a ward. -/
inductive WardAction
  /-- A container is registered; `due` says whether its first interval is over at once. -/
  | register (now : Int) (container : String) (check : Healthcheck) (due : Bool)
  /-- The probe of a registered container returns, and the next interval is over at once. -/
  | tick (now : Int) (container : String) (result : Timer.Return)
  /-- A call begins to unregister a container. -/
  | unregister (container : String)
  /-- A call begins to shut everything down. -/
  | shutdown
  /-- The probe of a container that is being stopped returns. -/
  | finish (now : Int) (container : String) (result : Timer.Return)
  deriving DecidableEq, Repr

/-- What an action in a ward comes to. -/
inductive WardResult
  | done
  | registered (snapshot : Snapshot)
  | refused (failure : Failure)
  | notRegistered
  | nothingInFlight
  deriving DecidableEq, Repr

/-- A registry in use, before a sink in state `σ`. -/
structure Ward (σ : Type) where
  supervision : Supervision
  delivery : Delivery σ
  /-- How often the probe of each container has been called. -/
  probes : List (String × Nat)

namespace Ward

variable {σ : Type}

/-- The ward without containers. -/
def empty (delivery : Delivery σ) : Ward σ := ⟨.empty, delivery, []⟩

/-- How often the probe of a container has been called. -/
def probesOf (ward : Ward σ) (container : String) : Nat :=
  (ward.probes.lookup container).getD 0

/-- The interval of a registered container is over. -/
def callProbe (ward : Ward σ) (container : String) : Ward σ :=
  let supervision := ward.supervision.callProbe container
  let called := supervision.registeredProbing container &&
    !ward.supervision.registeredProbing container
  { ward with
    supervision
    probes :=
      if called then (container, ward.probesOf container + 1) :: ward.probes else ward.probes }

/-- Something happens, and then the writer of the queue goes on. -/
def act (sink : Sink σ) (ward : Ward σ) : WardAction → Ward σ × WardResult × List Handed
  | .register now container check due =>
      match ward.supervision.register now container check with
      | .error failure => (ward, .refused failure, [])
      | .ok (supervision, snapshot) =>
          let entered := { ward with supervision }
          (if due then entered.callProbe container else entered, .registered snapshot, [])
  | .tick now container result =>
      if ward.supervision.registeredProbing container then
        let (supervision, event) := ward.supervision.finishRegistered container now result
        let (delivery, handed) := ward.delivery.post sink event
        (callProbe { ward with supervision, delivery } container, .done, handed)
      else (ward, .nothingInFlight, [])
  | .unregister container =>
      match ward.supervision.unregister container with
      | none => (ward, .notRegistered, [])
      | some supervision => ({ ward with supervision }, .done, [])
  | .shutdown => ({ ward with supervision := ward.supervision.shutdown }, .done, [])
  | .finish now container result =>
      if ward.supervision.leavingProbing container then
        let (supervision, event) := ward.supervision.finishLeaving container now result
        let (delivery, handed) := ward.delivery.post sink event
        ({ ward with supervision, delivery }, .done, handed)
      else (ward, .nothingInFlight, [])

/-- Several actions, one after the other, and everything that was handed over meanwhile. -/
def actAll (sink : Sink σ) : Ward σ → List WardAction → Ward σ × List Handed
  | ward, [] => (ward, [])
  | ward, action :: rest =>
      let (ward, _, handed) := ward.act sink action
      let (ward, more) := actAll sink ward rest
      (ward, handed ++ more)

end Ward

end HealthWatch
