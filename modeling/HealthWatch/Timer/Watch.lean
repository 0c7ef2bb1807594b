import HealthWatch.Report.Delivery
import HealthWatch.Timer

/-! # A watched container

A `Watch` is a timer together with the queue that its reports go to. `Watch.act` is everything
that can happen to it, with the moment at which it happens and with what its probe comes to.
-/

namespace HealthWatch

/-- Something that happens to a timer. -/
inductive TimerAction
  /-- It is started; `due` says whether its first interval is over at once. -/
  | start (now : Int) (due : Bool)
  /-- The probe in flight returns, and the next interval is over at once. -/
  | tick (now : Int) (result : Timer.Return)
  /-- It is stopped, and a probe in flight returns after that. -/
  | stop (now : Int) (result : Timer.Return)
  deriving DecidableEq, Repr

/-- What an action comes to. -/
inductive Acted
  | done
  | refused (fault : TimerFault)
  /-- There is no probe that could return. -/
  | nothingInFlight
  deriving DecidableEq, Repr

/-- A timer and the queue for its reports, before a sink in state `σ`. -/
structure Watch (σ : Type) where
  timer : Timer
  delivery : Delivery σ
  /-- How often the probe has been called. -/
  probes : Nat

namespace Watch

variable {σ : Type}

/-- The watch over a container that has never been started. -/
def create (container : String) (check : Healthcheck) (delivery : Delivery σ) : Watch σ :=
  ⟨.create container check, delivery, 0⟩

/-- An interval is over. -/
def callProbe (watch : Watch σ) : Watch σ :=
  let timer := watch.timer.callProbe
  let called := timer.probing && !watch.timer.probing
  { watch with timer, probes := if called then watch.probes + 1 else watch.probes }

/-- Something happens, and then the writer of the queue goes on. -/
def act (sink : Sink σ) (watch : Watch σ) : TimerAction → Watch σ × Acted × List Handed
  | .start now due =>
      match watch.timer.start now with
      | .error fault => (watch, .refused fault, [])
      | .ok timer =>
          let started := { watch with timer }
          (if due then started.callProbe else started, .done, [])
  | .tick now result =>
      if watch.timer.probing then
        let (timer, event) := watch.timer.finishProbe now result
        let (delivery, handed) := watch.delivery.post sink event
        (callProbe { watch with timer, delivery }, .done, handed)
      else (watch, .nothingInFlight, [])
  | .stop now result =>
      let (timer, event) := watch.timer.stop now result
      let (delivery, handed) := watch.delivery.post sink event
      ({ watch with timer, delivery }, .done, handed)

/-- A history of actions: what each came to, the watch after it, and what was handed over. -/
def run (sink : Sink σ) : Watch σ → List TimerAction → List (Watch σ × Acted × List Handed)
  | _, [] => []
  | watch, action :: rest =>
      let acted := watch.act sink action
      acted :: run sink acted.1 rest

end Watch

end HealthWatch
