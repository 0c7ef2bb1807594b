import HealthWatch.Proofs.Registry.ShareStep
import HealthWatch.Proofs.Timer.Reporting

/-! # Containers do not disturb each other

All timers of a registry tell one exchange their events. A `Clinic` is both together: operations on
any containers, steps of the writer, and reports by others take turns. What an operation on one
container comes to, and what is seen of the container then, is determined by its own operations
and by the shutdowns alone (`Clinic.answersTo_run`), so a run and the part of it that concerns the
container never differ in it, whatever becomes of the reports (`Clinic.separate_run`).
-/

namespace HealthWatch

/-! ## A registry in use -/

/-- What an operation came to, and what is seen of a container after it. -/
structure Answer where
  action : SupervisionAction
  result : WardResult
  /-- The event that the operation gives rise to. -/
  event : Option StatusEvent
  contains : Bool
  snapshot : Option Snapshot
  deriving DecidableEq, Repr

namespace Share

/-- What is seen of a container after an operation on it. -/
def answer (share : Share) (action : SupervisionAction) (result : WardResult)
    (event : Option StatusEvent) : Answer :=
  ⟨action, result, event, share.timer.isSome, share.timer.map Timer.snapshot⟩

/-- Operations on a single container: what it is left with, and the answer to each. -/
def run : Share → List SupervisionAction → Share × List Answer
  | share, [] => (share, [])
  | share, action :: rest =>
      let (later, result, event) := share.act action
      let (last, answers) := run later rest
      (last, later.answer action result event :: answers)

end Share

/-- Something that happens while a registry is in use. -/
inductive Incident
  | operation (action : SupervisionAction)
  /-- The writer goes one step, or somebody else uses the exchange. -/
  | elsewhere (action : ExchangeAction)
  deriving DecidableEq, Repr

namespace Incident

def operation? : Incident → Option SupervisionAction
  | operation action => some action
  | elsewhere _ => none

/-- Whether an incident is an operation that is about a container. -/
def concerns (container : String) (incident : Incident) : Bool :=
  incident.operation?.any (SupervisionAction.concerns container)

/-- What was done with the registry, in order. -/
def operationsIn (incidents : List Incident) : List SupervisionAction :=
  incidents.filterMap operation?

theorem operationsIn_operation (action : SupervisionAction) (rest : List Incident) :
    operationsIn (operation action :: rest) = action :: operationsIn rest := rfl

theorem operationsIn_elsewhere (action : ExchangeAction) (rest : List Incident) :
    operationsIn (elsewhere action :: rest) = operationsIn rest := rfl

end Incident

/-- An operation, what it came to, and the registry after it. -/
structure LogEntry where
  action : SupervisionAction
  result : WardResult
  event : Option StatusEvent
  registry : Registry

namespace LogEntry

/-- What an operation that is about a container lets it see. -/
def answerTo? (container : String) (entry : LogEntry) : Option Answer :=
  if entry.action.concerns container then
    some ⟨entry.action, entry.result, entry.event, entry.registry.contains container,
      entry.registry.snapshot? container⟩
  else none

/-- An operation about a container lets it see its own share. -/
theorem answerTo?_of_concerns {container : String} (supervision : Supervision)
    {action : SupervisionAction} (concerns : action.concerns container = true)
    (result : WardResult) (event : Option StatusEvent) :
    answerTo? container ⟨action, result, event, supervision.registry⟩ =
      some ((supervision.share container).answer action result event) := by
  rw [answerTo?, if_pos concerns]
  rfl

/-- All answers to the operations that are about a container. -/
def answersTo (container : String) (log : List LogEntry) : List Answer :=
  log.filterMap (answerTo? container)

end LogEntry

open Incident (operationsIn)
open LogEntry (answersTo)

/-- A registry in use, and the exchange that the events of all its timers go to. -/
structure Clinic (σ : Type) where
  supervision : Supervision
  exchange : Exchange σ

namespace Clinic

variable {σ τ : Type}

/-- A registry without timers before an exchange. -/
def begin (exchange : Exchange σ) : Clinic σ := ⟨.empty, exchange⟩

/-- One incident. An operation is done whether its event is accepted or not. -/
def act (sink : Sink σ) (clinic : Clinic σ) : Incident → Clinic σ × List LogEntry
  | .operation action =>
      let (supervision, result, event) := clinic.supervision.act action
      let exchange := event.elim clinic.exchange fun event => (clinic.exchange.tell event).1
      (⟨supervision, exchange⟩, [⟨action, result, event, supervision.registry⟩])
  | .elsewhere action => ({ clinic with exchange := (clinic.exchange.act sink action).1 }, [])

/-- Incidents one after the other, and what every operation came to. -/
def run (sink : Sink σ) : Clinic σ → List Incident → Clinic σ × List LogEntry
  | clinic, [] => (clinic, [])
  | clinic, incident :: rest =>
      let (next, log) := clinic.act sink incident
      let (last, later) := run sink next rest
      (last, log ++ later)

section Runs

variable (sink : Sink σ) (clinic : Clinic σ) (container : String)

/-- An incident leads from a reached supervision to another. -/
theorem reached_act (reached : clinic.supervision.Reached) (incident : Incident) :
    (clinic.act sink incident).1.supervision.Reached := by
  cases incident with
  | operation action => exact reached.act action
  | elsewhere action => exact reached

/-- Incidents lead from a reached supervision to another. -/
theorem reached_run (reached : clinic.supervision.Reached) (incidents : List Incident) :
    (clinic.run sink incidents).1.supervision.Reached := by
  induction incidents generalizing clinic with
  | nil => exact reached
  | cons incident rest ih => exact ih _ (reached_act sink clinic reached incident)

/-- What does not concern a container leaves it as it was. -/
theorem share_act_of_other (reached : clinic.supervision.Reached) {incident : Incident}
    (other : incident.concerns container = false) :
    (clinic.act sink incident).1.supervision.share container =
      clinic.supervision.share container := by
  cases incident with
  | operation action => exact Supervision.share_act_of_other reached other
  | elsewhere action => rfl

/-- The answers to the operations about a container are those that it gets when it is alone. -/
theorem answersTo_run (reached : clinic.supervision.Reached) (incidents : List Incident) :
    ((clinic.run sink incidents).1.supervision.share container,
        answersTo container (clinic.run sink incidents).2) =
      (clinic.supervision.share container).run
        ((operationsIn incidents).filter (SupervisionAction.concerns container)) := by
  induction incidents generalizing clinic with
  | nil => rfl
  | cons incident rest ih =>
      have later := ih _ (reached_act sink clinic reached incident)
      cases incident with
      | elsewhere action => exact later
      | operation action =>
          rw [Incident.operationsIn_operation]
          rw [run, answersTo, List.filterMap_append]
          dsimp only [act] at later ⊢
          by_cases concerns : action.concerns container = true
          · have step := Supervision.act_of_concerns reached concerns
            have seen := LogEntry.answerTo?_of_concerns
              (clinic.supervision.act action).1 concerns
              (clinic.supervision.act action).2.1 (clinic.supervision.act action).2.2
            rw [List.filter_cons_of_pos concerns, Share.run, ← step]
            dsimp only
            rw [← later, List.filterMap_cons_some seen]
            rfl
          · have other : action.concerns container = false := Bool.eq_false_iff.mpr concerns
            rw [List.filter_cons_of_neg concerns,
              ← Supervision.share_act_of_other reached other, ← later,
              List.filterMap_cons_none (by rw [LogEntry.answerTo?, if_neg concerns])]
            rfl

end Runs

/-- Two runs agree about a container, and nothing else can change that of the first. -/
structure Separate (container : String) (sink : Sink σ) (here : Clinic σ × List LogEntry)
    (there : Clinic τ × List LogEntry) : Prop where
  /-- Every operation on the container gets the same answer. -/
  answers : answersTo container here.2 = answersTo container there.2
  contains : here.1.supervision.registry.contains container =
    there.1.supervision.registry.contains container
  snapshot : here.1.supervision.registry.snapshot? container =
    there.1.supervision.registry.snapshot? container
  /-- The timers are the same, that of a call which still stops it included. -/
  share : here.1.supervision.share container = there.1.supervision.share container
  undisturbed : ∀ incident : Incident, incident.concerns container = false →
    (here.1.act sink incident).1.supervision.share container = here.1.supervision.share container

/-- Whatever is done to other containers, whatever their probes come to and whatever becomes of
their reports, a container fares as in a run of its own operations and the shutdowns. -/
theorem separate_run (container : String) (sink : Sink σ) (otherSink : Sink τ)
    (exchange : Exchange σ) (otherExchange : Exchange τ) (here there : List Incident)
    (own : operationsIn there =
      (operationsIn here).filter (SupervisionAction.concerns container)) :
    Separate container sink ((begin exchange).run sink here)
      ((begin otherExchange).run otherSink there) := by
  have alone : (operationsIn there).filter (SupervisionAction.concerns container) =
      (operationsIn here).filter (SupervisionAction.concerns container) := by
    rw [own, List.filter_filter]
    simp
  have full := (begin exchange).answersTo_run sink container .empty here
  have part := (begin otherExchange).answersTo_run otherSink container .empty there
  rw [alone] at part
  have same := full.trans part.symm
  obtain ⟨share, answers⟩ := Prod.mk.inj same
  have timer := congrArg Share.timer share
  constructor
  case answers => exact answers
  case contains => exact congrArg Option.isSome timer
  case snapshot => exact congrArg (Option.map Timer.snapshot) timer
  case share => exact share
  case undisturbed =>
    intro incident other
    exact share_act_of_other sink _ container (reached_run sink (begin exchange) .empty here) other

/-- The second container does not notice that a sink brings down the writer, that a report of the
first is refused, and that the probe of the first brings its loop down. -/
theorem separate_run_of_crashed_neighbour :
    let check : Healthcheck := ⟨["true"], 30, 30, 0, 1, true⟩
    let healthy : Timer.Return := .outcome (.completed 0)
    let here : List Incident := [.operation (.register 0 "c1" check),
      .operation (.register 0 "c2" check), .operation (.due "c1"), .operation (.due "c2"),
      .operation (.tick 3 "c2" healthy), .elsewhere .write, .elsewhere .write, .elsewhere .write,
      .operation (.tick 4 "c1" healthy), .operation (.due "c1"), .operation (.tick 5 "c1" .crash),
      .operation (.register 6 "c1" check), .operation (.unregister "c1"), .operation .shutdown]
    let there : List Incident := [.operation (.register 0 "c2" check), .operation (.due "c2"),
      .operation (.tick 3 "c2" healthy), .operation .shutdown]
    operationsIn there = (operationsIn here).filter (SupervisionAction.concerns "c2") ∧
      Separate "c2" Sink.crashing ((begin (.begin 1 ⟨0⟩ ())).run Sink.crashing here)
        ((begin (.begin 1 ⟨0⟩ "")).run Sink.lines there) := by
  intro check healthy here there
  have own : operationsIn there =
      (operationsIn here).filter (SupervisionAction.concerns "c2") := by decide
  exact ⟨own, separate_run "c2" Sink.crashing Sink.lines (.begin 1 ⟨0⟩ ()) (.begin 1 ⟨0⟩ "")
    here there own⟩

end Clinic

/-! ## A ward in use -/

namespace WardAction

/-- The operations that an action in a ward is made of, given what it came to. -/
def operations : WardAction → WardResult → List SupervisionAction
  | .register now container check due, .registered _ =>
      .register now container check :: if due then [.due container] else []
  | .register now container check _, _ => [.register now container check]
  | .tick now container result, .done => [.tick now container result, .due container]
  | .tick now container result, _ => [.tick now container result]
  | .unregister container, _ => [.unregister container]
  | .shutdown, _ => [.shutdown]
  | .finish now container result, _ => [.finish now container result]

end WardAction

namespace Supervision

/-- Several operations, one after the other. -/
def operate (supervision : Supervision) (operations : List SupervisionAction) : Supervision :=
  operations.foldl (fun supervision operation => (supervision.act operation).1) supervision

variable {supervision : Supervision} (reached : supervision.Reached)

include reached

/-- Operations lead from a reached supervision to another. -/
theorem Reached.operate (operations : List SupervisionAction) :
    (supervision.operate operations).Reached := by
  induction operations generalizing supervision with
  | nil => exact reached
  | cons operation rest ih => exact ih (reached.act operation)

/-- Operations about other containers leave the share of this one. -/
theorem share_operate_of_others {container : String} {operations : List SupervisionAction}
    (others : ∀ operation ∈ operations, operation.concerns container = false) :
    (supervision.operate operations).share container = supervision.share container := by
  induction operations generalizing supervision with
  | nil => rfl
  | cons operation rest ih =>
      obtain ⟨other, others⟩ := List.forall_mem_cons.mp others
      exact (ih (reached.act operation) others).trans (share_act_of_other reached other)

end Supervision

namespace Ward

variable {σ : Type} (sink : Sink σ) (ward : Ward σ)

/-- An action in a ward does with its supervision what its operations do. -/
theorem supervision_act (action : WardAction) :
    (ward.act sink action).1.supervision =
      ward.supervision.operate (action.operations (ward.act sink action).2.1) := by
  cases action with
  | register now container check due =>
      rw [act]
      cases registered : ward.supervision.register now container check with
      | error failure =>
          simp [WardAction.operations, Supervision.operate, Supervision.act, registered]
      | ok entered =>
          cases due <;> simp [WardAction.operations, Supervision.operate, Supervision.act,
            registered, callProbe]
  | tick now container result =>
      rw [act]
      split
      · rename_i waits
        simp [WardAction.operations, Supervision.operate, Supervision.act, waits, callProbe]
      · rename_i waits
        simp [WardAction.operations, Supervision.operate, Supervision.act, waits]
  | unregister container =>
      rw [act]
      cases taken : ward.supervision.unregister container with
      | none => simp [WardAction.operations, Supervision.operate, Supervision.act, taken]
      | some later => simp [WardAction.operations, Supervision.operate, Supervision.act, taken]
  | shutdown => rfl
  | finish now container result =>
      rw [act]
      split
      · rename_i waits
        simp [WardAction.operations, Supervision.operate, Supervision.act, waits]
      · rename_i waits
        simp [WardAction.operations, Supervision.operate, Supervision.act, waits]

/-- An action in a ward leads from a reached supervision to another. -/
theorem reached_act (reached : ward.supervision.Reached) (action : WardAction) :
    (ward.act sink action).1.supervision.Reached := by
  rw [supervision_act]
  exact reached.operate _

/-- What happens to other containers in a ward leaves a container as it was, whatever the sink
does with their reports. -/
theorem share_act_of_others (reached : ward.supervision.Reached) (action : WardAction)
    {container : String}
    (others : ∀ operation ∈ action.operations (ward.act sink action).2.1,
      operation.concerns container = false) :
    (ward.act sink action).1.supervision.share container = ward.supervision.share container := by
  rw [supervision_act]
  exact Supervision.share_operate_of_others reached others

end Ward

end HealthWatch
