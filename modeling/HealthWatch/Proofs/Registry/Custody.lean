import HealthWatch.Registry
import Mathlib.Data.List.Nodup
import Mathlib.Logic.Function.Basic

/-! # Custody of the timers

Any number of threads use one registry at the same time. Whoever holds its lock makes one step
with it; timers are stopped outside of the lock, and their loops are threads of their own. A
`Custody` is the registry together with the calls in progress and the loops that run, and
`Custody.act` is one step of one thread, so that a list of actions is an interleaving.

Every successful registration has a number, by which the loop that it started is known. The
numbers are there for the theory alone: no step depends on them but to find the timer of a loop.
-/

namespace HealthWatch

namespace Timer

/-- What stopping does first: the loop is told to end, and has not noticed yet. -/
def deactivate (timer : Timer) : Timer := { timer with running := false, active := false }

/-- Whether the loop can end now: it came down, or it waits and notices that it was cancelled. -/
def mayExit (timer : Timer) : Bool := !timer.probing && (timer.loop.isNone || !timer.active)

def exit (timer : Timer) : Timer := { timer with loop := none }

end Timer

structure Registration where
  number : Nat
  container : String
  deriving DecidableEq, Repr

structure Charge where
  registration : Registration
  timer : Timer
  deriving DecidableEq, Repr

/-- A call that took timers out of the registry and has not returned yet. -/
structure Removal where
  /-- The thread that makes the call. -/
  caller : Nat
  /-- The timers that are still to be stopped, one after the other. -/
  charges : List Charge
  /-- The container that is unregistered, or nothing when everything is shut down. -/
  container : Option String
  /-- The registrations whose timers the call took out. -/
  consumed : List Registration
  deriving DecidableEq, Repr

namespace Removal

/-- The registrations whose timers are still to be stopped. -/
def held (removal : Removal) : List Registration := removal.charges.map Charge.registration

def cancel (removal : Removal) : Removal :=
  { removal with
    charges := removal.charges.modifyHead fun charge =>
      { charge with timer := charge.timer.deactivate } }

/-- The next timer is discarded, once it was cancelled and its loop does not run any more. -/
def join (loops : List Registration) (removal : Removal) : Removal :=
  match removal.charges with
  | [] => removal
  | charge :: rest =>
      if charge.timer.running = false ∧ charge.registration ∉ loops then
        { removal with charges := rest }
      else removal

def adjust (loop : Registration) (change : Timer → Timer) (removal : Removal) : Removal :=
  { removal with
    charges := removal.charges.map fun charge =>
      if charge.registration = loop then { charge with timer := change charge.timer }
      else charge }

end Removal

/-- A registry, the calls in progress that stop timers, and the loops that run. -/
structure Custody where
  registry : Registry
  removals : List Removal
  issued : Nat
  /-- The number of the last registration of each container. -/
  latest : String → Nat
  /-- The registrations whose loops were started and have not ended. -/
  loops : List Registration

inductive CustodyAction
  | register (caller : Nat) (now : Int) (container : String) (check : Healthcheck)
  /-- A call takes the timer of a container out of the registry, if there is one. -/
  | unregister (caller : Nat) (container : String)
  /-- A call closes the registry, and will stop its timers in the given order. -/
  | shutdown (caller : Nat) (order : List Charge)
  /-- A call cancels the loop of its next timer. -/
  | cancel (caller : Nat)
  /-- A call finds that the loop of the timer which it cancelled has ended. -/
  | join (caller : Nat)
  /-- A call without timers left to stop returns. -/
  | finish (caller : Nat)
  | callProbe (loop : Registration)
  | finishProbe (loop : Registration) (now : Int) (result : Timer.Return)
  | exit (loop : Registration)
  deriving DecidableEq, Repr

inductive CustodyEvent
  | registered (caller : Nat) (registration : Registration)
  | refused (caller : Nat) (failure : Failure)
  | absent (caller : Nat) (container : String)
  /-- A call that consumed registrations returns. -/
  | returned (caller : Nat) (container : Option String) (consumed : List Registration)
  deriving DecidableEq, Repr

namespace Custody

/-- An open registry without timers, which nobody uses. -/
def empty : Custody := ⟨.empty, [], 0, fun _ => 0, []⟩

def entries (custody : Custody) : List Charge :=
  custody.registry.timers.map fun entry => ⟨⟨custody.latest entry.1, entry.1⟩, entry.2⟩

/-- All timers that are in the registry or still to be stopped. -/
def charges (custody : Custody) : List Charge :=
  custody.entries ++ custody.removals.flatMap Removal.charges

/-- Whether a thread is in a call that stops timers. -/
def busy (custody : Custody) (caller : Nat) : Bool :=
  custody.removals.any fun removal => removal.caller = caller

def advance (custody : Custody) (caller : Nat) (step : Removal → Removal) : Custody :=
  { custody with
    removals := custody.removals.map fun removal =>
      if removal.caller = caller then step removal else removal }

/-- The timer of a loop changes, whoever has it. -/
def adjust (custody : Custody) (loop : Registration) (change : Timer → Timer) : Custody :=
  { custody with
    registry :=
      if custody.latest loop.container = loop.number then
        custody.registry.update loop.container change
      else custody.registry
    removals := custody.removals.map (·.adjust loop change) }

/-- A timer has been started in the registry. -/
def enter (custody : Custody) (registry : Registry) (container : String) : Custody :=
  { custody with
    registry
    issued := custody.issued + 1
    latest := Function.update custody.latest container custody.issued
    loops := ⟨custody.issued, container⟩ :: custody.loops }

def register (custody : Custody) (caller : Nat) (now : Int) (container : String)
    (check : Healthcheck) : Custody × List CustodyEvent :=
  match custody.registry.register now container check with
  | .error failure => (custody, [.refused caller failure])
  | .ok (registry, _) =>
      (custody.enter registry container, [.registered caller ⟨custody.issued, container⟩])

/-- A call has taken the timer of a container out of the registry. -/
def leave (custody : Custody) (caller : Nat) (registry : Registry) (container : String)
    (timer : Timer) : Custody :=
  let registration : Registration := ⟨custody.latest container, container⟩
  { custody with
    registry
    removals := custody.removals ++
      [⟨caller, [⟨registration, timer⟩], some container, [registration]⟩] }

def unregister (custody : Custody) (caller : Nat) (container : String) :
    Custody × List CustodyEvent :=
  match custody.registry.takeOut container with
  | none => (custody, [.absent caller container])
  | some (registry, timer) => (custody.leave caller registry container timer, [])

def shutdown (custody : Custody) (caller : Nat) (order : List Charge) : Custody :=
  { custody with
    registry := custody.registry.close.1
    removals := custody.removals ++ [⟨caller, order, none, order.map Charge.registration⟩] }

/-- A call returns, and frees the identifier that it reserved. -/
def finish (custody : Custody) (removal : Removal) : Custody :=
  { custody with
    registry := removal.container.elim custody.registry custody.registry.release
    removals := custody.removals.filter fun other => other.caller ≠ removal.caller }

/-- The call of a thread that has no timers left to stop. -/
def finished? (custody : Custody) (caller : Nat) : Option Removal :=
  custody.removals.find? fun removal => removal.caller = caller && removal.charges.isEmpty

def mayExit (custody : Custody) (loop : Registration) : Bool :=
  custody.charges.all fun charge => charge.registration ≠ loop || charge.timer.mayExit

/-- One step of one thread. A step that is not possible changes nothing. -/
def act (custody : Custody) : CustodyAction → Custody × List CustodyEvent
  | .register caller now container check =>
      if custody.busy caller then (custody, [])
      else custody.register caller now container check
  | .unregister caller container =>
      if custody.busy caller then (custody, []) else custody.unregister caller container
  | .shutdown caller order =>
      if !custody.busy caller ∧ order.Perm custody.entries then
        (custody.shutdown caller order, [])
      else (custody, [])
  | .cancel caller => (custody.advance caller Removal.cancel, [])
  | .join caller => (custody.advance caller (Removal.join custody.loops), [])
  | .finish caller =>
      match custody.finished? caller with
      | none => (custody, [])
      | some removal =>
          (custody.finish removal, [.returned caller removal.container removal.consumed])
  | .callProbe loop =>
      if loop ∈ custody.loops then (custody.adjust loop Timer.callProbe, []) else (custody, [])
  | .finishProbe loop now result =>
      if loop ∈ custody.loops then
        (custody.adjust loop fun timer => (timer.finishProbe now result).1, [])
      else (custody, [])
  | .exit loop =>
      if loop ∈ custody.loops ∧ custody.mayExit loop then
        ({ custody.adjust loop Timer.exit with loops := custody.loops.filter (· ≠ loop) }, [])
      else (custody, [])

/-- Steps one after the other, and what the calls came to. -/
def run : Custody → List CustodyAction → Custody × List CustodyEvent
  | custody, [] => (custody, [])
  | custody, action :: rest =>
      let (next, events) := custody.act action
      let (last, later) := run next rest
      (last, events ++ later)

end Custody

section Keys

variable {α β : Type} [DecidableEq β] (key : α → β)

/-- An item whose key no other item has can be put in front. -/
theorem perm_cons_filter_of_nodup {list : List α} {item : α} (member : item ∈ list)
    (distinct : (list.map key).Nodup) :
    list.Perm (item :: list.filter fun other => key other ≠ key item) := by
  induction list with
  | nil => cases member
  | cons head tail ih =>
      rw [List.map_cons, List.nodup_cons] at distinct
      obtain ⟨new, distinct⟩ := distinct
      rcases List.mem_cons.mp member with rfl | later
      · have rest : (tail.filter fun other => key other ≠ key item) = tail := by
          apply List.filter_eq_self.mpr
          intro other present
          rw [decide_eq_true_eq]
          exact fun same => new (same ▸ List.mem_map_of_mem present)
        rw [List.filter_cons_of_neg (by simp), rest]
      · have other : key head ≠ key item := fun same => new (same ▸ List.mem_map_of_mem later)
        rw [List.filter_cons_of_pos (by simpa using other)]
        exact ((ih later distinct).cons head).trans (.swap item head _)

end Keys

/-- A timer that started has a loop, and is the timer of the same container. -/
theorem Timer.start_eq_ok {timer started : Timer} {now : Int}
    (start : timer.start now = .ok started) :
    started.container = timer.container ∧ started.loop.isSome = true ∧ started.running = true := by
  unfold Timer.start at start
  split at start
  · cases start
  · split at start
    · cases start
    · cases start
      exact ⟨rfl, rfl, rfl⟩

namespace Registry

variable (registry : Registry) (container : String)

/-- A timer that is found for a container is registered for it. -/
theorem mem_timers_of_find? {timer : Timer} (found : registry.find? container = some timer) :
    (container, timer) ∈ registry.timers := by
  obtain ⟨⟨key, value⟩, first, rfl⟩ := Option.map_eq_some_iff.mp found
  have same : key = container := by simpa using List.find?_some first
  exact same ▸ List.mem_of_find?_eq_some first

/-- A registry contains the containers that it lists. -/
theorem contains_eq_true_iff : registry.contains container = true ↔
    container ∈ registry.containers := by
  simp [contains, find?, containers]

/-- A container is registered only when the registry is open and does not know it, and then it
has a timer that was just started. -/
theorem register_eq_ok {registry later : Registry} {container : String} {now : Int}
    {check : Healthcheck} {snapshot : Snapshot}
    (registered : registry.register now container check = .ok (later, snapshot)) :
    registry.closed = false ∧ container ∉ registry.containers ∧ container ∉ registry.stopping ∧
      ∃ timer, (Timer.create container check).start now = .ok timer ∧
        later = { registry with timers := registry.timers ++ [(container, timer)] } ∧
        snapshot = timer.snapshot := by
  unfold register at registered
  by_cases closed : registry.closed = true
  · rw [if_pos closed] at registered
    cases registered
  by_cases known : registry.contains container = true
  · rw [if_neg closed, if_pos known] at registered
    cases registered
  by_cases stopping : registry.stopping.contains container = true
  · rw [if_neg closed, if_neg known, if_pos stopping] at registered
    cases registered
  rw [if_neg closed, if_neg known, if_neg stopping] at registered
  refine ⟨by simpa using closed, ?_, by simpa using stopping, ?_⟩
  · rwa [contains_eq_true_iff] at known
  · cases start : (Timer.create container check).start now with
    | error fault =>
        rw [start] at registered
        cases registered
    | ok timer =>
        rw [start] at registered
        cases registered
        exact ⟨timer, rfl, rfl, rfl⟩

/-- Taking out the timer of a container reserves its identifier. -/
theorem takeOut_eq_some {registry later : Registry} {container : String} {timer : Timer}
    (taken : registry.takeOut container = some (later, timer)) :
    (container, timer) ∈ registry.timers ∧
      later =
        { registry.erase container with stopping := container :: registry.stopping } := by
  obtain ⟨found, first, same⟩ := Option.map_eq_some_iff.mp taken
  cases same
  exact ⟨registry.mem_timers_of_find? container first, rfl⟩

@[simp] theorem containers_update (change : Timer → Timer) :
    (registry.update container change).containers = registry.containers := by
  rw [containers, containers, update, List.map_map]
  apply List.map_congr_left
  intro entry member
  rw [Function.comp_apply]
  split <;> rfl

end Registry

end HealthWatch
