import HealthWatch.Proofs.Registry.Handles
import HealthWatch.Proofs.Registry.WindUp

/-! # The end of the writer

A `Service` is a registry that threads use, the loops of its timers, and the exchange that they
report to, until the registry is dropped and after that. At every moment there is one handle for the
registry, one for each timer and one for each loop, so the writer ends when the registry is gone and
not before, with every accepted report handed over (`Service.accounted_run`).
-/

namespace HealthWatch

/-- Whether somebody still has the registry. -/
inductive Tenure
  | held
  /-- It was dropped, and shuts down for the last time. -/
  | closing
  | gone
  deriving DecidableEq, Repr

/-- The handles that a registry has. -/
def Tenure.handles : Tenure → Nat
  | held => 1
  | closing => 1
  | gone => 0

/-- Whether a step begins a call, for which a thread needs the registry. -/
def CustodyAction.calls : CustodyAction → Bool
  | .register _ _ _ _ => true
  | .unregister _ _ => true
  | .shutdown _ _ => true
  | _ => false

/-- What only goes on with what has begun begins no call. -/
theorem CustodyAction.WindsUp.calls_eq_false {answer : Registration → Timer.Return}
    {action : CustodyAction} (windsUp : action.WindsUp answer) : action.calls = false := by
  cases action with
  | register => exact windsUp.elim
  | unregister => exact windsUp.elim
  | shutdown => exact windsUp.elim
  | _ => rfl

namespace Custody

variable {custody : Custody} {action : CustodyAction} (quiet : action.calls = false)

include quiet

/-- A registry without timers gets none but by a call. -/
theorem timers_act_of_empty (empty : custody.registry.timers = []) :
    (custody.act action).1.registry.timers = [] := by
  have changed (loop : Registration) (change : Timer → Timer) :
      (custody.adjust loop change).registry.timers = [] := by
    rw [adjust]
    dsimp only
    split
    · rw [Registry.update, empty]
      rfl
    · exact empty
  cases action with
  | register caller now container check => cases quiet
  | unregister caller container => cases quiet
  | shutdown caller order => cases quiet
  | cancel caller => exact empty
  | join caller => exact empty
  | finish caller =>
      rw [act]
      split
      · exact empty
      · exact Balanced.timers_finish.trans empty
  | callProbe loop =>
      rw [act]
      split
      · exact changed loop Timer.callProbe
      · exact empty
  | finishProbe loop now result =>
      rw [act]
      split
      · exact changed loop _
      · exact empty
  | exit loop =>
      rw [act]
      split
      · exact changed loop Timer.exit
      · exact empty

/-- Without calls in progress and without loops nothing goes on. -/
theorem act_of_ended (returned : custody.removals = []) (ended : custody.loops = []) :
    (custody.act action).1 = custody ∧ custody.effects action = [] := by
  obtain ⟨registry, removals, issued, latest, loops⟩ := custody
  cases returned
  cases ended
  cases action with
  | register caller now container check => cases quiet
  | unregister caller container => cases quiet
  | shutdown caller order => cases quiet
  | cancel caller => exact ⟨rfl, rfl⟩
  | join caller => exact ⟨rfl, rfl⟩
  | finish caller => exact ⟨rfl, rfl⟩
  | callProbe loop => simp [act, effects]
  | finishProbe loop now result => simp [act, effects]
  | exit loop => simp [act, effects]

end Custody

/-- A registry that threads use, and the exchange that its timers report to. -/
structure Service (σ : Type) where
  custody : Custody
  exchange : Exchange σ
  tenure : Tenure

inductive ServiceAction
  /-- A thread makes a step with the registry, or a loop one of its own. -/
  | step (action : CustodyAction)
  /-- A container would be registered, but no thread can be made for its loop. -/
  | threadless (caller : Nat) (now : Int) (container : String) (check : Healthcheck)
  /-- The registry is dropped, when no call is in progress, and begins to shut down. -/
  | abandon (caller : Nat) (order : List Charge)
  /-- That shutdown is over, and the handle of the registry goes. -/
  | release
  | write
  deriving DecidableEq, Repr

/-- Whether something only goes on with what has begun, up to the end of the registry. -/
def ServiceAction.WindsUp (answer : Registration → Timer.Return) : ServiceAction → Prop
  | .step action => action.WindsUp answer
  | .threadless _ _ _ _ => False
  | .abandon _ _ => True
  | .release => True
  | .write => True

namespace Service

variable {σ : Type}

/-- A registry without timers, with the first handle of an exchange. -/
def begin (capacity : Nat) (wait : Span) (state : σ) : Service σ :=
  ⟨.empty, .begin capacity wait state, .held⟩

/-- Something happens to the exchange. -/
def exchanges (sink : Sink σ) (service : Service σ) (actions : List ExchangeAction) :
    Service σ × List Observation :=
  let (exchange, seen) := service.exchange.run sink actions
  ({ service with exchange }, seen)

/-- One step. What is not possible changes nothing. -/
def act (sink : Sink σ) (service : Service σ) : ServiceAction → Service σ × List Observation
  | .step action =>
      if action.calls ∧ service.tenure ≠ .held then (service, [])
      else
        exchanges sink { service with custody := (service.custody.act action).1 }
          (service.custody.effects action)
  | .threadless caller now container check =>
      if service.tenure = .held ∧ service.custody.busy caller = false ∧
          (service.custody.registry.register now container check).isOk then
        service.exchanges sink [.copy, .copy, .drop, .drop]
      else (service, [])
  | .abandon caller order =>
      if service.tenure = .held ∧ service.custody.removals = [] ∧
          order.Perm service.custody.entries then
        ({ service with custody := service.custody.shutdown caller order, tenure := .closing }, [])
      else (service, [])
  | .release =>
      if service.tenure = .closing ∧ service.custody.removals = [] then
        exchanges sink { service with tenure := .gone } [.drop]
      else (service, [])
  | .write => service.exchanges sink [.write]

/-- Steps one after the other, and what can be seen of the exchange. -/
def run (sink : Sink σ) : Service σ → List ServiceAction → Service σ × List Observation
  | service, [] => (service, [])
  | service, action :: rest =>
      let (next, seen) := service.act sink action
      let (last, more) := run sink next rest
      (last, seen ++ more)

/-- The writer's steps leave the registry alone. -/
theorem act_write (sink : Sink σ) (service : Service σ) :
    service.act sink .write =
      ({ service with exchange := (service.exchange.write sink).1 },
        (service.exchange.write sink).2) := by
  simp only [act, exchanges, Exchange.run, Exchange.act, List.append_nil]

/-- What holds of a service after everything that was seen of its exchange. -/
structure Balanced (capacity : Nat) (service : Service σ) (seen : List Observation) : Prop where
  custody : ∃ events, Custody.Balanced service.custody events
  conserved : Exchange.Conserved capacity service.exchange seen
  handles : service.exchange.handles = service.tenure.handles + service.custody.handles
  /-- A registry that was dropped has no timers any more. -/
  closed : service.tenure ≠ .held → service.custody.registry.timers = []
  gone : service.tenure = .gone → service.custody.removals = [] ∧ service.custody.loops = []

namespace Balanced

variable {capacity : Nat} (sink : Sink σ) {service : Service σ} {seen : List Observation}

/-- At the beginning the only handle is the one that the registry has. -/
theorem begin (capacity : Nat) (wait : Span) (state : σ) :
    Balanced capacity (.begin capacity wait state) [] where
  custody := ⟨[], .empty⟩
  conserved := .begin capacity wait state
  handles := rfl
  closed held := absurd rfl held
  gone gone := by cases gone

variable (balanced : Balanced capacity service seen)

include balanced

/-- A step with the registry, or one of a loop. -/
theorem step (action : CustodyAction) (may : ¬(action.calls = true ∧ service.tenure ≠ .held)) :
    Balanced capacity
      (exchanges sink { service with custody := (service.custody.act action).1 }
        (service.custody.effects action)).1
      (seen ++ (exchanges sink { service with custody := (service.custody.act action).1 }
        (service.custody.effects action)).2) := by
  obtain ⟨events, custody⟩ := balanced.custody
  have quiet (left : service.tenure ≠ .held) : action.calls = false :=
    Bool.eq_false_iff.mpr fun calls => may ⟨calls, left⟩
  constructor
  case custody => exact ⟨_, custody.act action⟩
  case conserved => exact balanced.conserved.run _
  case handles =>
    by_cases gone : service.tenure = .gone
    · obtain ⟨returned, ended⟩ := balanced.gone gone
      obtain ⟨same, none⟩ := Custody.act_of_ended (quiet (by simp [gone])) returned ended
      rw [exchanges, same, none]
      exact balanced.handles
    · have one : service.tenure.handles = 1 := by
        cases tenure : service.tenure with
        | held => rfl
        | closing => rfl
        | gone => exact absurd tenure gone
      have held := balanced.handles
      rw [one] at held
      have after := Custody.handles_effects sink custody action held
      rw [exchanges]
      dsimp only
      rw [one, after]
  case closed =>
    exact fun left => Custody.timers_act_of_empty (quiet left) (balanced.closed left)
  case gone =>
    intro gone
    obtain ⟨returned, ended⟩ := balanced.gone gone
    have left : service.tenure ≠ .held := by
      intro held
      cases held.symm.trans gone
    obtain ⟨same, -⟩ := Custody.act_of_ended (quiet left) returned ended
    rw [exchanges]
    dsimp only
    rw [same]
    exact ⟨returned, ended⟩

/-- A registration that fails for want of a thread gives back both handles that it took. -/
theorem exchanges_threadless (held : service.tenure = .held) :
    service.exchanges sink [.copy, .copy, .drop, .drop] = (service, []) := by
  have handles := balanced.handles
  rw [held, Tenure.handles] at handles
  have some : service.exchange.handles ≠ 0 := by omega
  rw [exchanges, Exchange.run_copy sink some, Exchange.run_copy sink (Nat.succ_ne_zero _)]
  rfl

/-- Dropping the registry shuts it down, and takes out all of its timers. -/
theorem abandon (held : service.tenure = .held) (idle : service.custody.removals = [])
    (caller : Nat) {order : List Charge} (all : order.Perm service.custody.entries) :
    Balanced capacity
      { service with custody := service.custody.shutdown caller order, tenure := .closing }
      (seen ++ []) := by
  obtain ⟨events, custody⟩ := balanced.custody
  have free : service.custody.busy caller = false := by
    rw [Custody.busy, idle]
    rfl
  rw [List.append_nil]
  constructor
  case custody => exact ⟨_, custody.shutdown all caller free⟩
  case conserved => exact balanced.conserved
  case handles =>
    have same := Custody.handles_of_perm (Custody.Balanced.charges_shutdown all caller) rfl
    rw [same, balanced.handles, held]
    rfl
  case closed => exact fun _ => rfl
  case gone =>
    intro gone
    cases gone

/-- When no call is in progress and no timer is left, no loop runs. -/
theorem loops_of_returned (left : service.tenure ≠ .held)
    (returned : service.custody.removals = []) :
    service.custody.charges = [] ∧ service.custody.loops = [] := by
  obtain ⟨events, custody⟩ := balanced.custody
  have none : service.custody.charges = [] := by
    rw [Custody.charges, Custody.entries, balanced.closed left, returned]
    rfl
  refine ⟨none, List.eq_nil_of_subset_nil ?_⟩
  have running := custody.running
  rwa [Custody.held_eq, none] at running

/-- When the registry goes away its handle is dropped, and the balance still holds. -/
theorem release (closing : service.tenure = .closing)
    (returned : service.custody.removals = []) :
    Balanced capacity (exchanges sink { service with tenure := .gone } [.drop]).1
      (seen ++ (exchanges sink { service with tenure := .gone } [.drop]).2) := by
  have left : service.tenure ≠ .held := by simp [closing]
  obtain ⟨none, ended⟩ := balanced.loops_of_returned left returned
  have handles := balanced.handles
  rw [closing, Tenure.handles, Custody.handles, none, ended] at handles
  constructor
  case custody => exact balanced.custody
  case conserved =>
    have conserved : Exchange.Conserved capacity (service.exchange.run sink [.drop]).1
        (seen ++ (service.exchange.run sink [.drop]).2) := balanced.conserved.run [.drop]
    exact conserved
  case handles =>
    change service.exchange.handles - 1 = Tenure.handles .gone + service.custody.handles
    rw [handles, Custody.handles, none, ended]
    rfl
  case closed => exact fun _ => balanced.closed left
  case gone => exact fun _ => ⟨returned, ended⟩

/-- A registry that is gone leaves nothing behind. -/
theorem handles_of_gone (gone : service.tenure = .gone) :
    service.exchange.handles = 0 ∧ service.custody.charges = [] ∧ service.custody.loops = [] := by
  obtain ⟨none, ended⟩ := balanced.loops_of_returned (by simp [gone]) (balanced.gone gone).1
  refine ⟨?_, none, ended⟩
  rw [balanced.handles, gone, Custody.handles, none, ended]
  rfl

/-- Whatever happens leaves the balance. -/
theorem act (action : ServiceAction) :
    Balanced capacity (service.act sink action).1 (seen ++ (service.act sink action).2) := by
  have idle : Balanced capacity service (seen ++ []) := by
    rw [List.append_nil]
    exact balanced
  cases action with
  | step action =>
      rw [Service.act]
      split
      · exact idle
      · rename_i may
        exact balanced.step sink action may
  | threadless caller now container check =>
      rw [Service.act]
      split
      · rename_i possible
        rw [balanced.exchanges_threadless sink possible.1]
        exact idle
      · exact idle
  | abandon caller order =>
      rw [Service.act]
      split
      · rename_i possible
        exact balanced.abandon possible.1 possible.2.1 caller possible.2.2
      · exact idle
  | release =>
      rw [Service.act]
      split
      · rename_i possible
        exact balanced.release sink possible.1 possible.2
      · exact idle
  | write =>
      rw [act_write]
      exact ⟨balanced.custody, balanced.conserved.write,
        (service.exchange.handles_write sink).trans balanced.handles, balanced.closed,
        balanced.gone⟩

/-- The balance holds after any steps. -/
theorem run (actions : List ServiceAction) :
    Balanced capacity (service.run sink actions).1 (seen ++ (service.run sink actions).2) := by
  induction actions generalizing service seen with
  | nil =>
      rw [Service.run, List.append_nil]
      exact balanced
  | cons action rest ih =>
      rw [Service.run, ← List.append_assoc]
      exact ih (balanced.act sink action)

end Balanced

/-! ## After the registry -/

section Gone

variable {capacity : Nat} (sink : Sink σ) {service : Service σ} {seen : List Observation}
  (balanced : Balanced capacity service seen) (gone : service.tenure = .gone)

include balanced gone

/-- Once the registry is gone only the writer goes on. -/
theorem act_of_gone {action : ServiceAction} (other : action ≠ .write) :
    service.act sink action = (service, []) := by
  obtain ⟨returned, ended⟩ := balanced.gone gone
  cases action with
  | write => exact absurd rfl other
  | threadless caller now container check => simp [act, gone]
  | abandon caller order => simp [act, gone]
  | release => simp [act, gone]
  | step action =>
      rw [act]
      by_cases calls : action.calls = true
      · rw [if_pos ⟨calls, by simp [gone]⟩]
      · obtain ⟨same, none⟩ :=
          Custody.act_of_ended (Bool.eq_false_iff.mpr calls) returned ended
        rw [if_neg fun both => calls both.1, same, none]
        rfl

/-- Without a registry only the writer goes on. -/
theorem run_of_gone (actions : List ServiceAction) :
    (service.run sink actions).1.exchange =
        (service.exchange.run sink (List.replicate (actions.count .write) .write)).1 ∧
      (service.run sink actions).2 =
        (service.exchange.run sink (List.replicate (actions.count .write) .write)).2 := by
  induction actions generalizing service seen with
  | nil => exact ⟨rfl, rfl⟩
  | cons action rest ih =>
      by_cases writes : action = .write
      · subst writes
        have later := balanced.act sink .write
        rw [act_write] at later
        obtain ⟨exchange, observed⟩ := ih later gone
        rw [List.count_cons_self, List.replicate_succ, run, act_write]
        exact ⟨exchange, congrArg (_ ++ ·) observed⟩
      · rw [List.count_cons_of_ne writes, run, act_of_gone sink balanced gone writes]
        exact ih balanced gone

/-- The writer comes to its end, unless the sink brings it down. -/
theorem ends_of_gone (actions : List ServiceAction)
    (enough : service.exchange.pending < actions.count .write) :
    (∃ observation ∈ seen ++ (service.run sink actions).2, observation.crashed = true) ∨
      (service.run sink actions).1.exchange.phase = .ended := by
  obtain ⟨handles, -, -⟩ := balanced.handles_of_gone gone
  obtain ⟨exchange, observed⟩ := run_of_gone sink balanced gone actions
  rw [exchange, observed]
  have crashed (stopped : service.exchange.phase = .falling ∨ service.exchange.phase = .dead) :
      ∃ observation ∈ seen, observation.crashed = true := balanced.conserved.crashed.mpr stopped
  cases phase : service.exchange.phase with
  | running =>
      have alive := balanced.conserved.alive.mpr (.inl phase)
      rcases Exchange.run_write_of_abandoned sink handles phase alive _ enough with
        ⟨observation, member, crash⟩ | ends
      · exact .inl ⟨observation, List.mem_append_right _ member, crash⟩
      · exact .inr ends
  | falling =>
      obtain ⟨observation, member, crash⟩ := crashed (.inl phase)
      exact .inl ⟨observation, List.mem_append_left _ member, crash⟩
  | dead =>
      obtain ⟨observation, member, crash⟩ := crashed (.inr phase)
      exact .inl ⟨observation, List.mem_append_left _ member, crash⟩
  | ended =>
      rw [Exchange.run_write_of_ended sink phase]
      exact .inr phase

end Gone

/-! ## The way there -/

section Completing

variable (sink : Sink σ) {service : Service σ}

/-- Steps in two parts lead where they lead together. -/
theorem run_append_fst (service : Service σ) (first second : List ServiceAction) :
    (service.run sink (first ++ second)).1 = ((service.run sink first).1.run sink second).1 := by
  induction first generalizing service with
  | nil => rfl
  | cons action rest ih => exact ih _

/-- Steps that begin no call are possible as long as the registry is not gone. -/
theorem run_steps (service : Service σ) {answer : Registration → Timer.Return}
    (actions : List CustodyAction)
    (windsUp : ∀ action ∈ actions, action.WindsUp answer) :
    (service.run sink (actions.map .step)).1.custody = (service.custody.run actions).1 ∧
      (service.run sink (actions.map .step)).1.tenure = service.tenure := by
  induction actions generalizing service with
  | nil => exact ⟨rfl, rfl⟩
  | cons action rest ih =>
      obtain ⟨first, windsUp⟩ := List.forall_mem_cons.mp windsUp
      have quiet : ¬(action.calls = true ∧ service.tenure ≠ .held) := by
        rw [first.calls_eq_false]
        exact fun both => Bool.false_ne_true both.1
      rw [List.map_cons, run, act, if_neg quiet]
      exact ih _ windsUp

/-- All calls in progress can return, whatever the probes in flight come to. -/
theorem exists_idle {capacity : Nat} {seen : List Observation}
    (balanced : Balanced capacity service seen) (answer : Registration → Timer.Return) :
    ∃ actions : List ServiceAction, (∀ action ∈ actions, action.WindsUp answer) ∧
      (service.run sink actions).1.custody.removals = [] ∧
      (service.run sink actions).1.tenure = service.tenure := by
  obtain ⟨events, custody⟩ := balanced.custody
  obtain ⟨actions, windsUp, none, -⟩ := Custody.exists_windUp answer custody
  obtain ⟨same, tenure⟩ := service.run_steps sink actions windsUp
  refine ⟨actions.map .step, ?_, by rw [same, none], tenure⟩
  intro action member
  obtain ⟨step, present, rfl⟩ := List.mem_map.mp member
  exact windsUp step present

/-- From wherever it is, a service can come to its end. -/
theorem exists_gone {capacity : Nat} {seen : List Observation}
    (balanced : Balanced capacity service seen) (answer : Registration → Timer.Return) :
    ∃ actions : List ServiceAction, (∀ action ∈ actions, action.WindsUp answer) ∧
      (service.run sink actions).1.tenure = .gone := by
  have ofClosing {service : Service σ} {seen : List Observation}
      (balanced : Balanced capacity service seen) (closing : service.tenure = .closing) :
      ∃ actions : List ServiceAction, (∀ action ∈ actions, action.WindsUp answer) ∧
        (service.run sink actions).1.tenure = .gone := by
    obtain ⟨actions, windsUp, none, tenure⟩ := exists_idle sink balanced answer
    refine ⟨actions ++ [.release], ?_, ?_⟩
    · exact List.forall_mem_append.mpr ⟨windsUp, List.forall_mem_singleton.mpr trivial⟩
    · rw [run_append_fst, run, act, if_pos ⟨tenure.trans closing, none⟩]
      rfl
  cases tenure : service.tenure with
  | gone => exact ⟨[], List.forall_mem_nil _, tenure⟩
  | closing => exact ofClosing balanced tenure
  | held =>
      obtain ⟨actions, windsUp, none, same⟩ := exists_idle sink balanced answer
      let idle := (service.run sink actions).1
      have drops : idle.act sink (.abandon 0 idle.custody.entries) =
          ({ idle with
              custody := idle.custody.shutdown 0 idle.custody.entries
              tenure := .closing }, []) := by
        rw [act, if_pos ⟨same.trans tenure, none, .refl _⟩]
      have dropped := (balanced.run sink actions).act sink (.abandon 0 idle.custody.entries)
      rw [drops] at dropped
      obtain ⟨more, goesOn, gone⟩ := ofClosing dropped rfl
      refine ⟨actions ++ .abandon 0 idle.custody.entries :: more, ?_, ?_⟩
      · exact List.forall_mem_append.mpr
          ⟨windsUp, List.forall_mem_cons.mpr ⟨trivial, goesOn⟩⟩
      · rw [run_append_fst, run, drops]
        exact gone

end Completing

/-- What a service promises after everything that was seen of its exchange. -/
structure Accounted (capacity : Nat) (sink : Sink σ) (service : Service σ)
    (seen : List Observation) : Prop where
  /-- There is a handle for the registry, one for each timer and one for each loop that runs. -/
  handles : service.exchange.handles =
    service.tenure.handles + service.custody.charges.length + service.custody.loops.length
  distinct : (service.custody.charges.map Charge.registration).Nodup ∧
    service.custody.loops.Nodup
  /-- What the tick of a loop has to tell is reported, also when its timer is being stopped. -/
  told : ∀ charge ∈ service.custody.charges, charge.registration ∈ service.custody.loops →
    ∀ now result event, (charge.timer.finishProbe now result).2 = some event →
      ∃ answer,
        (service.act sink (.step (.finishProbe charge.registration now result))).2 =
            [.reported event answer] ∧
          (service.exchange.delivery.alive = true →
            service.exchange.delivery.queue.length < max capacity 1 → answer = .ok ())
  ordered : Observation.deliveredIn seen <+: Observation.acceptedIn seen
  /-- Whatever the probes in flight come to, the registry can be shut down and dropped. -/
  completes : ∀ answer : Registration → Timer.Return, ∃ actions : List ServiceAction,
    (∀ action ∈ actions, action.WindsUp answer) ∧ (service.run sink actions).1.tenure = .gone
  /-- A registry that is gone leaves no handle, no timer and no loop behind. -/
  abandoned : service.tenure = .gone →
    service.exchange.handles = 0 ∧ service.custody.charges = [] ∧ service.custody.loops = []
  /-- Then the steps of the writer lead to its end, unless the sink brings it down. -/
  ends : service.tenure = .gone → ∀ actions : List ServiceAction,
    service.exchange.pending < actions.count .write →
      (∃ observation ∈ seen ++ (service.run sink actions).2, observation.crashed = true) ∨
        (service.run sink actions).1.exchange.phase = .ended
  /-- A writer that was not brought down ends when the registry is gone and not before, and has
  handed over every report that was accepted. -/
  joined : service.exchange.phase = .ended ∨ service.exchange.phase = .dead →
    (∀ observation ∈ seen, observation.crashed = false) →
      service.tenure = .gone ∧ Observation.deliveredIn seen = Observation.acceptedIn seen

namespace Balanced

variable {capacity : Nat} (sink : Sink σ) {service : Service σ} {seen : List Observation}
  (balanced : Balanced capacity service seen)

include balanced

/-- A probe that comes back with something to tell reports it to the exchange. -/
theorem act_finishProbe {charge : Charge} (member : charge ∈ service.custody.charges)
    (runs : charge.registration ∈ service.custody.loops) {now : Int} {result : Timer.Return}
    {event : StatusEvent} (told : (charge.timer.finishProbe now result).2 = some event) :
    (service.act sink (.step (.finishProbe charge.registration now result))).2 =
      (service.exchange.report event).2 := by
  obtain ⟨events, custody⟩ := balanced.custody
  have possible : ¬((CustodyAction.finishProbe charge.registration now result).calls = true ∧
      service.tenure ≠ .held) := fun both => Bool.false_ne_true both.1
  rw [Service.act, if_neg possible, Custody.effects, if_pos runs,
    Custody.eventOf_of_mem custody member, told]
  simp [exchanges, Exchange.run, Exchange.act]

/-- Without handles left the registry is gone. -/
theorem gone_of_handles (none : service.exchange.handles = 0) : service.tenure = .gone := by
  have handles := balanced.handles
  cases tenure : service.tenure with
  | gone => rfl
  | held => rw [tenure, Tenure.handles] at handles; omega
  | closing => rw [tenure, Tenure.handles] at handles; omega

/-- **Where the handles are.** At every step there is one handle for each timer, each loop and the
registry; and the writer ends when the last of them has gone and everything accepted has been handed
over. -/
theorem accounted : Accounted capacity sink service seen := by
  obtain ⟨events, custody⟩ := balanced.custody
  constructor
  case handles =>
    rw [balanced.handles, Custody.handles, Nat.add_assoc]
  case distinct =>
    exact ⟨service.custody.held_eq ▸ custody.distinct.of_map, custody.single⟩
  case told =>
    intro charge member runs now result event told
    have handles := balanced.handles
    have some := List.length_pos_of_mem runs
    rw [balanced.act_finishProbe sink member runs told]
    rw [Custody.handles] at handles
    have places := balanced.conserved.places
    subst places
    exact service.exchange.exists_reported event (by omega)
  case ordered => exact balanced.conserved.ordered
  case completes => exact exists_gone sink balanced
  case abandoned => exact balanced.handles_of_gone
  case ends => exact fun gone actions => ends_of_gone sink balanced gone actions
  case joined =>
    intro stopped sound
    rcases stopped with ended | dead
    · obtain ⟨none, all⟩ := balanced.conserved.ended ended
      exact ⟨balanced.gone_of_handles none, all⟩
    · obtain ⟨observation, member, crashed⟩ := balanced.conserved.crashed.mpr (.inr dead)
      rw [sound observation member] at crashed
      cases crashed

end Balanced

/-- However the threads, the loops and the writer take turns, the handles of a service are accounted
for, and its writer ends with the registry. -/
theorem accounted_run (capacity : Nat) (wait : Span) (state : σ) (sink : Sink σ)
    (actions : List ServiceAction) :
    Accounted capacity sink ((begin capacity wait state).run sink actions).1
      ((begin capacity wait state).run sink actions).2 :=
  ((Balanced.begin capacity wait state).run sink actions).accounted sink

-- The writer ends after it handed over the report of a probe that was in flight when its timer
-- was cancelled.
example :
    let check : Healthcheck := ⟨["true"], 30, 30, 0, 3, true⟩
    let loop : Registration := ⟨0, "c1"⟩
    let after := (begin 1 ⟨0⟩ ()).run Sink.accepting
      [.step (.register 1 0 "c1" check), .step (.callProbe loop), .step (.unregister 1 "c1"),
        .step (.cancel 1), .step (.finishProbe loop 9 (.outcome (.completed 0))),
        .step (.exit loop), .step (.join 1), .step (.finish 1), .abandon 1 [],
        .step (.finish 1), .release, .write, .write, .write]
    after.1.exchange.phase = .ended ∧
      (Observation.deliveredIn after.2).map StatusEvent.exitCode = [0] := by
  decide

end Service

end HealthWatch
