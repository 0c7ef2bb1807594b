import HealthWatch.Probe.Execute
import HealthWatch.Proofs.Probe.Draining
import Mathlib.Data.List.Basic

/-! # Waiting for a child

A loop that waits for a child sees one poll after each draining that returns. What it does is
determined by the first poll that settles how the child ended, and by the first one before it that
finds the child overdue: its group is killed there, once, and nowhere else (`Wait.follows_watch`).
What becomes of a probe follows from the same polls (`Probe.supervised`).
-/

namespace HealthWatch

namespace Wait

open Capture

/-- How a child has ended that gives this result, if it has, or that this cannot be observed. -/
def Result.ending? : Result → Option Ending
  | .exited code => some (.code code)
  | .signaled signal => some (.code (128 + signal))
  | .failed reason => some (.unobserved reason)
  | .stillAlive | .other | .interrupted => none

/-- Whether a poll with this result is the last one. -/
def Result.settles (result : Result) : Bool := result.ending?.isSome

/-- Whether a poll finds the child alive after its time is over. -/
def Poll.overdue (timeout : Nat) (poll : Poll) : Bool :=
  poll.result = .stillAlive ∧ timeout ≤ poll.elapsed

/-- Whether a poll settles how the child ended, or finds it overdue. -/
def Poll.decisive (timeout : Nat) (poll : Poll) : Bool :=
  poll.result.settles || poll.overdue timeout

/-- The kill of a child that a poll finds overdue. -/
def Poll.kill (poll : Poll) : Kill := ⟨poll.elapsed, poll.refused⟩

/-- The first poll that settles how the child ended. -/
def settling? (polls : List Poll) : Option Poll := polls.find? fun poll => poll.result.settles

/-- The kill that polls ask for, if the child is found overdue before its end is settled. -/
def killsIn (timeout : Nat) (polls : List Poll) : List Kill :=
  (((polls.find? (·.decisive timeout)).filter (·.overdue timeout)).map Poll.kill).toList

/-- What the loop comes to, by the polls that it has seen. `timedOut` says whether the child has
been killed before. -/
structure Follows (timeout : Nat) (timedOut : Bool) (seen : List Poll) (watched : Watched) :
    Prop where
  ending : watched.ending = ((settling? seen).bind (·.result.ending?)).getD .running
  kills : watched.kills = if timedOut then [] else killsIn timeout seen
  timedOut : watched.timedOut = (timedOut || !(killsIn timeout seen).isEmpty)

variable {timeout limit : Nat} {timedOut : Bool} {poll : Poll} {rest : List Poll}

/-- At a poll that settles how the child ended, the waiting is over. -/
theorem react_of_ending {ending : Ending} (ends : poll.result.ending? = some ending) :
    react timeout timedOut poll = .stop ending := by
  unfold react
  cases same : poll.result <;> rw [same] at ends <;> cases ends <;> rfl

/-- At the first poll that finds the child overdue, it is killed. -/
theorem react_of_overdue (overdue : poll.overdue timeout = true) :
    react timeout false poll = .kill poll.kill := by
  obtain ⟨alive, late⟩ := of_decide_eq_true overdue
  rw [react, alive]
  simp only [Bool.not_false, Bool.true_and, decide_eq_true_eq, if_pos late, Poll.kill]

/-- At any other poll the waiting goes on. -/
theorem react_of_unsettled (unsettled : poll.result.ending? = none)
    (spared : timedOut = true ∨ poll.overdue timeout = false) :
    react timeout timedOut poll = .goOn := by
  unfold react
  cases same : poll.result with
  | stillAlive =>
      dsimp only
      rw [if_neg]
      rintro late
      rw [Bool.and_eq_true, decide_eq_true_eq] at late
      rcases spared with killed | early
      · rw [killed] at late
        cases late.1
      · exact of_decide_eq_false early ⟨same, late.2⟩
  | exited code => rw [same] at unsettled; cases unsettled
  | signaled signal => rw [same] at unsettled; cases unsettled
  | other => rfl
  | interrupted => rfl
  | failed reason => rw [same] at unsettled; cases unsettled

section Cons

theorem settling?_of_ending (ends : poll.result.ending?.isSome = true) :
    settling? (poll :: rest) = some poll :=
  List.find?_cons_of_pos ends

/-- A poll that settles nothing is passed over. -/
theorem settling?_of_unsettled (unsettled : poll.result.ending? = none) :
    settling? (poll :: rest) = settling? rest := by
  apply List.find?_cons_of_neg
  rw [Result.settles, unsettled]
  decide

/-- A child that is found overdue has not ended. -/
theorem ending?_of_overdue (overdue : poll.overdue timeout = true) :
    poll.result.ending? = none := by
  rw [(of_decide_eq_true overdue).1]
  rfl

/-- There is no kill once the child has ended. -/
theorem killsIn_of_ending (ends : poll.result.ending?.isSome = true) :
    killsIn timeout (poll :: rest) = [] := by
  have early : poll.overdue timeout = false := by
    rw [← Bool.not_eq_true]
    intro overdue
    rw [ending?_of_overdue overdue] at ends
    cases ends
  have decisive : poll.decisive timeout = true := Bool.or_eq_true_iff.mpr (.inl ends)
  rw [killsIn, List.find?_cons_of_pos decisive, Option.filter_some_neg early]
  rfl

/-- A child that is found overdue is killed there and not again. -/
theorem killsIn_of_overdue (overdue : poll.overdue timeout = true) :
    killsIn timeout (poll :: rest) = [poll.kill] := by
  have decisive : poll.decisive timeout = true := Bool.or_eq_true_iff.mpr (.inr overdue)
  rw [killsIn, List.find?_cons_of_pos decisive, Option.filter_some_pos overdue]
  rfl

/-- A poll that finds the child in time asks for no kill. -/
theorem killsIn_of_early (unsettled : poll.result.ending? = none)
    (early : poll.overdue timeout = false) :
    killsIn timeout (poll :: rest) = killsIn timeout rest := by
  rw [killsIn, List.find?_cons_of_neg]
  · rfl
  · rw [Poll.decisive, Result.settles, unsettled, early]
    decide

end Cons

namespace Follows

variable {seen : List Poll} {watched : Watched} {captured : Bytes} {unread : List ReadResult}

/-- Before the first poll the child runs. -/
theorem start (timeout : Nat) (timedOut : Bool) (captured : Bytes) (unread : List ReadResult) :
    Follows timeout timedOut [] ⟨.running, timedOut, [], captured, unread⟩ where
  ending := rfl
  kills := (ite_self _).symm
  timedOut := (Bool.or_false _).symm

/-- The waiting ends as the poll says. -/
theorem stop {ending : Ending} (ends : poll.result.ending? = some ending) :
    Follows timeout timedOut (poll :: seen) ⟨ending, timedOut, [], captured, unread⟩ := by
  have settled : poll.result.ending?.isSome = true := by
    rw [ends]
    rfl
  have none : killsIn timeout (poll :: seen) = [] := killsIn_of_ending settled
  constructor
  · rw [settling?_of_ending settled, Option.bind_some, ends]
    rfl
  · rw [none, ite_self]
  · rw [none]
    exact (Bool.or_false _).symm

/-- A poll that changes nothing can be left out. -/
theorem goOn (follows : Follows timeout timedOut seen watched)
    (unsettled : poll.result.ending? = none)
    (spared : timedOut = true ∨ poll.overdue timeout = false) :
    Follows timeout timedOut (poll :: seen) watched := by
  have same : settling? (poll :: seen) = settling? seen := settling?_of_unsettled unsettled
  rcases spared with rfl | early
  · refine ⟨by rw [same]; exact follows.ending, follows.kills, ?_⟩
    rw [follows.timedOut, Bool.true_or, Bool.true_or]
  · have kills : killsIn timeout (poll :: seen) = killsIn timeout seen :=
      killsIn_of_early unsettled early
    exact ⟨by rw [same]; exact follows.ending, by rw [kills]; exact follows.kills,
      by rw [kills]; exact follows.timedOut⟩

/-- A kill is noted in front of what follows, and none follows. -/
theorem kill (follows : Follows timeout true seen watched)
    (overdue : poll.overdue timeout = true) :
    Follows timeout false (poll :: seen) { watched with kills := poll.kill :: watched.kills } := by
  have kills : killsIn timeout (poll :: seen) = [poll.kill] := killsIn_of_overdue overdue
  have none : watched.kills = [] := follows.kills
  constructor
  · rw [settling?_of_unsettled (ending?_of_overdue overdue)]
    exact follows.ending
  · rw [kills, none]
    rfl
  · rw [kills]
    exact follows.timedOut

end Follows

section Watch

variable {captured kept : Bytes} {reads left : List ReadResult}

/-- As long as a draining goes on, the loop does nothing else. -/
theorem watch_of_blocked (blocked : reads.countP ReadResult.stops = 0) (polls : List Poll) :
    watch timeout limit captured timedOut reads polls =
      ⟨.running, timedOut, [], (drain limit captured reads).1, []⟩ := by
  have none : (drain limit captured reads).2 = none := drain_eq_none_iff.mpr blocked
  cases drained : drain limit captured reads with
  | mk kept left =>
      rw [drained] at none
      cases none
      cases polls with
      | nil => simp only [watch, drained, Option.getD_none]
      | cons poll rest => simp only [watch, drained]

theorem watch_of_goOn (drained : drain limit captured reads = (kept, some left))
    (reaction : react timeout timedOut poll = .goOn) :
    watch timeout limit captured timedOut reads (poll :: rest) =
      watch timeout limit kept timedOut left rest := by
  simp only [watch, drained, reaction]

theorem watch_of_kill {kill : Kill} (drained : drain limit captured reads = (kept, some left))
    (reaction : react timeout timedOut poll = .kill kill) :
    watch timeout limit captured timedOut reads (poll :: rest) =
      { watch timeout limit kept true left rest with
        kills := kill :: (watch timeout limit kept true left rest).kills } := by
  simp only [watch, drained, reaction]

theorem watch_of_stop {ending : Ending}
    (drained : drain limit captured reads = (kept, some left))
    (reaction : react timeout timedOut poll = .stop ending) :
    watch timeout limit captured timedOut reads (poll :: rest) =
      ⟨ending, timedOut, [], kept, left⟩ := by
  simp only [watch, drained, reaction]

/-- The loop follows the polls that it has seen. -/
theorem follows_watch (polls : List Poll) (captured : Bytes) (timedOut : Bool)
    (reads : List ReadResult) :
    Follows timeout timedOut (polls.take (reads.countP ReadResult.stops))
      (watch timeout limit captured timedOut reads polls) := by
  induction polls generalizing captured timedOut reads with
  | nil =>
      rw [List.take_nil, watch]
      exact .start ..
  | cons poll rest further =>
      rcases drained : drain limit captured reads with ⟨kept, none | left⟩
      · have blocked := drain_eq_none_iff.mp (congrArg Prod.snd drained)
        rw [watch_of_blocked blocked, blocked, List.take_zero]
        exact .start ..
      · rw [countP_of_drain drained, List.take_succ_cons]
        cases ends : poll.result.ending? with
        | some ending =>
            rw [watch_of_stop drained (react_of_ending ends)]
            exact .stop ends
        | none =>
            by_cases due : timedOut = false ∧ poll.overdue timeout = true
            · obtain ⟨rfl, overdue⟩ := due
              rw [watch_of_kill drained (react_of_overdue overdue)]
              exact (further kept true left).kill overdue
            · have spared : timedOut = true ∨ poll.overdue timeout = false := by
                rw [not_and_or, Bool.not_eq_false, Bool.not_eq_true] at due
                exact due
              rw [watch_of_goOn drained (react_of_unsettled ends spared)]
              exact (further kept timedOut left).goOn ends spared

/-- With one draining more than there are polls, the last one returns as well. -/
theorem drain_of_ended {polls : List Poll} (enough : polls.length < reads.countP ReadResult.stops)
    (ended : (watch timeout limit captured timedOut reads polls).ending ≠ .running) :
    (drain limit (watch timeout limit captured timedOut reads polls).captured
      (watch timeout limit captured timedOut reads polls).unread).2.isSome = true := by
  induction polls generalizing captured timedOut reads with
  | nil => exact absurd rfl ended
  | cons poll rest further =>
      rcases drained : drain limit captured reads with ⟨kept, none | left⟩
      · have blocked := drain_eq_none_iff.mp (congrArg Prod.snd drained)
        rw [watch_of_blocked blocked] at ended
        exact absurd rfl ended
      · rw [countP_of_drain drained, List.length_cons, Nat.add_lt_add_iff_right] at enough
        cases reaction : react timeout timedOut poll with
        | goOn =>
            rw [watch_of_goOn drained reaction] at ended ⊢
            exact further enough ended
        | kill kill =>
            rw [watch_of_kill drained reaction] at ended ⊢
            exact further enough ended
        | stop ending =>
            rw [watch_of_stop drained reaction, Option.isSome_iff_ne_none, Ne, drain_eq_none_iff]
            exact Nat.ne_zero_of_lt enough

end Watch

/-- A poll finds the child overdue, and those before it neither did so nor settled how it ended. -/
structure FindsOverdue (timeout : Nat) (polls before : List Poll) (poll : Poll) : Prop where
  split : ∃ after, polls = before ++ poll :: after
  early : ∀ other ∈ before, other.overdue timeout = false
  unsettled : ∀ other ∈ before, other.result.settles = false
  overdue : poll.overdue timeout = true

/-- What the loop does, by the polls that it has seen. -/
structure Accounts (timeout : Nat) (seen : List Poll) (watched : Watched) : Prop where
  once : watched.kills.length ≤ 1
  /-- The child is killed at the first poll that finds it overdue, unless it has ended before. -/
  kill : ∀ kill, kill ∈ watched.kills ↔
    ∃ before poll, FindsOverdue timeout seen before poll ∧ kill = poll.kill
  late : ∀ kill ∈ watched.kills, timeout ≤ kill.elapsed
  timedOut : watched.timedOut = true ↔ watched.kills ≠ []
  running : watched.ending = .running ↔ ∀ poll ∈ seen, poll.result.settles = false
  exited : ∀ code, (settling? seen).map Poll.result = some (.exited code) →
    watched.ending = .code code
  signaled : ∀ signal, (settling? seen).map Poll.result = some (.signaled signal) →
    watched.ending = .code (128 + signal)
  failed : ∀ reason, (settling? seen).map Poll.result = some (.failed reason) →
    watched.ending = .unobserved reason

section Accounts

variable {seen : List Poll} {watched : Watched} {kill : Kill}

/-- The child is killed exactly at the poll that first finds it overdue, before its end is
settled. -/
theorem mem_killsIn : kill ∈ killsIn timeout seen ↔
    ∃ before poll, FindsOverdue timeout seen before poll ∧ kill = poll.kill := by
  rw [killsIn, Option.mem_toList, Option.map_eq_some_iff]
  simp only [Option.filter_eq_some_iff, List.find?_eq_some_iff_append, Bool.not_eq_true']
  constructor
  · rintro ⟨poll, ⟨⟨-, before, after, split, quiet⟩, overdue⟩, rfl⟩
    have spared : ∀ other ∈ before, other.result.settles = false ∧ other.overdue timeout = false :=
      fun other mem => Bool.or_eq_false_iff.mp (quiet other mem)
    exact ⟨before, poll, ⟨⟨after, split⟩, fun other mem => (spared other mem).2,
      fun other mem => (spared other mem).1, overdue⟩, rfl⟩
  · rintro ⟨before, poll, ⟨⟨after, split⟩, early, unsettled, overdue⟩, rfl⟩
    have decisive : poll.decisive timeout = true := Bool.or_eq_true_iff.mpr (.inr overdue)
    have quiet : ∀ other ∈ before, other.decisive timeout = false :=
      fun other mem => Bool.or_eq_false_iff.mpr ⟨unsettled other mem, early other mem⟩
    exact ⟨poll, ⟨⟨decisive, before, after, split, quiet⟩, overdue⟩, rfl⟩

/-- The child is killed at most once. -/
theorem length_killsIn_le (timeout : Nat) (seen : List Poll) :
    (killsIn timeout seen).length ≤ 1 :=
  Option.length_toList_le

theorem ending?_ne_running (result : Result) : result.ending? ≠ some .running := by
  cases result <;> rintro ⟨⟩

/-- Only an exit with the code zero gives this code. -/
theorem eq_exited_of_ending? {result : Result} (ends : result.ending? = some (.code 0)) :
    result = .exited 0 := by
  cases result with
  | exited code => cases ends; rfl
  | signaled signal =>
      have zero : (128 + signal : Int) = 0 := Ending.code.inj (Option.some.inj ends)
      omega
  | failed | stillAlive | other | interrupted => cases ends

theorem exists_ending? (found : settling? seen = some poll) :
    ∃ ending, poll.result.ending? = some ending :=
  Option.isSome_iff_exists.mp (List.find?_eq_some_iff_append.mp found).1

/-- The child has ended as the first settling poll says. -/
theorem Follows.ending_of_settling {timedOut : Bool} {result : Result} {ending : Ending}
    (follows : Follows timeout timedOut seen watched)
    (last : (settling? seen).map Poll.result = some result) (ends : result.ending? = some ending) :
    watched.ending = ending := by
  obtain ⟨poll, found, rfl⟩ := Option.map_eq_some_iff.mp last
  rw [follows.ending, found, Option.bind_some, ends]
  rfl

/-- Without a settling poll the child is running. -/
theorem Follows.ending_of_none {timedOut : Bool} (follows : Follows timeout timedOut seen watched)
    (none : settling? seen = none) : watched.ending = .running := by
  rw [follows.ending, none]
  rfl

/-- The child counts as running exactly when no poll settled how it ended. -/
theorem Follows.running_iff {timedOut : Bool} (follows : Follows timeout timedOut seen watched) :
    watched.ending = .running ↔ ∀ poll ∈ seen, poll.result.settles = false := by
  constructor
  · intro running
    cases found : settling? seen with
    | none => exact fun poll mem => Bool.eq_false_iff.mpr (List.find?_eq_none.mp found poll mem)
    | some poll =>
        obtain ⟨ending, ends⟩ := exists_ending? found
        have same := follows.ending_of_settling (congrArg (Option.map Poll.result) found) ends
        rw [← same, running] at ends
        exact absurd ends (ending?_ne_running poll.result)
  · intro quiet
    refine follows.ending_of_none (List.find?_eq_none.mpr fun poll mem => ?_)
    exact Bool.eq_false_iff.mp (quiet poll mem)

/-- A child has ended with the code zero only by exiting with it. -/
theorem Follows.ending_eq_zero_iff {timedOut : Bool}
    (follows : Follows timeout timedOut seen watched) :
    watched.ending = .code 0 ↔ (settling? seen).map Poll.result = some (.exited 0) := by
  refine ⟨fun zero => ?_, fun last => follows.ending_of_settling last rfl⟩
  cases found : settling? seen with
  | none =>
      rw [follows.ending_of_none found] at zero
      cases zero
  | some poll =>
      obtain ⟨ending, ends⟩ := exists_ending? found
      have same := follows.ending_of_settling (congrArg (Option.map Poll.result) found) ends
      rw [← same, zero] at ends
      exact congrArg some (eq_exited_of_ending? ends)

/-- All that the loop does is accounted for by its polls. -/
theorem Follows.accounts (follows : Follows timeout false seen watched) :
    Accounts timeout seen watched := by
  have kills : watched.kills = killsIn timeout seen := follows.kills
  constructor
  case once =>
    rw [kills]
    exact length_killsIn_le timeout seen
  case kill =>
    intro kill
    rw [kills]
    exact mem_killsIn
  case late =>
    intro kill mem
    rw [kills, mem_killsIn] at mem
    obtain ⟨before, poll, finds, rfl⟩ := mem
    exact (of_decide_eq_true finds.overdue).2
  case timedOut =>
    rw [follows.timedOut, kills, Bool.false_or, Bool.not_eq_true', List.isEmpty_eq_false_iff]
  case running => exact follows.running_iff
  case exited => exact fun code last => follows.ending_of_settling last rfl
  case signaled => exact fun signal last => follows.ending_of_settling last rfl
  case failed => exact fun reason last => follows.ending_of_settling last rfl

end Accounts

end Wait

namespace Probe

open Capture Wait

/-- What becomes of a probe, by the polls of it, when every draining returns. -/
structure Concludes (polls : List Poll) (killed : Bool) (result : Option (Except ProbeFault Run)) :
    Prop where
  running : (∀ poll ∈ polls, poll.result.settles = false) → result = none
  exited : ∀ code, (settling? polls).map Poll.result = some (.exited code) →
    ∃ stderr, result = some (.ok ⟨code, stderr, killed⟩)
  signaled : ∀ signal, (settling? polls).map Poll.result = some (.signaled signal) →
    ∃ stderr, result = some (.ok ⟨128 + signal, stderr, killed⟩)
  failed : ∀ reason, (settling? polls).map Poll.result = some (.failed reason) →
    result = some (.error (.unobserved reason))
  passes : (∃ outcome, result.map outcomeOf = some outcome ∧ outcome.passed = true) ↔
    (settling? polls).map Poll.result = some (.exited 0)

/-- What waiting for a child comes to before its standard error is drained for the last time. -/
def watched (timeout limit : Nat) (course : Course) : Watched :=
  watch timeout limit [] false course.reads course.polls

section Concludes

variable {timeout limit : Nat} {course : Course}

/-- When the child has ended with a code, waiting for it gives that code. -/
theorem await_of_code {code : Int}
    (enough : course.polls.length < course.reads.countP ReadResult.stops)
    (ended : (watched timeout limit course).ending = .code code) :
    ∃ stderr, await timeout limit course =
      some (.ok ⟨code, stderr, (watched timeout limit course).timedOut⟩) := by
  have returns : (drain limit (watched timeout limit course).captured
      (watched timeout limit course).unread).2.isSome = true := by
    apply drain_of_ended enough
    rw [watched] at ended
    rw [ended]
    exact Ending.noConfusion
  rw [watched] at returns ended ⊢
  simp only [await, ended]
  rcases drained : drain limit _ _ with ⟨stderr, none | left⟩
  · rw [drained] at returns
    cases returns
  · exact ⟨stderr, rfl⟩

/-- When the end of the child cannot be observed, waiting for it gives the reason. -/
theorem await_of_unobserved {reason : String}
    (ended : (watched timeout limit course).ending = .unobserved reason) :
    await timeout limit course = some (.error (.unobserved reason)) := by
  rw [watched] at ended
  simp only [await, ended]

/-- As long as the child is running, waiting for it gives nothing. -/
theorem await_of_running (ended : (watched timeout limit course).ending = .running) :
    await timeout limit course = none := by
  rw [watched] at ended
  simp only [await, ended]

/-- A probe passes exactly when it ended with code 0, killed or not. -/
theorem passed_iff (enough : course.polls.length < course.reads.countP ReadResult.stops) :
    (∃ outcome, (await timeout limit course).map outcomeOf = some outcome ∧
        outcome.passed = true) ↔
      (watched timeout limit course).ending = .code 0 := by
  cases ended : (watched timeout limit course).ending with
  | code code =>
      obtain ⟨stderr, concluded⟩ := await_of_code enough ended
      rw [concluded]
      constructor
      · rintro ⟨outcome, told, passed⟩
        cases told
        cases Outcome.passed_eq_true_iff.mp passed
        rfl
      · rintro ⟨⟩
        exact ⟨.completed 0, rfl, rfl⟩
  | unobserved reason =>
      rw [await_of_unobserved ended]
      constructor
      · rintro ⟨outcome, told, passed⟩
        cases told
        cases passed
      · rintro ⟨⟩
  | running =>
      rw [await_of_running ended]
      constructor
      · rintro ⟨outcome, told, -⟩
        cases told
      · rintro ⟨⟩

/-- When there is a draining for each poll, the loop follows all of them. -/
theorem follows_watched (enough : course.polls.length ≤ course.reads.countP ReadResult.stops) :
    Follows timeout false course.polls (watched timeout limit course) := by
  have follows : Follows timeout false _ (watched timeout limit course) :=
    follows_watch course.polls [] false course.reads
  rw [List.take_of_length_le enough] at follows
  exact follows

/-- When every draining returns, the polls decide what becomes of a probe. -/
theorem concludes (enough : course.polls.length < course.reads.countP ReadResult.stops) :
    Concludes course.polls (watched timeout limit course).timedOut
      (await timeout limit course) := by
  have follows : Follows timeout false course.polls (watched timeout limit course) :=
    follows_watched (Nat.le_of_lt enough)
  constructor
  case running =>
    intro quiet
    exact await_of_running (follows.running_iff.mpr quiet)
  case exited =>
    intro code last
    exact await_of_code enough (follows.ending_of_settling last rfl)
  case signaled =>
    intro signal last
    exact await_of_code enough (follows.ending_of_settling last rfl)
  case failed =>
    intro reason last
    exact await_of_unobserved (follows.ending_of_settling last rfl)
  case passes => exact (passed_iff enough).trans follows.ending_eq_zero_iff

/-- **The watch over a probe.** Whatever the reads and the polls of it give, the loop sees one poll
after each draining that returns. It kills the group of the probe at most once, which is at the
first of these polls that finds it alive when its time is over, and never after its end has been
seen; a kill is what it is timed out by. Nothing but an exit, a death by a signal or a failed poll
ends the loop. When there is a draining for each poll and one more, the probe comes to what the
first of these polls says, and has passed exactly when that is an exit with the code zero. -/
theorem supervised (timeout limit : Nat) (course : Course) :
    Accounts timeout (course.polls.take (course.reads.countP ReadResult.stops))
        (watched timeout limit course) ∧
      (course.polls.length < course.reads.countP ReadResult.stops →
        Concludes course.polls (watched timeout limit course).timedOut
          (await timeout limit course)) :=
  ⟨(follows_watch course.polls [] false course.reads).accounts, concludes⟩

/-- The first poll after its time is over finds a probe interrupted, the next one alive, and its
group cannot be killed. -/
def stubborn : Course where
  reads := [.wouldBlock, .data [0x79], .interrupted, .wouldBlock, .wouldBlock, .wouldBlock,
    .endOfFile]
  polls := [⟨0, .stillAlive, false⟩, ⟨1000, .interrupted, false⟩, ⟨1001, .stillAlive, true⟩,
    ⟨1011, .signaled 9, false⟩]

/-- A probe whose group cannot be killed is killed itself, and completes with 137. -/
theorem stubborn_killed :
    ⟨1001, true⟩ ∈ (watched 1000 8 stubborn).kills ∧
      ∃ stderr, await 1000 8 stubborn =
        some (.ok ⟨137, stderr, (watched 1000 8 stubborn).timedOut⟩) := by
  obtain ⟨accounts, concludes⟩ := supervised 1000 8 stubborn
  refine ⟨(accounts.kill _).mpr ?_, (concludes (by decide)).signaled 9 rfl⟩
  exact ⟨stubborn.polls.take 2, ⟨1001, .stillAlive, true⟩,
    ⟨⟨stubborn.polls.drop 3, rfl⟩, by decide, by decide, rfl⟩, rfl⟩

end Concludes

end Probe

end HealthWatch
