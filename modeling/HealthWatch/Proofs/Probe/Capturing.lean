import HealthWatch.Proofs.Probe.Waiting

/-! # What is kept of a standard error

The standard error of a probe is drained many times, and each draining goes on with what the ones
before it have kept. Whatever the reads give and however they are spread over the drainings, the
bytes kept are at every moment the first ones of all that was read, as many as the limit allows
(`Capture.drains_take`). Each draining empties the pipe, even when nothing more is kept
(`Capture.drains_emptied`). So it is for the loop that waits for a probe and for the run that comes
of it (`Probe.captures`).
-/

namespace HealthWatch

namespace Capture

/-- The bytes that a read gives. -/
def ReadResult.bytes : ReadResult → Bytes
  | .data chunk => chunk
  | .endOfFile | .interrupted | .wouldBlock | .failed => []

/-- The bytes that some reads give, one after the other. -/
def bytesIn (reads : List ReadResult) : Bytes := reads.flatMap ReadResult.bytes

/-- Several drainings. What one of them keeps and leaves over is what the next one begins with; one
that goes on is the last. -/
def drains (limit : Nat) : Nat → Bytes → List ReadResult → Bytes × Option (List ReadResult)
  | 0, captured, reads => (captured, some reads)
  | calls + 1, captured, reads =>
      match drain limit captured reads with
      | (captured, some left) => drains limit calls captured left
      | (captured, none) => (captured, none)

/-- Three drainings of a pipe, of which the second meets the limit in the middle of a chunk. -/
example :
    drains 4 3 []
        [.data [1, 2], .interrupted, .data [3], .wouldBlock, .data [4, 5], .data [6], .wouldBlock,
          .interrupted, .data [7]] =
      ([1, 2, 3, 4], none) := rfl

variable {limit : Nat} {captured kept all : Bytes} {read : ReadResult}
  {reads left : List ReadResult}

theorem bytesIn_cons (read : ReadResult) (reads : List ReadResult) :
    bytesIn (read :: reads) = read.bytes ++ bytesIn reads := List.flatMap_cons

theorem bytesIn_append (reads more : List ReadResult) :
    bytesIn (reads ++ more) = bytesIn reads ++ bytesIn more := List.flatMap_append

/-! ## One read -/

/-- Keeping the first bytes of a chunk behind the first bytes so far keeps the first bytes of
both. -/
theorem keep_take (limit : Nat) (all chunk : Bytes) :
    keep limit (all.take limit) chunk = (all ++ chunk).take limit := by
  have room : limit - (all.take limit).length = limit - all.length := by
    rw [List.length_take]
    omega
  rw [keep, room, List.take_append]

/-- After one more read the first bytes of all that was read are kept. -/
theorem added_take (limit : Nat) (all : Bytes) (read : ReadResult) :
    read.added limit (all.take limit) = (all ++ read.bytes).take limit := by
  cases read with
  | data chunk => exact keep_take limit all chunk
  | endOfFile | interrupted | wouldBlock | failed =>
      rw [ReadResult.bytes, List.append_nil]
      rfl

/-- Nothing is added once the limit is reached. -/
theorem added_of_full (full : limit ≤ captured.length) : read.added limit captured = captured := by
  cases read with
  | data chunk =>
      have none : limit - captured.length = 0 := Nat.sub_eq_zero_of_le full
      change captured ++ chunk.take (limit - captured.length) = captured
      rw [none, List.take_zero, List.append_nil]
  | endOfFile | interrupted | wouldBlock | failed => rfl

/-- A read that stops a draining gives no bytes. -/
theorem bytes_of_stops (stops : read.stops = true) : read.bytes = [] := by
  cases read with
  | data chunk => cases stops
  | endOfFile | interrupted | wouldBlock | failed => rfl

/-! ## One draining -/

/-- Some of the reads have been made and the others are left, and what is kept are the first bytes
of those that were read. -/
def Keeps (limit : Nat) (all : Bytes) (reads : List ReadResult)
    (drained : Bytes × Option (List ReadResult)) : Prop :=
  ∃ made, reads = made ++ drained.2.getD [] ∧ drained.1 = (all ++ bytesIn made).take limit

/-- What some drainings leave over, each of which reads up to the first result that stops it. Either
all of them have been stopped, the last by the last read that was made, or everything has been read
and one of them goes on. -/
inductive Emptied (calls : Nat) (reads : List ReadResult) : Option (List ReadResult) → Prop
  | returned {made left : List ReadResult} (split : reads = made ++ left)
      (stopped : made.countP ReadResult.stops = calls)
      (last : ∀ read ∈ made.getLast?, read.stops = true) : Emptied calls reads (some left)
  | blocked (few : reads.countP ReadResult.stops < calls) : Emptied calls reads none

/-- A draining keeps the first bytes of all that was read, from the start of the probe on. -/
theorem drain_take (limit : Nat) (all : Bytes) (reads : List ReadResult) :
    Keeps limit all reads (drain limit (all.take limit) reads) := by
  induction reads generalizing all with
  | nil =>
      refine ⟨[], rfl, ?_⟩
      rw [bytesIn, List.flatMap_nil, List.append_nil]
      rfl
  | cons read reads ih =>
      rw [drain_cons]
      cases stops : read.stops with
      | true =>
          refine ⟨[read], rfl, ?_⟩
          rw [bytesIn_cons, bytes_of_stops stops, bytesIn, List.flatMap_nil, List.append_nil,
            List.append_nil]
          rfl
      | false =>
          obtain ⟨made, same, kept⟩ := ih (all ++ read.bytes)
          rw [← added_take] at same kept
          refine ⟨read :: made, congrArg (List.cons read) same, ?_⟩
          rw [bytesIn_cons, ← List.append_assoc]
          exact kept

/-- A draining reads up to the first result that stops it, whatever the limit is and however much
has been kept. -/
theorem drain_emptied (limit : Nat) (captured : Bytes) (reads : List ReadResult) :
    Emptied 1 reads (drain limit captured reads).2 := by
  induction reads generalizing captured with
  | nil => exact .blocked Nat.one_pos
  | cons read reads ih =>
      rw [drain_cons]
      cases stops : read.stops with
      | true =>
          rw [if_pos rfl]
          refine .returned (List.singleton_append).symm ?_ ?_
          · rw [List.countP_singleton, if_pos stops]
          · rintro _ ⟨⟩
            exact stops
      | false =>
          have unstopped : ¬read.stops = true := Bool.eq_false_iff.mp stops
          have rest := ih (read.added limit captured)
          rw [if_neg Bool.false_ne_true]
          generalize (drain limit (read.added limit captured) reads).2 = left at rest ⊢
          cases rest with
          | @returned made left split stopped last =>
              have whole : read :: reads = (read :: made) ++ left := congrArg (List.cons read) split
              refine .returned whole ?_ ?_
              · rw [List.countP_cons_of_neg unstopped, stopped]
              · cases made with
                | nil => cases stopped
                | cons first made => exact last
          | blocked few =>
              apply Emptied.blocked
              rwa [List.countP_cons_of_neg unstopped]

/-- A draining that begins at the limit keeps what there is. -/
theorem drain_of_full (full : limit ≤ captured.length) (reads : List ReadResult) :
    (drain limit captured reads).1 = captured := by
  induction reads with
  | nil => rfl
  | cons read reads ih =>
      rw [drain_cons, added_of_full full]
      cases read.stops with
      | true => rfl
      | false => exact ih

/-! ## Several drainings -/

theorem drains_of_returned (drained : drain limit captured reads = (kept, some left))
    (calls : Nat) : drains limit (calls + 1) captured reads = drains limit calls kept left := by
  rw [drains, drained]

theorem drains_of_blocked (drained : drain limit captured reads = (kept, none)) (calls : Nat) :
    drains limit (calls + 1) captured reads = (kept, none) := by
  rw [drains, drained]

/-- After some drainings the last of which has returned, one more goes on from where they are. -/
theorem drains_succ {calls : Nat}
    (drained : drains limit calls captured reads = (kept, some left)) :
    drains limit (calls + 1) captured reads = drain limit kept left := by
  induction calls generalizing captured reads with
  | zero =>
      cases drained
      unfold drains
      rcases drain limit kept left with ⟨last, _ | after⟩ <;> rfl
  | succ calls ih =>
      rcases first : drain limit captured reads with ⟨middle, _ | after⟩
      · rw [drains_of_blocked first] at drained
        cases drained
      · rw [drains_of_returned first] at drained ⊢
        exact ih drained

/-- Several drainings keep the first bytes of all that was read. -/
theorem drains_take (limit calls : Nat) (all : Bytes) (reads : List ReadResult) :
    Keeps limit all reads (drains limit calls (all.take limit) reads) := by
  -- Each draining keeps on what the reads of those before it have given, which is `all`.
  induction calls generalizing all reads with
  | zero =>
      refine ⟨[], rfl, ?_⟩
      rw [bytesIn, List.flatMap_nil, List.append_nil]
      rfl
  | succ calls ih =>
      obtain ⟨made, same, kept⟩ := drain_take limit all reads
      rcases drained : drain limit (all.take limit) reads with ⟨middle, _ | left⟩
      · rw [drained] at same kept
        rw [drains_of_blocked drained]
        exact ⟨made, same, kept⟩
      · rw [drained] at same kept
        have goesOn : middle = (all ++ bytesIn made).take limit := kept
        rw [drains_of_returned drained, goesOn]
        obtain ⟨more, rest, last⟩ := ih (all ++ bytesIn made) left
        refine ⟨made ++ more, ?_, ?_⟩
        · rw [List.append_assoc, ← rest]
          exact same
        · rw [bytesIn_append, ← List.append_assoc]
          exact last

/-- Each draining reads up to the first result that stops it, whether or not the limit is
reached. -/
theorem drains_emptied (limit calls : Nat) (captured : Bytes) (reads : List ReadResult) :
    Emptied calls reads (drains limit calls captured reads).2 := by
  induction calls generalizing captured reads with
  | zero => exact .returned (List.nil_append reads).symm List.countP_nil nofun
  | succ calls ih =>
      have first := drain_emptied limit captured reads
      rcases drained : drain limit captured reads with ⟨kept, _ | left⟩
      · rw [drained] at first
        rw [drains_of_blocked drained]
        cases first with
        | blocked few => exact .blocked (Nat.lt_of_lt_of_le few (Nat.le_add_left 1 calls))
      · rw [drained] at first
        rw [drains_of_returned drained]
        have others := ih kept left
        generalize (drains limit calls kept left).2 = rest at others ⊢
        cases first with
        | @returned first _ split stopped last =>
            cases others with
            | @returned second rest further more lasts =>
                have whole : reads = (first ++ second) ++ rest := by
                  rw [split, further, List.append_assoc]
                refine .returned whole ?_ ?_
                · rw [List.countP_append, stopped, more, Nat.add_comm]
                · intro read member
                  rw [List.getLast?_append, Option.mem_def, Option.or_eq_some_iff] at member
                  rcases member with member | ⟨-, member⟩
                  · exact lasts read member
                  · exact last read member
            | blocked few =>
                apply Emptied.blocked
                rw [split, List.countP_append, stopped]
                omega

/-- Drainings that begin at the limit keep what there is. -/
theorem drains_of_full (full : limit ≤ captured.length) (calls : Nat) (reads : List ReadResult) :
    (drains limit calls captured reads).1 = captured := by
  induction calls generalizing reads with
  | zero => rfl
  | succ calls ih =>
      have same := drain_of_full full reads
      rcases drained : drain limit captured reads with ⟨kept, _ | left⟩
      · rw [drained] at same
        rw [drains_of_blocked drained]
        exact same
      · rw [drained] at same
        cases same
        rw [drains_of_returned drained]
        exact ih left

/-! ## Interrupted reads -/

/-- Reads that come later are drained only if those before them have not stopped the draining. -/
theorem drain_append (limit : Nat) (captured : Bytes) (first second : List ReadResult) :
    drain limit captured (first ++ second) =
      match drain limit captured first with
      | (kept, some left) => (kept, some (left ++ second))
      | (kept, none) => drain limit kept second := by
  induction first generalizing captured with
  | nil => rfl
  | cons read first ih =>
      rw [List.cons_append, drain_cons, drain_cons]
      cases read.stops with
      | true => rfl
      | false => exact ih (read.added limit captured)

/-- Reads that were interrupted neither change what is kept nor end a draining. -/
theorem drains_interrupted (limit calls : Nat) (captured : Bytes)
    (before after : List ReadResult) :
    (drains limit calls captured (before ++ .interrupted :: after)).1 =
      (drains limit calls captured (before ++ after)).1 := by
  induction calls generalizing captured before with
  | zero => rfl
  | succ calls ih =>
      have here := drain_append limit captured before (.interrupted :: after)
      have there := drain_append limit captured before after
      rcases drained : drain limit captured before with ⟨kept, _ | left⟩
      · -- The draining comes as far as the interrupted read, and goes on behind it.
        rw [drained] at here there
        have same : drain limit captured (before ++ .interrupted :: after) =
            drain limit captured (before ++ after) := here.trans there.symm
        rw [drains, drains, same]
      · rw [drained] at here there
        rw [drains_of_returned here, drains_of_returned there]
        exact ih kept left

end Capture

namespace Wait

open Capture

variable {timeout limit : Nat} {timedOut : Bool} {poll : Poll}

/-- A poll that stops the waiting settles how the child ended. -/
theorem settles_of_stop {ending : Ending} (stops : react timeout timedOut poll = .stop ending) :
    poll.result.settles = true := by
  cases ends : poll.result.ending? with
  | some ending =>
      rw [Result.settles, ends]
      rfl
  | none =>
      by_cases due : timedOut = false ∧ poll.overdue timeout = true
      · rw [due.1, react_of_overdue due.2] at stops
        cases stops
      · rw [not_and_or, Bool.not_eq_false, Bool.not_eq_true] at due
        rw [react_of_unsettled ends due] at stops
        cases stops

/-- A poll that the waiting goes on after settles nothing. -/
theorem settles_of_not_stop (goesOn : ∀ ending, react timeout timedOut poll ≠ .stop ending) :
    poll.result.settles = false := by
  cases ends : poll.result.ending? with
  | none =>
      rw [Result.settles, ends]
      rfl
  | some ending => exact absurd (react_of_ending ends) (goesOn ending)

/-- How many drainings there are before some polls. There is one before each poll up to the first
that settles how the child ended, and one more as long as there is no such poll. -/
def drainings (polls : List Poll) : Nat := polls.findIdx (·.result.settles) + 1

/-- Before a settling poll there is one draining, and none follows. -/
theorem drainings_of_settles {rest : List Poll} (settles : poll.result.settles = true) :
    drainings (poll :: rest) = 1 := by
  rw [drainings, List.findIdx_cons, settles]
  rfl

/-- Before any other poll there is one draining more than before those behind it. -/
theorem drainings_of_unsettled {rest : List Poll} (unsettled : poll.result.settles = false) :
    drainings (poll :: rest) = drainings rest + 1 := by
  rw [drainings, List.findIdx_cons, unsettled]
  rfl

/-- What the loop that waits for a child keeps and leaves unread is what these drainings keep and
leave. -/
theorem exists_drains_watch (timeout limit : Nat) (captured : Bytes) (timedOut : Bool)
    (reads : List ReadResult) (polls : List Poll) :
    ∃ left,
      drains limit (drainings polls) captured reads =
          ((watch timeout limit captured timedOut reads polls).captured, left) ∧
        (watch timeout limit captured timedOut reads polls).unread = left.getD [] ∧
        ((watch timeout limit captured timedOut reads polls).ending ≠ .running →
          left.isSome = true) := by
  induction polls generalizing captured timedOut reads with
  | nil =>
      refine ⟨(drain limit captured reads).2, ?_, rfl, fun ended => absurd rfl ended⟩
      change drains limit 1 captured reads = _
      rcases drained : drain limit captured reads with ⟨kept, _ | left⟩
      · rw [drains_of_blocked drained, watch, drained]
      · rw [drains_of_returned drained, watch, drained]
        rfl
  | cons poll rest ih =>
      rcases drained : drain limit captured reads with ⟨kept, _ | left⟩
      · have blocked := drain_eq_none_iff.mp (congrArg Prod.snd drained)
        refine ⟨none, ?_, ?_, ?_⟩
        · rw [watch_of_blocked blocked, drained]
          exact drains_of_blocked drained _
        · rw [watch_of_blocked blocked]
          rfl
        · rw [watch_of_blocked blocked]
          exact fun ended => absurd rfl ended
      · cases reaction : react timeout timedOut poll with
        | goOn =>
            have unsettled : poll.result.settles = false := by
              apply settles_of_not_stop
              rw [reaction]
              exact fun ending => Reaction.noConfusion
            rw [watch_of_goOn drained reaction, drainings_of_unsettled unsettled,
              drains_of_returned drained]
            exact ih kept timedOut left
        | kill kill =>
            have unsettled : poll.result.settles = false := by
              apply settles_of_not_stop
              rw [reaction]
              exact fun ending => Reaction.noConfusion
            rw [watch_of_kill drained reaction, drainings_of_unsettled unsettled,
              drains_of_returned drained]
            exact ih kept true left
        | stop ending =>
            rw [watch_of_stop drained reaction, drainings_of_settles (settles_of_stop reaction),
              drains_of_returned drained]
            exact ⟨some left, rfl, rfl, fun _ => rfl⟩

end Wait

namespace Probe

open Capture Wait

/-- The standard error of a run is what the drainings before its polls keep, and one more. -/
theorem drains_of_await {timeout limit : Nat} {course : Course} {run : Run}
    (ran : await timeout limit course = some (.ok run)) :
    (drains limit (drainings course.polls + 1) [] course.reads).1 = run.stderr := by
  obtain ⟨left, drained, unread, returned⟩ :=
    exists_drains_watch timeout limit [] false course.reads course.polls
  unfold await at ran
  dsimp only at ran
  split at ran
  · rename_i code ended
    have unsettled := returned (by rw [ended]; exact Ending.noConfusion)
    obtain ⟨after, rfl⟩ := Option.isSome_iff_exists.mp unsettled
    rw [drains_succ drained]
    rw [Option.getD_some] at unread
    rw [unread] at ran
    split at ran
    · rename_i last
      cases ran
      rw [last]
    · cases ran
  · cases ran
  · cases ran

/-- What is kept of a standard error, whatever its reads give. -/
structure Captures (limit : Nat) (reads : List ReadResult) : Prop where
  /-- After any number of drainings, of which the last may still go on, there are kept the first
  bytes of all that was read. -/
  kept : ∀ calls, ∃ made, reads = made ++ (drains limit calls [] reads).2.getD [] ∧
    (drains limit calls [] reads).1 = (bytesIn made).take limit ∧
    (drains limit calls [] reads).1.length = min limit (bytesIn made).length
  /-- An interrupted read changes nothing. -/
  interrupted : ∀ before after, reads = before ++ .interrupted :: after → ∀ calls,
    (drains limit calls [] reads).1 = (drains limit calls [] (before ++ after)).1
  /-- Each draining reads up to the first result that stops it, whatever the limit is and however
  much has been kept already. -/
  emptied : ∀ calls captured, Emptied calls reads (drains limit calls captured reads).2
  full : ∀ calls captured, limit ≤ captured.length →
    (drains limit calls captured reads).1 = captured
  /-- The loop that waits for a probe keeps, and leaves unread, what its drainings do. -/
  watched : ∀ timeout polls, ∃ left,
    drains limit (drainings polls) [] reads =
        ((watched timeout limit ⟨reads, polls⟩).captured, left) ∧
      (watched timeout limit ⟨reads, polls⟩).unread = left.getD []
  run : ∀ timeout polls run, await timeout limit ⟨reads, polls⟩ = some (.ok run) →
    (drains limit (drainings polls + 1) [] reads).1 = run.stderr

/-- **What is kept of a standard error.** At every moment it is the first bytes of all that was read
so far, as many as the limit allows, whatever the reads gave and however they were spread over the
drainings. Each of them empties the pipe, with any limit. -/
theorem captures (limit : Nat) (reads : List ReadResult) : Captures limit reads := by
  refine ⟨?_, ?_, ?_, ?_, ?_, ?_⟩
  · intro calls
    obtain ⟨made, same, kept⟩ := drains_take limit calls [] reads
    rw [List.take_nil] at same kept
    rw [List.nil_append] at kept
    refine ⟨made, same, kept, ?_⟩
    rw [kept, List.length_take]
  · intro before after same calls
    rw [same]
    exact drains_interrupted limit calls [] before after
  · intro calls captured
    exact drains_emptied limit calls captured reads
  · intro calls captured full
    exact drains_of_full full calls reads
  · intro timeout polls
    obtain ⟨left, drained, unread, -⟩ :=
      exists_drains_watch timeout limit [] false reads polls
    exact ⟨left, drained, unread⟩
  · intro timeout polls run ran
    exact drains_of_await ran

end Probe

end HealthWatch
