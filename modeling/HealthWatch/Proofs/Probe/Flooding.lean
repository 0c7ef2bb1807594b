import HealthWatch.Proofs.Probe.Waiting

/-! # Probes that flood their standard error

A draining goes on until a read finds nothing to take, for now or for good. The limit on the bytes
that are kept does not end it, and neither does the time that the probe may run. The loop that
waits for a probe therefore comes back to its polls as often as the reads let it, and no more often:
a probe that writes as fast as it is read is not killed at all (`Probe.yields`,
`Probe.flood_survives`).
-/

namespace HealthWatch

namespace Capture

/-- Whether a read of a pipe can give this result. -/
def ReadResult.Possible : ReadResult → Prop
  | .data chunk => 1 ≤ chunk.length ∧ chunk.length ≤ chunkSize
  | .endOfFile | .interrupted | .wouldBlock | .failed => True

/-- The results of the first reads. -/
def firstReads (reads : Nat → ReadResult) (count : Nat) : List ReadResult :=
  (List.range count).map reads

/-- Whether a draining returns after finitely many reads. -/
def Returns (limit : Nat) (captured : Bytes) (reads : Nat → ReadResult) : Prop :=
  ∃ count, (drain limit captured (firstReads reads count)).2.isSome = true

variable {reads : Nat → ReadResult}

/-- Among the first reads some stop a draining exactly when one at an earlier place does. -/
theorem exists_stops_iff (reads : Nat → ReadResult) (count : Nat) :
    (firstReads reads count).countP ReadResult.stops ≠ 0 ↔
      ∃ place < count, (reads place).stops = true := by
  rw [← Nat.pos_iff_ne_zero, List.countP_pos_iff]
  constructor
  · rintro ⟨read, mem, stops⟩
    obtain ⟨place, early, rfl⟩ := List.mem_map.mp mem
    exact ⟨place, List.mem_range.mp early, stops⟩
  · rintro ⟨place, early, stops⟩
    exact ⟨reads place, List.mem_map.mpr ⟨place, List.mem_range.mpr early, rfl⟩, stops⟩

/-- A draining returns when some read finds nothing to take. -/
theorem returns_iff (limit : Nat) (captured : Bytes) :
    Returns limit captured reads ↔ ∃ place, (reads place).stops = true := by
  constructor
  · rintro ⟨count, returns⟩
    rw [Option.isSome_iff_ne_none, Ne, drain_eq_none_iff] at returns
    obtain ⟨place, -, stops⟩ := (exists_stops_iff reads count).mp returns
    exact ⟨place, stops⟩
  · rintro ⟨place, stops⟩
    refine ⟨place + 1, ?_⟩
    rw [Option.isSome_iff_ne_none, Ne, drain_eq_none_iff]
    exact (exists_stops_iff reads (place + 1)).mpr ⟨place, Nat.lt_succ_self place, stops⟩

/-- No number of first reads stops a draining when none of the reads does. -/
theorem countP_firstReads_of_flood (flood : ∀ place, (reads place).stops = false) (count : Nat) :
    (firstReads reads count).countP ReadResult.stops = 0 := by
  by_contra some
  obtain ⟨place, -, stops⟩ := (exists_stops_iff reads count).mp some
  rw [flood place] at stops
  cases stops

end Capture

namespace Probe

open Capture Wait

variable {timeout limit : Nat} {course : Course}

/-- A probe is killed when a poll finds it overdue first of all, and the drainings before this poll
and the one that leads to it all return. -/
theorem killed_iff :
    (watched timeout limit course).kills ≠ [] ↔
      ∃ before poll, FindsOverdue timeout course.polls before poll ∧
        before.length < course.reads.countP ReadResult.stops := by
  have accounts : Accounts timeout (course.polls.take (course.reads.countP ReadResult.stops))
      (watched timeout limit course) := (follows_watch course.polls [] false course.reads).accounts
  constructor
  · intro killed
    obtain ⟨kill, mem⟩ := List.exists_mem_of_ne_nil _ killed
    obtain ⟨before, poll, ⟨⟨after, seen⟩, early, unsettled, overdue⟩, -⟩ :=
      (accounts.kill kill).mp mem
    refine ⟨before, poll, ⟨⟨after ++ course.polls.drop (course.reads.countP ReadResult.stops), ?_⟩,
      early, unsettled, overdue⟩, ?_⟩
    · rw [← List.cons_append, ← List.append_assoc, ← seen, List.take_append_drop]
    · have length := congrArg List.length seen
      rw [List.length_take, List.length_append, List.length_cons] at length
      omega
  · rintro ⟨before, poll, ⟨⟨after, polls⟩, early, unsettled, overdue⟩, enough⟩
    obtain ⟨more, room⟩ := Nat.exists_eq_add_of_lt enough
    have seen : course.polls.take (course.reads.countP ReadResult.stops) =
        before ++ poll :: after.take more := by
      rw [polls, room, Nat.add_assoc, List.take_length_add_append, List.take_succ_cons]
    exact List.ne_nil_of_mem
      ((accounts.kill poll.kill).mpr
        ⟨before, poll, ⟨⟨after.take more, seen⟩, early, unsettled, overdue⟩, rfl⟩)

/-- While a probe floods its standard error, the loop that waits for it is at its first draining. -/
theorem watched_of_flood {reads : Nat → ReadResult} (timeout limit : Nat)
    (flood : ∀ place, (reads place).stops = false) (polls : List Poll) (count : Nat) :
    watched timeout limit ⟨firstReads reads count, polls⟩ =
      ⟨.running, false, [], (drain limit [] (firstReads reads count)).1, []⟩ :=
  watch_of_blocked (countP_firstReads_of_flood flood count) polls

/-- How an endless sequence of reads lets the loop that waits for a probe come to its polls. -/
structure Yields (timeout limit : Nat) (reads : Nat → ReadResult) : Prop where
  returns : ∀ captured, Returns limit captured reads ↔ ∃ place, (reads place).stops = true
  /-- A probe is killed, sooner or later, if a poll finds it overdue before its end has been seen,
  and for this poll and for each before it there is a read that finds nothing to take. -/
  killed : ∀ polls, (∃ count, (watched timeout limit ⟨firstReads reads count, polls⟩).kills ≠ []) ↔
    ∃ before poll, FindsOverdue timeout polls before poll ∧
      ∃ count, before.length < (firstReads reads count).countP ReadResult.stops
  /-- As long as each read finds something, there is no kill and no end. -/
  flooded : (∀ place, (reads place).stops = false) → ∀ polls count,
    (watched timeout limit ⟨firstReads reads count, polls⟩).kills = [] ∧
      await timeout limit ⟨firstReads reads count, polls⟩ = none

/-- **What a probe is killed in spite of.** For every endless sequence of reads, a draining returns
when some read finds nothing to take, whatever the limit is; and a probe is killed for being overdue
when there are as many such reads as there are polls until it is found overdue. When each read
finds something, neither happens. -/
theorem yields (timeout limit : Nat) (reads : Nat → ReadResult) : Yields timeout limit reads := by
  constructor
  case returns => exact returns_iff limit
  case killed =>
    intro polls
    simp only [killed_iff]
    constructor
    · rintro ⟨count, before, poll, finds, enough⟩
      exact ⟨before, poll, finds, count, enough⟩
    · rintro ⟨before, poll, finds, count, enough⟩
      exact ⟨count, before, poll, finds, enough⟩
  case flooded =>
    intro flood polls count
    have blocked := watched_of_flood timeout limit flood polls count
    refine ⟨by rw [blocked], await_of_running ?_⟩
    rw [blocked]

/-- A probe that writes without ever pausing. -/
def flood : Nat → ReadResult := fun _ => .data [0x79, 0x0a]

/-- A probe that writes without ever pausing is never killed: no draining of its output returns, and
no poll is reached. -/
theorem flood_survives :
    (∀ place, (flood place).Possible) ∧
      (∀ limit captured, ¬ Returns limit captured flood) ∧
      ∀ timeout limit polls count,
        (watched timeout limit ⟨firstReads flood count, polls⟩).kills = [] := by
  have endless : ∀ place, (flood place).stops = false := fun _ => rfl
  refine ⟨fun _ => ⟨by decide, by decide⟩, fun limit captured returns => ?_, ?_⟩
  · obtain ⟨place, stops⟩ := (returns_iff limit captured).mp returns
    rw [endless place] at stops
    cases stops
  · intro timeout limit polls count
    rw [watched_of_flood timeout limit endless]

end Probe

end HealthWatch
