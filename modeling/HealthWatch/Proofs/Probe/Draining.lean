import HealthWatch.Probe.Capture

/-! # When draining returns

Each draining of a standard error uses up the read results as far as the first one that stops it
(`Capture.drain_eq_none_iff`, `Capture.countP_of_drain`).
-/

namespace HealthWatch.Capture

/-- Whether a read result stops the draining: there is nothing to read for now, or for good. -/
def ReadResult.stops : ReadResult → Bool
  | .data _ | .interrupted => false
  | .endOfFile | .wouldBlock | .failed => true

/-- The bytes that are kept after one read. -/
def ReadResult.added (limit : Nat) (captured : Bytes) : ReadResult → Bytes
  | .data chunk => keep limit captured chunk
  | _ => captured

variable {limit : Nat} {captured kept : Bytes} {read : ReadResult} {reads left : List ReadResult}

theorem drain_cons :
    drain limit captured (read :: reads) =
      if read.stops then (captured, some reads)
      else drain limit (read.added limit captured) reads := by
  cases read <;> rfl

/-- A draining goes on exactly when no read stops it, whatever the limit. -/
theorem drain_eq_none_iff :
    (drain limit captured reads).2 = none ↔ reads.countP ReadResult.stops = 0 := by
  induction reads generalizing captured with
  | nil => exact ⟨fun _ => rfl, fun _ => rfl⟩
  | cons read rest further =>
      rw [drain_cons]
      cases stops : read.stops with
      | true => simp [stops]
      | false => simpa [stops] using further

/-- A draining that returns has met one read result that stops it. -/
theorem countP_of_drain (drained : drain limit captured reads = (kept, some left)) :
    reads.countP ReadResult.stops = left.countP ReadResult.stops + 1 := by
  induction reads generalizing captured with
  | nil => cases drained
  | cons read rest further =>
      rw [drain_cons] at drained
      cases stops : read.stops with
      | true =>
          rw [stops] at drained
          cases drained
          rw [List.countP_cons_of_pos stops]
      | false =>
          rw [stops] at drained
          rw [List.countP_cons_of_neg (Bool.eq_false_iff.mp stops)]
          exact further drained

end HealthWatch.Capture
