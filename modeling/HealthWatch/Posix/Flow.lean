import HealthWatch.Bytes

/-! # Flows of bytes

A flow is what comes through a descriptor over time: bytes that are written at certain
moments, and then either the end or a pattern that is repeated without end. Times are
milliseconds.
-/

namespace HealthWatch.Posix

/-- Bytes over time. -/
structure Flow where
  writes : List (Nat × Bytes)
  /-- What follows without end, if anything does. -/
  pattern : Option Bytes
  /-- When the last writer is gone, unless the flow has no end. -/
  closed : Nat
  deriving DecidableEq, Repr

namespace Flow

/-- The flow that is at its end. -/
def nothing : Flow := ⟨[], none, 0⟩

/-- The flow that repeats a pattern. -/
def forever (pattern : Bytes) : Flow := ⟨[], some pattern, 0⟩

/-- The first bytes of writes that come to more than `count` bytes, and when the last of them
is written; or all of the writes and how many bytes are missing. -/
def takeWrites (count start : Nat) : List (Nat × Bytes) → List (Nat × Bytes) × Nat × Nat
  | [] => ([], start, count)
  | (time, bytes) :: rest =>
      let moment := max start time
      if count = 0 then ([], start, 0)
      else if count ≤ bytes.length then ([(moment, bytes.take count)], moment, 0)
      else
        let (taken, last, missing) := takeWrites (count - bytes.length) moment rest
        ((moment, bytes) :: taken, last, missing)

/-- So many bytes of a pattern. -/
def repeated (pattern : Bytes) (count : Nat) : Bytes :=
  ((List.replicate (count / max pattern.length 1 + 1) pattern).flatten).take count

/-- The first bytes of a flow that is read from a moment on, and when they are complete. -/
def take (flow : Flow) (count start : Nat) : List (Nat × Bytes) × Nat :=
  match takeWrites count start flow.writes with
  | (taken, last, 0) => (taken, last)
  | (taken, last, missing) =>
      match flow.pattern with
      | some pattern => (taken ++ [(last, repeated pattern missing)], last)
      | none => (taken, max last flow.closed)

/-- What is left of writes after some bytes. -/
def dropWrites : Nat → List (Nat × Bytes) → List (Nat × Bytes)
  | _, [] => []
  | count, (time, bytes) :: rest =>
      if bytes.length ≤ count then dropWrites (count - bytes.length) rest
      else (time, bytes.drop count) :: rest

/-- What is left of a flow after some of its written bytes. -/
def drop (flow : Flow) (count : Nat) : Flow :=
  { flow with writes := dropWrites count flow.writes }

/-- The flow with every piece of it changed. -/
def map (change : Bytes → Bytes) (flow : Flow) : Flow :=
  { flow with
    writes := flow.writes.map fun write => (write.1, change write.2)
    pattern := flow.pattern.map change }

/-- The flow as somebody passes it on who begins at a moment. -/
def since (flow : Flow) (start : Nat) : Flow :=
  { flow with
    writes := flow.writes.map fun write => (max start write.1, write.2)
    closed := max start flow.closed }

end Flow

end HealthWatch.Posix
