import HealthWatch.Bytes

/-! # Captured standard error

The standard error of a probe comes through a pipe that never blocks its reader. Draining
reads until nothing is there, keeps the first bytes up to a limit and drops the rest.
-/

namespace HealthWatch.Capture

/-- What one read of the pipe gives. -/
inductive ReadResult
  /-- At least one byte. -/
  | data (chunk : Bytes)
  /-- Every writer has closed the pipe. -/
  | endOfFile
  | interrupted
  /-- The pipe is empty. -/
  | wouldBlock
  | failed
  deriving DecidableEq, Repr

/-- The bytes kept after one more chunk. -/
def keep (limit : Nat) (captured chunk : Bytes) : Bytes :=
  captured ++ chunk.take (limit - captured.length)

/-- Reads as long as there is something to read. The bytes kept come first. The read results
that are left over come second; there are none as long as the draining goes on. -/
def drain (limit : Nat) : Bytes → List ReadResult → Bytes × Option (List ReadResult)
  | captured, [] => (captured, none)
  | captured, .data chunk :: rest => drain limit (keep limit captured chunk) rest
  | captured, .interrupted :: rest => drain limit captured rest
  | captured, .endOfFile :: rest => (captured, some rest)
  | captured, .wouldBlock :: rest => (captured, some rest)
  | captured, .failed :: rest => (captured, some rest)

/-- The most bytes that one read gives. -/
def chunkSize : Nat := 1024

/-- The chunks in which bytes are read. `fuel` bounds their number. -/
def chunks : Nat → Bytes → List Bytes
  | fuel + 1, byte :: rest =>
      (byte :: rest).take chunkSize :: chunks fuel ((byte :: rest).drop chunkSize)
  | _, _ => []

/-- The results of the reads that take bytes out of the pipe. -/
def readsOf (bytes : Bytes) : List ReadResult :=
  (chunks (bytes.length + 1) bytes).map .data

end HealthWatch.Capture
