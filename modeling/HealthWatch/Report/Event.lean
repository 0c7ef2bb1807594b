import HealthWatch.Health.Status
import HealthWatch.Json.Record
import HealthWatch.Json.Text

/-! # Status events

A status event tells the parent the health of one container. It is written as a JSON object
on one line and read back from any JSON object with the same five members.
-/

namespace HealthWatch

/-- One status event. -/
structure StatusEvent where
  kind : String
  container : String
  status : String
  exitCode : Int
  /-- Seconds since 1970. -/
  timestamp : Int
  deriving DecidableEq, Repr

namespace StatusEvent

/-- The kind of all events about the health of a container. -/
def healthKind : String := "healthcheck_status"

/-- The last moment that an event can tell. -/
def lastMoment : Int := 0x7FFFFFFFFFFFFFFF

/-- The event of a container's status at a moment. Moments before 1970 count as 1970, and those
after the last one as the last one. -/
def of (container : String) (status : Status) (exitCode now : Int) : StatusEvent where
  kind := healthKind
  container := container
  status := status.word
  exitCode := exitCode
  timestamp := min (max now 0) lastMoment

/-- One member of a JSON object. -/
def member (key value : String) : String := Json.encodeText key ++ ":" ++ value

/-- The text of an event. -/
def encode (event : StatusEvent) : String :=
  "\x7b" ++ ",".intercalate
    [ member "type" (Json.encodeText event.kind),
      member "container_id" (Json.encodeText event.container),
      member "status" (Json.encodeText event.status),
      member "exit_code" (toString event.exitCode),
      member "timestamp" (toString event.timestamp) ] ++ "\x7d"

/-- The members of an event; others are passed over. -/
@[reducible] def record : Json.Record where
  name := "struct StatusEvent"
  fields :=
    [("type", .text), ("container_id", .text), ("status", .text), ("exit_code", .int32),
      ("timestamp", .int64)]
  closed := false

/-- The event that a text holds. -/
def parse (payload : String) : Except Json.Error StatusEvent :=
  match record.ofText payload with
  | .error error => .error error
  | .ok (kind, container, status, exitCode, timestamp, ()) =>
      .ok { kind, container, status, exitCode, timestamp }

end StatusEvent

end HealthWatch
