import HealthWatch.Healthcheck
import HealthWatch.Json.Record

/-! # Healthchecks in annotations

An annotation is a JSON document with five fields. Its `test` names a form and what the form
needs: `CMD` a program with its arguments, `CMD-SHELL` one command for the shell. Nothing has
a default.
-/

namespace HealthWatch.Annotations

/-- The fields of an annotation; it has no others. -/
@[reducible] def record : Json.Record where
  name := "struct HealthcheckAnnotation"
  fields :=
    [("test", .texts), ("interval", .int64), ("timeout", .int64), ("start_period", .int64),
      ("retries", .int64)]
  closed := true

/-- The longest command for the shell, in bytes. -/
def maxCommandBytes : Nat := 4096

/-- The command that a shell test runs. -/
def shellTest (command : String) : List String := ["/bin/sh", "-c", command]

/-- The command that a test stands for. -/
def commandOf : List String → Except HealthcheckFault (List String)
  | [] => .error (.tooFewParts 0)
  | [_] => .error (.tooFewParts 1)
  | form :: arguments =>
      if form = "CMD" then .ok arguments
      else if form = "CMD-SHELL" then
        match arguments with
        | [command] =>
            if command.isEmpty then .error .emptyCommand
            else if maxCommandBytes < command.utf8ByteSize then
              .error (.commandTooLong command.utf8ByteSize maxCommandBytes)
            else .ok (shellTest command)
        | _ => .error (.notOneCommand arguments.length)
      else .error (.unknownForm form)

/-- The healthcheck with the values of an annotation. -/
def healthcheck (test : List String) (interval timeout startPeriod retries : Int) :
    Except HealthcheckFault Healthcheck := do
  Healthcheck.ofValues (← commandOf test) interval timeout startPeriod retries

/-- The healthcheck that an annotation describes. -/
def parse (payload : String) : Except Failure Healthcheck :=
  match record.ofText payload with
  | .error error => .error (.annotationMalformed error)
  | .ok (test, interval, timeout, startPeriod, retries, ()) =>
      (healthcheck test interval timeout startPeriod retries).mapError .healthcheckInvalid

end HealthWatch.Annotations
