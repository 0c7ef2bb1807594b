import HealthWatch.Bytes
import HealthWatch.Failure
import HealthWatch.Report.Sink

/-! # The channel to the parent

The channel writes the line of each message to a descriptor that was inherited from the
parent. One attempt to write may take a part of the bytes, be interrupted, take nothing, or
fail. The first line that cannot be written whole closes the channel for good, so that a
parent which went away costs one failure and not one for every message.
-/

namespace HealthWatch

/-- What one attempt to write gives. -/
inductive WriteAttempt
  /-- So many of the bytes offered were taken. -/
  | accepted (count : Nat)
  | interrupted
  | failed (fault : IoFault)
  deriving DecidableEq, Repr

/-- What came of writing bytes. -/
structure Writing where
  /-- The bytes that were taken. -/
  taken : Bytes
  /-- How the writing ended; nothing while another attempt has to be made. -/
  result : Option (Except IoFault Unit)
  /-- The attempts that were not made. -/
  unused : List WriteAttempt

/-- Writes bytes with the given attempts in turn. Interrupted attempts are repeated; an attempt
that takes nothing is a fault. -/
def writeAll : Bytes → List WriteAttempt → Writing
  | [], attempts => ⟨[], some (.ok ()), attempts⟩
  | _ :: _, [] => ⟨[], none, []⟩
  | left, .interrupted :: attempts => writeAll left attempts
  | _, .failed fault :: attempts => ⟨[], some (.error fault), attempts⟩
  | left, .accepted count :: attempts =>
      if count = 0 then ⟨[], some (.error .wroteNothing), attempts⟩
      else
        let writing := writeAll (left.drop count) attempts
        { writing with taken := left.take count ++ writing.taken }

/-- The channel to the parent. -/
structure Channel where
  closed : Bool
  deriving DecidableEq, Repr

namespace Channel

/-- Takes over a descriptor, which must be open. `fault` is what asking for its flags gives.
The descriptor is then closed in every program that a probe runs. -/
def open? (descriptor : Int) (fault : Option IoFault) : Except Failure Channel :=
  match fault with
  | some fault => .error (.settingsInvalid (.descriptorNotOpen descriptor fault))
  | none => .ok ⟨false⟩

/-- Sends a message with the given attempts to write its line. A closed channel makes none of
them. -/
def send (channel : Channel) (type : Int) (payload : String) (attempts : List WriteAttempt) :
    Channel × Writing :=
  if channel.closed then (channel, ⟨[], some (.error .closedChannel), attempts⟩)
  else
    let writing := writeAll (Bytes.ofText (Frame.encode type payload)) attempts
    match writing.result with
    | some (.error _) => (⟨true⟩, writing)
    | _ => (channel, writing)

end Channel

end HealthWatch
