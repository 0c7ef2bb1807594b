import HealthWatch.Report.Channel

/-! # Descriptors

What a descriptor that the parent names can lead to decides whether the channel opens and what
becomes of each write. A `Connection` is an open channel together with its descriptor and the
bytes that have gone through; it serves as a sink.
-/

namespace HealthWatch

/-- What a descriptor leads to. -/
inductive Descriptor
  | closed
  /-- A pipe, from which somebody still reads or not. -/
  | pipe (reader : Bool)
  /-- A device without any space. -/
  | fullDevice
  | readOnly
  deriving DecidableEq, Repr

namespace Descriptor

/-- What asking for the flags of the descriptor gives. -/
def fault? : Descriptor → Option IoFault
  | closed => some .badDescriptor
  | _ => none

/-- What an attempt to write so many bytes gives. -/
def attempt (count : Nat) : Descriptor → WriteAttempt
  | closed => .failed .badDescriptor
  | pipe true => .accepted count
  | pipe false => .failed .brokenPipe
  | fullDevice => .failed .noSpace
  | readOnly => .failed .badDescriptor

end Descriptor

/-- An open channel and what its descriptor leads to. -/
structure Connection where
  channel : Channel
  descriptor : Descriptor
  /-- The bytes that nobody has read yet. -/
  written : Bytes
  deriving DecidableEq, Repr

namespace Connection

/-- Opens a channel on the descriptor with a number. -/
def open? (number : Int) (descriptor : Descriptor) : Except Failure Connection :=
  (Channel.open? number descriptor.fault?).map fun channel => ⟨channel, descriptor, []⟩

/-- Sends a message. -/
def send (connection : Connection) (type : Int) (payload : String) :
    Connection × Except IoFault Unit :=
  let size := (Frame.encode type payload).utf8ByteSize
  let (channel, writing) :=
    connection.channel.send type payload [connection.descriptor.attempt size]
  ({ connection with channel, written := connection.written ++ writing.taken },
    writing.result.getD (.ok ()))

/-- The connection as a sink. -/
def sink : Sink Connection where
  ready _ := true
  send connection type payload :=
    match connection.send type payload with
    | (connection, .ok ()) => (connection, .sent)
    | (connection, .error fault) => (connection, .failed fault)

end Connection

end HealthWatch
