import HealthWatch.Json.Text

/-! # Frames

Every message to the parent is one line: a JSON object with the type of the message and its
payload as a text.
-/

namespace HealthWatch.Frame

/-- The type of messages that hold status events. -/
def statusType : Int := 2

/-- The line of one message. -/
def encode (type : Int) (payload : String) : String :=
  "\x7b\"data\":" ++ toString type ++ ",\"message\":" ++ Json.encodeText payload ++ "\x7d\n"

end HealthWatch.Frame
