import CommandBridge.Json.Kept
import CommandBridge.Json.Printer
import CommandBridge.Wire.Message

/-!
# Socket envelopes

A socket frame in either direction is a JSON text that holds an event name and its
data. Written, the name comes first; read, the data may be missing.
-/

set_option autoImplicit false

namespace CommandBridge

structure SocketEnvelope where
  event : String
  data : Json

namespace SocketEnvelope

def errorEvent : String := "error"

def ofError (e : BridgeError) : SocketEnvelope := ⟨errorEvent, e.toJson⟩

def text (e : SocketEnvelope) : String :=
  Json.print (.object [("event", .string e.event), ("data", e.data)])

def ofText? (text : String) : Option SocketEnvelope := do
  let members ← (← Json.readKept ["event", "data"] text).wanted ["event"] ["data"]
  let event ← (Keyed.lookup "event" members).bind Json.asString?
  return ⟨event, ((Keyed.lookup "data" members).getD .null).canonical⟩

end SocketEnvelope
end CommandBridge
