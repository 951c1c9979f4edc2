import CommandBridge.Json.Printer
import CommandBridge.Text.Utf8
import CommandBridge.Wire.Message

/-!
# The text of an event stream

An event is a name line, a data line and an empty line. A comment keeps a quiet stream
alive.
-/

set_option autoImplicit false

namespace CommandBridge

structure PushEvent where
  event : String
  data : String
deriving DecidableEq, Repr

namespace PushEvent

def defaultName : String := "message"

/-- The lines of an event whose data is one line. -/
def text (e : PushEvent) : String := "event: " ++ e.event ++ "\ndata: " ++ e.data ++ "\n\n"

def keepAlive : String := ":\n\n"

def ofMessage (m : ChannelMessage) : PushEvent := ⟨m.eventName, m.payload.print⟩

end PushEvent
end CommandBridge
