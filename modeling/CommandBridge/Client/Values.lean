import CommandBridge.Events.Decoder
import CommandBridge.Json.Parser

/-!
# The values of a channel

A client reads a channel as the values of its event stream. The stream ends well only
with a `close` event; an error, a payload that is no JSON, and an end without `close` each
come out once as a failure and end the values.
-/

set_option autoImplicit false

namespace CommandBridge.Client

inductive Failure where
  | remote (error : BridgeError)
  | line
  | undecodable
  | protocol (message : String)
  | socket
deriving DecidableEq

abbrev Item := Except Failure Json

/-- The values among events, and whether they end the stream. Events of other names are
passed over. -/
def ofEvents : List PushEvent → List Item × Bool
  | [] => ([], false)
  | e :: rest =>
    match Json.parse e.data with
    | none => ([.error .undecodable], true)
    | some payload =>
      match ChannelMessage.ofEvent? e.event payload with
      | some (.data v) => (.ok v :: (ofEvents rest).1, (ofEvents rest).2)
      | some (.error error) => ([.error (.remote error)], true)
      | some .close => ([], true)
      | none => ofEvents rest

def unclosed : Failure := .protocol "channel stream ended without close"

inductive BodyEnd where
  | complete | cut
deriving DecidableEq, Repr

/-- The failure of a stream that ended before its values did. -/
def BodyEnd.failure : BodyEnd → Failure
  | complete => unclosed
  | cut => .line

/-- The values of a body that comes in chunks. -/
def values (ending : BodyEnd) (d : EventDecoder) : List (List UInt8) → List Item
  | [] => [.error ending.failure]
  | chunk :: rest =>
    let fed := d.feed chunk
    let found := ofEvents fed.2
    if found.2 then found.1 else found.1 ++ values ending fed.1 rest

end CommandBridge.Client
