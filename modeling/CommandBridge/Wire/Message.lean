import CommandBridge.Error
import CommandBridge.Json.Members

/-!
# Channel messages

A channel pushes data and ends with one terminal message. Each message has a push
event name and a payload, from which it is rebuilt, and a tagged JSON form.
-/

set_option autoImplicit false

namespace CommandBridge

/-- The envelope a value spells, if it spells one; `null` details count as absent. -/
def BridgeError.ofJson? (v : Json) : Option BridgeError := do
  let members ← v.wanted ["code", "message"] ["details"]
  let code ← (Keyed.lookup "code" members).bind Json.asString?
  let message ← (Keyed.lookup "message" members).bind Json.asString?
  let details := match Keyed.lookup "details" members with
    | some .null => none
    | d => d
  return ⟨.ofText code, message, details⟩

inductive ChannelMessage where
  | data (value : Json)
  | error (error : BridgeError)
  | close
deriving DecidableEq

namespace ChannelMessage

def isTerminal : ChannelMessage → Bool
  | data _ => false
  | _ => true

def eventName : ChannelMessage → String
  | data _ => "message"
  | error _ => "error"
  | close => "close"

def payload : ChannelMessage → Json
  | data v => v
  | error e => e.toJson
  | close => .object []

/-- The message of a push event; `none` for an unknown name or a malformed error. -/
def ofEvent? (event : String) (payload : Json) : Option ChannelMessage :=
  if event = "message" then some (data payload)
  else if event = "error" then (BridgeError.ofJson? payload).map error
  else if event = "close" then some close
  else none

/-- The tagged form: `event` names the kind, `data` holds its content. -/
def toJson : ChannelMessage → Json
  | data v => .object [("data", v), ("event", .string "data")]
  | error e => .object [("data", e.toJson), ("event", .string "error")]
  | close => .object [("event", .string "close")]

def ofTagged? (tag : String) (content : Option Json) : Option ChannelMessage :=
  if tag = "data" then content.map data
  else if tag = "error" then (content.bind BridgeError.ofJson?).map error
  else if tag = "close" then
    match content with
    | none | some .null => some close
    | _ => none
  else none

def tagText? : Json → Option String
  | .string tag => some tag
  | .object [(tag, .null)] => some tag
  | _ => none

/-- Reads the tagged form; an array must list both tag and content. -/
def ofJson? (v : Json) : Option ChannelMessage := do
  let members ← v.wanted ["event"] ["data"]
  let tag ← (Keyed.lookup "event" members).bind tagText?
  match v, Keyed.lookup "data" members with
  | .array _, none => none
  | _, content => ofTagged? tag content

end ChannelMessage

structure CommandResponse where
  result : Json

def CommandResponse.toJson (r : CommandResponse) : Json := .object [("result", r.result)]

def CommandResponse.ofJson? (v : Json) : Option CommandResponse := do
  let members ← v.wanted ["result"] []
  return ⟨← Keyed.lookup "result" members⟩

structure ChannelCreated where
  channelId : String

def ChannelCreated.toJson (c : ChannelCreated) : Json :=
  .object [("channelId", .string c.channelId)]

def ChannelCreated.ofJson? (v : Json) : Option ChannelCreated := do
  let members ← v.wanted ["channelId"] []
  return ⟨← (Keyed.lookup "channelId" members).bind Json.asString?⟩

end CommandBridge
