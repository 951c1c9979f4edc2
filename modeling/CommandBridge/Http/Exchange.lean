import CommandBridge.Bridge.Basic
import CommandBridge.Http.Route
import CommandBridge.Json.Parser

/-!
# Requests over HTTP

A request is answered at once, or begins a call whose answer makes the reply. Failures
are error envelopes under a status that their code decides; internal errors keep their
cause to themselves unless the bridge is in debug mode.
-/

set_option autoImplicit false

namespace CommandBridge.Http

structure Request where
  method : String
  target : String
  body : List UInt8

inductive Reply where
  | json (status : Nat) (body : Json)
  | empty (status : Nat)
  | note (status : Nat)
  | events (channel : Nat)
  /-- A reply whose body was left out, and whether it would have been JSON. -/
  | headOnly (status : Nat) (json : Bool)

inductive Exchange where
  | reply (reply : Reply)
  | calling (index : Nat)

variable {A : Application}

def errorReply (config : Config) (status : Nat) (e : BridgeError) : Reply :=
  .json status (e.redact config.debug).toJson

def refuse (config : Config) (e : BridgeError) : Reply := errorReply config e.status e

def refuseChannel (config : Config) (e : ChannelError) : Reply :=
  errorReply config (match e with
    | .notFound _ => 404
    | .alreadyAttached _ => 409) e.toBridgeError

def isBlank (b : UInt8) : Bool := [0x20, 0x09, 0x0a, 0x0c, 0x0d].contains b

def malformedBody : BridgeError := .of .invalidArgument "Request body is not valid JSON: <json>"

/-- The payload of a body; a blank body is no payload. -/
def payload (body : List UInt8) : Except BridgeError Json :=
  if body.all isBlank then .ok .null
  else
    match (Utf8.decode? body).bind fun cs => Json.parse (String.ofList cs) with
    | some v => .ok v
    | none => .error malformedBody

def kindJson (k : CommandKind) : Json := .string k.name

def optional (key : String) : Option String → List (String × Json)
  | none => []
  | some s => [(key, .string s)]

def commandInfo (c : Command A) : Json :=
  .ofMembers <|
    [("name", .string c.name), ("kind", kindJson c.kind),
      ("params", .array (c.params.map fun p =>
        .ofMembers [("name", .string p.name), ("required", .bool p.isRequired)]))] ++
      optional "module" c.module ++ optional "doc" c.doc

def eventNames (events : List (String × Descriptor)) : Json :=
  .array (events.map fun e => .string e.1)

def socketInfo (s : SocketHandler A) : Json :=
  .ofMembers <|
    [("name", .string s.name), ("server_events", eventNames s.serverEvents),
      ("client_events", eventNames s.clientEvents)] ++ optional "module" s.module

def index (b : Bridge A) : Json :=
  .ofMembers [("status", .string "ok"), ("bridge", .string b.config.title),
    ("commands", .array (b.registry.commandList.map fun c => .string c.name))]

def listing (r : Registry A) : Json :=
  .ofMembers [("commands", .array (r.commandList.map commandInfo)),
    ("sockets", .array (r.socketList.map socketInfo))]

def channelId (text : String) : Except ChannelError Uuid :=
  match Uuid.ofText? text with
  | some id => .ok id
  | none => .error (.notFound text)

def beginCommand (b : Bridge A) (name : String) (body : List UInt8) : Bridge A × Exchange :=
  match payload body with
  | .error e => (b, .reply (refuse b.config e))
  | .ok v => (b.beginCall name v, .calling b.calls.length)

def createChannel (b : Bridge A) (name : String) (body : List UInt8) : Bridge A × Reply :=
  match payload body with
  | .error e => (b, refuse b.config e)
  | .ok v =>
    match b.createChannel name v with
    | .error e => (b, refuse b.config e)
    | .ok b' => (b', .json 200 (ChannelCreated.toJson ⟨Bridge.channelId b.channels.length⟩))

def openStream (b : Bridge A) (id : String) : Bridge A × Reply :=
  match (channelId id).bind b.attach with
  | .error e => (b, refuseChannel b.config e)
  | .ok (b, index) => (b, .events index)

def closeChannel (b : Bridge A) (id : String) : Bridge A × Reply :=
  match (channelId id).bind b.closeChannel with
  | .error e => (b, refuseChannel b.config e)
  | .ok (b, _) => (b, .empty 204)

def plainSocket (b : Bridge A) (method name : String) : Reply :=
  match Bridge.socketHandler b.registry name with
  | .error e => refuse b.config e
  | .ok _ => .note (if method = "GET" then 400 else 405)

def serve (b : Bridge A) (q : Request) : Route → Bridge A × Exchange
  | .index => (b, .reply (.json 200 (index b)))
  | .listing => (b, .reply (.json 200 (listing b.registry)))
  | .command name => beginCommand b name q.body
  | .channel name =>
    let (b, r) := if q.method = "DELETE" then closeChannel b name else createChannel b name q.body
    (b, .reply r)
  | .stream id =>
    let (b, r) := openStream b id
    (b, .reply r)
  | .socket name => (b, .reply (plainSocket b q.method name))

def headOnly (b : Bridge A) : Reply → Bridge A × Reply
  | .json status _ => (b, .headOnly status true)
  | .empty status => (b, .empty status)
  | .note status => (b, .headOnly status false)
  | .events index => (b.dropSubscription index, .events index)
  | .headOnly status json => (b, .headOnly status json)

def serveResolved (b : Bridge A) (q : Request) (route : Route) : Bridge A × Exchange :=
  match route.resolve? with
  | some route => serve b q route
  | none => (b, .reply (.note 400))

/-- Takes a request up. A method that the route does not answer is refused before the
name is read. -/
def begin (b : Bridge A) (q : Request) : Bridge A × Exchange :=
  match Route.ofTarget? q.target with
  | none => (b, .reply (.empty 404))
  | some route =>
    if !route.methods.contains q.method then (b, .reply (.empty 405))
    else
      match serveResolved b q route with
      | (b, .reply r) =>
        if q.method = "HEAD" then let (b, r) := headOnly b r; (b, .reply r) else (b, .reply r)
      | other => other

def callReply (config : Config) : Except BridgeError Json → Reply
  | .ok v => .json 200 (CommandResponse.toJson ⟨v⟩)
  | .error e => refuse config e

end CommandBridge.Http
