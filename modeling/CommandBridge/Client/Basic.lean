import CommandBridge.Client.Values
import CommandBridge.Http.Status
import CommandBridge.Json.KeyCase
import CommandBridge.Json.Members
import CommandBridge.Native.Read
import CommandBridge.Wire.Envelope

/-!
# Clients

A client of a bridge sends arguments in transport case and reads answers. What it talks
to is a peer, known only by what it answers to each request in turn.
-/

set_option autoImplicit false

namespace CommandBridge.Client

structure WebRequest where
  method : String
  url : String
  body : Option Json
deriving DecidableEq

structure WebReply where
  status : Nat
  chunks : List (List UInt8)
  ending : BodyEnd
deriving DecidableEq

abbrev Peer := Nat → WebRequest → Option WebReply

structure Session where
  base : String
  peer : Peer
  requests : List WebRequest

def trimmed (url : String) : String :=
  String.ofList ((url.toList.reverse.dropWhile (· = '/')).reverse)

def Session.open (url : String) (peer : Peer) : Session := ⟨trimmed url, peer, []⟩

def WebReply.whole (r : WebReply) : Except Failure (List UInt8) :=
  match r.ending with
  | .complete => .ok r.chunks.flatten
  | .cut => .error .line

def bodyJson (body : List UInt8) : Option Json :=
  (Utf8.decode? body).bind fun cs => Json.read (String.ofList cs)

def envelope (status : Nat) (body : List UInt8) : BridgeError :=
  ((bodyJson body).bind BridgeError.ofJson?).getD
    (.of .unknownError ((Http.reason? status).getD "request failed"))

def successful (r : WebReply) : Except Failure WebReply :=
  if Http.isSuccess r.status then .ok r
  else r.whole.bind fun body => .error (.remote (envelope r.status body))

def decoded {α : Type} (read : Json → Option α) (r : WebReply) : Except Failure α := do
  let r ← successful r
  match (bodyJson (← r.whole)).bind read with
  | some v => .ok v
  | none => .error .undecodable

namespace Session

def ask (s : Session) (method path : String) (body : Option Json) :
    Session × Except Failure WebReply :=
  let q : WebRequest := ⟨method, s.base ++ path, body⟩
  ({ s with requests := s.requests ++ [q] },
    match s.peer s.requests.length q with
    | some r => .ok r
    | none => .error .line)

def call (s : Session) (command : String) (args : Json) : Session × Except Failure Json :=
  let (s, r) := s.ask "POST" ("/command/" ++ command) (some args.toTransportCase)
  (s, r.bind fun r =>
    (decoded CommandResponse.ofJson? r).map fun response => response.result.canonical)

def typed (t : NativeType) (v : Json) : Except Failure Json :=
  match t.read v with
  | .ok v => .ok v
  | .error _ => .error .undecodable

def request (s : Session) (t : NativeType) (command : String) (args : Json) :
    Session × Except Failure Json :=
  let (s, r) := s.call command args
  (s, r.bind (typed t))

structure Opened where
  id : String
  items : List Item

def openChannel (s : Session) (t : NativeType) (command : String) (args : Json) :
    Session × Except Failure Opened :=
  let (s, created) := s.ask "POST" ("/channel/" ++ command) (some args.toTransportCase)
  match created.bind (decoded ChannelCreated.ofJson?) with
  | .error e => (s, .error e)
  | .ok created =>
    let (s, stream) := s.ask "GET" ("/channel/stream/" ++ created.channelId) none
    (s, (stream.bind successful).map fun r =>
      ⟨created.channelId, (values r.ending .start r.chunks).map fun i => i.bind (typed t)⟩)

def closeChannel (s : Session) (id : String) : Session × Except Failure Unit :=
  let (s, r) := s.ask "DELETE" ("/channel/" ++ id) none
  (s, (r.bind successful).map fun _ => ())

end Session

inductive ServerFrame where
  | text (text : String)
  | other
  | close
  | failed
deriving DecidableEq, Repr

/-- The next event among what comes, and what comes after it; `none` once the server has
closed. -/
def nextEvent : List ServerFrame → Option (Except Failure SocketEnvelope × List ServerFrame)
  | [] | .close :: _ => none
  | .other :: rest => nextEvent rest
  | .failed :: rest => some (.error .socket, rest)
  | .text t :: rest =>
    some (match SocketEnvelope.ofText? t with
      | some e => .ok e
      | none => .error .undecodable, rest)

end CommandBridge.Client
