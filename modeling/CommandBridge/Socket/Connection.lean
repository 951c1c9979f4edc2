import CommandBridge.Conformance.Check
import CommandBridge.Handler.Turn
import CommandBridge.Json.KeyCase
import CommandBridge.Lifecycle
import CommandBridge.Registry.Basic
import CommandBridge.Session.Outbox
import CommandBridge.Socket.Transport
import CommandBridge.Wire.Envelope

/-!
# Socket connections

A connection runs a reader and a writer. The reader runs the connect hook, then one
callback per frame in arrival order, and at the end the disconnect hook. While a hook or
callback runs, frames that arrive wait in a backlog; a client that goes away meanwhile,
or a session that is closed, ends it on the spot. The writer sends what is queued.
-/

set_option autoImplicit false

namespace CommandBridge

inductive Work (S : Type) where
  | running (task : Task S)
  | reporting (error : BridgeError)

inductive Reader (S : Type) where
  | connecting (work : Work S)
  | listening
  | handling (work : Work S)
  /-- Past the end of the session; `rejected` when the connect hook failed. -/
  | disconnecting (rejected : Bool) (work : Work S)
  | ended

inductive Writer where
  | receiving
  /-- A frame is on the line until then; `draining` after the session was closed. -/
  | sending (due : Nat) (draining : Bool)
  | draining
  | ended
deriving DecidableEq, Repr

/-- A connection under the registry in force when it was opened. -/
structure Connection (A : Application) where
  handler : SocketHandler A
  definitions : Definitions
  phase : Lifecycle
  outbox : Outbox String
  inbound : Inbound
  backlog : List String
  reader : Reader A.Socket
  writer : Writer
  sink : Sink
  /-- Tasks that hooks and callbacks started; an ended one is `none`. -/
  forks : List (Option (Task A.Socket))

namespace Connection

variable {A : Application}

def initialPhase : Lifecycle := Lifecycle.created.advance .initializing

def advance (c : Connection A) (next : Lifecycle) : Connection A :=
  { c with phase := c.phase.advance next }

/-- The reader after a connect hook that went well, or without one. -/
def opened (c : Connection A) : Connection A := { c.advance .open with reader := .listening }

def create (handler : SocketHandler A) (definitions : Definitions) (capacity : Nat)
    (inbound : Inbound) (sink : Sink) : Connection A :=
  let c : Connection A := {
    handler := handler, definitions := definitions, phase := initialPhase,
    outbox := .empty capacity, inbound := inbound, backlog := [], reader := .listening,
    writer := .receiving, sink := sink, forks := [] }
  match handler.onConnect with
  | some hook => { c with reader := .connecting (.running (Task.at hook)) }
  | none => c.opened

def finish (c : Connection A) (rejected : Bool) : Connection A :=
  { c.advance (if rejected then .failed else .closed) with
    outbox := c.outbox.cancel, reader := .ended }

def leave (c : Connection A) (rejected : Bool) : Connection A :=
  let c := if rejected then c else c.advance .closing
  match c.handler.onDisconnect with
  | some hook => { c with reader := .disconnecting rejected (.running (Task.at hook)) }
  | none => c.finish rejected

/-- Whether the connection has run to its end. -/
def isOver (c : Connection A) : Bool :=
  (match c.reader with
    | .ended => true
    | _ => false) && decide (c.writer = .ended)

def readerTicket : Nat := 0

def offerFrame (o : Outbox String) (ticket : Nat) (e : SocketEnvelope) : Attempt (Outbox String) :=
  match o.offer ticket e.text with
  | .refused o => .settled o (some (.closed .socket))
  | .taken o => .settled o none
  | .queued o => .queued o
  | .blocked => .blocked

def push (handler : SocketHandler A) (o : Outbox String) (ticket : Nat) :
    SocketRequest → Attempt (Outbox String)
  | .event name data =>
    if !Keyed.contains name handler.serverEvents then
      .settled o (some (.undeclaredEvent handler.name name))
    else
      match data with
      | .unserializable reason => .settled o (some (.unserializable .socket reason))
      | .json v => offerFrame o ticket ⟨name, v.toTransportCase⟩
  | .error e => offerFrame o ticket (.ofError e)
  | .close => .settled o.cancel none

def view (handler : SocketHandler A) : ClientView (Outbox String) SocketRequest :=
  ⟨push handler, Outbox.cancelled⟩

inductive FrameWork (A : Application) where
  | ignored
  | refused (error : BridgeError)
  | callback (event : String) (data : Json) (start : A.Socket)

def malformed : BridgeError := .of .invalidArgument "Malformed socket frame: <json>"

/-- Looks a frame up: it must be an envelope, name a declared event with a callback, and
carry data of the declared type. -/
def frameWork (handler : SocketHandler A) (definitions : Definitions) (text : String) :
    FrameWork A :=
  match SocketEnvelope.ofText? text with
  | none => .refused malformed
  | some e =>
    match Keyed.lookup e.event handler.clientEvents, Keyed.lookup e.event handler.callbacks with
    | some type, some start =>
      let data := e.data.toTransportCase
      match validate definitions e.event type data with
      | .ok () => .callback e.event data (start data)
      | .error e => .refused e
    | _, _ => .ignored

def begin (c : Connection A) (text : String) : Connection A :=
  match frameWork c.handler c.definitions text with
  | .ignored => { c with reader := .listening }
  | .refused e => { c with reader := .handling (.reporting e) }
  | .callback _ _ start => { c with reader := .handling (.running (Task.at start)) }

end Connection
end CommandBridge
