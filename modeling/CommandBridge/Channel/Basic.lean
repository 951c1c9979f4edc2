import CommandBridge.Handler.Turn
import CommandBridge.Json.KeyCase
import CommandBridge.Lifecycle
import CommandBridge.Session.Outbox
import CommandBridge.Wire.Message

/-!
# Server-push channels

A channel is created with its arguments and waits to be attached; an attach timer ends
the wait. The one subscription starts the handler. Its messages are the data that the
handler pushed, in order, and then one terminal message.
-/

set_option autoImplicit false

namespace CommandBridge

inductive Drive (S : Type) where
  | idle
  | running (task : Task S)
  /-- The handler has ended and its terminal message waits to be queued. -/
  | ending (last : ChannelMessage)
  | finished

inductive Subscription where
  | unattached
  | live
  | complete
  | dropped
deriving DecidableEq, Repr

structure Channel (S : Type) where
  command : String
  phase : Lifecycle
  listed : Bool
  /-- Where the handler will start, until the first attach takes it. -/
  parked : Option S
  expiry : Option Nat
  outbox : Outbox ChannelMessage
  drive : Drive S
  forks : List (Option (Task S))
  subscription : Subscription

inductive ChannelError where
  | notFound (id : String)
  | alreadyAttached (id : String)
deriving DecidableEq, Repr

namespace ChannelError

def message : ChannelError → String
  | notFound id => "Channel '" ++ id ++ "' not found"
  | alreadyAttached id => "Channel '" ++ id ++ "' is already attached"

def toBridgeError (e : ChannelError) : BridgeError := .of .channelInitError e.message

end ChannelError

inductive Received where
  | message (message : ChannelMessage)
  | pending
  | finished
deriving DecidableEq

namespace Channel

variable {S : Type}

def create (command : String) (start : S) (capacity : Nat) (expiry : Nat) : Channel S where
  command := command
  phase := Lifecycle.created.advance .initializing
  listed := true
  parked := some start
  expiry := some expiry
  outbox := .empty capacity
  drive := .idle
  forks := []
  subscription := .unattached

def advance (c : Channel S) (next : Lifecycle) : Channel S := { c with phase := c.phase.advance next }

def discard (c : Channel S) : Channel S :=
  { (c.advance .closing).advance .closed with listed := false, parked := none }

def expire (c : Channel S) : Channel S :=
  let c := { c with expiry := none }
  if c.listed && c.parked.isSome then c.discard else c

def attach (c : Channel S) (id : String) : Except ChannelError (Channel S) :=
  if !c.listed then .error (.notFound id)
  else
    match c.parked with
    | none => .error (.alreadyAttached id)
    | some start =>
      .ok { c.advance .open with
        parked := none, drive := .running (Task.at start), subscription := .live }

def cancel (c : Channel S) : Channel S :=
  if c.phase.canMove .closing then { c.advance .closing with outbox := c.outbox.cancel } else c

/-- Closes on the client's request. -/
def close (c : Channel S) (id : String) : Except ChannelError (Channel S) :=
  if !c.listed then .error (.notFound id)
  else if c.parked.isSome then .ok c.discard
  else .ok c.cancel

def shut (c : Channel S) : Channel S := if c.listed then c.cancel else c

def isSilent (c : Channel S) : Bool :=
  (match c.drive with
    | .finished => true
    | _ => false) && c.forks.all Option.isNone

def complete (c : Channel S) (m : ChannelMessage) : Channel S :=
  let c := match m with
    | .close => (c.advance .closing).advance .closed
    | _ => c.advance .failed
  { c with outbox := c.outbox.cancel, listed := false, subscription := .complete }

def deliver (c : Channel S) (m : ChannelMessage) : Channel S × Received :=
  (if m.isTerminal then c.complete m else c, .message m)

def terminated : ChannelMessage :=
  .error (.of .channelError "Channel terminated unexpectedly")

/-- The subscription asks for its next message. A cancelled channel closes at once,
whatever is queued. -/
def receive (c : Channel S) : Channel S × Received :=
  if c.subscription ≠ .live then (c, .finished)
  else if c.outbox.cancelled then c.deliver .close
  else
    match c.outbox.take? with
    | some (m, outbox) => { c with outbox := outbox }.deliver m
    | none => if c.isSilent then c.deliver terminated else (c, .pending)

def drop (c : Channel S) : Channel S :=
  if c.subscription ≠ .live then c
  else
    { (c.advance .closing).advance .closed with
      outbox := { c.outbox.cancel with receiving := false },
      listed := false, subscription := .dropped }

end Channel
end CommandBridge
