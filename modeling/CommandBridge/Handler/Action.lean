import CommandBridge.Error

/-!
# Running handlers

A running handler is a state of its own type. Its behaviour tells, state by state,
what it asks for next; the answer picks the state after. Handlers share one state,
the world of their application, and read or change it in atomic steps. Between two
requests any other part of the program may move.
-/

set_option autoImplicit false

namespace CommandBridge

inductive Outcome (Res : Type) where
  | done (result : Res)
  | failed (error : CommandError)
  | panicked (panic : Panic)

inductive Payload where
  | json (value : Json)
  | unserializable (reason : String)
deriving DecidableEq

inductive Medium where
  | channel | socket
deriving DecidableEq, Repr

def Medium.name : Medium → String
  | .channel => "channel"
  | .socket => "socket"

inductive SendError where
  | closed (medium : Medium)
  | unserializable (medium : Medium) (reason : String)
  | undeclaredEvent (socket event : String)
deriving DecidableEq

namespace SendError

def message : SendError → String
  | closed m => m.name ++ " closed"
  | unserializable m reason => "failed to serialize " ++ m.name ++ " message: " ++ reason
  | undeclaredEvent socket event =>
    "socket '" ++ socket ++ "' does not declare server event '" ++ event ++ "'"

def toCommandError (e : SendError) : CommandError := .of e.message

end SendError

structure Alarm (S : Type) where
  delay : Nat
  next : S

/-- What a running handler asks for next: `W` is the shared world, `Out` what it may
ask of its client, `Res` its result, `S` its states. -/
inductive Action (W Out Res S : Type) where
  | finish (outcome : Outcome Res)
  | update (step : W → W × S)
  | clock (next : Nat → S)
  /-- Waits for a timer or until the world lets it go on, whichever comes. -/
  | wait (alarm : Option (Alarm S)) (ready : W → Option (W × S))
  | client (request : Out)

inductive Outlet (W Req S : Type) where
  | push (request : Req) (next : Option SendError → S)
  | probe (next : Bool → S)
  | fork (task next : S)
  | waitClosed (closed : S) (alarm : Option (Alarm S)) (ready : W → Option (W × S))

structure Behaviour (W Out Res S : Type) where
  next : S → Action W Out Res S
  release : S → W → W

inductive SocketRequest where
  | event (name : String) (data : Payload)
  | error (error : BridgeError)
  | close

/-- The handlers of an application and the world they share. -/
structure Application where
  World : Type
  Call : Type
  Stream : Type
  Socket : Type
  call : Behaviour World Empty Payload Call
  stream : Behaviour World (Outlet World Payload Stream) Unit Stream
  socket : Behaviour World (Outlet World SocketRequest Socket) Unit Socket
  /-- The states of a call that is still being entered: its handler runs on the stack of whoever
  called it and has not yet given what is then run. -/
  entering : Call → Bool := fun _ => false

structure Task (S : Type) where
  state : S
  since : Option Nat

def Task.at {S : Type} (s : S) : Task S := ⟨s, none⟩

inductive Alternative where
  | ready | alarm | closed
deriving DecidableEq, Repr

namespace Task

variable {W Out Res S : Type}

def awaited (now since : Nat) (pick : Alternative) (alarm : Option (Alarm S))
    (ready : W → Option (W × S)) (w : W) : Option (W × S) :=
  match pick with
  | .ready => ready w
  | .alarm =>
    match alarm with
    | some a => if since + a.delay ≤ now then some (w, a.next) else none
    | none => none
  | .closed => none

def deadline? (alarm : Option (Alarm S)) (since : Option Nat) : Option Nat :=
  match alarm, since with
  | some a, some t => some (t + a.delay)
  | _, _ => none

end Task
end CommandBridge
