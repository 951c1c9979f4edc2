/-!
# The transport of a connection

What comes from the client: frames with pauses between them, until the client goes away.
A pause begins when somebody first waits for what comes after it. What goes to the
client: frames one at a time, each of which keeps the line busy for a while; a line may
break after some frames.
-/

set_option autoImplicit false

namespace CommandBridge

inductive Arrival where
  | frame (text : String)
  | pause (delay : Nat)
  | silence
deriving DecidableEq, Repr

/-- The client's side of the line. After the last arrival the client is gone. -/
structure Inbound where
  arrivals : List Arrival
  since : Option Nat
deriving DecidableEq, Repr

inductive Incoming where
  | frame (text : String) (rest : Inbound)
  | later (rest : Inbound)
  | gone
  | blocked
deriving DecidableEq, Repr

namespace Inbound

def ofArrivals (arrivals : List Arrival) : Inbound := ⟨arrivals, none⟩

def next (line : Inbound) (now : Nat) : Incoming :=
  match line.arrivals, line.since with
  | [], _ => .gone
  | .frame text :: rest, _ => .frame text ⟨rest, none⟩
  | .pause delay :: rest, some since =>
    if since + delay ≤ now then .later ⟨rest, none⟩ else .blocked
  | .pause delay :: rest, none => .later ⟨.pause delay :: rest, some now⟩
  | .silence :: _, _ => .blocked

def timer? (line : Inbound) : Option Nat :=
  match line.arrivals, line.since with
  | .pause delay :: _, some since => some (since + delay)
  | _, _ => none

end Inbound

structure Sink where
  delay : Nat
  limit : Option Nat
  taken : List String
  closed : Bool
deriving DecidableEq, Repr

namespace Sink

def ofLine (delay : Nat) (limit : Option Nat) : Sink := ⟨delay, limit, [], false⟩

def accept (s : Sink) (frame : String) : Option Sink :=
  if s.limit = some s.taken.length then none else some { s with taken := frame :: s.taken }

def frames (s : Sink) : List String := s.taken.reverse

end Sink
end CommandBridge
