/-!
# The outbox of a session

A bounded queue between the tasks of a session, which push, and the one reader of its
far end. A task that finds no room takes a place in line, and room goes to the first in
line. Once the outbox is closed every push is refused, and so is one that waits.
-/

set_option autoImplicit false

namespace CommandBridge

structure Outbox (F : Type) where
  capacity : Nat
  queue : List F
  /-- Tickets of the tasks that wait for room, the first in line first. -/
  waiting : List Nat
  cancelled : Bool
  receiving : Bool
deriving DecidableEq

inductive Offer (F : Type) where
  | refused (outbox : Outbox F)
  | taken (outbox : Outbox F)
  | queued (outbox : Outbox F)
  | blocked

namespace Outbox

variable {F : Type}

def empty (capacity : Nat) : Outbox F := ⟨max 1 capacity, [], [], false, true⟩

def isClosed (o : Outbox F) : Bool := o.cancelled || !o.receiving

def cancel (o : Outbox F) : Outbox F := { o with cancelled := true }

def leave (o : Outbox F) (ticket : Nat) : Outbox F :=
  { o with waiting := o.waiting.filter fun t => decide (t ≠ ticket) }

def isTurn (o : Outbox F) (ticket : Nat) : Bool :=
  match o.waiting with
  | [] => true
  | first :: _ => decide (first = ticket)

def offer (o : Outbox F) (ticket : Nat) (frame : F) : Offer F :=
  if o.isClosed then .refused (o.leave ticket)
  else if o.isTurn ticket ∧ o.queue.length < o.capacity then
    .taken { o.leave ticket with queue := o.queue ++ [frame] }
  else if o.waiting.contains ticket then .blocked
  else .queued { o with waiting := o.waiting ++ [ticket] }

def take? (o : Outbox F) : Option (F × Outbox F) :=
  match o.queue with
  | [] => none
  | frame :: rest => some (frame, { o with queue := rest })

end Outbox
end CommandBridge
