/-!
# Lifecycle of a channel or socket session

`created → initializing → open → closing → closed`, with `failed` reachable from
every state that is not terminal and `closing` from every state before it.
-/

set_option autoImplicit false

namespace CommandBridge

inductive Lifecycle where
  | created | initializing | «open» | closing | closed | failed
deriving DecidableEq, Repr

namespace Lifecycle

def isTerminal : Lifecycle → Bool
  | closed | failed => true
  | _ => false

def canMove : Lifecycle → Lifecycle → Bool
  | created, initializing | created, closing | created, failed => true
  | initializing, .open | initializing, closing | initializing, failed => true
  | .open, closing | .open, failed => true
  | closing, closed | closing, failed => true
  | _, _ => false

def advance (state next : Lifecycle) : Lifecycle :=
  if state.canMove next then next else state

def name : Lifecycle → String
  | created => "created"
  | initializing => "initializing"
  | .open => "open"
  | closing => "closing"
  | closed => "closed"
  | failed => "failed"

def all : List Lifecycle := [created, initializing, .open, closing, closed, failed]

def ofName? (text : String) : Option Lifecycle := all.find? fun s => decide (s.name = text)

theorem advance_of_terminal {s : Lifecycle} (h : s.isTerminal = true) (n : Lifecycle) :
    s.advance n = s := by
  cases s <;> cases n <;> first | rfl | cases h

end Lifecycle
end CommandBridge
