import CommandBridge.Bridge.Schedule

/-!
# Visits

A visit is a connection whose client is known beforehand: when it comes, what it sends
and how its line behaves. Visits run side by side until each is over or was waited for
too long.
-/

set_option autoImplicit false

namespace CommandBridge

structure Visit where
  socket : String
  delay : Nat
  inbound : Inbound
  sink : Sink

inductive VisitState where
  | expected (opens : Nat)
  | refused (error : BridgeError)
  /-- Opened as the connection of that number; dropped at `limit`. -/
  | open (index limit : Nat)
  | over (index : Nat)
  | dropped (index : Nat)

namespace Visit

variable {A : Application}

def turn (b : Bridge A) (v : Visit) : VisitState → Bridge A × VisitState
  | .expected opens =>
    if opens ≤ b.now then
      match b.connect v.socket v.inbound v.sink with
      | .ok b' => (b', .open b.connections.length (b.now + Bridge.waitLimit))
      | .error e => (b, .refused e)
    else (b, .expected opens)
  | .open index limit =>
    if (b.connections[index]?.map Connection.isOver).getD true then (b, .over index)
    else if limit ≤ b.now then (b.dropConnection index, .dropped index)
    else (b, .open index limit)
  | s => (b, s)

def VisitState.timer? : VisitState → Option Nat
  | .expected opens => some opens
  | .open _ limit => some limit
  | _ => none

def turns : List (Visit × VisitState) → Bridge A → Bridge A × List (Visit × VisitState)
  | [], b => (b, [])
  | (v, s) :: rest, b =>
    let (b, s) := v.turn b s
    let (b, rest) := turns rest b
    (b, (v, s) :: rest)

def runAll : Nat → List (Visit × VisitState) → Bridge A → Bridge A × List VisitState
  | 0, vs, b => (b, vs.map Prod.snd)
  | fuel + 1, vs, b =>
    let (b, vs) := turns vs b
    let b := b.settle
    let (b, vs) := turns vs b
    let due := vs.filterMap fun v => VisitState.timer? v.2
    if due.isEmpty then (b, vs.map Prod.snd)
    else
      match (b.nextTimer?.toList ++ due.filter fun t => decide (b.now < t)).min? with
      | some t => runAll fuel vs { b with now := t }
      | none => (b, vs.map Prod.snd)

end Visit

def Bridge.receiveVisits {A : Application} (b : Bridge A) (visits : List Visit) :
    Bridge A × List VisitState :=
  Visit.runAll Bridge.patience (visits.map fun v => (v, .expected (b.now + v.delay))) b

end CommandBridge
