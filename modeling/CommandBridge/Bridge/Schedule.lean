import CommandBridge.Bridge.Basic

/-!
# A fair schedule

Among the moves that are open at a time the schedule takes one session after another and
lets each go on until it must wait. The clock stands still until every session waits, and
then goes to the next timer. Every run of the schedule is a sequence of moves.
-/

set_option autoImplicit false

namespace CommandBridge.Bridge

variable {A : Application}

structure Moved (A : Application) where
  bridge : Bridge A
  moved : Bool

def exhaust (moves : List Move) : Nat → Moved A → Moved A
  | 0, s => s
  | fuel + 1, s =>
    match moves.findSome? s.bridge.move? with
    | some b => exhaust moves fuel ⟨b, true⟩
    | none => s

def once (moves : List Move) (s : Moved A) : Moved A × Bool :=
  match moves.findSome? s.bridge.move? with
  | some b => (⟨b, true⟩, true)
  | none => (s, false)

def picks : List Alternative := [.ready, .alarm, .closed]

def patience : Nat := 1000000

def visitCall (i : Nat) (s : Moved A) : Moved A := exhaust (picks.map (.call i)) patience s

def channelMoves : List ChannelMove := [.expire] ++ picks.map ChannelMove.drive ++ [.release]

def readerMoves : List ConnectionMove := picks.map ConnectionMove.work ++ [.listen]

def visitChannel (i : Nat) (s : Moved A) : Moved A :=
  exhaust (channelMoves.map (.channel i)) patience s

def visitChannelForks (i : Nat) (s : Moved A) : Moved A :=
  let count := (s.bridge.channels[i]?.map fun c => c.forks.length).getD 0
  (List.range count).foldl
    (fun s k => exhaust (picks.map fun p => .channel i (.fork k p)) patience s) s

/-- The reader of a connection: lets go of closed work, works as far as it can, and then
takes in what arrives. -/
def visitReader (i : Nat) : Nat → Moved A → Moved A
  | 0, s => s
  | fuel + 1, s =>
    let s := (once [.connection i .release] s).1
    let s := exhaust (readerMoves.map (.connection i)) patience s
    let (s, arrived) := once [.connection i .arrive] s
    if arrived then visitReader i fuel s else s

def visitConnection (i : Nat) (s : Moved A) : Moved A :=
  exhaust [.connection i .write] patience (visitReader i patience s)

def visitConnectionForks (i : Nat) (s : Moved A) : Moved A :=
  let count := (s.bridge.connections[i]?.map fun c => c.forks.length).getD 0
  (List.range count).foldl
    (fun s k => exhaust (picks.map fun p => .connection i (.fork k p)) patience s) s

def round (b : Bridge A) : Moved A :=
  let calls := List.range b.calls.length
  let channels := List.range b.channels.length
  let connections := List.range b.connections.length
  let s : Moved A := ⟨b, false⟩
  let s := calls.foldl (fun s i => visitCall i s) s
  let s := connections.foldl (fun s i => visitConnection i s) s
  let s := channels.foldl (fun s i => visitChannel i s) s
  let s := channels.foldl (fun s i => visitChannelForks i s) s
  connections.foldl (fun s i => visitConnectionForks i s) s

def settleWithin : Nat → Bridge A → Bridge A
  | 0, b => b
  | fuel + 1, b =>
    let s := b.round
    if s.moved then settleWithin fuel s.bridge else s.bridge

def settle (b : Bridge A) : Bridge A := settleWithin patience b

def runTo (target : Nat) : Nat → Bridge A → Bridge A
  | 0, b => b
  | fuel + 1, b =>
    match b.nextTimer? with
    | some t =>
      if t ≤ target then runTo target fuel { b with now := t }.settle
      else { b with now := max b.now target }.settle
    | none => { b with now := max b.now target }.settle

def elapse (b : Bridge A) (delay : Nat) : Bridge A :=
  let b := b.settle
  runTo (b.now + delay) (delay + 1) b

def runUntil (stop : Bridge A → Bool) (target : Nat) : Nat → Bridge A → Bridge A
  | 0, b => b
  | fuel + 1, b =>
    if stop b then b
    else
      match b.nextTimer? with
      | some t =>
        if t ≤ target then runUntil stop target fuel { b with now := t }.settle
        else { b with now := max b.now target }.settle
      | none => { b with now := max b.now target }.settle

def waitLimit : Nat := 3600000

def isRunning (b : Bridge A) (index : Nat) : Bool :=
  match b.calls[index]? with
  | some (.running ..) => true
  | _ => false

def await (b : Bridge A) (index : Nat) : Bridge A × Option (Except BridgeError Json) :=
  let b := b.settle
  let b := runUntil (fun b => !b.isRunning index) (b.now + waitLimit) (waitLimit + 1) b
  (b, b.answer? index)

def call (b : Bridge A) (name : String) (payload : Json) :
    Bridge A × Option (Except BridgeError Json) :=
  (b.beginCall name payload).await b.calls.length

end CommandBridge.Bridge
