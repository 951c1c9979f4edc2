import CommandBridge.Channel.Basic

/-!
# The moves of a channel

What a channel may do by itself: its attach timer, the end of a cancelled handler, one
step of the handler, of a task it started, or of queueing the terminal message. Several
moves may be open at a time, and any of them may come first.
-/

set_option autoImplicit false

namespace CommandBridge

inductive ChannelMove where
  | expire
  | release
  | drive (pick : Alternative)
  | fork (index : Nat) (pick : Alternative)
deriving DecidableEq, Repr

namespace Channel

variable {W S : Type}

def push (o : Outbox ChannelMessage) (ticket : Nat) (v : Payload) :
    Attempt (Outbox ChannelMessage) :=
  if o.cancelled then .settled (o.leave ticket) (some (.closed .channel))
  else
    match v with
    | .unserializable reason => .settled o (some (.unserializable .channel reason))
    | .json v =>
      match o.offer ticket (.data v.toTransportCase) with
      | .refused o => .settled o (some (.closed .channel))
      | .taken o => .settled o none
      | .queued o => .queued o
      | .blocked => .blocked

def view : ClientView (Outbox ChannelMessage) Payload := ⟨push, Outbox.isClosed⟩

def driveTicket : Nat := 0

def lastMessage : Outcome Unit → ChannelMessage
  | .done () => .close
  | .failed e => .error (e.toBridgeError .channelError)
  | .panicked p => .error (.of .channelError p.message)

def phaseOf : ChannelMessage → Lifecycle
  | .error _ => .failed
  | _ => .closing

def conclude (c : Channel S) (outcome : Outcome Unit) : Channel S :=
  let last := lastMessage outcome
  if c.phase.canMove (phaseOf last) then { c.advance (phaseOf last) with drive := .ending last }
  else { c with drive := .finished }

def driveStep (b : Behaviour W (Outlet W Payload S) Unit S) (now : Nat) (pick : Alternative)
    (w : W) (c : Channel S) : Option (W × Channel S) :=
  match c.drive with
  | .running t =>
    (t.clientStep b view now pick driveTicket w c.outbox).map fun (w, outbox, turn) =>
      let c := { c with outbox := outbox }
      match turn with
      | .onward t => (w, { c with drive := .running t })
      | .forked start t =>
        (w, { c with drive := .running t, forks := c.forks ++ [some (Task.at start)] })
      | .ended outcome => (w, c.conclude outcome)
  | .ending last =>
    match c.outbox.offer driveTicket last with
    | .refused o | .taken o => some (w, { c with outbox := o, drive := .finished })
    | .queued o => some (w, { c with outbox := o })
    | .blocked => none
  | _ => none

def forkStep (b : Behaviour W (Outlet W Payload S) Unit S) (now : Nat) (index : Nat)
    (pick : Alternative) (w : W) (c : Channel S) : Option (W × Channel S) :=
  match c.forks[index]? with
  | some (some t) =>
    (t.clientStep b view now pick (index + 1) w c.outbox).map fun (w, outbox, turn) =>
      let c := { c with outbox := outbox }
      match turn with
      | .onward t => (w, { c with forks := c.forks.set index (some t) })
      | .forked start t =>
        (w, { c with forks := c.forks.set index (some t) ++ [some (Task.at start)] })
      | .ended _ => (w, { c with forks := c.forks.set index none })
  | _ => none

def releaseStep (b : Behaviour W (Outlet W Payload S) Unit S) (w : W) (c : Channel S) :
    Option (W × Channel S) :=
  if c.outbox.cancelled then
    match c.drive with
    | .running t =>
      some (b.release t.state w,
        { c with drive := .finished, outbox := c.outbox.leave driveTicket })
    | .ending _ => some (w, { c with drive := .finished, outbox := c.outbox.leave driveTicket })
    | _ => none
  else none

def move (b : Behaviour W (Outlet W Payload S) Unit S) (now : Nat) (w : W) (c : Channel S) :
    ChannelMove → Option (W × Channel S)
  | .expire =>
    match c.expiry with
    | some due => if due ≤ now then some (w, c.expire) else none
    | none => none
  | .release => c.releaseStep b w
  | .drive pick => c.driveStep b now pick w
  | .fork index pick => c.forkStep b now index pick w

def timers (b : Behaviour W (Outlet W Payload S) Unit S) (c : Channel S) : List Nat :=
  let task (t : Task S) := t.timer? Outlet.alarm? b
  c.expiry.toList ++
    (match c.drive with
      | .running t => (task t).toList
      | _ => []) ++ c.forks.filterMap fun f => f.bind task

end Channel
end CommandBridge
