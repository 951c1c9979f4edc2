import CommandBridge.Socket.Connection

/-!
# The moves of a connection

What a connection may do by itself: letting go of work when the session was closed, one
step of the reader's work, taking in what arrives, listening for the next frame, one step
of the writer, or of a task that a handler started. Several moves may be open at a time.
-/

set_option autoImplicit false

namespace CommandBridge

inductive ConnectionMove where
  | release
  | work (pick : Alternative)
  | arrive
  | listen
  | write
  | fork (index : Nat) (pick : Alternative)
deriving DecidableEq, Repr

namespace Connection

variable {A : Application}

inductive WorkStep (A : Application) where
  | onward (c : Connection A) (work : Work A.Socket)
  /-- The work is over; `failed` when it ended in an error that was reported. -/
  | ended (c : Connection A) (failed : Bool)

def failureOf? : Outcome Unit → Option BridgeError
  | .done () => none
  | .failed e => some (e.toBridgeError .executionError)
  | .panicked p => some (.of .executionError p.message)

def workStep (now : Nat) (pick : Alternative) (w : A.World) (c : Connection A) :
    Work A.Socket → Option (A.World × WorkStep A)
  | .running t =>
    (t.clientStep A.socket (view c.handler) now pick readerTicket w c.outbox).map
      fun (w, outbox, turn) =>
        let c := { c with outbox := outbox }
        match turn with
        | .onward t => (w, .onward c (.running t))
        | .forked start t =>
          (w, .onward { c with forks := c.forks ++ [some (Task.at start)] } (.running t))
        | .ended outcome =>
          match failureOf? outcome with
          | none => (w, .ended c false)
          | some e => (w, .onward c (.reporting e))
  | .reporting e =>
    match offerFrame c.outbox readerTicket (.ofError e) with
    | .settled o _ => some (w, .ended { c with outbox := o } true)
    | .queued o => some (w, .onward { c with outbox := o } (.reporting e))
    | .blocked => none

def readerStep (now : Nat) (pick : Alternative) (w : A.World) (c : Connection A) :
    Option (A.World × Connection A) :=
  match c.reader with
  | .connecting work =>
    (c.workStep now pick w work).map fun (w, s) =>
      match s with
      | .onward c work => (w, { c with reader := .connecting work })
      | .ended c failed => (w, if failed then c.leave true else c.opened)
  | .handling work =>
    (c.workStep now pick w work).map fun (w, s) =>
      match s with
      | .onward c work => (w, { c with reader := .handling work })
      | .ended c _ => (w, { c with reader := .listening })
  | .disconnecting rejected work =>
    (c.workStep now pick w work).map fun (w, s) =>
      match s with
      | .onward c work => (w, { c with reader := .disconnecting rejected work })
      | .ended c _ => (w, c.finish rejected)
  | _ => none

def releaseWork (work : Work A.Socket) (w : A.World) : A.World :=
  match work with
  | .running t => A.socket.release t.state w
  | .reporting _ => w

def abandon (c : Connection A) (work : Work A.Socket) (w : A.World) : A.World × Connection A :=
  (releaseWork work w, { c with outbox := c.outbox.leave readerTicket }.leave false)

/-- The work that the end of the session interrupts. -/
def guardedWork? (c : Connection A) : Option (Work A.Socket) :=
  match c.reader with
  | .connecting work => some work
  | .handling work => some work
  | _ => none

def releaseStep (w : A.World) (c : Connection A) : Option (A.World × Connection A) :=
  match c.guardedWork? with
  | some work => if c.outbox.cancelled then some (c.abandon work w) else none
  | none => none

def arriveStep (now : Nat) (w : A.World) (c : Connection A) : Option (A.World × Connection A) :=
  match c.guardedWork? with
  | none => none
  | some work =>
    if c.outbox.capacity ≤ c.backlog.length then none
    else
      match c.inbound.next now with
      | .frame text rest => some (w, { c with inbound := rest, backlog := c.backlog ++ [text] })
      | .later rest => some (w, { c with inbound := rest })
      | .gone => some (c.abandon work w)
      | .blocked => none

def takeUp (c : Connection A) (text : String) : Connection A :=
  if c.outbox.cancelled then c.leave false else c.begin text

def listenStep (now : Nat) (c : Connection A) : Option (Connection A) :=
  match c.reader with
  | .listening =>
    match c.backlog with
    | text :: rest => some ({ c with backlog := rest }.takeUp text)
    | [] =>
      if c.outbox.cancelled then some (c.leave false)
      else
        match c.inbound.next now with
        | .frame text rest => some ({ c with inbound := rest }.takeUp text)
        | .later rest => some { c with inbound := rest }
        | .gone => some (c.leave false)
        | .blocked => none
  | _ => none

def sendStep (now : Nat) (draining : Bool) (frame : String) (outbox : Outbox String)
    (c : Connection A) : Connection A :=
  match c.sink.accept frame with
  | some sink =>
    { c with outbox := outbox, sink := sink, writer := .sending (now + sink.delay) draining }
  | none => { c with outbox := if draining then outbox else outbox.cancel, writer := .ended }

def writeStep (now : Nat) (c : Connection A) : Option (Connection A) :=
  match c.writer, c.outbox.take? with
  | .receiving, some (frame, outbox) => some (c.sendStep now false frame outbox)
  | .receiving, none => if c.outbox.cancelled then some { c with writer := .draining } else none
  | .sending due draining, _ =>
    if due ≤ now then some { c with writer := if draining then .draining else .receiving } else none
  | .draining, some (frame, outbox) => some (c.sendStep now true frame outbox)
  | .draining, none => some { c with sink := { c.sink with closed := true }, writer := .ended }
  | .ended, _ => none

def forkStep (now : Nat) (index : Nat) (pick : Alternative) (w : A.World) (c : Connection A) :
    Option (A.World × Connection A) :=
  match c.forks[index]? with
  | some (some t) =>
    (t.clientStep A.socket (view c.handler) now pick (index + 1) w c.outbox).map
      fun (w, outbox, turn) =>
        let c := { c with outbox := outbox }
        match turn with
        | .onward t => (w, { c with forks := c.forks.set index (some t) })
        | .forked start t =>
          (w, { c with forks := c.forks.set index (some t) ++ [some (Task.at start)] })
        | .ended _ => (w, { c with forks := c.forks.set index none })
  | _ => none

def move (now : Nat) (w : A.World) (c : Connection A) :
    ConnectionMove → Option (A.World × Connection A)
  | .release => c.releaseStep w
  | .work pick => c.readerStep now pick w
  | .arrive => c.arriveStep now w
  | .listen => (c.listenStep now).map fun c => (w, c)
  | .write => (c.writeStep now).map fun c => (w, c)
  | .fork index pick => c.forkStep now index pick w

def work? (c : Connection A) : Option (Work A.Socket) :=
  match c.reader with
  | .connecting work => some work
  | .handling work => some work
  | .disconnecting _ work => some work
  | _ => none

def drop (c : Connection A) (w : A.World) : A.World × Connection A :=
  (match c.work? with
    | some work => releaseWork work w
    | none => w,
    { c with outbox := { c.outbox with receiving := false }, reader := .ended, writer := .ended })

def timers (c : Connection A) : List Nat :=
  let task (t : Task A.Socket) := t.timer? Outlet.alarm? A.socket
  (match c.work? with
    | some (.running t) => (task t).toList
    | _ => []) ++
    (match c.writer with
      | .sending due _ => [due]
      | _ => []) ++
    (match c.reader with
      | .ended => []
      | _ => c.inbound.timer?.toList) ++ c.forks.filterMap fun f => f.bind task

end Connection
end CommandBridge
