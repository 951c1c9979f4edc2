import CommandBridge.Proofs.Twins.Channels
import CommandBridge.Proofs.Twins.Registries
import CommandBridge.Socket.Move

/-!
# Connections of twins

Connections are alike when everything about them is the same but the states of their handlers,
which are related, and those frames by which an internal error is told. Every move of a
connection keeps them alike: when a move is open and where it leads depend on nothing else.
-/

set_option autoImplicit false

open scoped Relator

namespace CommandBridge

inductive FrameAlike : String → String → Prop where
  | same (text : String) : FrameAlike text text
  | error {e e' : BridgeError} (error : e.Alike e') :
      FrameAlike (SocketEnvelope.ofError e).text (SocketEnvelope.ofError e').text

structure Sink.Alike (s s' : Sink) : Prop where
  delay : s.delay = s'.delay
  limit : s.limit = s'.limit
  taken : List.Forall₂ FrameAlike s.taken s'.taken
  closed : s.closed = s'.closed

theorem Sink.Alike.accept {s s' : Sink} (h : s.Alike s') {f f' : String} (frames : FrameAlike f f') :
    Option.Rel Sink.Alike (s.accept f) (s'.accept f') := by
  apply ite_related (by rw [h.limit, h.taken.length_eq])
  · exact .none
  · exact .some { h with taken := .cons frames h.taken }

section Work

variable {S S' : Type} {State : S → S' → Prop}

inductive Work.Alike (State : S → S' → Prop) : Work S → Work S' → Prop where
  | running {t : Task S} {t' : Task S'} (task : t.Alike State t') :
      Alike State (.running t) (.running t')
  | reporting {e e' : BridgeError} (error : e.Alike e') : Alike State (.reporting e) (.reporting e')

inductive Reader.Alike (State : S → S' → Prop) : Reader S → Reader S' → Prop where
  | connecting {k : Work S} {k' : Work S'} (work : k.Alike State k') :
      Alike State (.connecting k) (.connecting k')
  | listening : Alike State .listening .listening
  | handling {k : Work S} {k' : Work S'} (work : k.Alike State k') :
      Alike State (.handling k) (.handling k')
  | disconnecting (rejected : Bool) {k : Work S} {k' : Work S'} (work : k.Alike State k') :
      Alike State (.disconnecting rejected k) (.disconnecting rejected k')
  | ended : Alike State .ended .ended

end Work

section Connections

variable {A B : Application}

structure Connection.Alike (t : Twins A B) (c : Connection A) (c' : Connection B) : Prop where
  handler : c.handler.Alike t c'.handler
  definitions : c.definitions = c'.definitions
  phase : c.phase = c'.phase
  outbox : c.outbox.Alike FrameAlike c'.outbox
  inbound : c.inbound = c'.inbound
  backlog : c.backlog = c'.backlog
  reader : c.reader.Alike t.Socket c'.reader
  writer : c.writer = c'.writer
  sink : c.sink.Alike c'.sink
  forks : List.Forall₂ (Option.Rel (Task.Alike t.Socket)) c.forks c'.forks

namespace Connection

variable {t : Twins A B}

/-- The reader meets frames of the same kind; callbacks start in related states. -/
inductive FrameWork.Alike (t : Twins A B) : FrameWork A → FrameWork B → Prop where
  | ignored : Alike t .ignored .ignored
  | refused (e : BridgeError) : Alike t (.refused e) (.refused e)
  | callback (event : String) (data : Json) {s : A.Socket} {s' : B.Socket} (start : t.Socket s s') :
      Alike t (.callback event data s) (.callback event data s')

inductive WorkStep.Alike (t : Twins A B) : WorkStep A → WorkStep B → Prop where
  | onward {c : Connection A} {c' : Connection B} {k : Work A.Socket} {k' : Work B.Socket}
      (connection : c.Alike t c') (work : k.Alike t.Socket k') :
      Alike t (.onward c k) (.onward c' k')
  | ended {c : Connection A} {c' : Connection B} (connection : c.Alike t c') (failed : Bool) :
      Alike t (.ended c failed) (.ended c' failed)

theorem offerFrame_alike {o o' : Outbox String} (h : o.Alike FrameAlike o') (ticket : Nat)
    {e e' : SocketEnvelope} (frames : FrameAlike e.text e'.text) :
    (offerFrame o ticket e).Alike (Outbox.Alike FrameAlike) (offerFrame o' ticket e') := by
  unfold offerFrame
  match o.offer ticket e.text, o'.offer ticket e'.text, h.offer frames with
  | _, _, .refused outbox => exact .settled outbox _
  | _, _, .taken outbox => exact .settled outbox _
  | _, _, .queued outbox => exact .queued outbox
  | _, _, .blocked => exact .blocked

theorem view_alike {s : SocketHandler A} {s' : SocketHandler B} (h : s.Alike t s') :
    (view s).Alike (Outbox.Alike FrameAlike) SocketRequest.Alike (view s') where
  isClosed outbox := outbox.cancelled
  push := by
    intro o o' outbox ticket q q' request
    cases request with
    | event name data =>
      simp only [view, push, h.serverEvents, h.name]
      apply ite_related Iff.rfl
      · exact .settled outbox _
      cases data with
      | unserializable reason => exact .settled outbox _
      | json v => exact offerFrame_alike outbox ticket (.same _)
    | error error => exact offerFrame_alike outbox ticket (.error error)
    | close => exact .settled outbox.cancel _

theorem frameWork_alike {s : SocketHandler A} {s' : SocketHandler B} (h : s.Alike t s')
    {table table' : Definitions} (tables : table = table') (text : String) :
    (frameWork s table text).Alike t (frameWork s' table' text) := by
  subst tables
  unfold frameWork
  cases SocketEnvelope.ofText? text with
  | none => exact .refused _
  | some e =>
    simp only [h.clientEvents]
    match Keyed.lookup e.event s'.clientEvents, Keyed.lookup e.event s.callbacks,
      Keyed.lookup e.event s'.callbacks, Keyed.lookup_related h.callbacks e.event with
    | none, _, _, _ => exact .ignored
    | some _, _, _, .none => exact .ignored
    | some type, _, _, .some states =>
      dsimp only
      cases validate table e.event type e.data.toTransportCase with
      | error e => exact .refused e
      | ok => exact .callback _ _ (states _)

namespace Alike

variable {c : Connection A} {c' : Connection B}

theorem advance (h : c.Alike t c') (next : Lifecycle) : (c.advance next).Alike t (c'.advance next) :=
  { h with phase := congrArg (Lifecycle.advance · next) h.phase }

theorem setOutbox (h : c.Alike t c') {o o' : Outbox String} (outbox : o.Alike FrameAlike o') :
    ({ c with outbox := o } : Connection A).Alike t { c' with outbox := o' } :=
  { h with outbox := outbox }

theorem opened (h : c.Alike t c') : c.opened.Alike t c'.opened :=
  { h.advance .open with reader := .listening }

theorem finish (h : c.Alike t c') (rejected : Bool) :
    (c.finish rejected).Alike t (c'.finish rejected) :=
  { h.advance _ with outbox := h.outbox.cancel, reader := .ended }

theorem leave (h : c.Alike t c') (rejected : Bool) :
    (c.leave rejected).Alike t (c'.leave rejected) := by
  have leaving : (if rejected then c else c.advance .closing).Alike t
      (if rejected then c' else c'.advance .closing) := ite_related Iff.rfl h (h.advance .closing)
  unfold Connection.leave
  dsimp only
  match (if rejected then c else c.advance .closing).handler.onDisconnect,
    (if rejected then c' else c'.advance .closing).handler.onDisconnect,
    leaving.handler.onDisconnect with
  | _, _, .none => exact leaving.finish rejected
  | _, _, .some hook =>
    exact { leaving with reader := .disconnecting rejected (.running (Task.at_alike hook)) }

theorem begin (h : c.Alike t c') (text : String) : (c.begin text).Alike t (c'.begin text) := by
  unfold Connection.begin
  match frameWork c.handler c.definitions text, frameWork c'.handler c'.definitions text,
    frameWork_alike h.handler h.definitions text with
  | _, _, .ignored => exact { h with reader := .listening }
  | _, _, .refused e => exact { h with reader := .handling (.reporting rfl) }
  | _, _, .callback _ _ start =>
    exact { h with reader := .handling (.running (Task.at_alike start)) }

theorem takeUp (h : c.Alike t c') (text : String) : (c.takeUp text).Alike t (c'.takeUp text) :=
  ite_related (by rw [h.outbox.cancelled]) (h.leave false) (h.begin text)

end Alike

theorem create_alike {s : SocketHandler A} {s' : SocketHandler B} (h : s.Alike t s')
    (definitions : Definitions) (capacity : Nat) (inbound : Inbound) (sink : Sink) :
    (create s definitions capacity inbound sink).Alike t
      (create s' definitions capacity inbound sink) := by
  have line : sink.Alike sink := ⟨rfl, rfl, List.forall₂_same.mpr fun _ _ => .same _, rfl⟩
  have fresh (reader : Reader A.Socket) (reader' : Reader B.Socket)
      (readers : reader.Alike t.Socket reader') :
      Connection.Alike t ⟨s, definitions, initialPhase, .empty capacity, inbound, [], reader,
        .receiving, sink, []⟩ ⟨s', definitions, initialPhase, .empty capacity, inbound, [], reader',
        .receiving, sink, []⟩ :=
    ⟨h, rfl, rfl, Outbox.empty_alike capacity, rfl, rfl, readers, rfl, line, .nil⟩
  unfold create
  dsimp only
  match s.onConnect, s'.onConnect, h.onConnect with
  | _, _, .none => exact (fresh _ _ .listening).opened
  | _, _, .some hook => exact fresh _ _ (.connecting (.running (Task.at_alike hook)))

namespace Alike

variable {c : Connection A} {c' : Connection B} {w : A.World} {w' : B.World} (worlds : t.World w w')
  {now : Nat} {pick : Alternative}

include worlds

theorem workStep (h : c.Alike t c') {k : Work A.Socket} {k' : Work B.Socket}
    (works : k.Alike t.Socket k') :
    Option.Rel (Both t.World (WorkStep.Alike t)) (c.workStep now pick w k)
      (c'.workStep now pick w' k') := by
  cases works with
  | running task =>
    apply (Task.clientStep_alike t.socket (view_alike h.handler) worlds h.outbox task).map
    rintro ⟨u, o, turn⟩ ⟨u', o', turn'⟩ ⟨world, outbox, turns⟩
    have after := h.setOutbox outbox
    cases turns with
    | onward task => exact ⟨world, .onward after (.running task)⟩
    | forked start task =>
      exact ⟨world, .onward { after with
        forks := h.forks.concat (.some (Task.at_alike start)) } (.running task)⟩
    | ended outcome =>
      cases outcome with
      | done => exact ⟨world, .ended after false⟩
      | failed error => exact ⟨world, .onward after (.reporting (error.toBridgeError _))⟩
      | panicked => exact ⟨world, .onward after (.reporting rfl)⟩
  | @reporting e e' error =>
    unfold Connection.workStep
    dsimp only
    match offerFrame c.outbox readerTicket (.ofError e), offerFrame c'.outbox readerTicket (.ofError e'),
      offerFrame_alike h.outbox readerTicket (.error error) with
    | _, _, .settled outbox _ => exact .some ⟨worlds, .ended (h.setOutbox outbox) true⟩
    | _, _, .queued outbox => exact .some ⟨worlds, .onward (h.setOutbox outbox) (.reporting error)⟩
    | _, _, .blocked => exact .none

theorem readerStep (h : c.Alike t c') :
    Option.Rel (Both t.World (Connection.Alike t)) (c.readerStep now pick w)
      (c'.readerStep now pick w') := by
  unfold Connection.readerStep
  match c.reader, c'.reader, h.reader with
  | _, _, .listening => exact .none
  | _, _, .ended => exact .none
  | _, _, .connecting work =>
    apply (h.workStep worlds work).map
    rintro ⟨u, s⟩ ⟨u', s'⟩ ⟨world, steps⟩
    cases steps with
    | onward after work => exact ⟨world, { after with reader := .connecting work }⟩
    | ended after failed => exact ⟨world, ite_related Iff.rfl (after.leave true) after.opened⟩
  | _, _, .handling work =>
    apply (h.workStep worlds work).map
    rintro ⟨u, s⟩ ⟨u', s'⟩ ⟨world, steps⟩
    cases steps with
    | onward after work => exact ⟨world, { after with reader := .handling work }⟩
    | ended after _ => exact ⟨world, { after with reader := .listening }⟩
  | _, _, .disconnecting rejected work =>
    apply (h.workStep worlds work).map
    rintro ⟨u, s⟩ ⟨u', s'⟩ ⟨world, steps⟩
    cases steps with
    | onward after work => exact ⟨world, { after with reader := .disconnecting rejected work }⟩
    | ended after _ => exact ⟨world, after.finish rejected⟩

theorem releaseWork {k : Work A.Socket} {k' : Work B.Socket} (works : k.Alike t.Socket k') :
    t.World (Connection.releaseWork k w) (Connection.releaseWork k' w') := by
  cases works with
  | running task => exact t.socket.release task.state worlds
  | reporting _ => exact worlds

theorem abandon (h : c.Alike t c') {k : Work A.Socket} {k' : Work B.Socket}
    (works : k.Alike t.Socket k') :
    Both t.World (Connection.Alike t) (c.abandon k w) (c'.abandon k' w') :=
  ⟨releaseWork worlds works, (h.setOutbox h.outbox.leave).leave false⟩

omit worlds in
theorem guardedWork? (h : c.Alike t c') :
    Option.Rel (Work.Alike t.Socket) c.guardedWork? c'.guardedWork? := by
  unfold Connection.guardedWork?
  match c.reader, c'.reader, h.reader with
  | _, _, .connecting work => exact .some work
  | _, _, .handling work => exact .some work
  | _, _, .listening => exact .none
  | _, _, .disconnecting _ _ => exact .none
  | _, _, .ended => exact .none

theorem releaseStep (h : c.Alike t c') :
    Option.Rel (Both t.World (Connection.Alike t)) (c.releaseStep w) (c'.releaseStep w') := by
  unfold Connection.releaseStep
  match c.guardedWork?, c'.guardedWork?, h.guardedWork? with
  | _, _, .none => exact .none
  | _, _, .some work =>
    exact ite_related (by rw [h.outbox.cancelled]) (.some (h.abandon worlds work)) .none

theorem arriveStep (h : c.Alike t c') :
    Option.Rel (Both t.World (Connection.Alike t)) (c.arriveStep now w) (c'.arriveStep now w') := by
  unfold Connection.arriveStep
  match c.guardedWork?, c'.guardedWork?, h.guardedWork? with
  | _, _, .none => exact .none
  | _, _, .some work =>
    apply ite_related (by rw [h.outbox.capacity, h.backlog])
    · exact .none
    simp only [h.inbound]
    cases c'.inbound.next now with
    | frame text rest =>
      exact .some ⟨worlds, { h with
        inbound := rfl, backlog := congrArg (· ++ [text]) h.backlog }⟩
    | later rest => exact .some ⟨worlds, { h with inbound := rfl }⟩
    | gone => exact .some (h.abandon worlds work)
    | blocked => exact .none

omit worlds in
theorem listenStep (h : c.Alike t c') :
    Option.Rel (Connection.Alike t) (c.listenStep now) (c'.listenStep now) := by
  unfold Connection.listenStep
  match c.reader, c'.reader, h.reader with
  | _, _, .connecting _ => exact .none
  | _, _, .handling _ => exact .none
  | _, _, .disconnecting _ _ => exact .none
  | _, _, .ended => exact .none
  | _, _, .listening =>
    -- However the reader goes on, it does so from a connection whose line or backlog is shorter.
    have after (line : Inbound) (frames : List String) :
        ({ c with inbound := line, backlog := frames, reader := .listening } : Connection A).Alike t
          { c' with inbound := line, backlog := frames, reader := .listening } :=
      { h with inbound := rfl, backlog := rfl, reader := .listening }
    dsimp only
    rw [h.inbound]
    match c.backlog, c'.backlog, h.backlog with
    | text :: rest, _, rfl => exact .some ((after _ rest).takeUp text)
    | [], _, rfl =>
      apply ite_related (by rw [h.outbox.cancelled])
      · exact .some (h.leave false)
      cases c'.inbound.next now with
      | frame text rest => exact .some ((after rest []).takeUp text)
      | later rest => exact .some (after rest [])
      | gone => exact .some (h.leave false)
      | blocked => exact .none

omit worlds in
theorem sendStep (h : c.Alike t c') {f f' : String} (frames : FrameAlike f f')
    {o o' : Outbox String} (outbox : o.Alike FrameAlike o') (draining : Bool) :
    (c.sendStep now draining f o).Alike t (c'.sendStep now draining f' o') := by
  unfold Connection.sendStep
  match c.sink.accept f, c'.sink.accept f', h.sink.accept frames with
  | _, _, .none => 
    exact { h with outbox := ite_related Iff.rfl outbox outbox.cancel, writer := rfl }
  | some s, some s', .some sink =>
    have due : Writer.sending (now + s.delay) draining = .sending (now + s'.delay) draining := by
      rw [sink.delay]
    exact { h with outbox := outbox, sink := sink, writer := due }

omit worlds in
theorem writeStep (h : c.Alike t c') :
    Option.Rel (Connection.Alike t) (c.writeStep now) (c'.writeStep now) := by
  unfold Connection.writeStep
  match c.writer, c'.writer, h.writer, c.outbox.take?, c'.outbox.take?, h.outbox.take? with
  | .receiving, _, rfl, _, _, .some next => exact .some (h.sendStep next.1 next.2 false)
  | .receiving, _, rfl, _, _, .none =>
    exact ite_related (by rw [h.outbox.cancelled]) (.some { h with writer := rfl }) .none
  | .sending due draining, _, rfl, _, _, _ =>
    exact ite_related Iff.rfl (.some { h with writer := rfl }) .none
  | .draining, _, rfl, _, _, .some next => exact .some (h.sendStep next.1 next.2 true)
  | .draining, _, rfl, _, _, .none =>
    exact .some { h with sink := { h.sink with closed := rfl }, writer := rfl }
  | .ended, _, rfl, _, _, _ => exact .none

theorem forkStep (h : c.Alike t c') (index : Nat) :
    Option.Rel (Both t.World (Connection.Alike t)) (c.forkStep now index pick w)
      (c'.forkStep now index pick w') := by
  unfold Connection.forkStep
  match c.forks[index]?, c'.forks[index]?, h.forks.getElem? index with
  | _, _, .none => exact .none
  | _, _, .some .none => exact .none
  | _, _, .some (.some task) =>
    apply (Task.clientStep_alike t.socket (view_alike h.handler) worlds h.outbox task).map
    rintro ⟨u, o, turn⟩ ⟨u', o', turn'⟩ ⟨world, outbox, turns⟩
    cases turns with
    | onward task =>
      exact ⟨world, { h with outbox := outbox, forks := h.forks.set index (.some task) }⟩
    | forked start task =>
      exact ⟨world, { h with
        outbox := outbox
        forks := (h.forks.set index (.some task)).concat (.some (Task.at_alike start)) }⟩
    | ended _ => exact ⟨world, { h with outbox := outbox, forks := h.forks.set index .none }⟩

/-- The moves of connections that are alike are open together and lead to connections alike. -/
theorem move (h : c.Alike t c') (m : ConnectionMove) :
    Option.Rel (Both t.World (Connection.Alike t)) (c.move now w m) (c'.move now w' m) := by
  cases m with
  | release => exact h.releaseStep worlds
  | work pick => exact h.readerStep worlds
  | arrive => exact h.arriveStep worlds
  | listen => exact h.listenStep.map fun _ _ after => ⟨worlds, after⟩
  | write => exact h.writeStep.map fun _ _ after => ⟨worlds, after⟩
  | fork index pick => exact h.forkStep worlds index

theorem drop (h : c.Alike t c') : Both t.World (Connection.Alike t) (c.drop w) (c'.drop w') := by
  refine ⟨?_, { h with outbox := { h.outbox with receiving := rfl }, reader := .ended, writer := rfl }⟩
  unfold Connection.drop Connection.work?
  match c.reader, c'.reader, h.reader with
  | _, _, .connecting work => exact releaseWork worlds work
  | _, _, .handling work => exact releaseWork worlds work
  | _, _, .disconnecting _ work => exact releaseWork worlds work
  | _, _, .listening => exact worlds
  | _, _, .ended => exact worlds

end Alike
end Connection
end Connections
end CommandBridge
