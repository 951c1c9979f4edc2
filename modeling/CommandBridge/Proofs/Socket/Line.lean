import CommandBridge.Proofs.Socket.Progress

/-!
# The line of a connection

Frames are sent through a connection by its handlers and in report of their errors, and the
line to the client takes them. `Carried` tells all that an act can do to the queue in between.
-/

set_option autoImplicit false

namespace CommandBridge

inductive LineEvent where
  | sent (frame : String)
  | closed
  | handed (frame : String)
  | broke (frame : String)

structure Outbox.Later (o o' : Outbox String) : Prop where
  capacity : o'.capacity = o.capacity
  cancelled : o.cancelled = true → o'.cancelled = true
  receiving : o'.receiving = true → o.receiving = true

theorem Outbox.Later.refl (o : Outbox String) : Outbox.Later o o := ⟨rfl, id, id⟩

theorem Outbox.Later.trans {o o' o'' : Outbox String} (h : Outbox.Later o o')
    (h' : Outbox.Later o' o'') : Outbox.Later o o'' where
  capacity := h'.capacity.trans h.capacity
  cancelled late := h'.cancelled (h.cancelled late)
  receiving there := h.receiving (h'.receiving there)

theorem Outbox.Later.isClosed {o o' : Outbox String} (h : Outbox.Later o o')
    (closed : o.isClosed = true) : o'.isClosed = true := by
  by_cases cancelled : o.cancelled = true
  · exact Outbox.isClosed_of_cancelled (h.cancelled cancelled)
  · have gone : o.receiving = false := by simpa [Outbox.isClosed, cancelled] using closed
    have gone' : o'.receiving = false := by
      by_contra there
      simp [h.receiving (by simpa using there)] at gone
    simp [Outbox.isClosed, gone']

namespace Connection

variable {A : Application} {handler : SocketHandler A} {c d : Connection A} {log : List LineEvent}
  {o o' : Outbox String} {k : Nat} {r : SocketRequest}

theorem push_cases (handler : SocketHandler A) (o : Outbox String) (k : Nat) (r : SocketRequest) :
    (r = .close ∧ push handler o k r = .settled o.cancel none) ∨
    (r ≠ .close ∧ ∃ failure, push handler o k r = .settled o (some failure)) ∨
    ∃ frame, r ≠ .close ∧ frame? handler r = some frame ∧
      ((o.isClosed = true ∧ push handler o k r = .settled (o.leave k) (some (.closed .socket))) ∨
      (o.isClosed = false ∧ push handler o k r = .settled (o.accept k frame) none) ∨
      (o.isClosed = false ∧ push handler o k r = .queued (o.line k)) ∨
      (o.isClosed = false ∧ push handler o k r = .blocked)) := by
  have framed (e : SocketEnvelope) :
      (o.isClosed = true ∧ offerFrame o k e = .settled (o.leave k) (some (.closed .socket))) ∨
      (o.isClosed = false ∧ offerFrame o k e = .settled (o.accept k e.text) none) ∨
      (o.isClosed = false ∧ offerFrame o k e = .queued (o.line k)) ∨
      (o.isClosed = false ∧ offerFrame o k e = .blocked) := by
    rcases o.offer_cases k e.text with ⟨closed, he⟩ | ⟨going, -, -, he⟩ | ⟨going, -, he⟩ |
        ⟨going, -, -, he⟩
    · exact .inl ⟨closed, by simp [offerFrame, he]⟩
    · exact .inr (.inl ⟨going, by simp [offerFrame, he]⟩)
    · exact .inr (.inr (.inl ⟨going, by simp [offerFrame, he]⟩))
    · exact .inr (.inr (.inr ⟨going, by simp [offerFrame, he]⟩))
  cases r with
  | close => exact .inl ⟨rfl, rfl⟩
  | error e => exact .inr (.inr ⟨_, by simp, rfl, framed (.ofError e)⟩)
  | event name data =>
    have other : SocketRequest.event name data ≠ .close := by simp
    by_cases declared : Keyed.contains name handler.serverEvents = true
    · cases data with
      | unserializable reason => exact .inr (.inl ⟨other, _, by simp [push, declared]; rfl⟩)
      | json v =>
        refine .inr (.inr ⟨SocketEnvelope.text ⟨name, v.toTransportCase⟩, other, ?_, ?_⟩)
        · simp [frame?, declared]
        · simpa [push, declared] using framed ⟨name, v.toTransportCase⟩
    · exact .inr (.inl ⟨other, _, by simp [push, declared]; rfl⟩)

/-- Nothing gets into an outbox that is closed, and whoever tries is told. -/
theorem push_closed (handler : SocketHandler A) (closed : o.isClosed = true) (k : Nat)
    (other : r ≠ .close) : ∃ o' failure, push handler o k r = .settled o' (some failure) ∧
      o'.queue = o.queue := by
  rcases push_cases handler o k r with ⟨same, -⟩ | ⟨-, failure, e⟩ | ⟨frame, -, -, h⟩
  · exact absurd same other
  · exact ⟨o, failure, e, rfl⟩
  · rcases h with ⟨-, e⟩ | ⟨going, -⟩ | ⟨going, -⟩ | ⟨going, -⟩
    · exact ⟨_, _, e, rfl⟩
    · rw [closed] at going; cases going
    · rw [closed] at going; cases going
    · rw [closed] at going; cases going

def pushed (handler : SocketHandler A) (o : Outbox String) (ticket : Nat) (r : SocketRequest) :
    List LineEvent :=
  match push handler o ticket r with
  | .settled _ none =>
    match r with
    | .close => [.closed]
    | _ => (frame? handler r).toList.map .sent
  | _ => []

def taskEvents (c : Connection A) (ticket : Nat) (t : Task A.Socket) : List LineEvent :=
  match t.pushes? A.socket with
  | some r => pushed c.handler c.outbox ticket r
  | none => []

def workEvents (c : Connection A) : Work A.Socket → List LineEvent
  | .running t => c.taskEvents readerTicket t
  | .reporting e => pushed c.handler c.outbox readerTicket (.error e)

def writerEvents (c : Connection A) : List LineEvent :=
  match c.writer, c.outbox.queue with
  | .receiving, frame :: _ | .draining, frame :: _ =>
    [if (c.sink.accept frame).isSome then .handed frame else .broke frame]
  | _, _ => []

def lineEvents (c : Connection A) : ConnectionAct → List LineEvent
  | .move _ (.work _) =>
    match c.work? with
    | some work => c.workEvents work
    | none => []
  | .move _ (.fork index _) =>
    match c.forks[index]? with
    | some (some t) => c.taskEvents (index + 1) t
    | _ => []
  | .move _ .write => c.writerEvents
  | _ => []

inductive Pushed (o o' : Outbox String) : List LineEvent → Prop where
  | quiet (later : o.Later o') (queue : o'.queue = o.queue) : Pushed o o' []
  | closed (later : o.Later o') (queue : o'.queue = o.queue) (cancelled : o'.cancelled = true) :
      Pushed o o' [.closed]
  | sent {frame : String} (later : o.Later o') (going : o.isClosed = false)
      (queue : o'.queue = o.queue ++ [frame]) : Pushed o o' [.sent frame]

theorem Pushed.later {es : List LineEvent} (h : Pushed o o' es) : o.Later o' := by
  cases h with
  | quiet later => exact later
  | closed later => exact later
  | sent later => exact later

theorem Pushed.before {es : List LineEvent} {o'' : Outbox String} (h : Pushed o o' es)
    (later : o'.Later o'') (queue : o''.queue = o'.queue) : Pushed o o'' es := by
  cases h with
  | quiet first same => exact .quiet (first.trans later) (queue.trans same)
  | closed first same cancelled =>
    exact .closed (first.trans later) (queue.trans same) (later.cancelled cancelled)
  | sent first going added => exact .sent (first.trans later) going (queue.trans added)

theorem pushed_quiet (o : Outbox String) : Pushed o o [] := .quiet (.refl o) rfl

theorem pushed_settled {failure : Option SendError}
    (e : push handler o k r = .settled o' failure) : Pushed o o' (pushed handler o k r) := by
  rcases push_cases handler o k r with ⟨rfl, p⟩ | ⟨-, failure, p⟩ | ⟨frame, other, carries, h⟩
  · rw [p] at e
    cases e
    exact .closed ⟨rfl, fun _ => rfl, id⟩ rfl rfl
  · rw [p] at e
    cases e
    simp only [pushed, p]
    exact pushed_quiet o
  · rcases h with ⟨-, p⟩ | ⟨going, p⟩ | ⟨-, p⟩ | ⟨-, p⟩
    · rw [p] at e
      cases e
      simp only [pushed, p]
      exact .quiet ⟨rfl, id, id⟩ rfl
    · rw [p] at e
      cases e
      have noted : pushed handler o k r = [.sent frame] := by
        cases r with
        | close => exact absurd rfl other
        | event | error => simp [pushed, p, carries]
      rw [noted]
      exact .sent ⟨rfl, id, id⟩ going rfl
    · rw [p] at e; cases e
    · rw [p] at e; cases e

theorem pushed_queued (e : push handler o k r = .queued o') :
    Pushed o o' (pushed handler o k r) := by
  have noted : pushed handler o k r = [] := by simp only [pushed, e]
  rw [noted]
  rcases push_cases handler o k r with ⟨-, p⟩ | ⟨-, failure, p⟩ | ⟨frame, -, -, h⟩
  · rw [p] at e; cases e
  · rw [p] at e; cases e
  · rcases h with ⟨-, p⟩ | ⟨-, p⟩ | ⟨-, p⟩ | ⟨-, p⟩
    · rw [p] at e; cases e
    · rw [p] at e; cases e
    · rw [p] at e
      cases e
      exact .quiet ⟨rfl, id, id⟩ rfl
    · rw [p] at e; cases e

section Task

variable {now : Nat} {pick : Alternative} {w w' : A.World} {t : Task A.Socket}

theorem pushed_of_step {turn : Turn A.Socket Unit}
    (h : t.clientStep A.socket (view c.handler) now pick k w c.outbox = some (w', o, turn)) :
    Pushed c.outbox o (c.taskEvents k t) := by
  rcases Task.clientStep_cases h with ⟨r, asks, -, answer⟩ | ⟨asks, rfl, -⟩
  · simp only [taskEvents, asks]
    rcases answer with ⟨failure, t', e, -⟩ | ⟨e, -⟩
    · exact pushed_settled e
    · exact pushed_queued e
  · simp only [taskEvents, asks]
    exact pushed_quiet _

theorem taskEvents_of_stuck
    (h : t.clientStep A.socket (view c.handler) now pick k w c.outbox = none) :
    c.taskEvents k t = [] := by
  cases asks : t.pushes? A.socket with
  | none => simp only [taskEvents, asks]
  | some r =>
    have blocked : push c.handler c.outbox k r = .blocked := by
      by_contra going
      have steps : (t.clientStep A.socket (view c.handler) now pick k w c.outbox).isSome = true :=
        Task.clientStep_of_push asks going
      rw [h] at steps
      cases steps
    simp only [taskEvents, asks, pushed, blocked]

end Task

/-- What the reader and the tasks do to the line: they put frames in, or close the session. -/
structure Fed (c d : Connection A) (es : List LineEvent) : Prop where
  push : Pushed c.outbox d.outbox es
  writer : d.writer = c.writer
  sink : d.sink = c.sink
  room : c.backlog.length ≤ c.outbox.capacity → d.backlog.length ≤ c.outbox.capacity

variable {es : List LineEvent}

theorem fed_self (c : Connection A) : Fed c c [] := ⟨pushed_quiet _, rfl, rfl, id⟩

theorem Fed.leave (h : Fed c d es) (rejected : Bool) : Fed c (d.leave rejected) es := by
  have line : (d.leave rejected).writer = d.writer ∧ (d.leave rejected).sink = d.sink ∧
      (d.leave rejected).backlog = d.backlog := by
    unfold Connection.leave finish
    cases rejected
    · simp only [Bool.false_eq_true, if_false]
      split <;> exact ⟨rfl, rfl, rfl⟩
    · simp only [if_true]
      split <;> exact ⟨rfl, rfl, rfl⟩
  have closing : d.outbox.Later (d.leave rejected).outbox ∧
      (d.leave rejected).outbox.queue = d.outbox.queue := by
    obtain ⟨-, -, -, ⟨same, -⟩ | cancelled⟩ := leave_outbox d rejected
    · rw [same]
      exact ⟨.refl _, rfl⟩
    · rw [cancelled]
      exact ⟨⟨rfl, fun _ => rfl, id⟩, rfl⟩
  refine ⟨h.push.before closing.1 closing.2, line.1.trans h.writer, line.2.1.trans h.sink, ?_⟩
  rw [line.2.2]
  exact h.room

theorem Fed.takeUp (h : Fed c d es) (text : String) : Fed c (d.takeUp text) es := by
  unfold Connection.takeUp
  split
  · exact h.leave false
  · unfold begin
    split <;> exact ⟨h.push, h.writer, h.sink, h.room⟩

def WorkStep.connection : WorkStep A → Connection A
  | .onward c _ => c
  | .ended c _ => c

section Moves

variable {now : Nat} {pick : Alternative} {w w' : A.World} {work : Work A.Socket}

theorem fed_workStep {s : WorkStep A} (h : c.workStep now pick w work = some (w', s)) :
    Fed c s.connection (c.workEvents work) := by
  cases work with
  | running t =>
    obtain ⟨⟨w₁, o, turn⟩, stepped, e⟩ := Option.map_eq_some_iff.mp h
    have push := pushed_of_step stepped
    cases turn with
    | onward t' => cases e; exact ⟨push, rfl, rfl, id⟩
    | forked start t' => cases e; exact ⟨push, rfl, rfl, id⟩
    | ended outcome =>
      cases failure : failureOf? outcome with
      | none =>
        simp only [failure] at e
        cases e
        exact ⟨push, rfl, rfl, id⟩
      | some err =>
        simp only [failure] at e
        cases e
        exact ⟨push, rfl, rfl, id⟩
  | reporting e =>
    simp only [workStep] at h
    split at h
    · next o failure settled =>
      cases h
      have settled : push c.handler c.outbox readerTicket (.error e) = .settled o failure := settled
      exact ⟨pushed_settled settled, rfl, rfl, id⟩
    · next o queued =>
      cases h
      have queued : push c.handler c.outbox readerTicket (.error e) = .queued o := queued
      exact ⟨pushed_queued queued, rfl, rfl, id⟩
    · cases h

theorem workEvents_of_stuck (h : c.workStep now pick w work = none) : c.workEvents work = [] := by
  cases work with
  | running t =>
    rw [workStep, Option.map_eq_none_iff] at h
    exact taskEvents_of_stuck h
  | reporting e =>
    simp only [workStep] at h
    split at h
    · cases h
    · cases h
    · next blocked =>
      have blocked : push c.handler c.outbox readerTicket (.error e) = .blocked := blocked
      simp only [workEvents, pushed, blocked]

theorem fed_work (c : Connection A) (w : A.World) (now : Nat) (pick : Alternative) :
    Fed c (c.act w (.move now (.work pick))) (c.lineEvents (.move now (.work pick))) := by
  have idle {work : Work A.Socket} (stuck : c.workStep now pick w work = none) :
      Fed c c (c.workEvents work) := by
    rw [workEvents_of_stuck stuck]
    exact fed_self c
  cases reader : c.reader with
  | listening | ended =>
    simp only [act, move, readerStep, lineEvents, work?, reader]
    exact fed_self c
  | connecting work =>
    simp only [act, move, readerStep, lineEvents, work?, reader]
    cases stepped : c.workStep now pick w work with
    | none => exact idle stepped
    | some r =>
      obtain ⟨w', s⟩ := r
      have fed := fed_workStep stepped
      cases s with
      | onward d work' => exact ⟨fed.push, fed.writer, fed.sink, fed.room⟩
      | ended d failed =>
        cases failed with
        | true => exact fed.leave true
        | false => exact ⟨fed.push, fed.writer, fed.sink, fed.room⟩
  | handling work =>
    simp only [act, move, readerStep, lineEvents, work?, reader]
    cases stepped : c.workStep now pick w work with
    | none => exact idle stepped
    | some r =>
      obtain ⟨w', s⟩ := r
      have fed := fed_workStep stepped
      cases s <;> exact ⟨fed.push, fed.writer, fed.sink, fed.room⟩
  | disconnecting rejected work =>
    simp only [act, move, readerStep, lineEvents, work?, reader]
    cases stepped : c.workStep now pick w work with
    | none => exact idle stepped
    | some r =>
      obtain ⟨w', s⟩ := r
      have fed := fed_workStep stepped
      cases s with
      | onward d work' => exact ⟨fed.push, fed.writer, fed.sink, fed.room⟩
      | ended d failed =>
        exact ⟨fed.push.before ⟨rfl, fun _ => rfl, id⟩ rfl, fed.writer, fed.sink, fed.room⟩

theorem fed_abandon (c : Connection A) :
    Fed c ({ c with outbox := c.outbox.leave readerTicket }.leave false) [] := by
  have aside : Fed c { c with outbox := c.outbox.leave readerTicket } [] :=
    ⟨.quiet ⟨rfl, id, id⟩ rfl, rfl, rfl, id⟩
  exact aside.leave false

theorem fed_release (c : Connection A) (w : A.World) (now : Nat) :
    Fed c (c.act w (.move now .release)) [] := by
  simp only [act, move, releaseStep]
  split
  · split
    · exact fed_abandon c
    · exact fed_self c
  · exact fed_self c

theorem fed_arrive (c : Connection A) (w : A.World) (now : Nat) :
    Fed c (c.act w (.move now .arrive)) [] := by
  simp only [act, move, arriveStep]
  split
  · exact fed_self c
  split
  · exact fed_self c
  next room =>
  split
  · refine ⟨pushed_quiet _, rfl, rfl, fun _ => ?_⟩
    simp
    omega
  · exact ⟨pushed_quiet _, rfl, rfl, id⟩
  · exact fed_abandon c
  · exact fed_self c

theorem fed_listen (c : Connection A) (w : A.World) (now : Nat) :
    Fed c (c.act w (.move now .listen)) [] := by
  cases reader : c.reader with
  | connecting | handling | disconnecting | ended =>
    simp only [act, move, listenStep, reader]
    exact fed_self c
  | listening =>
    simp only [act, move, listenStep, reader]
    cases backlog : c.backlog with
    | cons text rest =>
      have taken : Fed c { c with backlog := rest, reader := .listening } [] := by
        refine ⟨pushed_quiet _, rfl, rfl, fun room => ?_⟩
        rw [backlog, List.length_cons] at room
        show rest.length ≤ c.outbox.capacity
        omega
      exact taken.takeUp text
    | nil =>
      have empty (inbound : Inbound) :
          Fed c { c with backlog := [], inbound := inbound, reader := .listening } [] :=
        ⟨pushed_quiet _, rfl, rfl, fun _ => Nat.zero_le _⟩
      dsimp only
      split
      · exact (fed_self c).leave false
      split
      · next text rest _ => exact (empty rest).takeUp text
      · next rest _ => exact empty rest
      · exact (fed_self c).leave false
      · exact fed_self c

theorem fed_fork (c : Connection A) (w : A.World) (now index : Nat) (pick : Alternative) :
    Fed c (c.act w (.move now (.fork index pick))) (c.lineEvents (.move now (.fork index pick))) := by
  simp only [act, move, forkStep, lineEvents]
  rcases c.forks[index]? with _ | _ | t
  · exact fed_self c
  · exact fed_self c
  · dsimp only
    cases stepped : t.clientStep A.socket (view c.handler) now pick (index + 1) w c.outbox with
    | none =>
      rw [taskEvents_of_stuck stepped]
      exact fed_self c
    | some r =>
      obtain ⟨w', o, turn⟩ := r
      have push := pushed_of_step stepped
      cases turn <;> exact ⟨push, rfl, rfl, id⟩

end Moves

inductive Written (c : Connection A) : Connection A → List LineEvent → Prop where
  | handed {frame : String} {rest : List String} {sink : Sink} {due : Nat} {draining : Bool}
      (going : c.writer ≠ .ended) (queue : c.outbox.queue = frame :: rest)
      (takes : c.sink.accept frame = some sink) :
      Written c { c with outbox := { c.outbox with queue := rest }, sink := sink,
                         writer := .sending due draining } [.handed frame]
  | broke {frame : String} {rest : List String} {o : Outbox String} (going : c.writer ≠ .ended)
      (queue : c.outbox.queue = frame :: rest) (breaks : c.sink.accept frame = none)
      (later : c.outbox.Later o) (left : o.queue = rest) (receiving : o.receiving = c.outbox.receiving) :
      Written c { c with outbox := o, writer := .ended } [.broke frame]
  | turned {writer : Writer} (going : c.writer ≠ .ended) (goesOn : writer ≠ .ended) :
      Written c { c with writer := writer } []
  | flushed (draining : c.writer = .draining) (queue : c.outbox.queue = []) :
      Written c { c with sink := { c.sink with closed := true }, writer := .ended } []

theorem written_send (now : Nat) (draining : Bool) {frame : String} {rest : List String}
    (going : c.writer ≠ .ended) (queue : c.outbox.queue = frame :: rest) :
    Written c (c.sendStep now draining frame { c.outbox with queue := rest })
      [if (c.sink.accept frame).isSome then .handed frame else .broke frame] := by
  unfold sendStep
  cases takes : c.sink.accept frame with
  | some sink => exact .handed going queue takes
  | none =>
    cases draining with
    | true => exact .broke going queue takes ⟨rfl, id, id⟩ rfl rfl
    | false => exact .broke going queue takes ⟨rfl, fun _ => rfl, id⟩ rfl rfl

theorem written {now : Nat} (h : c.writeStep now = some d) : Written c d c.writerEvents := by
  unfold writeStep at h
  unfold writerEvents
  split at h
  · next frame o writer taken =>
    obtain ⟨rest, queue, rfl⟩ := Outbox.take?_eq_some.mp taken
    cases h
    rw [writer, queue]
    exact written_send now false (by simp [writer]) queue
  · next writer taken =>
    rw [writer, Outbox.take?_eq_none.mp taken]
    split at h
    · cases h
      exact .turned (by simp [writer]) nofun
    · cases h
  · next due draining writer =>
    rw [writer]
    split at h
    · cases h
      exact .turned (by simp [writer]) (by split <;> nofun)
    · cases h
  · next frame o writer taken =>
    obtain ⟨rest, queue, rfl⟩ := Outbox.take?_eq_some.mp taken
    cases h
    rw [writer, queue]
    exact written_send now true (by simp [writer]) queue
  · next writer taken =>
    have queue := Outbox.take?_eq_none.mp taken
    cases h
    rw [writer, queue]
    exact .flushed writer queue
  · cases h

theorem writerEvents_of_stuck {now : Nat} (h : c.writeStep now = none) : c.writerEvents = [] := by
  unfold writeStep Outbox.take? at h
  unfold writerEvents
  cases writer : c.writer with
  | sending | ended => rfl
  | receiving | draining =>
    cases queue : c.outbox.queue with
    | nil => rfl
    | cons frame rest => simp [writer, queue] at h

inductive Carried (c d : Connection A) : List LineEvent → Prop where
  | fed {es : List LineEvent} (fed : Fed c d es) : Carried c d es
  | written {es : List LineEvent} (written : Written c d es) : Carried c d es
  | dropped (outbox : d.outbox = { c.outbox with receiving := false }) (writer : d.writer = .ended)
      (sink : d.sink = c.sink) (backlog : d.backlog = c.backlog) : Carried c d []

theorem carried_act (c : Connection A) (w : A.World) (x : ConnectionAct) :
    Carried c (c.act w x) (c.lineEvents x) := by
  cases x with
  | drop => exact .dropped rfl rfl rfl rfl
  | move now m =>
    cases m with
    | release => exact .fed (fed_release c w now)
    | work pick => exact .fed (fed_work c w now pick)
    | arrive => exact .fed (fed_arrive c w now)
    | listen => exact .fed (fed_listen c w now)
    | fork index pick => exact .fed (fed_fork c w now index pick)
    | write =>
      simp only [act, move, lineEvents]
      cases stepped : c.writeStep now with
      | some d => exact .written (written stepped)
      | none =>
        rw [writerEvents_of_stuck stepped]
        exact .fed (fed_self c)

theorem later_carried {es : List LineEvent} (h : Carried c d es) : c.outbox.Later d.outbox := by
  cases h with
  | fed fed => exact fed.push.later
  | dropped outbox =>
    rw [outbox]
    exact ⟨rfl, id, nofun⟩
  | written written =>
    cases written with
    | handed => exact ⟨rfl, id, id⟩
    | broke _ _ _ later => exact later
    | turned | flushed => exact .refl _

end Connection
end CommandBridge
