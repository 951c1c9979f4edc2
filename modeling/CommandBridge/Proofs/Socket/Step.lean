import CommandBridge.Proofs.Socket.Life

/-!
# What one act does to the reader of a connection

Every act is one of a few steps of the reader, told by its work, the frames it holds and
those still to come. Frames come in by two ways, straight from the client or through the
backlog; both keep their order.
-/

set_option autoImplicit false

namespace CommandBridge.Connection

variable {A : Application}

structure Kin (c d : Connection A) : Prop where
  handler : d.handler = c.handler
  definitions : d.definitions = c.definitions

def unread (c : Connection A) : List String := c.backlog ++ c.inbound.frames

/-- Nothing was looked at and nothing got lost. -/
structure Same (c d : Connection A) : Prop extends Kin c d where
  unread : d.unread = c.unread

inductive Step (c d : Connection A) : List ReaderEvent → Prop where
  | idle (same : Same c d) (reader : d.reader = c.reader) : Step c d []
  | hook {work work' : Work A.Socket} (same : Same c d) (before : c.reader = .connecting work)
      (after : d.reader = .connecting work') : Step c d []
  | opened {work : Work A.Socket} (same : Same c d) (before : c.reader = .connecting work)
      (after : d.reader = .listening) : Step c d []
  | ignored {text : String} (kin : Kin c d) (before : c.reader = .listening)
      (next : c.unread = text :: d.unread)
      (work : frameWork c.handler c.definitions text = .ignored) (after : d.reader = .listening) :
      Step c d [.looked text]
  | refused {text : String} {e : BridgeError} (kin : Kin c d) (before : c.reader = .listening)
      (next : c.unread = text :: d.unread)
      (work : frameWork c.handler c.definitions text = .refused e)
      (after : d.reader = .handling (.reporting e)) : Step c d [.looked text]
  | invoked {text event : String} {data : Json} {start : A.Socket} (kin : Kin c d)
      (before : c.reader = .listening) (next : c.unread = text :: d.unread)
      (work : frameWork c.handler c.definitions text = .callback event data start)
      (after : d.reader = .handling (.running (Task.at start))) :
      Step c d [.looked text, .invoked event data]
  | onward {t t' : Task A.Socket} (same : Same c d) (before : c.reader = .handling (.running t))
      (after : d.reader = .handling (.running t')) : Step c d []
  | served {t : Task A.Socket} {outcome : Outcome Unit} (same : Same c d)
      (before : c.reader = .handling (.running t)) (well : failureOf? outcome = none)
      (after : d.reader = .listening) : Step c d [.returned outcome]
  | failed {t : Task A.Socket} {outcome : Outcome Unit} {e : BridgeError} (same : Same c d)
      (before : c.reader = .handling (.running t)) (failure : failureOf? outcome = some e)
      (after : d.reader = .handling (.reporting e)) : Step c d [.returned outcome]
  | reported {e : BridgeError} (same : Same c d) (before : c.reader = .handling (.reporting e))
      (after : d.reader = .listening) : Step c d [.reported e]
  /-- Only a reader that listens and has looked at every frame finds the session ended. -/
  | left {cause : Departure} (kin : Kin c d) (before : ¬c.IsPast) (after : d.IsPast)
      (all : cause = .ended → c.reader = .listening ∧ c.unread = []) : Step c d [.left cause]
  | past (kin : Kin c d) (before : c.IsPast) (after : d.IsPast) : Step c d []

theorem step_self (c : Connection A) : Step c c [] := .idle ⟨⟨rfl, rfl⟩, rfl⟩ rfl

inductive Worked (c : Connection A) : Work A.Socket → WorkStep A → Prop where
  | onward {t t' : Task A.Socket} {o : Outbox String} (going : t.outcome? A.socket = none)
      (step : t.OutboxStep A.socket (frame? c.handler) readerTicket c.outbox o (.onward t')) :
      Worked c (.running t) (.onward { c with outbox := o } (.running t'))
  | forked {t t' : Task A.Socket} {o : Outbox String} {start : A.Socket}
      (going : t.outcome? A.socket = none)
      (step : t.OutboxStep A.socket (frame? c.handler) readerTicket c.outbox o (.forked start t')) :
      Worked c (.running t)
        (.onward { c with outbox := o, forks := c.forks ++ [some (Task.at start)] } (.running t'))
  | done {t : Task A.Socket} {outcome : Outcome Unit} (ends : t.outcome? A.socket = some outcome)
      (well : failureOf? outcome = none) :
      Worked c (.running t) (.ended { c with outbox := c.outbox } false)
  | failed {t : Task A.Socket} {outcome : Outcome Unit} {e : BridgeError}
      (ends : t.outcome? A.socket = some outcome) (failure : failureOf? outcome = some e) :
      Worked c (.running t) (.onward { c with outbox := c.outbox } (.reporting e))
  | settled {e : BridgeError} {o : Outbox String} (settles : settles c.outbox e = true)
      (offer : o = c.outbox.leave readerTicket ∨
        (c.outbox.isClosed = false ∧ o = c.outbox.accept readerTicket (SocketEnvelope.ofError e).text)) :
      Worked c (.reporting e) (.ended { c with outbox := o } true)
  | queued {e : BridgeError} (waits : settles c.outbox e = false) (going : c.outbox.isClosed = false)
      (fresh : readerTicket ∉ c.outbox.waiting) :
      Worked c (.reporting e) (.onward { c with outbox := c.outbox.line readerTicket } (.reporting e))

theorem worked {c : Connection A} {now : Nat} {pick : Alternative} {w w' : A.World}
    {work : Work A.Socket} {s : WorkStep A} (h : c.workStep now pick w work = some (w', s)) :
    Worked c work s := by
  cases work with
  | running t =>
    obtain ⟨⟨w₁, o, turn⟩, stepped, e⟩ := Option.map_eq_some_iff.mp h
    have step := Task.outboxStep (view_serves c.handler) stepped
    have cases' := Task.clientStep_cases stepped
    cases turn with
    | onward t' =>
      cases e
      refine .onward ?_ step
      rcases cases' with ⟨_, -, going, -⟩ | ⟨-, -, ⟨_, -, e⟩ | ⟨going, -⟩⟩
      · exact going
      · cases e
      · exact going
    | forked start t' =>
      cases e
      refine .forked ?_ step
      rcases cases' with ⟨_, -, going, -⟩ | ⟨-, -, ⟨_, -, e⟩ | ⟨going, -⟩⟩
      · exact going
      · cases e
      · exact going
    | ended outcome =>
      obtain ⟨ends, rfl⟩ : t.outcome? A.socket = some outcome ∧ o = c.outbox := by
        obtain ⟨_, -, -, ⟨_, _, -, e⟩ | ⟨-, e⟩⟩ | ⟨-, same, ⟨_, ends, e⟩ | ⟨-, ⟨_, e⟩ | ⟨_, _, e⟩⟩⟩ :=
          cases'
        · cases e
        · cases e
        · cases e; exact ⟨ends, same⟩
        · cases e
        · cases e
      cases failure : failureOf? outcome with
      | none =>
        simp only [failure] at e
        cases e
        exact .done ends failure
      | some err =>
        simp only [failure] at e
        cases e
        exact .failed ends failure
  | reporting e =>
    simp only [workStep, offerFrame] at h
    obtain ⟨closed, he⟩ | ⟨going, -, -, he⟩ | ⟨going, fresh, he⟩ | ⟨-, -, -, he⟩ :=
      c.outbox.offer_cases readerTicket (SocketEnvelope.ofError e).text
    all_goals rw [he] at h; cases h
    · exact .settled (by simp [settles, offerFrame, he]) (.inl rfl)
    · exact .settled (by simp [settles, offerFrame, he]) (.inr ⟨going, rfl⟩)
    · exact .queued (by simp [settles, offerFrame, he]) going fresh

theorem not_worked {c : Connection A} {now : Nat} {pick : Alternative} {w : A.World}
    {work : Work A.Socket} (h : c.workStep now pick w work = none) :
    (∀ t, work = .running t → t.outcome? A.socket = none) ∧
      ∀ e, work = .reporting e → settles c.outbox e = false := by
  constructor
  · rintro t rfl
    rw [workStep, Option.map_eq_none_iff] at h
    exact Task.outcome?_of_clientStep_none h
  · rintro e rfl
    simp only [workStep] at h
    unfold settles
    split at h
    · cases h
    · cases h
    · next blocked => rw [blocked]

theorem isPast_of_work {c : Connection A} {work : Work A.Socket} (h : c.guardedWork? = some work) :
    ¬c.IsPast := by
  unfold guardedWork? at h
  unfold IsPast
  split at h
  · next e => rw [e]; exact id
  · next e => rw [e]; exact id
  · cases h

theorem leave_isPast (c : Connection A) (rejected : Bool) : (c.leave rejected).IsPast := by
  unfold leave
  cases rejected
  · simp only [Bool.false_eq_true, if_false]
    split <;> trivial
  · simp only [if_true]
    split <;> trivial

theorem leave_kin (c : Connection A) (rejected : Bool) : Kin c (c.leave rejected) := by
  unfold leave
  cases rejected
  · simp only [Bool.false_eq_true, if_false]
    split <;> exact ⟨rfl, rfl⟩
  · simp only [if_true]
    split <;> exact ⟨rfl, rfl⟩

/-- Leaving, from whatever becomes of the rest of the connection. -/
theorem step_leave {c d : Connection A} (kin : Kin c d) (before : ¬c.IsPast) (rejected : Bool)
    (cause : Departure) (all : cause = .ended → c.reader = .listening ∧ c.unread = []) :
    Step c (d.leave rejected) [.left cause] := by
  have h := d.leave_kin rejected
  exact .left ⟨h.handler.trans kin.handler, h.definitions.trans kin.definitions⟩ before
    (d.leave_isPast rejected) all

/-- What asking for the next frame tells of the frames to come. -/
theorem next_frames (line : Inbound) (now : Nat) :
    match line.next now with
    | .frame text rest => line.frames = text :: rest.frames
    | .later rest => rest.frames = line.frames
    | .gone => line.frames = []
    | .blocked => True := by
  obtain ⟨arrivals, since⟩ := line
  match arrivals, since with
  | [], since => rfl
  | .frame text :: rest, since => rfl
  | .silence :: rest, since => trivial
  | .pause delay :: rest, none => rfl
  | .pause delay :: rest, some since =>
    simp only [Inbound.next]
    by_cases due : since + delay ≤ now
    · simp only [if_pos due]
      rfl
    · simp only [if_neg due]

theorem step_takeUp {c d : Connection A} {text : String} (kin : Kin c d)
    (listening : c.reader = .listening) (next : c.unread = text :: d.unread)
    (cancelled : d.outbox.cancelled = c.outbox.cancelled) :
    Step c (d.takeUp text) (c.noteFrame text) := by
  unfold takeUp noteFrame
  rw [cancelled]
  split
  · refine step_leave kin ?_ false .closed (by simp)
    simp [IsPast, listening]
  · have same : frameWork d.handler d.definitions text = frameWork c.handler c.definitions text := by
      rw [kin.handler, kin.definitions]
    unfold begin
    rw [same]
    cases work : frameWork c.handler c.definitions text with
    | ignored => exact .ignored ⟨kin.handler, kin.definitions⟩ listening next work rfl
    | refused e => exact .refused ⟨kin.handler, kin.definitions⟩ listening next work rfl
    | callback event data start =>
      exact .invoked ⟨kin.handler, kin.definitions⟩ listening next work rfl

theorem step_listen (c : Connection A) (w : A.World) (now : Nat) :
    Step c (c.act w (.move now .listen)) (c.noteMove now .listen) := by
  cases reader : c.reader with
  | listening =>
    have before : ¬c.IsPast := by simp [IsPast, reader]
    cases backlog : c.backlog with
    | cons text rest =>
      simp only [act, move, listenStep, noteMove, reader, backlog]
      refine step_takeUp (d := { c with backlog := rest, reader := .listening }) ⟨rfl, rfl⟩ reader ?_ rfl
      simp [unread, backlog]
    | nil =>
      simp only [act, move, listenStep, noteMove, reader, backlog]
      by_cases cancelled : c.outbox.cancelled = true
      · simp only [cancelled, if_true]
        exact step_leave ⟨rfl, rfl⟩ before false .closed (by simp)
      · simp only [cancelled, Bool.false_eq_true, if_false]
        have frames := next_frames c.inbound now
        cases came : c.inbound.next now with
        | frame text rest =>
          rw [came] at frames
          have next : c.unread = text :: ({ c with inbound := rest, backlog := [] }).unread := by
            simp [unread, backlog, frames]
          exact step_takeUp (c := c)
            (d := { c with inbound := rest, backlog := [], reader := .listening }) ⟨rfl, rfl⟩ reader next rfl
        | later rest =>
          rw [came] at frames
          exact .idle ⟨⟨rfl, rfl⟩, by simp [unread, backlog, frames]⟩ reader.symm
        | gone =>
          rw [came] at frames
          refine step_leave ⟨rfl, rfl⟩ before false .ended fun _ => ⟨reader, ?_⟩
          simp [unread, backlog, frames]
        | blocked => exact step_self c
  | connecting work | handling work | disconnecting rejected work | ended =>
    simp only [act, move, listenStep, noteMove, reader]
    exact step_self c

theorem step_release (c : Connection A) (w : A.World) (now : Nat) :
    Step c (c.act w (.move now .release)) (c.noteMove now .release) := by
  simp only [act, move, releaseStep, noteMove]
  cases atWork : c.guardedWork? with
  | none => exact step_self c
  | some work =>
    by_cases cancelled : c.outbox.cancelled = true
    · simp only [cancelled, if_true, Option.isSome_some, Bool.and_self]
      exact step_leave (c := c) (d := { c with outbox := c.outbox.leave readerTicket })
        ⟨rfl, rfl⟩ (isPast_of_work atWork) false .closed (by simp)
    · simp only [cancelled, Bool.false_eq_true, if_false, Bool.and_false]
      exact step_self c

theorem step_arrive (c : Connection A) (w : A.World) (now : Nat) :
    Step c (c.act w (.move now .arrive)) (c.noteMove now .arrive) := by
  simp only [act, move, arriveStep, noteMove]
  cases atWork : c.guardedWork? with
  | none => exact step_self c
  | some work =>
    by_cases full : c.outbox.capacity ≤ c.backlog.length
    · have room : ¬c.backlog.length < c.outbox.capacity := by omega
      simp only [if_pos full, room, decide_false, Bool.and_false, Bool.false_eq_true, if_false]
      exact step_self c
    · have room : c.backlog.length < c.outbox.capacity := by omega
      simp only [if_neg full, room, decide_true, Option.isSome_some, Bool.and_self, if_true]
      have frames := next_frames c.inbound now
      cases came : c.inbound.next now with
      | frame text rest =>
        rw [came] at frames
        exact .idle ⟨⟨rfl, rfl⟩, by simp [unread, frames]⟩ rfl
      | later rest =>
        rw [came] at frames
        exact .idle ⟨⟨rfl, rfl⟩, by simp [unread, frames]⟩ rfl
      | gone =>
        exact step_leave (c := c) (d := { c with outbox := c.outbox.leave readerTicket })
          ⟨rfl, rfl⟩ (isPast_of_work atWork) false .interrupted (by simp)
      | blocked => exact step_self c

theorem step_connecting {c : Connection A} {work : Work A.Socket} (reader : c.reader = .connecting work)
    (w : A.World) (now : Nat) (pick : Alternative) :
    Step c (c.act w (.move now (.work pick))) (c.noteMove now (.work pick)) := by
  have before : ¬c.IsPast := by simp [IsPast, reader]
  cases stepped : c.workStep now pick w work with
  | none =>
    obtain ⟨-, waits⟩ := not_worked stepped
    simp only [act, move, readerStep, noteMove, reader, stepped]
    cases work with
    | running t => exact step_self c
    | reporting e =>
      simp only [waits e rfl]
      exact step_self c
  | some r =>
    obtain ⟨w', s⟩ := r
    have did := worked stepped
    simp only [act, move, readerStep, noteMove, reader, stepped, Option.map_some, Option.getD_some]
    cases did with
    | onward | forked | failed => exact .hook ⟨⟨rfl, rfl⟩, rfl⟩ reader rfl
    | done => exact .opened ⟨⟨rfl, rfl⟩, rfl⟩ reader rfl
    | @settled e o settles offer =>
      simp only [settles, if_true]
      exact step_leave (c := c) (d := { c with outbox := o }) ⟨rfl, rfl⟩ before true .rejected (by simp)
    | queued waits =>
      simp only [waits, Bool.false_eq_true, if_false]
      exact .hook ⟨⟨rfl, rfl⟩, rfl⟩ reader rfl

theorem step_handling {c : Connection A} {work : Work A.Socket} (reader : c.reader = .handling work)
    (w : A.World) (now : Nat) (pick : Alternative) :
    Step c (c.act w (.move now (.work pick))) (c.noteMove now (.work pick)) := by
  cases stepped : c.workStep now pick w work with
  | none =>
    obtain ⟨goesOn, waits⟩ := not_worked stepped
    simp only [act, move, readerStep, noteMove, reader, stepped]
    cases work with
    | running t =>
      simp only [goesOn t rfl]
      exact step_self c
    | reporting e =>
      simp only [waits e rfl]
      exact step_self c
  | some r =>
    obtain ⟨w', s⟩ := r
    have did := worked stepped
    simp only [act, move, readerStep, noteMove, reader, stepped, Option.map_some, Option.getD_some]
    cases did with
    | onward going | forked going =>
      simp only [going]
      exact .onward ⟨⟨rfl, rfl⟩, rfl⟩ reader rfl
    | done ends well =>
      simp only [ends]
      exact .served ⟨⟨rfl, rfl⟩, rfl⟩ reader well rfl
    | failed ends failure =>
      simp only [ends]
      exact .failed ⟨⟨rfl, rfl⟩, rfl⟩ reader failure rfl
    | settled settles =>
      simp only [settles, if_true]
      exact .reported ⟨⟨rfl, rfl⟩, rfl⟩ reader rfl
    | queued waits =>
      simp only [waits, Bool.false_eq_true, if_false]
      exact .idle ⟨⟨rfl, rfl⟩, rfl⟩ reader.symm

theorem step_disconnecting {c : Connection A} {rejected : Bool} {work : Work A.Socket}
    (reader : c.reader = .disconnecting rejected work) (w : A.World) (now : Nat) (pick : Alternative) :
    Step c (c.act w (.move now (.work pick))) (c.noteMove now (.work pick)) := by
  have before : c.IsPast := by simp [IsPast, reader]
  simp only [act, move, readerStep, noteMove, reader]
  cases stepped : c.workStep now pick w work with
  | none => exact step_self c
  | some r =>
    obtain ⟨w', s⟩ := r
    have did := worked stepped
    simp only [Option.map_some, Option.getD_some]
    cases did with
    | onward | forked | failed | queued => exact .past ⟨rfl, rfl⟩ before trivial
    | done | settled => exact .past ⟨rfl, rfl⟩ before trivial

theorem step_work (c : Connection A) (w : A.World) (now : Nat) (pick : Alternative) :
    Step c (c.act w (.move now (.work pick))) (c.noteMove now (.work pick)) := by
  cases reader : c.reader with
  | connecting work => exact step_connecting reader w now pick
  | handling work => exact step_handling reader w now pick
  | disconnecting rejected work => exact step_disconnecting reader w now pick
  | listening | ended =>
    simp only [act, move, readerStep, noteMove, reader]
    exact step_self c

/-- The writer and the tasks that handlers started leave the reader alone. -/
theorem step_write (c : Connection A) (w : A.World) (now : Nat) :
    Step c (c.act w (.move now .write)) [] := by
  simp only [act, move]
  cases written : c.writeStep now with
  | none => exact step_self c
  | some d =>
    have same : Same c d ∧ d.reader = c.reader := by
      simp only [writeStep, sendStep] at written
      split at written
      · split at written <;> cases written <;> exact ⟨⟨⟨rfl, rfl⟩, rfl⟩, rfl⟩
      · split at written <;> cases written
        exact ⟨⟨⟨rfl, rfl⟩, rfl⟩, rfl⟩
      · split at written <;> cases written
        exact ⟨⟨⟨rfl, rfl⟩, rfl⟩, rfl⟩
      · split at written <;> cases written <;> exact ⟨⟨⟨rfl, rfl⟩, rfl⟩, rfl⟩
      · cases written; exact ⟨⟨⟨rfl, rfl⟩, rfl⟩, rfl⟩
      · cases written
    exact .idle same.1 same.2

theorem step_fork (c : Connection A) (w : A.World) (now index : Nat) (pick : Alternative) :
    Step c (c.act w (.move now (.fork index pick))) [] := by
  simp only [act, move, forkStep]
  split
  · next t alive =>
    cases t.clientStep A.socket (view c.handler) now pick (index + 1) w c.outbox with
    | none => exact step_self c
    | some r =>
      obtain ⟨w', o, turn⟩ := r
      cases turn <;> exact .idle ⟨⟨rfl, rfl⟩, rfl⟩ rfl
  · exact step_self c

theorem step_move (c : Connection A) (w : A.World) (now : Nat) (m : ConnectionMove) :
    Step c (c.act w (.move now m)) (c.noteMove now m) := by
  cases m with
  | release => exact step_release c w now
  | work pick => exact step_work c w now pick
  | arrive => exact step_arrive c w now
  | listen => exact step_listen c w now
  | write => exact step_write c w now
  | fork index pick => exact step_fork c w now index pick

/-- A reader that listens is kept waiting by its client alone. -/
theorem blocked_of_listen_none {c : Connection A} {now : Nat} {w : A.World} (reader : c.reader = .listening)
    (stuck : c.move now w .listen = none) : c.backlog = [] ∧ c.inbound.next now = .blocked := by
  simp only [move, listenStep, reader, Option.map_eq_none_iff] at stuck
  split at stuck
  · cases stuck
  next backlog =>
  split at stuck
  · cases stuck
  split at stuck
  · cases stuck
  · cases stuck
  · cases stuck
  next came => exact ⟨backlog, came⟩

end CommandBridge.Connection
