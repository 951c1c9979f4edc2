import CommandBridge.Proofs.Socket.Progress

/-!
# Where a connection comes to rest

A connection whose client goes away, or whose session was closed, moves on until it is over.
There is one exception: the reader that is at work takes nothing in any more once its backlog
is full, so behind a full backlog it does not notice that its client is gone, and it waits for
a hook or a callback that may never end.
-/

set_option autoImplicit false

namespace CommandBridge

/-- A line that never falls silent for good has something to tell now or later. -/
theorem Inbound.next_of_no_silence {line : Inbound} (h : Arrival.silence ∉ line.arrivals)
    (now : Nat) : ∃ later, now ≤ later ∧ line.next later ≠ .blocked := by
  obtain ⟨arrivals, since⟩ := line
  match arrivals, since with
  | [], since => exact ⟨now, Nat.le_refl _, nofun⟩
  | .frame text :: rest, since => exact ⟨now, Nat.le_refl _, nofun⟩
  | .silence :: rest, since => exact absurd List.mem_cons_self h
  | .pause delay :: rest, none => exact ⟨now, Nat.le_refl _, nofun⟩
  | .pause delay :: rest, some since =>
    refine ⟨max now (since + delay), Nat.le_max_left _ _, ?_⟩
    simp [Inbound.next, Nat.le_max_right]

namespace Connection

variable {A : Application} {c : Connection A} {now : Nat} {w : A.World}

/-- No move is open, now or later, in the world as it is. -/
def Rests (c : Connection A) (now : Nat) (w : A.World) : Prop :=
  ∀ later, now ≤ later → ∀ m, c.move later w m = none

/-- The client goes away behind what is still to come from it, or the session was closed. -/
def Leaving (c : Connection A) : Prop :=
  Arrival.silence ∉ c.inbound.arrivals ∨ c.outbox.cancelled = true

/-- A disconnect hook that waits goes on, now or later. -/
def HookCompletes (c : Connection A) (now : Nat) (w : A.World) : Prop :=
  ∀ rejected t, c.reader = .disconnecting rejected (.running t) → t.Waits A.socket →
    ∃ later pick, now ≤ later ∧
      (t.clientStep A.socket (view c.handler) later pick readerTicket w c.outbox).isSome = true

/-- The writer rests when it has nothing to write, or is past its end. -/
theorem writer_of_rests (rests : c.Rests now w) :
    (c.writer = .receiving ∧ c.outbox.queue = [] ∧ c.outbox.cancelled = false) ∨
      c.writer = .ended := by
  have unwritten {later : Nat} (h : now ≤ later) : c.writeStep later = none := by
    have shut := rests later h .write
    simpa only [move, Option.map_eq_none_iff] using shut
  cases writer : c.writer with
  | receiving =>
    have shut := unwritten (Nat.le_refl _)
    unfold writeStep at shut
    rw [writer] at shut
    cases taken : c.outbox.take? with
    | some r => simp [taken] at shut
    | none =>
      refine .inl ⟨rfl, Outbox.take?_eq_none.mp taken, ?_⟩
      by_contra late
      simp [taken, late] at shut
  | sending due draining =>
    have shut := unwritten (Nat.le_max_left now due)
    simp [writeStep, writer, Nat.le_max_right] at shut
  | draining =>
    have shut := unwritten (Nat.le_refl _)
    unfold writeStep at shut
    rw [writer] at shut
    cases taken : c.outbox.take? <;> simp [taken] at shut
  | ended => exact .inr rfl

theorem workStep_of_rests (rests : c.Rests now w) {work : Work A.Socket}
    (atWork : c.work? = some work) {later : Nat} (h : now ≤ later) (pick : Alternative) :
    c.workStep later pick w work = none := by
  have shut := rests later h (.work pick)
  cases reader : c.reader with
  | connecting work' | handling work' | disconnecting rejected work' =>
    simp only [work?, reader, Option.some.injEq] at atWork
    subst atWork
    simpa only [move, readerStep, reader, Option.map_eq_none_iff] using shut
  | listening | ended => simp [work?, reader] at atWork

/-- Work that has a frame to queue can step unless something holds the offer up. -/
theorem workStep_of_offers {work : Work A.Socket} (offers : WorkOffers c.handler work)
    (admits : c.outbox.Admits readerTicket) (pick : Alternative) :
    (c.workStep now pick w work).isSome = true := by
  cases work with
  | running t =>
    obtain ⟨f, offer⟩ := Option.isSome_iff_exists.mp offers
    rw [workStep, Option.isSome_map]
    exact Task.clientStep_of_offers (view_serves c.handler) offer admits
  | reporting e =>
    simp only [workStep, offerFrame]
    cases offer : c.outbox.offer readerTicket (SocketEnvelope.ofError e).text with
    | refused | taken | queued => rfl
    | blocked => exact absurd offer (admits.not_blocked _)

theorem line_of_rests (h : Sound c) (rests : c.Rests now w) (present : c.reader ≠ .ended)
    (queue : c.outbox.queue = []) : c.outbox.waiting = [] := by
  have room : c.outbox.queue.length < c.outbox.capacity := by
    rw [queue]
    exact h.room
  match line : c.outbox.waiting with
  | [] => rfl
  | 0 :: rest =>
    obtain ⟨work, atWork, offers⟩ := h.own present (by simp [line, readerTicket])
    have open' : (c.workStep now .ready w work).isSome = true :=
      workStep_of_offers offers (Outbox.admits_of_head room line) .ready
    rw [workStep_of_rests rests atWork (Nat.le_refl _)] at open'
    cases open'
  | (k + 1) :: rest =>
    obtain ⟨t, alive, offers⟩ := h.forks k (by simp [line])
    obtain ⟨f, offer⟩ := Option.isSome_iff_exists.mp offers
    have open' : (t.clientStep A.socket (view c.handler) now .ready (k + 1) w c.outbox).isSome = true :=
      Task.clientStep_of_offers (view_serves c.handler) offer (Outbox.admits_of_head room line)
    have shut := rests now (Nat.le_refl _) (.fork k .ready)
    simp only [move, forkStep, alive, Option.map_eq_none_iff] at shut
    rw [shut] at open'
    cases open'

theorem waits_of_rests (h : Sound c) (rests : c.Rests now w)
    (idle : c.outbox.isClosed = false → c.outbox.queue = []) {work : Work A.Socket}
    (atWork : c.work? = some work) : ∃ t, work = .running t ∧ t.Waits A.socket := by
  have present : c.reader ≠ .ended := by
    intro ended
    simp [work?, ended] at atWork
  have admits : c.outbox.Admits readerTicket := by
    intro going
    rw [line_of_rests h rests present (idle going), idle going]
    exact ⟨h.room, by simp⟩
  have shut := workStep_of_rests rests atWork (Nat.le_refl _) .ready
  cases work with
  | reporting e =>
    have offers : WorkOffers c.handler (.reporting e) := trivial
    have open' : (c.workStep now .ready w (.reporting e)).isSome = true :=
      workStep_of_offers offers admits .ready
    rw [shut] at open'
    cases open'
  | running t =>
    refine ⟨t, rfl, ?_⟩
    by_contra goesOn
    have open' : (t.clientStep A.socket (view c.handler) now .ready readerTicket w c.outbox).isSome =
        true := Task.clientStep_of_admits (view_serves c.handler) goesOn admits
    rw [workStep, Option.map_eq_none_iff] at shut
    rw [shut] at open'
    cases open'

theorem not_disconnecting_of_rests (h : Sound c) (rests : c.Rests now w)
    (hook : c.HookCompletes now w) (idle : c.outbox.isClosed = false → c.outbox.queue = [])
    {rejected : Bool} {work : Work A.Socket} : c.reader ≠ .disconnecting rejected work := by
  intro reader
  have atWork : c.work? = some work := by simp [work?, reader]
  obtain ⟨t, rfl, waits⟩ := waits_of_rests h rests idle atWork
  obtain ⟨later, pick, after, open'⟩ := hook rejected t reader waits
  have shut := workStep_of_rests rests atWork after pick
  rw [workStep, Option.map_eq_none_iff] at shut
  rw [shut] at open'
  cases open'

/-- A session that was closed comes to rest only when it is over. -/
theorem ended_of_cancelled (h : Sound c) (rests : c.Rests now w) (hook : c.HookCompletes now w)
    (cancelled : c.outbox.cancelled = true) : c.reader = .ended := by
  cases reader : c.reader with
  | connecting work | handling work =>
    have shut := rests now (Nat.le_refl _) .release
    simp [move, releaseStep, guardedWork?, reader, cancelled] at shut
  | listening =>
    have shut := rests now (Nat.le_refl _) .listen
    cases backlog : c.backlog <;> simp [move, listenStep, reader, backlog, cancelled] at shut
  | disconnecting rejected work =>
    refine absurd reader (not_disconnecting_of_rests h rests hook fun going => ?_)
    rw [Outbox.isClosed_of_cancelled cancelled] at going
    cases going
  | ended => rfl

/-- A reader at work whose client goes away rests only behind a full backlog. -/
theorem full_of_rests (rests : c.Rests now w) {work : Work A.Socket}
    (atWork : c.guardedWork? = some work) (ends : Arrival.silence ∉ c.inbound.arrivals) :
    c.outbox.capacity ≤ c.backlog.length := by
  obtain ⟨later, after, tells⟩ := Inbound.next_of_no_silence ends now
  have shut := rests later after .arrive
  simp only [move, arriveStep, atWork] at shut
  split at shut
  · assumption
  · split at shut
    · cases shut
    · cases shut
    · cases shut
    · next blocked => exact absurd blocked tells

theorem not_listening_of_rests (rests : c.Rests now w) (ends : Arrival.silence ∉ c.inbound.arrivals) :
    c.reader ≠ .listening := by
  intro reader
  obtain ⟨later, after, tells⟩ := Inbound.next_of_no_silence ends now
  exact tells (blocked_of_listen_none reader (rests later after .listen)).2

/-- Where a connection comes to rest whose client goes away or whose session was closed. -/
theorem unfinished_iff (h : Sound c) (rests : c.Rests now w) (leaving : c.Leaving)
    (hook : c.HookCompletes now w) :
    c.isOver = false ↔ c.outbox.cancelled = false ∧
      (∃ t, c.guardedWork? = some (.running t) ∧ t.Waits A.socket) ∧
      c.outbox.capacity ≤ c.backlog.length := by
  have finished (reader : c.reader = .ended) (writer : c.writer = .ended) : c.isOver = true := by
    simp [isOver, reader, writer]
  constructor
  · intro unfinished
    have unfinished : ¬(c.reader = .ended ∧ c.writer = .ended) := by
      rintro ⟨reader, writer⟩
      rw [finished reader writer] at unfinished
      cases unfinished
    rcases writer_of_rests rests with ⟨writer, queue, going⟩ | writer
    · have ends : Arrival.silence ∉ c.inbound.arrivals :=
        leaving.resolve_right (by simp [going])
      refine ⟨going, ?_⟩
      cases reader : c.reader with
      | connecting work | handling work =>
        have atWork : c.guardedWork? = some work := by simp [guardedWork?, reader]
        have working : c.work? = some work := by simp [work?, reader]
        obtain ⟨t, rfl, waits⟩ := waits_of_rests h rests (fun _ => queue) working
        exact ⟨⟨t, atWork, waits⟩, full_of_rests rests atWork ends⟩
      | listening => exact absurd reader (not_listening_of_rests rests ends)
      | disconnecting rejected work =>
        exact absurd reader (not_disconnecting_of_rests h rests hook fun _ => queue)
      | ended =>
        rcases h.past reader with late | gone
        · rw [going] at late; cases late
        · rw [writer] at gone; cases gone
    · rcases h.stopped writer with cancelled | reader
      · exact absurd ⟨ended_of_cancelled h rests hook cancelled, writer⟩ unfinished
      · exact absurd ⟨reader, writer⟩ unfinished
  · rintro ⟨-, ⟨t, atWork, -⟩, -⟩
    have present := not_ended_of_work atWork
    unfold isOver
    cases reader : c.reader with
    | ended => exact absurd reader present
    | _ => rfl

end Connection
end CommandBridge
