import CommandBridge.Proofs.Socket.Step

/-!
# What keeps a connection going

Whoever stands in line for the outbox of a connection still wants to push, and each of the
reader and the writer is past its end only when the session was closed. So a connection in
which nothing moves any more waits for its client, for a handler that is suspended, or for
nothing because it is over.
-/

set_option autoImplicit false

namespace CommandBridge

namespace Connection

variable {A : Application} {c d : Connection A}

def WorkOffers (handler : SocketHandler A) : Work A.Socket → Prop
  | .running t => (t.offers? A.socket (frame? handler)).isSome = true
  | .reporting _ => True

def ReaderOffers (c : Connection A) : Prop :=
  ∃ work, c.work? = some work ∧ WorkOffers c.handler work

structure Sound (c : Connection A) : Prop where
  room : 1 ≤ c.outbox.capacity
  own : c.reader ≠ .ended → readerTicket ∈ c.outbox.waiting → c.ReaderOffers
  forks : Task.ForksLined A.socket (frame? c.handler) c.outbox c.forks
  present : c.reader ≠ .ended → c.outbox.receiving = true
  past : c.reader = .ended → c.outbox.cancelled = true ∨ c.writer = .ended
  draining : ∀ due, c.writer = .draining ∨ c.writer = .sending due true → c.outbox.cancelled = true
  stopped : c.writer = .ended → c.outbox.cancelled = true ∨ c.reader = .ended

structure Onward (c d : Connection A) : Prop where
  handler : d.handler = c.handler
  writer : d.writer = c.writer
  forks : ∃ more, d.forks = c.forks ++ more
  capacity : d.outbox.capacity = c.outbox.capacity
  receiving : d.outbox.receiving = c.outbox.receiving
  cancelled : c.outbox.cancelled = true → d.outbox.cancelled = true
  past : d.reader = .ended → d.outbox.cancelled = true

theorem onward_outbox (present : c.reader ≠ .ended) {o : Outbox String}
    (capacity : o.capacity = c.outbox.capacity) (receiving : o.receiving = c.outbox.receiving)
    (cancelled : c.outbox.cancelled = true → o.cancelled = true) :
    Onward c { c with outbox := o } :=
  ⟨rfl, rfl, ⟨[], (List.append_nil _).symm⟩, capacity, receiving, cancelled,
    fun ended => absurd ended present⟩

/-- A move of the reader keeps a connection sound when the reader stands in line only for
what it wants. -/
theorem sound_onward (h : Sound c) (kept : Onward c d) (present : c.reader ≠ .ended)
    (waiting : ∀ j, j ∈ d.outbox.waiting →
      (j ∈ c.outbox.waiting ∧ j ≠ readerTicket) ∨ (j = readerTicket ∧ d.ReaderOffers)) : Sound d where
  room := kept.capacity ▸ h.room
  own _ inLine := (waiting _ inLine).elim (fun old => absurd rfl old.2) And.right
  forks := by
    obtain ⟨more, same⟩ := kept.forks
    rw [kept.handler, same]
    refine h.forks.mono (fun k hk => ?_) more
    rcases waiting (k + 1) hk with ⟨old, -⟩ | ⟨zero, -⟩
    · exact old
    · cases zero
  present _ := kept.receiving.trans (h.present present)
  past ended := .inl (kept.past ended)
  draining due e := kept.cancelled (h.draining due (kept.writer ▸ e))
  stopped ended := by
    rcases h.stopped (kept.writer ▸ ended) with late | gone
    · exact .inl (kept.cancelled late)
    · exact absurd gone present

theorem leave_outbox (c : Connection A) (rejected : Bool) :
    (c.leave rejected).handler = c.handler ∧ (c.leave rejected).writer = c.writer ∧
      (c.leave rejected).forks = c.forks ∧
      ((c.leave rejected).outbox = c.outbox ∧ (c.leave rejected).reader ≠ .ended ∨
        (c.leave rejected).outbox = c.outbox.cancel) := by
  unfold leave finish
  cases rejected
  · simp only [Bool.false_eq_true, if_false]
    split
    · exact ⟨rfl, rfl, rfl, .inl ⟨rfl, nofun⟩⟩
    · exact ⟨rfl, rfl, rfl, .inr rfl⟩
  · simp only [if_true]
    split
    · exact ⟨rfl, rfl, rfl, .inl ⟨rfl, nofun⟩⟩
    · exact ⟨rfl, rfl, rfl, .inr rfl⟩

theorem leave_waiting (c : Connection A) (rejected : Bool) :
    (c.leave rejected).outbox.waiting = c.outbox.waiting := by
  obtain ⟨-, -, -, ⟨same, -⟩ | cancelled⟩ := leave_outbox c rejected
  · rw [same]
  · rw [cancelled]
    rfl

theorem Onward.leave (kept : Onward c d) (rejected : Bool) : Onward c (d.leave rejected) := by
  obtain ⟨handler, writer, forks, ⟨same, going⟩ | cancelled⟩ := leave_outbox d rejected
  · exact ⟨handler.trans kept.handler, writer.trans kept.writer,
      forks ▸ kept.forks, same ▸ kept.capacity, same ▸ kept.receiving,
      fun late => same ▸ kept.cancelled late, fun ended => absurd ended going⟩
  · exact ⟨handler.trans kept.handler, writer.trans kept.writer,
      forks ▸ kept.forks, cancelled ▸ kept.capacity,
      cancelled ▸ kept.receiving, fun _ => cancelled ▸ rfl, fun _ => cancelled ▸ rfl⟩

theorem sound_create (handler : SocketHandler A) (definitions : Definitions) (capacity : Nat)
    (inbound : Inbound) (sink : Sink) : Sound (create handler definitions capacity inbound sink) := by
  have idle (c : Connection A) (outbox : c.outbox = .empty capacity) (writer : c.writer = .receiving)
      (reader : c.reader ≠ .ended) : Sound c := by
    refine ⟨?_, ?_, ?_, ?_, fun ended => absurd ended reader, ?_, ?_⟩
    · rw [outbox]
      exact Nat.le_max_left 1 capacity
    · intro _ inLine
      rw [outbox] at inLine
      cases inLine
    · intro k hk
      rw [outbox] at hk
      cases hk
    · intro _
      rw [outbox]
      rfl
    · rintro due (e | e) <;> rw [writer] at e <;> cases e
    · intro ended
      rw [writer] at ended
      cases ended
  unfold create
  cases handler.onConnect with
  | some hook => exact idle _ rfl rfl nofun
  | none => exact idle _ rfl rfl nofun

theorem not_ended_of_work {work : Work A.Socket} (h : c.guardedWork? = some work) :
    c.reader ≠ .ended := by
  intro ended
  simp [guardedWork?, ended] at h

theorem ne_ticket_of_listening (h : Sound c) (reader : c.reader = .listening) {j : Nat}
    (hj : j ∈ c.outbox.waiting) : j ≠ readerTicket := by
  rintro rfl
  obtain ⟨work, e, -⟩ := h.own (by simp [reader]) hj
  simp [work?, reader] at e

/-- Dropping the work at hand gives up the reader's place in line. -/
theorem sound_abandon (h : Sound c) {work : Work A.Socket} (atWork : c.guardedWork? = some work)
    (w : A.World) : Sound (c.abandon work w).2 := by
  have present := not_ended_of_work atWork
  have kept : Onward c { c with outbox := c.outbox.leave readerTicket } :=
    onward_outbox present rfl rfl id
  have waiting : (c.abandon work w).2.outbox.waiting = (c.outbox.leave readerTicket).waiting :=
    leave_waiting _ false
  exact sound_onward h (kept.leave false) present fun j hj => .inl (Outbox.mem_leave.mp (waiting ▸ hj))

theorem Sound.frame (h : Sound c) (handler : d.handler = c.handler) (reader : d.reader = c.reader)
    (writer : d.writer = c.writer) (outbox : d.outbox = c.outbox) (forks : d.forks = c.forks) :
    Sound d where
  room := outbox ▸ h.room
  own going inLine := by
    have offers := h.own (reader ▸ going) (outbox ▸ inLine)
    simpa only [ReaderOffers, work?, reader, handler] using offers
  forks := by
    rw [handler, outbox, forks]
    exact h.forks
  present going := outbox ▸ h.present (reader ▸ going)
  past ended := outbox ▸ writer ▸ h.past (reader ▸ ended)
  draining due e := outbox ▸ h.draining due (writer ▸ e)
  stopped ended := outbox ▸ reader ▸ h.stopped (writer ▸ ended)

theorem sound_arrive (h : Sound c) {now : Nat} {w w' : A.World}
    (moved : c.arriveStep now w = some (w', d)) : Sound d := by
  unfold arriveStep at moved
  cases atWork : c.guardedWork? with
  | none => rw [atWork] at moved; cases moved
  | some work =>
    rw [atWork] at moved
    simp only at moved
    split at moved
    · cases moved
    split at moved
    · cases moved; exact h.frame rfl rfl rfl rfl rfl
    · cases moved; exact h.frame rfl rfl rfl rfl rfl
    · cases moved; exact sound_abandon h atWork w
    · cases moved

theorem onward_takeUp (kept : Onward c d) (text : String) : Onward c (d.takeUp text) := by
  unfold takeUp
  split
  · exact kept.leave false
  · unfold begin
    split <;>
      exact ⟨kept.handler, kept.writer, kept.forks, kept.capacity, kept.receiving, kept.cancelled,
        nofun⟩

theorem takeUp_waiting (c : Connection A) (text : String) :
    (c.takeUp text).outbox.waiting = c.outbox.waiting := by
  unfold takeUp
  split
  · exact c.leave_waiting false
  · unfold begin
    split <;> rfl

theorem sound_listen (h : Sound c) {now : Nat} (moved : c.listenStep now = some d) : Sound d := by
  cases reader : c.reader with
  | connecting | handling | disconnecting | ended => simp [listenStep, reader] at moved
  | listening =>
    have present : c.reader ≠ .ended := by simp [reader]
    have kept (backlog : List String) (inbound : Inbound) :
        Onward c { c with backlog := backlog, inbound := inbound, reader := .listening } :=
      ⟨rfl, rfl, ⟨[], (List.append_nil _).symm⟩, rfl, rfl, id, by simp⟩
    have still {d : Connection A} (onward : Onward c d)
        (waiting : d.outbox.waiting = c.outbox.waiting) : Sound d :=
      sound_onward h onward present fun j hj =>
        .inl ⟨waiting ▸ hj, ne_ticket_of_listening h reader (waiting ▸ hj)⟩
    unfold listenStep at moved
    rw [reader] at moved
    simp only at moved
    split at moved
    · next text rest _ =>
      cases moved
      exact still (onward_takeUp (kept rest c.inbound) text) (takeUp_waiting _ text)
    split at moved
    · cases moved
      exact still ((kept c.backlog c.inbound).leave false) (leave_waiting _ false)
    split at moved
    · next text rest _ =>
      cases moved
      exact still (onward_takeUp (kept c.backlog rest) text) (takeUp_waiting _ text)
    · next rest _ => cases moved; exact still (kept c.backlog rest) rfl
    · cases moved
      exact still ((kept c.backlog c.inbound).leave false) (leave_waiting _ false)
    · cases moved

/-- What a step of work leaves behind: whoever stands in line afterwards stood there before,
or is the reader with more to send. -/
structure Left (c d : Connection A) (wants : Prop) : Prop extends Onward c d where
  waiting : ∀ j, j ∈ d.outbox.waiting →
    (j ∈ c.outbox.waiting ∧ j ≠ readerTicket) ∨ (j = readerTicket ∧ wants)

theorem left_of_outboxStep (h : Sound c) (present : c.reader ≠ .ended) {t : Task A.Socket}
    (atWork : c.work? = some (.running t)) {o : Outbox String} {turn : Turn A.Socket Unit}
    (step : t.OutboxStep A.socket (frame? c.handler) readerTicket c.outbox o turn)
    (more : List (Option (Task A.Socket))) :
    Left c { c with outbox := o, forks := c.forks ++ more }
      (turn = .onward t ∧ (t.offers? A.socket (frame? c.handler)).isSome = true) where
  handler := rfl
  writer := rfl
  forks := ⟨more, rfl⟩
  capacity := Task.capacity_of_outboxStep step
  receiving := Task.receiving_of_outboxStep step
  cancelled := Task.cancelled_of_outboxStep step
  past ended := absurd ended present
  waiting j hj := by
    refine Task.waiting_of_outboxStep step (fun inLine => ?_) hj
    obtain ⟨work, same, offers⟩ := h.own present inLine
    rw [atWork] at same
    cases same
    exact offers

theorem left_self (h : Sound c) (present : c.reader ≠ .ended) {work : Work A.Socket}
    (atWork : c.work? = some work) : Left c c (WorkOffers c.handler work) where
  toOnward := onward_outbox present rfl rfl id
  waiting j hj := by
    by_cases same : j = readerTicket
    · subst same
      obtain ⟨work', e, offers⟩ := h.own present hj
      rw [atWork] at e
      cases e
      exact .inr ⟨rfl, offers⟩
    · exact .inl ⟨hj, same⟩

theorem Left.weaken {wants wants' : Prop} (h : Left c d wants) (weaker : wants → wants') :
    Left c d wants' where
  toOnward := h.toOnward
  waiting j hj := (h.waiting j hj).imp_right fun ⟨same, w⟩ => ⟨same, weaker w⟩

/-- What a step of work leaves behind, by how the work goes on. -/
theorem left_of_worked (h : Sound c) (present : c.reader ≠ .ended) {work : Work A.Socket}
    (atWork : c.work? = some work) {s : WorkStep A} (did : Worked c work s) :
    match s with
    | .onward d work' => Left c d (WorkOffers c.handler work')
    | .ended d _ => Left c d False := by
  cases did with
  | onward going step =>
    have left := left_of_outboxStep h present atWork step []
    rw [List.append_nil] at left
    exact left.weaken fun ⟨same, offers⟩ => by cases same; exact offers
  | forked going step =>
    exact (left_of_outboxStep h present atWork step _).weaken fun ⟨same, _⟩ => by cases same
  | done ends well =>
    refine (left_self h present atWork).weaken fun offers => ?_
    rw [WorkOffers, Task.offers?_of_outcome ends] at offers
    cases offers
  | failed ends failure => exact (left_self h present atWork).weaken fun _ => trivial
  | settled settles offer =>
    rcases offer with rfl | ⟨-, rfl⟩
    · exact ⟨onward_outbox present rfl rfl id,
        fun j hj => .inl (Outbox.mem_leave.mp hj)⟩
    · exact ⟨onward_outbox present rfl rfl id,
        fun j hj => .inl (Outbox.mem_leave.mp hj)⟩
  | queued waits going fresh =>
    refine ⟨onward_outbox present rfl rfl id, ?_⟩
    intro j hj
    rcases List.mem_append.mp hj with old | new
    · exact .inl ⟨old, fun same => fresh (same ▸ old)⟩
    · exact .inr ⟨List.mem_singleton.mp new, trivial⟩

theorem sound_at_work (h : Sound c) (present : c.reader ≠ .ended) {work : Work A.Socket}
    (left : Left c d (WorkOffers c.handler work)) {reader : Reader A.Socket}
    (going : reader ≠ .ended)
    (atWork : work? { d with reader := reader } = some work) : Sound { d with reader := reader } := by
  have kept : Onward c { d with reader := reader } :=
    ⟨left.handler, left.writer, left.forks, left.capacity, left.receiving, left.cancelled,
      fun ended => absurd ended going⟩
  refine sound_onward h kept present fun j hj => ?_
  rcases left.waiting j hj with old | ⟨rfl, offers⟩
  · exact .inl old
  · exact .inr ⟨rfl, work, atWork, left.handler ▸ offers⟩

theorem sound_after_work (h : Sound c) (present : c.reader ≠ .ended) {e : Connection A}
    (left : Left c d False) (kept : Onward c e) (waiting : e.outbox.waiting = d.outbox.waiting) :
    Sound e :=
  sound_onward h kept present fun j hj =>
    .inl ((left.waiting j (waiting ▸ hj)).resolve_right fun none => none.2)

theorem sound_work (h : Sound c) {now : Nat} {pick : Alternative} {w w' : A.World}
    (moved : c.readerStep now pick w = some (w', d)) : Sound d := by
  cases reader : c.reader with
  | listening | ended => simp [readerStep, reader] at moved
  | connecting work =>
    have present : c.reader ≠ .ended := by simp [reader]
    simp only [readerStep, reader] at moved
    obtain ⟨⟨w₁, s⟩, stepped, e⟩ := Option.map_eq_some_iff.mp moved
    have left := left_of_worked h present (by simp [work?, reader]) (worked stepped)
    cases s with
    | onward d' work' =>
      cases e
      exact sound_at_work h present left (by simp) rfl
    | ended d' failed =>
      cases e
      cases failed
      · exact sound_after_work h present left ⟨left.handler, left.writer, left.forks, left.capacity,
          left.receiving, left.cancelled, by simp [opened]⟩ rfl
      · exact sound_after_work h present left (left.toOnward.leave true) (leave_waiting d' true)
  | handling work =>
    have present : c.reader ≠ .ended := by simp [reader]
    simp only [readerStep, reader] at moved
    obtain ⟨⟨w₁, s⟩, stepped, e⟩ := Option.map_eq_some_iff.mp moved
    have left := left_of_worked h present (by simp [work?, reader]) (worked stepped)
    cases s with
    | onward d' work' =>
      cases e
      exact sound_at_work h present left (by simp) rfl
    | ended d' failed =>
      cases e
      exact sound_after_work h present left ⟨left.handler, left.writer, left.forks, left.capacity,
        left.receiving, left.cancelled, by simp⟩ rfl
  | disconnecting rejected work =>
    have present : c.reader ≠ .ended := by simp [reader]
    simp only [readerStep, reader] at moved
    obtain ⟨⟨w₁, s⟩, stepped, e⟩ := Option.map_eq_some_iff.mp moved
    have left := left_of_worked h present (by simp [work?, reader]) (worked stepped)
    cases s with
    | onward d' work' =>
      cases e
      exact sound_at_work h present left (by simp) rfl
    | ended d' failed =>
      cases e
      exact sound_after_work h present left ⟨left.handler, left.writer, left.forks, left.capacity,
        left.receiving, fun _ => rfl, fun _ => rfl⟩ rfl

theorem sound_fork (h : Sound c) {now index : Nat} {pick : Alternative} {w w' : A.World}
    (moved : c.forkStep now index pick w = some (w', d)) : Sound d := by
  unfold forkStep at moved
  split at moved
  · next t alive =>
    obtain ⟨⟨w₁, o, turn⟩, stepped, e⟩ := Option.map_eq_some_iff.mp moved
    have s := Task.outboxStep (view_serves c.handler) stepped
    obtain ⟨forks, own⟩ := Task.forksLined_step h.forks alive s
    have late := Task.cancelled_of_outboxStep s
    have sound : Sound { c with outbox := o, forks := Task.forksAfter c.forks index turn } :=
      ⟨Task.capacity_of_outboxStep s ▸ h.room, fun going inLine => h.own going (own inLine), forks,
        fun going => (Task.receiving_of_outboxStep s).trans (h.present going),
        fun ended => (h.past ended).imp_left late, fun due e => late (h.draining due e),
        fun ended => (h.stopped ended).imp_left late⟩
    cases turn <;> cases e <;> exact sound
  · cases moved

/-- The writer takes frames out and comes to its end only in a closed session. -/
theorem sound_writer (h : Sound c) (going : c.writer ≠ .ended) {o : Outbox String}
    (capacity : o.capacity = c.outbox.capacity) (waiting : o.waiting = c.outbox.waiting)
    (receiving : o.receiving = c.outbox.receiving)
    (cancelled : c.outbox.cancelled = true → o.cancelled = true) {writer : Writer} (sink : Sink)
    (draining : ∀ due, writer = .draining ∨ writer = .sending due true → o.cancelled = true)
    (stopped : writer = .ended → o.cancelled = true) :
    Sound { c with outbox := o, writer := writer, sink := sink } where
  room := capacity ▸ h.room
  own present inLine := h.own present (waiting ▸ inLine)
  forks k hk := h.forks k (waiting ▸ hk)
  present here := receiving.trans (h.present here)
  past ended := .inl ((h.past ended).elim cancelled fun gone => absurd gone going)
  draining := draining
  stopped ended := .inl (stopped ended)

theorem sound_send (h : Sound c) (going : c.writer ≠ .ended) {now : Nat} {draining : Bool}
    {frame : String} {o : Outbox String} (taken : c.outbox.take? = some (frame, o))
    (late : draining = true → c.outbox.cancelled = true) :
    Sound (c.sendStep now draining frame o) := by
  obtain ⟨rest, -, rfl⟩ := Outbox.take?_eq_some.mp taken
  unfold sendStep
  cases c.sink.accept frame with
  | some sink =>
    refine sound_writer (o := { c.outbox with queue := rest }) h going rfl rfl rfl id sink ?_ ?_
    · rintro due (e | e) <;> cases e
      exact late rfl
    · intro ended
      cases ended
  | none =>
    have broken {o : Outbox String} (capacity : o.capacity = c.outbox.capacity)
        (waiting : o.waiting = c.outbox.waiting) (receiving : o.receiving = c.outbox.receiving)
        (cancelled : o.cancelled = true) :
        Sound { c with outbox := o, writer := .ended, sink := c.sink } :=
      sound_writer h going capacity waiting receiving (fun _ => cancelled) c.sink
        (fun _ _ => cancelled) fun _ => cancelled
    cases draining with
    | true => exact broken (o := { c.outbox with queue := rest }) rfl rfl rfl (late rfl)
    | false => exact broken (o := { c.outbox with queue := rest }.cancel) rfl rfl rfl rfl

theorem sound_write (h : Sound c) {now : Nat} (moved : c.writeStep now = some d) : Sound d := by
  have unsent {writer : Writer} (going : c.writer ≠ .ended) (sink : Sink)
      (late : ∀ due, writer = .draining ∨ writer = .sending due true ∨ writer = .ended →
        c.outbox.cancelled = true) : Sound { c with writer := writer, sink := sink } :=
    sound_writer h going rfl rfl rfl id sink
      (fun due e => late due (e.imp_right .inl)) fun e => late 0 (.inr (.inr e))
  unfold writeStep at moved
  split at moved
  · next writer taken => cases moved; exact sound_send h (by simp [writer]) taken nofun
  · next writer _ =>
    split at moved
    · next late => cases moved; exact unsent (by simp [writer]) c.sink fun _ _ => late
    · cases moved
  · next due draining writer =>
    split at moved
    · cases moved
      refine unsent (by simp [writer]) c.sink fun _ e => ?_
      cases draining with
      | true => exact h.draining due (.inr writer)
      | false => exact e.elim nofun fun e => e.elim nofun nofun
    · cases moved
  · next writer taken =>
    cases moved
    exact sound_send h (by simp [writer]) taken fun _ => h.draining 0 (.inl writer)
  · next writer _ =>
    cases moved
    exact unsent (by simp [writer]) _ fun _ _ => h.draining 0 (.inl writer)
  · cases moved

theorem sound_drop (h : Sound c) (w : A.World) : Sound (c.drop w).2 where
  room := h.room
  own going := absurd rfl going
  forks := h.forks
  present going := absurd rfl going
  past _ := .inr rfl
  draining _ e := e.elim nofun nofun
  stopped _ := .inr rfl

theorem sound_move (h : Sound c) {now : Nat} {w w' : A.World} {m : ConnectionMove}
    (moved : c.move now w m = some (w', d)) : Sound d := by
  cases m with
  | release =>
    simp only [move, releaseStep] at moved
    split at moved
    · next work atWork =>
      split at moved <;> cases moved
      exact sound_abandon h atWork w
    · cases moved
  | work pick => exact sound_work h moved
  | arrive => exact sound_arrive h moved
  | listen =>
    obtain ⟨d', stepped, e⟩ := Option.map_eq_some_iff.mp moved
    cases e
    exact sound_listen h stepped
  | write =>
    obtain ⟨d', stepped, e⟩ := Option.map_eq_some_iff.mp moved
    cases e
    exact sound_write h stepped
  | fork index pick => exact sound_fork h moved

theorem sound_act (h : Sound c) (w : A.World) (x : ConnectionAct) : Sound (c.act w x) := by
  cases x with
  | drop => exact sound_drop h w
  | move now m =>
    simp only [act]
    cases moved : c.move now w m with
    | none => exact h
    | some r => exact sound_move h moved

end Connection
end CommandBridge
