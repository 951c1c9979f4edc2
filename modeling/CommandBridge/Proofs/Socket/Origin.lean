import CommandBridge.Proofs.Session.Descent
import CommandBridge.Proofs.Socket.Life

/-!
# Where the tasks of a connection come from

A connection is opened with a socket handler and a table of definitions and keeps both. Whatever
runs in its session descends from a hook of that handler, or from one of its callbacks on data that
was checked against that table.
-/

set_option autoImplicit false

namespace CommandBridge.Connection

variable {A : Application} {handler : SocketHandler A} {definitions : Definitions}
  {c d : Connection A}

inductive Entry (handler : SocketHandler A) (definitions : Definitions) : A.Socket → Prop where
  | connect {hook : A.Socket} (declared : handler.onConnect = some hook) :
      Entry handler definitions hook
  | disconnect {hook : A.Socket} (declared : handler.onDisconnect = some hook) :
      Entry handler definitions hook
  | callback {event : String} {type : Descriptor} {start : Json → A.Socket} {data : Json}
      (declared : Keyed.lookup event handler.clientEvents = some type)
      (registered : Keyed.lookup event handler.callbacks = some start)
      (checked : validate definitions event type data = .ok ()) :
      Entry handler definitions (start data)

structure Serves (handler : SocketHandler A) (definitions : Definitions) (c : Connection A) :
    Prop where
  handler_eq : c.handler = handler
  definitions_eq : c.definitions = definitions
  forks : ForksFrom A.socket (Entry handler definitions) c.forks

/-- What a reader may work on: a task of the handler's, the refusal of a frame under the
definitions, or the failure in which such a task ended. -/
inductive WorkFrom (handler : SocketHandler A) (definitions : Definitions) : Work A.Socket → Prop where
  | running {t : Task A.Socket} (origin : A.socket.From (Entry handler definitions) t.state) :
      WorkFrom handler definitions (.running t)
  | refused {text : String} {e : BridgeError}
      (refused : frameWork handler definitions text = .refused e) :
      WorkFrom handler definitions (.reporting e)
  | failed {s : A.Socket} {outcome : Outcome Unit} {e : BridgeError}
      (origin : A.socket.From (Entry handler definitions) s)
      (finished : A.socket.next s = .finish outcome) (failure : failureOf? outcome = some e) :
      WorkFrom handler definitions (.reporting e)

structure OfHandler (handler : SocketHandler A) (definitions : Definitions) (c : Connection A) :
    Prop extends Serves handler definitions c where
  work : ∀ work, c.work? = some work → WorkFrom handler definitions work

theorem workFrom_start {s : A.Socket} (entry : Entry handler definitions s) :
    WorkFrom handler definitions (.running (Task.at s)) :=
  .running (Behaviour.from_origin entry)

theorem Serves.resting (h : Serves handler definitions c) (rest : c.work? = none) :
    OfHandler handler definitions c :=
  ⟨h, fun work there => by rw [rest] at there; cases there⟩

theorem Serves.working (h : Serves handler definitions c) {work : Work A.Socket}
    (atWork : c.work? = some work) (work_from : WorkFrom handler definitions work) :
    OfHandler handler definitions c :=
  ⟨h, fun other there => by rw [atWork] at there; cases there; exact work_from⟩

theorem Serves.leave (h : Serves handler definitions c) (rejected : Bool) :
    OfHandler handler definitions (c.leave rejected) := by
  have hook : c.handler.onDisconnect = handler.onDisconnect := by rw [h.handler_eq]
  unfold Connection.leave
  cases rejected
  · simp only [Bool.false_eq_true, if_false, advance]
    split
    · next s declared =>
      exact Serves.working ⟨h.handler_eq, h.definitions_eq, h.forks⟩ rfl
        (workFrom_start (.disconnect (hook ▸ declared)))
    · exact Serves.resting ⟨h.handler_eq, h.definitions_eq, h.forks⟩ rfl
  · simp only [if_true]
    split
    · next s declared =>
      exact Serves.working ⟨h.handler_eq, h.definitions_eq, h.forks⟩ rfl
        (workFrom_start (.disconnect (hook ▸ declared)))
    · exact Serves.resting ⟨h.handler_eq, h.definitions_eq, h.forks⟩ rfl

/-- A callback that a frame asks for runs on data checked under the definitions. -/
theorem entry_of_frameWork {text event : String} {data : Json} {start : A.Socket}
    (work : frameWork handler definitions text = .callback event data start) :
    Entry handler definitions start := by
  unfold frameWork at work
  split at work
  · cases work
  split at work
  · next type callback declared registered =>
    simp only at work
    split at work
    · next checked =>
      cases work
      exact .callback declared registered checked
    · cases work
  · cases work

theorem Serves.begin (h : Serves handler definitions c) (text : String) :
    OfHandler handler definitions (c.begin text) := by
  have same : frameWork c.handler c.definitions text = frameWork handler definitions text := by
    rw [h.handler_eq, h.definitions_eq]
  unfold Connection.begin
  rw [same]
  split
  · exact Serves.resting ⟨h.handler_eq, h.definitions_eq, h.forks⟩ rfl
  · next refused =>
    exact Serves.working ⟨h.handler_eq, h.definitions_eq, h.forks⟩ rfl (.refused refused)
  · next work =>
    exact Serves.working ⟨h.handler_eq, h.definitions_eq, h.forks⟩ rfl
      (workFrom_start (entry_of_frameWork work))

theorem Serves.takeUp (h : Serves handler definitions c) (text : String) :
    OfHandler handler definitions (c.takeUp text) := by
  unfold Connection.takeUp
  split
  · exact h.leave false
  · exact h.begin text

theorem ofHandler_create (capacity : Nat) (inbound : Inbound) (sink : Sink) :
    OfHandler handler definitions (create handler definitions capacity inbound sink) := by
  unfold create
  cases hook : handler.onConnect with
  | none => exact Serves.resting ⟨rfl, rfl, nofun⟩ rfl
  | some s => exact Serves.working ⟨rfl, rfl, nofun⟩ rfl (workFrom_start (.connect hook))

def WorkStep.From (handler : SocketHandler A) (definitions : Definitions) : WorkStep A → Prop
  | .onward c work => Serves handler definitions c ∧ WorkFrom handler definitions work
  | .ended c _ => Serves handler definitions c

theorem Serves.workStep (h : Serves handler definitions c) {now : Nat} {pick : Alternative}
    {w w' : A.World} {work : Work A.Socket} {s : WorkStep A}
    (before : WorkFrom handler definitions work)
    (stepped : c.workStep now pick w work = some (w', s)) : s.From handler definitions := by
  unfold Connection.workStep at stepped
  split at stepped
  · next t =>
    cases before with | running origin =>
    obtain ⟨⟨w₁, outbox, turn⟩, step, e⟩ := Option.map_eq_some_iff.mp stepped
    have states := Task.clientStep_from step origin
    have kept : Serves handler definitions { c with outbox := outbox } :=
      ⟨h.handler_eq, h.definitions_eq, h.forks⟩
    cases turn with
    | onward t' =>
      cases e
      exact ⟨kept, .running (states _ List.mem_cons_self)⟩
    | forked start t' =>
      cases e
      exact ⟨⟨h.handler_eq, h.definitions_eq, h.forks.append (states start List.mem_cons_self)⟩,
        .running (states _ (List.mem_cons_of_mem _ List.mem_cons_self))⟩
    | ended outcome =>
      simp only at e
      split at e
      · cases e
        exact kept
      · next failure =>
        cases e
        exact ⟨kept, .failed origin (Task.clientStep_ended step) failure⟩
  · next error =>
    split at stepped
    · cases stepped
      exact ⟨h.handler_eq, h.definitions_eq, h.forks⟩
    · cases stepped
      exact ⟨⟨h.handler_eq, h.definitions_eq, h.forks⟩, before⟩
    · cases stepped

theorem OfHandler.readerStep (h : OfHandler handler definitions c) {now : Nat} {pick : Alternative}
    {w w' : A.World} (stepped : c.readerStep now pick w = some (w', d)) :
    OfHandler handler definitions d := by
  unfold Connection.readerStep at stepped
  split at stepped
  · next work reader =>
    obtain ⟨⟨w₁, s⟩, step, e⟩ := Option.map_eq_some_iff.mp stepped
    have after := h.toServes.workStep (h.work work (by simp [work?, reader])) step
    cases s with
    | onward c' work' =>
      cases e
      exact Serves.working ⟨after.1.handler_eq, after.1.definitions_eq, after.1.forks⟩ rfl after.2
    | ended c' failed =>
      have kept : Serves handler definitions c' := after
      cases failed <;> cases e
      · exact Serves.resting ⟨kept.handler_eq, kept.definitions_eq, kept.forks⟩ rfl
      · exact kept.leave true
  · next work reader =>
    obtain ⟨⟨w₁, s⟩, step, e⟩ := Option.map_eq_some_iff.mp stepped
    have after := h.toServes.workStep (h.work work (by simp [work?, reader])) step
    cases s with
    | onward c' work' =>
      cases e
      exact Serves.working ⟨after.1.handler_eq, after.1.definitions_eq, after.1.forks⟩ rfl after.2
    | ended c' failed =>
      have kept : Serves handler definitions c' := after
      cases e
      exact Serves.resting ⟨kept.handler_eq, kept.definitions_eq, kept.forks⟩ rfl
  · next rejected work reader =>
    obtain ⟨⟨w₁, s⟩, step, e⟩ := Option.map_eq_some_iff.mp stepped
    have after := h.toServes.workStep (h.work work (by simp [work?, reader])) step
    cases s with
    | onward c' work' =>
      cases e
      exact Serves.working ⟨after.1.handler_eq, after.1.definitions_eq, after.1.forks⟩ rfl after.2
    | ended c' failed =>
      have kept : Serves handler definitions c' := after
      cases e
      exact Serves.resting ⟨kept.handler_eq, kept.definitions_eq, kept.forks⟩ rfl
  · cases stepped

theorem OfHandler.keep (h : OfHandler handler definitions c) (same : d.handler = c.handler)
    (table : d.definitions = c.definitions) (forks : d.forks = c.forks) (reader : d.reader = c.reader) :
    OfHandler handler definitions d := by
  refine ⟨⟨same.trans h.handler_eq, table.trans h.definitions_eq, forks ▸ h.forks⟩, ?_⟩
  intro work there
  rw [work?, reader] at there
  exact h.work work there

/-- A session that lets go of its work keeps what it serves. -/
theorem Serves.abandon (h : Serves handler definitions c) (work : Work A.Socket) (w : A.World) :
    OfHandler handler definitions (c.abandon work w).2 := by
  simp only [Connection.abandon]
  refine Serves.leave ?_ false
  exact ⟨h.handler_eq, h.definitions_eq, h.forks⟩

theorem OfHandler.arriveStep (h : OfHandler handler definitions c) {now : Nat} {w w' : A.World}
    (stepped : c.arriveStep now w = some (w', d)) : OfHandler handler definitions d := by
  unfold Connection.arriveStep at stepped
  split at stepped
  · cases stepped
  next work _ =>
  split at stepped
  · cases stepped
  split at stepped
  · cases stepped
    exact h.keep rfl rfl rfl rfl
  · cases stepped
    exact h.keep rfl rfl rfl rfl
  · cases stepped
    exact h.abandon work w
  · cases stepped

theorem OfHandler.listenStep (h : OfHandler handler definitions c) {now : Nat}
    (stepped : c.listenStep now = some d) : OfHandler handler definitions d := by
  have kept (inbound : Inbound) (backlog : List String) :
      Serves handler definitions { c with inbound := inbound, backlog := backlog } :=
    ⟨h.handler_eq, h.definitions_eq, h.forks⟩
  unfold Connection.listenStep at stepped
  split at stepped
  · split at stepped
    · cases stepped
      exact (kept c.inbound _).takeUp _
    split at stepped
    · cases stepped
      exact h.leave false
    split at stepped
    · cases stepped
      exact (kept _ c.backlog).takeUp _
    · cases stepped
      exact h.keep rfl rfl rfl rfl
    · cases stepped
      exact h.leave false
    · cases stepped
  · cases stepped

theorem OfHandler.writeStep (h : OfHandler handler definitions c) {now : Nat}
    (stepped : c.writeStep now = some d) : OfHandler handler definitions d := by
  have sent (draining : Bool) (frame : String) (outbox : Outbox String) :
      OfHandler handler definitions (c.sendStep now draining frame outbox) := by
    unfold sendStep
    split <;> exact h.keep rfl rfl rfl rfl
  unfold Connection.writeStep at stepped
  split at stepped
  · cases stepped
    exact sent false _ _
  · split at stepped <;> cases stepped
    exact h.keep rfl rfl rfl rfl
  · split at stepped <;> cases stepped
    exact h.keep rfl rfl rfl rfl
  · cases stepped
    exact sent true _ _
  · cases stepped
    exact h.keep rfl rfl rfl rfl
  · cases stepped

theorem OfHandler.forkStep (h : OfHandler handler definitions c) {now index : Nat}
    {pick : Alternative} {w w' : A.World} (stepped : c.forkStep now index pick w = some (w', d)) :
    OfHandler handler definitions d := by
  unfold Connection.forkStep at stepped
  split at stepped
  · next t alive =>
    obtain ⟨⟨w₁, outbox, turn⟩, step, e⟩ := Option.map_eq_some_iff.mp stepped
    have states := Task.clientStep_from step (h.forks t (List.mem_of_getElem? alive))
    have forks := h.forks.after index states
    cases turn <;> cases e <;> exact ⟨⟨h.handler_eq, h.definitions_eq, forks⟩, h.work⟩
  · cases stepped

/-- Nothing that befalls a connection brings another handler, another table or foreign work. -/
theorem OfHandler.act (h : OfHandler handler definitions c) (w : A.World) (x : ConnectionAct) :
    OfHandler handler definitions (c.act w x) := by
  cases x with
  | drop => exact Serves.resting ⟨h.handler_eq, h.definitions_eq, h.forks⟩ rfl
  | move now m =>
    simp only [Connection.act]
    cases moved : c.move now w m with
    | none => exact h
    | some r =>
      obtain ⟨w', d⟩ := r
      change OfHandler handler definitions d
      cases m with
      | release =>
        simp only [move, releaseStep] at moved
        split at moved
        · next work _ =>
          split at moved <;> cases moved
          exact h.abandon work w
        · cases moved
      | work pick => exact h.readerStep moved
      | arrive => exact h.arriveStep moved
      | listen =>
        obtain ⟨d', listened, e⟩ := Option.map_eq_some_iff.mp moved
        cases e
        exact h.listenStep listened
      | write =>
        obtain ⟨d', written, e⟩ := Option.map_eq_some_iff.mp moved
        cases e
        exact h.writeStep written
      | fork index pick => exact h.forkStep moved

end CommandBridge.Connection
