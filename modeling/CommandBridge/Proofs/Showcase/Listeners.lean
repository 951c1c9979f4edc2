import CommandBridge.Proofs.Bridge.Course
import CommandBridge.Proofs.Showcase.Room
import CommandBridge.Proofs.Socket.Pushes

/-!
# Listeners in the chat room

The connect hook subscribes to the room and starts a task that tells the client what is said from then
on; callbacks publish and tell nothing. What a connection has told is the invariant of its listener,
and each act on the connection keeps it.
-/

set_option autoImplicit false

namespace CommandBridge.Showcase

open Connection SocketEnvelope

def Socket.IsCallback : Socket → Prop
  | joining _ | saying .. | publishing _ | ended | refused _ => True
  | connecting | listening _ | following _ | telling .. => False

theorem Socket.isCallback_ofPayload {type : NativeType} {start : Json → Socket} {payload : Json}
    (each : ∀ v, (start v).IsCallback) : (ofPayload type start payload).IsCallback := by
  unfold ofPayload
  split
  · exact each _
  · trivial

theorem Socket.isCallback_of_registered {event : String} {start : Json → Socket}
    (registered : Keyed.lookup event chatSocket.callbacks = some start) (data : Json) :
    (start data).IsCallback := by
  have listed : (event, start) ∈ [("join", Socket.join), ("say", Socket.say)] :=
    Keyed.mem_of_lookup registered
  simp only [List.mem_cons, Prod.mk.injEq, List.not_mem_nil, or_false] at listed
  rcases listed with ⟨-, rfl⟩ | ⟨-, rfl⟩
  all_goals
    refine isCallback_ofPayload fun v => ?_
    split <;> trivial

theorem Socket.isCallback_of_frameWork {definitions : Definitions} {text event : String}
    {data : Json} {start : application.Socket}
    (work : frameWork chatSocket definitions text = .callback event data start) :
    Socket.IsCallback start := by
  unfold frameWork at work
  split at work
  · cases work
  split at work
  · next callback _ registered =>
    simp only at work
    split at work
    · cases work
      exact isCallback_of_registered registered _
    · cases work
  · cases work

variable {now ticket index : Nat} {pick : Alternative} {w w' : application.World}
  {o o' : Outbox String} {t : Task application.Socket} {turn : Turn application.Socket Unit}
  {c d : Connection application}

theorem callback_step {view : ClientView (Outbox String) SocketRequest}
    (callback : Socket.IsCallback t.state)
    (stepped : t.clientStep application.socket view now pick ticket w o = some (w', o', turn)) :
    (∃ t', turn = .onward t' ∧ Socket.IsCallback t'.state) ∨ ∃ outcome, turn = .ended outcome := by
  obtain ⟨s, since⟩ := t
  cases s with
  | joining | saying | publishing =>
    cases stepped
    exact .inl ⟨_, rfl, trivial⟩
  | ended | refused =>
    cases stepped
    exact .inr ⟨_, rfl⟩
  | connecting | listening | following | telling => exact absurd callback id

theorem callback_pushes (callback : Socket.IsCallback t.state) :
    t.pushes? application.socket = none := by
  obtain ⟨s, since⟩ := t
  cases s with
  | joining | saying | publishing | ended | refused => rfl
  | connecting | listening | following | telling => exact absurd callback id

def OnCallbacks (c : Connection application) : Prop :=
  ∀ t, c.work? = some (.running t) → Socket.IsCallback t.state

theorem onCallbacks_of_running (callback : Socket.IsCallback t.state)
    (work : c.work? = some (.running t)) : OnCallbacks c := by
  intro t' there
  rw [work] at there
  cases there
  exact callback

theorem onCallbacks_of_rest (rest : c.work? = none) : OnCallbacks c := by
  intro t there
  rw [rest] at there
  cases there

/-- What an act comes to that is neither a step of a hook or callback nor one of a listener. -/
inductive Aside (c d : Connection application) : Prop where
  | still (reader : d.reader = c.reader) (forks : d.forks = c.forks)
  | begun (listening : c.reader = .listening) (callback : OnCallbacks d) (forks : d.forks = c.forks)
  | left (reader : d.reader = .ended) (closed : d.outbox.isClosed = true) (forks : d.forks = c.forks)

theorem leave_chat (same : c.handler = chatSocket) (rejected : Bool) :
    (c.leave rejected).reader = .ended ∧ (c.leave rejected).outbox.isClosed = true ∧
      (c.leave rejected).forks = c.forks := by
  have hook : c.handler.onDisconnect = none := by
    rw [same]
    rfl
  cases rejected
  all_goals
    simp only [Connection.leave, if_true, Bool.false_eq_true, if_false, advance, hook]
    exact ⟨rfl, Outbox.isClosed_of_cancelled rfl, rfl⟩

theorem aside_leave (same : d.handler = chatSocket) (forks : d.forks = c.forks) :
    Aside c (d.leave false) := by
  obtain ⟨reader, closed, kept⟩ := leave_chat same false
  exact .left reader closed (kept.trans forks)

theorem aside_takeUp (same : d.handler = chatSocket) (listening : c.reader = .listening)
    (forks : d.forks = c.forks) (text : String) : Aside c (d.takeUp text) := by
  unfold takeUp
  split
  · exact aside_leave same forks
  · refine .begun listening ?_ ?_
    · unfold begin
      rw [same]
      split
      · exact onCallbacks_of_rest rfl
      · exact fun t there => by cases there
      · next work =>
        exact onCallbacks_of_running (Socket.isCallback_of_frameWork work) rfl
    · unfold begin
      split <;> exact forks

def IsAside : ConnectionAct → Prop
  | .move _ (.work _) | .move _ (.fork ..) => False
  | _ => True

theorem aside_act (same : c.handler = chatSocket) (w : application.World) {x : ConnectionAct}
    (aside : IsAside x) : Aside c (c.act w x) := by
  have self : Aside c c := .still rfl rfl
  cases x with
  | drop => exact .left rfl (by simp [Connection.act, Connection.drop, Outbox.isClosed]) rfl
  | move now m =>
    simp only [Connection.act, Connection.move]
    cases m with
    | work | fork => cases aside
    | release =>
      simp only [releaseStep]
      split
      · split
        · exact aside_leave (d := { c with outbox := c.outbox.leave readerTicket }) same rfl
        · exact self
      · exact self
    | arrive =>
      simp only [arriveStep]
      split
      · exact self
      split
      · exact self
      split
      · exact .still rfl rfl
      · exact .still rfl rfl
      · exact aside_leave (d := { c with outbox := c.outbox.leave readerTicket }) same rfl
      · exact self
    | listen =>
      cases reader : c.reader with
      | connecting | handling | disconnecting | ended =>
        simp only [listenStep, reader]
        exact self
      | listening =>
        simp only [listenStep, reader]
        cases backlog : c.backlog with
        | cons text rest =>
          exact aside_takeUp (d := { c with backlog := rest, reader := .listening }) same reader rfl text
        | nil =>
          dsimp only
          split
          · exact aside_leave same rfl
          split
          · next rest _ =>
            exact aside_takeUp (d := { c with inbound := rest, backlog := [], reader := .listening })
              same reader rfl _
          · exact .still reader.symm rfl
          · exact aside_leave same rfl
          · exact self
    | write =>
      cases stepped : c.writeStep now with
      | none => exact self
      | some d =>
        have written := written stepped
        generalize c.writerEvents = es at written
        cases written <;> exact .still rfl rfl

theorem aside_sends {x : ConnectionAct} (aside : IsAside x) :
    sentFrames (c.lineEvents x) = [] := by
  cases x with
  | drop => rfl
  | move now m =>
    cases m with
    | work | fork => cases aside
    | release | arrive | listen => rfl
    | write =>
      simp only [Connection.lineEvents, writerEvents]
      split
      · split <;> rfl
      · split <;> rfl
      · rfl

theorem tellings_pushed_error (handler : SocketHandler application) (o : Outbox String)
    (ticket : Nat) (e : BridgeError) :
    tellings (sentFrames (pushed handler o ticket (.error e))) = [] := by
  refine List.filter_eq_nil_iff.mpr fun frame sent => ?_
  have carried : some (ofError e).text = some frame := frame?_of_pushed sent
  cases carried
  simp [not_tellsOfRoom_error e]

theorem workStep_callback {work : Work application.Socket} {s : WorkStep application}
    (callback : ∀ t, work = .running t → Socket.IsCallback t.state)
    (stepped : c.workStep now pick w work = some (w', s)) :
    (∃ o work', s = .onward { c with outbox := o } work' ∧
      ∀ t, work' = .running t → Socket.IsCallback t.state) ∨
    ∃ o failed, s = .ended { c with outbox := o } failed := by
  cases work with
  | running t =>
    obtain ⟨⟨w₁, o, turn⟩, step, e⟩ := Option.map_eq_some_iff.mp stepped
    rcases callback_step (callback t rfl) step with ⟨t', rfl, callback'⟩ | ⟨outcome, rfl⟩
    · cases e
      refine .inl ⟨o, _, rfl, fun t there => ?_⟩
      cases there
      exact callback'
    · simp only at e
      split at e <;> cases e
      · exact .inr ⟨o, _, rfl⟩
      · exact .inl ⟨o, _, rfl, nofun⟩
  | reporting e =>
    simp only [workStep] at stepped
    split at stepped <;> cases stepped
    · exact .inr ⟨_, _, rfl⟩
    · exact .inl ⟨_, _, rfl, nofun⟩

theorem tellings_workEvents {work : Work application.Socket}
    (callback : ∀ t, work = .running t → Socket.IsCallback t.state) :
    tellings (sentFrames (c.workEvents work)) = [] := by
  cases work with
  | running t =>
    simp only [workEvents, taskEvents, callback_pushes (callback t rfl)]
    rfl
  | reporting e => exact tellings_pushed_error c.handler c.outbox readerTicket e

/-- A reader at callbacks stays there, starts nothing and tells nothing. -/
theorem work_callback (same : c.handler = chatSocket) (callback : OnCallbacks c)
    (w : application.World) (now : Nat) (pick : Alternative) :
    OnCallbacks (c.act w (.move now (.work pick))) ∧
      (c.act w (.move now (.work pick))).forks = c.forks ∧
      tellings (sentFrames (c.lineEvents (.move now (.work pick)))) = [] := by
  have quiet : tellings (sentFrames (c.lineEvents (.move now (.work pick)))) = [] := by
    simp only [Connection.lineEvents]
    split
    · next work there =>
      exact tellings_workEvents fun t running => callback t (running ▸ there)
    · rfl
  have left {d : Connection application} (same : d.handler = chatSocket) (forks : d.forks = c.forks)
      (rejected : Bool) : OnCallbacks (d.leave rejected) ∧ (d.leave rejected).forks = c.forks := by
    obtain ⟨reader, -, kept⟩ := leave_chat same rejected
    exact ⟨onCallbacks_of_rest (by simp [work?, reader]), kept.trans forks⟩
  refine and_assoc.mp ⟨?_, quiet⟩
  simp only [Connection.act, Connection.move, readerStep]
  cases reader : c.reader with
  | listening | ended => exact ⟨callback, rfl⟩
  | connecting work | handling work | disconnecting rejected work =>
    have there : c.work? = some work := by simp [work?, reader]
    dsimp only
    cases stepped : c.workStep now pick w work with
    | none => exact ⟨callback, rfl⟩
    | some r =>
      obtain ⟨w', s⟩ := r
      have steps := workStep_callback (fun t running => callback t (running ▸ there)) stepped
      rcases steps with ⟨o, work', rfl, callback'⟩ | ⟨o, failed, rfl⟩
      · exact ⟨fun t at' => callback' t (Option.some.inj at'), rfl⟩
      · first
        | exact ⟨onCallbacks_of_rest rfl, rfl⟩
        | cases failed with
          | true => exact left (d := { c with outbox := o }) same rfl true
          | false => exact ⟨onCallbacks_of_rest rfl, rfl⟩

def Socket.passed? : Socket → Option Nat
  | listening p | following p | telling _ p => some p
  | _ => none

def Socket.ahead (room : Room) : Socket → List RoomEvent
  | listening p | following p => room.events.drop p
  | telling e p => e :: room.events.drop p
  | _ => []

variable {whole closed closed' : Prop} {room room' : Room} {n p q : Nat} {told all : List String}
  {e : RoomEvent} {slot : Option (Task application.Socket)}

/-- The frames tell of events from number `n` on and before number `p` in their order, and of all of
them where nothing is skipped. -/
structure Covers (whole : Prop) (room : Room) (n p : Nat) (told : List String) : Prop where
  started : n ≤ p
  reached : p ≤ room.size
  order : told.Sublist ((room.between n p).map RoomEvent.frame)
  gapless : whole → told = (room.between n p).map RoomEvent.frame

/-- The frames tell of events from number `n` on in their order, and of the first of them where
nothing is skipped. -/
structure Excerpt (whole : Prop) (room : Room) (n : Nat) (told : List String) : Prop where
  order : told.Sublist ((room.events.drop n).map RoomEvent.frame)
  initial : whole → told <+: (room.events.drop n).map RoomEvent.frame

theorem covers_start (h : n ≤ room.size) : Covers whole room n n [] :=
  ⟨Nat.le_refl n, h, List.nil_sublist _, fun _ => by rw [Room.between_self]; rfl⟩

theorem Covers.grow (h : Covers whole room n p told) (grown : room.events <+: room'.events) :
    Covers whole room' n p told where
  started := h.started
  reached := Nat.le_trans h.reached (Room.size_le grown)
  order := by
    rw [Room.between_grown grown h.reached]
    exact h.order
  gapless complete := by
    rw [Room.between_grown grown h.reached]
    exact h.gapless complete

/-- A listener that is near enough takes up the very next event. -/
theorem Covers.next (h : Covers whole room n p told) (follows : room.following? p = some (e, q))
    (near : whole → room.size - p ≤ Room.kept) : Covers whole room n q (told ++ [e.frame]) := by
  obtain ⟨k, later, exact, there, rfl⟩ := Room.following?_eq_some follows
  have start : n ≤ k := Nat.le_trans h.started later
  have frames : (room.between n (k + 1)).map RoomEvent.frame =
      (room.between n k).map RoomEvent.frame ++ [e.frame] := by
    rw [Room.between_succ start there, List.map_append]
    rfl
  refine ⟨Nat.le_succ_of_le start, (List.getElem?_eq_some_iff.mp there).1, ?_, fun complete => ?_⟩
  · rw [frames]
    exact (h.order.trans ((room.between_sublist n later).map _)).append (.refl _)
  · rw [frames, exact (near complete), ← h.gapless complete]

theorem Covers.split (h : Covers whole room n p told) :
    (room.events.drop n).map RoomEvent.frame =
      (room.between n p).map RoomEvent.frame ++ (room.events.drop p).map RoomEvent.frame := by
  rw [← List.map_append, Room.between_append h.started h.reached]

theorem Covers.excerpt (h : Covers whole room n p all) (first : told <+: all) :
    Excerpt whole room n told where
  order := by
    rw [h.split]
    exact first.sublist.trans (h.order.trans (List.sublist_append_left _ _))
  initial complete := by
    rw [h.split, ← h.gapless complete]
    exact first.trans (List.prefix_append _ _)

theorem Excerpt.grow (h : Excerpt whole room n told) (grown : room.events <+: room'.events) :
    Excerpt whole room' n told := by
  have later : (room.events.drop n).map RoomEvent.frame <+:
      (room'.events.drop n).map RoomEvent.frame := (grown.drop n).map _
  exact ⟨h.order.trans later.sublist, fun complete => (h.initial complete).trans later⟩

/-- The listener that subscribed at number `n` and has told the frames. It ends only where the
connection is closed. -/
inductive Tells (whole : Prop) (room : Room) (n : Nat) (told : List String) (closed : Prop) :
    Option (Task application.Socket) → Prop
  | following {p : Nat} {since : Option Nat} (covers : Covers whole room n p told) :
      Tells whole room n told closed (some ⟨Socket.following p, since⟩)
  | telling {e : RoomEvent} {p : Nat} {since : Option Nat}
      (covers : Covers whole room n p (told ++ [e.frame])) :
      Tells whole room n told closed (some ⟨Socket.telling e p, since⟩)
  | spent {slot : Option (Task application.Socket)}
      (ended : ∀ t, slot = some t → t.state = Socket.ended) (shut : closed)
      (excerpt : Excerpt whole room n told) : Tells whole room n told closed slot

theorem Tells.grow (h : Tells whole room n told closed slot) (grown : room.events <+: room'.events)
    (still : closed → closed') : Tells whole room' n told closed' slot := by
  cases h with
  | following covers => exact .following (covers.grow grown)
  | telling covers => exact .telling (covers.grow grown)
  | spent ended shut excerpt => exact .spent ended (still shut) (excerpt.grow grown)

theorem push_event (o : Outbox String) (ticket : Nat) (e : RoomEvent) :
    push chatSocket o ticket (.event e.name (.json e.data)) =
      offerFrame o ticket ⟨e.name, e.data.toTransportCase⟩ := by
  cases e <;> rfl

theorem frame?_event (e : RoomEvent) :
    frame? chatSocket (.event e.name (.json e.data)) = some e.frame := by
  cases e <;> rfl

/-- A listener that waits for the room goes on waiting or takes up an event. It stops only where the
connection is closed. -/
theorem following_step {since : Option Nat}
    (stepped : Task.clientStep application.socket (view c.handler) now pick ticket w c.outbox
      ⟨Socket.following p, since⟩ = some (w', o, turn)) :
    o = c.outbox ∧ ∃ s since', turn = .onward ⟨s, since'⟩ ∧
      (s = Socket.following p ∨ (s = Socket.ended ∧ c.outbox.isClosed = true) ∨
        ∃ e q, w.room.following? p = some (e, q) ∧ s = Socket.telling e q) := by
  have next : application.socket.next (Socket.following p) = .client (.waitClosed Socket.ended none
    fun w => (w.room.following? p).map fun r => (w, Socket.telling r.1 r.2)) := rfl
  simp only [Task.clientStep, next] at stepped
  split at stepped
  · split at stepped
    · next cancelled =>
      cases stepped
      exact ⟨rfl, _, _, rfl, .inr (.inl ⟨rfl, Outbox.isClosed_of_cancelled cancelled⟩)⟩
    · cases stepped
  · obtain ⟨⟨w₁, turn₁⟩, waited, outcome⟩ := Option.map_eq_some_iff.mp stepped
    cases outcome
    unfold Task.waitStep at waited
    split at waited
    · cases waited
      exact ⟨rfl, _, _, rfl, .inl rfl⟩
    · obtain ⟨⟨w₂, s⟩, ready, outcome⟩ := Option.map_eq_some_iff.mp waited
      cases outcome
      unfold Task.awaited at ready
      split at ready
      · obtain ⟨⟨e, q⟩, follows, outcome⟩ := Option.map_eq_some_iff.mp ready
        cases outcome
        exact ⟨rfl, _, _, rfl, .inr (.inr ⟨e, q, follows, rfl⟩)⟩
      · cases ready
      · cases ready

def Socket.afterPush (p : Nat) : Option SendError → Socket
  | none => .following p
  | some _ => .ended

/-- A listener that has an event to tell sends its frame once and follows on, stands in line for it,
or is refused by a closed connection and stops. -/
theorem telling_step {since : Option Nat} (same : c.handler = chatSocket)
    (stepped : Task.clientStep application.socket (view c.handler) now pick ticket w c.outbox
      ⟨Socket.telling e p, since⟩ = some (w', o, turn)) :
    ∃ s since', turn = .onward ⟨s, since'⟩ ∧
      ((s = Socket.following p ∧
          sentFrames (c.taskEvents ticket ⟨Socket.telling e p, since⟩) = [e.frame]) ∨
        (sentFrames (c.taskEvents ticket ⟨Socket.telling e p, since⟩) = [] ∧
          (s = Socket.telling e p ∨ (s = Socket.ended ∧ o.isClosed = true)))) := by
  have next : application.socket.next (Socket.telling e p) =
    .client (.push (.event e.name (.json e.data)) (Socket.afterPush p)) := rfl
  have asks : (⟨Socket.telling e p, since⟩ : Task application.Socket).pushes? application.socket =
      some (.event e.name (.json e.data)) := rfl
  have offers : push c.handler c.outbox ticket (.event e.name (.json e.data)) =
      offerFrame c.outbox ticket ⟨e.name, e.data.toTransportCase⟩ := by
    rw [same, push_event]
  have carries : frame? c.handler (.event e.name (.json e.data)) = some e.frame :=
    same ▸ frame?_event e
  simp only [Task.clientStep, next, view, offers, offerFrame] at stepped
  simp only [offerFrame] at offers
  rcases c.outbox.offer_cases ticket e.frame with ⟨shut, refused⟩ | ⟨-, -, -, taken⟩ |
    ⟨-, -, queued⟩ | ⟨-, -, -, blocked⟩
  · unfold RoomEvent.frame at refused
    rw [refused] at stepped offers
    simp only [taskEvents, asks, pushed, offers]
    cases stepped
    exact ⟨_, _, rfl, .inr ⟨rfl, .inr ⟨rfl, shut⟩⟩⟩
  · unfold RoomEvent.frame at taken
    rw [taken] at stepped offers
    simp only [taskEvents, asks, pushed, offers, carries]
    cases stepped
    exact ⟨_, _, rfl, .inl ⟨rfl, rfl⟩⟩
  · unfold RoomEvent.frame at queued
    rw [queued] at stepped offers
    simp only [taskEvents, asks, pushed, offers]
    cases stepped
    exact ⟨_, _, rfl, .inr ⟨rfl, .inl rfl⟩⟩
  · unfold RoomEvent.frame at blocked
    rw [blocked] at stepped
    cases stepped

/-- Each step of a listener keeps account of what it has told. -/
theorem tells_step (h : Tells whole room n told (c.outbox.isClosed = true) (some t))
    (same : c.handler = chatSocket) (here : World.room w = room)
    (near : whole → ∀ p, Socket.passed? t.state = some p → room.size - p ≤ Room.kept)
    (stepped : t.clientStep application.socket (view c.handler) now pick ticket w c.outbox =
      some (w', o, turn)) :
    ∃ slot, Task.forksAfter [some t] 0 turn = [slot] ∧
      Tells whole room n (told ++ tellings (sentFrames (c.taskEvents ticket t)))
        (o.isClosed = true) slot := by
  have silent (quiet : sentFrames (c.taskEvents ticket t) = []) :
      told ++ tellings (sentFrames (c.taskEvents ticket t)) = told := by
    rw [quiet]
    exact List.append_nil told
  cases h with
  | @following p since covers =>
    rw [silent rfl]
    obtain ⟨rfl, s, since', rfl, stays | ⟨rfl, shut⟩ | ⟨e, q, follows, rfl⟩⟩ := following_step stepped
    · cases stays
      exact ⟨_, rfl, .following covers⟩
    · exact ⟨_, rfl, .spent (fun t there => by cases there; rfl) shut
        (covers.excerpt (List.prefix_refl told))⟩
    · exact ⟨_, rfl, .telling (covers.next (here ▸ follows) fun complete => near complete p rfl)⟩
  | @telling e p since covers =>
    obtain ⟨s, since', rfl, ⟨rfl, sent⟩ | ⟨quiet, stays | ⟨rfl, shut⟩⟩⟩ := telling_step same stepped
    · rw [sent, tellings_frame]
      exact ⟨_, rfl, .following covers⟩
    · cases stays
      rw [silent quiet]
      exact ⟨_, rfl, .telling covers⟩
    · rw [silent quiet]
      exact ⟨_, rfl, .spent (fun t there => by cases there; rfl) shut
        (covers.excerpt (List.prefix_append _ _))⟩
  | spent ended shut excerpt =>
    obtain ⟨s, since⟩ := t
    cases ended _ rfl
    cases stepped
    rw [silent rfl]
    exact ⟨_, rfl, .spent nofun shut excerpt⟩

/-- Where the connection listens to the room: in the task that its hook started, or yet in the hook. -/
def listener? (c : Connection application) : Option Socket :=
  match c.forks, c.reader with
  | slot :: _, _ => slot.map Task.state
  | [], .connecting (.running t) => some t.state
  | [], _ => none

def subscribes (c : Connection application) : ConnectionAct → Bool
  | .move _ (.work _) =>
    match c.reader with
    | .connecting (.running ⟨.connecting, _⟩) => true
    | _ => false
  | _ => false

/-- How far the connection has come: it has told the frames and, once its hook ran, is subscribed from
that number on. -/
inductive Stage (whole : Prop) (room : Room) (told : List String) (c : Connection application) :
    Option Nat → Prop
  | connecting {since : Option Nat}
      (reader : c.reader = .connecting (.running ⟨Socket.connecting, since⟩)) (forks : c.forks = [])
      (silent : told = []) : Stage whole room told c none
  | subscribed {n : Nat} {since : Option Nat}
      (reader : c.reader = .connecting (.running ⟨Socket.listening n, since⟩)) (forks : c.forks = [])
      (reached : n ≤ room.size) (silent : told = []) : Stage whole room told c (some n)
  | attending {n : Nat} {slot : Option (Task application.Socket)} (callback : OnCallbacks c)
      (forks : c.forks = [slot]) (tells : Tells whole room n told (c.outbox.isClosed = true) slot) :
      Stage whole room told c (some n)
  | gone {joined : Option Nat} (reader : c.reader = .ended) (forks : c.forks = [])
      (closed : c.outbox.isClosed = true) (silent : told = []) : Stage whole room told c joined

structure Attends (whole : Prop) (room : Room) (told : List String) (joined : Option Nat)
    (c : Connection application) : Prop where
  handler : c.handler = chatSocket
  stage : Stage whole room told c joined

variable {joined : Option Nat}

theorem Attends.grow (h : Attends whole room told joined c) (grown : room.events <+: room'.events) :
    Attends whole room' told joined c := by
  refine ⟨h.handler, ?_⟩
  cases h.stage with
  | connecting reader forks silent => exact .connecting reader forks silent
  | subscribed reader forks reached silent =>
    exact .subscribed reader forks (Nat.le_trans reached (Room.size_le grown)) silent
  | attending callback forks tells => exact .attending callback forks (tells.grow grown id)
  | gone reader forks closed silent => exact .gone reader forks closed silent

theorem handler_act (same : c.handler = chatSocket) (w : application.World) (x : ConnectionAct) :
    (c.act w x).handler = chatSocket := by
  cases x with
  | drop => exact same
  | move now m => exact (kin_of_step (step_move c w now m)).handler.trans same

theorem Stage.aside (h : Stage whole room told c joined) (aside : Aside c d)
    (still : c.outbox.isClosed = true → d.outbox.isClosed = true) :
    Stage whole room told d joined := by
  cases h with
  | connecting reader forks silent =>
    cases aside with
    | still reader' forks' => exact .connecting (reader'.trans reader) (forks'.trans forks) silent
    | begun listening => rw [reader] at listening; cases listening
    | left reader' closed forks' => exact .gone reader' (forks'.trans forks) closed silent
  | subscribed reader forks reached silent =>
    cases aside with
    | still reader' forks' =>
      exact .subscribed (reader'.trans reader) (forks'.trans forks) reached silent
    | begun listening => rw [reader] at listening; cases listening
    | left reader' closed forks' => exact .gone reader' (forks'.trans forks) closed silent
  | attending callback forks tells =>
    have tells := tells.grow (List.prefix_refl _) still
    cases aside with
    | still reader' forks' =>
      refine .attending (fun t there => callback t ?_) (forks'.trans forks) tells
      rwa [work?, ← reader']
    | begun _ callback' forks' => exact .attending callback' (forks'.trans forks) tells
    | left reader' _ forks' =>
      exact .attending (onCallbacks_of_rest (by simp [work?, reader'])) (forks'.trans forks) tells
  | gone reader forks closed silent =>
    cases aside with
    | still reader' forks' =>
      exact .gone (reader'.trans reader) (forks'.trans forks) (still closed) silent
    | begun listening => rw [reader] at listening; cases listening
    | left reader' closed' forks' => exact .gone reader' (forks'.trans forks) closed' silent

theorem not_subscribes_of_callback (callback : OnCallbacks c) (x : ConnectionAct) :
    subscribes c x = false := by
  unfold subscribes
  split
  · split
    · next since reader =>
      exact absurd (callback ⟨Socket.connecting, since⟩ (by simp [work?, reader])) id
    · rfl
  · rfl

theorem Stage.work (h : Stage whole room told c joined) (same : c.handler = chatSocket)
    (here : World.room w = room)
    (still : c.outbox.isClosed = true → (c.act w (.move now (.work pick))).outbox.isClosed = true) :
    Stage whole room (told ++ tellings (sentFrames (c.lineEvents (.move now (.work pick)))))
      (c.act w (.move now (.work pick)))
      (if subscribes c (.move now (.work pick)) then some room.size else joined) := by
  cases h with
  | connecting reader forks silent =>
    obtain ⟨handler, definitions, phase, outbox, inbound, backlog, reader', writer, sink, forks'⟩ := c
    cases reader
    cases forks
    cases silent
    cases here
    exact .subscribed rfl rfl (Nat.le_refl _) rfl
  | subscribed reader forks reached silent =>
    obtain ⟨handler, definitions, phase, outbox, inbound, backlog, reader', writer, sink, forks'⟩ := c
    cases reader
    cases forks
    cases silent
    refine .attending (onCallbacks_of_running (t := Task.at Socket.ended) trivial rfl) rfl
      (.following (covers_start reached))
  | attending callback forks tells =>
    obtain ⟨callback', forks', quiet⟩ := work_callback same callback w now pick
    rw [quiet, List.append_nil, not_subscribes_of_callback callback]
    exact .attending callback' (forks'.trans forks) (tells.grow (List.prefix_refl _) still)
  | gone reader forks closed silent =>
    have idle : c.work? = none := by simp [work?, reader]
    have quiet : c.lineEvents (.move now (.work pick)) = [] := by
      simp only [Connection.lineEvents, idle]
    have same' : c.act w (.move now (.work pick)) = c := by
      simp only [Connection.act, Connection.move, readerStep, reader]
      rfl
    rw [quiet, same', not_subscribes_of_callback (onCallbacks_of_rest idle)]
    exact .gone reader forks closed (by rw [silent]; rfl)

theorem act_fork (c : Connection application) (w : application.World) (now index : Nat)
    (pick : Alternative) :
    (c.act w (.move now (.fork index pick)) = c ∧
      c.lineEvents (.move now (.fork index pick)) = []) ∨
    ∃ t w' o turn, c.forks[index]? = some (some t) ∧
      t.clientStep application.socket (view c.handler) now pick (index + 1) w c.outbox =
        some (w', o, turn) ∧
      c.act w (.move now (.fork index pick)) =
        { c with outbox := o, forks := Task.forksAfter c.forks index turn } ∧
      c.lineEvents (.move now (.fork index pick)) = c.taskEvents (index + 1) t := by
  simp only [Connection.act, Connection.move, forkStep, Connection.lineEvents]
  rcases there : c.forks[index]? with _ | _ | t
  · exact .inl ⟨by rfl, by rfl⟩
  · exact .inl ⟨by rfl, by rfl⟩
  · cases stepped :
      t.clientStep application.socket (view c.handler) now pick (index + 1) w c.outbox with
    | none => exact .inl ⟨by simp only [stepped]; rfl, taskEvents_of_stuck stepped⟩
    | some r =>
      obtain ⟨w', o, turn⟩ := r
      refine .inr ⟨t, w', o, turn, rfl, stepped, ?_, rfl⟩
      simp only [stepped, Option.map_some, Option.getD_some]
      cases turn <;> rfl

theorem Stage.fork (h : Stage whole room told c joined) (same : c.handler = chatSocket)
    (here : World.room w = room)
    (near : whole → ∀ p, (listener? c).bind Socket.passed? = some p → room.size - p ≤ Room.kept) :
    Stage whole room (told ++ tellings (sentFrames (c.lineEvents (.move now (.fork index pick)))))
      (c.act w (.move now (.fork index pick))) joined := by
  rcases act_fork c w now index pick with ⟨idle, quiet⟩ | ⟨t, w', o, turn, there, stepped, after, events⟩
  · rw [idle, quiet]
    exact (List.append_nil told).symm ▸ h
  · rw [after, events]
    cases h with
    | connecting _ forks | subscribed _ forks | gone _ forks => simp [forks] at there
    | @attending n slot callback forks tells =>
      obtain ⟨rfl, rfl⟩ : index = 0 ∧ slot = some t := by
        rw [forks] at there
        cases index with
        | zero => exact ⟨rfl, Option.some.inj there⟩
        | succ => cases there
      have listens : listener? c = some t.state := by
        simp only [listener?, forks]
        rfl
      obtain ⟨slot, forks', tells'⟩ := tells_step tells same here
        (fun complete p passed => near complete p (by rw [listens]; exact passed)) stepped
      rw [forks, forks']
      exact .attending (fun t there => callback t there) rfl tells'

theorem Attends.act (h : Attends whole room told joined c) (here : World.room w = room)
    (near : whole → ∀ p, (listener? c).bind Socket.passed? = some p → room.size - p ≤ Room.kept)
    (x : ConnectionAct) :
    Attends whole room (told ++ tellings (sentFrames (c.lineEvents x)))
      (if subscribes c x then some room.size else joined) (c.act w x) := by
  refine ⟨handler_act h.handler w x, ?_⟩
  have still := (later_carried (carried_act c w x)).isClosed
  by_cases aside : IsAside x
  · have other : subscribes c x = false := by
      unfold subscribes
      split
      · cases aside
      · rfl
    rw [aside_sends aside, other]
    exact (List.append_nil told).symm ▸ h.stage.aside (aside_act h.handler w aside) still
  · cases x with
    | drop => exact absurd trivial aside
    | move now m =>
      cases m with
      | release | arrive | listen | write => exact absurd trivial aside
      | work pick => exact h.stage.work h.handler here still
      | fork index pick => exact h.stage.fork h.handler here near

end CommandBridge.Showcase
