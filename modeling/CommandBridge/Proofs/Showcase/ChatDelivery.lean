import CommandBridge.Proofs.Showcase.Listeners
import CommandBridge.Proofs.Showcase.Outputs
import CommandBridge.Proofs.Socket.Ending
import Mathlib.Data.List.Permutation

/-!
# What is said in the chat room is told

Any number of clients join, talk and leave while their listeners run. Each is told events that were
published after its own connect hook subscribed, in the order of the room and none twice. A listener
that the room does not leave behind skips none, and it comes to rest only when all were told, those
that its own client published among them.
-/

set_option autoImplicit false

namespace CommandBridge.Showcase

open Bridge Connection

def behind (b : Bridge application) (i : Nat) : Nat :=
  match (b.connections[i]?.bind listener?).bind Socket.passed? with
  | some p => b.world.room.size - p
  | none => 0

def KeepsUp (i : Nat) (b : Bridge application) (acts : List (Act application)) : Prop :=
  ∀ before, before <+: acts → behind (b.run before) i ≤ Room.kept

/-- The act is the one by which the connect hook of the connection of number `i` subscribes. -/
def joins (i : Nat) (b : Bridge application) (a : Act application) : Bool :=
  match b.connections[i]?, b.connectionAct? i a with
  | some c, some x => subscribes c x
  | _, _ => false

def joined? (i : Nat) : Bridge application → List (Act application) → Option Nat
  | _, [] => none
  | b, a :: rest => if joins i b a then some b.world.room.size else joined? i (b.act a) rest

def Room.since (room : Room) : Option Nat → List RoomEvent
  | some n => room.events.drop n
  | none => []

/-- The events published in a run after the connect hook of the connection of number `i` subscribed. -/
def published (i : Nat) (b : Bridge application) (acts : List (Act application)) : List RoomEvent :=
  (b.run acts).world.room.since (joined? i b acts)

def said (i : Nat) : Bridge application → List (Act application) → List RoomEvent
  | _, [] => []
  | b, a :: rest =>
    (if (b.connectionAct? i a).isSome then (b.act a).world.room.events.drop b.world.room.size
      else []) ++ said i (b.act a) rest

def ahead (room : Room) (c : Connection application) : List RoomEvent :=
  match listener? c with
  | some s => s.ahead room
  | none => []

variable {whole : Prop} {room : Room} {told : List String} {joined : Option Nat}
  {c d : Connection application} {w : application.World} {now : Nat}

theorem Attends.excerpt (h : Attends whole room told joined c) :
    told.Sublist ((room.since joined).map RoomEvent.frame) ∧
      (whole → told <+: (room.since joined).map RoomEvent.frame) := by
  cases h.stage with
  | connecting _ _ silent | subscribed _ _ _ silent | gone _ _ _ silent =>
    subst silent
    exact ⟨List.nil_sublist _, fun _ => List.nil_prefix⟩
  | attending _ _ tells =>
    cases tells with
    | following covers =>
      have excerpt := covers.excerpt (List.prefix_refl told)
      exact ⟨excerpt.order, excerpt.initial⟩
    | telling covers =>
      have excerpt := covers.excerpt (List.prefix_append told _)
      exact ⟨excerpt.order, excerpt.initial⟩
    | spent _ _ excerpt => exact ⟨excerpt.order, excerpt.initial⟩

/-- A listener on an open connection that skipped nothing has told all but what is ahead of it. -/
theorem Attends.told_and_ahead (h : Attends whole room told joined c)
    (going : c.outbox.isClosed = false) (complete : whole) :
    (room.since joined).map RoomEvent.frame =
      told ++ (ahead room c).map RoomEvent.frame := by
  cases h.stage with
  | connecting reader forks silent =>
    simp only [silent, ahead, listener?, forks, reader]
    rfl
  | subscribed reader forks _ silent =>
    simp only [silent, ahead, listener?, forks, reader]
    rfl
  | attending _ forks tells =>
    simp only [ahead, listener?, forks]
    cases tells with
    | following covers =>
      rw [covers.gapless complete]
      exact covers.split
    | telling covers =>
      refine covers.split.trans ?_
      rw [← covers.gapless complete, List.append_assoc]
      rfl
    | spent _ shut => rw [going] at shut; cases shut
  | gone _ _ closed => rw [going] at closed; cases closed

/-- A listener at rest on an open connection has nothing ahead of it. -/
theorem Attends.ahead_of_rests (h : Attends whole room told joined c) (here : World.room w = room)
    (sound : Sound c) (present : c.reader ≠ .ended) (rests : c.Rests now w)
    (queue : c.outbox.queue = []) (going : c.outbox.isClosed = false) : ahead room c = [] := by
  have line := line_of_rests sound rests present queue
  cases h.stage with
  | connecting reader forks =>
    simp only [ahead, listener?, forks, reader]
    rfl
  | subscribed reader forks =>
    have shut := rests now (Nat.le_refl _) (.work .ready)
    simp only [Connection.move, readerStep, reader] at shut
    cases shut
  | attending _ forks tells =>
    have shut := rests now (Nat.le_refl _) (.fork 0 .ready)
    simp only [Connection.move, forkStep, forks, List.getElem?_cons_zero] at shut
    simp only [ahead, listener?, forks]
    cases tells with
    | @following p since covers =>
      have nothing : room.following? p = none := by
        cases since with
        | none => cases shut
        | some since =>
          have ready :
              ((World.room w).following? p).map (fun r => (w, Socket.telling r.1 r.2)) = none :=
            Option.map_eq_none_iff.mp (Option.map_eq_none_iff.mp (Option.map_eq_none_iff.mp shut))
          rw [here] at ready
          exact Option.map_eq_none_iff.mp ready
      exact List.drop_eq_nil_of_le (Room.following?_eq_none.mp nothing)
    | @telling e p since covers =>
      have offer : (⟨Socket.telling e p, since⟩ : Task application.Socket).offers? application.socket
          (frame? c.handler) = some e.frame := by
        rw [h.handler]
        exact frame?_event e
      have admits : c.outbox.Admits (0 + 1) := fun _ => by
        rw [queue, line]
        exact ⟨sound.room, fun first rest waits => by cases waits⟩
      have steps : (Task.clientStep application.socket (view c.handler) now .ready (0 + 1) w c.outbox
          ⟨Socket.telling e p, since⟩).isSome = true :=
        Task.clientStep_of_offers (view_serves c.handler) offer admits
      rw [Option.map_eq_none_iff.mp shut] at steps
      cases steps
    | spent _ shut => rw [going] at shut; cases shut
  | gone reader => exact absurd reader present

variable {i : Nat} {b : Bridge application} {l : List HookEvent × List LineEvent}

theorem Attends.fresh (h : Attends whole room told joined c) {x : ConnectionAct}
    (subscribes : subscribes c x = true) : joined = none := by
  have callback (callback : OnCallbacks c) : joined = none := by
    rw [not_subscribes_of_callback callback] at subscribes
    cases subscribes
  cases h.stage with
  | connecting => rfl
  | subscribed reader =>
    unfold Showcase.subscribes at subscribes
    split at subscribes
    · rw [reader] at subscribes
      cases subscribes
    · cases subscribes
  | attending on => exact callback on
  | gone reader => exact callback (onCallbacks_of_rest (by simp [work?, reader]))

/-- Every act on the bridge keeps the invariant of a connection to the room. -/
theorem attends_step (there : b.connections[i]? = some c)
    (h : Attends whole b.world.room (tellings (sentFrames l.2)) joined c)
    (near : whole → behind b i ≤ Room.kept) (a : Act application) :
    ∃ d, (b.act a).connections[i]? = some d ∧
      Attends whole (b.act a).world.room
        (tellings (sentFrames ((connectionRecords application).noted i b l a).2))
        (joined.or (if joins i b a then some b.world.room.size else none)) d := by
  refine ⟨_, act_connection there a, ?_⟩
  have grown := room_act b a
  cases seen : b.connectionAct? i a with
  | none =>
    have quiet : (connectionRecords application).noted i b l a = l := by
      simp [Sessions.noted, connectionRecords, there, seen]
    have aside : joins i b a = false := by simp [joins, there, seen]
    rw [quiet, aside]
    simpa using h.grow grown
  | some x =>
    have events : ((connectionRecords application).noted i b l a).2 = l.2 ++ c.lineEvents x := by
      simp [Sessions.noted, connectionRecords, there, seen]
    have own : joins i b a = subscribes c x := by simp [joins, there, seen]
    have once : (if subscribes c x then some b.world.room.size else joined) =
        joined.or (if subscribes c x then some b.world.room.size else none) := by
      by_cases ran : subscribes c x = true
      · rw [h.fresh ran, Option.none_or, if_pos ran]
      · rw [if_neg ran, if_neg ran, Option.or_none]
    have onward := h.act (w := b.world) rfl (fun complete p passes => by
      simpa [behind, there, passes] using near complete) x
    rw [events, own, sentFrames, List.filterMap_append, ← sentFrames, ← sentFrames, tellings_append,
      ← once]
    exact onward.grow grown

theorem attends_run (acts : List (Act application)) (there : b.connections[i]? = some c)
    (h : Attends whole b.world.room (tellings (sentFrames l.2)) joined c)
    (near : whole → KeepsUp i b acts) :
    ∃ d, (b.run acts).connections[i]? = some d ∧
      Attends whole (b.run acts).world.room
        (tellings (sentFrames ((connectionRecords application).history i b acts l).2))
        (joined.or (joined? i b acts)) d := by
  induction acts generalizing b c l joined with
  | nil => exact ⟨c, there, by rw [joined?, Option.or_none]; exact h⟩
  | cons a rest ih =>
    obtain ⟨d, next, attends⟩ := attends_step there h
      (fun complete => near complete [] List.nil_prefix) a
    obtain ⟨d', later, attends'⟩ := ih next attends fun complete before first =>
      near complete (a :: before) (List.cons_prefix_cons.mpr ⟨rfl, first⟩)
    refine ⟨d', later, ?_⟩
    have number : (joined.or (if joins i b a then some b.world.room.size else none)).or
        (joined? i (b.act a) rest) = joined.or (joined? i b (a :: rest)) := by
      rw [Option.or_assoc, joined?]
      by_cases now' : joins i b a = true <;> simp [now']
    rw [← number]
    exact attends'

theorem drop_append_drop {xs ys zs : List RoomEvent} (h : xs <+: ys) (h' : ys <+: zs) :
    ys.drop xs.length ++ zs.drop ys.length = zs.drop xs.length := by
  obtain ⟨us, rfl⟩ := h
  obtain ⟨vs, rfl⟩ := h'
  simp

theorem said_sublist (i : Nat) (b : Bridge application) (acts : List (Act application)) :
    (said i b acts).Sublist ((b.run acts).world.room.events.drop b.world.room.size) := by
  induction acts generalizing b with
  | nil => exact List.nil_sublist _
  | cons a rest ih =>
    have news := drop_append_drop (room_act b a) (room_run (b.act a) rest)
    rw [said, run_cons, ← show _ = ((b.act a).run rest).world.room.events.drop b.world.room.size
      from news]
    refine .append ?_ (ih (b.act a))
    split
    · exact .refl _
    · exact List.nil_sublist _

/-- The world does not change by what is aside from hooks, callbacks and listeners. -/
theorem worldAfter_aside {x : ConnectionAct} (aside : IsAside x) : c.worldAfter w x = w := by
  cases x with
  | drop =>
    simp only [Connection.worldAfter, Connection.drop]
    split
    · next work _ => cases work <;> rfl
    · rfl
  | move now m =>
    simp only [Connection.worldAfter, Connection.move]
    cases m with
    | work | fork => cases aside
    | release =>
      simp only [releaseStep]
      split
      · next work _ =>
        split
        · cases work <;> rfl
        · rfl
      · rfl
    | arrive =>
      simp only [arriveStep]
      split
      · rfl
      split
      · rfl
      next work _ _ =>
      split
      · rfl
      · rfl
      · cases work <;> rfl
      · rfl
    | listen => cases c.listenStep now <;> rfl
    | write => cases c.writeStep now <;> rfl

/-- A connection publishes nothing before its connect hook subscribed. -/
theorem Attends.unsaid (h : Attends whole room told none c) {x : ConnectionAct}
    (waits : subscribes c x = false) : c.worldAfter w x = w := by
  by_cases aside : IsAside x
  · exact worldAfter_aside aside
  cases x with
  | drop => exact absurd trivial aside
  | move now m =>
    cases m with
    | release | arrive | listen | write => exact absurd trivial aside
    | work pick =>
      cases h.stage with
      | connecting reader => simp [subscribes, reader] at waits
      | gone reader =>
        simp only [Connection.worldAfter, Connection.move, readerStep, reader]
        rfl
    | fork index pick =>
      cases h.stage with
      | connecting _ forks | gone _ forks =>
        simp only [Connection.worldAfter, Connection.move, forkStep, forks, List.getElem?_nil]
        rfl

/-- All that a connection publishes is published after its connect hook subscribed. -/
theorem said_published (acts : List (Act application)) (there : b.connections[i]? = some c)
    (h : Attends False b.world.room (tellings (sentFrames l.2)) none c) :
    (said i b acts).Sublist (published i b acts) := by
  induction acts generalizing b c l with
  | nil => exact List.nil_sublist _
  | cons a rest ih =>
    by_cases ran : joins i b a = true
    · rw [published, joined?, if_pos ran]
      exact said_sublist i b (a :: rest)
    · have later : joined? i b (a :: rest) = joined? i (b.act a) rest := by
        rw [joined?, if_neg ran]
      obtain ⟨d, next, attends⟩ := attends_step there h nofun a
      rw [if_neg ran, Option.or_none] at attends
      rw [published, later, said]
      refine .trans ?_ (ih next attends)
      cases seen : b.connectionAct? i a with
      | none => simp
      | some x =>
        have waits : subscribes c x = false := by simpa [joins, there, seen] using ran
        have still : (b.act a).world = b.world :=
          (act_world_of_connection there seen).trans (h.unsaid waits)
        rw [still]
        simp [Room.size]

theorem connect_chat (served : b.registry = registry) (inbound : Inbound) (sink : Sink) :
    b.act (.connect "chat" inbound sink) =
      { b with connections := b.connections ++ [create chatSocket b.registry.definitions
          b.config.channelCapacity inbound sink] } := by
  have found : socketHandler b.registry "chat" = .ok chatSocket := by
    rw [served]
    rfl
  simp only [Bridge.act, connect, found]
  rfl

/-- On an open connection both the reader and the writer go on, and every frame that was sent was handed
on or is queued. -/
theorem Ran.going {A : Application} {handler : SocketHandler A} {capacity : Nat} {frames : List String}
    {c : Connection A} {l : List HookEvent × List LineEvent} (h : Ran handler capacity frames c l)
    (going : c.outbox.isClosed = false) : c.reader ≠ .ended ∧ c.writer ≠ .ended ∧
      sentFrames l.2 = handedFrames l.2 ++ c.outbox.queue := by
  have shut {P : Prop} (closed : c.outbox.isClosed = true) : P := by
    rw [going] at closed
    cases closed
  have reading : c.reader ≠ .ended := fun ended => shut (h.hooks.isClosed ended)
  have writing : c.writer ≠ .ended := fun ended => by
    rcases h.sound.stopped ended with cancelled | gone
    · exact shut (Outbox.isClosed_of_cancelled cancelled)
    · exact reading gone
  have whole : brokenFrames l.2 = [] := by
    by_contra broken
    exact writing (h.line.broken broken)
  refine ⟨reading, writing, ?_⟩
  rw [h.line.queued, whole, List.append_nil]

/-- Where the showcase is served, a client that connects to the chat room is sent, among its frames,
those of events that were published after its connect hook subscribed, in the order of the room and
none twice, and its line takes them in that order. All that it publishes itself is among these events.
If the room never leaves its listener behind, the events that it was sent are the first of them without
a gap; while its connection is open the others are ahead of its listener, and once the connection is at
rest its line has taken them all. -/
theorem chat_delivered (b : Bridge application) (served : b.registry = registry) (inbound : Inbound)
    (sink : Sink) (acts : List (Act application)) :
    let i := b.connections.length
    let b' := b.act (.connect "chat" inbound sink)
    let line := lineLog i b' acts
    let room := (b'.run acts).world.room
    let events := (published i b' acts).map RoomEvent.frame
    ∃ c, (b'.run acts).connections[i]? = some c ∧
      c.sink.frames = sink.frames ++ handedFrames line ∧ handedFrames line <+: sentFrames line ∧
      (tellings (sentFrames line)).Sublist events ∧
      (said i b' acts).Sublist (published i b' acts) ∧
      (KeepsUp i b' acts →
        tellings (sentFrames line) <+: events ∧
        (c.outbox.isClosed = false →
          events = tellings (handedFrames line) ++ tellings c.outbox.queue ++
            (ahead room c).map RoomEvent.frame ∧
          (c.Rests (b'.run acts).now (b'.run acts).world → tellings (handedFrames line) = events))) := by
  intro i b' line room events
  have begun : b'.connections[i]? = some (create chatSocket b.registry.definitions
      b.config.channelCapacity inbound sink) := by
    simp only [b', i, connect_chat served]
    exact List.getElem?_concat_length
  have began : b'.openingOf i = (create chatSocket b.registry.definitions b.config.channelCapacity
      inbound sink).opening := by
    simp only [openingOf, begun]
  have fresh (whole : Prop) : Attends whole b'.world.room [] none
      (create chatSocket b.registry.definitions b.config.channelCapacity inbound sink) :=
    ⟨rfl, .connecting rfl rfl rfl⟩
  obtain ⟨c, there, ran⟩ := Sessions.history_kept (s := connectionRecords application) (b := b')
    (P := Ran chatSocket b.config.channelCapacity sink.frames) (fun c l _ x h => ran_act h x.1 x.2)
    acts begun (ran_create chatSocket _ _ inbound sink)
  rw [← began] at ran
  obtain ⟨d, there', attends⟩ := attends_run (i := i) (b := b') (l := (b'.openingOf i, [])) acts begun
    (fresh (KeepsUp i b' acts)) id
  cases Option.some.inj (there.symm.trans there')
  rw [Option.none_or] at attends
  obtain ⟨order, initial⟩ := attends.excerpt
  have queued : sentFrames line = handedFrames line ++ brokenFrames line ++ c.outbox.queue :=
    ran.line.queued
  refine ⟨c, there, ran.line.taken, ?_, order, said_published acts begun (l := ([], [])) (fresh False),
    fun keeps => ⟨initial keeps, fun going => ?_⟩⟩
  · rw [queued, List.append_assoc]
    exact List.prefix_append ..
  · obtain ⟨reading, writing, sent⟩ := Ran.going ran going
    have all : events = tellings (handedFrames line) ++ tellings c.outbox.queue ++
        (ahead room c).map RoomEvent.frame := by
      have sent : sentFrames line = handedFrames line ++ c.outbox.queue := sent
      rw [← tellings_append, ← sent]
      exact attends.told_and_ahead going keeps
    refine ⟨all, fun rests => ?_⟩
    have queue : c.outbox.queue = [] := by
      rcases writer_of_rests rests with ⟨-, queue, -⟩ | ended
      · exact queue
      · exact absurd ended writing
    have nothing : ahead room c = [] :=
      attends.ahead_of_rests rfl ran.sound reading rests queue going
    rw [all, queue, nothing]
    simp [tellings]

theorem keepsUp_of_size {acts : List (Act application)}
    (small : (b.run acts).world.room.size ≤ Room.kept) : KeepsUp i b acts := by
  rintro before ⟨more, rfl⟩
  have grown : (b.run before).world.room.size ≤ ((b.run before).run more).world.room.size :=
    Room.size_le (room_run (b.run before) more)
  rw [run_append] at small
  unfold behind
  split
  · omega
  · exact Nat.zero_le _

def adaHello : String := "\x7b\"event\":\"join\",\"data\":\"Ada\"\x7d"

def bobHello : String := "\x7b\"event\":\"join\",\"data\":\"Bob\"\x7d"

theorem begin_join {text user : String} {c : Connection application} (chat : c.handler = chatSocket)
    (read : SocketEnvelope.ofText? text = some ⟨"join", .string user⟩)
    (start : Socket.join (.string user) = .joining user) :
    c.begin text = { c with reader := .handling (.running (Task.at (Socket.joining user))) } := by
  have declared : Keyed.lookup "join" chatSocket.clientEvents = some .string := rfl
  have registered : Keyed.lookup "join" chatSocket.callbacks = some Socket.join := rfl
  have valid : validate c.definitions "join" .string (.string user) = .ok () :=
    (Json.fits_string user).validate "join"
  have same : (Json.string user).toTransportCase = .string user := rfl
  simp only [begin, chat, frameWork, read, declared, registered, same, valid, start]

def moves (i : Nat) : List ConnectionMove → List (Act application) :=
  List.map fun m => .move (.connection i m)

def entering (i : Nat) : List (Act application) :=
  moves i [.work .ready, .work .ready, .work .ready, .listen]

def speaking (i : Nat) : List (Act application) := moves i [.work .ready, .work .ready, .work .ready]

def telling (i : Nat) : List (Act application) :=
  moves i [.fork 0 .ready] ++ moves i [.fork 0 .ready, .fork 0 .ready]

def parlour (events : List RoomEvent) (connections : List (Connection application)) :
    Bridge application :=
  { start .default registry .fresh .empty with
    world := { World.fresh with room := ⟨events⟩ }, connections := connections }

def newcomer (text : String) : Connection application :=
  create chatSocket registry.definitions Config.default.channelCapacity
    (.ofArrivals [.frame text, .silence]) (.ofLine 0 none)

def attentive (text : String) : Connection application :=
  { newcomer text with
    phase := .open, inbound := .ofArrivals [.silence], reader := .listening
    forks := [some (Task.at (Socket.following 0))] }

def talking (text user : String) : Connection application :=
  { attentive text with reader := .handling (.running (Task.at (Socket.joining user))) }

def informed (text : String) (passed : Nat) (queue taken : List String) : Connection application :=
  { attentive text with
    outbox := { (attentive text).outbox with queue := queue }
    sink := ⟨0, none, taken, false⟩, forks := [some ⟨Socket.following passed, some 0⟩] }

section Talk

variable {text user : String} {other c : Connection application} {events : List RoomEvent}

theorem connect_newcomer (connections : List (Connection application)) :
    (parlour events connections).act
      (.connect "chat" (.ofArrivals [.frame text, .silence]) (.ofLine 0 none)) =
    parlour events (connections ++ [newcomer text]) := connect_chat rfl _ _

theorem begin_attentive (read : SocketEnvelope.ofText? text = some ⟨"join", .string user⟩)
    (start : Socket.join (.string user) = .joining user) :
    (attentive text).begin text = talking text user := begin_join rfl read start

theorem run_entering_first : (parlour [] [newcomer text]).run (entering 0) =
    parlour [] [(attentive text).begin text] := rfl

theorem run_entering : (parlour [] [other, newcomer text]).run (entering 1) =
    parlour [] [other, (attentive text).begin text] := rfl

theorem run_speaking : (parlour [] [other, talking text user]).run (speaking 1) =
    parlour [.joined user] [other, attentive text] := rfl

theorem run_waiting : (parlour events [other, attentive text]).run (moves 1 [.fork 0 .ready]) =
    parlour events [other, informed text 0 [] []] := rfl

theorem run_answering : (parlour events [talking text user, c]).run (speaking 0) =
    parlour (events ++ [.joined user]) [attentive text, c] := rfl

theorem run_writing {first second : String} :
    (parlour events [other, informed text 2 [first, second] []]).run
      (moves 1 [.write, .write, .write, .write]) =
    parlour events [other, informed text 2 [] [second, first]] := rfl

theorem run_following {passed : Nat} {e : RoomEvent} {queue : List String}
    (follows : (Room.mk events).following? passed = some (e, passed + 1)) :
    (parlour events [other, informed text passed queue []]).run (moves 1 [.fork 0 .ready]) =
      parlour events [other, { informed text passed queue [] with
        forks := [some (Task.at (Socket.telling e (passed + 1)))] }] := by
  have asks : application.socket.next (Socket.following passed) = .client (.waitClosed Socket.ended none
    fun w => (w.room.following? passed).map fun r => (w, Socket.telling r.1 r.2)) := rfl
  simp only [moves, List.map_cons, List.map_nil, run_cons, run_nil, Bridge.act, move?, parlour,
    List.getElem?_cons_succ, List.getElem?_cons_zero, Option.bind_some, Connection.move, forkStep,
    informed, Task.clientStep, asks, Task.waitStep, Task.awaited, follows, Option.map_some]
  rfl

theorem run_telling_first {name : String} :
    (parlour events [other, { informed text 0 [] [] with
      forks := [some (Task.at (Socket.telling (.joined name) 1))] }]).run
        (moves 1 [.fork 0 .ready, .fork 0 .ready]) =
    parlour events [other, informed text 1 [RoomEvent.frame (.joined name)] []] := rfl

theorem run_telling_second {name first : String} :
    (parlour events [other, { informed text 1 [first] [] with
      forks := [some (Task.at (Socket.telling (.joined name) 2))] }]).run
        (moves 1 [.fork 0 .ready, .fork 0 .ready]) =
    parlour events [other, informed text 2 [first, RoomEvent.frame (.joined name)] []] := rfl

end Talk

def company : Bridge application :=
  ((parlour [] []).act (.connect "chat" (.ofArrivals [.frame bobHello, .silence])
    (.ofLine 0 none))).run (entering 0)

def ada : Bridge application :=
  company.act (.connect "chat" (.ofArrivals [.frame adaHello, .silence]) (.ofLine 0 none))

def adaRuns : List (Act application) :=
  entering 1 ++ (speaking 1 ++ (moves 1 [.fork 0 .ready] ++ (speaking 0 ++
    (telling 1 ++ (telling 1 ++ moves 1 [.write, .write, .write, .write])))))

theorem company_eq : company = parlour [] [talking bobHello "Bob"] := by
  have read : SocketEnvelope.ofText? bobHello = some ⟨"join", .string "Bob"⟩ := by cbv
  have start : Socket.join (.string "Bob") = .joining "Bob" := by cbv
  rw [company, connect_newcomer, List.nil_append, run_entering_first,
    begin_attentive read start]

theorem ada_eq : ada = parlour [] [talking bobHello "Bob", newcomer adaHello] := by
  rw [ada, company_eq, connect_newcomer, List.singleton_append]

def talk : List RoomEvent := [.joined "Ada", .joined "Bob"]

theorem ada_run : ada.run adaRuns = parlour talk [attentive bobHello,
    informed adaHello 2 [] (talk.map RoomEvent.frame).reverse] := by
  have read : SocketEnvelope.ofText? adaHello = some ⟨"join", .string "Ada"⟩ := by cbv
  have start : Socket.join (.string "Ada") = .joining "Ada" := by cbv
  have joined : [RoomEvent.joined "Ada"] ++ [.joined "Bob"] = talk := rfl
  have first : (Room.mk talk).following? 0 = some (.joined "Ada", 0 + 1) := by
    simp [Room.following?, Room.size, Room.kept, talk]
  have second : (Room.mk talk).following? 1 = some (.joined "Bob", 1 + 1) := by
    simp [Room.following?, Room.size, Room.kept, talk]
  rw [ada_eq, adaRuns, run_append, run_entering, begin_attentive read start, run_append, run_speaking,
    run_append, run_waiting, run_append, run_answering, joined]
  simp only [telling, run_append]
  rw [run_following first, run_telling_first, run_following second, run_telling_second, run_writing]
  rfl

/-- The second member is told that it joined and then that the first did. -/
theorem ada_told : KeepsUp 1 ada adaRuns ∧ published 1 ada adaRuns = talk ∧
    tellings (handedFrames (lineLog 1 ada adaRuns)) = talk.map RoomEvent.frame := by
  have keeps : KeepsUp 1 ada adaRuns := keepsUp_of_size (by rw [ada_run]; decide)
  have subscribed : joined? 1 ada adaRuns = some 0 := by
    have first : joins 1 ada (.move (.connection 1 (.work .ready))) = true := by
      rw [ada_eq]
      rfl
    have begins : ∃ rest, adaRuns = .move (.connection 1 (.work .ready)) :: rest := ⟨_, rfl⟩
    obtain ⟨rest, begins⟩ := begins
    rw [begins, joined?, if_pos first, ada_eq]
    rfl
  have all : published 1 ada adaRuns = talk := by
    rw [published, subscribed, ada_run]
    rfl
  have one : company.connections.length = 1 := by rw [company_eq]; rfl
  obtain ⟨c, there, -, -, -, -, whole⟩ := chat_delivered company (by rw [company_eq]; rfl)
    (.ofArrivals [.frame adaHello, .silence]) (.ofLine 0 none) adaRuns
  rw [one] at there whole
  change (ada.run adaRuns).connections[1]? = some c at there
  rw [ada_run] at there
  cases there
  have rests : (informed adaHello 2 [] (talk.map RoomEvent.frame).reverse).Rests
      (ada.run adaRuns).now (ada.run adaRuns).world := by
    rw [ada_run]
    intro later _ m
    cases m with
    | work | release | arrive | listen | write => rfl
    | fork index pick =>
      cases index with
      | succ => rfl
      | zero => cases pick <;> rfl
  have told := ((whole keeps).2 rfl).2 rests
  exact ⟨keeps, all, told.trans (congrArg (List.map RoomEvent.frame) all)⟩

end CommandBridge.Showcase
