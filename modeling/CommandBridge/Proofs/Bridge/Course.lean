import CommandBridge.Proofs.Bridge.Connections
import CommandBridge.Proofs.Socket.Hooks
import CommandBridge.Proofs.Socket.Traffic
import CommandBridge.Script.Application

/-!
# Sessions from beginning to end

However the moves of a bridge are ordered, a session runs its connect hook first, its callbacks
one at a time after it and its disconnect hook last, and no frame that was sent is lost on a line
that holds. The state in which it ends tells whether the connect hook failed and its error was
dealt with.
-/

set_option autoImplicit false

namespace CommandBridge.Bridge

open Connection

variable {A : Application} {b : Bridge A} {i : Nat}

def connectionRecords (A : Application) :
    Sessions A (Connection A) (A.World × ConnectionAct) (List HookEvent × List LineEvent) where
  all := Bridge.connections
  seen? b i a := (b.connectionAct? i a).map fun x => (b.world, x)
  act _ c x := c.act x.1 x.2
  note c l x := (l.1 ++ c.hookEvents x.2 (c.act x.1 x.2), l.2 ++ c.lineEvents x.2)
  Fresh c := ∃ handler definitions capacity inbound sink,
    c = .create handler definitions capacity inbound sink
  changed h a := by
    rw [act_connection h a, Option.map_map]
    rfl
  added := act_opened

def openingOf (i : Nat) (b : Bridge A) : List HookEvent :=
  match b.connections[i]? with
  | some c => c.opening
  | none => []

def hookLog (i : Nat) (b : Bridge A) (acts : List (Act A)) : List HookEvent :=
  ((connectionRecords A).history i b acts (b.openingOf i, [])).1

def lineLog (i : Nat) (b : Bridge A) (acts : List (Act A)) : List LineEvent :=
  ((connectionRecords A).history i b acts (b.openingOf i, [])).2

structure Ran (handler : SocketHandler A) (capacity : Nat) (frames : List String) (c : Connection A)
    (l : List HookEvent × List LineEvent) : Prop where
  handler : c.handler = handler
  capacity : c.outbox.capacity = max 1 capacity
  sound : Sound c
  hooks : InCourse c l.1
  line : Traffic frames c l.2

theorem ran_create (handler : SocketHandler A) (definitions : Definitions) (capacity : Nat)
    (inbound : Inbound) (sink : Sink) :
    Ran handler capacity sink.frames (create handler definitions capacity inbound sink)
      ((create handler definitions capacity inbound sink).opening, []) where
  handler := (create_kin handler definitions capacity inbound sink).1
  capacity := by
    unfold create
    cases handler.onConnect <;> rfl
  sound := sound_create handler definitions capacity inbound sink
  hooks := inCourse_create handler definitions capacity inbound sink
  line := traffic_create handler definitions capacity inbound sink

theorem ran_act {handler : SocketHandler A} {capacity : Nat} {frames : List String}
    {c : Connection A} {l : List HookEvent × List LineEvent} (h : Ran handler capacity frames c l)
    (w : A.World) (x : ConnectionAct) :
    Ran handler capacity frames (c.act w x)
      (l.1 ++ c.hookEvents x (c.act w x), l.2 ++ c.lineEvents x) where
  handler := by
    rw [← h.handler]
    cases x with
    | drop => rfl
    | move now m => exact (kin_of_step (step_move c w now m)).handler
  capacity := (later_carried (carried_act c w x)).capacity.trans h.capacity
  sound := sound_act h.sound w x
  hooks := inCourse_act h.hooks w x
  line := traffic_act h.line h.sound w x

/-- A connection whose outbox is closed stays there, closed, whatever the bridge does. -/
theorem closed_run {c : Connection A} (there : b.connections[i]? = some c)
    (closed : c.outbox.isClosed = true) (acts : List (Act A)) :
    ∃ d, (b.run acts).connections[i]? = some d ∧ d.outbox.isClosed = true :=
  Sessions.history_kept (s := connectionSessions A) (P := fun c _ => c.outbox.isClosed = true)
    (fun c _ w x closed => (later_carried (carried_act c w x)).isClosed closed) acts there
    (l := []) closed

/-- What every session does, however it is run. -/
theorem session_course (config : Config) (registry : Registry A) (world : A.World) (files : FileTree)
    (before : List (Act A)) (name : String) (inbound : Inbound) (sink : Sink) (b : Bridge A)
    (opened : ((start config registry world files).run before).connect name inbound sink = .ok b)
    (acts : List (Act A)) :
    let b₀ := (start config registry world files).run before
    let i := b₀.connections.length
    let log := hookLog i b acts
    let line := lineLog i b acts
    ∃ c, (b.run acts).connections[i]? = some c ∧ b₀.registry.socket? name = some c.handler ∧
      HooksInOrder c.handler log ∧
      (c.Finished → log.countP (HookEvent.isBegun .disconnect) =
        if c.handler.onDisconnect.isSome then 1 else 0) ∧
      (c.Finished → (c.phase = .failed ↔ Rejected log) ∧ (c.phase = .closed ↔ ¬Rejected log)) ∧
      c.backlog.length ≤ max 1 b₀.config.channelCapacity ∧
      c.sink.frames = sink.frames ++ handedFrames line ∧ handedFrames line <+: sentFrames line ∧
      (c.Finished → brokenFrames line = [] → handedFrames line = sentFrames line) ∧
      (.closed ∈ line ∨ c.reader = .ended ∨ c.writer = .ended → ∀ more,
        ∃ d, ((b.run acts).run more).connections[i]? = some d ∧
          ∀ k r, r ≠ .close → ∃ o failure,
            push d.handler d.outbox k r = .settled o (some failure) ∧ o.queue = d.outbox.queue) := by
  intro b₀ i log line
  obtain ⟨handler, found, same⟩ := connect_ok opened
  have fresh : b.connections[i]? = some
      (create handler b₀.registry.definitions b₀.config.channelCapacity inbound sink) := by
    rw [same]
    exact List.getElem?_concat_length
  have began : b.openingOf i =
      (create handler b₀.registry.definitions b₀.config.channelCapacity inbound sink).opening := by
    simp only [openingOf, fresh]
  obtain ⟨c, there, h⟩ := Sessions.history_kept (s := connectionRecords A) (b := b)
    (P := Ran handler b₀.config.channelCapacity sink.frames) (fun c l _ x h => ran_act h x.1 x.2)
    acts fresh (ran_create handler _ _ inbound sink)
  rw [← began] at h
  have room : c.backlog.length ≤ max 1 b₀.config.channelCapacity := by
    rw [← h.capacity]
    exact h.line.room
  have queued : sentFrames line = handedFrames line ++ brokenFrames line ++ c.outbox.queue :=
    h.line.queued
  have closed (ends : .closed ∈ line ∨ c.reader = .ended ∨ c.writer = .ended) :
      c.outbox.isClosed = true := by
    rcases ends with byTask | reader | writer
    · exact Outbox.isClosed_of_cancelled (h.line.closed byTask)
    · exact h.hooks.isClosed reader
    · rcases h.sound.stopped writer with cancelled | reader
      · exact Outbox.isClosed_of_cancelled cancelled
      · exact h.hooks.isClosed reader
  refine ⟨c, there, ?_, ?_, ?_, ?_, room, h.line.taken, ?_, ?_, ?_⟩
  · rw [h.handler]
    exact found
  · obtain ⟨s, -, course⟩ := h.hooks
    exact course.hooksInOrder
  · exact fun finished => (h.hooks.finished finished).1
  · exact fun finished => (h.hooks.finished finished).2
  · rw [queued, List.append_assoc]
    exact List.prefix_append ..
  · intro finished whole
    obtain ⟨-, empty⟩ := h.line.flushed finished.ended.2 finished.2 whole
    rw [queued, whole, empty, List.append_nil, List.append_nil]
  · intro ends more
    obtain ⟨d, later, still⟩ := closed_run there (closed ends) more
    exact ⟨d, later, fun k r other => push_closed d.handler still k other⟩

def picky : SocketHandler Script.application where
  name := "picky"
  doc := none
  module := none
  serverEvents := [("tick", .boolean)]
  clientEvents := []
  callbacks := []
  onConnect := some (.hook [.send "tick" (.bool true), .fail (.of "no entry")])
  onDisconnect := some (.hook [.note (.string "gone")])

def pickies : Bridge Script.application :=
  start { Config.default with channelCapacity := 1 } ⟨[], [("picky", picky)], .empty⟩ .empty .empty

def picked : Bridge Script.application :=
  { pickies with connections := [.create picky .empty 1 (.ofArrivals []) (.ofLine 0 none)] }

def pickyRuns (moves : List ConnectionMove) : List (Act Script.application) :=
  (moves ++ List.replicate 5 ConnectionMove.write).map fun m => .move (.connection 0 m)

def turnedAway : List ConnectionMove :=
  [ConnectionMove.work .ready, .write] ++ List.replicate 4 (ConnectionMove.work .ready)

theorem picky_turned_away :
    (pickies.run []).connect "picky" (.ofArrivals []) (.ofLine 0 none) = .ok picked ∧
      ∃ c, (picked.run (pickyRuns turnedAway)).connections[0]? = some c ∧ c.Finished ∧
        c.phase = .failed ∧
        handedFrames (lineLog 0 picked (pickyRuns turnedAway)) =
          sentFrames (lineLog 0 picked (pickyRuns turnedAway)) := by
  have opened : (pickies.run []).connect "picky" (.ofArrivals []) (.ofLine 0 none) = .ok picked := rfl
  have ended : (picked.run (pickyRuns turnedAway)).connections[0]?.map
      (fun c => (c.isOver, c.outbox.receiving)) = some (true, true) := rfl
  have log : hookLog 0 picked (pickyRuns turnedAway) =
      [.begun .connect, .ended .connect (.failed (.of "no entry")), .rejected, .begun .disconnect,
        .ended .disconnect (.done ())] := rfl
  have whole : brokenFrames (lineLog 0 picked (pickyRuns turnedAway)) = [] := rfl
  obtain ⟨c, there, -, -, -, phase, -, -, -, flushed, -⟩ :=
    session_course _ _ _ _ [] "picky" _ _ picked opened (pickyRuns turnedAway)
  have there : (picked.run (pickyRuns turnedAway)).connections[0]? = some c := there
  have finished : c.Finished := by simpa [there, Finished] using ended
  have rejected : Rejected (hookLog 0 picked (pickyRuns turnedAway)) := by
    rw [log]
    exact ⟨⟨.failed (.of "no entry"), by simp, nofun⟩, by simp⟩
  exact ⟨opened, c, there, finished, (phase finished).1.mpr rejected, flushed finished whole⟩

def goneFirst : List ConnectionMove :=
  List.replicate 3 (ConnectionMove.work .ready) ++ [ConnectionMove.arrive] ++
    List.replicate 2 (ConnectionMove.work .ready)

/-- A session whose connect hook failed ends as one that was closed. -/
theorem picky_gone_first :
    (pickies.run []).connect "picky" (.ofArrivals []) (.ofLine 0 none) = .ok picked ∧
      (∃ c, (picked.run (pickyRuns goneFirst)).connections[0]? = some c ∧ c.Finished ∧
        c.phase = .closed) ∧
      ConnectFailed (hookLog 0 picked (pickyRuns goneFirst)) := by
  have ended : (picked.run (pickyRuns goneFirst)).connections[0]?.map
      (fun c => ((c.isOver, c.outbox.receiving), c.phase)) = some ((true, true), .closed) := rfl
  have log : hookLog 0 picked (pickyRuns goneFirst) =
      [.begun .connect, .ended .connect (.failed (.of "no entry")), .begun .disconnect,
        .ended .disconnect (.done ())] := rfl
  obtain ⟨c, there, both⟩ := Option.map_eq_some_iff.mp ended
  refine ⟨rfl, ⟨c, there, ?_, congrArg Prod.snd both⟩, ?_⟩
  · simpa [Finished] using congrArg Prod.fst both
  · rw [log]
    exact ⟨.failed (.of "no entry"), by simp, nofun⟩

end CommandBridge.Bridge
