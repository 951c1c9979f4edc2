import CommandBridge.Proofs.Socket.Line

/-!
# What a connection carries

Where every frame is that was sent through a connection: the line took it, it broke the line, or
it is in the queue. A writer that comes to its end on a line that holds leaves nothing behind.
-/

set_option autoImplicit false

namespace CommandBridge

def sentFrames (log : List LineEvent) : List String :=
  log.filterMap fun e => match e with
    | .sent frame => some frame
    | _ => none

def handedFrames (log : List LineEvent) : List String :=
  log.filterMap fun e => match e with
    | .handed frame => some frame
    | _ => none

def brokenFrames (log : List LineEvent) : List String :=
  log.filterMap fun e => match e with
    | .broke frame => some frame
    | _ => none

namespace Connection

variable {A : Application} {c d : Connection A} {frames : List String} {log : List LineEvent}

structure Traffic (frames : List String) (c : Connection A) (log : List LineEvent) : Prop where
  queued : sentFrames log = handedFrames log ++ brokenFrames log ++ c.outbox.queue
  taken : c.sink.frames = frames ++ handedFrames log
  broken : brokenFrames log ≠ [] → c.writer = .ended
  closed : .closed ∈ log → c.outbox.cancelled = true
  /-- A writer that comes to its end on a line that holds leaves nothing behind. -/
  flushed : c.writer = .ended → c.outbox.receiving = true → brokenFrames log = [] →
    c.outbox.cancelled = true ∧ c.outbox.queue = []
  room : c.backlog.length ≤ c.outbox.capacity

theorem traffic_create (handler : SocketHandler A) (definitions : Definitions) (capacity : Nat)
    (inbound : Inbound) (sink : Sink) :
    Traffic sink.frames (create handler definitions capacity inbound sink) [] := by
  unfold create
  cases handler.onConnect with
  | some start =>
    exact ⟨rfl, (List.append_nil _).symm, fun broken => absurd rfl broken, nofun, nofun,
      Nat.zero_le _⟩
  | none =>
    exact ⟨rfl, (List.append_nil _).symm, fun broken => absurd rfl broken, nofun, nofun,
      Nat.zero_le _⟩

theorem traffic_fed {es : List LineEvent} (h : Traffic frames c log) (fed : Fed c d es) :
    Traffic frames d (log ++ es) := by
  have later := fed.push.later
  have room : d.backlog.length ≤ d.outbox.capacity := by
    rw [later.capacity]
    exact fed.room h.room
  obtain ⟨push, writer, sink, -⟩ := fed
  cases push with
  | quiet _ queue =>
    rw [List.append_nil]
    refine ⟨queue ▸ h.queued, sink ▸ h.taken, writer ▸ h.broken,
      fun closed => later.cancelled (h.closed closed), fun ended there whole => ?_, room⟩
    obtain ⟨late, empty⟩ := h.flushed (writer ▸ ended) (later.receiving there) whole
    exact ⟨later.cancelled late, queue.trans empty⟩
  | closed _ queue cancelled =>
    have sent : sentFrames (log ++ [LineEvent.closed]) = sentFrames log := by simp [sentFrames]
    have handed : handedFrames (log ++ [LineEvent.closed]) = handedFrames log := by simp [handedFrames]
    have broken : brokenFrames (log ++ [LineEvent.closed]) = brokenFrames log := by simp [brokenFrames]
    refine ⟨?_, ?_, ?_, fun _ => cancelled, fun ended there whole => ⟨cancelled, ?_⟩, room⟩
    · rw [sent, handed, broken, queue]
      exact h.queued
    · rw [handed, sink]
      exact h.taken
    · rw [broken, writer]
      exact h.broken
    · rw [broken] at whole
      exact queue.trans (h.flushed (writer ▸ ended) (later.receiving there) whole).2
  | @sent frame _ going queue =>
    have sent : sentFrames (log ++ [LineEvent.sent frame]) = sentFrames log ++ [frame] := by simp [sentFrames]
    have handed : handedFrames (log ++ [LineEvent.sent frame]) = handedFrames log := by simp [handedFrames]
    have broken : brokenFrames (log ++ [LineEvent.sent frame]) = brokenFrames log := by simp [brokenFrames]
    refine ⟨?_, ?_, ?_, fun closed => ?_, fun ended there whole => ?_, room⟩
    · rw [sent, handed, broken, queue, h.queued, List.append_assoc _ c.outbox.queue]
    · rw [handed, sink]
      exact h.taken
    · rw [broken, writer]
      exact h.broken
    · exact later.cancelled (h.closed (by simpa using closed))
    · -- The writer does not come to its end before the session is closed.
      rw [broken] at whole
      have late := (h.flushed (writer ▸ ended) (later.receiving there) whole).1
      rw [Outbox.isClosed_of_cancelled late] at going
      cases going

theorem traffic_written {es : List LineEvent} (h : Traffic frames c log) (sound : Sound c)
    (written : Written c d es) : Traffic frames d (log ++ es) := by
  cases written with
  | turned going goesOn =>
    rw [List.append_nil]
    exact ⟨h.queued, h.taken, fun broken => absurd (h.broken broken) going, h.closed,
      fun ended => absurd ended goesOn, h.room⟩
  | flushed draining queue =>
    rw [List.append_nil]
    exact ⟨h.queued, h.taken, fun _ => rfl, h.closed,
      fun _ _ _ => ⟨sound.draining 0 (.inl draining), queue⟩, h.room⟩
  | @handed frame rest sink due draining going queue takes =>
    have whole : brokenFrames log = [] := by
      by_contra broken
      exact going (h.broken broken)
    have sent : sentFrames (log ++ [LineEvent.handed frame]) = sentFrames log := by simp [sentFrames]
    have handed : handedFrames (log ++ [LineEvent.handed frame]) = handedFrames log ++ [frame] := by
      simp [handedFrames]
    have broken : brokenFrames (log ++ [LineEvent.handed frame]) = [] := by simpa [brokenFrames] using whole
    have line : sink.frames = c.sink.frames ++ [frame] := by
      unfold Sink.accept at takes
      split at takes
      · cases takes
      · cases takes
        simp [Sink.frames]
    refine ⟨?_, ?_, fun some => absurd broken some, fun closed => h.closed (by simpa using closed),
      nofun, h.room⟩
    · rw [sent, handed, broken, h.queued, whole, queue]
      simp
    · rw [handed, line, h.taken, List.append_assoc]
  | @broke frame rest o going queue breaks later left receiving =>
    have whole : brokenFrames log = [] := by
      by_contra broken
      exact going (h.broken broken)
    have sent : sentFrames (log ++ [LineEvent.broke frame]) = sentFrames log := by simp [sentFrames]
    have handed : handedFrames (log ++ [LineEvent.broke frame]) = handedFrames log := by simp [handedFrames]
    have broken : brokenFrames (log ++ [LineEvent.broke frame]) = brokenFrames log ++ [frame] := by
      simp [brokenFrames]
    refine ⟨?_, ?_, fun _ => rfl, fun closed => later.cancelled (h.closed (by simpa using closed)),
      fun _ _ none => ?_, later.capacity ▸ h.room⟩
    · rw [sent, handed, broken, h.queued, whole, queue, left]
      simp
    · rw [handed]
      exact h.taken
    · rw [broken] at none
      simp at none

theorem traffic_act (h : Traffic frames c log) (sound : Sound c) (w : A.World) (x : ConnectionAct) :
    Traffic frames (c.act w x) (log ++ c.lineEvents x) := by
  have carried := carried_act c w x
  generalize c.act w x = d, c.lineEvents x = es at carried ⊢
  cases carried with
  | fed fed => exact traffic_fed h fed
  | written written => exact traffic_written h sound written
  | dropped outbox writer sink backlog =>
    rw [List.append_nil]
    refine ⟨?_, sink ▸ h.taken, fun _ => writer, ?_, fun _ there => ?_, ?_⟩
    · rw [outbox]
      exact h.queued
    · rw [outbox]
      exact h.closed
    · rw [outbox] at there
      cases there
    · rw [outbox, backlog]
      exact h.room

end Connection
end CommandBridge
