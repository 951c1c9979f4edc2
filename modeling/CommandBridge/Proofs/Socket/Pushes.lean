import CommandBridge.Proofs.Socket.Origin
import CommandBridge.Proofs.Socket.Traffic

/-!
# What a connection sends

Every frame that gets into the queue of a connection is the text of an envelope: of an error, or
of an event that its handler declares, whose data one of its tasks pushed and which stands there in
transport case.
-/

set_option autoImplicit false

namespace CommandBridge.Connection

variable {A : Application} {handler : SocketHandler A} {definitions : Definitions} {c : Connection A}

inductive Sends (handler : SocketHandler A) (definitions : Definitions) : SocketEnvelope → Prop where
  | event {s : A.Socket} {name : String} {data : Json} {next : Option SendError → A.Socket}
      (origin : A.socket.From (Entry handler definitions) s)
      (asked : A.socket.next s = .client (.push (.event name (.json data)) next))
      (declared : Keyed.contains name handler.serverEvents = true) :
      Sends handler definitions ⟨name, data.toTransportCase⟩
  | error (e : BridgeError) : Sends handler definitions (.ofError e)

def AllSent (handler : SocketHandler A) (definitions : Definitions) (log : List LineEvent) : Prop :=
  ∀ frame ∈ sentFrames log, ∃ e, Sends handler definitions e ∧ frame = e.text

theorem allSent_nil : AllSent handler definitions [] := nofun

theorem AllSent.append {log es : List LineEvent} (h : AllSent handler definitions log)
    (more : AllSent handler definitions es) : AllSent handler definitions (log ++ es) := by
  intro frame there
  rw [sentFrames, List.filterMap_append] at there
  exact (List.mem_append.mp there).elim (h frame) (more frame)

/-- A push puts no other frame in than the one that its request carries. -/
theorem frame?_of_pushed {o : Outbox String} {ticket : Nat} {r : SocketRequest} {frame : String}
    (sent : frame ∈ sentFrames (pushed handler o ticket r)) : frame? handler r = some frame := by
  unfold pushed at sent
  split at sent
  · cases r with
    | close => cases sent
    | event | error =>
      dsimp only at sent
      cases carries : frame? handler _ with
      | none =>
        rw [carries] at sent
        cases sent
      | some f =>
        rw [carries] at sent
        cases List.mem_singleton.mp sent
        rfl
  · cases sent

theorem allSent_error (o : Outbox String) (ticket : Nat) (e : BridgeError) :
    AllSent handler definitions (pushed handler o ticket (.error e)) := by
  intro frame sent
  have carried : some (SocketEnvelope.ofError e).text = some frame := frame?_of_pushed sent
  cases carried
  exact ⟨_, .error e, rfl⟩

theorem Serves.taskEvents (h : Serves handler definitions c) (ticket : Nat) {t : Task A.Socket}
    (origin : A.socket.From (Entry handler definitions) t.state) :
    AllSent handler definitions (c.taskEvents ticket t) := by
  unfold Connection.taskEvents
  rw [h.handler_eq]
  split
  · next r pushes =>
    unfold Task.pushes? at pushes
    split at pushes
    · next request next asked =>
      cases pushes
      intro frame sent
      have carried := frame?_of_pushed sent
      unfold frame? at carried
      split at carried
      · split at carried
        · next declared =>
          cases carried
          exact ⟨_, .event origin asked declared, rfl⟩
        · cases carried
      · cases carried
      · cases carried
        exact ⟨_, .error _, rfl⟩
      · cases carried
    · cases pushes
  · exact allSent_nil

theorem OfHandler.lineEvents (h : OfHandler handler definitions c) (x : ConnectionAct) :
    AllSent handler definitions (c.lineEvents x) := by
  cases x with
  | drop => exact allSent_nil
  | move now m =>
    cases m with
    | release | arrive | listen => exact allSent_nil
    | work pick =>
      simp only [Connection.lineEvents]
      split
      · next work there =>
        have origin := h.work work there
        cases origin with
        | running origin => exact h.toServes.taskEvents readerTicket origin
        | refused | failed =>
          unfold Connection.workEvents
          rw [h.handler_eq]
          exact allSent_error _ _ _
      · exact allSent_nil
    | write =>
      intro frame sent
      simp only [Connection.lineEvents] at sent
      unfold writerEvents at sent
      split at sent
      · split at sent <;> cases sent
      · split at sent <;> cases sent
      · cases sent
    | fork index pick =>
      simp only [Connection.lineEvents]
      split
      · next t alive => exact h.toServes.taskEvents _ (h.forks t (List.mem_of_getElem? alive))
      · exact allSent_nil

/-- An undeclared event and a value that does not serialize are refused, and so is all but the end
of the session once nobody listens. -/
theorem push_fails {o : Outbox String} {r : SocketRequest} (ticket : Nat)
    (cause : (∃ name data, r = .event name data ∧ Keyed.contains name handler.serverEvents = false) ∨
      (∃ name reason, r = .event name (.unserializable reason)) ∨ o.isClosed = true ∧ r ≠ .close) :
    ∃ o' e, push handler o ticket r = .settled o' (some e) := by
  rcases cause with ⟨name, data, rfl, undeclared⟩ | ⟨name, reason, rfl⟩ | ⟨closed, other⟩
  · exact ⟨o, _, by simp only [push, undeclared]; rfl⟩
  · by_cases declared : Keyed.contains name handler.serverEvents = true
    · exact ⟨o, _, by simp only [push, declared]; rfl⟩
    · exact ⟨o, _, by simp only [push, declared]; rfl⟩
  · obtain ⟨o', e, refused, -⟩ := push_closed handler closed ticket other
    exact ⟨o', e, refused⟩

end CommandBridge.Connection
