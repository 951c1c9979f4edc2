import CommandBridge.Proofs.Bridge.Sessions
import CommandBridge.Proofs.Socket.Life

/-!
# The connections of a bridge

What each act on a bridge is to one of its connections. The log of a connection over a run
tells what its reader did.
-/

set_option autoImplicit false

namespace CommandBridge.Bridge

variable {A : Application} {b : Bridge A} {i : Nat} {c : Connection A}

def connectionAct? (b : Bridge A) (i : Nat) : Act A → Option ConnectionAct
  | .dropConnection j => if j = i then some .drop else none
  | .move (.connection j m) => if j = i then some (.move b.now m) else none
  | _ => none

/-- An act changes a connection only by what it is to that connection. -/
theorem act_connection (h : b.connections[i]? = some c) (a : Act A) :
    (b.act a).connections[i]? = some (((b.connectionAct? i a).map (c.act b.world)).getD c) := by
  obtain ⟨bound, -⟩ := List.getElem?_eq_some_iff.mp h
  have touched := b.act_touched a
  cases a with
  | connect name inbound sink =>
    simp only [act, connectionAct?, Option.map_none, Option.getD_none]
    cases opened : b.connect name inbound sink with
    | error e => exact h
    | ok b' =>
      obtain ⟨handler, -, rfl⟩ := connect_ok opened
      exact (List.getElem?_append_left bound).trans h
  | dropConnection j =>
    simp only [act, dropConnection, connectionAct?]
    by_cases same : j = i
    · subst same
      simp only [h, if_true, Option.map_some, Option.getD_some, Connection.act]
      exact List.getElem?_set_self bound
    · simp only [if_neg same, Option.map_none, Option.getD_none]
      split
      · simpa [List.getElem?_set_ne same] using h
      · exact h
  | move m =>
    cases m with
    | connection j m =>
      simp only [act, move?, connectionAct?]
      by_cases same : j = i
      · subst same
        simp only [h, Option.bind_some, if_true, Option.map_some, Option.getD_some, Connection.act]
        cases c.move b.now b.world m with
        | none => exact h
        | some r => simp [bound]
      · simp only [if_neg same, Option.map_none, Option.getD_none]
        cases b.connections[j]?.bind fun c => c.move b.now b.world m with
        | none => exact h
        | some r => simpa [List.getElem?_set_ne same] using h
    | call | channel => rw [touched.connections_eq (by simp [Act.part])]; exact h
  | _ => rw [touched.connections_eq (by simp [Act.part])]; exact h

/-- An act adds no connection but one to a handler of the registry in force that just opened. -/
theorem act_connections (b : Bridge A) (a : Act A) :
    (b.act a).connections.length = b.connections.length ∨
      ∃ name inbound sink handler capacity, a = .connect name inbound sink ∧
        b.registry.socket? name = some handler ∧ (b.act a).connections = b.connections ++
          [Connection.create handler b.registry.definitions capacity inbound sink] := by
  have touched := b.act_touched a
  cases a with
  | connect name inbound sink =>
    simp only [act]
    cases opened : b.connect name inbound sink with
    | error e => exact .inl rfl
    | ok b' =>
      obtain ⟨handler, found, rfl⟩ := connect_ok opened
      exact .inr ⟨name, inbound, sink, handler, _, rfl, found, rfl⟩
  | dropConnection j =>
    simp only [act, dropConnection]
    split <;> simp
  | move m =>
    cases m with
    | connection j m =>
      simp only [act, move?]
      cases b.connections[j]?.bind fun c => c.move b.now b.world m <;> simp
    | call | channel => exact .inl (by rw [touched.connections_eq (by simp [Act.part])])
  | _ => exact .inl (by rw [touched.connections_eq (by simp [Act.part])])

theorem act_opened (h : b.connections[i]? = none) (a : Act A)
    (added : (b.act a).connections[i]? = some c) :
    ∃ handler definitions capacity inbound sink,
      c = .create handler definitions capacity inbound sink := by
  rcases b.act_connections a with same | ⟨name, inbound, sink, handler, capacity, -, -, e⟩
  · exact absurd added (getElem?_ne_some_of_length h same)
  · exact ⟨handler, _, capacity, inbound, sink, eq_of_getElem?_concat h (e ▸ added)⟩

def connectionSessions (A : Application) :
    Sessions A (Connection A) ConnectionAct (List ReaderEvent) where
  all := Bridge.connections
  seen? := connectionAct?
  act := Connection.act
  note := Connection.noteAct
  Fresh c := ∃ handler definitions capacity inbound sink,
    c = .create handler definitions capacity inbound sink
  changed := act_connection
  added := act_opened

def readerLog (i : Nat) (b : Bridge A) (acts : List (Act A)) : List ReaderEvent :=
  (connectionSessions A).history i b acts []

end CommandBridge.Bridge
