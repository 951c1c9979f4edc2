import CommandBridge.Proofs.Bridge.World
import CommandBridge.Proofs.Json.RoundTrip
import CommandBridge.Socket.Connection
import CommandBridge.Showcase.Registry
import Mathlib.Data.List.Infix

/-!
# The chat room

The room only grows, whatever is asked of the bridge. A frame tells of its event in its first member,
so those that tell of the room are known among all that a connection is sent. A listener skips what
the room has not kept for it.
-/

set_option autoImplicit false

namespace CommandBridge

namespace SocketEnvelope

def opening (event : String) : List Char :=
  '\x7b' :: (Json.quote "event" ++ ':' :: Json.quote event)

theorem opening_prefix (e : SocketEnvelope) : opening e.event <+: e.text.toList := by
  refine ⟨Json.membersText [("data", e.data)], ?_⟩
  simp only [text, Json.print, String.toList_ofList, Json.text, opening, List.cons_append,
    List.append_assoc]

theorem opening_inj {event event' : String} {text : List Char} (h : opening event <+: text)
    (h' : opening event' <+: text) : event = event' := by
  obtain ⟨rest, rfl⟩ := h
  obtain ⟨rest', same⟩ := h'
  simp only [opening, List.cons_append, List.append_assoc, List.cons.injEq, true_and,
    List.append_cancel_left_eq, Json.quote, List.nil_append] at same
  have read := congrArg Json.stringBody same
  rw [Json.stringBody_quoted, Json.stringBody_quoted] at read
  exact String.toList_inj.mp (congrArg Prod.fst (Option.some.inj read)).symm

end SocketEnvelope

namespace Showcase

open Bridge SocketEnvelope

def RoomEvent.frame (e : RoomEvent) : String :=
  SocketEnvelope.text ⟨e.name, e.data.toTransportCase⟩

def TellsOfRoom (frame : String) : Prop :=
  opening "message" <+: frame.toList ∨ opening "joined" <+: frame.toList

instance (frame : String) : Decidable (TellsOfRoom frame) := inferInstanceAs (Decidable (_ ∨ _))

def tellings (frames : List String) : List String := frames.filter fun f => decide (TellsOfRoom f)

theorem RoomEvent.tellsOfRoom (e : RoomEvent) : TellsOfRoom e.frame := by
  have begins := opening_prefix ⟨e.name, e.data.toTransportCase⟩
  cases e with
  | message m => exact .inl begins
  | joined user => exact .inr begins

theorem not_tellsOfRoom_error (e : BridgeError) : ¬TellsOfRoom (ofError e).text := by
  have begins : opening "error" <+: (ofError e).text.toList := opening_prefix (ofError e)
  rintro (message | joined)
  · exact absurd (opening_inj message begins) (by decide)
  · exact absurd (opening_inj joined begins) (by decide)

theorem tellings_append (frames more : List String) :
    tellings (frames ++ more) = tellings frames ++ tellings more := List.filter_append ..

theorem tellings_frame (e : RoomEvent) : tellings [e.frame] = [e.frame] :=
  List.filter_cons_of_pos (by simp [e.tellsOfRoom])

theorem Request.perform_room (w : application.World) (q : Request) :
    World.room (q.perform w).1 = World.room w := by
  cases q <;> rfl

theorem application_keeps_room :
    application.Keeps fun w w' => w.room.events <+: w'.room.events where
  call := by
    refine ⟨fun w => List.prefix_refl _, fun s w w' alters => ?_, fun s w => List.prefix_refl _⟩
    cases s with
    | asked q =>
      have same : World.room w' = World.room w :=
        (congrArg World.room alters).trans (q.perform_room w)
      exact same ▸ List.prefix_refl _
    | answered => cases alters
  stream := by
    refine ⟨fun w => List.prefix_refl _, fun s w w' alters => ?_, fun s w => List.prefix_refl _⟩
    cases s with
    | sending u =>
      change Action.Alters Outlet.Alters (Stream.next (.sending u)) w w' at alters
      rw [Stream.next] at alters
      split at alters <;> cases alters
    | pausing => obtain ⟨s, nothing⟩ := alters; cases nothing
    | stopped | refused | overflowed => cases alters
  socket := by
    refine ⟨fun w => List.prefix_refl _, fun s w w' alters => ?_, fun s w => List.prefix_refl _⟩
    cases s with
    | connecting | joining =>
      cases alters
      exact List.prefix_refl _
    | publishing e =>
      cases alters
      exact List.prefix_append _ _
    | following passed =>
      obtain ⟨s, ready⟩ := alters
      obtain ⟨r, -, e⟩ := Option.map_eq_some_iff.mp ready
      cases e
      exact List.prefix_refl _
    | listening | saying | telling | ended | refused => cases alters

theorem room_act (b : Bridge application) (a : Act application) :
    b.world.room.events <+: (b.act a).world.room.events := act_world application_keeps_room b a

theorem room_run (b : Bridge application) (acts : List (Act application)) :
    b.world.room.events <+: (b.run acts).world.room.events :=
  run_world application_keeps_room List.IsPrefix.trans b acts

namespace Room

variable {room room' : Room} {n p q : Nat} {e : RoomEvent}

theorem size_le (grown : room.events <+: room'.events) : room.size ≤ room'.size := grown.length_le

def between (room : Room) (n p : Nat) : List RoomEvent := (room.events.take p).drop n

theorem between_self (room : Room) (n : Nat) : room.between n n = [] := by
  simp [between]

theorem between_succ (start : n ≤ p) (there : room.events[p]? = some e) :
    room.between n (p + 1) = room.between n p ++ [e] := by
  obtain ⟨bound, rfl⟩ := List.getElem?_eq_some_iff.mp there
  rw [between, List.take_succ_eq_append_getElem bound, List.drop_append_of_le_length, between]
  simp only [List.length_take]
  omega

theorem between_sublist (room : Room) (n : Nat) (h : p ≤ q) :
    (room.between n p).Sublist (room.between n q) :=
  (List.take_prefix_take_left h).sublist.drop n

theorem between_append (start : n ≤ p) (reached : p ≤ room.size) :
    room.between n p ++ room.events.drop p = room.events.drop n := by
  have long : n ≤ (room.events.take p).length := by
    rw [List.length_take]
    exact Nat.le_min.mpr ⟨start, Nat.le_trans start reached⟩
  rw [between, ← List.drop_append_of_le_length long, List.take_append_drop]

theorem between_grown (grown : room.events <+: room'.events) (reached : p ≤ room.size) :
    room'.between n p = room.between n p := by
  obtain ⟨more, same⟩ := grown
  rw [between, ← same, List.take_append_of_le_length reached, between]

/-- Nothing follows for a listener only when it has passed everything. -/
theorem following?_eq_none : room.following? p = none ↔ room.size ≤ p := by
  simp only [following?, Option.map_eq_none_iff, List.getElem?_eq_none_iff, size, kept]
  omega

/-- What follows for a listener is the next event that the room has kept. -/
theorem following?_eq_some (h : room.following? p = some (e, q)) :
    ∃ k, p ≤ k ∧ (room.size - p ≤ kept → k = p) ∧ room.events[k]? = some e ∧ q = k + 1 := by
  obtain ⟨e', there, same⟩ := Option.map_eq_some_iff.mp h
  cases same
  exact ⟨_, Nat.le_max_left _ _, fun near => by omega, there, rfl⟩

end Room
end Showcase
end CommandBridge
