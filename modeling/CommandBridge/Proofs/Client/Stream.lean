import CommandBridge.Client.Values
import CommandBridge.Proofs.Events.Decoding
import CommandBridge.Proofs.Json.Printable
import CommandBridge.Proofs.Json.RoundTrip
import CommandBridge.Proofs.Wire.Messages
import Mathlib.Data.List.ReduceOption

/-!
# A channel from one end to the other

What a client makes of a body depends on the events in it alone, and these on its bytes but not
on how they are cut. A stream of messages, with comments between them, brings out those messages;
so a client is given the values that were pushed, in order, and learns how the stream ended.
-/

set_option autoImplicit false

namespace CommandBridge

namespace PushEvent

def block : Option ChannelMessage → String
  | some m => (ofMessage m).text
  | none => keepAlive

def stream (blocks : List (Option ChannelMessage)) : List Char :=
  blocks.flatMap fun b => (block b).toList

end PushEvent

namespace EventDecoder

theorem feed_message (m : ChannelMessage) :
    start.feed (Utf8.encode (PushEvent.ofMessage m).text.toList) = (start, [.ofMessage m]) :=
  feed_event m.le_of_mem_eventName fun _ => Json.le_of_mem_print

/-- A stream brings out the events of its messages, and comments bring out nothing. -/
theorem feed_stream (blocks : List (Option ChannelMessage)) :
    start.feed (Utf8.encode (PushEvent.stream blocks)) =
      (start, blocks.reduceOption.map PushEvent.ofMessage) := by
  induction blocks with
  | nil => rfl
  | cons b rest ih =>
    have cut : PushEvent.stream (b :: rest) = (PushEvent.block b).toList ++ PushEvent.stream rest :=
      List.flatMap_cons
    rw [cut, Utf8.encode_append, feed_append]
    cases b with
    | none =>
      rw [PushEvent.block, feed_keepAlive, List.reduceOption_cons_of_none]
      exact ih
    | some m =>
      rw [PushEvent.block, feed_message, List.reduceOption_cons_of_some, ih]
      rfl

end EventDecoder

namespace Client

theorem ofEvents_append (xs ys : List PushEvent) : ofEvents (xs ++ ys) =
    if (ofEvents xs).2 then ofEvents xs
    else ((ofEvents xs).1 ++ (ofEvents ys).1, (ofEvents ys).2) := by
  induction xs with
  | nil => rfl
  | cons e rest ih =>
    rw [List.cons_append]
    cases parsed : Json.parse e.data with
    | none => simp [ofEvents, parsed]
    | some payload =>
      cases told : ChannelMessage.ofEvent? e.event payload with
      | none => simpa [ofEvents, parsed, told] using ih
      | some m =>
        cases m with
        | data v =>
          simp only [ofEvents, parsed, told, ih]
          split <;> rfl
        | error error => simp [ofEvents, parsed, told]
        | close => simp [ofEvents, parsed, told]

/-- A client is given the values among the events of its body, then a failure unless they end. -/
theorem values_eq (ending : BodyEnd) (d : EventDecoder) (chunks : List (List UInt8)) :
    values ending d chunks = (ofEvents (d.feedAll chunks).2).1 ++
      if (ofEvents (d.feedAll chunks).2).2 then [] else [.error ending.failure] := by
  induction chunks generalizing d with
  | nil => rfl
  | cons chunk rest ih =>
    rw [values, EventDecoder.feedAll, ofEvents_append]
    split
    · simp [*]
    · rw [ih, List.append_assoc]

/-- What a client is given for a message: a value, a failure, or nothing when the stream is over. -/
def items : ChannelMessage → List Item
  | .data v => [.ok v]
  | .error e => [.error (.remote e)]
  | .close => []

/-- A message is read from its event, and its values stand before those of the events after it. -/
theorem ofEvents_ofMessage {m : ChannelMessage} (faithful : m.payload.Faithful)
    (plain : ∀ e, m = .error e → e.Plain) (rest : List PushEvent) :
    ofEvents (.ofMessage m :: rest) = if m.isTerminal then (items m, true)
      else (items m ++ (ofEvents rest).1, (ofEvents rest).2) := by
  have parsed : Json.parse (PushEvent.ofMessage m).data = some m.payload := Json.parse_print faithful
  have told : ChannelMessage.ofEvent? (PushEvent.ofMessage m).event m.payload = some m :=
    ChannelMessage.ofEvent?_payload plain
  cases m <;> simp [ofEvents, parsed, told, items, ChannelMessage.isTerminal]

/-- Pushed values and a terminal message are all that a client is given. -/
theorem ofEvents_messages {vs : List Json} {m : ChannelMessage} (final : m.isTerminal = true)
    (values : ∀ v ∈ vs, v.Faithful) (faithful : m.payload.Faithful)
    (plain : ∀ e, m = .error e → e.Plain) :
    ofEvents ((vs.map ChannelMessage.data ++ [m]).map PushEvent.ofMessage) = (vs.map .ok ++ items m, true) := by
  induction vs with
  | nil =>
    rw [List.map_nil, List.nil_append, List.map_singleton, ofEvents_ofMessage faithful plain,
      if_pos final]
    rfl
  | cons v rest ih =>
    rw [List.forall_mem_cons] at values
    rw [List.map_cons, List.cons_append, List.map_cons,
      ofEvents_ofMessage (m := .data v) values.1 nofun, ih values.2]
    rfl

/-- A client is given exactly the values that were pushed, in order, and then the error if one
ended the stream, however the bytes of the stream are cut, wherever comments stand in it and
whatever comes after it. -/
theorem values_of_stream {vs : List Json} {m : ChannelMessage} {blocks : List (Option ChannelMessage)}
    (pushed : blocks.reduceOption = vs.map ChannelMessage.data ++ [m]) (final : m.isTerminal = true)
    (values : ∀ v ∈ vs, v.Faithful) (faithful : m.payload.Faithful)
    (plain : ∀ e, m = .error e → e.Plain) {chunks : List (List UInt8)} {rest : List UInt8}
    (cut : chunks.flatten = Utf8.encode (PushEvent.stream blocks) ++ rest) (ending : BodyEnd) :
    Client.values ending .start chunks = vs.map .ok ++ items m := by
  rw [values_eq, EventDecoder.feedAll_eq_feed List.not_mem_nil, cut, EventDecoder.feed_append,
    EventDecoder.feed_stream, pushed, ofEvents_append,
    ofEvents_messages final values faithful plain]
  simp

def pair : Json := .array [.string "é", .number (.int (-7) (by decide))]

def full : BridgeError := ⟨.custom "FULL", "no\nroom", some (.bool true)⟩

def failing : List (Option ChannelMessage) :=
  [none, some (.data pair), none, none, some (.error full)]

/-- The value and the error reach a client although a cut goes through a character and bytes that
are no text follow. -/
theorem failing_values : Client.values .cut .start
    [(Utf8.encode (PushEvent.stream failing)).take 27, [],
      (Utf8.encode (PushEvent.stream failing)).drop 27 ++ [0xff, 10]] =
    [.ok pair, .error (.remote full)] := by
  have pushed : failing.reduceOption = [pair].map ChannelMessage.data ++ [.error full] := rfl
  have value : pair.Faithful := ⟨⟨trivial, trivial, trivial⟩, by decide, ⟨trivial, trivial, trivial⟩⟩
  have payload : (ChannelMessage.error full).payload.Faithful :=
    ⟨⟨⟨by decide, by decide, trivial⟩, trivial, trivial, trivial, trivial⟩, by decide,
      ⟨trivial, trivial, trivial, trivial⟩⟩
  have plain : full.Plain := ⟨nofun, fun s same => by cases same; decide⟩
  have cut : [(Utf8.encode (PushEvent.stream failing)).take 27, [],
      (Utf8.encode (PushEvent.stream failing)).drop 27 ++ [0xff, 10]].flatten =
      Utf8.encode (PushEvent.stream failing) ++ [0xff, 10] := by
    rw [List.flatten_cons, List.flatten_cons, List.flatten_cons, List.nil_append, List.flatten_nil,
      List.append_nil, ← List.append_assoc, List.take_append_drop]
  apply values_of_stream pushed rfl (by simpa using value) payload _ cut
  intro e same
  cases same
  exact plain

end Client
end CommandBridge
