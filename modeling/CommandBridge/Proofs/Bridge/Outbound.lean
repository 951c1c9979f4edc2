import CommandBridge.Proofs.Bridge.Answers
import CommandBridge.Proofs.Bridge.Course
import CommandBridge.Proofs.Bridge.Delivery
import CommandBridge.Proofs.Channel.Pushes
import CommandBridge.Proofs.Json.TransportCase
import CommandBridge.Proofs.Socket.Pushes

/-!
# What leaves a bridge

Whatever its handlers are and however they run, a bridge gives out values in transport case alone:
as the results of its calls, to its subscriptions and in the frames of its connections. A frame is
the text of an error or of an event that the socket declares. Nothing else gets on a line, and a
push that fails puts nothing there.
-/

set_option autoImplicit false

namespace CommandBridge

/-- The envelope is that of an error, or of an event that the handler declares and whose data is in
transport case. -/
def SocketEnvelope.IsOutbound {A : Application} (e : SocketEnvelope) (handler : SocketHandler A) : Prop :=
  e.event = errorEvent ∨
    Keyed.contains e.event handler.serverEvents = true ∧ e.data.InTransportCase

namespace Bridge

open Channel Connection

variable {A : Application} {i : Nat}

/-- The registry accepted the channel, and the handler that it gave pushed all that the channel
accepted. -/
def ChannelFed (r : Registry A) (name : String) (payload : Json) (c : Channel A.Stream)
    (acc : Account) : Prop :=
  ∃ start, streamStart r name payload = .ok start ∧ OfStart A.stream name start c ∧
    ∀ v ∈ acc.accepted, Pushes A.stream start v

theorem ChannelFed.act {r : Registry A} {name : String} {payload : Json} {c : Channel A.Stream}
    {acc : Account} (h : ChannelFed r name payload c acc) (w : A.World) (x : ChannelAct) :
    ChannelFed r name payload (c.act A.stream w x) (Channel.note A.stream c acc x) := by
  obtain ⟨start, found, origin, fed⟩ := h
  exact ⟨start, found, origin.act w x, origin.note fed x⟩

/-- Every channel of a run was accepted by the registry that was in force at its creation. -/
theorem channel_fed {b : Bridge A} (absent : b.channels[i]? = none) (acts : List (Act A))
    {c : Channel A.Stream} (there : (b.run acts).channels[i]? = some c) :
    ∃ before name payload after, acts = before ++ .create name payload :: after ∧
      (b.run before).channels.length = i ∧
      ChannelFed (b.run before).registry name payload c (account i b acts .empty) := by
  have begun {b : Bridge A} {a : Act A} {c : Channel A.Stream} (absent : b.channels[i]? = none)
      (added : (b.act a).channels[i]? = some c) : ∃ name payload, a = .create name payload ∧
        b.channels.length = i ∧ ChannelFed b.registry name payload c .empty := by
    rcases b.act_channels a with same | ⟨name, payload, start, capacity, expiry, creates, found, e⟩
    · exact absurd added (getElem?_ne_some_of_length absent same)
    · rw [e] at added
      cases eq_of_getElem?_concat absent added
      exact ⟨name, payload, creates, length_of_getElem?_concat absent added, start, found,
        ofStart_create capacity expiry, nofun⟩
  obtain ⟨before, a, after, rfl, name, payload, rfl, number, fed⟩ :=
    Sessions.history_origin (s := channelSessions A)
      (P := fun b a c acc => ∃ name payload, a = .create name payload ∧ b.channels.length = i ∧
        ChannelFed b.registry name payload c acc)
      begun (fun w x ⟨name, payload, creates, number, fed⟩ =>
        ⟨name, payload, creates, number, fed.act w x⟩) acts absent there
  exact ⟨before, name, payload, after, rfl, number, fed⟩

/-- The connection is one to the handler that the registry found, and its line, which began with
those frames, carries what that handler sends. -/
structure LineOf (r : Registry A) (name : String) (frames : List String) (c : Connection A)
    (log : List LineEvent) : Prop where
  found : r.socket? name = some c.handler
  origin : OfHandler c.handler r.definitions c
  sound : Sound c
  traffic : Traffic frames c log
  sent : AllSent c.handler r.definitions log

theorem lineOf_create {r : Registry A} {name : String} {handler : SocketHandler A}
    (found : r.socket? name = some handler) (capacity : Nat) (inbound : Inbound) (sink : Sink) :
    LineOf r name sink.frames (create handler r.definitions capacity inbound sink) [] := by
  have same : (create handler r.definitions capacity inbound sink).handler = handler :=
    (create_kin handler r.definitions capacity inbound sink).1
  refine ⟨same.symm ▸ found, ?_, sound_create .., traffic_create .., allSent_nil⟩
  rw [same]
  exact ofHandler_create capacity inbound sink

theorem LineOf.act {r : Registry A} {name : String} {frames : List String} {c : Connection A}
    {log : List LineEvent} (h : LineOf r name frames c log) (w : A.World) (x : ConnectionAct) :
    LineOf r name frames (c.act w x) (log ++ c.lineEvents x) := by
  have origin := h.origin.act w x
  have same := origin.handler_eq
  exact ⟨same ▸ h.found, same ▸ origin, sound_act h.sound w x, traffic_act h.traffic h.sound w x,
    same ▸ h.sent.append (h.origin.lineEvents x)⟩

/-- Every connection of a run was opened under the registry in force at the time. -/
theorem connection_line {b : Bridge A} (absent : b.connections[i]? = none) (acts : List (Act A))
    {c : Connection A} (there : (b.run acts).connections[i]? = some c) :
    ∃ before name inbound sink after, acts = before ++ .connect name inbound sink :: after ∧
      (b.run before).connections.length = i ∧
      LineOf (b.run before).registry name sink.frames c (lineLog i b acts) := by
  have begun {b : Bridge A} {a : Act A} {c : Connection A} (absent : b.connections[i]? = none)
      (added : (b.act a).connections[i]? = some c) :
      ∃ name inbound sink, a = .connect name inbound sink ∧ b.connections.length = i ∧
        LineOf b.registry name sink.frames c [] := by
    rcases b.act_connections a with same | ⟨name, inbound, sink, handler, capacity, opens, found, e⟩
    · exact absurd added (getElem?_ne_some_of_length absent same)
    · rw [e] at added
      cases eq_of_getElem?_concat absent added
      exact ⟨name, inbound, sink, opens, length_of_getElem?_concat absent added,
        lineOf_create found capacity inbound sink⟩
  obtain ⟨before, a, after, rfl, name, inbound, sink, rfl, number, line⟩ :=
    Sessions.history_origin (s := connectionRecords A) (l := (b.openingOf i, []))
      (P := fun b a c l => ∃ name inbound sink, a = .connect name inbound sink ∧
        b.connections.length = i ∧ LineOf b.registry name sink.frames c l.2)
      begun (fun w x ⟨name, inbound, sink, opens, number, line⟩ =>
        ⟨name, inbound, sink, opens, number, line.act x.1 x.2⟩) acts absent there
  exact ⟨before, name, inbound, sink, after, rfl, number, line⟩

theorem LineOf.handed {r : Registry A} {name : String} {frames : List String} {c : Connection A}
    {log : List LineEvent} (h : LineOf r name frames c log) {frame : String}
    (handed : frame ∈ handedFrames log) :
    ∃ e, Sends c.handler r.definitions e ∧ frame = e.text := by
  apply h.sent
  rw [h.traffic.queued, List.append_assoc]
  exact List.mem_append_left _ handed

theorem isOutbound_of_sends {handler : SocketHandler A} {definitions : Definitions}
    {e : SocketEnvelope} (h : Sends handler definitions e) : e.IsOutbound handler := by
  cases h with
  | event _ _ declared => exact .inr ⟨declared, Json.inTransportCase_toTransportCase _⟩
  | error => exact .inl rfl

/-- All that handlers produce leaves in transport case and as it was declared, on every way out of
the bridge, and nothing leaves of a push that fails. -/
theorem outbound_in_transport_case (config : Config) (registry : Registry A) (world : A.World)
    (files : FileTree) (acts : List (Act A)) :
    let first := start config registry world files
    let b := first.run acts
    (∀ i v, b.answer? i = some (.ok v) → v.InTransportCase) ∧
    (∀ i c, b.channels[i]? = some c → ∀ v, some (.data v) ∈ (account i first acts .empty).returned →
      v.InTransportCase) ∧
    (∀ i c, b.connections[i]? = some c →
      ∃ before name inbound sink after, acts = before ++ .connect name inbound sink :: after ∧
        (first.run before).connections.length = i ∧
        (first.run before).registry.socket? name = some c.handler ∧
        c.sink.frames = sink.frames ++ handedFrames (lineLog i first acts) ∧
        ∀ frame ∈ handedFrames (lineLog i first acts), ∃ e : SocketEnvelope,
          frame = e.text ∧ e.IsOutbound c.handler) ∧
    (Outbox.RefusesQuietly Channel.push ∧ ∀ o ticket r,
      (∃ reason, r = .unserializable reason) ∨ o.isClosed = true →
        ∃ o' e, Channel.push o ticket r = .settled o' (some e)) ∧
    ∀ handler : SocketHandler A, Outbox.RefusesQuietly (Connection.push handler) ∧ ∀ o ticket r,
      (∃ name data, r = .event name data ∧ Keyed.contains name handler.serverEvents = false) ∨
      (∃ name reason, r = .event name (.unserializable reason)) ∨ o.isClosed = true ∧ r ≠ .close →
        ∃ o' e, Connection.push handler o ticket r = .settled o' (some e) := by
  intro first b
  refine ⟨fun i v answered => ?_, fun i c there v told => ?_, fun i c there => ?_,
    ⟨Channel.view_serves.refusesQuietly, fun o ticket r => Channel.push_fails ticket⟩,
    fun handler => ⟨(Connection.view_serves handler).refusesQuietly,
      fun o ticket r => Connection.push_fails ticket⟩⟩
  · obtain ⟨r, name, payload, origin⟩ :=
      Sessions.history_induction (s := callSessions A) (l := ())
        (P := fun c _ => ∃ r name payload, CallOf r name payload c)
        (fun c ⟨r, name, payload, same⟩ => ⟨r, name, payload, same ▸ callOf_begunCall r name payload⟩)
        (fun c _ w x ⟨r, name, payload, origin⟩ => ⟨r, name, payload, origin.act w x⟩) acts rfl
        (answered_of_answer? answered)
    obtain ⟨-, -, u, -, -, -, rfl⟩ := origin.value
    exact Json.inTransportCase_toTransportCase u
  · obtain ⟨before, name, payload, after, -, -, start, -, -, fed⟩ := channel_fed rfl acts there
    have accepted := accepted_of_returned (delivery_run config registry world files acts there).1 told
    obtain ⟨s, u, next, -, -, rfl⟩ := fed v accepted
    exact Json.inTransportCase_toTransportCase u
  · obtain ⟨before, name, inbound, sink, after, split, number, line⟩ := connection_line rfl acts there
    refine ⟨before, name, inbound, sink, after, split, number, line.found, line.traffic.taken,
      fun frame handed => ?_⟩
    obtain ⟨e, sends, text⟩ := line.handed handed
    exact ⟨e, text, isOutbound_of_sends sends⟩

def greeting : Json := .object [("userName", .string "Ada")]

/-- A call, a stream and a socket that give the value out; the socket then tries an event that it
does not declare. -/
def heralding : Registry Script.application where
  commands := [
    ("greet", {
      name := "greet", kind := .unary, params := [], returns := .unknown, doc := none, module := none
      handler := some (.unary .inline (Script.CallRun.start [.answer greeting])) }),
    ("greetings", {
      name := "greetings", kind := .stream, params := [], returns := .stream .unknown, doc := none
      module := none, handler := some (.stream (Script.StreamRun.start [.send greeting])) })]
  sockets := [("greeter", {
    name := "greeter", doc := none, module := none, serverEvents := [("greeted", .unknown)]
    clientEvents := [], callbacks := []
    onConnect := some (.hook [.send "greeted" greeting, .send "other" greeting])
    onDisconnect := none })]
  definitions := .empty

def herald : Bridge Script.application := start .default heralding .empty .empty

/-- The call is answered, the channel tells one value and the connection hands two frames on: that
of the event, and that of the error in which the undeclared event ended. -/
def heraldRuns : List (Act Script.application) :=
  [.call "greet" .null, .move (.call 0 .ready), .create "greetings" .null, .attach (Uuid.nth 0),
    .move (.channel 0 (.drive .ready)), .receive 0,
    .connect "greeter" (.ofArrivals [.silence]) (.ofLine 0 none)] ++
  List.replicate 4 (.move (.connection 0 (.work .ready))) ++
  List.replicate 3 (.move (.connection 0 .write))

theorem herald_outbound :
    (herald.run heraldRuns).answer? 0 = some (.ok greeting.toTransportCase) ∧
      (account 0 herald heraldRuns .empty).returned = [some (.data greeting.toTransportCase)] ∧
      greeting.toTransportCase.InTransportCase ∧
      ∃ c, (herald.run heraldRuns).connections[0]? = some c ∧
        handedFrames (lineLog 0 herald heraldRuns) =
          [SocketEnvelope.text ⟨"greeted", greeting.toTransportCase⟩,
            (SocketEnvelope.ofError (.of .executionError
              (SendError.undeclaredEvent "greeter" "other").message)).text] ∧
        ∀ frame ∈ handedFrames (lineLog 0 herald heraldRuns), ∃ e : SocketEnvelope,
          frame = e.text ∧ e.IsOutbound c.handler := by
  have answered : (herald.run heraldRuns).answer? 0 = some (.ok greeting.toTransportCase) := by rfl
  have told : (account 0 herald heraldRuns .empty).returned =
      [some (.data greeting.toTransportCase)] := by rfl
  have frames : handedFrames (lineLog 0 herald heraldRuns) =
      [SocketEnvelope.text ⟨"greeted", greeting.toTransportCase⟩,
        (SocketEnvelope.ofError (.of .executionError
          (SendError.undeclaredEvent "greeter" "other").message)).text] := by rfl
  have opened : (herald.run heraldRuns).connections[0]?.isSome = true := by rfl
  obtain ⟨c, there⟩ := Option.isSome_iff_exists.mp opened
  have outbound := outbound_in_transport_case .default heralding .empty .empty heraldRuns
  obtain ⟨-, -, -, -, -, -, -, -, -, each⟩ := outbound.2.2.1 0 c there
  exact ⟨answered, told, outbound.1 0 _ answered, c, there, frames, each⟩

end Bridge
end CommandBridge
