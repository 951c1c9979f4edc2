import CommandBridge.Proofs.Client.Stream

/-!
# How the values of a channel end

A client takes the events of a body in their order until one of them ends the values: a `close`, an
error, or a payload that is no JSON. When the events run out first, the client is told that the
stream was cut off. So values that end without a failure were closed, and which items a client is
given depends on the bytes of the body and on its end alone.
-/

set_option autoImplicit false

namespace CommandBridge.Client

variable {ending : BodyEnd} {e : PushEvent} {events : List PushEvent} {items : List Item}

/-- An event after which a client reads on: its payload is JSON, and it is neither a `close` nor an
error that can be told. -/
def ReadsOn (e : PushEvent) : Prop :=
  ∃ payload, Json.parse e.data = some payload ∧ e.event ≠ "close" ∧
    (e.event = "error" → BridgeError.ofJson? payload = none)

/-- Where the values end among what is left of the events of a body, and the failure that comes
out. -/
inductive EndsAt (ending : BodyEnd) : List PushEvent → Option Failure → Prop where
  | closed {e : PushEvent} {payload : Json} (named : e.event = "close")
    (read : Json.parse e.data = some payload) (later : List PushEvent) :
    EndsAt ending (e :: later) none
  | failed {e : PushEvent} {payload : Json} {error : BridgeError} (named : e.event = "error")
    (read : Json.parse e.data = some payload) (told : BridgeError.ofJson? payload = some error)
    (later : List PushEvent) : EndsAt ending (e :: later) (some (.remote error))
  | unread {e : PushEvent} (unread : Json.parse e.data = none) (later : List PushEvent) :
    EndsAt ending (e :: later) (some .undecodable)
  | cut : EndsAt ending [] (some ending.failure)

/-- The items are the payloads of the messages among the first events, in order, and then the
failure with which the values end, if there is one. -/
def Tells (ending : BodyEnd) (events : List PushEvent) (items : List Item) : Prop :=
  ∃ before rest vs failure, events = before ++ rest ∧ (∀ e ∈ before, ReadsOn e) ∧
    List.Forall₂ (fun e v => Json.parse e.data = some v)
      (before.filter fun e => e.event = "message") vs ∧
    EndsAt ending rest failure ∧ items = vs.map .ok ++ failure.toList.map .error

namespace Tells

theorem last {failure : Option Failure} (h : EndsAt ending events failure) :
    Tells ending events (failure.toList.map .error) :=
  ⟨[], events, [], failure, rfl, List.forall_mem_nil _, .nil, h, rfl⟩

theorem value {v : Json} (named : e.event = "message") (read : Json.parse e.data = some v)
    (h : Tells ending events items) : Tells ending (e :: events) (.ok v :: items) := by
  obtain ⟨before, rest, vs, failure, rfl, on, payloads, ends, rfl⟩ := h
  refine ⟨e :: before, rest, v :: vs, failure, rfl, List.forall_mem_cons.mpr ⟨?_, on⟩, ?_, ends, rfl⟩
  · exact ⟨v, read, by rw [named]; decide, fun error => absurd (named.symm.trans error) (by decide)⟩
  · rw [List.filter_cons_of_pos (by simpa using named)]
    exact .cons read payloads

theorem skip (on : ReadsOn e) (other : e.event ≠ "message") (h : Tells ending events items) :
    Tells ending (e :: events) items := by
  obtain ⟨before, rest, vs, failure, rfl, on', payloads, ends, rfl⟩ := h
  refine ⟨e :: before, rest, vs, failure, rfl, List.forall_mem_cons.mpr ⟨on, on'⟩, ?_, ends, rfl⟩
  rwa [List.filter_cons_of_neg (by simpa using other)]

theorem closed (h : Tells ending events items) (unfailing : ∀ failure, .error failure ∉ items) :
    ∃ e ∈ events, e.event = "close" ∧ ∃ payload, Json.parse e.data = some payload := by
  obtain ⟨before, rest, vs, failure, rfl, -, -, ends, rfl⟩ := h
  cases failure with
  | some failure => exact absurd (List.mem_append_right _ (by simp)) (unfailing failure)
  | none =>
    cases ends with
    | closed named read later =>
      exact ⟨_, List.mem_append_right before List.mem_cons_self, named, _, read⟩

end Tells

theorem ofEvents_of_unread (unread : Json.parse e.data = none) (rest : List PushEvent) :
    ofEvents (e :: rest) = ([.error .undecodable], true) := by
  simp only [ofEvents, unread]

theorem ofEvents_of_message {v : Json} (named : e.event = "message") (read : Json.parse e.data = some v)
    (rest : List PushEvent) :
    ofEvents (e :: rest) = (.ok v :: (ofEvents rest).1, (ofEvents rest).2) := by
  simp only [ofEvents, read, named, ChannelMessage.ofEvent?_message]

theorem ofEvents_of_error {payload : Json} {error : BridgeError} (named : e.event = "error")
    (read : Json.parse e.data = some payload) (told : BridgeError.ofJson? payload = some error)
    (rest : List PushEvent) : ofEvents (e :: rest) = ([.error (.remote error)], true) := by
  simp only [ofEvents, read, named, ChannelMessage.ofEvent?_error, told, Option.map_some]

theorem ofEvents_of_close {payload : Json} (named : e.event = "close")
    (read : Json.parse e.data = some payload) (rest : List PushEvent) :
    ofEvents (e :: rest) = ([], true) := by
  simp only [ofEvents, read, named, ChannelMessage.ofEvent?_close]

/-- What is no message is passed over where a client reads on. -/
theorem ofEvents_of_readsOn (on : ReadsOn e) (other : e.event ≠ "message") (rest : List PushEvent) :
    ofEvents (e :: rest) = ofEvents rest := by
  obtain ⟨payload, read, close, untold⟩ := on
  have nothing : ChannelMessage.ofEvent? e.event payload = none := by
    by_cases error : e.event = "error"
    · rw [error, ChannelMessage.ofEvent?_error, untold error, Option.map_none]
    · rw [ChannelMessage.ofEvent?, if_neg other, if_neg error, if_neg close]
  simp only [ofEvents, read, nothing]

/-- What a client makes of events, followed by the failure of a stream that they do not end. -/
theorem tells_ofEvents (ending : BodyEnd) (events : List PushEvent) :
    Tells ending events
      ((ofEvents events).1 ++ if (ofEvents events).2 then [] else [.error ending.failure]) := by
  induction events with
  | nil => exact .last .cut
  | cons e rest ih =>
    cases read : Json.parse e.data with
    | none =>
      rw [ofEvents_of_unread read]
      exact .last (.unread read rest)
    | some payload =>
      by_cases message : e.event = "message"
      · rw [ofEvents_of_message message read]
        exact .value message read ih
      by_cases close : e.event = "close"
      · rw [ofEvents_of_close close read]
        exact .last (.closed close read rest)
      by_cases failed : ∃ error, e.event = "error" ∧ BridgeError.ofJson? payload = some error
      · obtain ⟨error, named, told⟩ := failed
        rw [ofEvents_of_error named read told]
        exact .last (.failed named read told rest)
      · have on : ReadsOn e := ⟨payload, read, close, fun named =>
          Option.eq_none_iff_forall_ne_some.mpr fun error told => failed ⟨error, named, told⟩⟩
        rw [ofEvents_of_readsOn on message]
        exact .skip on message ih

/-- A client is given the payloads of the messages in a body, in order, and then at most one failure.
Without a failure there was a `close`, so that a stream that was cut off is told from a finished
one. All this is as if the body had come at once. -/
theorem truncation_told (ending : BodyEnd) (chunks : List (List UInt8)) :
    Tells ending (EventDecoder.start.feed chunks.flatten).2 (values ending .start chunks) ∧
      ((∀ failure, .error failure ∉ values ending .start chunks) →
        ∃ e ∈ (EventDecoder.start.feed chunks.flatten).2,
          e.event = "close" ∧ ∃ payload, Json.parse e.data = some payload) ∧
      values ending .start chunks = values ending .start [chunks.flatten] := by
  have whole (chunks : List (List UInt8)) :
      EventDecoder.start.feedAll chunks = EventDecoder.start.feed chunks.flatten :=
    EventDecoder.feedAll_eq_feed List.not_mem_nil chunks
  have tells : Tells ending (EventDecoder.start.feed chunks.flatten).2
      (values ending .start chunks) := by
    rw [values_eq, whole]
    exact tells_ofEvents ending _
  refine ⟨tells, tells.closed, ?_⟩
  rw [values_eq, values_eq, whole, whole, List.flatten_singleton]

end CommandBridge.Client
