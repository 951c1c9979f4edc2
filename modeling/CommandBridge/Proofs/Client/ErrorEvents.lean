import CommandBridge.Proofs.Client.Values

/-!
# Error events

An error event ends the values of a channel with one failure, whatever comes after it, unless its
payload is JSON that spells no error. Such an event is passed over: the values after it are read on
as if it had not come, and of the error nothing is told.
-/

set_option autoImplicit false

namespace CommandBridge.Client

variable {before : List PushEvent} {e : PushEvent}

/-- The items that a client is given for the events of a body. -/
def itemsOf (ending : BodyEnd) (events : List PushEvent) : List Item :=
  (ofEvents events).1 ++ if (ofEvents events).2 then [] else [.error ending.failure]

theorem values_eq_itemsOf (ending : BodyEnd) (chunks : List (List UInt8)) :
    values ending .start chunks = itemsOf ending (EventDecoder.start.feed chunks.flatten).2 := by
  rw [values_eq, EventDecoder.feedAll_eq_feed List.not_mem_nil chunks]
  rfl

/-- The failure that an error event tells, if it tells one. -/
def failureOf (e : PushEvent) : Option Failure :=
  match Json.parse e.data with
  | none => some .undecodable
  | some payload => (BridgeError.ofJson? payload).map .remote

theorem failureOf_eq_none_iff : failureOf e = none ↔
    ∃ payload, Json.parse e.data = some payload ∧ BridgeError.ofJson? payload = none := by
  unfold failureOf
  cases Json.parse e.data with
  | none => exact iff_of_false nofun nofun
  | some payload => simp

theorem itemsOf_of_failureOf_eq_some {failure : Failure} (named : e.event = "error")
    (told : failureOf e = some failure) (ending : BodyEnd) (later : List PushEvent) :
    itemsOf ending (e :: later) = [.error failure] := by
  unfold failureOf at told
  cases read : Json.parse e.data with
  | none =>
    rw [read, Option.some.injEq] at told
    rw [itemsOf, ofEvents_of_unread read, ← told]
    rfl
  | some payload =>
    rw [read] at told
    obtain ⟨error, envelope, rfl⟩ := Option.map_eq_some_iff.mp told
    rw [itemsOf, ofEvents_of_error named read envelope]
    rfl

theorem itemsOf_of_failureOf_eq_none (named : e.event = "error") (untold : failureOf e = none)
    (ending : BodyEnd) (later : List PushEvent) :
    itemsOf ending (e :: later) = itemsOf ending later := by
  obtain ⟨payload, read, nothing⟩ := failureOf_eq_none_iff.mp untold
  have on : ReadsOn e := ⟨payload, read, by rw [named]; decide, fun _ => nothing⟩
  rw [itemsOf, ofEvents_of_readsOn on (by rw [named]; decide)]
  rfl

/-- Where a client reads on it is given the payloads of the messages, in order. -/
theorem itemsOf_append_of_readsOn (met : ∀ x ∈ before, ReadsOn x) :
    ∃ vs, List.Forall₂ (fun x v => Json.parse x.data = some v)
        (before.filter fun x => x.event = "message") vs ∧
      ∀ ending later, itemsOf ending (before ++ later) = vs.map .ok ++ itemsOf ending later := by
  induction before with
  | nil => exact ⟨[], .nil, fun _ _ => rfl⟩
  | cons x rest ih =>
    obtain ⟨on, met⟩ := List.forall_mem_cons.mp met
    obtain ⟨vs, payloads, items⟩ := ih met
    by_cases message : x.event = "message"
    · obtain ⟨v, read, -⟩ := on
      refine ⟨v :: vs, ?_, fun ending later => ?_⟩
      · rw [List.filter_cons_of_pos (by simpa using message)]
        exact .cons read payloads
      · rw [List.cons_append, itemsOf, ofEvents_of_message message read, List.cons_append, ← itemsOf,
          items]
        rfl
    · refine ⟨vs, ?_, fun ending later => ?_⟩
      · rwa [List.filter_cons_of_neg (by simpa using message)]
      · rw [List.cons_append, itemsOf, ofEvents_of_readsOn on message, ← itemsOf, items]

/-- A client that meets an error event was given the payloads of the messages before it. It is given
one failure more and nothing after that, whatever comes later, exactly when the event tells one, that
is unless its payload is JSON that spells no error. Otherwise it is given what comes later. -/
theorem error_event_last_iff (met : ∀ x ∈ before, ReadsOn x) (named : e.event = "error") :
    ∃ vs, List.Forall₂ (fun x v => Json.parse x.data = some v)
        (before.filter fun x => x.event = "message") vs ∧
      (∀ failure, (∀ ending later,
        itemsOf ending (before ++ e :: later) = vs.map .ok ++ [.error failure]) ↔
          failureOf e = some failure) ∧
      (failureOf e = none ↔
        ∃ payload, Json.parse e.data = some payload ∧ BridgeError.ofJson? payload = none) ∧
      (failureOf e = none → ∀ ending later,
        itemsOf ending (before ++ e :: later) = vs.map .ok ++ itemsOf ending later) ∧
      ∀ ending chunks,
        values ending .start chunks = itemsOf ending (EventDecoder.start.feed chunks.flatten).2 := by
  obtain ⟨vs, payloads, items⟩ := itemsOf_append_of_readsOn met
  refine ⟨vs, payloads, fun failure => ⟨fun last => ?_, fun told ending later => ?_⟩,
    failureOf_eq_none_iff, fun untold ending later => ?_, values_eq_itemsOf⟩
  · have only (ending : BodyEnd) : itemsOf ending [e] = [.error failure] :=
      List.append_cancel_left ((items ending [e]).symm.trans (last ending []))
    cases told : failureOf e with
    | none =>
      -- an event that is passed over leaves the end of the body to be told, and bodies end in two ways
      have ends (ending : BodyEnd) : ending.failure = failure := by
        have passed := (itemsOf_of_failureOf_eq_none named told ending []).symm.trans (only ending)
        simpa [itemsOf, ofEvents] using passed
      have same : BodyEnd.complete.failure = BodyEnd.cut.failure := (ends .complete).trans (ends .cut).symm
      cases same
    | some other =>
      have same := (itemsOf_of_failureOf_eq_some named told .complete []).symm.trans (only .complete)
      simpa using same
  · rw [items, itemsOf_of_failureOf_eq_some named told]
  · rw [items, itemsOf_of_failureOf_eq_none named untold]

def hollow : PushEvent := ⟨"error", (Json.object []).print⟩

theorem hollow_read : Json.parse hollow.data = some (.object []) :=
  Json.parse_print ⟨⟨trivial, trivial⟩, by decide, trivial⟩

theorem pair_read : Json.parse (PushEvent.ofMessage (.data pair)).data = some pair :=
  Json.parse_print ⟨⟨trivial, trivial, trivial⟩, by decide, ⟨trivial, trivial, trivial⟩⟩

/-- A client that passed over a hollow error is told the next one, and nothing that comes later. -/
theorem full_is_last : (∀ x ∈ [PushEvent.ofMessage (.data pair), hollow], ReadsOn x) ∧
    (PushEvent.ofMessage (.error full)).event = "error" ∧
    ∀ ending later, itemsOf ending ([.ofMessage (.data pair), hollow] ++ .ofMessage (.error full) :: later) =
      [.ok pair, .error (.remote full)] := by
  have met : ∀ x ∈ [PushEvent.ofMessage (.data pair), hollow], ReadsOn x := by
    rw [List.forall_mem_cons, List.forall_mem_singleton]
    exact ⟨⟨pair, pair_read, nofun, nofun⟩, ⟨.object [], hollow_read, nofun, fun _ => rfl⟩⟩
  refine ⟨met, rfl, ?_⟩
  obtain ⟨vs, payloads, last, -⟩ := error_event_last_iff met (e := .ofMessage (.error full)) rfl
  have only : vs = [pair] := by
    cases payloads with
    | cons read none =>
      cases none
      rw [Option.some.inj (read.symm.trans pair_read)]
  have told : failureOf (.ofMessage (.error full)) = some (.remote full) := by
    have plain : full.Plain := ⟨nofun, fun s same => by cases same; decide⟩
    have read : Json.parse (PushEvent.ofMessage (.error full)).data = some full.toJson :=
      Json.parse_print ⟨⟨⟨by decide, by decide, trivial⟩, trivial, trivial, trivial, trivial⟩,
        by decide, ⟨trivial, trivial, trivial, trivial⟩⟩
    rw [failureOf, read]
    exact congrArg (Option.map Failure.remote) (BridgeError.ofJson?_toJson plain)
  rw [only] at last
  exact (last _).mpr told

def hollowBody : List UInt8 :=
  Utf8.encode (hollow.text.toList ++ ((PushEvent.ofMessage (.data pair)).text.toList ++
    (PushEvent.ofMessage .close).text.toList))

/-- The error comes first, and yet a client is given the later value and no failure. -/
theorem hollow_error_swallowed : (EventDecoder.start.feed hollowBody).2 =
      [hollow, .ofMessage (.data pair), .ofMessage .close] ∧
    values .complete .start [hollowBody] = [.ok pair] := by
  have decoded : EventDecoder.start.feed hollowBody =
      (.start, [hollow, .ofMessage (.data pair), .ofMessage .close]) := by
    have name : ∀ c ∈ hollow.event.toList, 0x20 ≤ c.toNat := Text.le_of_all rfl
    rw [hollowBody, Utf8.encode_append, Utf8.encode_append, EventDecoder.feed_append,
      EventDecoder.feed_append, EventDecoder.feed_event name fun _ => Json.le_of_mem_print,
      EventDecoder.feed_message, EventDecoder.feed_message]
    rfl
  have closed : Json.parse (PushEvent.ofMessage .close).data = some (.object []) := hollow_read
  refine ⟨by rw [decoded], ?_⟩
  rw [values_eq_itemsOf, List.flatten_singleton, decoded,
    itemsOf_of_failureOf_eq_none rfl (failureOf_eq_none_iff.mpr ⟨_, hollow_read, rfl⟩), itemsOf,
    ofEvents_of_message rfl pair_read, ofEvents_of_close rfl closed]
  rfl

end CommandBridge.Client
