import CommandBridge.Proofs.Text.Utf8
import CommandBridge.Wire.Message

/-!
# Messages rebuilt from their events

An envelope is read back from its JSON form unless its details are `null`, which count as absent,
or its code is a handler's own that is spelled like a built-in one. A message is then rebuilt from
the name and the payload of its event.
-/

set_option autoImplicit false

namespace CommandBridge

/-- The envelope can be told from its JSON form. -/
structure BridgeError.Plain (e : BridgeError) : Prop where
  details : e.details ≠ some .null
  code : ∀ s, e.code = .custom s → ∀ b ∈ ErrorCode.builtin, b.text ≠ s

/-- A code comes back from its text unless it is a handler's own that is spelled like another. -/
theorem ErrorCode.ofText_text_iff {c : ErrorCode} :
    ofText c.text = c ↔ ∀ s, c = custom s → ∀ b ∈ builtin, b.text ≠ s := by
  refine ⟨?_, ofText_text⟩
  rintro same s rfl b listed rfl
  change (builtin.find? fun c => decide (c.text = b.text)).getD (custom b.text) = _ at same
  cases found : builtin.find? fun c => decide (c.text = b.text) with
  | none => simpa using List.find?_eq_none.mp found b listed
  | some c =>
    -- no code of that list is a handler's own
    rw [found, Option.getD_some] at same
    have there := List.mem_of_find?_eq_some found
    rw [same] at there
    simp [builtin] at there

namespace BridgeError

def readBack (e : BridgeError) : BridgeError :=
  ⟨.ofText e.code.text, e.message, if e.details = some .null then none else e.details⟩

theorem ofJson?_toJson_eq (e : BridgeError) : ofJson? e.toJson = some e.readBack := by
  obtain ⟨code, message, details⟩ := e
  cases details with
  | none => simp [ofJson?, toJson, readBack, Json.wanted, Json.occurrences, Keyed.lookup, Json.asString?]
  | some d =>
    have members : (toJson ⟨code, message, some d⟩).wanted ["code", "message"] ["details"] =
        some [("code", .string code.text), ("message", .string message), ("details", d)] := by
      simp [toJson, Json.wanted, Json.occurrences, Keyed.lookup]
    simp only [ofJson?, members, readBack, Option.bind_eq_bind, Option.bind_some, Keyed.lookup,
      if_true, Json.asString?]
    cases d <;> rfl

theorem readBack_eq_self_iff {e : BridgeError} : e.readBack = e ↔ e.Plain := by
  obtain ⟨code, message, details⟩ := e
  have kept : (if details = some .null then none else details) = details ↔ details ≠ some .null := by
    split
    · next null => simp [null]
    · next other => simp [other]
  rw [readBack, mk.injEq, ErrorCode.ofText_text_iff, kept]
  exact ⟨fun h => ⟨h.2.2, h.1⟩, fun h => ⟨h.code, rfl, h.details⟩⟩

theorem ofJson?_toJson {e : BridgeError} (plain : e.Plain) : ofJson? e.toJson = some e := by
  rw [ofJson?_toJson_eq, readBack_eq_self_iff.mpr plain]

end BridgeError

namespace ChannelMessage

theorem ofEvent?_message (payload : Json) : ofEvent? "message" payload = some (.data payload) := rfl

theorem ofEvent?_error (payload : Json) :
    ofEvent? "error" payload = (BridgeError.ofJson? payload).map error := rfl

theorem ofEvent?_close (payload : Json) : ofEvent? "close" payload = some .close := rfl

def rebuilt : ChannelMessage → ChannelMessage
  | error e => error e.readBack
  | m => m

theorem ofEvent?_payload_eq (m : ChannelMessage) :
    ofEvent? m.eventName m.payload = some m.rebuilt := by
  cases m with
  | data v => exact ofEvent?_message v
  | error e =>
    rw [eventName, payload, ofEvent?_error, BridgeError.ofJson?_toJson_eq]
    rfl
  | close => exact ofEvent?_close _

theorem rebuilt_eq_self_iff {m : ChannelMessage} :
    m.rebuilt = m ↔ ∀ e, m = .error e → e.Plain := by
  cases m with
  | data v => exact iff_of_true rfl nofun
  | error e =>
    simp only [rebuilt, error.injEq, BridgeError.readBack_eq_self_iff]
    exact ⟨fun plain e same => same ▸ plain, fun plain => plain e rfl⟩
  | close => exact iff_of_true rfl nofun

/-- A message is rebuilt from its event, an error when its envelope can be told. -/
theorem ofEvent?_payload {m : ChannelMessage} (plain : ∀ e, m = .error e → e.Plain) :
    ofEvent? m.eventName m.payload = some m := by
  rw [ofEvent?_payload_eq, rebuilt_eq_self_iff.mpr plain]

/-- From the event of a message a message of that name is rebuilt. It is that very message unless
this is an error whose details are `null`, or whose code is a handler's own spelled like a built-in
one. -/
theorem rebuilt_exactly (m : ChannelMessage) :
    ∃ m', ofEvent? m.eventName m.payload = some m' ∧ m'.eventName = m.eventName ∧
      (m' = m ↔ ∀ e, m = .error e → e.Plain) := by
  refine ⟨m.rebuilt, m.ofEvent?_payload_eq, ?_, rebuilt_eq_self_iff⟩
  cases m <;> rfl

def vacant : ChannelMessage := .error ⟨.custom "FULL", "no room", some .null⟩

def disguised : ChannelMessage := .error ⟨.custom "INTERNAL_ERROR", "no room", none⟩

/-- The one comes back without details, the other with the built-in code. -/
theorem vacant_not_rebuilt :
    ofEvent? vacant.eventName vacant.payload = some (.error ⟨.custom "FULL", "no room", none⟩) ∧
      ofEvent? vacant.eventName vacant.payload ≠ some vacant ∧
      ofEvent? disguised.eventName disguised.payload =
        some (.error ⟨.internalError, "no room", none⟩) ∧
      ofEvent? disguised.eventName disguised.payload ≠ some disguised := by
  decide

theorem le_of_mem_eventName (m : ChannelMessage) : ∀ c ∈ m.eventName.toList, 0x20 ≤ c.toNat := by
  cases m with
  | data v =>
    change ∀ c ∈ "message".toList, _
    exact Text.le_of_all rfl
  | error e =>
    change ∀ c ∈ "error".toList, _
    exact Text.le_of_all rfl
  | close =>
    change ∀ c ∈ "close".toList, _
    exact Text.le_of_all rfl

end ChannelMessage
end CommandBridge
