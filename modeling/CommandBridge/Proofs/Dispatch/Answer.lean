import CommandBridge.Dispatch

/-!
# What a handler comes to

The answer to a call is the value that its handler gave, in transport case, or an envelope that
tells why there is none. A handler's own failure goes out with its own code, message and details;
every other one, and a failure without a code, as an execution error.
-/

set_option autoImplicit false

namespace CommandBridge.RunMode

variable {mode : RunMode} {outcome : Outcome Payload}

/-- A call succeeds with what its handler returned and in no other way. -/
theorem answer_eq_ok {v : Json} :
    mode.answer outcome = .ok v ↔ ∃ u, outcome = .done (.json u) ∧ v = u.toTransportCase := by
  constructor
  · intro h
    match outcome, h with
    | .done (.json u), h =>
      cases h
      exact ⟨u, rfl, rfl⟩
  · rintro ⟨u, rfl, rfl⟩
    rfl

end CommandBridge.RunMode

namespace CommandBridge

/-- The answer reports what the handler came to: a value that could be serialized in transport
case, a failure of the handler with what it gave, and all else as an execution error. -/
structure Answers (outcome : Outcome Payload) (answer : Except BridgeError Json) : Prop where
  value : ∀ v, answer = .ok v ↔ ∃ u, outcome = .done (.json u) ∧ v = u.toTransportCase
  failure : ∀ e, outcome = .failed e →
    answer = .error ⟨e.code.getD .executionError, e.message, e.details⟩
  other : (∀ e, outcome ≠ .failed e) → ∀ e, answer = .error e → e.code = .executionError

theorem RunMode.answers (mode : RunMode) (outcome : Outcome Payload) :
    Answers outcome (mode.answer outcome) where
  value _ := answer_eq_ok
  failure _ failed := failed ▸ rfl
  other unfailed e answered := by
    match outcome, unfailed, answered with
    | .done (.unserializable _), _, answered
    | .panicked _, _, answered =>
      cases answered
      rfl
    | .failed e, unfailed, _ => exact absurd rfl (unfailed e)

end CommandBridge
