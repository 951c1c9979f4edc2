import CommandBridge.Conformance.Check
import CommandBridge.Json.KeyCase
import CommandBridge.Registry.Basic

/-!
# Unary dispatch

A payload becomes arguments: keys in transport case, undeclared ones dropped, each
declared parameter checked. Whatever the handler then does comes back as one result
or one error envelope.
-/

set_option autoImplicit false

namespace CommandBridge

variable {A : Application}

def payloadMembers (payload : Json) : Except BridgeError (List (String × Json)) :=
  match payload.toTransportCase with
  | .null => .ok []
  | .object members => .ok members
  | _ => .error (.of .invalidArgument "Arguments must be a JSON object")

def Param.take (table : Definitions) (incoming : List (String × Json)) (p : Param) :
    Except BridgeError (Option Json) :=
  match Keyed.lookup p.name incoming with
  | none =>
    if p.isRequired then .error (.invalidField p.name "missing required parameter") else .ok none
  | some v =>
    if v = .null ∧ p.hasDefault then .ok none
    else
      match validate table p.name p.type v with
      | .ok () => .ok (some v)
      | .error e => .error e

def takeParams (table : Definitions) :
    List Param → List (String × Json) → Except BridgeError (List (String × Json))
  | [], _ => .ok []
  | p :: rest, incoming => do
    let v ← p.take table incoming
    let more ← takeParams table rest (Keyed.erase p.name incoming)
    return match v with
      | some v => Keyed.insert p.name v more
      | none => more

/-- The validated arguments of a command. -/
def prepareArgs (table : Definitions) (c : Command A) (payload : Json) :
    Except BridgeError Args := do
  let incoming ← payloadMembers payload
  return ⟨← takeParams table c.params incoming⟩

structure Invocation (A : Application) where
  mode : RunMode
  start : A.Call

def Registry.invocation (r : Registry A) (name : String) (payload : Json) :
    Except BridgeError (Invocation A) :=
  match r.command? name with
  | none => .error (.unknownCommand name)
  | some c =>
    match c.handler with
    | some (.unary mode start) => do
      let args ← prepareArgs r.definitions c payload
      return ⟨mode, start args⟩
    | _ =>
      .error (.of .invalidArgument
        ("Command '" ++ name ++ "' is a stream; open a channel instead"))

def blockingPanic : Panic → String
  | .text m => "blocking handler failed: task <id> panicked with message " ++ Text.quoted m
  | .opaqueValue => "blocking handler failed: task <id> panicked"

def RunMode.answer (mode : RunMode) : Outcome Payload → Except BridgeError Json
  | .done (.json v) => .ok v.toTransportCase
  | .done (.unserializable reason) =>
    .error (.of .executionError ("serialization failed: " ++ reason))
  | .failed e => .error (e.toBridgeError .executionError)
  | .panicked p =>
    .error (.of .executionError (match mode with
      | .inline => p.message
      | .blocking => blockingPanic p))

end CommandBridge
