import CommandBridge.Json.Basic

/-!
# Error envelopes

Every failure that reaches a client is an envelope of a code, a message and
optional details. A handler fails with a `CommandError`, whose code may be left
open; the place that reports it supplies the code that then stands for it.
-/

set_option autoImplicit false

namespace CommandBridge

inductive ErrorCode where
  | unknownCommand | invalidArgument | executionError | channelInitError | channelError
  | unknownError | internalError
  | custom (code : String)
deriving DecidableEq, Repr

namespace ErrorCode

def text : ErrorCode → String
  | unknownCommand => "UNKNOWN_COMMAND"
  | invalidArgument => "INVALID_ARGUMENT"
  | executionError => "EXECUTION_ERROR"
  | channelInitError => "CHANNEL_INIT_ERROR"
  | channelError => "CHANNEL_ERROR"
  | unknownError => "UNKNOWN_ERROR"
  | internalError => "INTERNAL_ERROR"
  | custom code => code

def builtin : List ErrorCode :=
  [unknownCommand, invalidArgument, executionError, channelInitError, channelError,
    unknownError, internalError]

def ofText (code : String) : ErrorCode :=
  (builtin.find? fun c => decide (c.text = code)).getD (custom code)

theorem ofText_text {c : ErrorCode} (h : ∀ s, c = custom s → ∀ b ∈ builtin, b.text ≠ s) :
    ofText c.text = c := by
  cases c with
  | custom s =>
    have : builtin.find? (fun c => decide (c.text = s)) = none := by
      rw [List.find?_eq_none]
      intro b hb
      simpa using h s rfl b hb
    change (builtin.find? fun c => decide (c.text = s)).getD (custom s) = custom s
    rw [this]
    rfl
  | _ => decide

end ErrorCode

/-- The error envelope of the wire. -/
structure BridgeError where
  code : ErrorCode
  message : String
  details : Option Json
deriving DecidableEq

namespace BridgeError

def of (code : ErrorCode) (message : String) : BridgeError := ⟨code, message, none⟩

/-- An invalid argument pinned to a field path such as `task.tags[1]`. -/
def invalidField (path message : String) : BridgeError :=
  ⟨.invalidArgument, "Invalid argument '" ++ path ++ "': " ++ message,
    some (.object [("path", .string path)])⟩

def unknownCommand (name : String) : BridgeError :=
  of .unknownCommand ("Command '" ++ name ++ "' not found")

def unknownSocket (name : String) : BridgeError :=
  of .unknownCommand ("Socket '" ++ name ++ "' not found")

def display (e : BridgeError) : String := e.code.text ++ ": " ++ e.message

/-- The members of the envelope in key order; absent details are left out. -/
def toJson (e : BridgeError) : Json :=
  .object <|
    ("code", .string e.code.text) ::
      ((e.details.map fun d => [("details", d)]).getD [] ++ [("message", .string e.message)])

def status (e : BridgeError) : Nat :=
  match e.code with
  | .unknownCommand | .channelInitError => 404
  | .internalError | .unknownError => 500
  | _ => 400

def redact (debug : Bool) (e : BridgeError) : BridgeError :=
  if e.code = .internalError ∧ debug = false then
    ⟨.internalError, "Internal server error", none⟩
  else e

end BridgeError

structure CommandError where
  code : Option ErrorCode
  message : String
  details : Option Json
deriving DecidableEq

namespace CommandError

def of (message : String) : CommandError := ⟨none, message, none⟩

def invalidArgument (message : String) : CommandError := ⟨some .invalidArgument, message, none⟩

def toBridgeError (default : ErrorCode) (e : CommandError) : BridgeError :=
  ⟨e.code.getD default, e.message, e.details⟩

end CommandError

inductive Panic where
  | text (message : String)
  | opaqueValue
deriving DecidableEq, Repr

def Panic.message : Panic → String
  | .text m => "handler panicked: " ++ m
  | .opaqueValue => "handler panicked"

end CommandBridge
