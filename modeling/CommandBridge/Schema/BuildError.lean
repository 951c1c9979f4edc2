/-!
# Why a registry does not build

A registry that contradicts itself is refused as a whole, with the first cause
found. `Owner` says where a type stands, for the message.
-/

set_option autoImplicit false

namespace CommandBridge

/-- The place of a type in a registry. -/
inductive Owner where
  | model (typeName : Option String)
  | parameter (command parameter : String)
  | returns (command : String)
  | serverEvent (socket event : String)
  | clientEvent (socket event : String)
  | field (record field : String)
  | command (name : String)
  | record (name : String)
  | socket (name : String)
  | labelled (label : String)
deriving DecidableEq, Repr

def Owner.text : Owner → String
  | .model typeName => "model '" ++ typeName.getD "anonymous" ++ "'"
  | .parameter c p => "command '" ++ c ++ "' parameter '" ++ p ++ "'"
  | .returns c => "command '" ++ c ++ "' return type"
  | .serverEvent s e => "socket '" ++ s ++ "' server event '" ++ e ++ "'"
  | .clientEvent s e => "socket '" ++ s ++ "' client event '" ++ e ++ "'"
  | .field r f => "record '" ++ r ++ "' field '" ++ f ++ "'"
  | .command c => "command '" ++ c ++ "'"
  | .record r => "record '" ++ r ++ "'"
  | .socket s => "socket '" ++ s ++ "'"
  | .labelled label => label

inductive BuildError where
  | duplicateName (name : String)
  | duplicateParameter (command parameter : String)
  | missingHandler (command : String)
  | handlerMismatch (command : String)
  | missingStreamPayload (command : String)
  | unresolvedReference (owner : Owner) (name : String)
  | conflictingDefinition (name : String) (first second : Owner)
  | unrepresentable (owner : Owner) (path : String)
  | undeclaredEvent (socket event : String)
deriving DecidableEq, Repr

def BuildError.message : BuildError → String
  | duplicateName name => "name conflict: '" ++ name ++ "' is registered more than once"
  | duplicateParameter command parameter =>
    "command '" ++ command ++ "' declares parameter '" ++ parameter ++ "' more than once"
  | missingHandler command => "command '" ++ command ++ "' has no handler"
  | handlerMismatch command =>
    "command '" ++ command ++ "' has a handler that does not match its kind"
  | missingStreamPayload command =>
    "stream command '" ++ command ++ "' must declare its payload type"
  | unresolvedReference owner name =>
    owner.text ++ ": type '" ++ name ++ "' is referenced but never defined"
  | conflictingDefinition name first second =>
    "type '" ++ name ++ "' has conflicting definitions (" ++ first.text ++ "; " ++
      second.text ++ ")"
  | unrepresentable owner path =>
    owner.text ++ ": stream type is not representable at '" ++ path ++ "'"
  | undeclaredEvent socket event =>
    "socket '" ++ socket ++ "' handles undeclared client event '" ++ event ++ "'"

end CommandBridge
