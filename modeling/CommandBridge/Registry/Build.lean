import CommandBridge.Registry.Basic

/-!
# Building a registry

Models, commands and sockets are entered in the order in which they were given; the
first contradiction found refuses the whole. References are checked once all
definitions are known, so a type may refer to one that is declared later.
-/

set_option autoImplicit false

namespace CommandBridge

/-- What a registry is built from. -/
structure Declarations (A : Application) where
  models : List Descriptor
  commands : List (Command A)
  sockets : List (SocketHandler A)

namespace Command

variable {A : Application}

def types (c : Command A) : List (Owner × Descriptor) :=
  c.params.map (fun p => (.parameter c.name p.name, p.type)) ++ [(.returns c.name, c.returns)]

def checkParams (command : String) : List String → List Param → Except BuildError Unit
  | _, [] => .ok ()
  | seen, p :: rest =>
    if seen.contains p.name then .error (.duplicateParameter command p.name)
    else do
      p.type.rejectStreams (.parameter command p.name) p.name
      checkParams command (p.name :: seen) rest

def checkHandler (c : Command A) : Except BuildError Unit :=
  match c.kind, c.handler with
  | _, none => .error (.missingHandler c.name)
  | .unary, some (.unary ..) => .ok ()
  | .stream, some (.stream _) => .ok ()
  | _, _ => .error (.handlerMismatch c.name)

def checkReturns (c : Command A) : Except BuildError Unit :=
  match c.kind, c.returns with
  | .unary, t => t.rejectStreams (.command c.name) "return"
  | .stream, .stream t => t.rejectStreams (.command c.name) "payload"
  | .stream, _ => .error (.missingStreamPayload c.name)

def validate (c : Command A) : Except BuildError Unit := do
  checkParams c.name [] c.params
  c.checkHandler
  c.checkReturns

end Command

namespace SocketHandler

variable {A : Application}

/-- Every callback has a declared event; no event type holds a stream. -/
def validate (s : SocketHandler A) : Except BuildError Unit := do
  (Keyed.keys s.callbacks).forM fun event =>
    if Keyed.contains event s.clientEvents then .ok ()
    else .error (.undeclaredEvent s.name event)
  s.eventTypes.forM fun e => e.2.rejectStreams e.1 "data"

end SocketHandler

namespace Registry

variable {A : Application}

structure Progress where
  names : List String
  definitions : Definitions

def Progress.collect (p : Progress) (types : List (Owner × Descriptor)) :
    Except BuildError Progress :=
  types.foldlM (fun p t => do return { p with definitions := ← p.definitions.collect? t.1 t.2 }) p

def Progress.take (p : Progress) (name : String) : Except BuildError Progress :=
  if p.names.contains name then .error (.duplicateName name)
  else .ok { p with names := name :: p.names }

def enterModel (p : Progress) (t : Descriptor) : Except BuildError Progress :=
  p.collect [(.model t.typeName?, t)]

def enterCommand (p : Progress) (c : Command A) : Except BuildError Progress := do
  let p ← p.take c.name
  c.validate
  p.collect c.types

def enterSocket (p : Progress) (s : SocketHandler A) : Except BuildError Progress := do
  let p ← p.take s.name
  s.validate
  p.collect s.eventTypes

def collectAll (d : Declarations A) : Except BuildError Definitions := do
  let p ← d.models.foldlM enterModel ⟨[], .empty⟩
  let p ← d.commands.foldlM enterCommand p
  let p ← d.sockets.foldlM enterSocket p
  return p.definitions

def resolveAll (d : Declarations A) (table : Definitions) : Except BuildError Unit := do
  d.commands.forM fun c => c.types.forM fun t => table.checkReferences t.1 t.2
  d.sockets.forM fun s => s.eventTypes.forM fun t => table.checkReferences t.1 t.2
  table.checkAllReferences

def build (d : Declarations A) : Except BuildError (Registry A) := do
  let table ← collectAll d
  resolveAll d table
  return {
    commands := Keyed.sort (d.commands.map fun c => (c.name, c))
    sockets := Keyed.sort (d.sockets.map fun s => (s.name, s))
    definitions := table }

end Registry
end CommandBridge
