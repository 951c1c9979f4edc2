import CommandBridge.Handler.Action
import CommandBridge.Handler.Args
import CommandBridge.Schema.Definitions

/-!
# Commands, sockets and registries

A registry is the immutable table of all that a bridge offers: commands and sockets
by name, and the definitions of the types they mention.
-/

set_option autoImplicit false

namespace CommandBridge

inductive CommandKind where
  | unary | stream
deriving DecidableEq, Repr

def CommandKind.name : CommandKind → String
  | .unary => "unary"
  | .stream => "stream"

structure Param where
  name : String
  type : Descriptor
  hasDefault : Bool
deriving DecidableEq

def Param.isRequired (p : Param) : Bool := !p.hasDefault && !p.type.isNullable

inductive RunMode where
  | inline | blocking
deriving DecidableEq, Repr

inductive Handler (A : Application) where
  | unary (mode : RunMode) (start : Args → A.Call)
  | stream (start : Args → A.Stream)

structure Command (A : Application) where
  name : String
  kind : CommandKind
  params : List Param
  returns : Descriptor
  doc : Option String
  module : Option String
  handler : Option (Handler A)

def Command.payload? {A : Application} (c : Command A) : Option Descriptor :=
  match c.returns with
  | .stream t => some t
  | _ => none

/-- A socket with the events of both sides. Events are kept by name. -/
structure SocketHandler (A : Application) where
  name : String
  doc : Option String
  module : Option String
  serverEvents : List (String × Descriptor)
  clientEvents : List (String × Descriptor)
  callbacks : List (String × (Json → A.Socket))
  onConnect : Option A.Socket
  onDisconnect : Option A.Socket

namespace SocketHandler

variable {A : Application}

def eventTypes (s : SocketHandler A) : List (Owner × Descriptor) :=
  s.serverEvents.map (fun e => (.serverEvent s.name e.1, e.2)) ++
    s.clientEvents.map (fun e => (.clientEvent s.name e.1, e.2))

end SocketHandler

structure Registry (A : Application) where
  commands : List (String × Command A)
  sockets : List (String × SocketHandler A)
  definitions : Definitions

namespace Registry

variable {A : Application}

def command? (r : Registry A) (name : String) : Option (Command A) := Keyed.lookup name r.commands

def socket? (r : Registry A) (name : String) : Option (SocketHandler A) :=
  Keyed.lookup name r.sockets

def commandList (r : Registry A) : List (Command A) := r.commands.map Prod.snd

def socketList (r : Registry A) : List (SocketHandler A) := r.sockets.map Prod.snd

def isEmpty (r : Registry A) : Bool := r.commands.isEmpty && r.sockets.isEmpty

end Registry
end CommandBridge
