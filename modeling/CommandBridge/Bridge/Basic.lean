import CommandBridge.Channel.Move
import CommandBridge.Config.Basic
import CommandBridge.Dispatch
import CommandBridge.Files.Tree
import CommandBridge.Socket.Move
import CommandBridge.TypeScript.Install
import CommandBridge.Uuid

/-!
# A running bridge

A bridge holds the registry in force, the handlers' world, the clock and every session.
A request reads the registry once, when it begins; what it started keeps what it read.
-/

set_option autoImplicit false

namespace CommandBridge

inductive CallProgress (A : Application) where
  | running (mode : RunMode) (task : Task A.Call)
  | answered (answer : Except BridgeError Json)
  | escaped (panic : Panic)

structure Bridge (A : Application) where
  config : Config
  registry : Registry A
  world : A.World
  now : Nat
  /-- Every channel ever created; the number of one tells its identifier. -/
  channels : List (Channel A.Stream)
  connections : List (Connection A)
  calls : List (CallProgress A)
  files : FileTree

inductive ReloadError where
  | build (error : BuildError)
  | install (error : TypeScript.InstallError)

namespace Bridge

variable {A : Application}

def start (config : Config) (registry : Registry A) (world : A.World) (files : FileTree) :
    Bridge A :=
  ⟨config, registry, world, 0, [], [], [], files⟩

def beginCall (b : Bridge A) (name : String) (payload : Json) : Bridge A :=
  let call : CallProgress A := match b.registry.invocation name payload with
    | .ok i => .running i.mode (Task.at i.start)
    | .error e => .answered (.error e)
  { b with calls := b.calls ++ [call] }

def answer? (b : Bridge A) (index : Nat) : Option (Except BridgeError Json) :=
  match b.calls[index]? with
  | some (.answered a) => some a
  | _ => none

/-- The panic that nothing catches, when a handler ends so. A handler that is run is caught, and so is
all of one on the blocking pool. -/
def uncaught? (mode : RunMode) (s : A.Call) : Outcome Payload → Option Panic
  | .panicked p => if mode = .inline ∧ A.entering s then some p else none
  | _ => none

/-- A call whose handler has ended in a state. -/
def CallProgress.ended (mode : RunMode) (s : A.Call) (outcome : Outcome Payload) : CallProgress A :=
  match uncaught? mode s outcome with
  | some p => .escaped p
  | none => .answered (mode.answer outcome)

def CallProgress.move (now : Nat) (pick : Alternative) (w : A.World) :
    CallProgress A → Option (A.World × CallProgress A)
  | .running mode t =>
    (t.step A.call now pick w).map fun (w, turn) =>
      match turn with
      | .onward t => (w, .running mode t)
      | .forked _ t => (w, .running mode t)
      | .ended outcome => (w, CallProgress.ended mode t.state outcome)
  | _ => none

def channelId (index : Nat) : String := (Uuid.nth index).text

def channelIndex? (b : Bridge A) (id : Uuid) : Option Nat :=
  (List.range b.channels.length).find? fun i => decide (Uuid.nth i = id)

def streamStart (r : Registry A) (name : String) (payload : Json) :
    Except BridgeError A.Stream :=
  match r.command? name with
  | none => .error (.unknownCommand name)
  | some c =>
    match c.kind, c.handler with
    | .stream, some (.stream start) => (prepareArgs r.definitions c payload).map start
    | _, _ =>
      .error (.of .invalidArgument ("Command '" ++ name ++ "' does not support channels"))

def createChannel (b : Bridge A) (name : String) (payload : Json) :
    Except BridgeError (Bridge A) := do
  let start ← streamStart b.registry name payload
  let c := Channel.create name start b.config.channelCapacity
    (b.now + b.config.attachTimeoutSecs * 1000)
  return { b with channels := b.channels ++ [c] }

def setChannel (b : Bridge A) (index : Nat) (c : Channel A.Stream) : Bridge A :=
  { b with channels := b.channels.set index c }

def withChannel (b : Bridge A) (id : Uuid)
    (f : Channel A.Stream → Except ChannelError (Channel A.Stream)) :
    Except ChannelError (Bridge A × Nat) :=
  match b.channelIndex? id with
  | none => .error (.notFound id.text)
  | some i =>
    match b.channels[i]? with
    | none => .error (.notFound id.text)
    | some c => (f c).map fun c => (b.setChannel i c, i)

def attach (b : Bridge A) (id : Uuid) : Except ChannelError (Bridge A × Nat) :=
  b.withChannel id fun c => c.attach id.text

def closeChannel (b : Bridge A) (id : Uuid) : Except ChannelError (Bridge A × Nat) :=
  b.withChannel id fun c => c.close id.text

def closeAll (b : Bridge A) : Bridge A := { b with channels := b.channels.map Channel.shut }

def receive (b : Bridge A) (index : Nat) : Bridge A × Received :=
  match b.channels[index]? with
  | some c => (b.setChannel index c.receive.1, c.receive.2)
  | none => (b, .finished)

def dropSubscription (b : Bridge A) (index : Nat) : Bridge A :=
  match b.channels[index]? with
  | some c => b.setChannel index c.drop
  | none => b

def channelPhase? (b : Bridge A) (id : Uuid) : Option Lifecycle :=
  ((b.channelIndex? id).bind fun i => b.channels[i]?).bind fun c =>
    if c.listed then some c.phase else none

def channelCount (b : Bridge A) : Nat := b.channels.countP Channel.listed

def socketHandler (r : Registry A) (name : String) : Except BridgeError (SocketHandler A) :=
  match r.socket? name with
  | some h => .ok h
  | none => .error (.unknownSocket name)

/-- Opens a connection under the next number. -/
def connect (b : Bridge A) (name : String) (inbound : Inbound) (sink : Sink) :
    Except BridgeError (Bridge A) := do
  let handler ← socketHandler b.registry name
  let c := Connection.create handler b.registry.definitions b.config.channelCapacity inbound sink
  return { b with connections := b.connections ++ [c] }

def dropConnection (b : Bridge A) (index : Nat) : Bridge A :=
  match b.connections[index]? with
  | some c =>
    let (w, c) := c.drop b.world
    { b with world := w, connections := b.connections.set index c }
  | none => b

def replace (b : Bridge A) (r : Registry A) : Bridge A × Registry A :=
  ({ b with registry := r }, b.registry)

def prepareClient (b : Bridge A) (r : Registry A) :
    FileTree × Except TypeScript.InstallError Unit :=
  match b.config.generateTs with
  | some path =>
    let (files, result) := TypeScript.install r (.ofText path) b.files
    (files, result.map fun _ => ())
  | none =>
    match TypeScript.generate r with
    | .ok _ => (b.files, .ok ())
    | .error e => (b.files, .error (.generate e))

/-- Puts a newly built registry in force once its client is prepared. On an error the
registry stays. -/
def reload (b : Bridge A) (built : Except BuildError (Registry A)) :
    Bridge A × Except ReloadError (Registry A) :=
  match built with
  | .error e => (b, .error (.build e))
  | .ok r =>
    match b.prepareClient r with
    | (files, .error e) => ({ b with files := files }, .error (.install e))
    | (files, .ok ()) =>
      let (b, previous) := { b with files := files }.replace r
      (b, .ok previous)

inductive Move where
  | call (index : Nat) (pick : Alternative)
  | channel (index : Nat) (move : ChannelMove)
  | connection (index : Nat) (move : ConnectionMove)
deriving DecidableEq, Repr

def move? (b : Bridge A) : Move → Option (Bridge A)
  | .call i pick =>
    (b.calls[i]?.bind fun c => CallProgress.move b.now pick b.world c).map fun (w, c) =>
      { b with world := w, calls := b.calls.set i c }
  | .channel i m =>
    (b.channels[i]?.bind fun c => c.move A.stream b.now b.world m).map fun (w, c) =>
      { b with world := w, channels := b.channels.set i c }
  | .connection i m =>
    (b.connections[i]?.bind fun c => c.move b.now b.world m).map fun (w, c) =>
      { b with world := w, connections := b.connections.set i c }

def timers (b : Bridge A) : List Nat :=
  b.calls.filterMap (fun c => match c with
    | .running _ t => t.timer? Empty.elim A.call
    | _ => none) ++
  b.channels.flatMap (Channel.timers A.stream) ++ b.connections.flatMap Connection.timers

def nextTimer? (b : Bridge A) : Option Nat := (b.timers.filter fun t => decide (b.now < t)).min?

end Bridge
end CommandBridge
