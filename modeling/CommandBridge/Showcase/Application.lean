import CommandBridge.Handler.Args
import CommandBridge.Json.Members
import CommandBridge.Showcase.Chat
import CommandBridge.Showcase.Tasks
import CommandBridge.Showcase.Users
import CommandBridge.Showcase.Weather

/-!
# The showcase application

Users, tasks, weather and a chat room over one world. A call reads its arguments and
then acts on the world in one step.
-/

set_option autoImplicit false

namespace CommandBridge.Showcase

structure World where
  users : Users
  board : Board
  room : Room

def World.fresh : World := ⟨Users.seeded, .empty, .empty⟩

def intArg? (args : Args) (name : String) (format : IntFormat) :
    Except CommandError (Option Int) :=
  (args.get name (.option (.integer format))).map fun
    | .number (.int n _) => some n
    | _ => none

def idArg (args : Args) (name : String) : Except CommandError Int64 :=
  (args.get name (.integer .i64)).map fun
    | .number (.int n _) => .ofInt n
    | _ => 0

def idArg? (args : Args) (name : String) : Except CommandError (Option Int64) :=
  (intArg? args name .i64).map (Option.map Int64.ofInt)

def natArgOr (args : Args) (name : String) (format : IntFormat) (default : Nat) :
    Except CommandError Nat :=
  (args.getOr name (.integer format) (.nat default)).map fun
    | .number (.int n _) => n.toNat
    | _ => default

def textArg (args : Args) (name : String) : Except CommandError String :=
  (args.get name .text).map fun
    | .string s => s
    | _ => ""

def flagArg? (args : Args) (name : String) : Except CommandError (Option Bool) :=
  (args.get name (.option .boolean)).map fun
    | .bool b => some b
    | _ => none

def textsArgOr (args : Args) (name : String) : Except CommandError (List String) :=
  (args.getOr name (.list .text) (.array [])).map fun
    | .array items => items.filterMap fun
        | .string s => some s
        | _ => none
    | _ => []

def statusArg? (args : Args) (name : String) : Except CommandError (Option TaskStatus) :=
  (args.get name (.option .text)).map fun
    | .string s => TaskStatus.ofName? s
    | _ => none

/-- A call whose arguments are read. -/
inductive Request where
  | getUser (id : Int64)
  | listUsers (limit : Nat) (activeOnly : Bool)
  | createUser (name email : String)
  | createTask (title : String) (parentId assignedTo : Option Int64) (tags : List String)
  | listTasks (status : Option TaskStatus)
  | setTaskStatus (id : Int64) (status : TaskStatus)
  | forecast (city : String) (days : UInt32)

namespace Request

def outcome {α : Type} (encode : α → Json) : Outcome α → Outcome Payload
  | .done v => .done (.json (encode v))
  | .failed e => .failed e
  | .panicked p => .panicked p

def perform (w : World) : Request → World × Outcome Payload
  | getUser id => (w, outcome User.toJson (w.users.get id))
  | listUsers limit activeOnly =>
    (w, .done (.json (.array ((w.users.list limit activeOnly).map User.toJson))))
  | createUser name email =>
    let (users, r) := w.users.create name email
    ({ w with users := users }, outcome User.toJson r)
  | createTask title parentId assignedTo tags =>
    let (board, r) := w.board.create title parentId assignedTo tags
    ({ w with board := board }, outcome TaskItem.toJson r)
  | listTasks status => (w, .done (.json (.array (TaskItem.listJson (w.board.list status)))))
  | setTaskStatus id status =>
    let (board, r) := w.board.setStatus id status
    ({ w with board := board }, outcome TaskItem.toJson r)
  | forecast city days =>
    (w, outcome (fun rs => .array (rs.map Reading.toJson)) (Showcase.forecast city days))

end Request

inductive Call where
  | asked (request : Request)
  | answered (outcome : Outcome Payload)

namespace Call

def ofArgs (read : Args → Except CommandError Request) (args : Args) : Call :=
  match read args with
  | .ok request => asked request
  | .error e => answered (.failed e)

def next : Call → Action World Empty Payload Call
  | asked request => .update fun w => let r := request.perform w; (r.1, answered r.2)
  | answered o => .finish o

end Call

/-- A running series of readings. -/
structure Updates where
  city : String
  interval : Nat
  count : Option UInt32
  sequence : UInt32

inductive Stream where
  | sending (updates : Updates)
  | pausing (updates : Updates)
  | stopped
  | refused (error : CommandError)
  /-- There is no number for the reading after the one that was pushed. -/
  | overflowed

namespace Stream

def ofArgs (args : Args) : Stream :=
  let read : Except CommandError Updates := do
    let city ← textArg args "city"
    let interval ← natArgOr args "interval_ms" .u64 1000
    let count ← intArg? args "count" .u32
    return ⟨city, interval, count.map fun n => .ofNat n.toNat, 0⟩
  match read with
  | .ok u => sending u
  | .error e => refused e

def isComplete (u : Updates) : Bool :=
  match u.count with
  | none => false
  | some n => decide (n ≤ u.sequence)

def next : Stream → Action World (Outlet World Payload Stream) Unit Stream
  | sending u =>
    if isComplete u then .finish (.done ())
    else
      .client (.push (.json (reading u.city u.sequence).toJson) fun
        | none =>
          match nextUInt32? u.sequence with
          | some sequence => pausing { u with sequence := sequence }
          | none => overflowed
        | some e => refused e.toCommandError)
  | pausing u => .client (.waitClosed stopped (some ⟨u.interval, sending u⟩) fun _ => none)
  | stopped => .finish (.done ())
  | refused e => .finish (.failed e)
  | overflowed => .finish (.panicked overflow)

end Stream

inductive Socket where
  | connecting
  | listening (passed : Nat)
  | joining (user : String)
  | saying (user text : String)
  | publishing (event : RoomEvent)
  | following (passed : Nat)
  | telling (event : RoomEvent) (passed : Nat)
  | ended
  | refused (error : CommandError)

namespace Socket

def ofPayload (type : NativeType) (start : Json → Socket) (payload : Json) : Socket :=
  match type.read payload with
  | .ok v => start v
  | .error e => refused (.invalidArgument ("event payload: " ++ e.message))

def join : Json → Socket :=
  ofPayload .text fun
    | .string user => joining user
    | _ => ended

def say : Json → Socket :=
  ofPayload Say.native fun v =>
    match v.member "user", v.member "text" with
    | .string user, .string text => saying user text
    | _, _ => ended

def next : Socket → Action World (Outlet World SocketRequest Socket) Unit Socket
  | connecting => .update fun w => (w, listening w.room.size)
  | listening passed => .client (.fork (following passed) ended)
  | joining user => .update fun w => (w, publishing (.joined user))
  | saying user text => .clock fun now => publishing (.message ⟨user, text, .ofNat (now / 1000)⟩)
  | publishing e => .update fun w => ({ w with room := w.room.publish e }, ended)
  | following passed =>
    .client (.waitClosed ended none fun w =>
      (w.room.following? passed).map fun r => (w, telling r.1 r.2))
  | telling e passed =>
    .client (.push (.event e.name (.json e.data)) fun
      | none => following passed
      | some _ => ended)
  | ended => .finish (.done ())
  | refused e => .finish (.failed e)

end Socket

def application : Application where
  World := World
  Call := Call
  Stream := Stream
  Socket := Socket
  call := ⟨Call.next, fun _ w => w⟩
  stream := ⟨Stream.next, fun _ w => w⟩
  socket := ⟨Socket.next, fun _ w => w⟩

end CommandBridge.Showcase
