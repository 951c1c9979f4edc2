import CommandBridge.Registry.Build
import CommandBridge.Showcase.Application

/-!
# The showcase registry

Every kind of endpoint once: calls, a call on the blocking pool, a stream, recursive
types and a socket.
-/

set_option autoImplicit false

namespace CommandBridge.Showcase

def required (name : String) (type : Descriptor) : Param := ⟨name, type, false⟩

def defaulted (name : String) (type : Descriptor) : Param := ⟨name, type, true⟩

def call (module name : String) (doc : Option String) (params : List Param)
    (returns : Descriptor) (mode : RunMode) (read : Args → Except CommandError Request) :
    Command application where
  name := name
  kind := .unary
  params := params
  returns := returns
  doc := doc
  module := some module
  handler := some (.unary mode (Call.ofArgs read))

def userCommands : List (Command application) := [
  call "users" "get_user" (some "Look up a user by id.") [required "user_id" .integer]
    User.type .inline fun args => do return .getUser (← idArg args "user_id"),
  call "users" "list_users" none
    [defaulted "limit" .integer, required "active_only" (.optional .boolean)]
    (.sequence User.type) .inline fun args => do
      let limit ← natArgOr args "limit" .u32 10
      return .listUsers limit ((← flagArg? args "active_only").getD false),
  call "users" "create_user" (some "Register a new user.")
    [required "name" .string, required "email" .string]
    User.type .inline fun args => do
      let name ← textArg args "name"
      return .createUser name (← textArg args "email")]

def taskCommands : List (Command application) := [
  call "tasks" "create_task" (some "Create a task, optionally under a parent.")
    [required "title" .string, required "parent_id" (.optional .integer),
      required "assigned_to" (.optional .integer), defaulted "tags" (.sequence .string)]
    TaskItem.type .inline fun args => do
      let title ← textArg args "title"
      let parent ← idArg? args "parent_id"
      let assigned ← idArg? args "assigned_to"
      return .createTask title parent assigned (← textsArgOr args "tags"),
  call "tasks" "list_tasks" (some "Top-level tasks, optionally filtered by status.")
    [required "status" (.optional TaskStatus.type)]
    (.sequence TaskItem.type) .inline fun args => do
      return .listTasks (← statusArg? args "status"),
  call "tasks" "update_task_status" none
    [required "task_id" .integer, required "status" TaskStatus.type]
    TaskItem.type .inline fun args => do
      let id ← idArg args "task_id"
      return .setTaskStatus id ((← statusArg? args "status").getD .todo)]

def weatherCommands : List (Command application) := [
  call "weather" "get_forecast" (some "Daily forecast for a city.")
    [required "city" .string, defaulted "days" .integer]
    (.sequence Reading.type) .blocking fun args => do
      let city ← textArg args "city"
      return .forecast city (.ofNat (← natArgOr args "days" .u32 3)),
  { name := "weather_updates"
    kind := .stream
    params := [required "city" .string, defaulted "interval_ms" .integer,
      required "count" (.optional .integer)]
    returns := .stream Reading.type
    doc := some "Live readings for a city until closed."
    module := some "weather"
    handler := some (.stream Stream.ofArgs) }]

def chatSocket : SocketHandler application where
  name := "chat"
  doc := some "Shared chat room."
  module := some "chat"
  serverEvents := Keyed.sort [("message", ChatMessage.type), ("joined", .string)]
  clientEvents := Keyed.sort [("join", .string), ("say", Say.type)]
  callbacks := Keyed.sort [("join", Socket.join), ("say", Socket.say)]
  onConnect := some .connecting
  onDisconnect := none

def declarations : Declarations application :=
  ⟨[], userCommands ++ taskCommands ++ weatherCommands, [chatSocket]⟩

end CommandBridge.Showcase
