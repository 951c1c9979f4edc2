import CommandBridge.Proofs.Session.Descent
import CommandBridge.Proofs.Showcase.Values
import CommandBridge.Showcase.Registry

/-!
# What the handlers of the showcase give

A call reads its arguments into a request of its command, and the request is answered, whatever the
world, with a value that fits what the command returns. The series of readings and the listeners in
the chat room push nothing but readings and events of the room, in every state.
-/

set_option autoImplicit false

namespace CommandBridge.Showcase

open Json

variable {table : Definitions}

def Request.returns : Request → Descriptor
  | getUser _ | createUser .. => User.type
  | listUsers .. => .sequence User.type
  | createTask .. | setTaskStatus .. => TaskItem.type
  | listTasks _ => .sequence TaskItem.type
  | forecast .. => .sequence Reading.type

theorem Request.outcome_eq_done {α : Type} {encode : α → Json} {o : Outcome α} {v : Json}
    (h : outcome encode o = .done (.json v)) : ∃ a, o = .done a ∧ v = encode a := by
  cases o with
  | done a =>
    cases h
    exact ⟨a, rfl, rfl⟩
  | failed | panicked => cases h

/-- Whatever the world holds, what a request is answered with is of its type. -/
theorem Request.perform_fits (named : TasksNamed table) (w : World) (q : Request) {v : Json}
    (h : (q.perform w).2 = .done (.json v)) : Fits table q.returns v := by
  cases q with
  | getUser | createUser =>
    obtain ⟨u, -, rfl⟩ := outcome_eq_done h
    exact fits_user u
  | listUsers limit activeOnly =>
    cases h
    exact fits_sequence (List.forall_mem_map.mpr fun u _ => fits_user u)
  | createTask | setTaskStatus =>
    obtain ⟨t, -, rfl⟩ := outcome_eq_done h
    exact fits_task named t
  | listTasks status =>
    cases h
    rw [listJson_eq_map]
    exact fits_sequence (List.forall_mem_map.mpr fun t _ => fits_task named t)
  | forecast city days =>
    obtain ⟨rs, -, rfl⟩ := outcome_eq_done h
    exact fits_sequence (List.forall_mem_map.mpr fun r _ => fits_reading r)

def Asks (t : Descriptor) (read : Except CommandError Request) : Prop :=
  ∀ q, read = .ok q → q.returns = t

theorem asks_ok {q : Request} : Asks q.returns (.ok q) := by
  rintro _ ⟨⟩
  rfl

theorem asks_bind {t : Descriptor} {α : Type} {x : Except CommandError α}
    {f : α → Except CommandError Request} (each : ∀ a, Asks t (f a)) : Asks t (x >>= f) := by
  cases x with
  | ok a => exact each a
  | error e => exact nofun

def Serves (c : Command application) : Prop :=
  ∀ mode start, c.handler = some (.unary mode start) →
    ∃ read, start = Call.ofArgs read ∧ ∀ args, Asks c.returns (read args)

theorem serves_call {module name : String} {doc : Option String} {params : List Param}
    {returns : Descriptor} {mode : RunMode} {read : Args → Except CommandError Request}
    (asks : ∀ args, Asks returns (read args)) :
    Serves (call module name doc params returns mode read) := by
  rintro mode start ⟨⟩
  exact ⟨read, rfl, asks⟩

/-- Every handler reads argument after argument into one request. -/
theorem serves_declared : ∀ c ∈ declarations.commands, Serves c := by
  have users : ∀ c ∈ userCommands, Serves c := by
    simp only [userCommands, List.forall_mem_cons]
    exact ⟨serves_call fun _ => asks_bind fun _ => asks_ok,
      serves_call fun _ => asks_bind fun _ => asks_bind fun _ => asks_ok,
      serves_call fun _ => asks_bind fun _ => asks_bind fun _ => asks_ok, nofun⟩
  have tasks : ∀ c ∈ taskCommands, Serves c := by
    simp only [taskCommands, List.forall_mem_cons]
    exact ⟨serves_call fun _ => asks_bind fun _ => asks_bind fun _ => asks_bind fun _ =>
        asks_bind fun _ => asks_ok,
      serves_call fun _ => asks_bind fun _ => asks_ok,
      serves_call fun _ => asks_bind fun _ => asks_bind fun _ => asks_ok, nofun⟩
  have weather : ∀ c ∈ weatherCommands, Serves c := by
    simp only [weatherCommands, List.forall_mem_cons]
    exact ⟨serves_call fun _ => asks_bind fun _ => asks_bind fun _ => asks_ok, nofun, nofun⟩
  rw [declarations, List.forall_mem_append, List.forall_mem_append]
  exact ⟨⟨users, tasks⟩, weather⟩

def Call.Answers (table : Definitions) (t : Descriptor) : Call → Prop
  | asked q => q.returns = t
  | answered o => ∀ v, o = .done (.json v) → Fits table t v

theorem Call.answers_ofArgs {t : Descriptor} {read : Args → Except CommandError Request}
    {args : Args} (asks : Asks t (read args)) : (Call.ofArgs read args).Answers table t := by
  unfold Call.ofArgs
  cases got : read args with
  | ok q => exact asks q got
  | error e => exact nofun

/-- A call stays with the type that it is answered with, from its request to its answer. -/
theorem Call.Answers.descends {t : Descriptor} (named : TasksNamed table) {s s' : Call}
    (h : s.Answers table t) (descends : application.call.Descends Empty.elim s s') :
    s'.Answers table t := by
  induction descends with
  | refl => exact h
  | @tail u u' _ leads ih =>
    cases u with
    | asked q =>
      obtain ⟨w, rfl⟩ := leads
      intro v done
      exact (ih : q.returns = t) ▸ q.perform_fits named w done
    | answered o => cases leads

/-- The handler of a declared command comes to no value but one of the declared type. -/
theorem fits_of_finish (named : TasksNamed table) {c : Command application} (serves : Serves c)
    {mode : RunMode} {start : Args → Call} (handler : c.handler = some (.unary mode start))
    {args : Args} {s : Call} (descends : application.call.Descends Empty.elim (start args) s)
    {v : Json} (finished : application.call.next s = .finish (.done (.json v))) :
    Fits table c.returns v := by
  obtain ⟨read, rfl, asks⟩ := serves mode start handler
  have answers : s.Answers table c.returns :=
    (Call.answers_ofArgs (asks args)).descends named descends
  cases s with
  | asked q => cases finished
  | answered o =>
    cases finished
    exact answers v rfl

/-- The one streaming command declares the readings that it pushes. -/
theorem payload_declared :
    ∀ c ∈ declarations.commands, c.kind = .stream → c.payload? = some Reading.type := by
  have unary {module name : String} {doc : Option String} {params : List Param}
      {returns : Descriptor} {mode : RunMode} {read : Args → Except CommandError Request} :
      (call module name doc params returns mode read).kind = .stream →
        (call module name doc params returns mode read).payload? = some Reading.type := nofun
  simp only [declarations, userCommands, taskCommands, weatherCommands, List.forall_mem_append,
    List.forall_mem_cons]
  exact ⟨⟨⟨unary, unary, unary, nofun⟩, unary, unary, unary, nofun⟩, unary, fun _ => rfl, nofun⟩

theorem Stream.fits_of_push {s : Stream} {v : Json} {next : Option SendError → Stream}
    (asked : application.stream.next s = .client (.push (.json v) next)) :
    Fits table Reading.type v := by
  cases s with
  | sending u =>
    by_cases complete : isComplete u = true
    · have finished : application.stream.next (sending u) = .finish (.done ()) := if_pos complete
      rw [finished] at asked
      cases asked
    · have pushes := asked.symm.trans (if_neg complete)
      cases pushes
      exact fits_reading _
  | pausing | stopped | refused | overflowed => cases asked

/-- Every event of the room is declared with the type that it fits. -/
theorem RoomEvent.declared (e : RoomEvent) :
    ∃ t, Keyed.lookup e.name chatSocket.serverEvents = some t ∧ Fits table t e.data := by
  cases e with
  | message m => exact ⟨ChatMessage.type, rfl, fits_message m⟩
  | joined user => exact ⟨.string, rfl, fits_string user⟩

theorem Socket.event_of_push {s : Socket} {name : String} {v : Json}
    {next : Option SendError → Socket}
    (asked : application.socket.next s = .client (.push (.event name (.json v)) next)) :
    ∃ e : RoomEvent, name = e.name ∧ v = e.data := by
  cases s with
  | telling e passed =>
    cases asked
    exact ⟨e, rfl, rfl⟩
  | connecting | listening | joining | saying | publishing | following | ended | refused => cases asked

end CommandBridge.Showcase
