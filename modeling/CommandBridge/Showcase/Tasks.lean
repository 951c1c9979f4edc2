import CommandBridge.Descriptor.Basic
import CommandBridge.Handler.Action
import CommandBridge.Showcase.Counting

/-!
# A task board

Tasks form a forest. A new task is the last child of its parent or the last root; its
number is one more than that of the last attempt to create one.
-/

set_option autoImplicit false

namespace CommandBridge.Showcase

inductive TaskStatus where
  | todo | inProgress | done
deriving DecidableEq, Repr

namespace TaskStatus

def name : TaskStatus → String
  | todo => "todo"
  | inProgress => "in_progress"
  | done => "done"

def all : List TaskStatus := [todo, inProgress, done]

def ofName? (text : String) : Option TaskStatus := all.find? fun s => decide (s.name = text)

def type : Descriptor := .enum ⟨"TaskStatus", all.map name, none⟩

end TaskStatus

inductive TaskItem where
  | mk (id : Int64) (title : String) (status : TaskStatus) (assignedTo : Option Int64)
    (tags : List String) (subtasks : List TaskItem)

namespace TaskItem

def id : TaskItem → Int64
  | mk id .. => id

def status : TaskItem → TaskStatus
  | mk _ _ status .. => status

def subtasks : TaskItem → List TaskItem
  | mk _ _ _ _ _ subtasks => subtasks

def type : Descriptor :=
  .record "Task" (some "A unit of work, possibly split into subtasks.")
    [.required "id" .integer, .required "title" .string, .required "status" TaskStatus.type,
      .required "subtasks" (.sequence (.reference "Task")),
      { FieldOf.required "assigned_to" (.optional .integer) with description := some "User id" },
      .defaulted "tags" (.sequence .string)]

mutual
/-- A task without tags is written without their member. -/
def toJson : TaskItem → Json
  | mk id title status assignedTo tags subtasks =>
    .ofMembers <|
      [("id", .int id.toInt), ("title", .string title), ("status", .string status.name),
        ("subtasks", .array (listJson subtasks)),
        ("assigned_to", (assignedTo.map fun user => .int user.toInt).getD .null)] ++
      if tags.isEmpty then [] else [("tags", .array (tags.map .string))]

def listJson : List TaskItem → List Json
  | [] => []
  | t :: rest => toJson t :: listJson rest
end

def adopt (child : TaskItem) : TaskItem → TaskItem
  | mk id title status assignedTo tags subtasks =>
    mk id title status assignedTo tags (subtasks ++ [child])

def withStatus (status : TaskStatus) : TaskItem → TaskItem
  | mk id title _ assignedTo tags subtasks => mk id title status assignedTo tags subtasks

end TaskItem

abbrev Forest := List TaskItem

namespace Forest

mutual
/-- Changes the first task of a number, depth first; the forest and the changed task,
if there is one of that number. -/
def change? (id : Int64) (f : TaskItem → TaskItem) : Forest → Option (Forest × TaskItem)
  | [] => none
  | t :: rest =>
    match changeTree? id f t with
    | some (t, found) => some (t :: rest, found)
    | none => (change? id f rest).map fun r => (t :: r.1, r.2)

def changeTree? (id : Int64) (f : TaskItem → TaskItem) : TaskItem → Option (TaskItem × TaskItem)
  | .mk own title status assignedTo tags subtasks =>
    if own = id then
      let changed := f (.mk own title status assignedTo tags subtasks)
      some (changed, changed)
    else
      (change? id f subtasks).map fun r => (.mk own title status assignedTo tags r.1, r.2)
end

mutual
def ids : Forest → List Int64
  | [] => []
  | t :: rest => treeIds t ++ ids rest

def treeIds : TaskItem → List Int64
  | .mk id _ _ _ _ subtasks => id :: ids subtasks
end

end Forest

structure Board where
  lastId : Int64
  roots : Forest

namespace Board

def empty : Board := ⟨0, []⟩

def notFound (id : Int64) : CommandError :=
  ⟨some (.custom "NOT_FOUND"), "Task " ++ toString id ++ " not found", none⟩

def create (b : Board) (title : String) (parentId assignedTo : Option Int64)
    (tags : List String) : Board × Outcome TaskItem :=
  match nextInt64? b.lastId with
  | none => (b, .panicked overflow)
  | some id =>
    let task : TaskItem := .mk id title .todo assignedTo tags []
    match parentId with
    | none => (⟨id, b.roots ++ [task]⟩, .done task)
    | some parent =>
      match Forest.change? parent (TaskItem.adopt task) b.roots with
      | some (roots, _) => (⟨id, roots⟩, .done task)
      | none => (⟨id, b.roots⟩, .failed (notFound parent))

def list (b : Board) (status : Option TaskStatus) : List TaskItem :=
  b.roots.filter fun t =>
    match status with
    | none => true
    | some s => decide (t.status = s)

def setStatus (b : Board) (id : Int64) (status : TaskStatus) : Board × Outcome TaskItem :=
  match Forest.change? id (TaskItem.withStatus status) b.roots with
  | some (roots, task) => (⟨b.lastId, roots⟩, .done task)
  | none => (b, .failed (notFound id))

end Board
end CommandBridge.Showcase
