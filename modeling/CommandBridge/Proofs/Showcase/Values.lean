import CommandBridge.Proofs.Conformance.Written
import CommandBridge.Showcase.Application

/-!
# What the showcase writes

Every user, task, reading and message is written as a value that fits its declared type, whatever
numbers and texts it holds. A task does so with all the tasks under it, since its type is found
under its name wherever it occurs in itself; the member of its tags is left out when it has none.
-/

set_option autoImplicit false

namespace CommandBridge.Showcase

open Json

variable {table : Definitions}

theorem fits_user (u : User) : Fits table User.type u.toJson :=
  fits_record ⟨"User", _, _⟩ (by decide) (by decide) <|
    .member (fits_int64 u.id) <| .member (fits_string u.name) <| .member (fits_string u.email) <|
    .member (fits_bool u.active) .nil

theorem fits_conditions (c : Conditions) : Fits table Conditions.type (.string c.name) :=
  fits_enum (by cases c <;> decide)

theorem fits_reading (r : Reading) : Fits table Reading.type r.toJson :=
  fits_record ⟨"Reading", _, _⟩ (by decide) (by decide) <|
    .member (fits_string r.city) <| .member (fits_uint32 r.sequence) <|
    .member (fits_float r.temperature) <| .member (fits_conditions r.conditions) .nil

theorem fits_message (m : ChatMessage) : Fits table ChatMessage.type m.toJson :=
  fits_record ⟨"ChatMessage", _, _⟩ (by decide) (by decide) <|
    .member (fits_string m.user) <| .member (fits_string m.text) <|
    .member (fits_uint64 m.sentAt) .nil

theorem fits_status (s : TaskStatus) : Fits table TaskStatus.type (.string s.name) :=
  fits_enum (by cases s <;> decide)

theorem fits_assigned (user : Option Int64) :
    Fits table (.optional .integer) ((user.map fun user => .int user.toInt).getD .null) := by
  cases user with
  | none => exact fits_null
  | some user => exact (fits_int64 user).optional

def TasksNamed (table : Definitions) : Prop :=
  ∃ shape, table.get? "Task" = some (.record shape) ∧ shape.descriptor = TaskItem.type

theorem TasksNamed.reference (named : TasksNamed table) {v : Json}
    (h : Fits table TaskItem.type v) : Fits table (.reference "Task") v := by
  obtain ⟨shape, found, same⟩ := named
  exact .reference found (same ▸ h)

mutual
theorem fits_task (named : TasksNamed table) : ∀ t : TaskItem, Fits table TaskItem.type t.toJson
  | .mk id title status assignedTo tags subtasks => by
    have texts : Fits table (.sequence .string) (.array (tags.map .string)) :=
      fits_sequence (List.forall_mem_map.mpr fun tag _ => fits_string tag)
    refine fits_record ⟨"Task", _, _⟩ (by decide) (by decide) <|
      .member (fits_int64 id) <| .member (fits_string title) <| .member (fits_status status) <|
      .member (fits_sequence (fits_subtask named subtasks)) <|
      .member (fits_assigned assignedTo) ?_
    split
    · exact .absent rfl .nil
    · exact .member texts .nil

theorem fits_subtask (named : TasksNamed table) :
    ∀ ts : List TaskItem, ∀ v ∈ TaskItem.listJson ts, Fits table (.reference "Task") v
  | [] => nofun
  | t :: rest => by
    rw [TaskItem.listJson, List.forall_mem_cons]
    exact ⟨named.reference (fits_task named t), fits_subtask named rest⟩
end

theorem listJson_eq_map (ts : List TaskItem) : TaskItem.listJson ts = ts.map TaskItem.toJson := by
  induction ts with
  | nil => rfl
  | cons t rest ih => rw [TaskItem.listJson, ih, List.map_cons]

end CommandBridge.Showcase
