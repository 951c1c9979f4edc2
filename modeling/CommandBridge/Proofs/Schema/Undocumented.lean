import CommandBridge.Proofs.Keyed
import CommandBridge.Proofs.Schema.Occurrence
import CommandBridge.Registry.Basic
import CommandBridge.TypeScript.Module

/-!
# What documentation does not decide

Records, enums, fields, commands and sockets may carry a text for the reader. Without these texts
a table lists the same names in the same order, a field may be left out when it could be before,
and a type is written the same.
-/

set_option autoImplicit false

namespace CommandBridge

def EnumShape.undocumented (shape : EnumShape) : EnumShape := { shape with doc := none }

namespace Descriptor

mutual
/-- The type with no text in it, at any depth. -/
def undocumented : Descriptor → Descriptor
  | primitive p => primitive p
  | optional t => optional (undocumented t)
  | sequence t => sequence (undocumented t)
  | mapping k v => mapping (undocumented k) (undocumented v)
  | tuple ts => tuple (undocumentedList ts)
  | record name _ fields => record name none (undocumentedFields fields)
  | enum shape => enum shape.undocumented
  | union ts => union (undocumentedList ts)
  | reference name => reference name
  | stream t => stream (undocumented t)

def undocumentedList : List Descriptor → List Descriptor
  | [] => []
  | t :: rest => undocumented t :: undocumentedList rest

def undocumentedFields : List (FieldOf Descriptor) → List (FieldOf Descriptor)
  | [] => []
  | ⟨name, t, isOptional, _⟩ :: rest =>
    ⟨name, undocumented t, isOptional, none⟩ :: undocumentedFields rest
end

end Descriptor

def FieldOf.undocumented (f : Field) : Field := ⟨f.name, f.type.undocumented, f.optional, none⟩

def RecordShape.undocumented (shape : RecordShape) : RecordShape :=
  ⟨shape.name, none, shape.fields.map FieldOf.undocumented⟩

def Definition.undocumented : Definition → Definition
  | record shape => record shape.undocumented
  | enum shape => enum shape.undocumented

def Definition.Entry.undocumented (e : Definition.Entry) : Definition.Entry :=
  ⟨e.definition.undocumented, e.owner⟩

def Definitions.undocumented (table : Definitions) : Definitions :=
  ⟨table.entries.map fun m => (m.1, m.2.undocumented)⟩

def Param.undocumented (p : Param) : Param := { p with type := p.type.undocumented }

section Registered

variable {A : Application}

def Command.undocumented (c : Command A) : Command A :=
  { c with params := c.params.map Param.undocumented, returns := c.returns.undocumented, doc := none }

def SocketHandler.undocumented (s : SocketHandler A) : SocketHandler A :=
  { s with
    doc := none
    serverEvents := s.serverEvents.map fun e => (e.1, e.2.undocumented)
    clientEvents := s.clientEvents.map fun e => (e.1, e.2.undocumented) }

/-- The registry with no text for a reader in it. -/
def Registry.undocumented (r : Registry A) : Registry A :=
  ⟨r.commands.map fun m => (m.1, m.2.undocumented), r.sockets.map fun m => (m.1, m.2.undocumented),
    r.definitions.undocumented⟩

end Registered

namespace Descriptor

theorem undocumentedList_eq (ts : List Descriptor) : undocumentedList ts = ts.map undocumented := by
  induction ts with
  | nil => rfl
  | cons t rest ih => rw [undocumentedList, List.map_cons, ih]

theorem anyNullable_undocumented {ts : List Descriptor}
    (each : ∀ t ∈ ts, t.undocumented.isNullable = t.isNullable) :
    anyNullable (ts.map undocumented) = anyNullable ts := by
  induction ts with
  | nil => rfl
  | cons t rest ih =>
    rw [List.forall_mem_cons] at each
    rw [List.map_cons, anyNullable, anyNullable, each.1, ih each.2]

theorem isNullable_undocumented (t : Descriptor) : t.undocumented.isNullable = t.isNullable := by
  induction t using child_induction with
  | step t ih =>
    cases t with
    | union ts =>
      rw [undocumented, isNullable, isNullable, undocumentedList_eq]
      exact anyNullable_undocumented ih
    | _ => rfl

end Descriptor

theorem FieldOf.mayBeAbsent_undocumented (f : Field) : f.undocumented.mayBeAbsent = f.mayBeAbsent := by
  rw [mayBeAbsent, mayBeAbsent, undocumented, Descriptor.isNullable_undocumented]

theorem Param.isRequired_undocumented (p : Param) : p.undocumented.isRequired = p.isRequired := by
  rw [isRequired, isRequired, undocumented, Descriptor.isNullable_undocumented]

theorem Command.payload?_undocumented {A : Application} (c : Command A) :
    c.undocumented.payload? = c.payload?.map Descriptor.undocumented := by
  simp only [payload?, undocumented]
  cases c.returns <;> rfl

namespace Definition

/-- A walk that meets the same at each type has met the same in the end. -/
theorem mentionedList_undocumented {ts : List Descriptor}
    (each : ∀ t ∈ ts, ∀ found, mentioned found t.undocumented = mentioned found t)
    (found : List String) :
    mentionedList found (ts.map Descriptor.undocumented) = mentionedList found ts := by
  induction ts generalizing found with
  | nil => rfl
  | cons t rest ih =>
    rw [List.forall_mem_cons] at each
    rw [List.map_cons, mentionedList, mentionedList, each.1, ih each.2]

theorem mentioned_undocumented (t : Descriptor) :
    ∀ found, mentioned found t.undocumented = mentioned found t := by
  induction t using Descriptor.child_induction with
  | step t ih =>
    intro found
    cases t with
    | primitive | reference | record | enum => rfl
    | optional t | sequence t | stream t =>
      rw [Descriptor.undocumented, mentioned, mentioned, ih t List.mem_cons_self]
    | mapping k v =>
      rw [Descriptor.undocumented, mentioned, mentioned, ih k List.mem_cons_self,
        ih v (List.mem_cons_of_mem k List.mem_cons_self)]
    | tuple ts | union ts =>
      rw [Descriptor.undocumented, mentioned, mentioned, Descriptor.undocumentedList_eq]
      exact mentionedList_undocumented ih found

theorem dependencies_undocumented (x : Definition) : x.undocumented.dependencies = x.dependencies := by
  cases x with
  | enum shape => rfl
  | record shape =>
    have types : (shape.fields.map FieldOf.undocumented).map FieldOf.type =
        (shape.fields.map FieldOf.type).map Descriptor.undocumented := by
      rw [List.map_map, List.map_map]
      rfl
    rw [undocumented, dependencies, dependencies, RecordShape.undocumented, types]
    exact mentionedList_undocumented (fun t _ => mentioned_undocumented t) []

end Definition

namespace Definitions

theorem get?_undocumented (table : Definitions) (name : String) :
    table.undocumented.get? name = (table.get? name).map Definition.undocumented := by
  have entry : Keyed.lookup name table.undocumented.entries =
      (Keyed.lookup name table.entries).map Definition.Entry.undocumented := by
    change Keyed.lookup (id name) (table.entries.map fun m => (id m.1, m.2.undocumented)) = _
    exact Keyed.lookup_map _ fun _ _ same => same
  rw [get?, get?, entry, Option.map_map, Option.map_map]
  rfl

theorem contains_undocumented (table : Definitions) (name : String) :
    table.undocumented.contains name = table.contains name := by
  rw [contains, contains, get?_undocumented, Option.isSome_map]

theorem names_undocumented (table : Definitions) : table.undocumented.names = table.names := by
  rw [names, names, Keyed.keys, Keyed.keys, undocumented, List.map_map]
  rfl

end Definitions

namespace TypeScript

open Definitions

variable {table : Definitions} {owner : Owner}

def SameText (table : Definitions) (owner : Owner) (t : Descriptor) : Prop :=
  ∀ path, expression table.undocumented owner path t.undocumented = expression table owner path t

theorem itemExpressions_undocumented {ts : List Descriptor} (each : ∀ t ∈ ts, SameText table owner t)
    (path : String) (index : Nat) :
    itemExpressions table.undocumented owner path index (ts.map Descriptor.undocumented) =
      itemExpressions table owner path index ts := by
  induction ts generalizing index with
  | nil => rfl
  | cons t rest ih =>
    rw [List.forall_mem_cons] at each
    rw [List.map_cons, itemExpressions, itemExpressions, each.1, ih each.2]

theorem memberExpressions_undocumented {ts : List Descriptor}
    (each : ∀ t ∈ ts, SameText table owner t) (path : String) :
    memberExpressions table.undocumented owner path (ts.map Descriptor.undocumented) =
      memberExpressions table owner path ts := by
  induction ts with
  | nil => rfl
  | cons t rest ih =>
    rw [List.forall_mem_cons] at each
    rw [List.map_cons, memberExpressions, memberExpressions, each.1, ih each.2]

theorem keyType_undocumented (t : Descriptor) : keyType t.undocumented = keyType t := by
  cases t with
  | primitive p => cases p <;> rfl
  | _ => rfl

theorem expression_undocumented (t : Descriptor) : SameText table owner t := by
  induction t using Descriptor.child_induction with
  | step t ih =>
    intro path
    cases t with
    | primitive | record | enum | stream => rfl
    | reference name => rw [Descriptor.undocumented, expression, expression, contains_undocumented]
    | optional t | sequence t =>
      rw [Descriptor.undocumented, expression, expression, ih t List.mem_cons_self]
    | mapping k v =>
      rw [Descriptor.undocumented, expression, expression, keyType_undocumented,
        ih v (List.mem_cons_of_mem k List.mem_cons_self)]
    | tuple ts =>
      have each : ∀ t ∈ ts, SameText table owner t := ih
      rw [Descriptor.undocumented, expression, expression, Descriptor.undocumentedList_eq,
        itemExpressions_undocumented each]
    | union ts =>
      have each : ∀ t ∈ ts, SameText table owner t := ih
      rw [Descriptor.undocumented, expression, expression, Descriptor.undocumentedList_eq,
        memberExpressions_undocumented each]

mutual
theorem visit_undocumented (table : Definitions) (fuel : Nat) (name : String) (w : Walk) :
    visit table.undocumented fuel name w = visit table fuel name w := by
  cases fuel with
  | zero => rw [visit, visit]
  | succ fuel =>
    rw [visit, visit, get?_undocumented]
    split
    · rfl
    · cases table.get? name with
      | none => rfl
      | some d =>
        simp only [Option.map_some, Definition.dependencies_undocumented,
          visitAll_undocumented table fuel]

theorem visitAll_undocumented (table : Definitions) (fuel : Nat) (names : List String) (w : Walk) :
    visitAll table.undocumented fuel names w = visitAll table fuel names w := by
  cases names with
  | nil => rw [visitAll, visitAll]
  | cons name rest =>
    rw [visitAll, visitAll, visit_undocumented table fuel name w, visitAll_undocumented table fuel rest]
end

theorem ordered_undocumented (table : Definitions) : ordered table.undocumented = ordered table := by
  have size : table.undocumented.entries.length = table.entries.length := List.length_map _
  rw [ordered, ordered, size, names_undocumented, visitAll_undocumented]

end TypeScript
end CommandBridge
