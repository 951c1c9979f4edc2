import CommandBridge.Descriptor.Basic
import CommandBridge.Keyed
import CommandBridge.Schema.BuildError

/-!
# Named definitions

The table of all records and enums that the types of a registry hold, under their
names. Collecting a type enters every record and enum in it; a second definition
of a name must equal the first. References are checked against the full table.
-/

set_option autoImplicit false

namespace CommandBridge

deriving instance DecidableEq for RecordShape

inductive Definition where
  | record (shape : RecordShape)
  | enum (shape : EnumShape)
deriving DecidableEq

structure Definition.Entry where
  definition : Definition
  owner : Owner

namespace Definition

def name : Definition → String
  | record shape => shape.name
  | enum shape => shape.name

def descriptor : Definition → Descriptor
  | record shape => shape.descriptor
  | enum shape => .enum shape

mutual
/-- Names of the records, enums and references a type mentions, first mention first.
A record's own fields belong to its definition and are not looked into. -/
def mentioned (found : List String) : Descriptor → List String
  | .record name _ _ => if found.contains name then found else found ++ [name]
  | .enum shape => if found.contains shape.name then found else found ++ [shape.name]
  | .reference name => if found.contains name then found else found ++ [name]
  | .primitive _ => found
  | .optional t | .sequence t | .stream t => mentioned found t
  | .mapping k v => mentioned (mentioned found k) v
  | .tuple ts | .union ts => mentionedList found ts

def mentionedList (found : List String) : List Descriptor → List String
  | [] => found
  | t :: rest => mentionedList (mentioned found t) rest
end

def dependencies : Definition → List String
  | record shape => mentionedList [] (shape.fields.map FieldOf.type)
  | enum _ => []

end Definition

structure Definitions where
  entries : List (String × Definition.Entry)

namespace Definitions

def empty : Definitions := ⟨[]⟩

def get? (table : Definitions) (name : String) : Option Definition :=
  (Keyed.lookup name table.entries).map Definition.Entry.definition

def contains (table : Definitions) (name : String) : Bool := (table.get? name).isSome

def names (table : Definitions) : List String := Keyed.keys table.entries

def toList (table : Definitions) : List Definition :=
  table.entries.map fun e => e.2.definition

inductive Entered where
  | new (table : Definitions)
  | known
  | conflict (first : Owner)

def enter (table : Definitions) (owner : Owner) (definition : Definition) : Entered :=
  match Keyed.lookup definition.name table.entries with
  | none => .new ⟨Keyed.insert definition.name ⟨definition, owner⟩ table.entries⟩
  | some entry => if entry.definition = definition then .known else .conflict entry.owner

mutual
/-- Enters every record and enum of a type. A conflict ends the walk and keeps what
was entered before it. -/
def collect (table : Definitions) (owner : Owner) : Descriptor → Definitions × Option BuildError
  | .record name doc fields =>
    match table.enter owner (.record ⟨name, doc, fields⟩) with
    | .new table => collectFields table name fields
    | .known => (table, none)
    | .conflict first => (table, some (.conflictingDefinition name first owner))
  | .enum shape =>
    match table.enter owner (.enum shape) with
    | .new table => (table, none)
    | .known => (table, none)
    | .conflict first => (table, some (.conflictingDefinition shape.name first owner))
  | .primitive _ | .reference _ => (table, none)
  | .optional t | .sequence t | .stream t => collect table owner t
  | .mapping k v =>
    match collect table owner k with
    | (table, none) => collect table owner v
    | failed => failed
  | .tuple ts | .union ts => collectList table owner ts

def collectList (table : Definitions) (owner : Owner) :
    List Descriptor → Definitions × Option BuildError
  | [] => (table, none)
  | t :: rest =>
    match collect table owner t with
    | (table, none) => collectList table owner rest
    | failed => failed

def collectFields (table : Definitions) (record : String) :
    List (FieldOf Descriptor) → Definitions × Option BuildError
  | [] => (table, none)
  | ⟨name, t, _, _⟩ :: rest =>
    match collect table (.field record name) t with
    | (table, none) => collectFields table record rest
    | failed => failed
end

def collect? (table : Definitions) (owner : Owner) (t : Descriptor) :
    Except BuildError Definitions :=
  match table.collect owner t with
  | (table, none) => .ok table
  | (_, some e) => .error e

mutual
def unresolved? (table : Definitions) : Descriptor → Option String
  | .reference name => if table.contains name then none else some name
  | .primitive _ | .enum _ => none
  | .optional t | .sequence t | .stream t => unresolved? table t
  | .mapping k v => (unresolved? table k).or (unresolved? table v)
  | .tuple ts | .union ts => unresolvedList? table ts
  | .record _ _ fields => unresolvedFields? table fields

def unresolvedList? (table : Definitions) : List Descriptor → Option String
  | [] => none
  | t :: rest => (unresolved? table t).or (unresolvedList? table rest)

def unresolvedFields? (table : Definitions) : List (FieldOf Descriptor) → Option String
  | [] => none
  | ⟨_, t, _, _⟩ :: rest => (unresolved? table t).or (unresolvedFields? table rest)
end

def checkReferences (table : Definitions) (owner : Owner) (t : Descriptor) :
    Except BuildError Unit :=
  match table.unresolved? t with
  | some name => .error (.unresolvedReference owner name)
  | none => .ok ()

def checkDefinition (table : Definitions) : Definition → Except BuildError Unit
  | .enum _ => .ok ()
  | .record shape => shape.fields.forM fun f => table.checkReferences (.field shape.name f.name) f.type

def checkAllReferences (table : Definitions) : Except BuildError Unit :=
  table.toList.forM table.checkDefinition

end Definitions

namespace Descriptor

mutual
def streamPath? (path : String) : Descriptor → Option String
  | .stream _ => some path
  | .primitive _ | .enum _ | .reference _ => none
  | .optional t | .sequence t => streamPath? path t
  | .mapping k v => (streamPath? path k).or (streamPath? path v)
  | .tuple ts | .union ts => streamPathList? path ts
  | .record _ _ fields => streamPathFields? path fields

def streamPathList? (path : String) : List Descriptor → Option String
  | [] => none
  | t :: rest => (streamPath? path t).or (streamPathList? path rest)

def streamPathFields? (path : String) : List (FieldOf Descriptor) → Option String
  | [] => none
  | ⟨name, t, _, _⟩ :: rest =>
    (streamPath? (path ++ "." ++ name) t).or (streamPathFields? path rest)
end

def rejectStreams (owner : Owner) (path : String) (t : Descriptor) : Except BuildError Unit :=
  match t.streamPath? path with
  | some path => .error (.unrepresentable owner path)
  | none => .ok ()

end Descriptor
end CommandBridge
