/-!
# Type descriptors

The structural type of a value that crosses the bridge. Records and enums carry
their name; a reference names one defined elsewhere, which is how recursive
types are written. A stream marks the payload of a streaming command.
-/

set_option autoImplicit false

namespace CommandBridge

inductive Primitive where
  | string | integer | float | boolean | null | bytes | unknown
deriving DecidableEq, Repr

def Primitive.name : Primitive → String
  | .string => "string"
  | .integer => "integer"
  | .float => "float"
  | .boolean => "boolean"
  | .null => "null"
  | .bytes => "bytes"
  | .unknown => "unknown"

structure FieldOf (T : Type) where
  name : String
  type : T
  optional : Bool
  description : Option String
deriving DecidableEq, Repr

structure EnumShape where
  name : String
  variants : List String
  doc : Option String
deriving DecidableEq, Repr

inductive Descriptor where
  | primitive (kind : Primitive)
  | optional (inner : Descriptor)
  | sequence (item : Descriptor)
  | mapping (key value : Descriptor)
  | tuple (items : List Descriptor)
  | record (name : String) (doc : Option String) (fields : List (FieldOf Descriptor))
  | enum (shape : EnumShape)
  | union (members : List Descriptor)
  | reference (name : String)
  | stream (item : Descriptor)

abbrev Field := FieldOf Descriptor

/-- A named record with ordered fields. -/
structure RecordShape where
  name : String
  doc : Option String
  fields : List Field

namespace Descriptor

instance : Inhabited Descriptor := ⟨.primitive .null⟩

def string : Descriptor := .primitive .string
def integer : Descriptor := .primitive .integer
def float : Descriptor := .primitive .float
def boolean : Descriptor := .primitive .boolean
def null : Descriptor := .primitive .null
def unknown : Descriptor := .primitive .unknown

mutual
def decEq : (a b : Descriptor) → Decidable (a = b)
  | primitive x, b => by
    cases b with
    | primitive y =>
      exact if h : x = y then isTrue (h ▸ rfl) else isFalse (fun e => h (primitive.inj e))
    | _ => exact isFalse (fun h => nomatch h)
  | optional x, b => by
    cases b with
    | optional y =>
      exact match decEq x y with
        | isTrue h => isTrue (h ▸ rfl)
        | isFalse h => isFalse (fun e => h (optional.inj e))
    | _ => exact isFalse (fun h => nomatch h)
  | sequence x, b => by
    cases b with
    | sequence y =>
      exact match decEq x y with
        | isTrue h => isTrue (h ▸ rfl)
        | isFalse h => isFalse (fun e => h (sequence.inj e))
    | _ => exact isFalse (fun h => nomatch h)
  | mapping x v, b => by
    cases b with
    | mapping y w =>
      exact match decEq x y, decEq v w with
        | isTrue h, isTrue k => isTrue (h ▸ k ▸ rfl)
        | isFalse h, _ => isFalse (fun e => h (mapping.inj e).1)
        | _, isFalse k => isFalse (fun e => k (mapping.inj e).2)
    | _ => exact isFalse (fun h => nomatch h)
  | tuple xs, b => by
    cases b with
    | tuple ys =>
      exact match decEqList xs ys with
        | isTrue h => isTrue (h ▸ rfl)
        | isFalse h => isFalse (fun e => h (tuple.inj e))
    | _ => exact isFalse (fun h => nomatch h)
  | record n d xs, b => by
    cases b with
    | record m e ys =>
      exact match decEqFields xs ys with
        | isTrue h =>
          if k : n = m ∧ d = e then isTrue (by rw [k.1, k.2, h])
          else isFalse (fun q => k ⟨(record.inj q).1, (record.inj q).2.1⟩)
        | isFalse h => isFalse (fun q => h (record.inj q).2.2)
    | _ => exact isFalse (fun h => nomatch h)
  | enum x, b => by
    cases b with
    | enum y => exact if h : x = y then isTrue (h ▸ rfl) else isFalse (fun e => h (enum.inj e))
    | _ => exact isFalse (fun h => nomatch h)
  | union xs, b => by
    cases b with
    | union ys =>
      exact match decEqList xs ys with
        | isTrue h => isTrue (h ▸ rfl)
        | isFalse h => isFalse (fun e => h (union.inj e))
    | _ => exact isFalse (fun h => nomatch h)
  | reference x, b => by
    cases b with
    | reference y =>
      exact if h : x = y then isTrue (h ▸ rfl) else isFalse (fun e => h (reference.inj e))
    | _ => exact isFalse (fun h => nomatch h)
  | stream x, b => by
    cases b with
    | stream y =>
      exact match decEq x y with
        | isTrue h => isTrue (h ▸ rfl)
        | isFalse h => isFalse (fun e => h (stream.inj e))
    | _ => exact isFalse (fun h => nomatch h)

def decEqList : (a b : List Descriptor) → Decidable (a = b)
  | [], [] => isTrue rfl
  | [], _ :: _ => isFalse (fun h => nomatch h)
  | _ :: _, [] => isFalse (fun h => nomatch h)
  | x :: xs, y :: ys =>
    match decEq x y, decEqList xs ys with
    | isTrue h, isTrue t => isTrue (h ▸ t ▸ rfl)
    | isFalse h, _ => isFalse (fun e => h (List.cons.inj e).1)
    | _, isFalse t => isFalse (fun e => t (List.cons.inj e).2)

def decEqFields : (a b : List (FieldOf Descriptor)) → Decidable (a = b)
  | [], [] => isTrue rfl
  | [], _ :: _ => isFalse (fun h => nomatch h)
  | _ :: _, [] => isFalse (fun h => nomatch h)
  | ⟨n, x, o, d⟩ :: xs, ⟨m, y, p, e⟩ :: ys =>
    match decEq x y, decEqFields xs ys with
    | isTrue h, isTrue t =>
      if k : n = m ∧ o = p ∧ d = e then isTrue (by rw [k.1, k.2.1, k.2.2, h, t])
      else isFalse (fun q =>
        k ⟨(FieldOf.mk.inj (List.cons.inj q).1).1, (FieldOf.mk.inj (List.cons.inj q).1).2.2.1,
          (FieldOf.mk.inj (List.cons.inj q).1).2.2.2⟩)
    | isFalse h, _ => isFalse (fun q => h (FieldOf.mk.inj (List.cons.inj q).1).2.1)
    | _, isFalse t => isFalse (fun q => t (List.cons.inj q).2)
end

instance : DecidableEq Descriptor := decEq

def typeName? : Descriptor → Option String
  | record name _ _ => some name
  | enum shape => some shape.name
  | reference name => some name
  | _ => none

mutual
/-- Whether `null` is a value of the type. -/
def isNullable : Descriptor → Bool
  | optional _ => true
  | primitive .null => true
  | primitive .unknown => true
  | union members => anyNullable members
  | _ => false

def anyNullable : List Descriptor → Bool
  | [] => false
  | t :: rest => isNullable t || anyNullable rest
end

/-- Direct children in declaration order. Fields are children; references are leaves. -/
def children : Descriptor → List Descriptor
  | primitive _ | enum _ | reference _ => []
  | optional t | sequence t | stream t => [t]
  | mapping k v => [k, v]
  | tuple ts | union ts => ts
  | record _ _ fields => fields.map FieldOf.type

theorem sizeOf_child_lt {t c : Descriptor} (h : c ∈ t.children) : sizeOf c < sizeOf t := by
  cases t with
  | primitive | enum | reference => simp [children] at h
  | optional | sequence | stream => simp [children] at h; subst h; simp
  | mapping k v => simp [children] at h; rcases h with rfl | rfl <;> simp <;> omega
  | tuple ts | union ts =>
    have := List.sizeOf_lt_of_mem (by simpa [children] using h : c ∈ ts)
    simp; omega
  | record n d fields =>
    simp only [children, List.mem_map] at h
    obtain ⟨f, hf, rfl⟩ := h
    have := List.sizeOf_lt_of_mem hf
    have : sizeOf f.type < sizeOf f := by cases f; simp; omega
    simp; omega

end Descriptor

namespace FieldOf

def required (name : String) (type : Descriptor) : Field := ⟨name, type, false, none⟩

def defaulted (name : String) (type : Descriptor) : Field := ⟨name, type, true, none⟩

def mayBeAbsent (field : Field) : Bool := field.optional || field.type.isNullable

end FieldOf

namespace RecordShape

def get? (shape : RecordShape) (name : String) : Option Field :=
  shape.fields.find? fun f => decide (f.name = name)

def descriptor (shape : RecordShape) : Descriptor :=
  .record shape.name shape.doc shape.fields

end RecordShape
end CommandBridge
