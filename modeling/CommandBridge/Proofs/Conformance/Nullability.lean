import CommandBridge.Proofs.Conformance.Exactness
import CommandBridge.Proofs.Conformance.Forms
import CommandBridge.Proofs.Conformance.Slots
import CommandBridge.Proofs.Schema.Occurrence
import Mathlib.Tactic.Common

/-!
# Nullability and validation

Whether `null` is a value of a type is read off the type alone, and no definition is looked up for
it. The validator agrees, as no definition that a name leads to takes `null`: it is of a record or
of an enum. So in a record a nullable field that is `null` and one that is absent are the same to
every check, whatever else stands in the object.
-/

set_option autoImplicit false

namespace CommandBridge

variable {table : Definitions}

theorem Descriptor.anyNullable_iff {ts : List Descriptor} :
    anyNullable ts = true ↔ ∃ t ∈ ts, t.isNullable = true := by
  induction ts with
  | nil => simp [anyNullable]
  | cons t rest ih => simp [anyNullable, ih]

namespace Conformance

theorem isPrimitive_null {p : Primitive} :
    isPrimitive p .null = true ↔ (Descriptor.primitive p).isNullable = true := by
  cases p <;> simp [isPrimitive, Descriptor.isNullable]

theorem check_definition_null_ne_ok (d : Definition) : check table d.descriptor .null ≠ .ok () := by
  cases d with
  | record shape => simp [Definition.descriptor, RecordShape.descriptor, check, mismatch]
  | enum shape => simp [Definition.descriptor, check_enum_eq_ok]

theorem check_reference_null_ne_ok (name : String) :
    check table (.reference name) .null ≠ .ok () := by
  cases found : table.get? name with
  | none => simp [check, found]
  | some d =>
    rw [check_reference found]
    exact check_definition_null_ne_ok d

theorem check_null_eq_ok (t : Descriptor) :
    check table t .null = .ok () ↔ t.isNullable = true := by
  induction t using Descriptor.child_induction with
  | step t below =>
    cases t with
    | primitive p => rw [check_primitive_eq_ok, isPrimitive_null]
    | optional inner => exact iff_of_true (check_optional_eq_ok.mpr (.inl rfl)) rfl
    | union ts =>
      rw [check_union_eq_ok, Descriptor.isNullable, Descriptor.anyNullable_iff]
      exact exists_congr fun t => and_congr_right fun member => below t member
    | enum shape => exact iff_of_false (by simp [check_enum_eq_ok]) Bool.false_ne_true
    | reference name => exact iff_of_false (check_reference_null_ne_ok name) Bool.false_ne_true
    | sequence | mapping | tuple | record | stream =>
      exact iff_of_false (by simp [check, mismatch]) Bool.false_ne_true

/-- Two objects differ at most in that one key is absent from one of them where it is `null`. -/
structure SameButNull (key : String) (members members' : List (String × Json)) : Prop where
  others : ∀ other, other ≠ key → Keyed.lookup other members' = Keyed.lookup other members
  given : ∀ v, Keyed.lookup key members = some v → v = .null
  given' : ∀ v, Keyed.lookup key members' = some v → v = .null

theorem sameButNull_erase {key : String} {members : List (String × Json)}
    (null : Keyed.lookup key members = some .null) :
    SameButNull key members (Keyed.erase key members) where
  others other apart := by rw [Keyed.lookup_erase, if_neg apart]
  given v found := Option.some.inj (found.symm.trans null)
  given' v found := by simp [Keyed.lookup_erase] at found

theorem sameButNull_insert {key : String} {members : List (String × Json)}
    (absent : Keyed.lookup key members = none) :
    SameButNull key members (Keyed.insert key .null members) where
  others other apart := by rw [Keyed.lookup_insert, if_neg apart]
  given v found := nomatch found.symm.trans absent
  given' v found := by
    rw [Keyed.lookup_insert, if_pos rfl] at found
    exact (Option.some.inj found).symm

theorem checkField_nullable {f : Field} (nullable : f.type.isNullable = true)
    {members : List (String × Json)} (given : ∀ v, Keyed.lookup f.name members = some v → v = .null) :
    checkField table members f = .ok () := by
  rw [checkField_eq_ok]
  constructor
  · intro v found
    rw [given v found]
    exact (check_null_eq_ok f.type).mpr nullable
  · intro _
    simp [FieldOf.mayBeAbsent, nullable]

theorem checkField_of_lookup_eq {f : Field} {members members' : List (String × Json)}
    (same : Keyed.lookup f.name members' = Keyed.lookup f.name members) :
    checkField table members' f = checkField table members f := by
  rw [checkField, checkField, same]

/-- Fields of distinct names do not share a key, so only the nullable one is asked for it. -/
theorem checkFields_sameButNull {fields : List Field} (distinct : (fields.map FieldOf.name).Nodup)
    {f : Field} (field : f ∈ fields) (nullable : f.type.isNullable = true)
    {members members' : List (String × Json)} (same : SameButNull f.name members members') :
    checkFields table fields members' = checkFields table fields members := by
  rw [checkFields_eq_firstFailure, checkFields_eq_firstFailure]
  congr 1
  apply List.map_congr_left
  intro g there
  by_cases key : g.name = f.name
  · obtain rfl : g = f := List.inj_on_of_nodup_map distinct there field key
    rw [checkField_nullable nullable same.given, checkField_nullable nullable same.given']
  · exact checkField_of_lookup_eq (same.others g.name key)

/-- A type is checked as a record: it is one inline, or a name that leads to one. -/
inductive Records (table : Definitions) (shape : RecordShape) : Descriptor → Prop where
  | inline : Records table shape shape.descriptor
  | named {name : String} (found : table.get? name = some (.record shape)) :
    Records table shape (.reference name)

theorem Records.check_object {shape : RecordShape} {t : Descriptor} (h : Records table shape t)
    (members : List (String × Json)) :
    check table t (.object members) = checkFields table shape.fields members := by
  cases h with
  | inline => simp only [RecordShape.descriptor, check]
  | named found => simp only [check, found]

end Conformance

open Conformance

/-- A value `null` passes exactly as a nullable type. So where the fields of a record have distinct
names, an object is answered alike, with the same error if it fails, whether a nullable field is
`null` in it or absent from it. -/
theorem nullability_validated (table : Definitions) (path : String) :
    (∀ t : Descriptor, validate table path t .null = .ok () ↔ t.isNullable = true) ∧
      ∀ (shape : RecordShape) (t : Descriptor), (shape.fields.map FieldOf.name).Nodup →
        Records table shape t → ∀ f ∈ shape.fields, f.type.isNullable = true →
          ∀ members : List (String × Json),
            (Keyed.lookup f.name members = some .null →
              validate table path t (.object (Keyed.erase f.name members)) =
                validate table path t (.object members)) ∧
            (Keyed.lookup f.name members = none →
              validate table path t (.object (Keyed.insert f.name .null members)) =
                validate table path t (.object members)) := by
  refine ⟨fun t => validate_eq_ok.trans (check_null_eq_ok t), ?_⟩
  intro shape t distinct record f field nullable members
  have same {members' : List (String × Json)} (h : SameButNull f.name members members') :
      validate table path t (.object members') = validate table path t (.object members) := by
    simp only [validate, record.check_object]
    rw [checkFields_sameButNull distinct field nullable h]
  exact ⟨fun null => same (sameButNull_erase null), fun absent => same (sameButNull_insert absent)⟩

/-- An edge need not say where it leads, and it may say that it leads nowhere. -/
theorem edge_to_null_validated :
    Records graph edgeShape (.reference "Edge") ∧
      validate graph "edge" (.reference "Edge") (.object [("to", .null), ("weight", .int 1)]) =
        validate graph "edge" (.reference "Edge") (.object [("weight", .int 1)]) ∧
      validate graph "edge" (.reference "Edge") (.object [("to", .null)]) =
        validate graph "edge" (.reference "Edge") (.object []) := by
  have record : Records graph edgeShape (.reference "Edge") := .named rfl
  have distinct : (edgeShape.fields.map FieldOf.name).Nodup := by decide
  have field : FieldOf.required "to" (.optional (.reference "Node")) ∈ edgeShape.fields :=
    List.mem_cons_of_mem _ List.mem_cons_self
  have either := (nullability_validated graph "edge").2 edgeShape _ distinct record _ field rfl
  exact ⟨record, (either [("weight", .int 1)]).2 rfl, ((either [("to", .null)]).1 rfl).symm⟩

end CommandBridge
