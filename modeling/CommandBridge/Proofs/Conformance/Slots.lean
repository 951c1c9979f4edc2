import CommandBridge.Proofs.Conformance.Forms
import CommandBridge.Proofs.Dispatch.Arguments
import CommandBridge.Proofs.Json.KeyCase

/-!
# What is asked of the members of an object

A parameter of a command and a field of a record ask alike: a value under a name, or none where it
may be absent. A client spells the name in its own case, so what it leaves out is every member whose
key converts to the name. Between slots of distinct transport names, that takes from one slot only.
-/

set_option autoImplicit false

namespace CommandBridge

open KeyCase

/-- A name under which a value is looked up, whether it may be missing and what it may be. -/
structure Slot where
  name : String
  mayBeAbsent : Bool
  Takes : Json → Prop

def Slot.Admits (members : List (String × Json)) (s : Slot) : Prop :=
  match Keyed.lookup s.name members with
  | none => s.mayBeAbsent = true
  | some v => s.Takes v

variable {table : Definitions}

def Param.slot (table : Definitions) (p : Param) : Slot where
  name := p.name
  mayBeAbsent := !p.isRequired
  Takes v := v = .null ∧ p.hasDefault = true ∨ validate table p.name p.type v = .ok ()

def FieldOf.slot (table : Definitions) (f : Field) : Slot where
  name := f.name
  mayBeAbsent := f.mayBeAbsent
  Takes v := Conformance.check table f.type v = .ok ()

theorem Param.admits_slot {p : Param} {members : List (String × Json)} :
    (p.slot table).Admits members ↔ p.Admits table members := by
  unfold Slot.Admits Param.Admits Param.slot
  cases Keyed.lookup p.name members with
  | none => exact Bool.not_eq_true' p.isRequired ▸ Iff.rfl
  | some v => exact Iff.rfl

theorem prepareArgs_slots {A : Application} {c : Command A}
    (distinct : (c.params.map Param.name).Nodup) {payload : Json} :
    (∃ args, prepareArgs table c payload = .ok args) ↔ ∃ members, payload.Carries members ∧
      ∀ s ∈ c.params.map (Param.slot table), s.Admits members := by
  simp only [prepareArgs_succeeds_iff distinct, List.forall_mem_map, Param.admits_slot]

namespace Conformance

theorem checkField_eq_ok_iff_admits {f : Field} {members : List (String × Json)} :
    checkField table members f = .ok () ↔ (FieldOf.slot table f).Admits members := by
  rw [checkField_eq_ok, Slot.Admits, FieldOf.slot]
  cases Keyed.lookup f.name members <;> simp

theorem checkFields_eq_ok {fields : List Field} {members : List (String × Json)} :
    checkFields table fields members = .ok () ↔
      ∀ s ∈ fields.map (FieldOf.slot table), s.Admits members := by
  rw [checkFields_eq_firstFailure, firstFailure_eq_ok]
  simp only [List.forall_mem_map, checkField_eq_ok_iff_admits]

theorem check_record_eq_ok {shape : RecordShape} {v : Json} :
    check table shape.descriptor v = .ok () ↔ ∃ members, v = .object members ∧
      ∀ s ∈ shape.fields.map (FieldOf.slot table), s.Admits members := by
  cases v with
  | object members => simp [RecordShape.descriptor, check, checkFields_eq_ok]
  | _ => simp [RecordShape.descriptor, check, mismatch]

theorem check_reference_eq_ok {name : String} {shape : RecordShape}
    (found : table.get? name = some (.record shape)) {v : Json} :
    check table (.reference name) v = .ok () ↔ check table shape.descriptor v = .ok () := by
  rw [check_reference found, Definition.descriptor]

end Conformance

theorem validate_eq_ok {path : String} {t : Descriptor} {v : Json} :
    validate table path t v = .ok () ↔ Conformance.check table t v = .ok () := by
  unfold validate
  cases Conformance.check table t v with
  | ok u => exact ⟨fun _ => rfl, fun _ => rfl⟩
  | error r => exact ⟨nofun, nofun⟩

def membersBut (key : String) (members : List (String × Json)) : List (String × Json) :=
  members.filter fun m => decide (toTransport m.1 ≠ toTransport key)

theorem lookup_membersBut (name key : String) (members : List (String × Json)) :
    Keyed.lookup name (membersBut key members) =
      if toTransport name = toTransport key then none else Keyed.lookup name members := by
  rw [membersBut, Keyed.lookup_filter name fun k => decide (toTransport k ≠ toTransport key)]
  by_cases same : toTransport name = toTransport key <;> simp [same]

namespace Json

def without (key : String) : Json → Json
  | object members => object (membersBut key members)
  | v => v

def Lacks (key : String) (v : Json) : Prop :=
  ∀ members, v = object members → ∀ m ∈ members, toTransport m.1 ≠ toTransport key

theorem without_eq_self {key : String} {v : Json} (h : v.Lacks key) : v.without key = v := by
  cases v with
  | object members =>
    rw [without, membersBut, List.filter_eq_self.mpr]
    intro m there
    exact decide_eq_true (h members rfl m there)
  | _ => rfl

theorem toTransportCase_without (key : String) (v : Json) :
    (v.without key).toTransportCase = v.toTransportCase.without key := by
  cases v with
  | object members =>
    rw [without, toTransportCase_object, toTransportCase_object, without, membersBut, membersBut,
      ← Keyed.sort_filter fun k => decide (toTransport k ≠ toTransport key), List.filter_map]
    have same (m : String × Json) : toTransport (toTransport m.1) = toTransport m.1 :=
      toTransport_eq_self (isTransport_toTransport m.1)
    simp only [Function.comp_def, same]
  | array items => simp [without, toTransportCase_array]
  | _ => rfl

end Json

structure Reads (carries : Json → List (String × Json) → Prop) : Prop where
  unique : ∀ {v a b}, carries v a → carries v b → a = b
  without : ∀ {v members} key, carries v members → carries (v.without key) (membersBut key members)

theorem reads_members : Reads fun v members => v = .object members where
  unique ha hb := Json.object.inj (ha.symm.trans hb)
  without _ h := h ▸ rfl

theorem Reads.inTransportCase {carries : Json → List (String × Json) → Prop}
    (reads : Reads carries) : Reads fun v members => carries v.toTransportCase members where
  unique := reads.unique
  without key h := by
    rw [Json.toTransportCase_without]
    exact reads.without key h

theorem reads_carried : Reads Json.Carries where
  unique := Json.Carries.unique
  without key h := by
    rw [Json.Carries, Json.toTransportCase_without]
    rcases h with h | ⟨h, rfl⟩
    · rw [h]
      exact .inl rfl
    · rw [h]
      exact .inr ⟨rfl, rfl⟩

section Absent

variable {slots : List Slot} {s : Slot} {key : String} {members : List (String × Json)}

theorem admits_membersBut (distinct : (slots.map Slot.name).Nodup)
    (transport : ∀ s ∈ slots, IsTransport s.name) (hs : s ∈ slots)
    (spells : toTransport key = s.name) (absent : s.mayBeAbsent = true) (admits : ∀ s ∈ slots, s.Admits members) :
    ∀ s ∈ slots, s.Admits (membersBut key members) := by
  intro other ho
  have fits := admits other ho
  unfold Slot.Admits at fits ⊢
  rw [lookup_membersBut, spells, toTransport_eq_self (transport other ho)]
  by_cases same : other.name = s.name
  · rw [if_pos same, List.inj_on_of_nodup_map distinct ho hs same]
    exact absent
  · rw [if_neg same]
    exact fits

/-- A slot that admits members without its key may be absent. -/
theorem mayBeAbsent_of_admits (transport : IsTransport s.name) (spells : toTransport key = s.name)
    (admits : s.Admits (membersBut key members)) : s.mayBeAbsent = true := by
  unfold Slot.Admits at admits
  rwa [lookup_membersBut, spells, toTransport_eq_self transport, if_pos rfl] at admits

end Absent

end CommandBridge
