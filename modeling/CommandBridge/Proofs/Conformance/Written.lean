import CommandBridge.Proofs.Conformance.Forms
import CommandBridge.Proofs.Conformance.Slots
import CommandBridge.Proofs.Json.TransportCase

/-!
# Values that fit a type

A value that is in transport case already goes out as it is. If it passes as a value of the declared
type too, then what goes out is what was declared. Such values are put together of such values: the
items of an array, and the members of an object under the names of the fields.
-/

set_option autoImplicit false

namespace CommandBridge.Json

open Conformance KeyCase

variable {table : Definitions} {t : Descriptor} {v : Json}

structure Fits (table : Definitions) (t : Descriptor) (v : Json) : Prop where
  fixed : v.toTransportCase = v
  passes : check table t v = .ok ()

theorem Fits.validate (h : Fits table t v) (path : String) :
    validate table path t v.toTransportCase = .ok () := by
  rw [h.fixed]
  exact validate_eq_ok.mpr h.passes

theorem fits_string (s : String) : Fits table .string (.string s) :=
  ⟨rfl, check_primitive_eq_ok.mpr rfl⟩

theorem fits_bool (b : Bool) : Fits table .boolean (.bool b) :=
  ⟨rfl, check_primitive_eq_ok.mpr rfl⟩

theorem fits_float (x : Binary64) : Fits table .float (.number (.float x)) :=
  ⟨rfl, check_primitive_eq_ok.mpr rfl⟩

/-- Only an integer of the range that JSON keeps exact is written as one. -/
theorem fits_int {n : Int} (inRange : IntRange n) : Fits table .integer (.int n) := by
  have exact : Json.int n = .number (.int n inRange) := by rw [int, Number.ofInt, dif_pos inRange]
  rw [exact]
  exact ⟨rfl, check_primitive_eq_ok.mpr rfl⟩

theorem fits_int64 (n : Int64) : Fits table .integer (.int n.toInt) :=
  fits_int ⟨n.le_toInt, n.toInt_lt.trans (by decide)⟩

theorem fits_uint64 (n : UInt64) : Fits table .integer (.nat n.toNat) :=
  fits_int ⟨by omega, Int.ofNat_lt.mpr n.toNat_lt⟩

theorem fits_uint32 (n : UInt32) : Fits table .integer (.nat n.toNat) :=
  fits_int ⟨by omega, Int.ofNat_lt.mpr (n.toNat_lt.trans (by decide))⟩

theorem fits_enum {shape : EnumShape} {s : String} (listed : s ∈ shape.variants) :
    Fits table (.enum shape) (.string s) where
  fixed := rfl
  passes := by
    rw [check, checkEnum, if_pos (List.contains_iff_mem.mpr listed)]

theorem fits_null : Fits table (.optional t) .null :=
  ⟨rfl, check_optional_eq_ok.mpr (.inl rfl)⟩

theorem Fits.optional (h : Fits table t v) : Fits table (.optional t) v :=
  ⟨h.fixed, check_optional_eq_ok.mpr (.inr h.passes)⟩

theorem fits_sequence {items : List Json} (each : ∀ v ∈ items, Fits table t v) :
    Fits table (.sequence t) (.array items) where
  fixed := toTransportCase_array_eq_self fun v there => (each v there).fixed
  passes := check_sequence_eq_ok.mpr fun v there => (each v there).passes

theorem Fits.reference {name : String} {shape : RecordShape}
    (found : table.get? name = some (.record shape)) (h : Fits table shape.descriptor v) :
    Fits table (.reference name) v :=
  ⟨h.fixed, (check_reference_eq_ok found).mpr h.passes⟩

/-- The members are what is written for the fields: a value that fits under the name of each, save
for some that may be absent. -/
inductive Writes (table : Definitions) : List Field → List (String × Json) → Prop where
  | nil : Writes table [] []
  | member {f : Field} {fields : List Field} {v : Json} {members : List (String × Json)}
      (fits : Fits table f.type v) (rest : Writes table fields members) :
      Writes table (f :: fields) ((f.name, v) :: members)
  | absent {f : Field} {fields : List Field} {members : List (String × Json)}
      (mayBe : f.mayBeAbsent = true) (rest : Writes table fields members) :
      Writes table (f :: fields) members

section Writes

variable {fields : List Field} {members : List (String × Json)}

theorem Writes.field_of_mem (h : Writes table fields members) {m : String × Json}
    (there : m ∈ members) : ∃ f ∈ fields, f.name = m.1 ∧ Fits table f.type m.2 := by
  induction h with
  | nil => cases there
  | member fits rest ih =>
    rcases List.mem_cons.mp there with rfl | later
    · exact ⟨_, List.mem_cons_self, rfl, fits⟩
    · exact (ih later).imp fun f h => ⟨List.mem_cons_of_mem _ h.1, h.2⟩
  | absent mayBe rest ih => exact (ih there).imp fun f h => ⟨List.mem_cons_of_mem _ h.1, h.2⟩

theorem Writes.present_or_absent (h : Writes table fields members) {f : Field} (hf : f ∈ fields) :
    f.name ∈ Keyed.keys members ∨ f.mayBeAbsent = true := by
  induction h with
  | nil => cases hf
  | member fits rest ih =>
    rcases List.mem_cons.mp hf with rfl | later
    · exact .inl List.mem_cons_self
    · exact (ih later).imp_left (List.mem_cons_of_mem _)
  | absent mayBe rest ih =>
    rcases List.mem_cons.mp hf with rfl | later
    · exact .inr mayBe
    · exact ih later

end Writes

/-- What is written for the fields of a record, in whatever order, is of the record. -/
theorem fits_record (shape : RecordShape) {members : List (String × Json)}
    (distinct : (shape.fields.map FieldOf.name).Nodup)
    (transport : ∀ name ∈ shape.fields.map FieldOf.name, IsTransport name)
    (written : Writes table shape.fields members) :
    Fits table shape.descriptor (ofMembers members) where
  fixed := by
    apply toTransportCase_ofMembers
    · intro m there
      obtain ⟨f, hf, same, -⟩ := written.field_of_mem there
      exact same ▸ transport _ (List.mem_map.mpr ⟨f, hf, rfl⟩)
    · intro m there
      obtain ⟨f, -, -, fits⟩ := written.field_of_mem there
      exact fits.fixed
  passes := by
    refine check_record_eq_ok.mpr ⟨_, rfl, List.forall_mem_map.mpr fun f hf => ?_⟩
    unfold Slot.Admits FieldOf.slot
    dsimp only
    split
    · next found =>
      rw [Keyed.lookup_eq_none_iff, Keyed.mem_keys_sort] at found
      exact (written.present_or_absent hf).resolve_left found
    · next v found =>
      obtain ⟨g, hg, same, fits⟩ :=
        written.field_of_mem (Keyed.mem_of_mem_sort (Keyed.mem_of_lookup found))
      cases List.inj_on_of_nodup_map distinct hg hf same
      exact fits.passes

end CommandBridge.Json
