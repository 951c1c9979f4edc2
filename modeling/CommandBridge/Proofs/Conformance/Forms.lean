import CommandBridge.Conformance.Check
import Mathlib.Data.List.Zip
import Mathlib.Tactic.Common

/-!
# Checking the parts of a value in turn

The parts of an array or of an object are checked one after the other, and the first that fails
decides. So a sequence passes when its items do, a mapping when its keys and its values do, a tuple
when its items pass one by one and a record when its declared fields do. What a check of the whole
answers otherwise is the failure of a part, seen from one step further out.
-/

set_option autoImplicit false

namespace CommandBridge.Conformance

variable {table : Definitions}

theorem within_eq_ok {step : PathStep} {result : Except Rejection Unit} :
    within step result = .ok () ↔ result = .ok () := by
  cases result with
  | ok u => exact Iff.rfl
  | error r => exact ⟨nofun, nofun⟩

theorem within_eq_error {step : PathStep} {result : Except Rejection Unit} {r : Rejection} :
    within step result = .error r ↔ ∃ inner, result = .error inner ∧ r = inner.under step := by
  cases result with
  | ok u => simp [within]
  | error inner => simp [within, eq_comm]

def firstFailure : List (Except Rejection Unit) → Except Rejection Unit
  | [] => .ok ()
  | .ok () :: rest => firstFailure rest
  | failed :: _ => failed

theorem firstFailure_eq_ok {results : List (Except Rejection Unit)} :
    firstFailure results = .ok () ↔ ∀ result ∈ results, result = .ok () := by
  induction results with
  | nil => exact ⟨fun _ => nofun, fun _ => rfl⟩
  | cons result rest ih =>
    rw [List.forall_mem_cons, ← ih]
    cases result with
    | ok u => exact ⟨fun h => ⟨rfl, h⟩, And.right⟩
    | error r => exact ⟨nofun, fun h => nomatch h.1⟩

theorem mem_of_firstFailure_eq_error {results : List (Except Rejection Unit)} {r : Rejection}
    (h : firstFailure results = .error r) : .error r ∈ results := by
  induction results with
  | nil => cases h
  | cons result rest ih =>
    cases result with
    | ok u => exact List.mem_cons_of_mem _ (ih h)
    | error r =>
      cases h
      exact List.mem_cons_self

theorem checkItems_eq_firstFailure (t : Descriptor) (index : Nat) (items : List Json) :
    checkItems table t index items =
      firstFailure ((items.zipIdx index).map fun p => within (.item p.2) (check table t p.1)) := by
  induction items generalizing index with
  | nil =>
    rw [checkItems]
    rfl
  | cons v rest ih =>
    rw [checkItems, ih, List.zipIdx_cons, List.map_cons]
    cases within (.item index) (check table t v) <;> rfl

theorem checkTuple_eq_firstFailure (index : Nat) (ts : List Descriptor) (items : List Json) :
    checkTuple table index ts items =
      firstFailure (((ts.zip items).zipIdx index).map fun p =>
        within (.item p.2) (check table p.1.1 p.1.2)) := by
  induction ts generalizing index items with
  | nil =>
    rw [checkTuple]
    · rfl
    · simp
  | cons t ts ih =>
    cases items with
    | nil =>
      rw [checkTuple]
      · rfl
      · simp
    | cons v rest =>
      rw [checkTuple, ih, List.zip_cons_cons, List.zipIdx_cons, List.map_cons]
      cases within (.item index) (check table t v) <;> rfl

def checkEntry (table : Definitions) (integerKeys : Bool) (t : Descriptor) (m : String × Json) :
    Except Rejection Unit :=
  if integerKeys && !isIntegerKey m.1 then .error (.offence [.entry m.1] .integerKey)
  else within (.entry m.1) (check table t m.2)

theorem checkEntries_eq_firstFailure (integerKeys : Bool) (t : Descriptor)
    (members : List (String × Json)) :
    checkEntries table integerKeys t members =
      firstFailure (members.map (checkEntry table integerKeys t)) := by
  induction members with
  | nil =>
    rw [checkEntries]
    rfl
  | cons m rest ih =>
    rw [checkEntries, ih, List.map_cons, checkEntry]
    split
    · rfl
    · cases within (.entry m.1) (check table t m.2) <;> rfl

theorem checkEntry_eq_ok {integerKeys : Bool} {t : Descriptor} {m : String × Json} :
    checkEntry table integerKeys t m = .ok () ↔
      (integerKeys = true → isIntegerKey m.1 = true) ∧ check table t m.2 = .ok () := by
  unfold checkEntry
  by_cases wrong : (integerKeys && !isIntegerKey m.1) = true
  · obtain ⟨asked, other⟩ : integerKeys = true ∧ isIntegerKey m.1 = false := by simpa using wrong
    simp [asked, other]
  · have right : integerKeys = true → isIntegerKey m.1 = true := by simpa using wrong
    rw [if_neg wrong, within_eq_ok]
    exact ⟨fun h => ⟨right, h⟩, And.right⟩

def checkField (table : Definitions) (members : List (String × Json)) (f : Field) :
    Except Rejection Unit :=
  match Keyed.lookup f.name members with
  | some v => within (.entry f.name) (check table f.type v)
  | none => if f.mayBeAbsent then .ok () else .error (.offence [.entry f.name] .missingField)

theorem checkFields_eq_firstFailure (fields : List Field) (members : List (String × Json)) :
    checkFields table fields members = firstFailure (fields.map (checkField table members)) := by
  induction fields with
  | nil =>
    rw [checkFields]
    rfl
  | cons f rest ih =>
    rw [checkFields, ih, List.map_cons, checkField]
    split
    · next v found =>
      simp only [found]
      cases within (.entry f.name) (check table f.type v) <;> rfl
    · next found =>
      simp only [found]
      cases f.mayBeAbsent <;> rfl

theorem checkField_eq_ok {members : List (String × Json)} {f : Field} :
    checkField table members f = .ok () ↔
      (∀ v, Keyed.lookup f.name members = some v → check table f.type v = .ok ()) ∧
        (Keyed.lookup f.name members = none → f.mayBeAbsent = true) := by
  unfold checkField
  cases found : Keyed.lookup f.name members with
  | none => simp
  | some v => simp [within_eq_ok]

/-- A reference is checked as the definition that it names. -/
theorem check_reference {name : String} {d : Definition} (found : table.get? name = some d)
    (v : Json) : check table (.reference name) v = check table d.descriptor v := by
  cases d with
  | record shape =>
    cases v <;> simp only [check, found, Definition.descriptor, RecordShape.descriptor]
  | enum shape => simp only [check, found, Definition.descriptor]

theorem check_primitive_eq_ok {p : Primitive} {v : Json} :
    check table (.primitive p) v = .ok () ↔ isPrimitive p v = true := by
  rw [check, checkPrimitive]
  by_cases right : isPrimitive p v = true
  · exact iff_of_true (if_pos right) right
  · simp [right, mismatch]

theorem forall_mem_zipIdx {α : Type} {P : α → Prop} {l : List α} {index : Nat} :
    (∀ p ∈ l.zipIdx index, P p.1) ↔ ∀ a ∈ l, P a := by
  rw [← List.forall_mem_map (f := Prod.fst), List.zipIdx_map_fst]

theorem check_sequence_eq_ok {t : Descriptor} {items : List Json} :
    check table (.sequence t) (.array items) = .ok () ↔ ∀ v ∈ items, check table t v = .ok () := by
  rw [check, checkItems_eq_firstFailure, firstFailure_eq_ok]
  simp only [List.forall_mem_map, within_eq_ok]
  exact forall_mem_zipIdx (P := fun v => check table t v = .ok ())

theorem check_mapping_eq_ok {k t : Descriptor} {members : List (String × Json)} :
    check table (.mapping k t) (.object members) = .ok () ↔ ∀ m ∈ members,
      (k = .integer → isIntegerKey m.1 = true) ∧ check table t m.2 = .ok () := by
  rw [check, checkEntries_eq_firstFailure, firstFailure_eq_ok]
  simp only [List.forall_mem_map, checkEntry_eq_ok, decide_eq_true_eq]

theorem check_tuple_eq_ok {ts : List Descriptor} {items : List Json}
    (length : items.length = ts.length) :
    check table (.tuple ts) (.array items) = .ok () ↔
      ∀ p ∈ ts.zip items, check table p.1 p.2 = .ok () := by
  rw [check, if_pos length, checkTuple_eq_firstFailure, firstFailure_eq_ok]
  simp only [List.forall_mem_map, within_eq_ok]
  exact forall_mem_zipIdx (P := fun p : Descriptor × Json => check table p.1 p.2 = .ok ())

theorem check_fields_eq_ok {name : String} {doc : Option String} {fields : List Field}
    {members : List (String × Json)} :
    check table (.record name doc fields) (.object members) = .ok () ↔
      ∀ f ∈ fields, checkField table members f = .ok () := by
  rw [check, checkFields_eq_firstFailure, firstFailure_eq_ok, List.forall_mem_map]

theorem acceptsAny_iff {ts : List Descriptor} {v : Json} :
    acceptsAny table ts v = true ↔ ∃ t ∈ ts, check table t v = .ok () := by
  induction ts with
  | nil => simp [acceptsAny]
  | cons t rest ih =>
    rw [acceptsAny]
    cases checked : check table t v <;> simp [ih, checked]

theorem check_union_eq_ok {ts : List Descriptor} {v : Json} :
    check table (.union ts) v = .ok () ↔ ∃ t ∈ ts, check table t v = .ok () := by
  rw [check, ← acceptsAny_iff]
  cases acceptsAny table ts v <;> simp

theorem check_enum_eq_ok {shape : EnumShape} {v : Json} :
    check table (.enum shape) v = .ok () ↔ ∃ s ∈ shape.variants, v = .string s := by
  cases v with
  | string s => simp [check, checkEnum]
  | _ => simp [check, checkEnum, mismatch]

theorem check_optional_eq_ok {t : Descriptor} {v : Json} :
    check table (.optional t) v = .ok () ↔ v = .null ∨ check table t v = .ok () := by
  cases v <;> simp [check]

def FailsOnlyWith (what : Offence) (result : Except Rejection Unit) : Prop :=
  ∀ r, result = .error r → ∃ steps, r = .offence steps what

variable {what : Offence}

theorem failsOnlyWith_ok : FailsOnlyWith what (.ok ()) := nofun

theorem FailsOnlyWith.within {result : Except Rejection Unit} (h : FailsOnlyWith what result)
    (step : PathStep) : FailsOnlyWith what (within step result) := by
  intro r failed
  obtain ⟨inner, stopped, rfl⟩ := within_eq_error.mp failed
  obtain ⟨steps, rfl⟩ := h inner stopped
  exact ⟨step :: steps, rfl⟩

theorem failsOnlyWith_of_eq_ok {result : Except Rejection Unit} (h : result = .ok ()) :
    FailsOnlyWith what result := h ▸ failsOnlyWith_ok

theorem failsOnlyWith_firstFailure {results : List (Except Rejection Unit)}
    (each : ∀ result ∈ results, FailsOnlyWith what result) :
    FailsOnlyWith what (firstFailure results) :=
  fun r failed => each _ (mem_of_firstFailure_eq_error failed) r rfl

theorem failsOnlyWith_sequence {t : Descriptor} {items : List Json}
    (each : ∀ v ∈ items, FailsOnlyWith what (check table t v)) :
    FailsOnlyWith what (check table (.sequence t) (.array items)) := by
  rw [check, checkItems_eq_firstFailure]
  apply failsOnlyWith_firstFailure
  rw [List.forall_mem_map]
  exact fun p there => (each p.1 (List.fst_mem_of_mem_zipIdx there)).within _

theorem failsOnlyWith_mapping {k t : Descriptor} {members : List (String × Json)}
    (each : ∀ m ∈ members, FailsOnlyWith .integerKey (check table t m.2)) :
    FailsOnlyWith .integerKey (check table (.mapping k t) (.object members)) := by
  rw [check, checkEntries_eq_firstFailure]
  apply failsOnlyWith_firstFailure
  rw [List.forall_mem_map]
  intro m there
  unfold checkEntry
  split
  · rintro r ⟨⟩
    exact ⟨_, rfl⟩
  · exact (each m there).within _

theorem failsOnlyWith_tuple {ts : List Descriptor} {items : List Json}
    (length : items.length = ts.length)
    (each : ∀ p ∈ ts.zip items, FailsOnlyWith what (check table p.1 p.2)) :
    FailsOnlyWith what (check table (.tuple ts) (.array items)) := by
  rw [check, if_pos length, checkTuple_eq_firstFailure]
  apply failsOnlyWith_firstFailure
  rw [List.forall_mem_map]
  exact fun p there => (each p.1 (List.fst_mem_of_mem_zipIdx there)).within _

theorem failsOnlyWith_optional {t : Descriptor} {v : Json}
    (h : FailsOnlyWith what (check table t v)) :
    FailsOnlyWith what (check table (.optional t) v) := by
  cases v with
  | null =>
    rw [check]
    exact failsOnlyWith_ok
  | _ => simpa only [check] using h

end CommandBridge.Conformance
