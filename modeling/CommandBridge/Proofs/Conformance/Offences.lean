import CommandBridge.Proofs.Conformance.Exactness
import CommandBridge.Proofs.Schema.References

/-!
# Where a refused value offends

A check that fails tells the first offence. The steps in its answer lead from the value to a place
where the value itself is wrong, or where a field or an integer key should stand. All that a check
looks at before it comes there conforms: earlier items, fields declared earlier and smaller keys.
-/

set_option autoImplicit false

namespace CommandBridge

variable {table : Definitions} {t : Descriptor} {v : Json} {steps : List PathStep} {what : Offence}

inductive Offends (table : Definitions) : Descriptor → Json → Offence → Prop where
  | primitive {p : Primitive} {v : Json} (other : ¬p.Takes v) :
    Offends table (.primitive p) v (.kind p.name v.kind)
  | sequence {t : Descriptor} {v : Json} (other : ∀ items, v ≠ .array items) :
    Offends table (.sequence t) v (.kind "array" v.kind)
  | mapping {k t : Descriptor} {v : Json} (other : ∀ members, v ≠ .object members) :
    Offends table (.mapping k t) v (.kind "object" v.kind)
  | tuple {ts : List Descriptor} {v : Json} (other : ∀ items, v ≠ .array items) :
    Offends table (.tuple ts) v (.kind "array" v.kind)
  | length {ts : List Descriptor} {items : List Json} (other : items.length ≠ ts.length) :
    Offends table (.tuple ts) (.array items) (.length ts.length items.length)
  | record {name : String} {doc : Option String} {fields : List Field} {v : Json}
    (other : ∀ members, v ≠ .object members) :
    Offends table (.record name doc fields) v (.kind "object" v.kind)
  | enum {shape : EnumShape} {v : Json} (other : ∀ s, v ≠ .string s) :
    Offends table (.enum shape) v (.kind "string" v.kind)
  | variant {shape : EnumShape} {s : String} (other : s ∉ shape.variants) :
    Offends table (.enum shape) (.string s) (.variant s shape.name)
  | union {ts : List Descriptor} {v : Json} (other : ∀ t ∈ ts, ¬Conforms table t v) :
    Offends table (.union ts) v .noMember
  | stream {t : Descriptor} {v : Json} : Offends table (.stream t) v .streamValue

def EntryConforms (table : Definitions) (k t : Descriptor) (m : String × Json) : Prop :=
  (k = .integer → IsInt64Key m.1) ∧ Conforms table t m.2

def FieldConforms (table : Definitions) (members : List (String × Json)) (f : Field) : Prop :=
  (∀ v, Keyed.lookup f.name members = some v → Conforms table f.type v) ∧
    (Keyed.lookup f.name members = none → f.mayBeAbsent = true)

/-- The steps lead from the value to an offence, and all before it conforms. -/
inductive FirstOffence (table : Definitions) :
    Descriptor → Json → List PathStep → Offence → Prop where
  | here {t : Descriptor} {v : Json} {what : Offence} (h : Offends table t v what) :
    FirstOffence table t v [] what
  | optional {t : Descriptor} {v : Json} {steps : List PathStep} {what : Offence}
    (given : v ≠ .null) (h : FirstOffence table t v steps what) :
    FirstOffence table (.optional t) v steps what
  | reference {name : String} {d : Definition} {v : Json} {steps : List PathStep} {what : Offence}
    (found : table.get? name = some d) (h : FirstOffence table d.descriptor v steps what) :
    FirstOffence table (.reference name) v steps what
  | item {t : Descriptor} {items : List Json} {i : Nat} {v : Json} {steps : List PathStep}
    {what : Offence} (value : items[i]? = some v)
    (before : ∀ j < i, ∀ u, items[j]? = some u → Conforms table t u)
    (h : FirstOffence table t v steps what) :
    FirstOffence table (.sequence t) (.array items) (.item i :: steps) what
  | position {ts : List Descriptor} {items : List Json} {i : Nat} {t : Descriptor} {v : Json}
    {steps : List PathStep} {what : Offence} (length : items.length = ts.length)
    (type : ts[i]? = some t) (value : items[i]? = some v)
    (before : ∀ j < i, ∀ t v, ts[j]? = some t → items[j]? = some v → Conforms table t v)
    (h : FirstOffence table t v steps what) :
    FirstOffence table (.tuple ts) (.array items) (.item i :: steps) what
  | key {k t : Descriptor} {members : List (String × Json)} {m : String × Json}
    (there : m ∈ members)
    (before : ∀ n ∈ members, n.1 < m.1 → EntryConforms table k t n)
    (integer : k = .integer) (other : ¬IsInt64Key m.1) :
    FirstOffence table (.mapping k t) (.object members) [.entry m.1] .integerKey
  | entry {k t : Descriptor} {members : List (String × Json)} {m : String × Json}
    {steps : List PathStep} {what : Offence} (there : m ∈ members)
    (before : ∀ n ∈ members, n.1 < m.1 → EntryConforms table k t n)
    (key : k = .integer → IsInt64Key m.1) (h : FirstOffence table t m.2 steps what) :
    FirstOffence table (.mapping k t) (.object members) (.entry m.1 :: steps) what
  | missing {name : String} {doc : Option String} {fields : List Field}
    {members : List (String × Json)} {i : Nat} {f : Field} (declared : fields[i]? = some f)
    (before : ∀ j < i, ∀ g, fields[j]? = some g → FieldConforms table members g)
    (absent : Keyed.lookup f.name members = none) (required : f.mayBeAbsent = false) :
    FirstOffence table (.record name doc fields) (.object members) [.entry f.name] .missingField
  | field {name : String} {doc : Option String} {fields : List Field}
    {members : List (String × Json)} {i : Nat} {f : Field} {v : Json} {steps : List PathStep}
    {what : Offence} (declared : fields[i]? = some f)
    (before : ∀ j < i, ∀ g, fields[j]? = some g → FieldConforms table members g)
    (given : Keyed.lookup f.name members = some v) (h : FirstOffence table f.type v steps what) :
    FirstOffence table (.record name doc fields) (.object members) (.entry f.name :: steps) what

namespace Conformance

/-- A check of several parts in turn fails as the first part that fails. -/
theorem firstFailure_map_eq_error {α : Type} {f : α → Except Rejection Unit} {parts : List α}
    {r : Rejection} :
    firstFailure (parts.map f) = .error r ↔ ∃ (i : Nat) (a : α), parts[i]? = some a ∧
      f a = .error r ∧ ∀ j < i, ∀ b, parts[j]? = some b → f b = .ok () := by
  induction parts with
  | nil => simp [firstFailure]
  | cons a rest ih =>
    rw [List.map_cons]
    cases checked : f a with
    | error first =>
      constructor
      · rintro ⟨⟩
        exact ⟨0, a, rfl, checked, nofun⟩
      · rintro ⟨i, b, found, failed, before⟩
        cases i with
        | zero =>
          cases found
          exact checked.symm.trans failed
        | succ i => cases checked.symm.trans (before 0 (Nat.succ_pos i) a rfl)
    | ok u =>
      rw [firstFailure, ih]
      constructor
      · rintro ⟨i, b, found, failed, before⟩
        refine ⟨i + 1, b, found, failed, fun j below c there => ?_⟩
        cases j with
        | zero =>
          cases there
          exact checked
        | succ j => exact before j (Nat.lt_of_succ_lt_succ below) c there
      · rintro ⟨i, b, found, failed, before⟩
        cases i with
        | zero =>
          cases found
          cases checked.symm.trans failed
        | succ i =>
          exact ⟨i, b, found, failed, fun j below => before (j + 1) (Nat.succ_lt_succ below)⟩

/-- An offence in a part is told with the step to the part before its own steps. -/
theorem within_eq_offence {step : PathStep} {result : Except Rejection Unit} :
    within step result = .error (.offence steps what) ↔
      ∃ rest, result = .error (.offence rest what) ∧ steps = step :: rest := by
  rw [within_eq_error]
  constructor
  · rintro ⟨inner, failed, same⟩
    cases inner with
    | offence rest w =>
      cases same
      exact ⟨rest, failed, rfl⟩
    | undefinedType name => cases same
  · rintro ⟨rest, failed, rfl⟩
    exact ⟨_, failed, rfl⟩

/-- An offence in a list is told with the index of the first item that fails. -/
theorem firstFailure_items_eq_offence {α : Type} {f : α → Except Rejection Unit} {parts : List α} :
    firstFailure (parts.zipIdx.map fun p => within (.item p.2) (f p.1)) =
        .error (.offence steps what) ↔
      ∃ (i : Nat) (a : α) (rest : List PathStep), parts[i]? = some a ∧ steps = .item i :: rest ∧
        f a = .error (.offence rest what) ∧ ∀ j < i, ∀ b, parts[j]? = some b → f b = .ok () := by
  have placed {i : Nat} {p : α × Nat} :
      parts.zipIdx[i]? = some p ↔ parts[i]? = some p.1 ∧ p.2 = i := by
    simp [List.getElem?_zipIdx, Prod.ext_iff, eq_comm]
  rw [firstFailure_map_eq_error]
  simp only [placed, within_eq_offence, within_eq_ok]
  constructor
  · rintro ⟨i, ⟨a, _⟩, ⟨found, rfl⟩, ⟨rest, failed, rfl⟩, earlier⟩
    refine ⟨_, a, rest, found, rfl, failed, ?_⟩
    exact fun j below b there => earlier j below (b, j) ⟨there, rfl⟩
  · rintro ⟨i, a, rest, found, rfl, failed, earlier⟩
    refine ⟨i, (a, i), ⟨found, rfl⟩, ⟨rest, failed, rfl⟩, ?_⟩
    exact fun j below p there => earlier j below p.1 there.1

theorem forall_before_iff {members : List (String × Json)} (sorted : Keyed.Sorted members) {i : Nat}
    {m : String × Json} (found : members[i]? = some m) {P : String × Json → Prop} :
    (∀ j < i, ∀ n, members[j]? = some n → P n) ↔ ∀ n ∈ members, n.1 < m.1 → P n := by
  constructor
  · intro h n there smaller
    obtain ⟨j, placed⟩ := List.mem_iff_getElem?.mp there
    exact h j ((sorted.index_lt_iff placed found).mpr smaller) n placed
  · intro h j below n placed
    exact h n (List.mem_of_getElem? placed) ((sorted.index_lt_iff placed found).mp below)

theorem offends_of_mismatch {expected : String}
    (h : mismatch expected v = .error (.offence steps what))
    (offends : Offends table t v (.kind expected v.kind)) : FirstOffence table t v steps what := by
  cases h
  exact .here offends

theorem checkField_eq_ok_iff {members : List (String × Json)} {f : Field} :
    checkField table members f = .ok () ↔ FieldConforms table members f := by
  simp only [checkField_eq_ok, check_eq_ok_iff, FieldConforms]

theorem checkEntry_eq_ok_iff {k : Descriptor} {m : String × Json} :
    checkEntry table (decide (k = .integer)) t m = .ok () ↔ EntryConforms table k t m := by
  simp only [checkEntry_eq_ok, check_eq_ok_iff, isIntegerKey_iff, decide_eq_true_eq, EntryConforms]

theorem wrongKey_iff {k : Descriptor} {key : String} :
    (decide (k = .integer) && !isIntegerKey key) = true ↔ k = .integer ∧ ¬IsInt64Key key := by
  rw [Bool.and_eq_true, decide_eq_true_eq, Bool.not_eq_true', ← Bool.not_eq_true, isIntegerKey_iff]

theorem firstOffence_enum {shape : EnumShape}
    (h : check table (.enum shape) v = .error (.offence steps what)) :
    FirstOffence table (.enum shape) v steps what := by
  cases v with
  | string s =>
    rw [check, checkEnum] at h
    split at h
    · cases h
    · next other =>
      cases h
      exact .here (.variant fun listed => other (List.contains_iff_mem.mpr listed))
  | _ =>
    simp only [check, checkEnum] at h
    exact offends_of_mismatch h (.enum (by rintro _ ⟨⟩))

theorem firstOffence_record {name : String} {doc : Option String} {fields : List Field}
    (inside : ∀ u ∈ v.parts, ∀ t steps, check table t u = .error (.offence steps what) →
      FirstOffence table t u steps what)
    (h : check table (.record name doc fields) v = .error (.offence steps what)) :
    FirstOffence table (.record name doc fields) v steps what := by
  cases v with
  | object members =>
    rw [check, checkFields_eq_firstFailure, firstFailure_map_eq_error] at h
    obtain ⟨i, f, declared, failed, earlier⟩ := h
    simp only [checkField_eq_ok_iff] at earlier
    unfold checkField at failed
    split at failed
    · next u found =>
      obtain ⟨rest, refused, rfl⟩ := within_eq_offence.mp failed
      exact .field declared earlier found (inside u (Json.found_mem_parts found) _ _ refused)
    · next absent =>
      split at failed
      · cases failed
      · next required =>
        cases failed
        exact .missing declared earlier absent (Bool.eq_false_iff.mpr required)
  | _ =>
    simp only [check] at h
    exact offends_of_mismatch h (.record (by rintro _ ⟨⟩))

theorem firstOffence_of_check (t : Descriptor) (v : Json) (canonical : v.Canonical) :
    ∀ {steps what}, check table t v = .error (.offence steps what) →
      FirstOffence table t v steps what := by
  induction t, v using check_induction with
  | step t v inside below =>
    intro steps what h
    have inside {u : Json} (part : u ∈ v.parts) {t : Descriptor} {steps : List PathStep}
        (h : check table t u = .error (.offence steps what)) : FirstOffence table t u steps what :=
      inside u part t (canonical.part part) h
    cases t with
    | primitive p =>
      rw [check, checkPrimitive] at h
      split at h
      · cases h
      · next other =>
        exact offends_of_mismatch h (.primitive fun takes => other (isPrimitive_iff.mpr takes))
    | optional t =>
      cases v with
      | null => simp [check] at h
      | _ =>
        simp only [check] at h
        exact .optional (by rintro ⟨⟩) (below t List.mem_cons_self canonical h)
    | sequence t =>
      cases v with
      | array items =>
        rw [check, checkItems_eq_firstFailure, firstFailure_items_eq_offence] at h
        obtain ⟨i, u, rest, found, rfl, failed, earlier⟩ := h
        simp only [check_eq_ok_iff] at earlier
        exact .item found earlier (inside (List.mem_of_getElem? found) failed)
      | _ =>
        simp only [check] at h
        exact offends_of_mismatch h (.sequence (by rintro _ ⟨⟩))
    | mapping k t =>
      cases v with
      | object members =>
        rw [check, checkEntries_eq_firstFailure, firstFailure_map_eq_error] at h
        obtain ⟨i, m, found, failed, earlier⟩ := h
        have there := List.mem_of_getElem? found
        simp only [checkEntry_eq_ok_iff] at earlier
        rw [forall_before_iff canonical.1 found] at earlier
        unfold checkEntry at failed
        split at failed
        · next wrong =>
          cases failed
          obtain ⟨integer, other⟩ := wrongKey_iff.mp wrong
          exact .key there earlier integer other
        · next right =>
          obtain ⟨rest, refused, rfl⟩ := within_eq_offence.mp failed
          have key (integer : k = .integer) : IsInt64Key m.1 := by
            by_contra other
            exact right (wrongKey_iff.mpr ⟨integer, other⟩)
          exact .entry there earlier key (inside (Json.member_mem_parts there) refused)
      | _ =>
        simp only [check] at h
        exact offends_of_mismatch h (.mapping (by rintro _ ⟨⟩))
    | tuple ts =>
      cases v with
      | array items =>
        rw [check] at h
        split at h
        · next length =>
          rw [checkTuple_eq_firstFailure, firstFailure_items_eq_offence
            (f := fun p : Descriptor × Json => check table p.1 p.2)] at h
          obtain ⟨i, ⟨t, u⟩, rest, found, rfl, failed, earlier⟩ := h
          obtain ⟨type, value⟩ := List.getElem?_zip_eq_some.mp found
          refine .position length type value ?_ (inside (List.mem_of_getElem? value) failed)
          intro j before t u type value
          have passed := earlier j before (t, u) (List.getElem?_zip_eq_some.mpr ⟨type, value⟩)
          exact (check_eq_ok_iff t u).mp passed
        · next other =>
          cases h
          exact .here (.length other)
      | _ =>
        simp only [check] at h
        exact offends_of_mismatch h (.tuple (by rintro _ ⟨⟩))
    | record name doc fields => exact firstOffence_record (fun u part t steps => inside part) h
    | enum shape => exact firstOffence_enum h
    | union ts =>
      rw [check] at h
      split at h
      · cases h
      · next none =>
        cases h
        refine .here (.union fun t mem conforms => none (acceptsAny_iff.mpr ⟨t, mem, ?_⟩))
        exact (check_eq_ok_iff t v).mpr conforms
    | reference name =>
      cases found : table.get? name with
      | none => simp [check, found] at h
      | some d =>
        rw [check_reference found] at h
        apply FirstOffence.reference found
        cases d with
        | record shape => exact firstOffence_record (fun u part t steps => inside part) h
        | enum shape => exact firstOffence_enum h
    | stream t =>
      rw [check] at h
      cases h
      exact .here .stream

theorem check_of_offends (h : Offends table t v what) :
    check table t v = .error (.offence [] what) := by
  cases h with
  | @primitive p v other =>
    rw [check, checkPrimitive, if_neg fun takes => other (isPrimitive_iff.mp takes)]
    rfl
  | sequence other | tuple other =>
    cases v with
    | array => exact absurd rfl (other _)
    | _ => simp only [check, mismatch]
  | mapping other | record other =>
    cases v with
    | object => exact absurd rfl (other _)
    | _ => simp only [check, mismatch]
  | enum other =>
    cases v with
    | string => exact absurd rfl (other _)
    | _ => simp only [check, checkEnum, mismatch]
  | length other => rw [check, if_neg other]
  | variant other => simp [check, checkEnum, other]
  | union other =>
    rw [check, if_neg]
    rw [acceptsAny_iff]
    rintro ⟨t, mem, passed⟩
    exact other t mem ((check_eq_ok_iff t v).mp passed)
  | stream => rw [check]

theorem check_of_firstOffence (canonical : v.Canonical) (h : FirstOffence table t v steps what) :
    check table t v = .error (.offence steps what) := by
  induction h with
  | here h => exact check_of_offends h
  | @optional t v steps what given h ih =>
    cases v with
    | null => exact absurd rfl given
    | _ =>
      simp only [check]
      exact ih canonical
  | reference found h ih =>
    rw [check_reference found]
    exact ih canonical
  | item value before h ih =>
    simp only [← check_eq_ok_iff] at before
    rw [check, checkItems_eq_firstFailure, firstFailure_items_eq_offence]
    exact ⟨_, _, _, value, rfl, ih (canonical.part (List.mem_of_getElem? value)), before⟩
  | position length type value before h ih =>
    rw [check, if_pos length, checkTuple_eq_firstFailure,
      firstFailure_items_eq_offence (f := fun p : Descriptor × Json => check table p.1 p.2)]
    refine ⟨_, (_, _), _, List.getElem?_zip_eq_some.mpr ⟨type, value⟩, rfl,
      ih (canonical.part (List.mem_of_getElem? value)), fun j below p there => ?_⟩
    obtain ⟨type, value⟩ := List.getElem?_zip_eq_some.mp there
    exact (check_eq_ok_iff p.1 p.2).mpr (before j below p.1 p.2 type value)
  | @key k t members m there before integer other =>
    obtain ⟨i, found⟩ := List.mem_iff_getElem?.mp there
    rw [check, checkEntries_eq_firstFailure, firstFailure_map_eq_error]
    refine ⟨i, m, found, ?_, ?_⟩
    · rw [checkEntry, if_pos (wrongKey_iff.mpr ⟨integer, other⟩)]
    · simp only [checkEntry_eq_ok_iff]
      exact (forall_before_iff canonical.1 found).mpr before
  | @entry k t members m steps what there before key h ih =>
    obtain ⟨i, found⟩ := List.mem_iff_getElem?.mp there
    rw [check, checkEntries_eq_firstFailure, firstFailure_map_eq_error]
    refine ⟨i, m, found, ?_, ?_⟩
    · rw [checkEntry, if_neg fun wrong => (wrongKey_iff.mp wrong).2 (key (wrongKey_iff.mp wrong).1),
        within_eq_offence]
      exact ⟨_, ih (canonical.part (Json.member_mem_parts there)), rfl⟩
    · simp only [checkEntry_eq_ok_iff]
      exact (forall_before_iff canonical.1 found).mpr before
  | missing declared before absent required =>
    simp only [← checkField_eq_ok_iff] at before
    rw [check, checkFields_eq_firstFailure, firstFailure_map_eq_error]
    refine ⟨_, _, declared, ?_, before⟩
    simp [checkField, absent, required]
  | field declared before given h ih =>
    simp only [← checkField_eq_ok_iff] at before
    rw [check, checkFields_eq_firstFailure, firstFailure_map_eq_error]
    refine ⟨_, _, declared, ?_, before⟩
    simp only [checkField, given]
    exact within_eq_offence.mpr ⟨_, ih (canonical.part (Json.found_mem_parts given)), rfl⟩

end Conformance

open Conformance

/-- Where all names are defined a value is refused exactly for its first offence, as an invalid
argument whose path is that of the value followed by the steps to the offence. -/
theorem first_offence_reported (closed : table.Closed) (resolves : table.Resolves t)
    (canonical : v.Canonical) (path : String) (e : BridgeError) :
    validate table path t v = .error e ↔ ∃ steps what, FirstOffence table t v steps what ∧
      e.code = .invalidArgument ∧
      e.details = some (.object [("path", .string (path ++ Rejection.stepsText steps))]) ∧
      e.message = "Invalid argument '" ++ (path ++ Rejection.stepsText steps) ++ "': " ++
        what.message := by
  constructor
  · intro refused
    have defined := defined_check closed t v (Definitions.unresolved?_eq_none.mpr resolves)
    unfold validate at refused
    split at refused
    · cases refused
    · next r told =>
      cases refused
      cases r with
      | undefinedType name => exact absurd told (defined name)
      | offence steps what =>
        exact ⟨steps, what, firstOffence_of_check t v canonical told, rfl, rfl, rfl⟩
  · rintro ⟨steps, what, first, code, details, message⟩
    rw [validate, check_of_firstOffence canonical first]
    cases e
    cases code
    cases details
    cases message
    rfl

def brokenNode : Json :=
  .object [("out", .array [.object [("weight", .int 1)],
    .object [("to", .bool true), ("weight", .string "heavy")]])]

theorem graph_closed : graph.Closed := by
  intro name shape found
  obtain ⟨entry, looked, same⟩ := Option.map_eq_some_iff.mp found
  have there := Keyed.mem_of_lookup looked
  simp only [graph, List.mem_cons, List.not_mem_nil, or_false, Prod.mk.injEq] at there
  rcases there with ⟨-, rfl⟩ | ⟨-, rfl⟩ <;> cases same <;> rfl

/-- Of two wrong fields the one declared first is told. -/
theorem heavy_edge_reported :
    graph.Closed ∧ graph.Resolves (.reference "Node") ∧ brokenNode.Canonical ∧
      validate graph "root" (.reference "Node") brokenNode =
        .error ⟨.invalidArgument,
          "Invalid argument 'root.out[1].weight': expected float, got string",
          some (.object [("path", .string "root.out[1].weight")])⟩ := by
  have resolves : graph.Resolves (.reference "Node") := Definitions.unresolved?_eq_none.mp rfl
  have canonical : brokenNode.Canonical := by
    have inOrder : "to" < "weight" := by decide
    exact ⟨trivial, ⟨⟨trivial, trivial, trivial⟩, ⟨⟨inOrder, trivial⟩, trivial, trivial, trivial⟩,
      trivial⟩, trivial⟩
  have weight : FirstOffence graph .float (.string "heavy") [] (.kind "float" "string") :=
    .here (.primitive nofun)
  have edge : FirstOffence graph (.reference "Edge")
      (.object [("to", .bool true), ("weight", .string "heavy")])
      [.entry "weight"] (.kind "float" "string") := by
    apply FirstOffence.reference (d := .record edgeShape) rfl
    exact .field (i := 0) (f := .required "weight" .float) rfl nofun rfl weight
  have edges : FirstOffence graph (.sequence (.reference "Edge"))
      (.array [.object [("weight", .int 1)],
        .object [("to", .bool true), ("weight", .string "heavy")]])
      [.item 1, .entry "weight"] (.kind "float" "string") := by
    refine .item (i := 1) rfl (fun j below u found => ?_) edge
    cases Nat.lt_one_iff.mp below
    cases found
    exact weighed_edge_conforms 1
  have node : FirstOffence graph (.reference "Node") brokenNode
      [.entry "out", .item 1, .entry "weight"] (.kind "float" "string") := by
    apply FirstOffence.reference (d := .record nodeShape) rfl
    exact .field (i := 0) (f := .required "out" (.sequence (.reference "Edge"))) rfl nofun rfl edges
  refine ⟨graph_closed, resolves, canonical, ?_⟩
  exact (first_offence_reported graph_closed resolves canonical "root" _).mpr
    ⟨_, _, node, rfl, by decide, by decide⟩

end CommandBridge
