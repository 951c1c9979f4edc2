import CommandBridge.Conformance.Relation
import CommandBridge.Proofs.Conformance.Forms
import CommandBridge.Proofs.Conformance.Slots
import CommandBridge.Proofs.Schema.Collection
import Mathlib.Tactic.Common

/-!
# A check accepts what conforms

A check accepts exactly the values that conform to the type. Names may lead in a circle, so the
induction is on the value first and on the type below it: a name is followed once, to a record or
an enum, and what a record asks of its members it asks of smaller values. A record or an enum of the
table may stand in a type or be referred to by its name, which makes no difference to any answer.
-/

set_option autoImplicit false

namespace CommandBridge

variable {table : Definitions}

section Spelling

variable {ds : List Char} {n : Int}

theorem IsDigits.head_isDigit {c : Char} (h : IsDigits (c :: ds)) : c.isDigit = true :=
  h.2 c List.mem_cons_self

theorem spellsInt_plus : SpellsInt ('+' :: ds) n ↔ IsDigits ds ∧ n = Nat.ofDigitChars 10 ds 0 := by
  constructor
  · intro h
    cases h with
    | unsigned h => exact absurd h.head_isDigit (by decide)
    | plus h => exact ⟨h, rfl⟩
  · rintro ⟨h, rfl⟩
    exact .plus h

theorem spellsInt_minus :
    SpellsInt ('-' :: ds) n ↔ IsDigits ds ∧ n = -Nat.ofDigitChars 10 ds 0 := by
  constructor
  · intro h
    cases h with
    | unsigned h => exact absurd h.head_isDigit (by decide)
    | minus h => exact ⟨h, rfl⟩
  · rintro ⟨h, rfl⟩
    exact .minus h

theorem spellsInt_unsigned (plus : ∀ rest, ds ≠ '+' :: rest) (minus : ∀ rest, ds ≠ '-' :: rest) :
    SpellsInt ds n ↔ IsDigits ds ∧ n = Nat.ofDigitChars 10 ds 0 := by
  constructor
  · intro h
    cases h with
    | unsigned h => exact ⟨h, rfl⟩
    | plus => exact absurd rfl (plus _)
    | minus => exact absurd rfl (minus _)
  · rintro ⟨h, rfl⟩
    exact .unsigned h

end Spelling

namespace Json

theorem member_mem_parts {members : List (String × Json)} {m : String × Json} (h : m ∈ members) :
    m.2 ∈ (object members).parts := List.mem_map.mpr ⟨m, h, rfl⟩

theorem found_mem_parts {members : List (String × Json)} {key : String} {v : Json}
    (h : Keyed.lookup key members = some v) : v ∈ (object members).parts :=
  member_mem_parts (Keyed.mem_of_lookup h)

end Json

namespace Conformance

theorem isPrimitive_iff {p : Primitive} {v : Json} : isPrimitive p v = true ↔ p.Takes v := by
  constructor
  · intro h
    unfold isPrimitive at h
    split at h
    · exact .string _
    · exact .bytes _
    · exact .integer _ _
    · exact .float _
    · exact .boolean _
    · exact .null
    · exact .unknown _
    · cases h
  · intro h
    cases h <;> rfl

theorem isIntegerKey_iff {key : String} : isIntegerKey key = true ↔ IsInt64Key key := by
  have value (ds : List Char) :
      ds.foldl (fun acc d => acc * 10 + (d.toNat - '0'.toNat)) 0 = Nat.ofDigitChars 10 ds 0 := by
    simp only [Nat.ofDigitChars_eq_foldl, Nat.mul_comm]
  have digits (ds : List Char) :
      (!ds.isEmpty && ds.all Char.isDigit) = true ↔ IsDigits ds := by simp [IsDigits]
  unfold isIntegerKey IsInt64Key
  split
  rename_i negative ds read
  rw [Bool.and_eq_true, digits, value, decide_eq_true_eq, Nat.pow_eq]
  split at read
  · next spelled =>
    cases read
    simp only [spelled, spellsInt_minus, and_assoc, exists_and_left, exists_eq_left]
    refine and_congr_right fun _ => ?_
    simp only [true_and]
    omega
  · next spelled =>
    cases read
    simp only [spelled, spellsInt_plus, and_assoc, exists_and_left, exists_eq_left]
    refine and_congr_right fun _ => ?_
    simp only [Bool.false_eq_true, false_and, or_false]
    omega
  · next minus plus =>
    cases read
    simp only [spellsInt_unsigned plus minus, and_assoc, exists_and_left, exists_eq_left]
    refine and_congr_right fun _ => ?_
    simp only [Bool.false_eq_true, false_and, or_false]
    omega

theorem forall_mem_zip {α β : Type} {P : α → β → Prop} {as : List α} {bs : List β} :
    (∀ p ∈ as.zip bs, P p.1 p.2) ↔
      ∀ (i : Nat) (a : α) (b : β), as[i]? = some a → bs[i]? = some b → P a b := by
  constructor
  · intro h i a b first second
    exact h (a, b) (List.mem_of_getElem? (List.getElem?_zip_eq_some.mpr ⟨first, second⟩))
  · intro h p there
    obtain ⟨i, found⟩ := List.mem_iff_getElem?.mp there
    obtain ⟨first, second⟩ := List.getElem?_zip_eq_some.mp found
    exact h i p.1 p.2 first second

/-- Induction on the parts of a value and, for one value, on the parts of the type. -/
theorem check_induction {P : Descriptor → Json → Prop}
    (step : ∀ t v, (∀ u ∈ v.parts, ∀ t, P t u) → (∀ c ∈ t.children, P c v) → P t v)
    (t : Descriptor) (v : Json) : P t v := by
  induction v using Json.part_induction generalizing t with
  | step v inside =>
    induction t using Descriptor.child_induction with
    | step t below => exact step t v inside below

theorem conforms_enum_iff {shape : EnumShape} {v : Json} :
    check table (.enum shape) v = .ok () ↔ Conforms table (.enum shape) v := by
  rw [check_enum_eq_ok]
  constructor
  · rintro ⟨s, listed, rfl⟩
    exact .enum listed
  · intro h
    cases h with
    | enum listed => exact ⟨_, listed, rfl⟩

theorem conforms_fields_iff {name : String} {doc : Option String} {fields : List Field} {v : Json}
    (inside : ∀ u ∈ v.parts, ∀ t, check table t u = .ok () ↔ Conforms table t u) :
    check table (.record name doc fields) v = .ok () ↔
      Conforms table (.record name doc fields) v := by
  cases v with
  | object members =>
    simp only [check_fields_eq_ok, checkField_eq_ok]
    constructor
    · intro h
      refine .record (fun f hf u found => ?_) fun f hf => (h f hf).2
      exact (inside u (Json.found_mem_parts found) f.type).mp ((h f hf).1 u found)
    · intro h f hf
      cases h with
      | record given left =>
        refine ⟨fun u found => ?_, left f hf⟩
        exact (inside u (Json.found_mem_parts found) f.type).mpr (given f hf u found)
  | _ => exact iff_of_false (by simp [check, mismatch]) (by rintro ⟨⟩)

/-- A check accepts exactly the values that conform to the type. -/
theorem check_eq_ok_iff (t : Descriptor) (v : Json) :
    check table t v = .ok () ↔ Conforms table t v := by
  induction t, v using check_induction with
  | step t v inside below =>
    cases t with
    | primitive p =>
      rw [check_primitive_eq_ok, isPrimitive_iff]
      exact ⟨.primitive, fun h => by cases h; assumption⟩
    | optional t =>
      rw [check_optional_eq_ok, below t List.mem_cons_self]
      constructor
      · rintro (rfl | h)
        · exact .absent
        · exact .present h
      · intro h
        cases h with
        | absent => exact .inl rfl
        | present h => exact .inr h
    | sequence t =>
      cases v with
      | array items =>
        rw [check_sequence_eq_ok, forall₂_congr fun u (part : u ∈ items) => inside u part t]
        exact ⟨.sequence, fun h => by cases h; assumption⟩
      | _ => exact iff_of_false (by simp [check, mismatch]) (by rintro ⟨⟩)
    | mapping k t =>
      cases v with
      | object members =>
        have value {m : String × Json} (there : m ∈ members) :=
          inside m.2 (Json.member_mem_parts there) t
        rw [check_mapping_eq_ok]
        constructor
        · intro h
          apply Conforms.mapping
          · exact fun integer m there => isIntegerKey_iff.mp ((h m there).1 integer)
          · exact fun m there => (value there).mp (h m there).2
        · intro h m there
          cases h with
          | mapping keys values =>
            exact ⟨fun integer => isIntegerKey_iff.mpr (keys integer m there),
              (value there).mpr (values m there)⟩
      | _ => exact iff_of_false (by simp [check, mismatch]) (by rintro ⟨⟩)
    | tuple ts =>
      cases v with
      | array items =>
        by_cases length : items.length = ts.length
        · rw [check_tuple_eq_ok length, forall_mem_zip (P := fun t v => check table t v = .ok ())]
          constructor
          · intro h
            apply Conforms.tuple length
            intro i t u type value
            exact (inside u (List.mem_of_getElem? value) t).mp (h i t u type value)
          · intro h i t u type value
            cases h with
            | tuple _ h =>
              exact (inside u (List.mem_of_getElem? value) t).mpr (h i t u type value)
        · refine iff_of_false (by simp [check, length]) fun h => ?_
          cases h with
          | tuple same => exact length same
      | _ => exact iff_of_false (by simp [check, mismatch]) (by rintro ⟨⟩)
    | record name doc fields => exact conforms_fields_iff inside
    | enum shape => exact conforms_enum_iff
    | union ts =>
      rw [check_union_eq_ok]
      constructor
      · rintro ⟨t, mem, h⟩
        exact .union mem ((below t mem).mp h)
      · intro h
        cases h with
        | union mem h => exact ⟨_, mem, (below _ mem).mpr h⟩
    | reference name =>
      cases found : table.get? name with
      | none =>
        refine iff_of_false (by simp [check, found]) fun h => ?_
        cases h with
        | reference defined => simp [found] at defined
      | some d =>
        have same : check table d.descriptor v = .ok () ↔ Conforms table d.descriptor v := by
          cases d with
          | record shape => exact conforms_fields_iff inside
          | enum shape => exact conforms_enum_iff
        rw [check_reference found, same]
        constructor
        · exact .reference found
        · intro h
          cases h with
          | reference defined h =>
            cases found.symm.trans defined
            exact h
    | stream t => exact iff_of_false (by simp [check]) (by rintro ⟨⟩)

end Conformance

/-- The second type is the first with one record or enum of the table, wherever it stands inline,
replaced by its name. -/
inductive Abridged (table : Definitions) : Descriptor → Descriptor → Prop where
  | named {d : Definition} (holds : table.Holds d) : Abridged table d.descriptor (.reference d.name)
  | optional {t u : Descriptor} (h : Abridged table t u) :
    Abridged table (.optional t) (.optional u)
  | sequence {t u : Descriptor} (h : Abridged table t u) :
    Abridged table (.sequence t) (.sequence u)
  | stream {t u : Descriptor} (h : Abridged table t u) : Abridged table (.stream t) (.stream u)
  | key {k l v : Descriptor} (h : Abridged table k l) : Abridged table (.mapping k v) (.mapping l v)
  | value {k t u : Descriptor} (h : Abridged table t u) :
    Abridged table (.mapping k t) (.mapping k u)
  | tuple {front back : List Descriptor} {t u : Descriptor} (h : Abridged table t u) :
    Abridged table (.tuple (front ++ t :: back)) (.tuple (front ++ u :: back))
  | union {front back : List Descriptor} {t u : Descriptor} (h : Abridged table t u) :
    Abridged table (.union (front ++ t :: back)) (.union (front ++ u :: back))
  | field {name : String} {doc : Option String} {front back : List Field} {f : Field}
    {u : Descriptor} (h : Abridged table f.type u) :
    Abridged table (.record name doc (front ++ f :: back))
      (.record name doc (front ++ { f with type := u } :: back))

namespace Abridged

variable {t u : Descriptor}

theorem anyNullable_append (front back : List Descriptor) :
    Descriptor.anyNullable (front ++ back) =
      (Descriptor.anyNullable front || Descriptor.anyNullable back) := by
  induction front with
  | nil => rfl
  | cons t rest ih => simp [Descriptor.anyNullable, ih, Bool.or_assoc]

theorem isNullable_eq (h : Abridged table t u) : u.isNullable = t.isNullable := by
  induction h with
  | @named d holds => cases d <;> rfl
  | union _ ih =>
    simp [Descriptor.isNullable, anyNullable_append, Descriptor.anyNullable, ih]
  | _ => rfl

/-- Neither a definition nor a name is the type of integers. -/
theorem integer_iff (h : Abridged table t u) : u = .integer ↔ t = .integer := by
  cases h with
  | @named d holds => cases d <;> exact iff_of_false nofun nofun
  | _ => exact iff_of_false nofun nofun

end Abridged

namespace Conformance

theorem checkTuple_of_map_eq {ts us : List Descriptor}
    (same : us.map (check table) = ts.map (check table)) (index : Nat) (items : List Json) :
    checkTuple table index us items = checkTuple table index ts items := by
  induction ts generalizing us index items with
  | nil =>
    cases us with
    | nil => rfl
    | cons => cases same
  | cons t ts ih =>
    cases us with
    | nil => cases same
    | cons u us =>
      obtain ⟨first, rest⟩ := List.cons_eq_cons.mp same
      cases items with
      | nil => simp [checkTuple]
      | cons v items => rw [checkTuple, checkTuple, first, ih rest]

theorem acceptsAny_eq_any (ts : List Descriptor) (v : Json) :
    acceptsAny table ts v = (ts.map (check table)).any fun result => (result v).isOk := by
  induction ts with
  | nil => simp [acceptsAny]
  | cons t rest ih =>
    rw [acceptsAny, ih, List.map_cons, List.any_cons]
    cases check table t v <;> rfl

end Conformance

open Conformance

theorem Abridged.check_eq {t u : Descriptor} (h : Abridged table t u) :
    check table u = check table t := by
  induction h with
  | named holds => exact funext (check_reference holds)
  | optional _ ih =>
    funext v
    cases v <;> simp only [check, ih]
  | sequence _ ih =>
    funext v
    cases v <;> simp only [check, checkItems_eq_firstFailure, ih]
  | stream =>
    funext v
    simp only [check]
  | key h =>
    funext v
    cases v <;> simp only [check, h.integer_iff]
  | @value k t u _ ih =>
    have entry (integerKeys : Bool) :
        checkEntry table integerKeys u = checkEntry table integerKeys t := by
      funext m
      simp only [checkEntry, ih]
    funext v
    cases v <;> simp only [check, checkEntries_eq_firstFailure, entry]
  | tuple _ ih =>
    funext v
    cases v <;> simp only [check, List.length_append, List.length_cons]
    rw [checkTuple_of_map_eq]
    simp only [List.map_append, List.map_cons, ih]
  | union _ ih =>
    funext v
    simp only [check, acceptsAny_eq_any, List.map_append, List.map_cons, ih]
  | @field _ _ _ _ f u h ih =>
    have field (members : List (String × Json)) :
        checkField table members { f with type := u } = checkField table members f := by
      simp only [checkField, FieldOf.mayBeAbsent, h.isNullable_eq, ih]
      rfl
    funext v
    cases v <;>
      simp only [check, checkFields_eq_firstFailure, List.map_append, List.map_cons, field]

/-- Under any table, with names that lead in a circle or nowhere, a value is accepted as one of a
type exactly when it conforms to it. Whatever is answered, it is answered as well when records and
enums of the table that stand in the type are referred to by their names. -/
theorem validation_exact (table : Definitions) (path : String) (t : Descriptor) (v : Json) :
    (validate table path t v = .ok () ↔ Conforms table t v) ∧
      ∀ u, Relation.ReflTransGen (Abridged table) t u →
        validate table path u v = validate table path t v := by
  refine ⟨validate_eq_ok.trans (check_eq_ok_iff t v), fun u abridged => ?_⟩
  have same : check table u = check table t := by
    induction abridged with
    | refl => rfl
    | tail _ last ih => rw [last.check_eq, ih]
  rw [validate, validate, same]

def nodeShape : RecordShape := ⟨"Node", none, [.required "out" (.sequence (.reference "Edge"))]⟩

def edgeShape : RecordShape :=
  ⟨"Edge", none, [.required "weight" .float, .required "to" (.optional (.reference "Node"))]⟩

def graph : Definitions :=
  ⟨[("Edge", ⟨.record edgeShape, .field "Node" "out"⟩), ("Node", ⟨.record nodeShape, .model none⟩)]⟩

theorem weighed_edge_conforms (n : Int) :
    Conforms graph (.reference "Edge") (.object [("weight", .int n)]) := by
  have weight : Conforms graph .float (.int n) := .primitive (.float _)
  apply Conforms.reference (d := .record edgeShape) rfl
  apply Conforms.record
  · simpa [edgeShape, FieldOf.required, Keyed.lookup] using weight
  · simp [edgeShape, FieldOf.required, Keyed.lookup, FieldOf.mayBeAbsent, Descriptor.isNullable]

theorem graph_validated :
    Relation.ReflTransGen (Abridged graph) (.optional nodeShape.descriptor)
        (.optional (.reference "Node")) ∧
      validate graph "root" (.optional (.reference "Node"))
        (.object [("out", .array [.object [("weight", .int 1)]])]) = .ok () := by
  have abridged : Relation.ReflTransGen (Abridged graph) (.optional nodeShape.descriptor)
      (.optional (.reference "Node")) :=
    .single (.optional (.named (d := .record nodeShape) rfl))
  have edges : Conforms graph (.sequence (.reference "Edge"))
      (.array [.object [("weight", .int 1)]]) :=
    .sequence (List.forall_mem_singleton.mpr (weighed_edge_conforms 1))
  have node : Conforms graph nodeShape.descriptor
      (.object [("out", .array [.object [("weight", .int 1)]])]) := by
    apply Conforms.record
    · simpa [nodeShape, FieldOf.required, Keyed.lookup] using edges
    · simp [nodeShape, FieldOf.required, Keyed.lookup]
  obtain ⟨accepted, same⟩ := validation_exact graph "root" (.optional nodeShape.descriptor)
    (.object [("out", .array [.object [("weight", .int 1)]])])
  exact ⟨abridged, (same _ abridged).trans (accepted.mpr (.present node))⟩

end CommandBridge
