import CommandBridge.Proofs.TypeScript.Order

/-!
# How types are spelled

A type expression is put together from a few fixed words and the names of definitions. The names
are those that are written out in the type, and a table that covers a type in which all references
resolve has all of them.
-/

set_option autoImplicit false

namespace CommandBridge.TypeScript

open Descriptor Definitions

variable {A : Application} {table : Definitions} {owner : Owner} {path : String}

def words : List String :=
  ["string", "number", "boolean", "null", "unknown", "never", "void", " | ", " | null", "(", ")[]",
    "[]", "Record<", ", ", ">", "[", "]"]

inductive Spelled (Name : String → Prop) : String → Prop where
  | empty : Spelled Name ""
  | word {w : String} (fixed : w ∈ words) : Spelled Name w
  | name {n : String} (named : Name n) : Spelled Name n
  | append {a b : String} (front : Spelled Name a) (back : Spelled Name b) : Spelled Name (a ++ b)

namespace Spelled

variable {Name More : String → Prop} {a b : String}

theorem mono (weaker : ∀ n, Name n → More n) (h : Spelled Name a) : Spelled More a := by
  induction h with
  | empty => exact .empty
  | word fixed => exact .word fixed
  | name named => exact .name (weaker _ named)
  | append _ _ front back => exact .append front back

theorem intercalate {sep : String} (fixed : sep ∈ words) {parts : List String}
    (each : ∀ p ∈ parts, Spelled Name p) : Spelled Name (String.intercalate sep parts) := by
  induction parts with
  | nil => exact .empty
  | cons p rest ih =>
    rw [List.forall_mem_cons] at each
    cases rest with
    | nil => simpa using each.1
    | cons q rest =>
      rw [String.intercalate_cons_cons]
      exact ((each.1).append (.word fixed)).append (ih each.2)

theorem nullable (h : Spelled Name a) : Spelled Name (TypeScript.nullable a) := by
  unfold TypeScript.nullable
  split
  · exact h
  · exact h.append (.word (by decide))

theorem arrayOf (h : Spelled Name a) : Spelled Name (TypeScript.arrayOf a) := by
  unfold TypeScript.arrayOf
  split
  · exact ((Spelled.word (by decide)).append h).append (.word (by decide))
  · exact h.append (.word (by decide))

end Spelled

theorem mem_of_mem_distinct {t : String} {ts : List String} (h : t ∈ distinct ts) : t ∈ ts := by
  induction ts with
  | nil => exact h
  | cons first rest ih =>
    rw [distinct] at h
    rcases List.mem_cons.mp h with rfl | later
    · exact List.mem_cons_self
    · exact List.mem_cons_of_mem _ (ih (List.mem_filter.mp later).1)

theorem Spelled.unionOf {Name : String → Prop} {members : List String}
    (each : ∀ m ∈ members, Spelled Name m) : Spelled Name (TypeScript.unionOf members) := by
  unfold TypeScript.unionOf
  split
  · exact .word (by decide)
  · exact .intercalate (by decide) fun m there => each m (mem_of_mem_distinct there)

theorem itemExpressions_forall {P : String → Prop} {ts : List Descriptor} {index : Nat}
    {items : List String} (each : ∀ t ∈ ts, ∀ path e, expression table owner path t = .ok e → P e)
    (written : itemExpressions table owner path index ts = .ok items) : ∀ e ∈ items, P e := by
  induction ts generalizing index items with
  | nil =>
    cases written
    exact List.forall_mem_nil P
  | cons t rest ih =>
    simp only [itemExpressions, Except.bind_eq_ok] at written
    obtain ⟨e, first, others, later, last⟩ := written
    cases last
    rw [List.forall_mem_cons] at each ⊢
    exact ⟨each.1 _ e first, ih each.2 later⟩

theorem memberExpressions_forall {P : String → Prop} {ts : List Descriptor} {members : List String}
    (each : ∀ t ∈ ts, ∀ e, expression table owner path t = .ok e → P e)
    (written : memberExpressions table owner path ts = .ok members) : ∀ e ∈ members, P e := by
  induction ts generalizing members with
  | nil =>
    cases written
    exact List.forall_mem_nil P
  | cons t rest ih =>
    simp only [memberExpressions, Except.bind_eq_ok] at written
    obtain ⟨e, first, others, later, last⟩ := written
    cases last
    rw [List.forall_mem_cons] at each ⊢
    exact ⟨each.1 e first, ih each.2 later⟩

/-- The expression of a type is spelled with the names that are written out in it. -/
theorem expression_spelled {t : Descriptor} : ∀ path text,
    expression table owner path t = .ok text → Spelled (t.Names writtenParts) text := by
  induction t using child_induction with
  | step t ih =>
    intro path text written
    have part {c : Descriptor} (hc : c ∈ t.writtenParts) {path e : String}
        (h : expression table owner path c = .ok e) : Spelled (t.Names writtenParts) e :=
      (ih c (mem_children_of_writtenParts hc) path e h).mono fun _ named =>
        names_iff.mpr (.inr ⟨c, hc, named⟩)
    have own {name : String} (h : t.typeName? = some name) : Spelled (t.Names writtenParts) name :=
      .name (names_iff.mpr (.inl h))
    cases t with
    | primitive p =>
      cases written
      exact .word (by cases p <;> decide)
    | optional t =>
      obtain ⟨e, inner, rfl⟩ := Except.map_eq_ok.mp written
      exact (part List.mem_cons_self inner).nullable
    | sequence t =>
      obtain ⟨e, inner, rfl⟩ := Except.map_eq_ok.mp written
      exact (part List.mem_cons_self inner).arrayOf
    | mapping k v =>
      obtain ⟨e, inner, rfl⟩ := Except.map_eq_ok.mp written
      have key : keyType k ∈ words := by unfold keyType; split <;> decide
      exact ((((Spelled.word (by decide)).append (.word key)).append (.word (by decide))).append
        (part List.mem_cons_self inner)).append (.word (by decide))
    | tuple ts =>
      obtain ⟨items, inner, rfl⟩ := Except.map_eq_ok.mp written
      have each := itemExpressions_forall (fun _ there _ _ => part there) inner
      exact ((Spelled.word (by decide)).append (.intercalate (by decide) each)).append
        (.word (by decide))
    | union ts =>
      obtain ⟨members, inner, rfl⟩ := Except.map_eq_ok.mp written
      exact .unionOf (memberExpressions_forall (fun _ there _ => part there) inner)
    | record | enum =>
      cases written
      exact own rfl
    | reference name =>
      rw [expression] at written
      split at written
      · cases written
        exact own rfl
      · cases written
    | stream t => cases written

/-- A table that covers a type in which references resolve has every name in the type. -/
theorem contains_of_names {t : Descriptor} (covers : table.Covers t) (resolves : table.Resolves t)
    {name : String} (h : t.Names children name) : table.contains name = true := by
  obtain ⟨u, inner, named⟩ := h
  cases u with
  | record name' doc fields =>
    cases named
    exact Option.isSome_iff_exists.mpr ⟨_, covers (.record ⟨_, doc, fields⟩) inner⟩
  | enum shape =>
    cases named
    exact Option.isSome_iff_exists.mpr ⟨_, covers (.enum shape) inner⟩
  | reference =>
    cases named
    exact resolves _ inner
  | _ => cases named

theorem definitionDeclaration_types {x : Definition} {declared : Declaration}
    (h : definitionDeclaration table x = .ok declared) : ∀ text ∈ declared.types,
      ∃ c ∈ x.descriptor.children, Spelled (c.Names writtenParts) text := by
  cases x with
  | enum shape =>
    cases h
    exact nofun
  | record shape =>
    obtain ⟨lines, made, last⟩ := Except.bind_eq_ok.mp h
    cases last
    intro text there
    obtain ⟨line, listed, rfl⟩ := List.mem_map.mp there
    obtain ⟨f, hf, one⟩ := exists_of_mem_mapM made listed
    obtain ⟨e, written, last⟩ := Except.bind_eq_ok.mp one
    cases last
    exact ⟨f.type, List.mem_map.mpr ⟨f, hf, rfl⟩, expression_spelled _ _ written⟩

theorem commandResult_spelled {c : Command A} {answer : Bool × String × String × String}
    (h : commandResult table owner c = .ok answer) :
    Spelled (c.content.Names writtenParts) answer.2.2.1 := by
  unfold commandResult at h
  unfold Command.content
  cases kind : c.kind with
  | unary =>
    rw [kind] at h
    obtain ⟨e, written, last⟩ := Except.bind_eq_ok.mp h
    cases last
    by_cases none : e = "null"
    · simp only [none, if_true]
      exact .word (by decide)
    · simp only [none, if_false]
      exact expression_spelled _ _ written
  | stream =>
    rw [kind] at h
    cases pushed : c.payload? with
    | none =>
      rw [pushed] at h
      cases h
    | some t =>
      rw [pushed] at h
      obtain ⟨e, written, last⟩ := Except.bind_eq_ok.mp h
      cases last
      exact expression_spelled _ _ written

theorem commandDeclaration_types {c : Command A} {declared : Declaration}
    (h : commandDeclaration table c = .ok declared) : ∀ text ∈ declared.types,
      ∃ t ∈ c.params.map Param.type ++ [c.content], Spelled (t.Names writtenParts) text := by
  obtain ⟨params, made, ⟨isAsync, result, type, call⟩, answer, last⟩ := by
    simpa only [commandDeclaration, Except.bind_eq_ok] using h
  cases last
  intro text there
  rcases List.mem_append.mp there with there | there
  · obtain ⟨p, listed, rfl⟩ := List.mem_map.mp there
    obtain ⟨q, hq, one⟩ := exists_of_mem_mapM made listed
    obtain ⟨e, written, last⟩ := Except.bind_eq_ok.mp one
    cases last
    exact ⟨q.type, List.mem_append_left _ (List.mem_map.mpr ⟨q, hq, rfl⟩),
      expression_spelled _ _ written⟩
  · rw [List.mem_singleton.mp there]
    exact ⟨c.content, List.mem_append_right _ List.mem_cons_self, commandResult_spelled answer⟩

theorem eventsDeclaration_types {name : String} {events : List (String × Descriptor)}
    {declared : Declaration} (h : eventsDeclaration table owner name events = .ok declared) :
    ∀ text ∈ declared.types, ∃ e ∈ events, Spelled (e.2.Names writtenParts) text := by
  obtain ⟨lines, made, last⟩ := Except.bind_eq_ok.mp h
  cases last
  intro text there
  obtain ⟨line, listed, rfl⟩ := List.mem_map.mp there
  obtain ⟨e, he, one⟩ := exists_of_mem_mapM made listed
  obtain ⟨t, written, last⟩ := Except.bind_eq_ok.mp one
  cases last
  exact ⟨e, he, expression_spelled _ _ written⟩

end CommandBridge.TypeScript
