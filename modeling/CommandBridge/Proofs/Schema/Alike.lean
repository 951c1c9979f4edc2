import CommandBridge.Dispatch
import CommandBridge.Proofs.Schema.Collection
import CommandBridge.TypeScript.Module

/-!
# Tables that are read alike

A table keeps with each definition where it was first found, which depends on the order in which
types were collected. Only the report of a conflict reads it, and equality of whole tables. Tables
that answer every look-up alike list the same definitions, check every value alike and write every
type alike.
-/

set_option autoImplicit false

namespace CommandBridge

namespace Definitions

variable {table table' : Definitions}

/-- The tables have the same definitions. -/
def Alike (table table' : Definitions) : Prop := ∀ name, table.get? name = table'.get? name

theorem Alike.symm (h : Alike table table') : Alike table' table := fun name => (h name).symm

theorem Alike.contains (h : Alike table table') (name : String) :
    table.contains name = table'.contains name := by
  rw [Definitions.contains, Definitions.contains, h name]

theorem Alike.holds_iff (h : Alike table table') {x : Definition} : table.Holds x ↔ table'.Holds x := by
  rw [Holds, Holds, h x.name]

theorem Alike.resolves_iff (h : Alike table table') {t : Descriptor} :
    table.Resolves t ↔ table'.Resolves t :=
  forall₂_congr fun name _ => by rw [h.contains name]

def bindings (table : Definitions) : List (String × Definition) :=
  table.entries.map fun m => (m.1, m.2.definition)

theorem lookup_bindings (name : String) : Keyed.lookup name table.bindings = table.get? name := by
  change Keyed.lookup (id name) (table.entries.map fun m => (id m.1, m.2.definition)) = _
  exact Keyed.lookup_map Definition.Entry.definition fun _ _ same => same

theorem Grown.sorted {New : Definition → Prop} (h : Grown New table table')
    (sorted : Keyed.Sorted table.entries) : Keyed.Sorted table'.entries := by
  induction h with
  | refl => exact sorted
  | put owner d new free _ ih => exact ih (Keyed.sorted_insert _ _ sorted)

/-- Sorted tables that are read alike bind the same names to the same definitions. -/
theorem Alike.bindings_eq (h : Alike table table') (sorted : Keyed.Sorted table.entries)
    (sorted' : Keyed.Sorted table'.entries) : table.bindings = table'.bindings := by
  have bound {table : Definitions} (sorted : Keyed.Sorted table.entries) :
      Keyed.Sorted table.bindings := by
    rw [Keyed.sorted_iff_pairwise] at sorted ⊢
    exact List.pairwise_map.mpr sorted
  apply (bound sorted).ext (bound sorted')
  intro name
  rw [lookup_bindings, lookup_bindings, h name]

theorem bindings_names : table.bindings.map Prod.fst = table.names := by
  rw [bindings, List.map_map]
  rfl

theorem bindings_toList : table.bindings.map Prod.snd = table.toList := by
  rw [bindings, List.map_map]
  rfl

end Definitions

namespace Conformance

open Definitions

variable {table table' : Definitions}

mutual
theorem check_congr (alike : Alike table table') (t : Descriptor) (v : Json) :
    check table t v = check table' t v := by
  cases t with
  | primitive | enum | stream => rw [check, check]
  | optional t =>
    cases v with
    | null => rw [check, check]
    | _ => simp only [check]; exact check_congr alike t _
  | sequence t =>
    cases v with
    | array items => rw [check, check, checkItems_congr alike t 0 items]
    | _ => simp only [check]
  | mapping k t =>
    cases v with
    | object members => rw [check, check, checkEntries_congr alike _ t members]
    | _ => simp only [check]
  | tuple ts =>
    cases v with
    | array items => rw [check, check, checkTuple_congr alike 0 ts items]
    | _ => simp only [check]
  | record name doc fields =>
    cases v with
    | object members => rw [check, check, checkFields_congr alike fields members]
    | _ => simp only [check]
  | union ts => rw [check, check, acceptsAny_congr alike ts v]
  | reference name =>
    rw [check, check, alike name]
    cases table'.get? name with
    | none => rfl
    | some d =>
      cases d with
      | enum shape => rfl
      | record shape =>
        cases v with
        | object members => exact checkFields_congr alike shape.fields members
        | _ => rfl
termination_by (sizeOf v, sizeOf t)

theorem checkItems_congr (alike : Alike table table') (t : Descriptor) (index : Nat)
    (items : List Json) : checkItems table t index items = checkItems table' t index items := by
  cases items with
  | nil => rw [checkItems, checkItems]
  | cons v rest =>
    rw [checkItems, checkItems, check_congr alike t v, checkItems_congr alike t (index + 1) rest]
termination_by (sizeOf items, sizeOf t)

theorem checkEntries_congr (alike : Alike table table') (integerKeys : Bool) (t : Descriptor)
    (members : List (String × Json)) :
    checkEntries table integerKeys t members = checkEntries table' integerKeys t members := by
  cases members with
  | nil => rw [checkEntries, checkEntries]
  | cons m rest =>
    obtain ⟨k, v⟩ := m
    rw [checkEntries, checkEntries, check_congr alike t v, checkEntries_congr alike integerKeys t rest]
termination_by (sizeOf members, sizeOf t)

theorem checkTuple_congr (alike : Alike table table') (index : Nat) (ts : List Descriptor)
    (items : List Json) : checkTuple table index ts items = checkTuple table' index ts items := by
  cases ts with
  | nil => simp only [checkTuple]
  | cons t ts =>
    cases items with
    | nil => simp only [checkTuple]
    | cons v rest =>
      rw [checkTuple, checkTuple, check_congr alike t v, checkTuple_congr alike (index + 1) ts rest]
termination_by (sizeOf items, sizeOf ts)

theorem checkFields_congr (alike : Alike table table') (fields : List Field)
    (members : List (String × Json)) :
    checkFields table fields members = checkFields table' fields members := by
  cases fields with
  | nil => rw [checkFields, checkFields]
  | cons f rest =>
    rw [checkFields, checkFields, checkFields_congr alike rest members]
    split
    · next v found =>
      have := Keyed.sizeOf_lookup_lt found
      rw [check_congr alike f.type v]
    · rfl
termination_by (sizeOf members, sizeOf fields)

theorem acceptsAny_congr (alike : Alike table table') (ts : List Descriptor) (v : Json) :
    acceptsAny table ts v = acceptsAny table' ts v := by
  cases ts with
  | nil => rw [acceptsAny, acceptsAny]
  | cons t rest => rw [acceptsAny, acceptsAny, check_congr alike t v, acceptsAny_congr alike rest v]
termination_by (sizeOf v, sizeOf ts)
end

end Conformance

section Arguments

open Definitions

variable {A : Application} {table table' : Definitions}

theorem validate_congr (alike : Alike table table') (path : String) (t : Descriptor) (v : Json) :
    validate table path t v = validate table' path t v := by
  rw [validate, validate, Conformance.check_congr alike]

theorem takeParams_alike (alike : Alike table table') (params : List Param)
    (incoming : List (String × Json)) :
    takeParams table params incoming = takeParams table' params incoming := by
  induction params generalizing incoming with
  | nil => rfl
  | cons p rest ih =>
    have taken : p.take table incoming = p.take table' incoming := by
      simp only [Param.take, validate_congr alike]
    rw [takeParams, takeParams, taken, ih]

theorem prepareArgs_alike (alike : Alike table table') (c : Command A) (payload : Json) :
    prepareArgs table c payload = prepareArgs table' c payload := by
  simp only [prepareArgs, takeParams_alike alike]

end Arguments

namespace TypeScript

open Descriptor Definitions

variable {A : Application} {table table' : Definitions}

theorem itemExpressions_congr {owner : Owner} {ts : List Descriptor}
    (each : ∀ t ∈ ts, ∀ path, expression table owner path t = expression table' owner path t)
    (path : String) (index : Nat) :
    itemExpressions table owner path index ts = itemExpressions table' owner path index ts := by
  induction ts generalizing index with
  | nil => rfl
  | cons t rest ih =>
    rw [List.forall_mem_cons] at each
    rw [itemExpressions, itemExpressions, each.1, ih each.2]

theorem memberExpressions_congr {owner : Owner} {ts : List Descriptor}
    (each : ∀ t ∈ ts, ∀ path, expression table owner path t = expression table' owner path t)
    (path : String) :
    memberExpressions table owner path ts = memberExpressions table' owner path ts := by
  induction ts with
  | nil => rfl
  | cons t rest ih =>
    rw [List.forall_mem_cons] at each
    rw [memberExpressions, memberExpressions, each.1, ih each.2]

theorem expression_congr (alike : Alike table table') (owner : Owner) (t : Descriptor) :
    ∀ path, expression table owner path t = expression table' owner path t := by
  induction t using child_induction with
  | step t ih =>
    intro path
    cases t with
    | primitive | record | enum | stream => rfl
    | reference name => rw [expression, expression, alike.contains name]
    | optional t | sequence t => rw [expression, expression, ih t List.mem_cons_self]
    | mapping k v => rw [expression, expression, ih v (List.mem_cons_of_mem k List.mem_cons_self)]
    | tuple ts =>
      have each : ∀ t ∈ ts, ∀ path, expression table owner path t = expression table' owner path t := ih
      rw [expression, expression, itemExpressions_congr each path 0]
    | union ts =>
      have each : ∀ t ∈ ts, ∀ path, expression table owner path t = expression table' owner path t := ih
      rw [expression, expression, memberExpressions_congr each path]

mutual
theorem visit_congr (alike : Alike table table') (fuel : Nat) (name : String) (w : Walk) :
    visit table fuel name w = visit table' fuel name w := by
  cases fuel with
  | zero => rw [visit, visit]
  | succ fuel =>
    rw [visit, visit, alike name]
    split
    · rfl
    · cases table'.get? name with
      | none => rfl
      | some d => simp only [visitAll_congr alike fuel]

theorem visitAll_congr (alike : Alike table table') (fuel : Nat) (names : List String) (w : Walk) :
    visitAll table fuel names w = visitAll table' fuel names w := by
  cases names with
  | nil => rw [visitAll, visitAll]
  | cons name rest =>
    rw [visitAll, visitAll, visit_congr alike fuel name w, visitAll_congr alike fuel rest]
end

end TypeScript
end CommandBridge
