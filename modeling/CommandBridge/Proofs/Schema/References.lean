import CommandBridge.Conformance.Check
import CommandBridge.Proofs.Keyed
import CommandBridge.Proofs.Schema.Occurrence
import CommandBridge.Registry.Build
import Mathlib.Tactic.Common

/-!
# References of a built registry

A registry builds only when every reference in its types names a definition. A check against
such a type never meets an undefined name, so a value that is refused is the sender's fault.
-/

set_option autoImplicit false

namespace CommandBridge

namespace Definitions

variable {table : Definitions}

/-- Every reference in the record definitions of the table names a definition. -/
def Closed (table : Definitions) : Prop :=
  ∀ name shape, table.get? name = some (.record shape) →
    table.unresolvedFields? shape.fields = none

end Definitions

namespace Conformance

open Definitions

variable {table : Definitions}

def Defined (result : Except Rejection Unit) : Prop :=
  ∀ name, result ≠ .error (.undefinedType name)

theorem defined_ok : Defined (.ok ()) := nofun

theorem defined_offence (steps : List PathStep) (what : Offence) :
    Defined (.error (.offence steps what)) := nofun

theorem defined_within {result : Except Rejection Unit} (h : Defined result) (step : PathStep) :
    Defined (within step result) := by
  cases result with
  | ok u => exact defined_ok
  | error r =>
    cases r with
    | offence steps what => exact defined_offence _ what
    | undefinedType name => exact absurd rfl (h name)

theorem defined_checkPrimitive (p : Primitive) (v : Json) : Defined (checkPrimitive p v) := by
  unfold checkPrimitive
  split
  · exact defined_ok
  · exact defined_offence _ _

theorem defined_checkEnum (shape : EnumShape) (v : Json) : Defined (checkEnum shape v) := by
  unfold checkEnum
  split
  · split
    · exact defined_ok
    · exact defined_offence _ _
  · exact defined_offence _ _

mutual
/-- A type whose references resolve never leads a check to an undefined name. -/
theorem defined_check (closed : table.Closed) (t : Descriptor) (v : Json)
    (h : table.unresolved? t = none) : Defined (check table t v) := by
  cases t with
  | primitive p =>
    rw [check]
    exact defined_checkPrimitive p v
  | enum shape =>
    rw [check]
    exact defined_checkEnum shape v
  | stream t =>
    rw [check]
    exact defined_offence _ _
  | optional t =>
    rw [unresolved?] at h
    cases v with
    | null => rw [check]; exact defined_ok
    | _ => simp only [check]; exact defined_check closed t _ h
  | sequence t =>
    rw [unresolved?] at h
    cases v with
    | array items =>
      rw [check]
      exact defined_checkItems closed t 0 items h
    | _ => simp only [check]; exact defined_offence _ _
  | mapping k t =>
    rw [unresolved?, Option.or_eq_none_iff] at h
    cases v with
    | object members =>
      rw [check]
      exact defined_checkEntries closed _ t members h.2
    | _ => simp only [check]; exact defined_offence _ _
  | tuple ts =>
    rw [unresolved?] at h
    cases v with
    | array items =>
      rw [check]
      split
      · exact defined_checkTuple closed 0 ts items h
      · exact defined_offence _ _
    | _ => simp only [check]; exact defined_offence _ _
  | record name doc fields =>
    rw [unresolved?] at h
    cases v with
    | object members =>
      rw [check]
      exact defined_checkFields closed fields members h
    | _ => simp only [check]; exact defined_offence _ _
  | union ts =>
    rw [check]
    split
    · exact defined_ok
    · exact defined_offence _ _
  | reference name =>
    rw [unresolved?] at h
    cases found : table.get? name with
    | none => simp [contains, found] at h
    | some d =>
      cases d with
      | record shape =>
        cases v with
        | object members =>
          simp only [check, found]
          exact defined_checkFields closed shape.fields members (closed name shape found)
        | _ => simp only [check, found]; exact defined_offence _ _
      | enum shape =>
        simp only [check, found]
        exact defined_checkEnum shape v
termination_by (sizeOf v, sizeOf t)

theorem defined_checkItems (closed : table.Closed) (t : Descriptor) (index : Nat)
    (items : List Json) (h : table.unresolved? t = none) :
    Defined (checkItems table t index items) := by
  cases items with
  | nil => rw [checkItems]; exact defined_ok
  | cons v rest =>
    rw [checkItems]
    split
    · exact defined_checkItems closed t (index + 1) rest h
    · exact defined_within (defined_check closed t v h) _
termination_by (sizeOf items, sizeOf t)

theorem defined_checkEntries (closed : table.Closed) (integerKeys : Bool) (t : Descriptor)
    (members : List (String × Json)) (h : table.unresolved? t = none) :
    Defined (checkEntries table integerKeys t members) := by
  cases members with
  | nil => rw [checkEntries]; exact defined_ok
  | cons m rest =>
    obtain ⟨k, v⟩ := m
    rw [checkEntries]
    split
    · exact defined_offence _ _
    split
    · exact defined_checkEntries closed integerKeys t rest h
    · exact defined_within (defined_check closed t v h) _
termination_by (sizeOf members, sizeOf t)

theorem defined_checkTuple (closed : table.Closed) (index : Nat) (ts : List Descriptor)
    (items : List Json) (h : table.unresolvedList? ts = none) :
    Defined (checkTuple table index ts items) := by
  cases ts with
  | nil => rw [checkTuple]; exact defined_ok; nofun
  | cons t ts =>
    rw [unresolvedList?, Option.or_eq_none_iff] at h
    cases items with
    | nil => rw [checkTuple]; exact defined_ok; nofun
    | cons v rest =>
      rw [checkTuple]
      split
      · exact defined_checkTuple closed (index + 1) ts rest h.2
      · exact defined_within (defined_check closed t v h.1) _
termination_by (sizeOf items, sizeOf ts)

theorem defined_checkFields (closed : table.Closed) (fields : List Field)
    (members : List (String × Json)) (h : table.unresolvedFields? fields = none) :
    Defined (checkFields table fields members) := by
  cases fields with
  | nil => rw [checkFields]; exact defined_ok
  | cons f rest =>
    obtain ⟨name, t, isOptional, description⟩ := f
    rw [unresolvedFields?, Option.or_eq_none_iff] at h
    rw [checkFields]
    split
    · next v found =>
      have := Keyed.sizeOf_lookup_lt found
      split
      · exact defined_checkFields closed rest members h.2
      · exact defined_within (defined_check closed t v h.1) _
    · split
      · exact defined_checkFields closed rest members h.2
      · exact defined_offence _ _
termination_by (sizeOf members, sizeOf fields)
end

end Conformance

/-- Under a closed table a value is refused for an offence at a place in it. -/
theorem offence_of_validate {table : Definitions} (closed : table.Closed) {t : Descriptor}
    (h : table.unresolved? t = none) {path : String} {v : Json} {e : BridgeError}
    (refused : validate table path t v = .error e) :
    ∃ steps what, e = .invalidField (path ++ Rejection.stepsText steps) (Offence.message what) := by
  have defined := Conformance.defined_check closed t v h
  unfold validate at refused
  cases checked : Conformance.check table t v with
  | ok u => rw [checked] at refused; cases refused
  | error r =>
    rw [checked] at refused
    cases refused
    cases r with
    | offence steps what => exact ⟨steps, what, rfl⟩
    | undefinedType name => exact absurd checked (defined name)

/-- Under a closed table a value is refused as an invalid argument. -/
theorem code_of_validate {table : Definitions} (closed : table.Closed) {t : Descriptor}
    (h : table.unresolved? t = none) {path : String} {v : Json} {e : BridgeError}
    (refused : validate table path t v = .error e) : e.code = .invalidArgument := by
  obtain ⟨steps, what, rfl⟩ := offence_of_validate closed h refused
  rfl

namespace Registry

open Definitions

variable {A : Application}

theorem forM_eq_ok {α ε : Type} {f : α → Except ε Unit} {xs : List α} :
    xs.forM f = .ok () ↔ ∀ x ∈ xs, f x = .ok () := by
  induction xs with
  | nil => exact ⟨fun _ => nofun, fun _ => rfl⟩
  | cons x rest ih =>
    rw [List.forall_mem_cons, ← ih]
    change (f x >>= fun _ => rest.forM f) = .ok () ↔ _
    cases f x with
    | error e => exact ⟨nofun, nofun⟩
    | ok u => exact ⟨fun h => ⟨rfl, h⟩, fun h => h.2⟩

theorem closed_of_checkAllReferences {table : Definitions}
    (h : table.checkAllReferences = .ok ()) : table.Closed := by
  intro name shape found
  obtain ⟨entry, looked, e⟩ := Option.map_eq_some_iff.mp found
  have listed : Definition.record shape ∈ table.toList := by
    rw [Definitions.toList, ← e]
    exact List.mem_map.mpr ⟨(name, entry), Keyed.mem_of_lookup looked, rfl⟩
  have checked := forM_eq_ok.mp h _ listed
  rw [unresolvedFields?_eq_none]
  intro f hf
  exact unresolved?_eq_none.mpr (checkReferences_eq_ok.mp (forM_eq_ok.mp checked f hf))

/-- In a built registry every event type of a socket resolves. -/
theorem resolved_of_build {d : Declarations A} {r : Registry A} (built : build d = .ok r) :
    r.definitions.Closed ∧ ∀ name s, r.socket? name = some s → ∀ t ∈ s.eventTypes,
      r.definitions.unresolved? t.2 = none := by
  simp only [build, bind, Except.bind, pure, Except.pure] at built
  split at built
  · cases built
  next table collected =>
  split at built
  · cases built
  next resolved =>
  cases built
  simp only [resolveAll, bind, Except.bind] at resolved
  split at resolved
  · cases resolved
  split at resolved
  · cases resolved
  next sockets =>
  refine ⟨closed_of_checkAllReferences resolved, ?_⟩
  intro name s found t ht
  have listed := Keyed.mem_of_mem_sort (Keyed.mem_of_lookup found)
  obtain ⟨s', declared, e⟩ := List.mem_map.mp listed
  cases e
  have checked := forM_eq_ok.mp (forM_eq_ok.mp sockets s declared) t ht
  exact unresolved?_eq_none.mpr (checkReferences_eq_ok.mp checked)

end Registry
end CommandBridge
