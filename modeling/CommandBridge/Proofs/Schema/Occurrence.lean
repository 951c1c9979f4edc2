import CommandBridge.Schema.Definitions
import Mathlib.Logic.Relation
import Mathlib.Tactic.Common

/-!
# What stands in a type

A type stands in another when a chain of parts leads from the one to the other. Which parts are
looked into differs: all of them, or only those outside records. A check that walks through a
type and stops at the first offence is then a statement on the types that stand in it.
-/

set_option autoImplicit false

namespace CommandBridge

namespace Descriptor

/-- The type `u` is `t` or stands, through any number of parts, in it. -/
def Within (parts : Descriptor → List Descriptor) : Descriptor → Descriptor → Prop :=
  Relation.ReflTransGen fun c t => c ∈ parts t

/-- The type `u` stands inline in `t`, at any depth. -/
def Occurs : Descriptor → Descriptor → Prop := Within children

/-- No stream stands in the type. -/
def Streamless (t : Descriptor) : Prop := ∀ u, ¬Occurs (.stream u) t

section Within

variable {parts : Descriptor → List Descriptor} {t u v : Descriptor}

theorem within_iff : Within parts u t ↔ u = t ∨ ∃ c ∈ parts t, Within parts u c := by
  constructor
  · intro h
    rcases Relation.ReflTransGen.cases_tail_iff _ _ _ |>.mp h with same | ⟨c, inner, part⟩
    · exact .inl same.symm
    · exact .inr ⟨c, part, inner⟩
  · rintro (rfl | ⟨c, part, inner⟩)
    · exact .refl
    · exact inner.tail part

theorem forall_within {P : Descriptor → Prop} :
    (∀ u, Within parts u t → P u) ↔ P t ∧ ∀ c ∈ parts t, ∀ u, Within parts u c → P u := by
  constructor
  · intro h
    exact ⟨h t .refl, fun c part u inner => h u (inner.tail part)⟩
  · rintro ⟨top, below⟩ u h
    rcases within_iff.mp h with rfl | ⟨c, part, inner⟩
    · exact top
    · exact below c part u inner

/-- What every part keeps holds of all that stands in a type. -/
theorem Within.invariant {P : Descriptor → Prop} (h : Within parts u t)
    (step : ∀ t, P t → ∀ c ∈ parts t, P c) (start : P t) : P u := by
  induction h using Relation.ReflTransGen.head_induction_on with
  | refl => exact start
  | head part _ ih => exact step _ ih _ part

/-- What is looked into less deeply stands there all the same. -/
theorem Within.mono {more : Descriptor → List Descriptor}
    (sub : ∀ t, ∀ c ∈ parts t, c ∈ more t) (h : Within parts u t) : Within more u t :=
  Relation.ReflTransGen.mono (fun c t part => sub t c part) _ _ h

/-- The name of a definition stands in the type. -/
def Names (parts : Descriptor → List Descriptor) (t : Descriptor) (name : String) : Prop :=
  ∃ u, Within parts u t ∧ u.typeName? = some name

theorem names_iff {name : String} : t.Names parts name ↔
    t.typeName? = some name ∨ ∃ c ∈ parts t, c.Names parts name := by
  simp only [Names, within_iff (t := t), or_and_right, exists_or, exists_eq_left]
  exact or_congr_right ⟨fun ⟨u, ⟨c, part, inner⟩, named⟩ => ⟨c, part, u, inner, named⟩,
    fun ⟨c, part, u, inner, named⟩ => ⟨u, ⟨c, part, inner⟩, named⟩⟩

theorem Names.mono {more : Descriptor → List Descriptor} {name : String}
    (sub : ∀ t, ∀ c ∈ parts t, c ∈ more t) (h : t.Names parts name) : t.Names more name := by
  obtain ⟨u, inner, named⟩ := h
  exact ⟨u, inner.mono sub, named⟩

end Within

theorem child_induction {P : Descriptor → Prop} (step : ∀ t, (∀ c ∈ t.children, P c) → P t)
    (t : Descriptor) : P t :=
  step t fun c _ => child_induction step c
termination_by sizeOf t
decreasing_by exact sizeOf_child_lt ‹_›

theorem streamPathList?_eq_none {path : String} {ts : List Descriptor} :
    streamPathList? path ts = none ↔ ∀ t ∈ ts, t.streamPath? path = none := by
  induction ts with
  | nil => simp [streamPathList?]
  | cons t rest ih => simp [streamPathList?, ih]

theorem streamPathFields?_eq_none {path : String} {fields : List Field} :
    streamPathFields? path fields = none ↔
      ∀ f ∈ fields, f.type.streamPath? (path ++ "." ++ f.name) = none := by
  induction fields with
  | nil => simp [streamPathFields?]
  | cons f rest ih =>
    obtain ⟨name, t, isOptional, description⟩ := f
    simp [streamPathFields?, ih]

/-- A type other than a stream is streamless when its children are. -/
theorem streamless_iff {t : Descriptor} :
    t.Streamless ↔ (∀ u, t ≠ .stream u) ∧ ∀ c ∈ t.children, c.Streamless := by
  constructor
  · intro h
    exact ⟨fun u same => h u (same ▸ .refl), fun c part u inner => h u (inner.tail part)⟩
  · rintro ⟨top, below⟩ u h
    rcases within_iff.mp h with same | ⟨c, part, inner⟩
    · exact top u same.symm
    · exact below c part u inner

theorem Streamless.of_occurs {t u : Descriptor} (h : t.Streamless) (inner : Occurs u t) :
    u.Streamless :=
  fun v hv => h v (Relation.ReflTransGen.trans hv inner)

/-- The search for a stream finds none exactly in a streamless type, whatever its path. -/
theorem streamPath?_eq_none {t : Descriptor} :
    ∀ path, t.streamPath? path = none ↔ t.Streamless := by
  induction t using child_induction with
  | step t ih =>
    intro path
    rw [streamless_iff]
    cases t with
    | primitive | enum | reference => simp [streamPath?, children]
    | optional t | sequence t => simpa [streamPath?, children] using ih t (by simp [children]) path
    | stream t => simp [streamPath?]
    | mapping k v =>
      simp [streamPath?, children, ih k (by simp [children]) path, ih v (by simp [children]) path]
    | tuple ts | union ts =>
      rw [streamPath?, streamPathList?_eq_none]
      constructor
      · intro h
        exact ⟨fun _ same => Descriptor.noConfusion same, fun c part => (ih c part path).mp (h c part)⟩
      · rintro ⟨-, h⟩ c part
        exact (ih c part path).mpr (h c part)
    | record name doc fields =>
      rw [streamPath?, streamPathFields?_eq_none]
      constructor
      · intro h
        refine ⟨fun _ same => Descriptor.noConfusion same, fun c part => ?_⟩
        obtain ⟨f, hf, rfl⟩ := List.mem_map.mp part
        exact (ih f.type part _).mp (h f hf)
      · rintro ⟨-, h⟩ f hf
        have part : f.type ∈ (record name doc fields).children := List.mem_map.mpr ⟨f, hf, rfl⟩
        exact (ih f.type part _).mpr (h f.type part)

theorem rejectStreams_eq_ok {owner : Owner} {path : String} {t : Descriptor} :
    t.rejectStreams owner path = .ok () ↔ t.Streamless := by
  rw [← streamPath?_eq_none path, rejectStreams]
  cases t.streamPath? path <;> simp

end Descriptor

namespace Definitions

open Descriptor

variable {table : Definitions}

/-- Every reference that stands in the type names a definition. -/
def Resolves (table : Definitions) (t : Descriptor) : Prop :=
  ∀ name, Occurs (.reference name) t → table.contains name = true

theorem unresolvedList?_eq_none {ts : List Descriptor} :
    table.unresolvedList? ts = none ↔ ∀ t ∈ ts, table.unresolved? t = none := by
  induction ts with
  | nil => simp [unresolvedList?]
  | cons t rest ih => simp [unresolvedList?, ih]

theorem unresolvedFields?_eq_none {fields : List Field} :
    table.unresolvedFields? fields = none ↔ ∀ f ∈ fields, table.unresolved? f.type = none := by
  induction fields with
  | nil => simp [unresolvedFields?]
  | cons f rest ih =>
    obtain ⟨name, t, isOptional, description⟩ := f
    simp [unresolvedFields?, ih]

theorem resolves_iff {t : Descriptor} :
    table.Resolves t ↔ (∀ name, t = .reference name → table.contains name = true) ∧
      ∀ c ∈ t.children, table.Resolves c := by
  constructor
  · intro h
    exact ⟨fun name same => h name (same ▸ .refl),
      fun c part name inner => h name (inner.tail part)⟩
  · rintro ⟨top, below⟩ name h
    rcases within_iff.mp h with same | ⟨c, part, inner⟩
    · exact top name same.symm
    · exact below c part name inner

theorem unresolved?_eq_none {t : Descriptor} : table.unresolved? t = none ↔ table.Resolves t := by
  induction t using child_induction with
  | step t ih =>
    rw [resolves_iff]
    cases t with
    | primitive | enum => simp [unresolved?, children]
    | reference name => simp [unresolved?, children]
    | optional t | sequence t | stream t =>
      simpa [unresolved?, children] using ih t (by simp [children])
    | mapping k v =>
      simp [unresolved?, children, ih k (by simp [children]), ih v (by simp [children])]
    | tuple ts | union ts =>
      rw [unresolved?, unresolvedList?_eq_none]
      constructor
      · intro h
        exact ⟨fun _ same => Descriptor.noConfusion same, fun c part => (ih c part).mp (h c part)⟩
      · rintro ⟨-, h⟩ c part
        exact (ih c part).mpr (h c part)
    | record name doc fields =>
      rw [unresolved?, unresolvedFields?_eq_none]
      constructor
      · intro h
        refine ⟨fun _ same => Descriptor.noConfusion same, fun c part => ?_⟩
        obtain ⟨f, hf, rfl⟩ := List.mem_map.mp part
        exact (ih f.type part).mp (h f hf)
      · rintro ⟨-, h⟩ f hf
        have part : f.type ∈ (record name doc fields).children := List.mem_map.mpr ⟨f, hf, rfl⟩
        exact (ih f.type part).mpr (h f.type part)

theorem checkReferences_eq_ok {owner : Owner} {t : Descriptor} :
    table.checkReferences owner t = .ok () ↔ table.Resolves t := by
  rw [← unresolved?_eq_none, checkReferences]
  cases table.unresolved? t <;> simp

end Definitions
end CommandBridge
