import CommandBridge.Proofs.Keyed
import CommandBridge.Proofs.Schema.Occurrence

/-!
# What collecting types finds

A table grows by definitions that are new under their names. Collecting types into a table adds
only records and enums that occur in them; when it ends without a conflict every one that occurs
is in the table, although a definition that is there already is not looked into again. It ends
without a conflict exactly when definitions of one name are equal.
-/

set_option autoImplicit false

namespace CommandBridge

namespace Descriptor

def definition? : Descriptor → Option Definition
  | .record name doc fields => some (.record ⟨name, doc, fields⟩)
  | .enum shape => some (.enum shape)
  | _ => none

theorem definition?_eq_some {t : Descriptor} {d : Definition} :
    t.definition? = some d ↔ t = d.descriptor := by
  cases d <;> cases t <;> simp [definition?, Definition.descriptor, RecordShape.descriptor]
  exact ⟨by rintro rfl; exact ⟨rfl, rfl, rfl⟩, by rintro ⟨rfl, rfl, rfl⟩; rfl⟩

theorem descriptor_injective {d e : Definition} (h : d.descriptor = e.descriptor) : d = e :=
  Option.some.inj ((definition?_eq_some.mpr rfl).symm.trans (definition?_eq_some.mpr h))

def owned (owner : Owner) : Descriptor → List (Owner × Descriptor)
  | .record name _ fields => fields.map fun f => (.field name f.name, f.type)
  | t => t.children.map fun c => (owner, c)

theorem mem_children_of_owned {owner : Owner} {t : Descriptor} {p : Owner × Descriptor}
    (h : p ∈ t.owned owner) : p.2 ∈ t.children := by
  cases t with
  | record name doc fields =>
    obtain ⟨f, hf, rfl⟩ := List.mem_map.mp h
    exact List.mem_map.mpr ⟨f, hf, rfl⟩
  | _ =>
    obtain ⟨c, hc, rfl⟩ := List.mem_map.mp h
    exact hc

theorem owned_of_mem_children (owner : Owner) {t c : Descriptor} (h : c ∈ t.children) :
    ∃ p ∈ t.owned owner, p.2 = c := by
  cases t with
  | record name doc fields =>
    obtain ⟨f, hf, rfl⟩ := List.mem_map.mp h
    exact ⟨_, List.mem_map.mpr ⟨f, hf, rfl⟩, rfl⟩
  | _ => exact ⟨_, List.mem_map.mpr ⟨c, h, rfl⟩, rfl⟩

end Descriptor

namespace Definitions

open Descriptor

variable {table table' : Definitions} {owner : Owner} {d e : Definition} {t : Descriptor}

def put (table : Definitions) (owner : Owner) (d : Definition) : Definitions :=
  ⟨Keyed.insert d.name ⟨d, owner⟩ table.entries⟩

theorem get?_put_self : (table.put owner d).get? d.name = some d := by
  simp [put, get?, Keyed.lookup_insert_self]

theorem get?_put_of_ne {name : String} (h : name ≠ d.name) :
    (table.put owner d).get? name = table.get? name := by
  simp [put, get?, Keyed.lookup_insert_of_ne h]

theorem get?_eq_none_iff {name : String} :
    table.get? name = none ↔ Keyed.lookup name table.entries = none := by
  simp [get?]

theorem mem_names_iff {name : String} : name ∈ table.names ↔ table.contains name = true := by
  rw [contains, Option.isSome_iff_ne_none, ne_eq, get?_eq_none_iff, Keyed.lookup_eq_none_iff, not_not]
  rfl

/-- The definition is in the table under its name. -/
def Holds (table : Definitions) (d : Definition) : Prop := table.get? d.name = some d

theorem enter_cases (table : Definitions) (owner : Owner) (d : Definition) :
    (table.get? d.name = none ∧ table.enter owner d = .new (table.put owner d)) ∨
    (table.Holds d ∧ table.enter owner d = .known) ∨
    ∃ other first, table.get? d.name = some other ∧ other ≠ d ∧
      table.enter owner d = .conflict first := by
  unfold enter Holds get?
  cases found : Keyed.lookup d.name table.entries with
  | none => exact .inl ⟨rfl, rfl⟩
  | some entry =>
    by_cases same : entry.definition = d
    · exact .inr (.inl ⟨by simp [same], by simp [same]⟩)
    · exact .inr (.inr ⟨entry.definition, entry.owner, rfl, same, by simp [same]⟩)

inductive Grown (New : Definition → Prop) : Definitions → Definitions → Prop where
  | refl (table : Definitions) : Grown New table table
  | put {table table' : Definitions} (owner : Owner) (d : Definition) (new : New d)
      (free : table.get? d.name = none) (rest : Grown New (table.put owner d) table') :
      Grown New table table'

section Grown

variable {New More : Definition → Prop} {table'' : Definitions}

theorem Grown.trans (h : Grown New table table') (more : Grown New table' table'') :
    Grown New table table'' := by
  induction h with
  | refl => exact more
  | put owner d new free _ ih => exact .put owner d new free (ih more)

theorem Grown.mono (h : Grown New table table') (weaker : ∀ d, New d → More d) :
    Grown More table table' := by
  induction h with
  | refl => exact .refl _
  | put owner d new free _ ih => exact .put owner d (weaker d new) free ih

theorem Grown.kept (h : Grown New table table') {name : String}
    (there : table.get? name = some d) : table'.get? name = some d := by
  induction h with
  | refl => exact there
  | put owner e new free _ ih =>
    apply ih
    have other : name ≠ e.name := by
      rintro rfl
      rw [free] at there
      cases there
    rwa [get?_put_of_ne other]

/-- What is in the table was there or is new, and then under its own name. -/
theorem Grown.found (h : Grown New table table') {name : String}
    (there : table'.get? name = some d) : table.get? name = some d ∨ (d.name = name ∧ New d) := by
  induction h with
  | refl => exact .inl there
  | put owner e new free _ ih =>
    rcases ih there with old | new
    · by_cases same : name = e.name
      · subst same
        rw [get?_put_self] at old
        cases old
        exact .inr ⟨rfl, new⟩
      · rw [get?_put_of_ne same] at old
        exact .inl old
    · exact .inr new

theorem Grown.names_nodup (h : Grown New table table') (distinct : table.names.Nodup) :
    table'.names.Nodup := by
  induction h with
  | refl => exact distinct
  | put owner d new free _ ih =>
    apply ih
    have free := get?_eq_none_iff.mp free
    have perm := (Keyed.perm_insert (⟨d, owner⟩ : Definition.Entry) free).map Prod.fst
    exact perm.nodup_iff.mpr (List.nodup_cons.mpr ⟨Keyed.lookup_eq_none_iff.mp free, distinct⟩)

end Grown

def collectEach (table : Definitions) (types : List (Owner × Descriptor)) :
    Except BuildError Definitions :=
  types.foldlM (fun table t => table.collect? t.1 t.2) table

theorem collectEach_cons (table : Definitions) (p : Owner × Descriptor)
    (rest : List (Owner × Descriptor)) :
    table.collectEach (p :: rest) =
      (table.collect? p.1 p.2 >>= fun table => table.collectEach rest) := rfl

theorem collectEach_singleton (table : Definitions) (p : Owner × Descriptor) :
    table.collectEach [p] = table.collect? p.1 p.2 :=
  bind_pure (table.collect? p.1 p.2)

theorem collectEach_cons_ok {p : Owner × Descriptor} {rest : List (Owner × Descriptor)}
    (h : table.collectEach (p :: rest) = .ok table') :
    ∃ middle, table.collect? p.1 p.2 = .ok middle ∧ middle.collectEach rest = .ok table' := by
  rw [collectEach_cons] at h
  cases first : table.collect? p.1 p.2 with
  | error e => rw [first] at h; cases h
  | ok middle => rw [first] at h; exact ⟨middle, rfl, h⟩

def outcome : Definitions × Option BuildError → Except BuildError Definitions
  | (table, none) => .ok table
  | (_, some e) => .error e

theorem outcome_collectList (table : Definitions) (owner : Owner) (ts : List Descriptor) :
    outcome (table.collectList owner ts) = table.collectEach (ts.map fun t => (owner, t)) := by
  induction ts generalizing table with
  | nil => rw [collectList]; rfl
  | cons t rest ih =>
    rw [collectList, List.map_cons, collectEach_cons, collect?]
    rcases table.collect owner t with ⟨middle, _ | e⟩
    · exact ih middle
    · rfl

theorem outcome_collectFields (table : Definitions) (record : String) (fields : List Field) :
    outcome (table.collectFields record fields) =
      table.collectEach (fields.map fun f => (.field record f.name, f.type)) := by
  induction fields generalizing table with
  | nil => rw [collectFields]; rfl
  | cons f rest ih =>
    obtain ⟨name, t, isOptional, description⟩ := f
    rw [collectFields, List.map_cons, collectEach_cons, collect?]
    rcases table.collect (.field record name) t with ⟨middle, _ | e⟩
    · exact ih middle
    · rfl

/-- Collecting a type enters its definition, if it makes one, and collects what it holds, unless
the definition was known. -/
theorem collect?_eq (table : Definitions) (owner : Owner) (t : Descriptor) :
    table.collect? owner t =
      match t.definition? with
      | none => table.collectEach (t.owned owner)
      | some d =>
        match table.enter owner d with
        | .new table => table.collectEach (t.owned owner)
        | .known => .ok table
        | .conflict first => .error (.conflictingDefinition d.name first owner) := by
  change outcome (table.collect owner t) = _
  cases t with
  | primitive | reference => rw [collect]; rfl
  | optional t | sequence t | stream t =>
    rw [collect]
    exact (collectEach_singleton table (owner, t)).symm
  | mapping k v =>
    rw [collect]
    change _ = table.collectEach [(owner, k), (owner, v)]
    rw [collectEach_cons, collect?]
    rcases table.collect owner k with ⟨middle, _ | e⟩
    · exact (collectEach_singleton middle (owner, v)).symm
    · rfl
  | tuple ts | union ts => rw [collect]; exact outcome_collectList table owner ts
  | enum shape =>
    rw [collect]
    simp only [definition?]
    cases table.enter owner (.enum shape) <;> rfl
  | record name doc fields =>
    rw [collect]
    simp only [definition?]
    cases table.enter owner (.record ⟨name, doc, fields⟩) with
    | new table => exact outcome_collectFields table name fields
    | known => rfl
    | conflict first => rfl

/-- What a collected type makes or holds: it is no definition, it is new or it was known. -/
theorem collect?_cases (h : table.collect? owner t = .ok table') :
    (t.definition? = none ∧ table.collectEach (t.owned owner) = .ok table') ∨
    (∃ d, t = d.descriptor ∧ table.get? d.name = none ∧
      (table.put owner d).collectEach (t.owned owner) = .ok table') ∨
    ∃ d, t = d.descriptor ∧ table.Holds d ∧ table' = table := by
  rw [collect?_eq] at h
  cases made : t.definition? with
  | none =>
    rw [made] at h
    exact .inl ⟨rfl, h⟩
  | some d =>
    have same := definition?_eq_some.mp made
    simp only [made] at h
    rcases table.enter_cases owner d with ⟨free, e⟩ | ⟨holds, e⟩ | ⟨other, first, -, -, e⟩
    · rw [e] at h
      exact .inr (.inl ⟨d, same, free, h⟩)
    · rw [e] at h
      cases h
      exact .inr (.inr ⟨d, same, holds, rfl⟩)
    · rw [e] at h
      cases h

def FoundIn (types : List (Owner × Descriptor)) (d : Definition) : Prop :=
  ∃ p ∈ types, Occurs d.descriptor p.2

theorem foundIn_owned (h : FoundIn (t.owned owner) d) : Occurs d.descriptor t := by
  obtain ⟨p, there, inner⟩ := h
  exact inner.tail (mem_children_of_owned there)

theorem collectEach_grown_of {types : List (Owner × Descriptor)}
    (each : ∀ p ∈ types, ∀ table table' : Definitions, table.collect? p.1 p.2 = .ok table' →
      Grown (fun d => Occurs d.descriptor p.2) table table')
    (h : table.collectEach types = .ok table') : Grown (FoundIn types) table table' := by
  induction types generalizing table with
  | nil =>
    cases h
    exact .refl _
  | cons p rest ih =>
    obtain ⟨middle, first, later⟩ := collectEach_cons_ok h
    have firstGrown := each p List.mem_cons_self table middle first
    have restGrown := ih (fun q there => each q (List.mem_cons_of_mem p there)) later
    apply (firstGrown.mono ?_).trans (restGrown.mono ?_)
    · exact fun d inner => ⟨p, List.mem_cons_self, inner⟩
    · exact fun d ⟨q, there, inner⟩ => ⟨q, List.mem_cons_of_mem p there, inner⟩

/-- Collecting a type adds only definitions that occur in it. -/
theorem collect?_grown (h : table.collect? owner t = .ok table') :
    Grown (fun d => Occurs d.descriptor t) table table' := by
  induction t using child_induction generalizing owner table table' with
  | step t ih =>
    have parts {table table' : Definitions} (h : table.collectEach (t.owned owner) = .ok table') :
        Grown (fun d => Occurs d.descriptor t) table table' :=
      (collectEach_grown_of (fun p there _ _ => ih p.2 (mem_children_of_owned there)) h).mono
        fun d => foundIn_owned
    rcases collect?_cases h with ⟨-, h⟩ | ⟨d, same, free, h⟩ | ⟨d, -, -, rfl⟩
    · exact parts h
    · exact .put owner d (same ▸ .refl) free (parts h)
    · exact .refl _

theorem collectEach_grown {types : List (Owner × Descriptor)}
    (h : table.collectEach types = .ok table') : Grown (FoundIn types) table table' :=
  collectEach_grown_of (fun _ _ _ _ => collect?_grown) h

def Covers (table : Definitions) (t : Descriptor) : Prop :=
  ∀ d : Definition, Occurs d.descriptor t → table.Holds d

/-- What the definitions of the table hold is in the table too, but for large definitions, which
are still being collected. -/
def CoveredBelow (table : Definitions) (size : Nat) : Prop :=
  ∀ d, table.Holds d → table.Covers d.descriptor ∨ size ≤ sizeOf d.descriptor

theorem Covers.grown {New : Definition → Prop} (h : table.Covers t)
    (grown : Grown New table table') : table'.Covers t :=
  fun d inner => grown.kept (h d inner)

theorem covers_of_occurs {u : Descriptor} (h : table.Covers t) (inner : Occurs u t) :
    table.Covers u :=
  fun d deeper => h d (Relation.ReflTransGen.trans deeper inner)

/-- A type makes a definition that is held and has children that are covered. -/
theorem covers_of_children (own : ∀ d, t = Definition.descriptor d → table.Holds d)
    (below : ∀ c ∈ t.children, table.Covers c) : table.Covers t := by
  intro d inner
  rcases within_iff.mp inner with same | ⟨c, part, inner⟩
  · exact own d same.symm
  · exact below c part d inner

theorem CoveredBelow.grown {size : Nat} {types : List (Owner × Descriptor)}
    (h : table.CoveredBelow size) (grown : Grown (FoundIn types) table table')
    (covers : ∀ p ∈ types, table'.Covers p.2) : table'.CoveredBelow size := by
  intro d holds
  rcases grown.found holds with old | ⟨-, p, there, inner⟩
  · rcases h d old with covered | large
    · exact .inl (covered.grown grown)
    · exact .inr large
  · exact .inl (covers_of_occurs (covers p there) inner)

theorem collectEach_covers_of {size : Nat} {types : List (Owner × Descriptor)}
    (each : ∀ p ∈ types, ∀ table table' : Definitions, table.CoveredBelow size →
      table.collect? p.1 p.2 = .ok table' → table'.Covers p.2)
    (below : table.CoveredBelow size) (h : table.collectEach types = .ok table') :
    ∀ p ∈ types, table'.Covers p.2 := by
  induction types generalizing table with
  | nil => exact nofun
  | cons p rest ih =>
    obtain ⟨middle, first, later⟩ := collectEach_cons_ok h
    have covers := each p List.mem_cons_self table middle below first
    have grown : Grown (FoundIn [p]) table middle :=
      (collect?_grown first).mono fun d inner => ⟨p, List.mem_cons_self, inner⟩
    have next : middle.CoveredBelow size := by
      apply below.grown grown
      intro q there
      rw [List.mem_singleton.mp there]
      exact covers
    intro q there
    rcases List.mem_cons.mp there with rfl | there
    · exact covers.grown (collectEach_grown later)
    · exact ih (fun q there => each q (List.mem_cons_of_mem p there)) next later q there

/-- A collected type is covered. A definition that was known is covered already, for those that
are still being collected are larger than what they hold. -/
theorem collect?_covers {size : Nat} (small : sizeOf t < size) (below : table.CoveredBelow size)
    (h : table.collect? owner t = .ok table') : table'.Covers t := by
  induction t using child_induction generalizing owner table table' size with
  | step t ih =>
    have parts {size : Nat} {table table' : Definitions} (large : sizeOf t ≤ size)
        (below : table.CoveredBelow size) (h : table.collectEach (t.owned owner) = .ok table') :
        ∀ c ∈ t.children, table'.Covers c := by
      intro c part
      obtain ⟨p, there, rfl⟩ := owned_of_mem_children owner part
      refine collectEach_covers_of (fun q there _ _ below h => ?_) below h p there
      have := sizeOf_child_lt (mem_children_of_owned there)
      exact ih q.2 (mem_children_of_owned there) (by omega) below h
    rcases collect?_cases h with ⟨made, h⟩ | ⟨d, rfl, free, h⟩ | ⟨d, rfl, holds, rfl⟩
    · apply covers_of_children _ (parts (by omega) below h)
      rintro d rfl
      rw [definition?_eq_some.mpr rfl] at made
      cases made
    · have grown := collectEach_grown h
      apply covers_of_children
      · intro e same
        rw [← descriptor_injective same]
        exact grown.kept get?_put_self
      · apply parts (Nat.le_refl _) _ h
        intro e holds
        have started : Grown (fun _ => True) table (table.put owner d) :=
          .put owner d trivial free (.refl _)
        by_cases same : e = d
        · subst same
          exact .inr (Nat.le_refl _)
        · have other : e.name ≠ d.name := by
            intro named
            rw [Holds, named, get?_put_self] at holds
            exact same (Option.some.inj holds).symm
          rw [Holds, get?_put_of_ne other] at holds
          rcases below e holds with covered | large
          · exact .inl (covered.grown started)
          · exact .inr (by omega)
    · rcases below d holds with covered | large
      · exact covered
      · omega

theorem get?_empty (name : String) : empty.get? name = none := rfl

theorem collectEach_covers {types : List (Owner × Descriptor)}
    (h : empty.collectEach types = .ok table) : ∀ p ∈ types, table.Covers p.2 := by
  have nothing : empty.CoveredBelow (sizeOf types) := by
    intro d holds
    rw [Holds, get?_empty] at holds
    cases holds
  refine collectEach_covers_of (fun p there _ _ below h => ?_) nothing h
  have := List.sizeOf_lt_of_mem there
  have : sizeOf p = 1 + sizeOf p.1 + sizeOf p.2 := rfl
  exact collect?_covers (by omega) below h

def Agree (P : Definition → Prop) : Prop := ∀ d e, P d → P e → d.name = e.name → d = e

def Only (P : Definition → Prop) (table : Definitions) : Prop :=
  ∀ name d, table.get? name = some d → d.name = name ∧ P d

theorem only_empty (P : Definition → Prop) : Only P .empty := by
  intro name d there
  rw [get?_empty] at there
  cases there

theorem Only.grown {P New : Definition → Prop} (h : Only P table) (grown : Grown New table table')
    (within : ∀ d, New d → P d) : Only P table' := by
  intro name d there
  rcases grown.found there with old | ⟨named, new⟩
  · exact h name d old
  · exact ⟨named, within d new⟩

theorem collectEach_ok_of {P : Definition → Prop} {types : List (Owner × Descriptor)}
    (each : ∀ p ∈ types, ∀ table : Definitions, Only P table → ∃ table', table.collect? p.1 p.2 = .ok table')
    (within : ∀ d, FoundIn types d → P d) (only : Only P table) :
    ∃ table', table.collectEach types = .ok table' := by
  induction types generalizing table with
  | nil => exact ⟨table, rfl⟩
  | cons p rest ih =>
    obtain ⟨middle, first⟩ := each p List.mem_cons_self table only
    have next := only.grown (collect?_grown first)
      fun d inner => within d ⟨p, List.mem_cons_self, inner⟩
    rw [collectEach_cons, first]
    apply ih (fun q there => each q (List.mem_cons_of_mem p there)) _ next
    exact fun d ⟨q, there, inner⟩ => within d ⟨q, List.mem_cons_of_mem p there, inner⟩

/-- Definitions that agree are collected without a conflict. -/
theorem collect?_ok {P : Definition → Prop} (agree : Agree P) (only : Only P table)
    (within : ∀ d : Definition, Occurs d.descriptor t → P d) :
    ∃ table', table.collect? owner t = .ok table' := by
  induction t using child_induction generalizing owner table with
  | step t ih =>
    have parts {table : Definitions} (only : Only P table) :
        ∃ table', table.collectEach (t.owned owner) = .ok table' := by
      apply collectEach_ok_of _ (fun d found => within d (foundIn_owned found)) only
      intro p there table only
      have part := mem_children_of_owned there
      exact ih p.2 part only fun d inner => within d (inner.tail part)
    rw [collect?_eq]
    cases made : t.definition? with
    | none => exact parts only
    | some d =>
      have hd : P d := within d (definition?_eq_some.mp made ▸ .refl)
      rcases table.enter_cases owner d with ⟨free, e⟩ | ⟨-, e⟩ | ⟨other, first, there, differs, -⟩
      · simp only [e]
        exact parts (only.grown (.put owner d hd free (.refl _)) fun _ h => h)
      · simp only [e]
        exact ⟨table, rfl⟩
      · have ⟨named, known⟩ := only _ _ there
        exact absurd (agree other d known hd named) differs

/-- Types are collected exactly when the definitions in them agree. -/
theorem collectEach_empty_ok {types : List (Owner × Descriptor)} :
    (∃ table, empty.collectEach types = .ok table) ↔ Agree (FoundIn types) := by
  constructor
  · rintro ⟨table, h⟩ d e ⟨p, there, inner⟩ ⟨q, thereToo, innerToo⟩ named
    have held := collectEach_covers h p there d inner
    rw [Holds, named, collectEach_covers h q thereToo e innerToo] at held
    exact (Option.some.inj held).symm
  · intro agree
    apply collectEach_ok_of _ (fun _ h => h) (only_empty _)
    intro p there table only
    exact collect?_ok agree only fun d inner => ⟨p, there, inner⟩

/-- The table of collected types holds the definitions in them, each under its own name. -/
theorem get?_of_collectEach_empty {types : List (Owner × Descriptor)}
    (h : empty.collectEach types = .ok table) (name : String) (d : Definition) :
    table.get? name = some d ↔ d.name = name ∧ FoundIn types d := by
  constructor
  · intro there
    rcases (collectEach_grown h).found there with old | new
    · rw [get?_empty] at old
      cases old
    · exact new
  · rintro ⟨rfl, p, there, inner⟩
    exact collectEach_covers h p there d inner

end Definitions
end CommandBridge
