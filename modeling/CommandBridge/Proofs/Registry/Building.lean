import CommandBridge.Proofs.Schema.Collection
import CommandBridge.Proofs.Schema.References

/-!
# What a build checks

Entering a command and entering a socket are one step: a name is taken, the declaration is
checked by itself, and its types are collected. A build succeeds exactly when no name is taken
twice, every declaration passes its own check, the types are collected without a conflict and
every reference then resolves.
-/

set_option autoImplicit false

namespace CommandBridge

theorem Except.bind_eq_ok {ε α β : Type} {x : Except ε α} {f : α → Except ε β} {b : β} :
    (x >>= f) = .ok b ↔ ∃ a, x = .ok a ∧ f a = .ok b := by
  cases x with
  | error e => exact ⟨nofun, nofun⟩
  | ok a => exact ⟨fun h => ⟨a, rfl, h⟩, fun ⟨a', same, h⟩ => by cases same; exact h⟩

theorem Except.bind_eq_error {ε α β : Type} {x : Except ε α} {f : α → Except ε β} {e : ε} :
    (x >>= f) = .error e ↔ x = .error e ∨ ∃ a, x = .ok a ∧ f a = .error e := by
  cases x with
  | error e' =>
    exact ⟨fun h => .inl (by cases h; rfl), fun h => by
      rcases h with same | ⟨_, taken, _⟩
      · cases same; rfl
      · cases taken⟩
  | ok a => exact ⟨fun h => .inr ⟨a, rfl, h⟩, fun h => by
      rcases h with failed | ⟨_, same, h⟩
      · cases failed
      · cases same; exact h⟩

theorem Except.map_eq_ok {ε α β : Type} {x : Except ε α} {f : α → β} {b : β} :
    x.map f = .ok b ↔ ∃ a, x = .ok a ∧ f a = b := by
  cases x with
  | error e => exact ⟨nofun, nofun⟩
  | ok a => simp [Except.map]

theorem Except.andThen_eq_ok {ε : Type} {x y : Except ε Unit} :
    (x >>= fun _ => y) = .ok () ↔ x = .ok () ∧ y = .ok () := by
  rw [bind_eq_ok]
  exact ⟨fun ⟨_, hx, hy⟩ => ⟨hx, hy⟩, fun ⟨hx, hy⟩ => ⟨(), hx, hy⟩⟩

namespace Definitions

variable {table : Definitions}

theorem mem_toList_iff (distinct : table.names.Nodup) (own : Only (fun _ => True) table)
    {x : Definition} : x ∈ table.toList ↔ table.Holds x := by
  constructor
  · intro h
    obtain ⟨⟨name, entry⟩, there, rfl⟩ := List.mem_map.mp h
    have found : table.get? name = some entry.definition := by
      rw [get?, Keyed.lookup_of_mem distinct there]
      rfl
    have named := (own name _ found).1
    rw [Holds, named]
    exact found
  · intro h
    obtain ⟨entry, found, rfl⟩ := Option.map_eq_some_iff.mp h
    exact List.mem_map.mpr ⟨_, Keyed.mem_of_lookup found, rfl⟩

/-- The definitions of a table are listed in the order of their names. -/
theorem toList_names (distinct : table.names.Nodup) (own : Only (fun _ => True) table) :
    table.toList.map Definition.name = table.names := by
  rw [toList, names, Keyed.keys, List.map_map]
  refine List.map_congr_left fun m there => (own m.1 m.2.definition ?_).1
  rw [get?, Keyed.lookup_of_mem distinct there]
  rfl

/-- The definitions of a table are checked when each type among their fields resolves. -/
theorem checkAllReferences_eq_ok (distinct : table.names.Nodup)
    (own : Only (fun _ => True) table) : table.checkAllReferences = .ok () ↔
      ∀ x, table.Holds x → ∀ c ∈ x.descriptor.children, table.Resolves c := by
  rw [checkAllReferences, Registry.forM_eq_ok]
  constructor
  · intro h x holds c part
    have checked := h x ((mem_toList_iff distinct own).mpr holds)
    cases x with
    | enum shape => cases part
    | record shape =>
      obtain ⟨f, hf, rfl⟩ := List.mem_map.mp part
      exact checkReferences_eq_ok.mp (Registry.forM_eq_ok.mp checked f hf)
  · intro h x there
    have holds := (mem_toList_iff distinct own).mp there
    cases x with
    | enum shape => rfl
    | record shape =>
      refine Registry.forM_eq_ok.mpr fun f hf => checkReferences_eq_ok.mpr ?_
      exact h _ holds f.type (List.mem_map.mpr ⟨f, hf, rfl⟩)

end Definitions

namespace Registry

open Definitions

variable {A : Application} {p p' : Progress}

/-- The names of a table that was collected are distinct, and each is its definition's own. -/
theorem collected_table {types : List (Owner × Descriptor)} {table : Definitions}
    (h : empty.collectEach types = .ok table) :
    table.names.Nodup ∧ Only (FoundIn types) table := by
  constructor
  · exact (collectEach_grown h).names_nodup List.nodup_nil
  · exact (only_empty _).grown (collectEach_grown h) fun _ found => found

theorem Progress.take_eq_ok {name : String} :
    p.take name = .ok p' ↔ name ∉ p.names ∧ p' = { p with names := name :: p.names } := by
  by_cases taken : name ∈ p.names
  · simp [Progress.take, taken]
  · simp [Progress.take, taken, eq_comm]

theorem Progress.collect_eq_ok {types : List (Owner × Descriptor)} :
    p.collect types = .ok p' ↔
      p.definitions.collectEach types = .ok p'.definitions ∧ p'.names = p.names := by
  induction types generalizing p with
  | nil =>
    obtain ⟨names, table⟩ := p
    obtain ⟨names', table'⟩ := p'
    simp [Progress.collect, collectEach, pure, Except.pure, eq_comm, and_comm]
  | cons t rest ih =>
    rw [collectEach_cons]
    change ((p.definitions.collect? t.1 t.2 >>= fun table => pure { p with definitions := table })
      >>= fun p => p.collect rest) = .ok p' ↔ _
    cases p.definitions.collect? t.1 t.2 with
    | error e => exact ⟨nofun, nofun⟩
    | ok table => exact ih

section Enter

variable {α : Type} (name : α → String) (check : α → Except BuildError Unit)
  (types : α → List (Owner × Descriptor))

def enter (p : Progress) (x : α) : Except BuildError Progress := do
  let p ← p.take (name x)
  check x
  p.collect (types x)

theorem enter_eq_ok {x : α} :
    enter name check types p x = .ok p' ↔ name x ∉ p.names ∧ check x = .ok () ∧
      p.definitions.collectEach (types x) = .ok p'.definitions ∧
      p'.names = name x :: p.names := by
  simp only [enter, Except.bind_eq_ok, Progress.take_eq_ok, Progress.collect_eq_ok]
  constructor
  · rintro ⟨q, ⟨free, rfl⟩, ⟨⟩, checked, collected, names⟩
    exact ⟨free, checked, collected, names⟩
  · rintro ⟨free, checked, collected, names⟩
    exact ⟨_, ⟨free, rfl⟩, (), checked, collected, names⟩

/-- Declarations are entered one after another exactly when their names are distinct and free,
each passes its check, and all their types are collected. -/
theorem enterAll_eq_ok (xs : List α) (p p' : Progress) :
    xs.foldlM (enter name check types) p = .ok p' ↔
      (xs.map name).Nodup ∧ (∀ x ∈ xs, name x ∉ p.names) ∧ (∀ x ∈ xs, check x = .ok ()) ∧
      p.definitions.collectEach (xs.flatMap types) = .ok p'.definitions ∧
      p'.names = (xs.map name).reverse ++ p.names := by
  induction xs generalizing p with
  | nil =>
    obtain ⟨names, table⟩ := p
    obtain ⟨names', table'⟩ := p'
    simp [collectEach, pure, Except.pure, eq_comm, and_comm]
  | cons x rest ih =>
    simp only [List.foldlM_cons, Except.bind_eq_ok, enter_eq_ok, ih, List.map_cons,
      List.nodup_cons, List.forall_mem_cons, List.flatMap_cons, List.reverse_cons,
      List.append_assoc, collectEach, List.foldlM_append]
    constructor
    · rintro ⟨q, ⟨free, checked, collected, names⟩, distinct, others, checks, collects, all⟩
      rw [names] at others all
      refine ⟨⟨?_, distinct⟩, ⟨free, ?_⟩, ⟨checked, checks⟩, ⟨_, collected, collects⟩, all⟩
      · intro again
        obtain ⟨y, hy, same⟩ := List.mem_map.mp again
        exact others y hy (same ▸ List.mem_cons_self)
      · intro y hy there
        exact others y hy (List.mem_cons_of_mem _ there)
    · rintro ⟨⟨once, distinct⟩, ⟨free, others⟩, ⟨checked, checks⟩, ⟨table, collected, collects⟩, all⟩
      refine ⟨⟨name x :: p.names, table⟩, ⟨free, checked, collected, rfl⟩, distinct, ?_, checks,
        collects, all⟩
      intro y hy there
      rcases List.mem_cons.mp there with same | there
      · exact once (List.mem_map.mpr ⟨y, hy, same⟩)
      · exact others y hy there

end Enter

theorem enterModels_eq_ok {models : List Descriptor} :
    models.foldlM enterModel p = .ok p' ↔
      p.definitions.collectEach (models.map fun t => (.model t.typeName?, t)) =
        .ok p'.definitions ∧ p'.names = p.names := by
  induction models generalizing p with
  | nil =>
    obtain ⟨names, table⟩ := p
    obtain ⟨names', table'⟩ := p'
    simp [collectEach, pure, Except.pure, eq_comm, and_comm]
  | cons t rest ih =>
    simp only [List.foldlM_cons, Except.bind_eq_ok, enterModel, Progress.collect_eq_ok, ih,
      List.map_cons, collectEach_singleton]
    rw [collectEach_cons, Except.bind_eq_ok]
    constructor
    · rintro ⟨q, ⟨collected, names⟩, collects, all⟩
      exact ⟨⟨_, collected, collects⟩, all.trans names⟩
    · rintro ⟨⟨table, collected, collects⟩, all⟩
      exact ⟨⟨p.names, table⟩, ⟨collected, rfl⟩, collects, all⟩

end Registry

namespace Declarations

variable {A : Application} (d : Declarations A)

def modelTypes : List (Owner × Descriptor) := d.models.map fun t => (.model t.typeName?, t)

def offeredTypes : List (Owner × Descriptor) :=
  d.commands.flatMap Command.types ++ d.sockets.flatMap SocketHandler.eventTypes

def names : List String := d.commands.map Command.name ++ d.sockets.map SocketHandler.name

end Declarations

namespace Registry

open Definitions

variable {A : Application} {d : Declarations A} {table : Definitions} {r : Registry A}

theorem collectAll_eq_ok : collectAll d = .ok table ↔
    d.names.Nodup ∧ (∀ c ∈ d.commands, c.validate = .ok ()) ∧
    (∀ s ∈ d.sockets, s.validate = .ok ()) ∧
    empty.collectEach (d.modelTypes ++ d.offeredTypes) = .ok table := by
  have commands := enterAll_eq_ok Command.name Command.validate Command.types d.commands
  have sockets := enterAll_eq_ok SocketHandler.name SocketHandler.validate
    SocketHandler.eventTypes d.sockets
  have steps : collectAll d = (do
      let p ← d.models.foldlM enterModel ⟨[], .empty⟩
      let p ← d.commands.foldlM (enter Command.name Command.validate Command.types) p
      let p ← d.sockets.foldlM
        (enter SocketHandler.name SocketHandler.validate SocketHandler.eventTypes) p
      return p.definitions) := rfl
  simp only [steps, Except.bind_eq_ok, enterModels_eq_ok, commands, sockets, pure, Except.pure,
    Declarations.names, Declarations.modelTypes, Declarations.offeredTypes, collectEach,
    List.foldlM_append, List.nodup_append, Except.ok.injEq]
  constructor
  · rintro ⟨p, ⟨models, namesP⟩, q, ⟨distinctC, -, checkedC, typesC, namesQ⟩, s,
      ⟨distinctS, free, checkedS, typesS, -⟩, rfl⟩
    rw [namesP, List.append_nil] at namesQ
    refine ⟨⟨distinctC, distinctS, ?_⟩, checkedC, checkedS, _, models, _, typesC, typesS⟩
    rintro name taken _ again rfl
    obtain ⟨x, hx, rfl⟩ := List.mem_map.mp again
    apply free x hx
    rw [namesQ]
    exact List.mem_reverse.mpr taken
  · rintro ⟨⟨distinctC, distinctS, apart⟩, checkedC, checkedS, tableM, models, tableC, typesC, typesS⟩
    refine ⟨⟨[], tableM⟩, ⟨models, rfl⟩, ⟨(d.commands.map Command.name).reverse, tableC⟩,
      ⟨distinctC, fun _ _ => List.not_mem_nil, checkedC, typesC, (List.append_nil _).symm⟩,
      ⟨_, table⟩, ⟨distinctS, ?_, checkedS, typesS, rfl⟩, rfl⟩
    intro x hx there
    exact apart _ (List.mem_reverse.mp there) _ (List.mem_map.mpr ⟨x, hx, rfl⟩) rfl

theorem resolveAll_eq_ok : resolveAll d table = .ok () ↔
    (∀ p ∈ d.offeredTypes, table.Resolves p.2) ∧ table.checkAllReferences = .ok () := by
  have commands : (d.commands.forM fun c => c.types.forM fun t => table.checkReferences t.1 t.2) =
      .ok () ↔ ∀ p ∈ d.commands.flatMap Command.types, table.Resolves p.2 := by
    simp only [forM_eq_ok, checkReferences_eq_ok, List.mem_flatMap]
    exact ⟨fun h p ⟨c, hc, hp⟩ => h c hc p hp, fun h c hc p hp => h p ⟨c, hc, hp⟩⟩
  have sockets : (d.sockets.forM fun s => s.eventTypes.forM fun t =>
      table.checkReferences t.1 t.2) =
      .ok () ↔ ∀ p ∈ d.sockets.flatMap SocketHandler.eventTypes, table.Resolves p.2 := by
    simp only [forM_eq_ok, checkReferences_eq_ok, List.mem_flatMap]
    exact ⟨fun h p ⟨s, hs, hp⟩ => h s hs p hp, fun h s hs p hp => h p ⟨s, hs, hp⟩⟩
  rw [resolveAll, Except.andThen_eq_ok, commands, Except.andThen_eq_ok, sockets, ← and_assoc,
    Declarations.offeredTypes, List.forall_mem_append]

def ofTable (d : Declarations A) (table : Definitions) : Registry A where
  commands := Keyed.sort (d.commands.map fun c => (c.name, c))
  sockets := Keyed.sort (d.sockets.map fun s => (s.name, s))
  definitions := table

theorem build_eq_ok : build d = .ok r ↔
    ((d.names.Nodup ∧ (∀ c ∈ d.commands, c.validate = .ok ()) ∧
      (∀ s ∈ d.sockets, s.validate = .ok ()) ∧
      empty.collectEach (d.modelTypes ++ d.offeredTypes) = .ok r.definitions) ∧
    ((∀ p ∈ d.offeredTypes, r.definitions.Resolves p.2) ∧
      r.definitions.checkAllReferences = .ok ())) ∧
    r = ofTable d r.definitions := by
  simp only [build, Except.bind_eq_ok, pure, Except.pure, Except.ok.injEq]
  rw [← resolveAll_eq_ok, ← collectAll_eq_ok]
  constructor
  · rintro ⟨table, collected, ⟨⟩, resolved, rfl⟩
    exact ⟨⟨collected, resolved⟩, rfl⟩
  · rintro ⟨⟨collected, resolved⟩, same⟩
    exact ⟨r.definitions, collected, (), resolved, same.symm⟩

end Registry
end CommandBridge
