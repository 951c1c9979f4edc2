import CommandBridge.Proofs.Registry.WellFormed
import CommandBridge.Proofs.TypeScript.Expressible
import CommandBridge.Script.Application

/-!
# What a built registry generates

A build collects the types of its models and checks nothing else about them. So a reference that
stands in a model outside all records may name nothing, and a stream that stands in a field of a
model's record is found by no check and has no expression. For all other types a build is enough:
what they lead to, through parts and through definitions, is defined and free of streams.
-/

set_option autoImplicit false

namespace CommandBridge

open Descriptor

/-- The parts of a type outside its records. -/
def Descriptor.outerParts : Descriptor → List Descriptor
  | .record .. => []
  | t => t.children

theorem Descriptor.mem_children_of_outerParts {t c : Descriptor} (h : c ∈ t.outerParts) :
    c ∈ t.children := by
  cases t with
  | record => cases h
  | _ => exact h

namespace Definitions

variable {table : Definitions}

def reachedParts (table : Definitions) : Descriptor → List Descriptor
  | .reference name => (table.get? name).toList.map Definition.descriptor
  | t => t.children

/-- The type `t` leads to `u`, through parts and through definitions. -/
def Reaches (table : Definitions) (t u : Descriptor) : Prop := Within table.reachedParts u t

theorem reaches_of_occurs {t u : Descriptor} (h : Occurs u t) : table.Reaches t u := by
  refine h.mono fun t c part => ?_
  cases t with
  | reference => cases part
  | _ => exact part

/-- What parts keep and definitions have holds of all that a type leads to. -/
theorem Reaches.invariant {P : Descriptor → Prop} {t u : Descriptor} (h : table.Reaches t u)
    (parts : ∀ t, P t → ∀ c ∈ t.children, P c)
    (defined : ∀ name x, table.get? name = some x → P x.descriptor) (start : P t) : P u := by
  apply Within.invariant h _ start
  intro t ht c part
  cases t with
  | reference name =>
    obtain ⟨x, found, rfl⟩ := List.mem_map.mp part
    exact defined name x (Option.mem_toList.mp found)
  | _ => exact parts _ ht c part

/-- References resolve everywhere in a type when they do outside its records and in the
definitions of these. -/
theorem resolves_of_outer {t : Descriptor} (covers : table.Covers t)
    (fields : ∀ x, table.Holds x → ∀ c ∈ x.descriptor.children, table.Resolves c)
    (outer : ∀ name, Within outerParts (.reference name) t → table.contains name = true) :
    table.Resolves t := by
  induction t using child_induction with
  | step t ih =>
    apply resolves_iff.mpr
    constructor
    · rintro name rfl
      exact outer name .refl
    · intro c part
      by_cases record : ∃ name doc fields, t = .record name doc fields
      · obtain ⟨name, doc, shapes, rfl⟩ := record
        have held : table.Holds (.record ⟨name, doc, shapes⟩) := covers _ .refl
        exact fields _ held c part
      · have outerPart : c ∈ t.outerParts := by
          cases t with
          | record name doc shapes => exact absurd ⟨name, doc, shapes, rfl⟩ record
          | _ => exact part
        apply ih c part (covers_of_occurs covers (.head part .refl))
        exact fun name inner => outer name (inner.tail outerPart)

end Definitions

variable {A : Application}

theorem Command.returns_cases (c : Command A) :
    c.returns = c.content ∨ c.returns = .stream c.content := by
  cases kind : c.kind with
  | unary => simp [content, kind]
  | stream => cases given : c.returns <;> simp [content, kind, payload?, given]

namespace Declarations

/-- The types of the values that commands and sockets take and give. -/
def contents (d : Declarations A) : List Descriptor :=
  d.commands.flatMap (fun c => c.params.map Param.type ++ [c.content]) ++
    d.sockets.flatMap fun s => s.eventTypes.map Prod.snd

end Declarations

namespace Registry

open Definitions TypeScript

section Built

variable {d : Declarations A} {r : Registry A}

/-- The types of a command or a socket that passes its own check are streamless. -/
theorem contents_streamless (commands : ∀ c ∈ d.commands, c.WellFormed)
    (sockets : ∀ s ∈ d.sockets, s.WellFormed) : ∀ t ∈ d.contents, t.Streamless := by
  intro t there
  rcases List.mem_append.mp there with there | there
  · obtain ⟨c, hc, there⟩ := List.mem_flatMap.mp there
    have ⟨_, params, served⟩ := commands c hc
    rcases List.mem_append.mp there with there | there
    · obtain ⟨p, hp, rfl⟩ := List.mem_map.mp there
      exact params p hp
    · rw [List.mem_singleton.mp there, Command.content]
      cases kind : c.kind with
      | unary =>
        rw [kind] at served
        exact served.2
      | stream =>
        rw [kind] at served
        obtain ⟨-, u, returns, streamless⟩ := served
        simpa [Command.payload?, returns] using streamless
  · obtain ⟨s, hs, there⟩ := List.mem_flatMap.mp there
    obtain ⟨p, hp, rfl⟩ := List.mem_map.mp there
    exact (sockets s hs).events_streamless p hp

/-- A declared type is one of the contents, or the stream of one. -/
theorem offered_cases {p : Owner × Descriptor} (hp : p ∈ d.offeredTypes) :
    ∃ t ∈ d.contents, p.2 = t ∨ p.2 = .stream t := by
  rcases List.mem_append.mp hp with hp | hp
  · obtain ⟨c, hc, hp⟩ := List.mem_flatMap.mp hp
    have content {t : Descriptor} (ht : t ∈ c.params.map Param.type ++ [c.content]) :
        t ∈ d.contents := List.mem_append_left _ (List.mem_flatMap.mpr ⟨c, hc, ht⟩)
    rcases List.mem_append.mp hp with hp | hp
    · obtain ⟨param, hparam, rfl⟩ := List.mem_map.mp hp
      exact ⟨param.type, content (List.mem_append_left _ (List.mem_map.mpr ⟨param, hparam, rfl⟩)),
        .inl rfl⟩
    · rw [List.mem_singleton.mp hp]
      exact ⟨c.content, content (List.mem_append_right _ List.mem_cons_self), c.returns_cases⟩
  · obtain ⟨s, hs, hp⟩ := List.mem_flatMap.mp hp
    exact ⟨p.2, List.mem_append_right _ (List.mem_flatMap.mpr ⟨s, hs,
      List.mem_map.mpr ⟨p, hp, rfl⟩⟩), .inl rfl⟩

theorem contents_offered {t : Descriptor} (there : t ∈ d.contents) :
    ∃ p ∈ d.offeredTypes, Occurs t p.2 := by
  rcases List.mem_append.mp there with there | there
  · obtain ⟨c, hc, there⟩ := List.mem_flatMap.mp there
    have declared {p : Owner × Descriptor} (hp : p ∈ c.types) : p ∈ d.offeredTypes :=
      List.mem_append_left _ (List.mem_flatMap.mpr ⟨c, hc, hp⟩)
    rcases List.mem_append.mp there with there | there
    · obtain ⟨param, hparam, rfl⟩ := List.mem_map.mp there
      exact ⟨_, declared (List.mem_append_left _ (List.mem_map.mpr ⟨param, hparam, rfl⟩)), .refl⟩
    · rw [List.mem_singleton.mp there]
      refine ⟨(.returns c.name, c.returns), declared (List.mem_append_right _ List.mem_cons_self), ?_⟩
      rcases c.returns_cases with same | pushed
      · exact same ▸ .refl
      · rw [pushed]
        exact .single List.mem_cons_self
  · obtain ⟨s, hs, there⟩ := List.mem_flatMap.mp there
    obtain ⟨p, hp, rfl⟩ := List.mem_map.mp there
    exact ⟨p, List.mem_append_right _ (List.mem_flatMap.mpr ⟨s, hs, hp⟩), .refl⟩

/-- A command's contents are among its types or pushed by them. -/
theorem contents_resolve (resolves : ∀ p ∈ d.offeredTypes, r.definitions.Resolves p.2) :
    ∀ t ∈ d.contents, r.definitions.Resolves t := by
  intro t there name inner
  obtain ⟨p, hp, outer⟩ := contents_offered there
  exact resolves p hp name (inner.trans outer)

/-- What a build knows of its registry: the definitions are those of the declarations, all but the
models is checked, and so are the fields of the definitions. -/
structure Checked (d : Declarations A) (r : Registry A) : Prop where
  distinct : r.definitions.names.Nodup
  found : ∀ name x, r.definitions.get? name = some x ↔
    x.name = name ∧ FoundIn (d.modelTypes ++ d.offeredTypes) x
  commands : ∀ c ∈ d.commands, c.WellFormed
  sockets : ∀ s ∈ d.sockets, s.WellFormed
  offered : ∀ p ∈ d.offeredTypes, r.definitions.Resolves p.2
  fields : ∀ x, r.definitions.Holds x → ∀ c ∈ x.descriptor.children, r.definitions.Resolves c
  table : r = ofTable d r.definitions

theorem checked_of_build (built : build d = .ok r) : Checked d r := by
  obtain ⟨⟨⟨-, commands, sockets, collected⟩, offered, fields⟩, table⟩ := build_eq_ok.mp built
  obtain ⟨unique, only⟩ := collected_table collected
  rw [checkAllReferences_eq_ok unique fun name x there => ⟨(only name x there).1, trivial⟩] at fields
  exact ⟨unique, get?_of_collectEach_empty collected,
    fun c hc => Command.validate_eq_ok.mp (commands c hc),
    fun s hs => SocketHandler.validate_eq_ok.mp (sockets s hs), offered, fields, table⟩

namespace Checked

variable (checked : Checked d r)

include checked

theorem own : Only (fun _ => True) r.definitions :=
  fun name x there => ⟨((checked.found name x).mp there).1, trivial⟩

theorem holds_iff {x : Definition} :
    r.definitions.Holds x ↔ FoundIn (d.modelTypes ++ d.offeredTypes) x :=
  (checked.found x.name x).trans ⟨fun h => h.2, fun h => ⟨rfl, h⟩⟩

theorem mem_commands {c : Command A} (listed : c ∈ r.commandList) : c ∈ d.commands := by
  obtain ⟨m, there, rfl⟩ := List.mem_map.mp listed
  rw [checked.table] at there
  obtain ⟨c, hc, rfl⟩ := List.mem_map.mp (Keyed.mem_of_mem_sort there)
  exact hc

theorem mem_sockets {s : SocketHandler A} (listed : s ∈ r.socketList) : s ∈ d.sockets := by
  obtain ⟨m, there, rfl⟩ := List.mem_map.mp listed
  rw [checked.table] at there
  obtain ⟨s, hs, rfl⟩ := List.mem_map.mp (Keyed.mem_of_mem_sort there)
  exact hs

theorem covers_model {m : Descriptor} (hm : m ∈ d.models) : r.definitions.Covers m := by
  intro x inner
  exact checked.holds_iff.mpr ⟨_, List.mem_append_left _ (List.mem_map.mpr ⟨m, hm, rfl⟩), inner⟩

/-- A definition stands in a model or in the content of a command or socket. -/
theorem holds_cases {x : Definition} (holds : r.definitions.Holds x) :
    ∃ t ∈ d.models ++ d.contents, Occurs x.descriptor t := by
  obtain ⟨p, there, inner⟩ := checked.holds_iff.mp holds
  rcases List.mem_append.mp there with there | there
  · obtain ⟨m, hm, rfl⟩ := List.mem_map.mp there
    exact ⟨m, List.mem_append_left _ hm, inner⟩
  · obtain ⟨t, ht, same | pushed⟩ := offered_cases there
    · exact ⟨t, List.mem_append_right _ ht, same ▸ inner⟩
    · rw [pushed] at inner
      rcases within_iff.mp inner with same | ⟨c, part, inner⟩
      · cases x <;> cases same
      · rw [List.mem_singleton.mp part] at inner
        exact ⟨t, List.mem_append_right _ ht, inner⟩

/-- A type whose own references resolve leads to none that does not. -/
theorem reaches_defined {t : Descriptor} (resolves : r.definitions.Resolves t) {name : String}
    (h : r.definitions.Reaches t (.reference name)) : r.definitions.contains name = true := by
  have reached : r.definitions.Resolves (.reference name) := by
    apply h.invariant (fun t ht c part => (resolves_iff.mp ht).2 c part) _ resolves
    intro name x found
    apply resolves_iff.mpr
    constructor
    · rintro name same
      cases x <;> cases same
    · apply checked.fields x
      rw [Holds, ((checked.found name x).mp found).1]
      exact found
  exact reached name .refl

/-- When models hold no stream, no type but that of a stream leads to one. -/
theorem reaches_streamless (models : ∀ m ∈ d.models, m.Streamless) {t u : Descriptor}
    (ht : t ∈ d.models ++ d.contents) : ¬r.definitions.Reaches t (.stream u) := by
  have streamless : ∀ t ∈ d.models ++ d.contents, t.Streamless := by
    rw [List.forall_mem_append]
    exact ⟨models, contents_streamless checked.commands checked.sockets⟩
  intro h
  have reached : (Descriptor.stream u).Streamless := by
    apply h.invariant (fun t ht c part => (streamless_iff.mp ht).2 c part) _ (streamless t ht)
    intro name x found
    have holds : r.definitions.Holds x := by
      rw [Holds, ((checked.found name x).mp found).1]
      exact found
    obtain ⟨t, ht, inner⟩ := checked.holds_cases holds
    exact (streamless t ht).of_occurs inner
  exact reached u .refl

/-- The commands and sockets of a built registry have expressions. A client is generated exactly
when no field of a definition writes out a stream. -/
theorem generate_succeeds : Succeeds (generate r) ↔
    ∀ x, r.definitions.Holds x → ∀ c ∈ x.descriptor.children, ∀ u,
      ¬Within writtenParts (.stream u) c := by
  have pushes : ∀ c ∈ r.commandList, c.kind = .stream → c.payload?.isSome := by
    intro c listed kind
    have served := (checked.commands c (checked.mem_commands listed)).served
    rw [kind] at served
    obtain ⟨-, t, returns, -⟩ := served
    rw [Command.payload?, returns]
    rfl
  have written : ∀ t ∈ d.contents, r.definitions.Expressible t := fun t ht =>
    (contents_resolve checked.offered t ht).expressible
      (contents_streamless checked.commands checked.sockets t ht)
  rw [TypeScript.generate_succeeds checked.own pushes]
  constructor
  · rintro ⟨definitions, -⟩ x holds c part
    exact (checked.fields x holds c part).expressible_iff.mp (definitions x holds c part)
  · intro fields
    refine ⟨fun x holds c part => ?_, fun c listed => ?_, fun s listed p hp => ?_⟩
    · exact (checked.fields x holds c part).expressible_iff.mpr (fields x holds c part)
    · have content : ∀ t ∈ c.params.map Param.type ++ [c.content], t ∈ d.contents := fun t ht =>
        List.mem_append_left _ (List.mem_flatMap.mpr ⟨c, checked.mem_commands listed, ht⟩)
      rw [List.forall_mem_append, List.forall_mem_map] at content
      exact ⟨fun p hp => written _ (content.1 p hp), written _ (content.2 _ List.mem_cons_self)⟩
    · exact written _ (List.mem_append_right _ (List.mem_flatMap.mpr
        ⟨s, checked.mem_sockets listed, List.mem_map.mpr ⟨p, hp, rfl⟩⟩))

theorem generates_of_streamless (models : ∀ m ∈ d.models, m.Streamless) : Succeeds (generate r) := by
  have streamless : ∀ t ∈ d.models ++ d.contents, t.Streamless :=
    List.forall_mem_append.mpr ⟨models, contents_streamless checked.commands checked.sockets⟩
  refine checked.generate_succeeds.mpr fun x holds c part u written => ?_
  obtain ⟨t, ht, inner⟩ := checked.holds_cases holds
  exact (streamless t ht).of_occurs inner u ((occurs_of_written written).tail part)

end Checked

/-- What a built registry leads to and generates is at fault only through a model. All references
that are reached are defined exactly when those in models outside records are; no stream is
reached, but as what a streaming command returns, exactly when no model holds one; and a client is
generated exactly when no record in a model writes out a stream in a field. -/
theorem generates_unless_model_at_fault (built : build d = .ok r) :
    ((∀ t ∈ d.models ++ d.offeredTypes.map Prod.snd, ∀ name,
        r.definitions.Reaches t (.reference name) → r.definitions.contains name = true) ↔
      ∀ m ∈ d.models, ∀ name,
        Within outerParts (.reference name) m → r.definitions.contains name = true) ∧
    ((∀ t ∈ d.models ++ d.contents, ∀ u, ¬r.definitions.Reaches t (.stream u)) ↔
      ∀ m ∈ d.models, m.Streamless) ∧
    ((∃ text, generate r = .ok text) ↔ ∀ m ∈ d.models, ∀ x : Definition, Occurs x.descriptor m →
      ∀ c ∈ x.descriptor.children, ∀ u, ¬Within writtenParts (.stream u) c) := by
  have checked := checked_of_build built
  refine ⟨⟨fun h m hm name inner => ?_, fun models t ht name => ?_⟩,
    ⟨fun h m hm u inner => ?_, fun models t ht u => checked.reaches_streamless models ht⟩, ?_⟩
  · apply h m (List.mem_append_left _ hm)
    exact reaches_of_occurs (inner.mono fun _ _ => mem_children_of_outerParts)
  · apply checked.reaches_defined
    rcases List.mem_append.mp ht with hm | ht
    · exact resolves_of_outer (checked.covers_model hm) checked.fields (models t hm)
    · obtain ⟨p, hp, rfl⟩ := List.mem_map.mp ht
      exact checked.offered p hp
  · exact h m (List.mem_append_left _ hm) u (reaches_of_occurs inner)
  · rw [← Succeeds, checked.generate_succeeds]
    constructor
    · intro h m hm x inner
      exact h x (checked.covers_model hm x inner)
    · intro models x holds c part u written
      obtain ⟨t, ht, inner⟩ := checked.holds_cases holds
      rcases List.mem_append.mp ht with hm | ht
      · exact models t hm x inner c part u written
      · have streamless := contents_streamless checked.commands checked.sockets t ht
        exact (streamless.of_occurs inner) u ((occurs_of_written written).tail part)

end Built

def roster : Declarations Script.application where
  models := []
  commands := [{
    name := "enlist", kind := .unary
    params := [⟨"node", .record "Node" none [.required "next" (.optional (.reference "Node"))], false⟩]
    returns := .null, doc := none, module := none
    handler := some (.unary .inline (Script.CallRun.start [])) }]
  sockets := []

theorem roster_generates : ∃ r, build roster = .ok r ∧ ∃ text, generate r = .ok text := by
  obtain ⟨r, built⟩ : ∃ r, build roster = .ok r := ⟨_, rfl⟩
  exact ⟨r, built, (generates_unless_model_at_fault built).2.2.mpr nofun⟩

/-- A model with a stream in a field, and one that refers to nothing. -/
def feed : Declarations Script.application where
  models := [.record "Feed" none [.required "items" (.stream .integer)],
    .sequence (.reference "Missing")]
  commands := []
  sockets := []

/-- The models of `feed` are accepted by a build, although a reference in them names nothing, and
no client can be generated. -/
theorem feed_not_generated : ∃ r, build feed = .ok r ∧
    r.definitions.Reaches (.sequence (.reference "Missing")) (.reference "Missing") ∧
    r.definitions.contains "Missing" = false ∧
    generate r = .error (.unrepresentable (.record "Feed") "items") := by
  refine ⟨_, rfl, .single List.mem_cons_self, rfl, ?_⟩
  cbv

end Registry
end CommandBridge
