import CommandBridge.Proofs.Registry.Building

/-!
# Well-formed declarations

What makes commands and sockets a registry is said here without a table or an order of checks:
distinct names, handlers that fit, streams only where a streaming command pushes, definitions of
one name that are equal and references that something defines. A build accepts exactly that.
-/

set_option autoImplicit false

namespace CommandBridge

open Descriptor

variable {A : Application}

structure Command.WellFormed (c : Command A) : Prop where
  params_distinct : (c.params.map Param.name).Nodup
  params_streamless : ∀ p ∈ c.params, p.type.Streamless
  /-- The handler fits the kind, and a stream is what a streaming command returns. -/
  served : match c.kind with
    | .unary => (∃ mode start, c.handler = some (.unary mode start)) ∧ c.returns.Streamless
    | .stream => (∃ start, c.handler = some (.stream start)) ∧
        ∃ t, c.returns = .stream t ∧ t.Streamless

structure SocketHandler.WellFormed (s : SocketHandler A) : Prop where
  callbacks_declared : ∀ event ∈ Keyed.keys s.callbacks, event ∈ Keyed.keys s.clientEvents
  events_streamless : ∀ p ∈ s.eventTypes, p.2.Streamless

def Declarations.Defines (d : Declarations A) (def' : Definition) : Prop :=
  ∃ p ∈ d.offeredTypes, Occurs def'.descriptor p.2

structure Declarations.WellFormed (d : Declarations A) : Prop where
  names_distinct : d.names.Nodup
  commands : ∀ c ∈ d.commands, c.WellFormed
  sockets : ∀ s ∈ d.sockets, s.WellFormed
  definitions_agree : ∀ x y, d.Defines x → d.Defines y → x.name = y.name → x = y
  references_defined : ∀ p ∈ d.offeredTypes, ∀ name, Occurs (.reference name) p.2 →
    ∃ x, d.Defines x ∧ x.name = name

namespace Command

/-- Parameters pass when their names are distinct and not yet seen and no type holds a stream. -/
theorem checkParams_eq_ok {command : String} {seen : List String} {params : List Param} :
    checkParams command seen params = .ok () ↔
      (params.map Param.name).Nodup ∧ (∀ p ∈ params, p.name ∉ seen) ∧
      ∀ p ∈ params, p.type.Streamless := by
  induction params generalizing seen with
  | nil => simp [checkParams]
  | cons p rest ih =>
    rw [checkParams]
    by_cases again : p.name ∈ seen
    · simp [again]
    · rw [if_neg (by simpa using again), Except.andThen_eq_ok, rejectStreams_eq_ok, ih]
      simp only [List.map_cons, List.nodup_cons, List.forall_mem_cons]
      constructor
      · rintro ⟨first, distinct, others, streamless⟩
        refine ⟨⟨?_, distinct⟩, ⟨again, fun q hq there => ?_⟩, first, streamless⟩
        · intro repeated
          obtain ⟨q, hq, same⟩ := List.mem_map.mp repeated
          exact others q hq (same ▸ List.mem_cons_self)
        · exact others q hq (List.mem_cons_of_mem _ there)
      · rintro ⟨⟨once, distinct⟩, ⟨-, others⟩, first, streamless⟩
        refine ⟨first, distinct, fun q hq there => ?_, streamless⟩
        rcases List.mem_cons.mp there with same | there
        · exact once (List.mem_map.mpr ⟨q, hq, same⟩)
        · exact others q hq there

theorem validate_eq_ok {c : Command A} : c.validate = .ok () ↔ c.WellFormed := by
  rw [validate, Except.andThen_eq_ok, checkParams_eq_ok, Except.andThen_eq_ok, checkHandler,
    checkReturns]
  constructor
  · rintro ⟨⟨distinct, -, streamless⟩, handler, returns⟩
    refine ⟨distinct, streamless, ?_⟩
    cases kind : c.kind with
    | unary =>
      rw [kind] at handler returns
      refine ⟨?_, rejectStreams_eq_ok.mp returns⟩
      split at handler <;> simp_all
    | stream =>
      rw [kind] at handler returns
      constructor
      · split at handler <;> simp_all
      · split at returns
        · contradiction
        · next t _ same => exact ⟨t, same, rejectStreams_eq_ok.mp returns⟩
        · contradiction
  · rintro ⟨distinct, streamless, served⟩
    refine ⟨⟨distinct, fun _ _ => List.not_mem_nil, streamless⟩, ?_⟩
    cases kind : c.kind with
    | unary =>
      rw [kind] at served
      obtain ⟨⟨mode, start, handler⟩, returns⟩ := served
      rw [handler]
      exact ⟨rfl, rejectStreams_eq_ok.mpr returns⟩
    | stream =>
      rw [kind] at served
      obtain ⟨⟨start, handler⟩, t, returns, streamless⟩ := served
      rw [handler, returns]
      exact ⟨rfl, rejectStreams_eq_ok.mpr streamless⟩

end Command

theorem SocketHandler.validate_eq_ok {s : SocketHandler A} :
    s.validate = .ok () ↔ s.WellFormed := by
  rw [validate, Except.andThen_eq_ok, Registry.forM_eq_ok, Registry.forM_eq_ok]
  simp only [rejectStreams_eq_ok]
  constructor
  · rintro ⟨declared, streamless⟩
    refine ⟨fun event there => ?_, streamless⟩
    have passed := declared event there
    by_contra undeclared
    rw [← Keyed.contains_iff] at undeclared
    rw [if_neg undeclared] at passed
    cases passed
  · rintro ⟨declared, streamless⟩
    refine ⟨fun event there => ?_, streamless⟩
    rw [if_pos (Keyed.contains_iff.mpr (declared event there))]

namespace Registry

open Definitions

/-- A build accepts commands and sockets exactly when they are well-formed, and then the table
holds the records and enums that occur in their types, each once and under its own name. -/
theorem build_iff_wellFormed (commands : List (Command A)) (sockets : List (SocketHandler A)) :
    let d : Declarations A := ⟨[], commands, sockets⟩
    ((∃ r, build d = .ok r) ↔ d.WellFormed) ∧
    ∀ r, build d = .ok r → r.definitions.names.Nodup ∧
      (∀ name x, r.definitions.get? name = some x ↔ x.name = name ∧ d.Defines x) ∧
      ∀ x, x ∈ r.definitions.toList ↔ d.Defines x := by
  intro d
  have table_iff {table : Definitions} (collected : empty.collectEach d.offeredTypes = .ok table) :=
    get?_of_collectEach_empty collected
  constructor
  · constructor
    · rintro ⟨r, built⟩
      obtain ⟨⟨⟨distinct, commandsOk, socketsOk, collected⟩, resolves, -⟩, -⟩ :=
        build_eq_ok.mp built
      refine ⟨distinct, fun c hc => Command.validate_eq_ok.mp (commandsOk c hc),
        fun s hs => SocketHandler.validate_eq_ok.mp (socketsOk s hs),
        collectEach_empty_ok.mp ⟨_, collected⟩, ?_⟩
      intro p hp name inner
      obtain ⟨x, found⟩ := Option.isSome_iff_exists.mp (resolves p hp name inner)
      obtain ⟨named, occurs⟩ := (table_iff collected name x).mp found
      exact ⟨x, occurs, named⟩
    · rintro ⟨distinct, commandsOk, socketsOk, agree, defined⟩
      obtain ⟨table, collected⟩ := collectEach_empty_ok.mpr agree
      have resolves : ∀ p ∈ d.offeredTypes, table.Resolves p.2 := by
        intro p hp name inner
        obtain ⟨x, occurs, named⟩ := defined p hp name inner
        exact Option.isSome_iff_exists.mpr ⟨x, (table_iff collected name x).mpr ⟨named, occurs⟩⟩
      have inner : ∀ x, table.Holds x → ∀ c ∈ x.descriptor.children, table.Resolves c := by
        intro x holds c part name deeper
        obtain ⟨-, p, hp, occurs⟩ := (table_iff collected _ x).mp holds
        exact resolves p hp name (.trans deeper (.head part occurs))
      obtain ⟨unique, only⟩ := collected_table collected
      have own : Only (fun _ => True) table := fun name x there => ⟨(only name x there).1, trivial⟩
      exact ⟨ofTable d table, build_eq_ok.mpr ⟨⟨⟨distinct,
        fun c hc => Command.validate_eq_ok.mpr (commandsOk c hc),
        fun s hs => SocketHandler.validate_eq_ok.mpr (socketsOk s hs), collected⟩, resolves,
        (checkAllReferences_eq_ok unique own).mpr inner⟩, rfl⟩⟩
  · intro r built
    obtain ⟨⟨⟨-, -, -, collected⟩, -⟩, -⟩ := build_eq_ok.mp built
    obtain ⟨unique, only⟩ := collected_table collected
    have own : Only (fun _ => True) r.definitions :=
      fun name x there => ⟨(only name x there).1, trivial⟩
    refine ⟨unique, table_iff collected, fun x => ?_⟩
    rw [mem_toList_iff unique own, Holds, table_iff collected]
    exact and_iff_right rfl

end Registry
end CommandBridge
