import CommandBridge.Proofs.Dispatch.Arguments
import CommandBridge.Proofs.Json.KeyCase

/-!
# Calls and the case of their keys

Only what a payload carries in transport case counts for a call, and of that only what stands under
the names of parameters. So the case that a client writes makes no difference, nor does a member
that no parameter asks for, and arguments may be sent once more.
-/

set_option autoImplicit false

namespace CommandBridge

open KeyCase

variable {table : Definitions} {A : Application} {c : Command A}

theorem prepareArgs_congr {payload other : Json}
    (same : payload.toTransportCase = other.toTransportCase) :
    prepareArgs table c payload = prepareArgs table c other := by
  rw [prepareArgs, prepareArgs, payloadMembers, payloadMembers, same]

theorem prepareArgs_toTransportCase (payload : Json) :
    prepareArgs table c payload.toTransportCase = prepareArgs table c payload :=
  prepareArgs_congr (Json.toTransportCase_toTransportCase payload)

theorem prepareArgs_toClientCase {payload : Json} (h : ∀ key ∈ payload.allKeys, IsTransport key) :
    prepareArgs table c payload.toClientCase = prepareArgs table c payload := by
  apply prepareArgs_congr
  rw [Json.toTransportCase_toClientCase]
  apply Json.mapKeys_congr
  intro key there
  rw [Function.comp_apply, toTransport_toClient_iff.mpr (h key there),
    toTransport_eq_self (h key there)]

/-- Where a renaming leads away from a name, an insertion does not touch what is found under it. -/
theorem lookup_sort_map_insert {rename : String → String} (convert : Json → Json)
    {name key : String} (other : rename key ≠ name) (value : Json) (members : List (String × Json)) :
    Keyed.lookup name (Keyed.sort
        ((Keyed.insert key value members).map fun m => (rename m.1, convert m.2))) =
      Keyed.lookup name (Keyed.sort (members.map fun m => (rename m.1, convert m.2))) := by
  obtain ⟨front, old, back, rfl, replaced, inserted⟩ := Keyed.exists_insert key value members
  have gone : Keyed.lookup name (old.map fun m => (rename m.1, convert m.2)).reverse = none := by
    rw [Keyed.lookup_eq_none_iff, Keyed.keys, ← List.map_reverse, List.map_map]
    intro there
    obtain ⟨m, hm, same⟩ := List.mem_map.mp there
    rw [List.mem_reverse] at hm
    exact other (replaced m hm ▸ same)
  rw [inserted, Keyed.lookup_sort, Keyed.lookup_sort]
  simp [Keyed.lookup_append, Keyed.lookup, gone, other]

theorem prepareArgs_object (members : List (String × Json)) :
    prepareArgs table c (.object members) = (takeParams table c.params (Keyed.sort
      (members.map fun m => (toTransport m.1, m.2.toTransportCase)))).map Args.mk := by
  rw [prepareArgs, payloadMembers, Json.toTransportCase_object]
  rfl

theorem prepareArgs_insert {key : String} (undeclared : ∀ p ∈ c.params, p.name ≠ toTransport key)
    (value : Json) (members : List (String × Json)) :
    prepareArgs table c (.object (Keyed.insert key value members)) =
      prepareArgs table c (.object members) := by
  rw [prepareArgs_object, prepareArgs_object]
  congr 1
  apply takeParams_congr
  intro p hp
  exact lookup_sort_map_insert _ (undeclared p hp).symm value members

theorem Json.Carries.inCase {payload : Json} {members : List (String × Json)}
    (carries : payload.Carries members) {m : String × Json} (there : m ∈ members) :
    toTransport m.1 = m.1 ∧ m.2.toTransportCase = m.2 := by
  rcases carries with carries | ⟨-, rfl⟩
  · cases payload with
    | object sent =>
      rw [Json.toTransportCase_object, Json.object.injEq] at carries
      subst carries
      obtain ⟨n, -, rfl⟩ := List.mem_map.mp (Keyed.mem_of_mem_sort there)
      exact ⟨toTransport_eq_self (isTransport_toTransport n.1),
        Json.toTransportCase_toTransportCase n.2⟩
    | array items =>
      rw [Json.toTransportCase_array] at carries
      cases carries
    | _ => cases carries
  · cases there

section Given

variable {params : List Param} {incoming : List (String × Json)} {p : Param}

theorem lookup_name_givenMembers (distinct : (params.map Param.name).Nodup) (hp : p ∈ params) :
    Keyed.lookup p.name (givenMembers params incoming) = p.given? incoming := by
  ext v
  rw [lookup_givenMembers distinct]
  constructor
  · rintro ⟨q, hq, same, given⟩
    rwa [← List.inj_on_of_nodup_map distinct hq hp same]
  · intro given
    exact ⟨p, hp, rfl, given⟩

theorem given?_givenMembers (distinct : (params.map Param.name).Nodup) (hp : p ∈ params) :
    p.given? (givenMembers params incoming) = p.given? incoming := by
  ext v
  rw [Param.given?_eq_some, lookup_name_givenMembers distinct hp, and_iff_left_iff_imp]
  intro given
  exact (Param.given?_eq_some.mp given).2

theorem givenMembers_givenMembers (distinct : (params.map Param.name).Nodup) :
    givenMembers params (givenMembers params incoming) = givenMembers params incoming := by
  apply List.foldr_ext
  intro p hp more
  rw [given?_givenMembers distinct hp]

/-- A parameter that admits some members admits what was given of them. -/
theorem admits_givenMembers (distinct : (params.map Param.name).Nodup) (hp : p ∈ params)
    (admits : p.Admits table incoming) : p.Admits table (givenMembers params incoming) := by
  unfold Param.Admits at admits ⊢
  rw [lookup_name_givenMembers distinct hp, Param.given?]
  cases found : Keyed.lookup p.name incoming with
  | none => simpa [found] using admits
  | some v =>
    rw [found] at admits
    by_cases default : v = .null ∧ p.hasDefault = true
    · simp [default, Param.isRequired]
    · simpa [default] using admits

end Given

theorem Json.Carries.given {payload : Json} {members : List (String × Json)}
    (carries : payload.Carries members) {params : List Param}
    (distinct : (params.map Param.name).Nodup) :
    Carries (object (givenMembers params members)) (givenMembers params members) := by
  left
  have same (m : String × Json) (there : m ∈ givenMembers params members) :
      (toTransport m.1, m.2.toTransportCase) = m := by
    have found := Keyed.lookup_of_mem sorted_givenMembers.nodup there
    obtain ⟨p, -, named, given⟩ := (lookup_givenMembers distinct).mp found
    have held := Keyed.mem_of_lookup (named ▸ (Param.given?_eq_some.mp given).1)
    obtain ⟨key, value⟩ := carries.inCase held
    rw [key, value]
  rw [toTransportCase_object, List.map_congr_left same, List.map_id',
    Keyed.sort_eq_self sorted_givenMembers]

theorem prepareArgs_toJson (distinct : (c.params.map Param.name).Nodup) {payload : Json}
    {args : Args} (prepared : prepareArgs table c payload = .ok args) :
    prepareArgs table c args.toJson = .ok args := by
  obtain ⟨members, carries, admits, rfl⟩ := (prepareArgs_eq_ok distinct).mp prepared
  refine (prepareArgs_eq_ok distinct).mpr ⟨_, carries.given distinct, fun p hp => ?_, ?_⟩
  · exact admits_givenMembers distinct hp (admits p hp)
  · rw [givenMembers_givenMembers distinct]

namespace Registry

variable {d : Declarations A} {r : Registry A}

/-- A call does not depend on the case of its keys: not on a conversion of the payload to transport
case, nor on one to client case that can be undone, nor on members under other names than those of
parameters. Arguments that were accepted are accepted again as they are. -/
theorem arguments_ignore_keyCase (built : build d = .ok r) (listed : c ∈ r.commandList) :
    (∀ payload : Json, prepareArgs r.definitions c payload.toTransportCase =
      prepareArgs r.definitions c payload) ∧
    (∀ payload : Json, (∀ key ∈ payload.allKeys, IsTransport key) →
      prepareArgs r.definitions c payload.toClientCase = prepareArgs r.definitions c payload) ∧
    (∀ members key value, (∀ p ∈ c.params, p.name ≠ toTransport key) →
      prepareArgs r.definitions c (.object (Keyed.insert key value members)) =
        prepareArgs r.definitions c (.object members)) ∧
    ∀ payload args, prepareArgs r.definitions c payload = .ok args →
      prepareArgs r.definitions c args.toJson = .ok args := by
  refine ⟨prepareArgs_toTransportCase, fun _ => prepareArgs_toClientCase,
    fun members key value undeclared => prepareArgs_insert undeclared value members, ?_⟩
  intro payload args
  exact prepareArgs_toJson ((checked_of_build built).params_distinct listed)

def enlisted : Json :=
  .object [("node", .object [("next", .null), ("next_of_kin", .null)]), ("user_id", .bool true)]

theorem roster_ignores_keyCase : ∃ r c args, build roster = .ok r ∧ c ∈ r.commandList ∧
    enlisted.toClientCase ≠ enlisted ∧
    prepareArgs r.definitions c enlisted.toClientCase = .ok args ∧
    prepareArgs r.definitions c (.object (Keyed.insert "userId" .null args.members)) = .ok args ∧
    prepareArgs r.definitions c args.toJson = .ok args := by
  obtain ⟨r, c, built, listed, params⟩ : ∃ r c, build roster = .ok r ∧ c ∈ r.commandList ∧
      c.params =
        [⟨"node", .record "Node" none [.required "next" (.optional (.reference "Node"))], false⟩] :=
    ⟨_, _, rfl, List.mem_cons_self, rfl⟩
  have distinct := (checked_of_build built).params_distinct listed
  obtain ⟨args, prepared⟩ : ∃ args, prepareArgs r.definitions c enlisted = .ok args := by
    refine (prepareArgs_succeeds_iff distinct).mpr
      ⟨[("node", .object [("next", .null), ("next_of_kin", .null)]), ("user_id", .bool true)],
        .inl rfl, ?_⟩
    simp [params, Param.Admits, Keyed.lookup, validate, Conformance.check, Conformance.checkFields,
      FieldOf.required, Conformance.within]
  obtain ⟨-, client, more, again⟩ := arguments_ignore_keyCase built listed
  have undeclared : ∀ p ∈ c.params, p.name ≠ toTransport "userId" := by
    rw [params, List.forall_mem_singleton]
    decide
  exact ⟨r, c, args, built, listed, by decide, (client enlisted (by decide)).trans prepared,
    (more _ _ _ undeclared).trans (again _ _ prepared), again _ _ prepared⟩

end Registry
end CommandBridge
