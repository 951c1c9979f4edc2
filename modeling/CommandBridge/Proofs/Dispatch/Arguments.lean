import CommandBridge.Dispatch
import CommandBridge.Proofs.Registry.Generation

/-!
# The arguments of a call

Parameters are taken one after another, and each takes its member away. Since their names are
distinct that makes no difference to the others, so a call is accepted exactly when every
parameter admits what the payload holds under its name, and the arguments are the values found
there. Otherwise the first parameter that does not admit it is named; in a built registry that is
the fault of the payload, never of the schema.
-/

set_option autoImplicit false

namespace CommandBridge

/-- The members of a payload in transport case, `null` read as the empty object. -/
def Json.Carries (payload : Json) (members : List (String × Json)) : Prop :=
  payload.toTransportCase = .object members ∨ payload.toTransportCase = .null ∧ members = []

namespace Param

variable {table : Definitions} {incoming : List (String × Json)} {p : Param}

/-- What the parameter asks of the members of a payload: a member that may be left out, a `null`
that stands for the default, or a value of its type. -/
def Admits (table : Definitions) (incoming : List (String × Json)) (p : Param) : Prop :=
  match Keyed.lookup p.name incoming with
  | none => p.isRequired = false
  | some v => v = .null ∧ p.hasDefault = true ∨ validate table p.name p.type v = .ok ()

def given? (incoming : List (String × Json)) (p : Param) : Option Json :=
  match Keyed.lookup p.name incoming with
  | none => none
  | some v => if v = .null ∧ p.hasDefault = true then none else some v

theorem given?_eq_some {v : Json} : p.given? incoming = some v ↔
    Keyed.lookup p.name incoming = some v ∧ ¬(v = .null ∧ p.hasDefault = true) := by
  unfold given?
  cases Keyed.lookup p.name incoming with
  | none => exact ⟨nofun, fun h => nomatch h.1⟩
  | some w =>
    by_cases default : w = .null ∧ p.hasDefault = true
    · simp only [if_pos default, reduceCtorEq, Option.some.injEq, false_iff]
      rintro ⟨rfl, given⟩
      exact given default
    · simp only [if_neg default, Option.some.injEq]
      exact ⟨fun same => ⟨same, same ▸ default⟩, fun h => h.1⟩

theorem take_eq_ok {given : Option Json} : p.take table incoming = .ok given ↔
    p.Admits table incoming ∧ p.given? incoming = given := by
  unfold take Admits given?
  cases Keyed.lookup p.name incoming with
  | none => by_cases required : p.isRequired = true <;> simp [required]
  | some v =>
    by_cases default : v = .null ∧ p.hasDefault = true
    · simp [default]
    · cases checked : validate table p.name p.type v <;> simp [checked, default]

theorem take_congr {other : List (String × Json)}
    (same : Keyed.lookup p.name incoming = Keyed.lookup p.name other) :
    p.take table incoming = p.take table other := by
  rw [take, take, same]

/-- A value is refused as an invalid argument, at a place in it. -/
theorem take_eq_error (closed : table.Closed) (resolved : table.unresolved? p.type = none)
    {e : BridgeError} (h : p.take table incoming = .error e) :
    ∃ place message, e = .invalidField (p.name ++ place) message := by
  unfold take at h
  cases found : Keyed.lookup p.name incoming with
  | none =>
    simp only [found] at h
    split at h
    · cases h
      exact ⟨"", "missing required parameter", by rw [String.append_empty]⟩
    · cases h
  | some v =>
    simp only [found] at h
    split at h
    · cases h
    · cases checked : validate table p.name p.type v with
      | ok u => simp [checked] at h
      | error refused =>
        obtain ⟨steps, what, rfl⟩ := offence_of_validate closed resolved checked
        simp only [checked, Except.error.injEq] at h
        exact ⟨_, _, h.symm⟩

end Param

variable {table : Definitions} {incoming : List (String × Json)} {params : List Param}

/-- The parameters look at no members but those of their names. -/
theorem takeParams_congr {other : List (String × Json)}
    (same : ∀ p ∈ params, Keyed.lookup p.name incoming = Keyed.lookup p.name other) :
    takeParams table params incoming = takeParams table params other := by
  induction params generalizing incoming other with
  | nil => rfl
  | cons p rest ih =>
    rw [List.forall_mem_cons] at same
    have others : takeParams table rest (Keyed.erase p.name incoming) =
        takeParams table rest (Keyed.erase p.name other) := by
      apply ih
      intro q hq
      rw [Keyed.lookup_erase, Keyed.lookup_erase, same.2 q hq]
    rw [takeParams, takeParams, Param.take_congr same.1, others]

def givenMembers (params : List Param) (incoming : List (String × Json)) : List (String × Json) :=
  params.foldr (fun p more => (p.given? incoming).elim more (Keyed.insert p.name · more)) []

theorem sorted_givenMembers : Keyed.Sorted (givenMembers params incoming) := by
  induction params with
  | nil => exact trivial
  | cons p rest ih =>
    rw [givenMembers, List.foldr_cons]
    cases p.given? incoming with
    | none => exact ih
    | some v => exact Keyed.sorted_insert p.name v ih

theorem lookup_givenMembers (distinct : (params.map Param.name).Nodup) {name : String} {v : Json} :
    Keyed.lookup name (givenMembers params incoming) = some v ↔
      ∃ p ∈ params, p.name = name ∧ p.given? incoming = some v := by
  induction params with
  | nil => simp [givenMembers, Keyed.lookup]
  | cons p rest ih =>
    rw [List.map_cons, List.nodup_cons] at distinct
    have later := ih distinct.2
    have absent : p.name = name → ∀ q ∈ rest, q.name ≠ name := by
      rintro rfl q hq same
      exact distinct.1 (List.mem_map.mpr ⟨q, hq, same⟩)
    rw [givenMembers, List.foldr_cons, List.exists_mem_cons_iff]
    change Keyed.lookup name ((p.given? incoming).elim (givenMembers rest incoming)
      (Keyed.insert p.name · (givenMembers rest incoming))) = some v ↔ _
    by_cases same : p.name = name
    · have none_later : ¬∃ q ∈ rest, q.name = name ∧ q.given? incoming = some v := by
        rintro ⟨q, hq, named, -⟩
        exact absent same q hq named
      cases given : p.given? incoming with
      | none => simp [later, none_later]
      | some w => simp [Keyed.lookup_insert, same, none_later]
    · cases given : p.given? incoming with
      | none => simp [later, same]
      | some w => simp [Keyed.lookup_insert, same, Ne.symm same, later]

/-- Under distinct names no parameter sees that another took its member. -/
theorem takeParams_cons {p : Param} {rest : List Param}
    (distinct : ((p :: rest).map Param.name).Nodup) :
    takeParams table (p :: rest) incoming = (do
      let given ← p.take table incoming
      let more ← takeParams table rest incoming
      return given.elim more (Keyed.insert p.name · more)) := by
  have others : takeParams table rest (Keyed.erase p.name incoming) =
      takeParams table rest incoming := by
    apply takeParams_congr
    intro q hq
    rw [Keyed.lookup_erase, if_neg]
    intro same
    exact (List.nodup_cons.mp distinct).1 (List.mem_map.mpr ⟨q, hq, same⟩)
  rw [takeParams, others]
  congr 1
  funext given
  congr 1
  funext more
  cases given <;> rfl

theorem takeParams_eq_ok (distinct : (params.map Param.name).Nodup)
    {members : List (String × Json)} : takeParams table params incoming = .ok members ↔
      (∀ p ∈ params, p.Admits table incoming) ∧ members = givenMembers params incoming := by
  induction params generalizing members with
  | nil => simp [takeParams, givenMembers, eq_comm]
  | cons p rest ih =>
    have later {members : List (String × Json)} := @ih (List.nodup_cons.mp distinct).2 members
    rw [takeParams_cons distinct, List.forall_mem_cons]
    simp only [Except.bind_eq_ok, Param.take_eq_ok, later, pure, Except.pure, Except.ok.injEq]
    constructor
    · rintro ⟨_, ⟨first, rfl⟩, _, ⟨others, rfl⟩, rfl⟩
      exact ⟨⟨first, others⟩, rfl⟩
    · rintro ⟨⟨first, others⟩, rfl⟩
      exact ⟨_, ⟨first, rfl⟩, _, ⟨others, rfl⟩, rfl⟩

/-- A failure is that of the first parameter that does not admit the members. -/
theorem takeParams_eq_error (distinct : (params.map Param.name).Nodup) {e : BridgeError}
    (h : takeParams table params incoming = .error e) :
    ∃ before p after, params = before ++ p :: after ∧
      (∀ q ∈ before, q.Admits table incoming) ∧ ¬p.Admits table incoming ∧
      p.take table incoming = .error e := by
  induction params with
  | nil => cases h
  | cons p rest ih =>
    simp only [takeParams_cons distinct, Except.bind_eq_error] at h
    rcases h with first | ⟨given, taken, later | ⟨_, _, done⟩⟩
    · refine ⟨[], p, rest, rfl, nofun, fun admits => ?_, first⟩
      rw [Param.take_eq_ok.mpr ⟨admits, rfl⟩] at first
      cases first
    · obtain ⟨before, q, after, rfl, admitted, refused, failed⟩ :=
        ih (List.nodup_cons.mp distinct).2 later
      refine ⟨p :: before, q, after, rfl, List.forall_mem_cons.mpr ⟨?_, admitted⟩, refused, failed⟩
      exact (Param.take_eq_ok.mp taken).1
    · cases done

theorem payloadMembers_eq_ok {payload : Json} {members : List (String × Json)} :
    payloadMembers payload = .ok members ↔ payload.Carries members := by
  unfold payloadMembers Json.Carries
  cases payload.toTransportCase <;> simp [eq_comm]

theorem payloadMembers_eq_error {payload : Json} {e : BridgeError}
    (h : payloadMembers payload = .error e) :
    e.code = .invalidArgument ∧ ∀ members, ¬payload.Carries members := by
  constructor
  · unfold payloadMembers at h
    cases kind : payload.toTransportCase <;> rw [kind] at h <;> cases h <;> rfl
  · intro members carries
    rw [payloadMembers_eq_ok.mpr carries] at h
    cases h

theorem Json.Carries.unique {payload : Json} {a b : List (String × Json)}
    (ha : payload.Carries a) (hb : payload.Carries b) : a = b := by
  have same := (payloadMembers_eq_ok.mpr ha).symm.trans (payloadMembers_eq_ok.mpr hb)
  exact Except.ok.inj same

section Prepare

variable {A : Application} {c : Command A} {payload : Json}

theorem prepareArgs_eq_ok (distinct : (c.params.map Param.name).Nodup) {args : Args} :
    prepareArgs table c payload = .ok args ↔ ∃ members, payload.Carries members ∧
      (∀ p ∈ c.params, p.Admits table members) ∧ args = ⟨givenMembers c.params members⟩ := by
  simp only [prepareArgs, Except.bind_eq_ok, payloadMembers_eq_ok, takeParams_eq_ok distinct, pure,
    Except.pure, Except.ok.injEq]
  constructor
  · rintro ⟨members, carries, _, ⟨admits, rfl⟩, rfl⟩
    exact ⟨members, carries, admits, rfl⟩
  · rintro ⟨members, carries, admits, rfl⟩
    exact ⟨members, carries, _, ⟨admits, rfl⟩, rfl⟩

theorem prepareArgs_succeeds_iff (distinct : (c.params.map Param.name).Nodup) :
    (∃ args, prepareArgs table c payload = .ok args) ↔
      ∃ members, payload.Carries members ∧ ∀ p ∈ c.params, p.Admits table members := by
  simp only [prepareArgs_eq_ok distinct]
  constructor
  · rintro ⟨_, members, carries, admits, rfl⟩
    exact ⟨members, carries, admits⟩
  · rintro ⟨members, carries, admits⟩
    exact ⟨_, members, carries, admits, rfl⟩

/-- Either the payload is no object, or a parameter does not admit its members. -/
theorem prepareArgs_eq_error {e : BridgeError} (h : prepareArgs table c payload = .error e) :
    payloadMembers payload = .error e ∨
      ∃ members, payload.Carries members ∧ takeParams table c.params members = .error e := by
  simp only [prepareArgs, Except.bind_eq_error, payloadMembers_eq_ok] at h
  rcases h with shapeless | ⟨members, carries, failed | ⟨_, _, done⟩⟩
  · exact .inl shapeless
  · exact .inr ⟨members, carries, failed⟩
  · cases done

end Prepare

namespace Registry

open Definitions

variable {A : Application} {d : Declarations A} {r : Registry A} {c : Command A}

theorem Checked.closed (checked : Checked d r) : r.definitions.Closed := by
  intro name shape found
  rw [unresolvedFields?_eq_none]
  intro f hf
  have holds : r.definitions.Holds (.record shape) := by
    rw [Holds, (checked.own name _ found).1]
    exact found
  exact unresolved?_eq_none.mpr (checked.fields _ holds f.type (List.mem_map.mpr ⟨f, hf, rfl⟩))

theorem Checked.resolves_param (checked : Checked d r) (listed : c ∈ r.commandList) {p : Param}
    (hp : p ∈ c.params) : r.definitions.Resolves p.type :=
  checked.offered (.parameter c.name p.name, p.type) <| List.mem_append_left _ <|
    List.mem_flatMap.mpr ⟨c, checked.mem_commands listed,
      List.mem_append_left _ (List.mem_map.mpr ⟨p, hp, rfl⟩)⟩

theorem Checked.params_distinct (checked : Checked d r) (listed : c ∈ r.commandList) :
    (c.params.map Param.name).Nodup :=
  (checked.commands c (checked.mem_commands listed)).params_distinct

/-- A call is accepted exactly when its payload is an object whose members every parameter admits.
Its arguments are then the values under the names of parameters, without those left to a default.
A refusal is an invalid argument, at a place in the first parameter that does not admit the
members, because no parameter leads to a type that is not defined. -/
theorem arguments_exact (built : build d = .ok r) (listed : c ∈ r.commandList) (payload : Json) :
    ((∃ args, prepareArgs r.definitions c payload = .ok args) ↔
      ∃ members, payload.Carries members ∧ ∀ p ∈ c.params, p.Admits r.definitions members) ∧
    (∀ args members, prepareArgs r.definitions c payload = .ok args → payload.Carries members →
      Keyed.Sorted args.members ∧ ∀ name v, Keyed.lookup name args.members = some v ↔
        ∃ p ∈ c.params, p.name = name ∧ Keyed.lookup name members = some v ∧
          ¬(v = .null ∧ p.hasDefault = true)) ∧
    (∀ e, prepareArgs r.definitions c payload = .error e → e.code = .invalidArgument ∧
      ∀ members, payload.Carries members → ∃ before p after, c.params = before ++ p :: after ∧
        (∀ q ∈ before, q.Admits r.definitions members) ∧ ¬p.Admits r.definitions members ∧
        ∃ place, e.details = some (.object [("path", .string (p.name ++ place))])) ∧
    ∀ p ∈ c.params, ∀ name, r.definitions.Reaches p.type (.reference name) →
      r.definitions.contains name = true := by
  have checked := checked_of_build built
  have distinct := checked.params_distinct listed
  refine ⟨prepareArgs_succeeds_iff distinct, ?_, ?_,
    fun p hp name => checked.reaches_defined (checked.resolves_param listed hp)⟩
  · intro args members prepared carries
    obtain ⟨_, same, -, rfl⟩ := (prepareArgs_eq_ok distinct).mp prepared
    cases same.unique carries
    refine ⟨sorted_givenMembers, fun name v => ?_⟩
    rw [lookup_givenMembers distinct]
    simp only [Param.given?_eq_some]
    constructor
    · rintro ⟨p, hp, rfl, found⟩
      exact ⟨p, hp, rfl, found⟩
    · rintro ⟨p, hp, rfl, found⟩
      exact ⟨p, hp, rfl, found⟩
  · intro e failed
    rcases prepareArgs_eq_error failed with shapeless | ⟨members, carries, failed⟩
    · obtain ⟨code, no_members⟩ := payloadMembers_eq_error shapeless
      exact ⟨code, fun members carries => absurd carries (no_members members)⟩
    · obtain ⟨before, p, after, all, admitted, refused, failed⟩ :=
        takeParams_eq_error distinct failed
      have hp : p ∈ c.params := all ▸ List.mem_append_right before List.mem_cons_self
      obtain ⟨place, message, rfl⟩ := Param.take_eq_error checked.closed
        (unresolved?_eq_none.mpr (checked.resolves_param listed hp)) failed
      refine ⟨rfl, fun other same => ?_⟩
      cases carries.unique same
      exact ⟨before, p, after, all, admitted, refused, place, rfl⟩

def chain (last : Json) : Nat → Json
  | 0 => last
  | n + 1 => .object [("next", chain last n)]

theorem roster_arguments : ∃ r c, build roster = .ok r ∧ c ∈ r.commandList ∧
    (∃ args, prepareArgs r.definitions c (.object [("node", chain .null 2)]) = .ok args ∧
      Keyed.lookup "node" args.members = some (chain .null 2)) ∧
    ∃ e, prepareArgs r.definitions c (.object [("node", chain (.bool true) 2)]) = .error e ∧
      e.code = .invalidArgument := by
  obtain ⟨r, c, built, listed, params, node⟩ : ∃ r c, build roster = .ok r ∧ c ∈ r.commandList ∧
      c.params =
        [⟨"node", .record "Node" none [.required "next" (.optional (.reference "Node"))], false⟩] ∧
      r.definitions.get? "Node" =
        some (.record ⟨"Node", none, [.required "next" (.optional (.reference "Node"))]⟩) :=
    ⟨_, _, rfl, List.mem_cons_self, rfl, rfl⟩
  have carries (last : Json) (h : last.toTransportCase = last) :
      Json.Carries (.object [("node", chain last 2)]) [("node", chain last 2)] := by
    left
    change Json.object [("node", .object [("next", .object [("next", last.toTransportCase)])])] = _
    rw [h]
    rfl
  refine ⟨r, c, built, listed, ?accepted, ?refused⟩
  case accepted =>
    obtain ⟨accepted, given, -⟩ := arguments_exact built listed (.object [("node", chain .null 2)])
    have admits : ∀ p ∈ c.params, p.Admits r.definitions [("node", chain .null 2)] := by
      simp [params, Param.Admits, Keyed.lookup, validate, Conformance.check, Conformance.checkFields,
        FieldOf.required, Conformance.within, chain, node]
    obtain ⟨args, prepared⟩ := accepted.mpr ⟨_, carries .null rfl, admits⟩
    refine ⟨args, prepared, ((given args _ prepared (carries .null rfl)).2 "node" _).mpr ?_⟩
    simp [params, Keyed.lookup, chain]
  case refused =>
    obtain ⟨accepted, -, failed, -⟩ := arguments_exact built listed
      (.object [("node", chain (.bool true) 2)])
    cases prepared : prepareArgs r.definitions c (.object [("node", chain (.bool true) 2)]) with
    | ok args =>
      obtain ⟨members, same, admits⟩ := accepted.mp ⟨args, prepared⟩
      cases same.unique (carries (.bool true) rfl)
      simp [params, Param.Admits, Keyed.lookup, validate, Conformance.check, Conformance.checkFields,
        FieldOf.required, Conformance.within, Conformance.mismatch, chain, node] at admits
    | error e => exact ⟨e, rfl, (failed e prepared).1⟩

end Registry
end CommandBridge
