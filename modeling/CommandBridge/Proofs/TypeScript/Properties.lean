import CommandBridge.Proofs.Conformance.Slots
import CommandBridge.Proofs.Json.RoundTrip
import Mathlib.Data.List.Infix
import Mathlib.Data.List.Zip

/-!
# Properties of the client module

The argument type of a command and the interface of a record list one property for each slot. A
property is written under the client key of its slot, which a check reads back to the name that it
looks up, and is marked when it may be absent. So what a client may leave out of a value by its
type is what the server does without, and nothing else.
-/

set_option autoImplicit false

namespace CommandBridge.TypeScript

open KeyCase

theorem stringLiteral_injective : Function.Injective stringLiteral := by
  intro a b same
  have body (s : String) : Json.stringBody (Json.quote s).tail = some (s.toList, []) :=
    Json.stringBody_quoted s.toList []
  have quoted : Json.quote a = Json.quote b := String.ofList_injective same
  have chars := (body a).symm.trans (quoted ▸ body b)
  exact String.toList_injective (Prod.mk.inj (Option.some.inj chars)).1

theorem isIdentifier_stringLiteral (s : String) : isIdentifier (stringLiteral s) = false := by
  rw [isIdentifier, stringLiteral, String.toList_ofList, Json.quote]
  rfl

theorem propertyKey_injective : Function.Injective propertyKey := by
  intro a b same
  unfold propertyKey at same
  by_cases ha : isIdentifier a = true <;> by_cases hb : isIdentifier b = true
  · rwa [if_pos ha, if_pos hb] at same
  · rw [if_pos ha, if_neg hb] at same
    rw [same, isIdentifier_stringLiteral] at ha
    cases ha
  · rw [if_neg ha, if_pos hb] at same
    rw [← same, isIdentifier_stringLiteral] at hb
    cases hb
  · rw [if_neg ha, if_neg hb] at same
    exact stringLiteral_injective same

structure Property where
  key : String
  mayBeAbsent : Bool
  type : String

def Property.text (p : Property) : String :=
  propertyKey p.key ++ (if p.mayBeAbsent then "?" else "") ++ ": " ++ p.type

/-- The parameter list of a function with these properties as arguments. -/
def argsText (props : List Property) : String :=
  if props.isEmpty then ""
  else "args: \x7b " ++ String.intercalate "; " (props.map Property.text) ++ " \x7d" ++
    if props.any fun p => !p.mayBeAbsent then "" else " = \x7b\x7d"

/-- The interface of a record with these properties. -/
def interfaceText (shape : RecordShape) (props : List Property) : String :=
  docBlock shape.doc ++ "export interface " ++ shape.name ++ " \x7b\n" ++
    String.join (List.zipWith (fun f p => fieldComment f.description ++ "    " ++ p.text ++ ";\n")
      shape.fields props) ++ "\x7d"

def properties (slots : List Slot) (types : List String) : List Property :=
  List.zipWith (fun s type => ⟨toClient s.name, s.mayBeAbsent, type⟩) slots types

/-- The properties tell a client what is looked up in a value and what may be left out of it. -/
structure Agrees (props : List Property) (names : List String) (accepts : Json → Prop) : Prop where
  keys : (props.map Property.key).Nodup
  written : (props.map fun p => propertyKey p.key).Nodup
  names : props.map (fun p => toTransport p.key) = names
  /-- Without a marked property, however its key is spelled, a value is still accepted. -/
  optional : ∀ p ∈ props, p.mayBeAbsent = true → ∀ v, accepts v → accepts (v.without p.key)
  required : ∀ p ∈ props, p.mayBeAbsent = false → ∀ v, v.Lacks p.key → ¬accepts v

section Slots

variable {slots : List Slot} {types : List String}

/-- Whatever does not depend on the types is that of the slots. -/
theorem map_properties {α : Type} (f : Property → α) {g : Slot → α}
    (same : ∀ s type, f ⟨toClient s.name, s.mayBeAbsent, type⟩ = g s)
    (length : types.length = slots.length) : (properties slots types).map f = slots.map g := by
  rw [properties, List.map_zipWith]
  simp only [same]
  rw [← List.map_uncurry_zip_eq_zipWith]
  change (slots.zip types).map (g ∘ Prod.fst) = _
  rw [← List.map_map, List.map_fst_zip length.ge]

theorem any_unmarked (length : types.length = slots.length) :
    ((properties slots types).any fun p => !p.mayBeAbsent) = slots.any fun s => !s.mayBeAbsent := by
  change List.any _ ((!·) ∘ Property.mayBeAbsent) = List.any _ ((!·) ∘ Slot.mayBeAbsent)
  rw [← List.any_map, ← List.any_map, map_properties Property.mayBeAbsent (fun _ _ => rfl) length]

theorem slot_of_property {p : Property} (h : p ∈ properties slots types) :
    ∃ s ∈ slots, p.key = toClient s.name ∧ p.mayBeAbsent = s.mayBeAbsent := by
  rw [properties, ← List.map_uncurry_zip_eq_zipWith] at h
  obtain ⟨⟨s, type⟩, listed, rfl⟩ := List.mem_map.mp h
  exact ⟨s, (List.of_mem_zip listed).1, rfl, rfl⟩

/-- Properties agree with whatever reads the members of a value and asks what the slots ask. -/
theorem agrees_of_reads (distinct : (slots.map Slot.name).Nodup)
    (transport : ∀ s ∈ slots, IsTransport s.name) (length : types.length = slots.length)
    {carries : Json → List (String × Json) → Prop} (reads : Reads carries) {accepts : Json → Prop}
    (asks : ∀ v, accepts v ↔ ∃ members, carries v members ∧ ∀ s ∈ slots, s.Admits members) :
    Agrees (properties slots types) (slots.map Slot.name) accepts := by
  have spells (s : Slot) (hs : s ∈ slots) : toTransport (toClient s.name) = s.name :=
    toTransport_toClient_iff.mpr (transport s hs)
  have keys : ((properties slots types).map Property.key).Nodup := by
    rw [map_properties Property.key (fun _ _ => rfl) length]
    refine List.Nodup.map_on (fun a ha b hb same => ?_) (distinct.of_map _)
    apply List.inj_on_of_nodup_map distinct ha hb
    exact injOn_toClient (transport a ha) (transport b hb) same
  refine ⟨keys, ?_, ?_, ?_, ?_⟩
  · change ((properties slots types).map (propertyKey ∘ Property.key)).Nodup
    rw [← List.map_map]
    exact keys.map propertyKey_injective
  · rw [map_properties (g := fun s => toTransport (toClient s.name)) _ (fun _ _ => rfl) length]
    exact List.map_congr_left spells
  · intro p hp marked v accepted
    obtain ⟨s, hs, key, mark⟩ := slot_of_property hp
    obtain ⟨members, carried, admits⟩ := (asks v).mp accepted
    refine (asks _).mpr ⟨_, reads.without p.key carried, ?_⟩
    exact admits_membersBut distinct transport hs (key ▸ spells s hs) (mark ▸ marked) admits
  · intro p hp unmarked v lacks accepted
    obtain ⟨s, hs, key, mark⟩ := slot_of_property hp
    obtain ⟨members, carried, admits⟩ := (asks v).mp accepted
    have same := reads.unique carried (Json.without_eq_self lacks ▸ reads.without p.key carried)
    have absent := mayBeAbsent_of_admits (transport s hs) (key ▸ spells s hs) (same ▸ admits s hs)
    rw [← mark, unmarked] at absent
    cases absent

end Slots

section Steps

variable {ε α β τ : Type} {xs : List α} {ys : List β}

/-- Steps over a list give a result for each of its members. -/
theorem exists_of_mapM_eq_ok {f : α → Except ε β} (done : xs.mapM f = .ok ys) {x : α} (hx : x ∈ xs) :
    ∃ y ∈ ys, f x = .ok y := by
  induction xs generalizing ys with
  | nil => cases hx
  | cons a rest ih =>
    simp only [List.mapM_cons, Except.bind_eq_ok] at done
    obtain ⟨b, first, more, later, last⟩ := done
    cases last
    rcases List.mem_cons.mp hx with rfl | there
    · exact ⟨b, List.mem_cons_self, first⟩
    · obtain ⟨y, hy, found⟩ := ih later there
      exact ⟨y, List.mem_cons_of_mem b hy, found⟩

/-- Where each step ends with a value made from what it found, so do all. -/
theorem zipWith_of_mapM_eq_ok {find : α → Except ε τ} {make : α → τ → β}
    (done : (xs.mapM fun x => do return make x (← find x)) = .ok ys) :
    ∃ found : List τ, found.length = xs.length ∧ ys = List.zipWith make xs found := by
  induction xs generalizing ys with
  | nil => exact ⟨[], rfl, by cases done; rfl⟩
  | cons a rest ih =>
    simp only [List.mapM_cons, Except.bind_eq_ok] at done
    obtain ⟨b, ⟨t, -, made⟩, more, later, last⟩ := done
    cases made
    cases last
    obtain ⟨found, length, rfl⟩ := ih later
    exact ⟨t :: found, congrArg (· + 1) length, rfl⟩

end Steps

variable {A : Application} {table : Definitions} {owner : Owner} {text : String}

theorem paramsText_eq_ok {params : List Param} (done : paramsText table owner params = .ok text) :
    ∃ types : List String, types.length = params.length ∧
      text = argsText (properties (params.map (Param.slot table)) types) := by
  cases params with
  | nil => exact ⟨[], rfl, by cases done; rfl⟩
  | cons p rest =>
    rw [paramsText, if_neg (by simp)] at done
    simp only [Except.bind_eq_ok] at done
    obtain ⟨fields, listed, last⟩ := done
    cases last
    obtain ⟨types, length, rfl⟩ := zipWith_of_mapM_eq_ok listed
    have slots : types.length = ((p :: rest).map (Param.slot table)).length :=
      length.trans (List.length_map _).symm
    have required : ((properties ((p :: rest).map (Param.slot table)) types).any
        fun q => !q.mayBeAbsent) = (p :: rest).any Param.isRequired := by
      rw [any_unmarked slots, List.any_map]
      congr 1
      funext q
      exact Bool.not_not q.isRequired
    have nonempty : ¬(properties ((p :: rest).map (Param.slot table)) types).isEmpty = true := by
      cases types with
      | nil => cases length
      | cons type types => simp [properties]
    refine ⟨types, length, ?_⟩
    rw [argsText, if_neg nonempty, required, properties, List.zipWith_map_left, List.map_zipWith]
    rfl

theorem recordText_eq_ok {shape : RecordShape} (done : recordText table shape = .ok text) :
    ∃ types : List String, types.length = shape.fields.length ∧
      text = interfaceText shape (properties (shape.fields.map (FieldOf.slot table)) types) := by
  simp only [recordText, Except.bind_eq_ok] at done
  obtain ⟨lines, listed, last⟩ := done
  cases last
  obtain ⟨types, length, rfl⟩ := zipWith_of_mapM_eq_ok listed
  refine ⟨types, length, ?_⟩
  rw [interfaceText, properties, List.zipWith_map_left, List.zipWith_zipWith_right,
    List.zipWith3_same_left]
  rfl

/-- The part stands somewhere in the text, in one piece. -/
def Stands (part text : String) : Prop := part.toList <:+: text.toList

section Stands

variable {part : String}

theorem Stands.trans {whole : String} (h : Stands part text) (more : Stands text whole) :
    Stands part whole :=
  List.IsInfix.trans h more

theorem Stands.after (h : Stands part text) (front : String) : Stands part (front ++ text) := by
  rw [Stands, String.toList_append]
  exact List.infix_append_of_infix_right h

theorem Stands.before (h : Stands part text) (back : String) : Stands part (text ++ back) := by
  rw [Stands, String.toList_append]
  exact List.infix_append_of_infix_left h

theorem stands_self (text : String) : Stands text text := List.infix_refl _

theorem mem_intersperse {α : Type} {x separator : α} {xs : List α} (h : x ∈ xs) :
    x ∈ xs.intersperse separator := by
  induction xs with
  | nil => cases h
  | cons a rest ih =>
    cases rest with
    | nil => exact h
    | cons b more =>
      rw [List.intersperse_cons_cons]
      rcases List.mem_cons.mp h with rfl | later
      · exact List.mem_cons_self
      · exact List.mem_cons_of_mem a (List.mem_cons_of_mem separator (ih later))

theorem stands_intercalate {parts : List String} (h : part ∈ parts) (separator : String) :
    Stands part (String.intercalate separator parts) := by
  rw [Stands, String.toList_intercalate, List.intercalate]
  exact List.infix_of_mem_flatten (mem_intersperse (List.mem_map_of_mem h))

theorem stands_sectionText {parts : List String} (h : part ∈ parts) (title : String) :
    Stands part (sectionText title parts) := by
  rw [sectionText, if_neg (by simpa using List.ne_nil_of_mem h)]
  exact ((stands_intercalate h _).after _).before _

theorem definitionText_stands {r : Registry A} (generated : generate r = .ok text)
    (own : Definitions.Only (fun _ => True) r.definitions) {d : Definition}
    (holds : r.definitions.Holds d) :
    ∃ part, definitionText r.definitions d = .ok part ∧ Stands part text := by
  simp only [generate, Except.bind_eq_ok] at generated
  obtain ⟨interfaces, written, commands, -, sockets, -, last⟩ := generated
  cases last
  obtain ⟨part, listed, done⟩ := exists_of_mapM_eq_ok written ((mem_orderedDefinitions own).mpr holds)
  exact ⟨part, done, (((stands_sectionText listed _).after _).before _).before _⟩

theorem commandText_stands {r : Registry A} (generated : generate r = .ok text) {c : Command A}
    (listed : c ∈ r.commandList) :
    ∃ part, commandText r.definitions c = .ok part ∧ Stands part text := by
  simp only [generate, Except.bind_eq_ok] at generated
  obtain ⟨interfaces, -, commands, written, sockets, -, last⟩ := generated
  cases last
  obtain ⟨part, listed, done⟩ := exists_of_mapM_eq_ok written listed
  exact ⟨part, done, ((stands_sectionText listed _).after _).before _⟩

theorem commandBody_head {c : Command A} {head type call : String}
    (done : commandBody table owner c = .ok (head, type, call)) :
    ∃ front, head = front ++ "function " := by
  unfold commandBody at done
  split at done
  · simp only [Except.bind_eq_ok] at done
    obtain ⟨t, -, last⟩ := done
    cases last
    exact ⟨"export async ", rfl⟩
  · split at done
    · cases done
    · simp only [Except.bind_eq_ok] at done
      obtain ⟨t, -, last⟩ := done
      cases last
      exact ⟨"export ", rfl⟩

/-- The head of a function holds its name and its parameter list. -/
theorem paramsText_stands {c : Command A} (done : commandText table c = .ok text) :
    ∃ params, paramsText table (.command c.name) c.params = .ok params ∧
      Stands ("function " ++ toClient c.name ++ "(" ++ params ++ "): ") text := by
  simp only [commandText, Except.bind_eq_ok] at done
  obtain ⟨params, written, ⟨head, type, call⟩, body, last⟩ := done
  obtain ⟨front, rfl⟩ := commandBody_head body
  cases last
  refine ⟨params, written, ?_⟩
  have whole := (stands_self ("function " ++ toClient c.name ++ "(" ++ params ++ "): ")).after
    (docBlock c.doc ++ front)
  simpa only [String.append_assoc] using whole.before _

end Stands

end CommandBridge.TypeScript

namespace CommandBridge.Registry

open KeyCase TypeScript

variable {A : Application} {d : Declarations A} {r : Registry A} {text : String}

/-- The generated client and the server agree on names and on what may be left out. The arguments
of a command and the fields of a record stand in the client under distinct keys, which lead back to
the names that are looked up; what is marked there may be left out of a value that is accepted,
under every spelling of its key, and a value that lacks what is unmarked is refused. -/
theorem properties_agree (built : build d = .ok r) (generated : generate r = .ok text)
    (params : ∀ c ∈ r.commandList, ∀ p ∈ c.params, IsTransport p.name)
    (fields : ∀ shape, r.definitions.Holds (.record shape) →
      (∀ f ∈ shape.fields, IsTransport f.name) ∧ (shape.fields.map FieldOf.name).Nodup) :
    (∀ c ∈ r.commandList, ∃ props,
      Stands ("function " ++ toClient c.name ++ "(" ++ argsText props ++ "): ") text ∧
      Agrees props (c.params.map Param.name)
        fun payload => ∃ args, prepareArgs r.definitions c payload = .ok args) ∧
    ∀ shape, r.definitions.Holds (.record shape) → ∃ props,
      Stands (interfaceText shape props) text ∧
      ∀ t ∈ [shape.descriptor, .reference shape.name], ∀ path,
        Agrees props (shape.fields.map FieldOf.name)
          (fun v => validate r.definitions path t v = .ok ()) ∧
        Agrees props (shape.fields.map FieldOf.name)
          fun v => validate r.definitions path t v.toTransportCase = .ok () := by
  have checked := checked_of_build built
  constructor
  · intro c listed
    obtain ⟨part, rendered, stands⟩ := commandText_stands generated listed
    obtain ⟨_, written, named⟩ := paramsText_stands rendered
    obtain ⟨types, length, rfl⟩ := paramsText_eq_ok written
    refine ⟨_, named.trans stands, ?_⟩
    have distinct := checked.params_distinct listed
    have names : (c.params.map (Param.slot r.definitions)).map Slot.name = c.params.map Param.name :=
      List.map_map
    rw [← names] at distinct ⊢
    refine agrees_of_reads distinct (List.forall_mem_map.mpr (params c listed)) ?_ reads_carried
      fun payload => prepareArgs_slots ?_
    · rw [length, List.length_map]
    · rwa [← names]
  · intro shape holds
    obtain ⟨part, rendered, stands⟩ := definitionText_stands generated checked.own holds
    obtain ⟨types, length, rfl⟩ := recordText_eq_ok rendered
    refine ⟨_, stands, fun t ht path => ?_⟩
    obtain ⟨transport, distinct⟩ := fields shape holds
    have names : (shape.fields.map (FieldOf.slot r.definitions)).map Slot.name =
      shape.fields.map FieldOf.name := List.map_map
    have asks (v : Json) : validate r.definitions path t v = .ok () ↔ ∃ members,
        v = .object members ∧
          ∀ s ∈ shape.fields.map (FieldOf.slot r.definitions), s.Admits members := by
      rw [validate_eq_ok, ← Conformance.check_record_eq_ok]
      simp only [List.mem_cons, List.not_mem_nil, or_false] at ht
      rcases ht with rfl | rfl
      · exact Iff.rfl
      · exact Conformance.check_reference_eq_ok holds
    have transport' : ∀ s ∈ shape.fields.map (FieldOf.slot r.definitions), IsTransport s.name :=
      List.forall_mem_map.mpr transport
    rw [← names] at distinct ⊢
    have same : types.length = (shape.fields.map (FieldOf.slot r.definitions)).length := by
      rw [length, List.length_map]
    exact ⟨agrees_of_reads distinct transport' same reads_members asks,
      agrees_of_reads distinct transport' same reads_members.inTransportCase fun v => asks _⟩

/-- A record with a field that may be absent, and a command with a parameter that has a default. -/
def user : RecordShape :=
  ⟨"User", none, [.required "display_name" .string, .required "nick_name" (.optional .string)]⟩

def directory : Declarations Script.application where
  models := []
  commands := [{
    name := "find_user", kind := .unary
    params := [⟨"user_id", .string, false⟩, ⟨"page_size", .integer, true⟩]
    returns := user.descriptor, doc := none, module := none
    handler := some (.unary .inline (Script.CallRun.start [])) }]
  sockets := []

theorem directory_agrees : ∃ r c text args fields, build directory = .ok r ∧ c ∈ r.commandList ∧
    generate r = .ok text ∧
    Stands ("function findUser(" ++ argsText args ++ "): ") text ∧
    Agrees args ["user_id", "page_size"]
      (fun payload => ∃ args, prepareArgs r.definitions c payload = .ok args) ∧
    (∃ args, prepareArgs r.definitions c (.object [("userId", .string "u1")]) = .ok args) ∧
    Stands (interfaceText user fields) text ∧
    Agrees fields ["display_name", "nick_name"]
      fun v => validate r.definitions "user" (.reference "User") v = .ok () := by
  obtain ⟨r, c, built, commands, name, params, table⟩ : ∃ r c, build directory = .ok r ∧
      r.commandList = [c] ∧ c.name = "find_user" ∧
      c.params = [⟨"user_id", .string, false⟩, ⟨"page_size", .integer, true⟩] ∧
      r.definitions.toList = [.record user] :=
    ⟨_, _, rfl, rfl, rfl, rfl, rfl⟩
  have checked := checked_of_build built
  obtain ⟨text, generated⟩ := checked.generates_of_streamless (List.forall_mem_nil _)
  have listed : c ∈ r.commandList := commands ▸ List.mem_cons_self
  have holds (x : Definition) : r.definitions.Holds x ↔ x = .record user := by
    rw [← Definitions.mem_toList_iff checked.distinct checked.own, table, List.mem_singleton]
  have transport : ∀ c ∈ r.commandList, ∀ p ∈ c.params, IsTransport p.name := by
    rw [commands, List.forall_mem_singleton, params]
    decide
  have shapes : ∀ shape, r.definitions.Holds (.record shape) →
      (∀ f ∈ shape.fields, IsTransport f.name) ∧ (shape.fields.map FieldOf.name).Nodup := by
    intro shape held
    cases (holds _).mp held
    decide
  obtain ⟨functions, interfaces⟩ := properties_agree built generated transport shapes
  obtain ⟨args, declared, asked⟩ := functions c listed
  obtain ⟨fields, written, read⟩ := interfaces user ((holds _).mpr rfl)
  have prepared :
      ∃ args, prepareArgs r.definitions c (.object [("userId", .string "u1")]) = .ok args := by
    refine (prepareArgs_succeeds_iff (checked.params_distinct listed)).mpr
      ⟨[("user_id", .string "u1")], .inl rfl, ?_⟩
    simp [params, Param.Admits, Param.isRequired, Keyed.lookup, validate, Conformance.check,
      Conformance.checkPrimitive, Conformance.isPrimitive, Descriptor.string]
  rw [name] at declared
  rw [params] at asked
  exact ⟨r, c, text, args, fields, built, listed, generated, declared, asked, prepared, written,
    (read (.reference "User") (by simp [user]) "user").1⟩

end CommandBridge.Registry
