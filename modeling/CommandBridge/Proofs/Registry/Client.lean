import CommandBridge.Proofs.TypeScript.Spelling

/-!
# The client of a built registry

The definitions of a built registry are closed: what a field, a parameter, a result, a payload or
an event names is defined. So the client that is generated from it declares every name that is
written in it, each definition once and each command and socket as one function, and a definition
after those that it mentions, unless they lead back to it.
-/

set_option autoImplicit false

namespace CommandBridge

open Descriptor Definitions TypeScript Relation

variable {A : Application} {d : Declarations A} {r : Registry A} {o : Outline}

namespace Registry

theorem sorted_names {α : Type} (name : α → String) (xs : List α) :
    (((Keyed.sort (xs.map fun x => (name x, x))).map Prod.snd).map name).Pairwise (· < ·) := by
  have own : ∀ m ∈ Keyed.sort (xs.map fun x => (name x, x)), name m.2 = m.1 := by
    intro m there
    obtain ⟨x, -, rfl⟩ := List.mem_map.mp (Keyed.mem_of_mem_sort there)
    rfl
  have keys : (Keyed.sort (xs.map fun x => (name x, x))).map (name ∘ Prod.snd) =
      (Keyed.sort (xs.map fun x => (name x, x))).map Prod.fst := List.map_congr_left own
  rw [List.map_map, keys, List.pairwise_map]
  exact Keyed.sorted_iff_pairwise.mp (Keyed.sorted_sort _)

theorem sorted_perm {α : Type} {name : α → String} {xs : List α} (distinct : (xs.map name).Nodup) :
    ((Keyed.sort (xs.map fun x => (name x, x))).map Prod.snd).Perm xs := by
  have keys : (Keyed.keys (xs.map fun x => (name x, x))).Nodup := by
    simpa [Keyed.keys, Function.comp_def] using distinct
  simpa [Function.comp_def] using (Keyed.perm_sort keys).map Prod.snd

namespace Checked

variable (checked : Checked d r)

include checked

theorem commandList_sorted : (r.commandList.map Command.name).Pairwise (· < ·) := by
  rw [checked.table]
  exact sorted_names Command.name d.commands

theorem socketList_sorted : (r.socketList.map SocketHandler.name).Pairwise (· < ·) := by
  rw [checked.table]
  exact sorted_names SocketHandler.name d.sockets

theorem commandList_perm (distinct : d.names.Nodup) : r.commandList.Perm d.commands := by
  rw [Declarations.names, List.nodup_append] at distinct
  rw [checked.table]
  exact sorted_perm distinct.1

theorem socketList_perm (distinct : d.names.Nodup) : r.socketList.Perm d.sockets := by
  rw [Declarations.names, List.nodup_append] at distinct
  rw [checked.table]
  exact sorted_perm distinct.2.1

theorem covers_field {x : Definition} (holds : r.definitions.Holds x) {c : Descriptor}
    (part : c ∈ x.descriptor.children) : r.definitions.Covers c := by
  intro y inner
  obtain ⟨p, there, outer⟩ := checked.holds_iff.mp holds
  exact checked.holds_iff.mpr ⟨p, there, (inner.tail part).trans outer⟩

/-- All that stands in the content of a command or a socket is defined. -/
theorem covers_content {t : Descriptor} (ht : t ∈ d.contents) : r.definitions.Covers t := by
  intro y inner
  obtain ⟨p, hp, outer⟩ := contents_offered ht
  exact checked.holds_iff.mpr ⟨p, List.mem_append_right _ hp, inner.trans outer⟩

end Checked

end Registry

namespace TypeScript

/-- The definitions of an outline are those of the table, in their order. -/
theorem outline_definitions (made : outline r = .ok o) :
    o.definitions.map Declaration.name = (orderedDefinitions r.definitions).map Definition.name :=
  map_of_mapM_eq_ok (fun _ _ h => (definitionDeclaration_head h).1) (outline_eq_ok.mp made).1

theorem outline_commands (made : outline r = .ok o) :
    o.commands.map Declaration.name = r.commandList.map fun c => KeyCase.toClient c.name :=
  map_of_mapM_eq_ok (fun _ _ h => (commandDeclaration_head h).1) (outline_eq_ok.mp made).2.1

theorem outline_connectors (made : outline r = .ok o) :
    (o.sockets.map SocketDeclarations.connector).map Declaration.name =
      r.socketList.map fun s => KeyCase.toClient s.name := by
  rw [List.map_map]
  refine map_of_mapM_eq_ok (fun s made h => ?_) (outline_eq_ok.mp made).2.2
  rw [Function.comp_apply, (socketDeclarations_eq_ok.mp h).2.2]
  rfl

/-- The functions of a client are those of its commands and its sockets. -/
theorem outline_functions (made : outline r = .ok o) :
    o.declarations.filter Declaration.isFunction =
      o.commands ++ o.sockets.map SocketDeclarations.connector := by
  obtain ⟨definitions, commands, sockets⟩ := outline_eq_ok.mp made
  have none : o.definitions.filter Declaration.isFunction = [] := by
    refine List.filter_eq_nil_iff.mpr fun x there => ?_
    obtain ⟨y, -, h⟩ := exists_of_mem_mapM definitions there
    rw [(definitionDeclaration_head h).2]
    exact Bool.false_ne_true
  have all : o.commands.filter Declaration.isFunction = o.commands := by
    refine List.filter_eq_self.mpr fun x there => ?_
    obtain ⟨c, -, h⟩ := exists_of_mem_mapM commands there
    exact (commandDeclaration_head h).2
  have one : ∀ s ∈ o.sockets, s.toList.filter Declaration.isFunction = [s.connector] := by
    intro s there
    obtain ⟨h, -, made⟩ := exists_of_mem_mapM sockets there
    obtain ⟨server, client, connector⟩ := socketDeclarations_eq_ok.mp made
    have called : s.connector.isFunction = true := by rw [connector]; rfl
    simp [SocketDeclarations.toList, (eventsDeclaration_head server).2,
      (eventsDeclaration_head client).2, called]
  rw [Outline.declarations, List.filter_append, List.filter_append, none, all, List.nil_append,
    List.filter_flatMap, List.flatMap_congr one, List.map_eq_flatMap]

end TypeScript

namespace Registry

/-- A type that the client writes out: of a field, a parameter, a result, a payload or an event. -/
def Written (d : Declarations A) (r : Registry A) (t : Descriptor) : Prop :=
  (∃ x, r.definitions.Holds x ∧ t ∈ x.descriptor.children) ∨ t ∈ d.contents

/-- The client declares what it mentions, once and in order. -/
structure ClientOf (d : Declarations A) (r : Registry A) (o : Outline) : Prop where
  definitions : ∃ xs : List Definition, xs.Perm r.definitions.toList ∧
    xs.mapM (definitionDeclaration r.definitions) = .ok o.definitions
  definitions_distinct : (o.definitions.map Declaration.name).Nodup
  commands : r.commandList.Perm d.commands
  commands_sorted : (r.commandList.map Command.name).Pairwise (· < ·)
  sockets : r.socketList.Perm d.sockets
  sockets_sorted : (r.socketList.map SocketHandler.name).Pairwise (· < ·)
  functions : (o.declarations.filter Declaration.isFunction).map Declaration.name =
    r.commandList.map (fun c => KeyCase.toClient c.name) ++
      r.socketList.map fun s => KeyCase.toClient s.name
  /-- Every name that is written out is that of a declared definition. -/
  closed : ∀ t, Written d r t → ∀ name, t.Names writtenParts name →
    name ∈ o.definitions.map Declaration.name
  spelled : ∀ x ∈ o.definitions ++ o.commands ++
      o.sockets.flatMap (fun s => [s.serverEvents, s.clientEvents]),
    ∀ text ∈ x.types, Spelled (· ∈ o.definitions.map Declaration.name) text
  connected : ∀ s ∈ o.sockets, s.connector.types = [s.serverEvents.name, s.clientEvents.name]
  /-- What a definition mentions comes first, unless it leads back to it. -/
  ordered : ∀ x y, r.definitions.Holds x → r.definitions.Holds y → x.Mentions y.name →
    ¬TransGen r.definitions.Leads y.name x.name →
    [y.name, x.name].Sublist (o.definitions.map Declaration.name)

namespace Checked

variable (checked : Checked d r)

include checked

theorem written_contains {t : Descriptor} (written : Written d r t) {name : String}
    (h : t.Names writtenParts name) : r.definitions.contains name = true := by
  have deeper := h.mono fun _ _ => mem_children_of_writtenParts
  rcases written with ⟨x, holds, part⟩ | content
  · exact contains_of_names (checked.covers_field holds part) (checked.fields x holds t part) deeper
  · exact contains_of_names (checked.covers_content content)
      (contents_resolve checked.offered t content) deeper

/-- Each type in a declaration is spelled as a type that the client writes out. -/
theorem exists_written (made : outline r = .ok o) {x : Declaration}
    (there : x ∈ o.definitions ++ o.commands ++
      o.sockets.flatMap fun s => [s.serverEvents, s.clientEvents])
    {text : String} (typed : text ∈ x.types) :
    ∃ t, Written d r t ∧ Spelled (t.Names writtenParts) text := by
  obtain ⟨definitions, commands, sockets⟩ := outline_eq_ok.mp made
  rcases List.mem_append.mp there with there | there
  · rcases List.mem_append.mp there with there | there
    · obtain ⟨y, hy, h⟩ := exists_of_mem_mapM definitions there
      obtain ⟨c, part, spelled⟩ := definitionDeclaration_types h text typed
      exact ⟨c, .inl ⟨y, (mem_orderedDefinitions checked.own).mp hy, part⟩, spelled⟩
    · obtain ⟨c, hc, h⟩ := exists_of_mem_mapM commands there
      obtain ⟨t, ht, spelled⟩ := commandDeclaration_types h text typed
      refine ⟨t, .inr (List.mem_append_left _ ?_), spelled⟩
      exact List.mem_flatMap.mpr ⟨c, checked.mem_commands hc, ht⟩
  · obtain ⟨s, hs, there⟩ := List.mem_flatMap.mp there
    obtain ⟨h, hh, made⟩ := exists_of_mem_mapM sockets hs
    obtain ⟨server, client, -⟩ := socketDeclarations_eq_ok.mp made
    have event {e : String × Descriptor} (he : e ∈ h.serverEvents ++ h.clientEvents) :
        Written d r e.2 := by
      refine .inr (List.mem_append_right _ ?_)
      refine List.mem_flatMap.mpr ⟨h, checked.mem_sockets hh, ?_⟩
      simpa [SocketHandler.eventTypes, Function.comp_def] using List.mem_map_of_mem (f := Prod.snd) he
    simp only [List.mem_cons, List.not_mem_nil, or_false] at there
    rcases there with rfl | rfl
    · obtain ⟨e, he, spelled⟩ := eventsDeclaration_types server text typed
      exact ⟨e.2, event (List.mem_append_left _ he), spelled⟩
    · obtain ⟨e, he, spelled⟩ := eventsDeclaration_types client text typed
      exact ⟨e.2, event (List.mem_append_right _ he), spelled⟩

end Checked

/-- The client of a built registry is closed and its definitions are in order. -/
theorem client_closed_and_ordered {text : String} (built : build d = .ok r)
    (generated : generate r = .ok text) :
    ∃ o, outline r = .ok o ∧ o.text = text ∧ ClientOf d r o := by
  have checked := checked_of_build built
  rw [generate_eq_outline] at generated
  obtain ⟨o, made, written⟩ := Except.map_eq_ok.mp generated
  have names : o.definitions.map Declaration.name = ordered r.definitions :=
    (outline_definitions made).trans (orderedDefinitions_names checked.own)
  have declared {name : String} (h : r.definitions.contains name = true) :
      name ∈ o.definitions.map Declaration.name := by
    rw [names]
    exact mem_ordered h
  have distinct : d.names.Nodup := (build_eq_ok.mp built).1.1.1
  refine ⟨o, made, written, ?_⟩
  exact {
    definitions := ⟨_, orderedDefinitions_perm checked.distinct checked.own, (outline_eq_ok.mp made).1⟩
    definitions_distinct := names ▸ ordered_nodup r.definitions
    commands := checked.commandList_perm distinct
    commands_sorted := checked.commandList_sorted
    sockets := checked.socketList_perm distinct
    sockets_sorted := checked.socketList_sorted
    functions := by
      rw [outline_functions made, List.map_append, outline_commands made, outline_connectors made]
    closed := fun t written name h => declared (checked.written_contains written h)
    spelled := by
      intro x there text typed
      obtain ⟨t, written, spelled⟩ := checked.exists_written made there typed
      exact spelled.mono fun name h => declared (checked.written_contains written h)
    connected := by
      intro s there
      obtain ⟨h, -, made⟩ := exists_of_mem_mapM (outline_eq_ok.mp made).2.2 there
      obtain ⟨server, client, connector⟩ := socketDeclarations_eq_ok.mp made
      rw [connector, (eventsDeclaration_head server).1, (eventsDeclaration_head client).1]
      rfl
    ordered := by
      intro x y holds known mentions acyclic
      have leads : r.definitions.Leads x.name y.name := ⟨x, holds, mentions⟩
      rw [names]
      apply ordered_sorted leads (Option.isSome_iff_exists.mpr ⟨y, known⟩)
      intro back
      rcases reflTransGen_iff_eq_or_transGen.mp back with same | more
      · exact acyclic (.single (same ▸ leads))
      · exact acyclic more }

def gallery : Declarations Script.application where
  models := [.record "Photo" none [.required "album" (.reference "Album")]]
  commands := [{
    name := "open_album", kind := .unary
    params := [⟨"album", .record "Album" none [.required "cover" (.optional (.reference "Photo")),
      .required "kind" (.enum ⟨"Kind", ["private", "shared"], none⟩)], false⟩]
    returns := .null, doc := none, module := none
    handler := some (.unary .inline (Script.CallRun.start [])) }]
  sockets := [{
    name := "live", doc := none, module := none
    serverEvents := [("added", .reference "Photo")], clientEvents := []
    callbacks := [], onConnect := none, onDisconnect := none }]

theorem gallery_client : ∃ r text, build gallery = .ok r ∧ generate r = .ok text ∧
    ∃ o, outline r = .ok o ∧ o.text = text ∧ ClientOf gallery r o := by
  obtain ⟨r, built⟩ : ∃ r, build gallery = .ok r := ⟨_, rfl⟩
  obtain ⟨text, generated⟩ := (checked_of_build built).generates_of_streamless (by
    refine List.forall_mem_singleton.mpr ((streamPath?_eq_none "").mp ?_)
    rfl)
  exact ⟨r, text, built, generated, client_closed_and_ordered built generated⟩

end Registry
end CommandBridge
