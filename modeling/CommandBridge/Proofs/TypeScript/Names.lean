import CommandBridge.Proofs.Registry.Client
import CommandBridge.Proofs.Text.KeyCase

/-!
# The names at the top level of a client

A build keeps the names of commands and sockets apart as they are registered. The client has them
in other cases, beside the names of definitions and of what it imports, and some of these may
meet. Said here is which: the two event maps of a socket are apart from each other, from its
function and from all imports whatever the socket is called, and the rest is a matter of names.
-/

set_option autoImplicit false

namespace CommandBridge

open KeyCase Definitions TypeScript

variable {A : Application} {d : Declarations A} {r : Registry A} {o : Outline}

namespace TypeScript

def eventNames (s : SocketHandler A) : List String := [serverEventsName s, clientEventsName s]

/-- Texts with ends of one length are equal when both parts are. -/
theorem append_inj_of_length {a b p q : String} (length : p.toList.length = q.toList.length)
    (same : a ++ p = b ++ q) : a = b ∧ p = q := by
  have chars := congrArg String.toList same
  rw [String.toList_append, String.toList_append] at chars
  obtain ⟨front, back⟩ := List.append_inj' chars length
  exact ⟨String.toList_injective front, String.toList_injective back⟩

theorem serverEventsName_ne_clientEventsName (s s' : SocketHandler A) :
    serverEventsName s ≠ clientEventsName s' := by
  intro same
  have ends := (append_inj_of_length (by decide) same).2
  revert ends
  decide

theorem serverEventsName_inj {s s' : SocketHandler A} :
    serverEventsName s = serverEventsName s' ↔ toPascal s.name = toPascal s'.name :=
  ⟨fun same => (append_inj_of_length rfl same).1, fun same => by rw [serverEventsName, same]; rfl⟩

theorem clientEventsName_inj {s s' : SocketHandler A} :
    clientEventsName s = clientEventsName s' ↔ toPascal s.name = toPascal s'.name :=
  ⟨fun same => (append_inj_of_length rfl same).1, fun same => by rw [clientEventsName, same]; rfl⟩

theorem eventNames_not_imported (s : SocketHandler A) : ∀ n ∈ eventNames s, n ∉ importedNames := by
  have ends : ∀ i ∈ importedNames, ¬"Events".toList <:+ i.toList := by decide
  intro n there imported
  refine ends n imported ?_
  simp only [eventNames, List.mem_cons, List.not_mem_nil, or_false] at there
  rcases there with rfl | rfl
  · exact ⟨(toPascal s.name ++ "Server").toList, by simp [serverEventsName, String.toList_append]⟩
  · exact ⟨(toPascal s.name ++ "Client").toList, by simp [clientEventsName, String.toList_append]⟩

theorem toClient_not_mem_eventNames (s : SocketHandler A) : toClient s.name ∉ eventNames s := by
  simp only [eventNames, List.mem_cons, List.not_mem_nil, or_false, not_or]
  exact ⟨toClient_ne_toPascal_append s.name (by decide), toClient_ne_toPascal_append s.name (by decide)⟩

/-- Two sockets have event maps of different names when their Pascal cases differ. -/
theorem disjoint_eventNames {s s' : SocketHandler A} :
    (eventNames s).Disjoint (eventNames s') ↔ toPascal s.name ≠ toPascal s'.name := by
  simp [eventNames, serverEventsName_inj, clientEventsName_inj,
    (serverEventsName_ne_clientEventsName _ _).symm, eq_comm]

theorem nodup_eventNames {sockets : List (SocketHandler A)} :
    (sockets.flatMap eventNames).Nodup ↔ (sockets.map fun s => toPascal s.name).Nodup := by
  have each : ∀ s ∈ sockets, (eventNames s).Nodup := fun s _ => by
    simp [eventNames, serverEventsName_ne_clientEventsName]
  rw [List.nodup_flatMap, and_iff_right each, List.Nodup, List.pairwise_map]
  exact List.Pairwise.iff fun _ _ => disjoint_eventNames

/-- The declarations of a socket have the names of its event maps and of its function. -/
theorem socketDeclarations_names {table : Definitions} {s : SocketHandler A}
    {made : SocketDeclarations} (h : socketDeclarations table s = .ok made) :
    made.toList.map Declaration.name = eventNames s ++ [toClient s.name] := by
  obtain ⟨server, client, connector⟩ := socketDeclarations_eq_ok.mp h
  rw [SocketDeclarations.toList, connector]
  simp only [List.map_cons, (eventsDeclaration_head server).1, (eventsDeclaration_head client).1]
  rfl

theorem outline_sockets_perm (made : outline r = .ok o) :
    ((o.sockets.flatMap SocketDeclarations.toList).map Declaration.name).Perm
      ((r.socketList.map SocketHandler.name).map toClient ++ r.socketList.flatMap eventNames) := by
  have each := map_of_mapM_eq_ok (fun _ _ => socketDeclarations_names) (outline_eq_ok.mp made).2.2
  have split := List.flatMap_append_perm r.socketList eventNames fun s => [toClient s.name]
  rw [List.map_flatMap, List.flatMap_def, each, ← List.flatMap_def, List.map_map]
  rw [← List.map_eq_flatMap] at split
  exact split.symm.trans List.perm_append_comm

end TypeScript

namespace Registry

/-- The names of a client are those it imports, those of the definitions, those of commands and
sockets in client case, and those of the event maps. -/
theorem Checked.names_perm (checked : Checked d r) (distinct : d.names.Nodup)
    (made : outline r = .ok o) :
    o.names.Perm (importedNames ++ (r.definitions.names ++
      (d.names.map toClient ++ d.sockets.flatMap eventNames))) := by
  have commands := checked.commandList_perm distinct
  have sockets := checked.socketList_perm distinct
  have definitions : (o.definitions.map Declaration.name).Perm r.definitions.names := by
    rw [outline_definitions made, ← toList_names checked.distinct checked.own]
    exact (orderedDefinitions_perm checked.distinct checked.own).map Definition.name
  have functions : (o.commands.map Declaration.name).Perm ((d.commands.map Command.name).map toClient) := by
    rw [outline_commands made, List.map_map]
    exact commands.map _
  have served := (outline_sockets_perm made).trans
    (((sockets.map SocketHandler.name).map toClient).append (sockets.flatMap_right eventNames))
  rw [Outline.names, Outline.declarations, List.map_append, List.map_append, List.append_assoc,
    Declarations.names, List.map_append, List.append_assoc]
  exact (definitions.append (functions.append served)).append_left importedNames

/-- The names that a build leaves to be apart, and which then are. -/
structure NamesApart (d : Declarations A) (r : Registry A) : Prop where
  functions : (d.names.map toClient).Nodup
  sockets : (d.sockets.map fun s => toPascal s.name).Nodup
  /-- No definition has the name of an import, of a function or of an event map. -/
  definitions : ∀ n ∈ r.definitions.names, n ∉ importedNames ∧ (∀ m ∈ d.names, n ≠ toClient m) ∧
    ∀ s ∈ d.sockets, n ∉ eventNames s
  /-- No function has the name of an import, nor of an event map of another. -/
  imported : ∀ m ∈ d.names, toClient m ∉ importedNames
  events : ∀ m ∈ d.names, ∀ s ∈ d.sockets, m ≠ s.name → toClient m ∉ eventNames s

/-- The names of four kinds are distinct when those of each kind are and no two kinds meet. Event
maps meet no import, and no function of their own socket. -/
theorem nodup_kinds_iff (definitions : r.definitions.names.Nodup) :
    (importedNames ++ (r.definitions.names ++
      (d.names.map toClient ++ d.sockets.flatMap eventNames))).Nodup ↔ NamesApart d r := by
  have imports : importedNames.Nodup := by decide
  simp only [List.nodup_append, nodup_eventNames, List.mem_append, List.mem_map, List.mem_flatMap]
  constructor
  · rintro ⟨-, ⟨-, ⟨functions, sockets, called⟩, defined⟩, imported⟩
    refine ⟨functions, sockets, fun n hn => ⟨?_, ?_, ?_⟩, ?_, ?_⟩
    · exact fun there => imported n there n (.inl hn) rfl
    · exact fun m hm => defined n hn _ (.inl ⟨m, hm, rfl⟩)
    · exact fun s hs there => defined n hn n (.inr ⟨s, hs, there⟩) rfl
    · exact fun m hm there => imported _ there _ (.inr (.inl ⟨m, hm, rfl⟩)) rfl
    · exact fun m hm s hs _ there => called _ ⟨m, hm, rfl⟩ _ ⟨s, hs, there⟩ rfl
  · rintro ⟨functions, sockets, defined, imported, events⟩
    refine ⟨imports, ⟨definitions, ⟨functions, sockets, ?_⟩, ?_⟩, ?_⟩
    · rintro _ ⟨m, hm, rfl⟩ n ⟨s, hs, there⟩ rfl
      by_cases own : m = s.name
      · exact toClient_not_mem_eventNames s (own ▸ there)
      · exact events m hm s hs own there
    · rintro n hn _ (⟨m, hm, rfl⟩ | ⟨s, hs, there⟩)
      · exact (defined n hn).2.1 m hm
      · rintro rfl
        exact (defined n hn).2.2 s hs there
    · rintro i hi _ (hn | ⟨m, hm, rfl⟩ | ⟨s, hs, there⟩) rfl
      · exact (defined i hn).1 hi
      · exact imported m hm hi
      · exact eventNames_not_imported s i there hi

/-- The top-level names of the client of a built registry are distinct exactly when the names of
its commands, sockets and definitions are apart as the client has them. -/
theorem client_names_nodup_iff {text : String} (built : build d = .ok r)
    (generated : generate r = .ok text) :
    ∃ o, outline r = .ok o ∧ o.text = text ∧ (o.names.Nodup ↔ NamesApart d r) := by
  have checked := checked_of_build built
  rw [generate_eq_outline] at generated
  obtain ⟨o, made, written⟩ := Except.map_eq_ok.mp generated
  refine ⟨o, made, written, ?_⟩
  rw [(checked.names_perm (build_eq_ok.mp built).1.1.1 made).nodup_iff]
  exact nodup_kinds_iff checked.distinct

theorem roster_names : ∃ r text, build roster = .ok r ∧ generate r = .ok text ∧
    ∃ o, outline r = .ok o ∧ o.text = text ∧ (o.names.Nodup ↔ NamesApart roster r) := by
  obtain ⟨r, built⟩ : ∃ r, build roster = .ok r := ⟨_, rfl⟩
  obtain ⟨text, generated⟩ := (checked_of_build built).generates_of_streamless nofun
  exact ⟨r, text, built, generated, client_names_nodup_iff built generated⟩

def plainCommand (name : String) : Command Script.application where
  name := name
  kind := .unary
  params := []
  returns := .null
  doc := none
  module := none
  handler := some (.unary .inline (Script.CallRun.start []))

def namesakes : Declarations Script.application where
  models := []
  commands := [plainCommand "get_user", plainCommand "getUser"]
  sockets := []

theorem namesakes_clash : ∃ r text o, build namesakes = .ok r ∧ generate r = .ok text ∧
    outline r = .ok o ∧ o.text = text ∧ ¬o.names.Nodup := by
  obtain ⟨r, built⟩ : ∃ r, build namesakes = .ok r := ⟨_, rfl⟩
  have checked := checked_of_build built
  obtain ⟨text, generated⟩ := checked.generates_of_streamless nofun
  have drawn := generated
  rw [generate_eq_outline] at drawn
  obtain ⟨o, made, written⟩ := Except.map_eq_ok.mp drawn
  refine ⟨r, text, o, built, generated, made, written, fun distinct => ?_⟩
  have kinds := (checked.names_perm (build_eq_ok.mp built).1.1.1 made).nodup_iff.mp distinct
  have functions := ((nodup_kinds_iff checked.distinct).mp kinds).functions
  revert functions
  decide

end Registry
end CommandBridge
